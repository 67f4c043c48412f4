import CallSpan.Metadata.Basic

/-!
# The status of a call

A call that fails answers a **status**: one of seventeen **codes**, a message,
details and metadata. Codes fall into three classes: success, an error of the
client, and an error of the server.

* `Code.ofNumber` — the code of a number, `unknown` for a number without one.
* `Code.errorClass` — the class of a code.
* `Code.name_injective` — no two codes have the same name.
-/

namespace CallSpan

/-- Why a call failed, or that it did not. -/
inductive Code where
  | ok
  | cancelled
  | unknown
  | invalidArgument
  | deadlineExceeded
  | notFound
  | alreadyExists
  | permissionDenied
  | resourceExhausted
  | failedPrecondition
  | aborted
  | outOfRange
  | unimplemented
  | internal
  | unavailable
  | dataLoss
  | unauthenticated
  deriving DecidableEq

/-- How a failure counts. -/
inductive ErrorClass where
  | success
  | clientError
  | serverError
  deriving DecidableEq

namespace Code

def number : Code → Nat
  | ok => 0
  | cancelled => 1
  | unknown => 2
  | invalidArgument => 3
  | deadlineExceeded => 4
  | notFound => 5
  | alreadyExists => 6
  | permissionDenied => 7
  | resourceExhausted => 8
  | failedPrecondition => 9
  | aborted => 10
  | outOfRange => 11
  | unimplemented => 12
  | internal => 13
  | unavailable => 14
  | dataLoss => 15
  | unauthenticated => 16

def all : List Code :=
  [ok, cancelled, unknown, invalidArgument, deadlineExceeded, notFound, alreadyExists,
    permissionDenied, resourceExhausted, failedPrecondition, aborted, outOfRange,
    unimplemented, internal, unavailable, dataLoss, unauthenticated]

/-- The code of a number. A number without a code is unknown. -/
def ofNumber (n : Nat) : Code :=
  (all[n]?).getD unknown

def name : Code → String
  | ok => "Ok"
  | cancelled => "Cancelled"
  | unknown => "Unknown"
  | invalidArgument => "InvalidArgument"
  | deadlineExceeded => "DeadlineExceeded"
  | notFound => "NotFound"
  | alreadyExists => "AlreadyExists"
  | permissionDenied => "PermissionDenied"
  | resourceExhausted => "ResourceExhausted"
  | failedPrecondition => "FailedPrecondition"
  | aborted => "Aborted"
  | outOfRange => "OutOfRange"
  | unimplemented => "Unimplemented"
  | internal => "Internal"
  | unavailable => "Unavailable"
  | dataLoss => "DataLoss"
  | unauthenticated => "Unauthenticated"

/-- The class of a code. -/
def errorClass : Code → ErrorClass
  | ok => .success
  | cancelled | invalidArgument | notFound | alreadyExists | permissionDenied
  | unauthenticated | failedPrecondition | outOfRange => .clientError
  | unknown | deadlineExceeded | resourceExhausted | aborted | unimplemented | internal
  | unavailable | dataLoss => .serverError

/-- A code is that of its number. -/
@[simp] theorem ofNumber_number (c : Code) : ofNumber c.number = c := by
  cases c <;> rfl

/-- No two codes have the same name. -/
theorem name_injective {c c' : Code} (h : c.name = c'.name) : c = c' := by
  revert h
  cases c <;> cases c' <;> decide

end Code

namespace ErrorClass

def name : ErrorClass → String
  | success => "Success"
  | clientError => "ClientError"
  | serverError => "ServerError"

/-- The class as spans are tagged with it. -/
def label : ErrorClass → String
  | success => "2xx"
  | clientError => "4xx"
  | serverError => "5xx"

end ErrorClass

/-- What a failed call answers. -/
structure Status where
  code : Code
  message : String
  details : List UInt8
  metadata : Metadata
  deriving DecidableEq

namespace Status

/-- A status with a message and nothing else. -/
def plain (code : Code) (message : String) : Status := ⟨code, message, [], ∅⟩

def internal (message : String) : Status := plain .internal message

end Status

end CallSpan
