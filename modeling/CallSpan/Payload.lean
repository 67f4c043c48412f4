import CallSpan.Text.Display

/-!
# Payloads

The layers around a handler pass on requests and responses without knowing what
they hold. A **value** has one of seven kinds; a **message** is a value whose
kind is known only when it is asked for. A message may itself be the value of a
message, and then its kind is that of messages, whatever it holds within.

* `Kind.typeName_injective` — the name that errors give tells the kind.
* `Message.is`        — whether a message holds a value of a kind.
* `Message.value?`    — the value, if it is of a kind.
* `Message.display`   — what is shown of a message.
-/

namespace CallSpan

open Text

/-- A named collection that may hold another one. -/
inductive Blob where
  | mk (name : String) (items : List Int64) (note : Option String) (inner : Option Blob)

/-- What a value can be. -/
inductive Kind where
  | ping
  | pong
  | text
  | number
  | unit
  | blob
  | message
  deriving DecidableEq

/-- The values of each kind. -/
inductive Value : Kind → Type where
  | ping (seq : UInt32) : Value .ping
  | pong (seq : UInt32) : Value .pong
  | text (s : String) : Value .text
  | number (n : UInt64) : Value .number
  | unit : Value .unit
  | blob (b : Blob) : Value .blob
  | message {k : Kind} (v : Value k) : Value .message

/-- A value of some kind. -/
structure Message where
  kind : Kind
  value : Value kind

namespace Kind

/-- The name of a kind, as errors give it. -/
def typeName : Kind → String
  | ping => "driver::payload::Ping"
  | pong => "driver::payload::Pong"
  | text => "alloc::string::String"
  | number => "u64"
  | unit => "()"
  | blob => "driver::payload::Blob"
  | message => "flare_otgrpc::message::Message"

/-- No two kinds have the same name. -/
theorem typeName_injective {k k' : Kind} (h : k.typeName = k'.typeName) : k = k' := by
  revert h
  cases k <;> cases k' <;> decide

end Kind

namespace Value

/-- The value as one of another kind, if the kinds are the same. -/
def cast? {k : Kind} (v : Value k) (k' : Kind) : Option (Value k') :=
  if h : k = k' then some (h ▸ v) else none

end Value

mutual

def Blob.display : Blob → Display
  | .mk name items note inner =>
    .record "Blob"
      [("name", .ofText name), ("items", .list (items.map fun i => .ofInt i.toInt)),
        ("note", .ofOption (note.map .ofText)), ("inner", .ofOption (Blob.displayInner inner))]
      false

def Blob.displayInner : Option Blob → Option Display
  | none => none
  | some b => some b.display

end

/-- What is shown of a value. A message shows what it holds. -/
def Value.display {k : Kind} : Value k → Display
  | .ping seq => .record "Ping" [("seq", .ofInt seq.toNat)] false
  | .pong seq => .record "Pong" [("seq", .ofInt seq.toNat)] false
  | .text s => .ofText s
  | .number n => .ofInt n.toNat
  | .unit => .atom "()"
  | .blob b => b.display
  | .message v => v.display

namespace Message

def of {k : Kind} (v : Value k) : Message := ⟨k, v⟩

/-- Whether a message holds a value of a kind. -/
def is (m : Message) (k : Kind) : Bool := m.kind = k

/-- The value of a message, if it is of a kind. -/
def value? (m : Message) (k : Kind) : Option (Value k) := m.value.cast? k

def display (m : Message) : Display := m.value.display

/-- The message as a value. -/
def asValue (m : Message) : Value .message := .message m.value

end Message

end CallSpan
