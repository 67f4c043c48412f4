import CallSpan.Context
import CallSpan.Payload
import CallSpan.Status

/-!
# The log

Everything that can be observed of a call while it runs goes into one ordered
**log**: what is done to spans, **reports** for operators, and **notes** that
handlers, hooks and layers leave about what they see.

Spans are numbered in the order in which they start. An **action** on a span is
logged with its author, and also after the span has ended; a span is *recording*
until its first end.

* `Entry`       — what a log holds.
* `Recorder`    — a log with the number of spans started so far.
-/

namespace CallSpan

/-! ## Spans -/

/-- The value of an attribute. -/
inductive AttributeValue where
  | flag (b : Bool)
  | integer (n : Int64)
  | text (s : String)
  deriving DecidableEq

abbrev Attribute := String × AttributeValue

/-- How the work of a span came out. -/
inductive SpanStatus where
  | unset
  | ok
  | error (message : String)
  deriving DecidableEq

/-- What can be done to a span. -/
inductive SpanAction where
  | setAttribute (a : Attribute)
  | addEvent (name : String) (attributes : List Attribute)
  | setStatus (status : SpanStatus)
  | rename (name : String)
  | finish
  deriving DecidableEq

/-- Who acts on a span: the layer that started it, or what users of the library write. -/
inductive Author where
  | layer
  | user
  deriving DecidableEq

/-- What a span is started with. -/
structure SpanStart where
  name : String
  isServer : Bool
  attributes : List Attribute
  parent : Option SpanContext
  deriving DecidableEq

/-! ## Reports -/

/-- How urgent a report is. -/
inductive Level where
  | trace
  | debug
  | info
  | warn
  deriving DecidableEq

structure Report where
  level : Level
  fields : List (String × String)
  deriving DecidableEq

/-- The fields in the order of their names, and of their texts under one name. -/
def Report.sortedFields (r : Report) : List (String × String) :=
  r.fields.mergeSort fun a b => decide (a.1 < b.1) || (a.1 == b.1 && !decide (b.2 < a.2))

/-! ## Notes -/

/-- What a finished call answers. -/
abbrev Result (α : Type) := Except Status α

/-- The metadata of the response to a stream. -/
structure Response where
  header : Metadata
  trailer : Metadata
  /-- Whether the header can no longer change. -/
  headerSent : Bool
  deriving DecidableEq

/-- What a predicate is asked about: the parent of a call, its method, and its request
and response where there are any. -/
structure Inquiry where
  parent : Option SpanContext
  method : String
  request : Option Message
  response : Option Message

/-- What a decorator is told when the call within a span has returned. -/
structure Decoration where
  context : Context
  method : String
  request : Option Message
  response : Option Message
  error : Option Status

/-- What handlers, hooks and layers write down. -/
inductive Note where
  | asked (inquiry : Inquiry)
  /-- A decorator was called, for a span that was recording or not. -/
  | decorated (name : Option String) (decoration : Decoration) (recording : Bool)
  | entered (name : Option String) (method : String) (cx : Context)
  | left (name : Option String) (code : Code)
  | handledMessage (request : Message)
  | handledValue {k : Kind} (request : Value k)
  | handledStream
  | observed (cx : Context)
  | recording (value : Bool)
  | snapshot (response : Response)
  | drained (items : List Message)
  | received (message : Option Message)
  | stepped (name : String) (result : Result Unit)
  | wrapped (new old : Context)
  | unwrapped (outer inner : Context)

/-- What a log holds. -/
inductive Entry where
  | started (span : Nat) (start : SpanStart)
  | acted (author : Author) (span : Nat) (action : SpanAction)
  | reported (report : Report)
  | noted (note : Note)

/-- Whether an entry is the end of a span. -/
def Entry.isEndOf (span : Nat) : Entry → Bool
  | .acted _ n .finish => n == span
  | _ => false

/-! ## Recording -/

/-- A log, and how many spans have been started. -/
structure Recorder where
  log : List Entry
  spans : Nat

namespace Recorder

def empty : Recorder := ⟨[], 0⟩

instance : EmptyCollection Recorder := ⟨empty⟩
instance : Inhabited Recorder := ⟨empty⟩

def push (r : Recorder) (e : Entry) : Recorder :=
  { r with log := r.log ++ [e] }

/-- The span context of the span with a number: it continues the trace, flags and state of
its parent, or begins the trace with its own number, sampled. -/
def contextOf (number : Nat) (parent : Option SpanContext) : SpanContext :=
  match parent with
  | some sc => ⟨sc.traceId, BitVec.ofNat 64 number, sc.flags, false, sc.state⟩
  | none => ⟨BitVec.ofNat 128 number, BitVec.ofNat 64 number, 1, false, ∅⟩

def start (r : Recorder) (s : SpanStart) : ActiveSpan × Recorder :=
  let number := r.spans + 1
  (.started number (contextOf number s.parent),
    ⟨r.log ++ [.started number s], number⟩)

/-- Whether a span has not been ended. -/
def isRecording (r : Recorder) (span : Nat) : Bool :=
  !r.log.any (Entry.isEndOf span)

/-- Acts on the active span of a context, if it was started here. -/
def act (r : Recorder) (author : Author) (cx : Context) (a : SpanAction) : Recorder :=
  match cx.spanNumber? with
  | some n => r.push (.acted author n a)
  | none => r

/-- Acts on the active span of a context several times, in order. -/
def actAll (r : Recorder) (author : Author) (cx : Context) (actions : List SpanAction) :
    Recorder :=
  actions.foldl (fun acc a => acc.act author cx a) r

end Recorder

end CallSpan
