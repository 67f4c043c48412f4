import CallSpan.Stream

/-!
# Unary and streaming calls

Calls are of two **modes**. A *unary* call has one request and is answered by one
response; a *streaming* call works on a stream and answers nothing more. Each mode
has its **subject**, which is what goes down through the layers and has a context,
its **reply**, its **description**, and what it shares with the client.

* `Mode.contextOf`  — the context of a subject.
* `Mode.rebase`     — a subject with another context: a wrapped stream for a
  streaming call.
-/

namespace CallSpan

open Text

/-- What a call is like. -/
inductive Mode where
  | unary
  | streaming
  deriving DecidableEq

/-- The request of a unary call, with its context. -/
structure UnaryRequest where
  context : Context
  message : Message

/-- The description of a unary call. -/
structure UnaryInfo where
  fullMethod : String
  deriving DecidableEq

/-- The description of a streaming call. -/
structure StreamInfo where
  fullMethod : String
  clientStream : Bool
  serverStream : Bool
  deriving DecidableEq

namespace UnaryInfo

def display (i : UnaryInfo) : Display :=
  .record "UnaryServerInfo" [("full_method", .ofText i.fullMethod)] false

end UnaryInfo

namespace StreamInfo

def bidirectional (method : String) : StreamInfo := ⟨method, true, true⟩

def clientStreaming (method : String) : StreamInfo := ⟨method, true, false⟩

def serverStreaming (method : String) : StreamInfo := ⟨method, false, true⟩

def display (i : StreamInfo) : Display :=
  .record "StreamServerInfo"
    [("full_method", .ofText i.fullMethod), ("is_client_stream", .ofBool i.clientStream),
      ("is_server_stream", .ofBool i.serverStream)]
    false

end StreamInfo

/-- What is done with a stream, from either side. -/
inductive StreamCall where
  | onServer (stream : ServerStream) (op : StreamOp)
  | onClient (op : ClientOp)

def StreamCall.Answer : StreamCall → Type
  | onServer _ op => op.Answer
  | onClient op => op.Answer

namespace Mode

/-- What goes down through the layers. -/
@[reducible] def Subject : Mode → Type
  | unary => UnaryRequest
  | streaming => ServerStream

/-- What comes back when a call succeeds. -/
@[reducible] def Reply : Mode → Type
  | unary => Message
  | streaming => Unit

/-- The description of a call. -/
@[reducible] def Info : Mode → Type
  | unary => UnaryInfo
  | streaming => StreamInfo

/-- What a call shares with its client. -/
@[reducible] def Client : Mode → Type
  | unary => Unit
  | streaming => Channel

/-- What can be done with the client: nothing while a unary call runs. -/
@[reducible] def ClientCall : Mode → Type
  | unary => Empty
  | streaming => StreamCall

@[reducible] def ClientAnswer : (m : Mode) → m.ClientCall → Type
  | unary, o => nomatch o
  | streaming, o => o.Answer

variable {m : Mode}

def contextOf : {m : Mode} → m.Subject → Context
  | unary, r => r.context
  | streaming, s => s.context

def rebase (cx : Context) : {m : Mode} → m.Subject → m.Subject
  | unary, r => ⟨cx, r.message⟩
  | streaming, s => .wrapped s cx

def request? : {m : Mode} → m.Subject → Option Message
  | unary, r => some r.message
  | streaming, _ => none

def response? : {m : Mode} → m.Reply → Option Message
  | unary, msg => some msg
  | streaming, _ => none

/-- The full name of the method that is called. -/
def methodOf : {m : Mode} → m.Info → String
  | unary, i => i.fullMethod
  | streaming, i => i.fullMethod

/-- What is reported of a call that is not traced. -/
def exclusionText : Mode → String
  | unary => "call excluded from tracing"
  | streaming => "stream excluded from tracing"

def performClient : {m : Mode} → (o : m.ClientCall) → Call m.Client (m.ClientAnswer o)
  | unary, o => nomatch o
  | streaming, .onServer s op => Call.onClient (s.perform op)
  | streaming, .onClient op => Call.onClient fun c =>
    let (answer, c') := Channel.serve op c
    (.returned answer, c')

/-- Nothing is logged of what is done with the client. -/
theorem recorder_performClient (o : m.ClientCall) (w : World m.Client) :
    (performClient o w).2.recorder = w.recorder := by
  cases m with
  | unary => exact nomatch o
  | streaming => cases o <;> rfl

@[simp] theorem contextOf_rebase (cx : Context) (s : m.Subject) :
    contextOf (rebase cx s) = cx := by
  cases m <;> rfl

@[simp] theorem request?_rebase (cx : Context) (s : m.Subject) :
    request? (rebase cx s) = request? s := by
  cases m <;> rfl

end Mode

end CallSpan
