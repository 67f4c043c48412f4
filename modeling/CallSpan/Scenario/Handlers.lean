import CallSpan.Scenario.Hooks
import CallSpan.Serve

/-!
# Scripted handlers

Handlers that take given steps and then end in a given way. A unary handler acts
on the span of its context and looks at the context; a stream handler works on
its stream, from both ends, and may wrap it on the way. Every step that can fail
ends the handler with its failure unless the failure is caught.

* `UnaryScript.typed`, `UnaryScript.untyped`  — unary handlers.
* `StreamScript.handler`                      — stream handlers.
-/

namespace CallSpan.Scenario

variable {m : Mode}

/-! ## Steps of handlers -/

def handlerNote (n : Note) : Program (handlerOps m) Unit :=
  Program.op (S := handlerOps m) (.span (.hook (.note n)))

def handlerSpanStep (cx : Context) (s : SpanStep) : Program (handlerOps m) Unit :=
  (s.take cx).lift (Program.spanToHandler m)

/-- How a handler ends. -/
inductive Ending (α : Type) where
  | panic (message : String)
  | pending
  | fail (status : Status)
  /-- Answers what it was given. -/
  | echo
  /-- Answers a value, if the one that was to be answered is one. -/
  | answer (value : Option α)

/-- The error for an answer that is not of the kind that the handler answers. -/
def misfit : Status := .plain .unknown "driver: return value does not fit"

def fitting {α : Type} : Option α → Result α
  | some a => .ok a
  | none => .error misfit

/-- Ends a handler that was given something. -/
def Ending.reach {α : Type} (given : Option α) : Ending α → Program (handlerOps m) (Result α)
  | panic message => .perform (.span (.hook (.panic message))) fun e => nomatch e
  | pending => .perform .wait fun e => nomatch e
  | fail status => .done (.error status)
  | echo => .done (fitting given)
  | answer value => .done (fitting value)

/-! ## Unary handlers -/

inductive UnaryStep where
  | span (s : SpanStep)
  | observe

def UnaryStep.take (cx : Context) : UnaryStep → Program (handlerOps .unary) Unit
  | span s => handlerSpanStep cx s
  | observe => handlerNote (.observed cx)

def takeUnarySteps (cx : Context) : List UnaryStep → Program (handlerOps .unary) Unit
  | [] => .done ()
  | s :: ss => (s.take cx).bind fun _ => takeUnarySteps cx ss

/-- A value as one of another kind: the kinds of the two counters may stand for each
other, and otherwise a kind stands for itself alone. -/
def readAs {k : Kind} (v : Value k) (k' : Kind) : Option (Value k') :=
  match k', v with
  | .pong, .ping seq => some (.pong seq)
  | .ping, .pong seq => some (.ping seq)
  | k', v => v.cast? k'

structure UnaryScript (α : Type) where
  steps : List UnaryStep
  ending : Ending α

/-- A typed handler: its request is answered as a value of the other kind. -/
def UnaryScript.typed {req resp : Kind} (s : UnaryScript (Value resp)) : TypedHandler req resp :=
  fun cx v => do
    handlerNote (.handledValue v)
    takeUnarySteps cx s.steps
    s.ending.reach (readAs v resp)

/-- A handler of messages of any kind. -/
def UnaryScript.untyped (s : UnaryScript Message) : Handler .unary := fun r => do
  handlerNote (.handledMessage r.message)
  takeUnarySteps r.context s.steps
  s.ending.reach (some r.message)

/-! ## Stream handlers -/

inductive StreamStep where
  | span (s : SpanStep)
  | observe
  | snapshot
  | drain
  | close
  | receive (caught : Bool)
  | receiveAll (caught : Bool)
  | echoAll (caught : Bool)
  | send (message : Message) (caught : Bool)
  | setHeader (metadata : Metadata) (caught : Bool)
  | sendHeader (metadata : Metadata) (caught : Bool)
  | setTrailer (metadata : Metadata)
  | wrap (cx : Context) (steps : List StreamStep)
  | unwrap

/-- A program of a stream handler. -/
abbrev StreamProgram (α : Type) := Program (handlerOps .streaming) α

def onStream (s : ServerStream) (o : StreamOp) : StreamProgram o.Answer :=
  Program.op (S := handlerOps .streaming) (.client (.onServer s o))

def asClient (o : ClientOp) : StreamProgram o.Answer :=
  Program.op (S := handlerOps .streaming) (.client (.onClient o))

/-- Notes how a step came out, and goes on unless it failed and the failure is not
caught. -/
def noteStep (name : String) (caught : Bool) (s : ServerStream) (result : Result Unit) :
    StreamProgram (Result ServerStream) := do
  handlerNote (.stepped name result)
  match result with
  | .ok _ => .done (.ok s)
  | .error status => if caught then .done (.ok s) else .done (.error status)

/-- What an echoed message is: a ping is answered by a pong. -/
def echoed : Message → Message
  | ⟨_, .ping seq⟩ => Message.of (.pong seq)
  | msg => msg

/-- Receives at most `bound` messages until the end, noting each, and sends each back if
asked to. Stops at the first failure. -/
def receiveUntilEnd (s : ServerStream) (sendBack : Bool) : Nat → StreamProgram (Result Unit)
  | 0 => .done (.ok ())
  | bound + 1 => do
    let item ← onStream s .receive
    match item with
    | .error status => .done (.error status)
    | .ok none => .done (.ok ())
    | .ok (some msg) =>
      handlerNote (.received (some msg))
      if sendBack then
        let sent ← onStream s (.send (echoed msg))
        match sent with
        | .error status => .done (.error status)
        | .ok _ => receiveUntilEnd s sendBack bound
      else receiveUntilEnd s sendBack bound

mutual

/-- Takes a step on a stream, and gives the stream to go on with. -/
def StreamStep.take (bound : Nat) (s : ServerStream) :
    StreamStep → StreamProgram (Result ServerStream)
  | .span step => do
    handlerSpanStep s.context step
    .done (.ok s)
  | .observe => do
    handlerNote (.observed s.context)
    .done (.ok s)
  | .snapshot => do
    let response ← asClient .snapshot
    handlerNote (.snapshot response)
    .done (.ok s)
  | .drain => do
    let items ← asClient .drain
    handlerNote (.drained items)
    .done (.ok s)
  | .close => do
    asClient .close
    .done (.ok s)
  | .receive caught => do
    let item ← onStream s .receive
    match item with
    | .ok msg =>
      handlerNote (.received msg)
      .done (.ok s)
    | .error status => noteStep "recv" caught s (.error status)
  | .receiveAll caught => do
    let result ← receiveUntilEnd s false bound
    noteStep "recv_all" caught s result
  | .echoAll caught => do
    let result ← receiveUntilEnd s true bound
    noteStep "echo_all" caught s result
  | .send msg caught => do
    let result ← onStream s (.send msg)
    noteStep "send" caught s result
  | .setHeader md caught => do
    let result ← onStream s (.setHeader md)
    noteStep "set_header" caught s result
  | .sendHeader md caught => do
    let result ← onStream s (.sendHeader md)
    noteStep "send_header" caught s result
  | .setTrailer md => do
    onStream s (.setTrailer md)
    noteStep "set_trailer" false s (.ok ())
  | .wrap cx steps => do
    handlerNote (.wrapped cx s.context)
    takeStreamSteps bound (.wrapped s cx) steps
  | .unwrap => do
    let outer := ServerStream.wrapped s ∅
    handlerNote (.unwrapped outer.context outer.inner.context)
    .done (.ok outer.inner)

/-- Takes steps in order, up to the first failure that is not caught. -/
def takeStreamSteps (bound : Nat) (s : ServerStream) :
    List StreamStep → StreamProgram (Result ServerStream)
  | [] => .done (.ok s)
  | step :: steps => do
    let result ← step.take bound s
    match result with
    | .ok s' => takeStreamSteps bound s' steps
    | .error status => .done (.error status)

end

structure StreamScript where
  steps : List StreamStep
  ending : Ending Unit

/-- A stream handler, for a stream from which at most `bound` items can be received. It has
nothing to answer, so an echo is a success. -/
def StreamScript.handler (sc : StreamScript) (bound : Nat) : Handler .streaming := fun s => do
  handlerNote .handledStream
  let result ← takeStreamSteps (bound + 1) s sc.steps
  match result with
  | .error status => .done (.error status)
  | .ok _ => sc.ending.reach (some ())

end CallSpan.Scenario
