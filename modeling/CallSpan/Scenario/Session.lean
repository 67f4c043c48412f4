import CallSpan.Scenario.Handlers

/-!
# Sessions

A **session** serves calls one after the other with one interceptor and one
recorder. Of each call it tells the outcome, what the call added to the log, and
for a streaming call what is left of the channel. Spans are numbered through the
whole session, and a span that an earlier call ended stays ended.

* `serveAll`  — serves calls in order.
-/

namespace CallSpan.Scenario

variable {m : Mode}

/-- What became of a call. -/
structure Served (m : Mode) where
  outcome : Outcome (Result m.Reply)
  log : List Entry
  client : m.Client

/-- A call that is ready to be served, with what it shares with its client. -/
structure Ready (m : Mode) where
  client : m.Client
  call : Call m.Client (Result m.Reply)

def serveOne (r : Recorder) (c : Ready m) : Served m × Recorder :=
  match c.call ⟨r, c.client⟩ with
  | (outcome, w) => (⟨outcome, w.recorder.log.drop r.log.length, w.client⟩, w.recorder)

/-- Serves calls in order. -/
def serveAll (r : Recorder) : List (Ready m) → List (Served m)
  | [] => []
  | c :: cs =>
    let (served, r') := serveOne r c
    served :: serveAll r' cs

/-- A unary call through an interceptor. -/
def unaryCall (i : Interceptor .unary) (info : UnaryInfo) (subject : UnaryRequest)
    (handler : Handler .unary) : Ready .unary :=
  ⟨(), i.intercept info handler.serve subject⟩

/-- A unary call whose caller expects a response of a kind. -/
def typedCall (i : Interceptor .unary) (info : UnaryInfo) (subject : UnaryRequest)
    (handler : Handler .unary) (resp : Kind) : Ready .unary :=
  ⟨(), do
    let result ← serveUnary i resp subject.context subject.message.value info handler.serve
    .returns (result.map Message.of)⟩

/-- A streaming call, through an interceptor if there is one. -/
def streamCall (i : Option (Interceptor .streaming)) (info : StreamInfo) (cx : Context)
    (channel : Channel) (script : StreamScript) : Ready .streaming :=
  let handler := script.handler channel.inbound.length
  ⟨channel, Interceptor.through i info handler.serve (.channel cx)⟩

/-! ## How often a method is traced -/

/-- The spans that entries start. -/
def spansIn (log : List Entry) : Nat :=
  log.countP fun
    | .started .. => true
    | _ => false

/-- The spans that one unary and one streaming call of a method start under a
configuration, with handlers that do nothing. -/
def spansOfMethod (changes : List ServerOption) (method : String) : Nat × Nat :=
  let o := Options.ofList changes
  let unary := unaryCall o.unaryInterceptor ⟨method⟩ ⟨∅, Message.of .unit⟩
    fun r => .done (.ok r.message)
  let stream := streamCall (some o.streamInterceptor) (.bidirectional method) ∅ .silent
    ⟨[], .answer (some ())⟩
  (spansIn (serveOne ∅ unary).1.log, spansIn (serveOne ∅ stream).1.log)

end CallSpan.Scenario
