import CallSpan.Behaviour
import CallSpan.Extraction
import CallSpan.Tags

/-!
# Tracing a call

A tracing layer decodes the parent of a call from its metadata and asks its
predicate whether the call is traced. If not, what lies within sees the call as
it came. If so, a server span is started as a child of the parent, or as the root
of a new trace, and what lies within gets a context with that span active and the
decoded baggage merged in. Payloads, the failure and the decorator's additions are
recorded on the span, and the span is **ended on every outcome**, also when
something within panics or is cancelled.

* `TracingPolicy.judge`    — what a tracing layer finds out before the call goes on.
* `TracingPolicy.around`   — a tracing layer around what lies within.
* `loggedAround`           — a layer that reports how each call ended.
-/

namespace CallSpan

variable {m : Mode} {σ : Type}

/-- How calls are traced. -/
structure TracingPolicy where
  logPayloads : Bool
  logErrors : Bool
  predicate : Option Predicate
  decorator : Option Decorator
  propagator : Propagator

namespace TracingPolicy

/-- Errors are logged, payloads are not, every call is traced, and the span context alone
is propagated. -/
def standard : TracingPolicy := ⟨false, true, none, none, Propagator.standard⟩

/-- Whether a call is traced. Without a predicate every call is. -/
def includes (p : TracingPolicy) (i : Inquiry) : Program hookOps Bool :=
  match p.predicate with
  | some predicate => predicate i
  | none => .done true

end TracingPolicy

/-- The parent to go on with. One that could not be decoded is reported, and the call is a
root then. -/
def adoptParent (method : String) : Except ExtractError SpanContext → Call σ (Option SpanContext)
  | .ok sc => .returns (some sc)
  | .error .notFound => .returns none
  | .error e => do
    Call.report .debug
      [("error", e.message), ("message", "ignoring undecodable parent span context"),
        ("method", method)]
    .returns none

/-- Starts a server span, and derives the context in which it is active and the decoded
baggage is merged in. -/
def startServerSpan (cx decoded : Context) (parent : Option SpanContext) (method : String) :
    Call σ Context := do
  let span ← Call.start ⟨method, true, serverTags, parent⟩
  .returns ((withIncomingBaggage cx decoded).withSpan span)

/-- Records a payload, if there is one, on the active span of a context. -/
def recordPayload (cx : Context) (event : String) : Option Message → Call σ Unit
  | some payload => Call.act .layer cx (payloadEvent event payload)
  | none => .returns ()

/-- Records a failure on the active span of a context. -/
def recordFailure (cx : Context) (status : Status) : Call σ Unit :=
  Call.record (·.actAll .layer cx (errorTags status false ++ [errorEvent status]))

/-- What a tracing layer finds out about a call before it goes on. -/
structure Judgement where
  decoded : Context
  parent : Option SpanContext
  included : Bool

def errorOf {α : Type} : Result α → Option Status
  | .ok _ => none
  | .error status => some status

def replyOf {α : Type} : Result α → Option α
  | .ok reply => some reply
  | .error _ => none

namespace TracingPolicy

/-- Records the request of a call. A stream has no single request, so nothing is recorded of
it here. -/
def recordRequest (p : TracingPolicy) (cx : Context) (request : Option Message) : Call σ Unit :=
  if p.logPayloads then recordPayload cx requestEvent request else .returns ()

/-- Records how the call within a span came out. -/
def recordOutcome (p : TracingPolicy) (cx : Context) : Result m.Reply → Call σ Unit
  | .ok reply => if p.logPayloads then recordPayload cx responseEvent (Mode.response? reply)
    else .returns ()
  | .error status => if p.logErrors then recordFailure cx status else .returns ()

def decorate (p : TracingPolicy) (d : Decoration) : Call σ Unit :=
  match p.decorator with
  | some decorator => (decorator d).run SpanOp.perform
  | none => .returns ()

/-- What is done within a span that is active in `cx`. -/
def within (p : TracingPolicy) (cx : Context) (info : m.Info) (inner : Inside m σ)
    (subject : m.Subject) : Call σ (Result m.Reply) := do
  p.recordRequest cx (Mode.request? subject)
  let result ← inner (Mode.rebase cx subject)
  p.recordOutcome cx result
  -- the decorator is told the request that this layer got, whatever was handed on below
  p.decorate
    ⟨cx, Mode.methodOf info, Mode.request? subject, (replyOf result).bind Mode.response?,
      errorOf result⟩
  .returns result

/-- Decodes the parent of a call and asks the predicate. -/
def judge (p : TracingPolicy) (info : m.Info) (subject : m.Subject) : Call σ Judgement := do
  let method := Mode.methodOf info
  -- neither the span nor the baggage of the context has a say in who the parent is
  let x := extract (Mode.contextOf subject) p.propagator
  let parent ← adoptParent method x.parent
  -- there is no span yet, so a predicate that panics leaves none to be ended
  let included ←
    (p.includes ⟨parent, method, Mode.request? subject, none⟩).run HookOp.perform
  .returns ⟨x.decoded, parent, included⟩

/-- A call that is traced: a span around what lies within, ended on every outcome. -/
def traced (p : TracingPolicy) (j : Judgement) (info : m.Info) (inner : Inside m σ)
    (subject : m.Subject) : Call σ (Result m.Reply) := do
  let cx ← startServerSpan (Mode.contextOf subject) j.decoded j.parent (Mode.methodOf info)
  (p.within cx info inner subject).andFinally (·.act .layer cx .finish)

/-- A call that is not traced: what lies within gets the very subject that came, without the
decoded baggage. -/
def bypassed (info : m.Info) (inner : Inside m σ) (subject : m.Subject) :
    Call σ (Result m.Reply) := do
  Call.report .trace [("message", m.exclusionText), ("method", Mode.methodOf info)]
  inner subject

/-- A tracing layer around what lies within. -/
def around (p : TracingPolicy) (info : m.Info) (inner : Inside m σ) : Inside m σ :=
  fun subject => do
    let j ← p.judge info subject
    if j.included then p.traced j info inner subject else bypassed info inner subject

end TracingPolicy

/-! ## Reporting how calls end -/

def traceIdText (id : TraceId) : String :=
  String.ofList (Text.Hex.digits 32 id.toNat)

/-- What is reported of a call that ended. How long it took is not told. -/
def outcomeReport (method : String) (trace : TraceId) : Option Status → Report
  | none =>
    ⟨.info, [("elapsed_ms", "*"), ("message", "gRPC call completed"), ("method", method),
      ("trace_id", traceIdText trace)]⟩
  | some status =>
    ⟨.warn, [("code", status.code.name), ("elapsed_ms", "*"), ("message", status.message),
      ("message", "gRPC call failed"), ("method", method), ("trace_id", traceIdText trace)]⟩

/-- A layer that reports how each call ended, with the trace of the context that the call
came with. -/
def loggedAround (info : m.Info) (inner : Inside m σ) : Inside m σ := fun subject => do
  let result ← inner subject
  Call.log (.reported (outcomeReport (Mode.methodOf info) (Mode.contextOf subject).traceId
    (errorOf result)))
  .returns result

end CallSpan
