import CallSpan.Baggage
import CallSpan.Metadata.Basic
import CallSpan.SpanContext

/-!
# Call contexts

A **context** is what travels with a call inside a process: the active span, the
baggage, and the metadata that came with the call. Contexts are values, and each
operation derives a new one and keeps the other parts. The active span is either
**remote**, known by its span context alone, or **started** here, in which case
it has a number under which the tracer records what is done to it.

* `Context.spanContext?`  — the span context of the active span.
* `Context.ofRequest`     — the context of a request that metadata came with.
-/

namespace CallSpan

/-- The span that is active in a context. -/
inductive ActiveSpan where
  | remote (context : SpanContext)
  | started (number : Nat) (context : SpanContext)
  deriving DecidableEq

namespace ActiveSpan

def context : ActiveSpan → SpanContext
  | remote sc => sc
  | started _ sc => sc

/-- The number of a span that was started here. -/
def number? : ActiveSpan → Option Nat
  | remote _ => none
  | started n _ => some n

end ActiveSpan

/-- The active span, the baggage and the metadata of a call. -/
structure Context where
  span : Option ActiveSpan
  baggage : Baggage
  metadata : Option Metadata
  deriving DecidableEq

namespace Context

def empty : Context := ⟨none, ∅, none⟩

instance : EmptyCollection Context := ⟨empty⟩
instance : Inhabited Context := ⟨empty⟩

def spanContext? (cx : Context) : Option SpanContext :=
  cx.span.map ActiveSpan.context

/-- The number of the active span, if it was started here. -/
def spanNumber? (cx : Context) : Option Nat :=
  cx.span.bind ActiveSpan.number?

/-- The trace of the active span, zero if there is none. -/
def traceId (cx : Context) : TraceId :=
  match cx.spanContext? with
  | some sc => sc.traceId
  | none => 0

def withSpan (cx : Context) (span : ActiveSpan) : Context :=
  { cx with span := some span }

/-- Makes the span that a span context tells about the active one. -/
def withRemote (cx : Context) (sc : SpanContext) : Context :=
  cx.withSpan (.remote sc)

def withBaggage (cx : Context) (b : Baggage) : Context :=
  { cx with baggage := b }

def withMetadata (cx : Context) (m : Metadata) : Context :=
  { cx with metadata := some m }

/-- The context of a request: its metadata attached to the context that came with it, or
to the empty one. -/
def ofRequest (attached : Option Context) (m : Metadata) : Context :=
  (attached.getD ∅).withMetadata m

@[simp] theorem span_empty : (∅ : Context).span = none := rfl
@[simp] theorem baggage_empty : (∅ : Context).baggage = ∅ := rfl
@[simp] theorem metadata_empty : (∅ : Context).metadata = none := rfl

@[simp] theorem spanContext?_withSpan (cx : Context) (s : ActiveSpan) :
    (cx.withSpan s).spanContext? = some s.context := rfl

@[simp] theorem metadata_withMetadata (cx : Context) (m : Metadata) :
    (cx.withMetadata m).metadata = some m := rfl

end Context

end CallSpan
