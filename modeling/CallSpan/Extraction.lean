import CallSpan.Propagation.Propagator

/-!
# The parent of a call

The metadata of a call may carry the span context of its caller. An **extraction**
is what a propagator decodes from it, starting with the empty context so that
nothing of the surrounding context gets in, and the **parent** among it. Without a
valid span context the parent is *not found* when metadata has no entry for any of
the propagator's fields, and *malformed* otherwise.

Decoded baggage is merged into the context of a call.

* `extract`               — decoded context and parent.
* `withIncomingBaggage`   — a context with decoded baggage merged in.
-/

namespace CallSpan

/-- Why there is no parent. -/
inductive ExtractError where
  | notFound
  | malformed (fields : List String)
  deriving DecidableEq

namespace ExtractError

def message : ExtractError → String
  | notFound => "span context not found in gRPC metadata"
  | malformed fields =>
    "malformed span context in gRPC metadata (fields: " ++ ",".intercalate fields ++ ")"

/-- Whether the call is simply the root of a new trace. -/
def isNotFound : ExtractError → Bool
  | notFound => true
  | malformed _ => false

end ExtractError

/-- What was decoded for a call. -/
structure Extraction where
  decoded : Context
  parent : Except ExtractError SpanContext

/-- Why no span context was decoded: fields that have an entry, readable or not, are
malformed. -/
def ExtractError.classify (m : Metadata) (p : Propagator) : ExtractError :=
  match p.fields.filter m.isPresent with
  | [] => .notFound
  | fields => .malformed fields

/-- Decodes the metadata of a context. -/
def extract (cx : Context) (p : Propagator) : Extraction :=
  let m := cx.metadata.getD ∅
  -- decoding begins with nothing, so an active span can only be one from metadata
  let decoded := p.decode m ∅
  match decoded.spanContext?.filter SpanContext.isValid with
  | some sc => ⟨decoded, .ok sc⟩
  | none => ⟨decoded, .error (.classify m p)⟩

/-- The parent that the metadata of a context carries. -/
def extractParent (cx : Context) (p : Propagator) : Except ExtractError SpanContext :=
  (extract cx p).parent

/-- Merges the baggage of a decoded context into a context. -/
def withIncomingBaggage (cx decoded : Context) : Context :=
  if decoded.baggage.isEmpty then cx
  else cx.withBaggage (cx.baggage.merge decoded.baggage)

end CallSpan
