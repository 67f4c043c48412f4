import CallSpan.Context
import CallSpan.Metadata.Carrier
import CallSpan.Propagation.BaggageHeader
import CallSpan.Propagation.TraceParent

/-!
# Propagators

A **propagator** carries parts of a context between processes in text fields. It
is a list of parts, each for the span context or for the baggage. Decoding lets
each part extend a context in order, and encoding stores the fields of each part
in order. A part whose fields are missing or malformed leaves the context as it
is.

* `Propagator.decode`  — a context extended by what metadata carries.
* `Propagator.inject`  — metadata with the fields of a context stored.
* `Propagator.fields`  — the names of all fields.
-/

namespace CallSpan

/-- What a propagator carries. -/
inductive Propagator.Part where
  | traceContext
  | baggage
  deriving DecidableEq

/-- Parts in the order in which they act. -/
abbrev Propagator := List Propagator.Part

namespace Propagator

namespace Part

def fields : Part → List String
  | traceContext => [TraceParent.parentField, TraceParent.stateField]
  | baggage => [BaggageHeader.field]

/-- Extends a context by what metadata carries in a part's fields. -/
def decode (m : Metadata) (cx : Context) : Part → Context
  | traceContext =>
    match TraceParent.decode? (m.get? TraceParent.parentField) (m.get? TraceParent.stateField) with
    | some sc => cx.withRemote sc
    | none => cx
  | baggage =>
    match m.get? BaggageHeader.field with
    | some s => cx.withBaggage (BaggageHeader.decode s)
    | none => cx

/-- The fields that carry a part of a context. -/
def encode (cx : Context) : Part → List (String × String)
  | traceContext =>
    match cx.spanContext? with
    | some sc => TraceParent.encode sc
    | none => []
  | baggage =>
    match BaggageHeader.encode? cx.baggage with
    | some s => [(BaggageHeader.field, s)]
    | none => []

end Part

/-- The propagator that carries the span context alone. -/
def standard : Propagator := [.traceContext]

def fields (p : Propagator) : List String :=
  p.flatMap Part.fields

/-- Extends a context by what metadata carries. -/
def decode (p : Propagator) (m : Metadata) (cx : Context) : Context :=
  p.foldl (fun acc part => part.decode m acc) cx

/-- Stores the fields of a context in metadata. -/
def inject (p : Propagator) (cx : Context) (m : Metadata) : Metadata :=
  m.putAll (p.flatMap (Part.encode cx))

end Propagator

end CallSpan
