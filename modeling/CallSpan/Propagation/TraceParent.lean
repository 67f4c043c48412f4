import CallSpan.SpanContext
import CallSpan.Text.Blank
import CallSpan.Text.Hex

/-!
# The trace-context header fields

A span context travels in two fields. `traceparent` holds a version, the two ids
and the flags in hexadecimal, between hyphens; `tracestate` holds the text of the
trace state. The written version is `00`. Reading takes ids of any number of
digits, ignores what later versions put behind the flags, keeps of the flags only
the lowest, and reads a `tracestate` that is malformed as the empty one.

* `parse?`   — version, ids and flags of a `traceparent`.
* `decode?`  — the span context that the two fields carry.
* `encode`   — the fields that carry a span context.
-/

namespace CallSpan.TraceParent

open Text

/-- The name of the field with the ids. -/
def parentField : String := "traceparent"

/-- The name of the field with the trace state. -/
def stateField : String := "tracestate"

/-- What a `traceparent` says. -/
structure Parent where
  version : Nat
  traceId : TraceId
  spanId : SpanId
  flags : UInt8
  deriving DecidableEq

/-- An upper-case letter, which ids must not hold. -/
def isUpper (c : Char) : Bool :=
  65 ≤ c.toNat && c.toNat ≤ 90

/-- A version is at most 254, and version 0 has no further parts. -/
def versionOk (version : Nat) (further : List (List Char)) : Bool :=
  version ≤ 254 && (version != 0 || further.isEmpty)

/-- Version 0 knows two flags at most. -/
def flagsOk (version flags : Nat) : Bool :=
  version != 0 || flags ≤ 2

/-- An id below `2 ^ bits`, without upper-case letters. -/
def readId? (bits : Nat) (cs : List Char) : Option Nat :=
  if cs.any isUpper then none else Hex.read? (Nat.pow 2 bits) cs

/-- The parts of a `traceparent`, if it has four at least and each is well formed. -/
def parse? (cs : List Char) : Option Parent :=
  match piecesTerminated '-' (trim cs) with
  | version :: trace :: span :: flags :: further => do
    -- every number may have leading zeros, and a plus sign in front
    let version ← (Hex.read? 256 version).filter (versionOk · further)
    let traceId ← readId? 128 trace
    let spanId ← readId? 64 span
    let flags ← (Hex.read? 256 flags).filter (flagsOk version)
    some ⟨version, BitVec.ofNat 128 traceId, BitVec.ofNat 64 spanId, UInt8.ofNat flags⟩
  | _ => none

/-- The state that a `tracestate` lists, empty if there is none or it is malformed. -/
def readState (field : Option String) : TraceState :=
  (field.bind TraceState.parse?).getD ∅

/-- The remote span context that two fields carry, if it is valid. -/
def decode? (parent state : Option String) : Option SpanContext := do
  let p ← parse? (parent.getD "").toList
  let sc : SpanContext := ⟨p.traceId, p.spanId, p.flags &&& 1, true, readState state⟩
  if sc.isValid then some sc else none

def parentText (sc : SpanContext) : String :=
  String.ofList <| ['0', '0', '-'] ++ Hex.digits 32 sc.traceId.toNat ++ '-' ::
    (Hex.digits 16 sc.spanId.toNat ++ '-' :: Hex.digits 2 (sc.flags &&& 1).toNat)

/-- The fields that carry a span context: none unless it is valid. -/
def encode (sc : SpanContext) : List (String × String) :=
  if sc.isValid then [(parentField, parentText sc), (stateField, sc.state.text)] else []

/-- What is decoded is valid, remote, and has no flag but the lowest. -/
theorem of_decode? {parent state : Option String} {sc : SpanContext}
    (h : decode? parent state = some sc) : sc.isValid = true ∧ sc.remote = true := by
  unfold decode? at h
  simp only [Option.bind_eq_bind, Option.bind_eq_some_iff] at h
  obtain ⟨p, -, h⟩ := h
  split at h
  · cases h
    exact ⟨by assumption, rfl⟩
  · cases h

end CallSpan.TraceParent
