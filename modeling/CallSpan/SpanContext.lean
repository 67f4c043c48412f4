import CallSpan.Text.Pieces

/-!
# Span contexts

A **span context** is what one process tells another about a span: the trace it
belongs to, its own id, eight flags of which the lowest means *sampled*, and a
**trace state**, a list of members `key=value` that vendors add. It is *remote*
when it came from elsewhere, and *valid* when both ids are nonzero.

* `TraceState.parse?`  — the state that a text lists.
* `TraceState.text`    — the text that lists a state.
-/

namespace CallSpan

open Text

abbrev TraceId := BitVec 128

abbrev SpanId := BitVec 64

/-! ## Trace state -/

namespace TraceState

/-- A lower-case letter or a digit. -/
def isLowerAlnum (c : Char) : Bool :=
  (97 ≤ c.toNat && c.toNat ≤ 122) || (48 ≤ c.toNat && c.toNat ≤ 57)

/-- A character that member keys may hold. -/
def isKeyChar (c : Char) : Bool :=
  isLowerAlnum c || ['_', '-', '*', '/', '@'].contains c

/-- Whether what begins here begins with a lower-case letter or a digit, if with anything. -/
def beginsWell (cs : List Char) : Bool :=
  cs.head?.all isLowerAlnum

/-- What a member key looks like. An at sign may stand once, with at most 13
characters behind it. -/
def isMemberKey (key : String) : Bool :=
  let cs := key.toList
  key.utf8ByteSize ≤ 256 && cs.all isKeyChar && beginsWell cs &&
    match cs.dropWhile (· != '@') with
    | [] => true
    | _ :: system => !system.contains '@' && system.length ≤ 13 && beginsWell system

/-- What a member value looks like. -/
def isMemberValue (value : String) : Bool :=
  value.utf8ByteSize ≤ 256 && !value.toList.contains ',' && !value.toList.contains '='

/-- A member has a well-formed key and value. -/
def isMember (m : String × String) : Bool :=
  isMemberKey m.1 && isMemberValue m.2

end TraceState

/-- Well-formed members in order. -/
@[ext] structure TraceState where
  members : List (String × String)
  valid : members.all TraceState.isMember = true
  deriving DecidableEq

namespace TraceState

def empty : TraceState := ⟨[], rfl⟩

instance : EmptyCollection TraceState := ⟨empty⟩
instance : Inhabited TraceState := ⟨empty⟩

/-- A member: the key before the first equals sign, and the value behind it without the
equals signs at its beginning. -/
def splitMember? (cs : List Char) : Option (String × String) :=
  if cs.contains '=' then
    some (String.ofList (cs.takeWhile (· != '=')),
      String.ofList ((cs.dropWhile (· != '=')).dropWhile (· == '=')))
  else none

/-- The state of the given members, if all are well formed. -/
def ofMembers? (members : List (String × String)) : Option TraceState :=
  if h : members.all isMember = true then some ⟨members, h⟩ else none

/-- The state that a text lists, members between commas. -/
def parse? (s : String) : Option TraceState := do
  let members ← (piecesTerminated ',' s.toList).mapM splitMember?
  ofMembers? members

def memberChars (m : String × String) : List Char :=
  m.1.toList ++ '=' :: m.2.toList

/-- The text that lists a state. -/
def text (st : TraceState) : String :=
  String.ofList (List.intercalate [','] (st.members.map memberChars))

end TraceState

/-! ## Span contexts -/

/-- What is told about a span. -/
structure SpanContext where
  traceId : TraceId
  spanId : SpanId
  flags : UInt8
  remote : Bool
  state : TraceState
  deriving DecidableEq

namespace SpanContext

/-- Both ids are nonzero. -/
def isValid (sc : SpanContext) : Bool :=
  sc.traceId != 0 && sc.spanId != 0

def isSampled (sc : SpanContext) : Bool :=
  sc.flags &&& 1 == 1

theorem isValid_iff {sc : SpanContext} : sc.isValid = true ↔ sc.traceId ≠ 0 ∧ sc.spanId ≠ 0 := by
  simp [isValid]

end SpanContext

end CallSpan
