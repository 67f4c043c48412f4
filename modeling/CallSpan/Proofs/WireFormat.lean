import CallSpan.Propagation.TraceParent
import CallSpan.Text.Octets
import Mathlib.Data.List.TakeWhile

/-!
# Span contexts on the wire

What is written of a span context is read back. The two ids come back whole, whatever
they are, since written ids have a fixed width and the reader takes leading zeros; of
the flags only the lowest is written and only the lowest is read; and the trace state
comes back with all its members in order, also when it has none.

Both fields are lists between separators. A list is read back piece by piece
(`pieces_intercalate`), for which the pieces must not hold the separator, and what
stands at the end must not be an empty piece, which the reader would drop.

Main results:

* `TraceState.parse?_text`          — the members of a state.
* `TraceParent.parse?_parentText`   — ids and flags.
* `TraceParent.decode?_encoded`     — both fields together: `SpanContext.received`.
-/

namespace CallSpan

-- ---------------------------------------------------------------------------
-- Lists between separators
-- ---------------------------------------------------------------------------

namespace Text

/-- Pieces without the separator are found again in the list of them. -/
theorem pieces_intercalate {sep : Char} {ps : List (List Char)} (hne : ps ≠ [])
    (h : ∀ p ∈ ps, sep ∉ p) : pieces sep (List.intercalate [sep] ps) = ps := by
  induction ps with
  | nil => exact absurd rfl hne
  | cons p ps ih =>
    have hp : sep ∉ p := h p List.mem_cons_self
    cases ps with
    | nil =>
      rw [List.intercalate_singleton]
      exact pieces_eq_singleton hp
    | cons q qs =>
      rw [List.intercalate_cons_cons, List.append_assoc, List.singleton_append,
        pieces_append_cons hp, ih (List.cons_ne_nil q qs)]
      intro r hr
      exact h r (List.mem_cons_of_mem p hr)

/-- Only an empty last piece is dropped. -/
theorem piecesTerminated_eq {sep : Char} {cs : List Char}
    (h : ∀ p, (pieces sep cs).getLast? = some p → p ≠ []) :
    piecesTerminated sep cs = pieces sep cs := by
  unfold piecesTerminated
  exact if_neg fun hlast => h [] hlast rfl

/-- A text that holds no blank is its own trimmed form. -/
theorem trim_eq_self {cs : List Char} (h : ∀ c ∈ cs, isBlank c = false) : trim cs = cs := by
  have hdrop : ∀ ds : List Char, (∀ c ∈ ds, isBlank c = false) → ds.dropWhile isBlank = ds := by
    intro ds hds
    refine List.dropWhile_eq_self_iff.mpr fun hl => ?_
    rw [hds _ (List.getElem_mem hl)]
    exact Bool.false_ne_true
  rw [trim, hdrop cs h, hdrop cs.reverse fun c hc => h c (List.mem_reverse.mp hc),
    List.reverse_reverse]

end Text

-- ---------------------------------------------------------------------------
-- Written numbers
-- ---------------------------------------------------------------------------

namespace Text.Hex

theorem mem_digits {width n : Nat} {c : Char} (h : c ∈ digits width n) :
    ∃ d, d < 16 ∧ c = lowerDigit d := by
  induction width generalizing n with
  | zero => exact absurd h List.not_mem_nil
  | succ width ih =>
    rcases List.mem_append.mp h with h | h
    · exact ih h
    · exact ⟨n % 16, Nat.mod_lt n (by decide), List.mem_singleton.mp h⟩

/-- What holds of the sixteen digits holds of every written number. -/
theorem forall_digits {p : Char → Bool} (hp : ∀ d, d < 16 → p (lowerDigit d) = true)
    (width n : Nat) : ∀ c ∈ digits width n, p c = true := by
  intro c hc
  obtain ⟨d, hd, rfl⟩ := mem_digits hc
  exact hp d hd

theorem digits_ne_nil {width : Nat} (hw : 0 < width) (n : Nat) : digits width n ≠ [] := by
  intro h
  have hlength := length_digits width n
  rw [h] at hlength
  exact absurd hlength (by simp; omega)

theorem hyphen_not_mem_digits (width n : Nat) : '-' ∉ digits width n := by
  intro h
  have := forall_digits (p := fun c => c != '-') (by decide) width n '-' h
  exact absurd this (by decide)

end Text.Hex

-- ---------------------------------------------------------------------------
-- Trace states
-- ---------------------------------------------------------------------------

namespace TraceState

/-- A well-formed key holds no separator. -/
theorem not_mem_key {key : String} (h : isMemberKey key = true) {c : Char}
    (hc : isKeyChar c = false) : c ∉ key.toList := by
  intro hmem
  simp only [isMemberKey, Bool.and_eq_true, List.all_eq_true] at h
  have := h.1.1.2 c hmem
  rw [hc] at this
  exact absurd this Bool.false_ne_true

theorem not_mem_value {value : String} (h : isMemberValue value = true) :
    ',' ∉ value.toList ∧ '=' ∉ value.toList := by
  simp only [isMemberValue, Bool.and_eq_true, Bool.not_eq_true', List.contains_eq_mem,
    decide_eq_false_iff_not] at h
  exact ⟨h.1.2, h.2⟩

variable {m : String × String}

theorem comma_not_mem_memberChars (h : isMember m = true) : ',' ∉ memberChars m := by
  obtain ⟨hkey, hvalue⟩ := Bool.and_eq_true_iff.mp h
  have hcomma : ',' ∉ m.1.toList := not_mem_key hkey (by decide)
  simp [memberChars, hcomma, (not_mem_value hvalue).1]

/-- A member is split where its key was joined to its value. -/
theorem splitMember?_memberChars (h : isMember m = true) :
    splitMember? (memberChars m) = some m := by
  obtain ⟨hkey, hvalue⟩ := Bool.and_eq_true_iff.mp h
  have hnotKey : ∀ c ∈ m.1.toList, (c != '=') = true := by
    intro c hc
    have heq : '=' ∉ m.1.toList := not_mem_key hkey (by decide)
    exact bne_iff_ne.mpr fun h => heq (h ▸ hc)
  -- the value holds no equals sign, so none is taken off its beginning
  have hnotValue : m.2.toList.dropWhile (· == '=') = m.2.toList := by
    cases hcs : m.2.toList with
    | nil => rfl
    | cons c cs =>
      have heq := (not_mem_value hvalue).2
      rw [hcs, List.mem_cons, not_or] at heq
      exact List.dropWhile_cons_of_neg (by simpa using Ne.symm heq.1)
  have hcontains : (memberChars m).contains '=' = true := by
    simp [memberChars]
  rw [splitMember?, if_pos hcontains, memberChars, List.takeWhile_append_of_pos hnotKey,
    List.dropWhile_append_of_pos hnotKey, List.takeWhile_cons_of_neg (by decide),
    List.dropWhile_cons_of_neg (by decide), List.dropWhile_cons_of_pos (by decide), hnotValue,
    List.append_nil, String.ofList_toList, String.ofList_toList]

theorem mapM_splitMember? {ms : List (String × String)} (h : ∀ m ∈ ms, isMember m = true) :
    (ms.map memberChars).mapM splitMember? = some ms := by
  induction ms with
  | nil => rfl
  | cons m ms ih =>
    have hms := ih fun x hx => h x (List.mem_cons_of_mem m hx)
    rw [List.map_cons, List.mapM_cons, splitMember?_memberChars (h m List.mem_cons_self), hms]
    rfl

/-- A state is read back from its text. -/
theorem parse?_text (st : TraceState) : parse? st.text = some st := by
  have hmember : ∀ m ∈ st.members, isMember m = true := List.all_eq_true.mp st.valid
  have hpieces : Text.piecesTerminated ',' st.text.toList = st.members.map memberChars := by
    rw [text, String.toList_ofList]
    by_cases hne : st.members = []
    · rw [hne]
      rfl
    · have heq : Text.pieces ',' (List.intercalate [','] (st.members.map memberChars))
          = st.members.map memberChars := by
        refine Text.pieces_intercalate (by simpa using hne) ?_
        intro p hp
        obtain ⟨m, hm, rfl⟩ := List.mem_map.mp hp
        exact comma_not_mem_memberChars (hmember m hm)
      rw [Text.piecesTerminated_eq, heq]
      -- every member has its equals sign at least
      intro p hp
      rw [heq] at hp
      obtain ⟨m, -, rfl⟩ := List.mem_map.mp (List.mem_of_getLast? hp)
      simp [memberChars]
  rw [parse?, hpieces, mapM_splitMember? hmember]
  show ofMembers? st.members = some st
  rw [ofMembers?, dif_pos st.valid]

end TraceState

-- ---------------------------------------------------------------------------
-- Span contexts
-- ---------------------------------------------------------------------------

/-- What the other side of the wire knows of a span context. -/
def SpanContext.received (sc : SpanContext) : SpanContext :=
  ⟨sc.traceId, sc.spanId, sc.flags &&& 1, true, sc.state⟩

namespace TraceParent

open Text

/-- The text of a `traceparent`, part by part. -/
theorem toList_parentText (sc : SpanContext) :
    (parentText sc).toList
      = ['0', '0'] ++ '-' :: (Hex.digits 32 sc.traceId.toNat ++ '-' ::
          (Hex.digits 16 sc.spanId.toNat ++ '-' :: Hex.digits 2 (sc.flags &&& 1).toNat)) := by
  simp only [parentText, String.toList_ofList, List.cons_append, List.nil_append]

/-- What holds of digits and the hyphen holds throughout the text of a `traceparent`. -/
theorem forall_parentText {p : Char → Bool} (hp : ∀ d, d < 16 → p (Hex.lowerDigit d) = true)
    (hyphen : p '-' = true) (sc : SpanContext) : ∀ c ∈ (parentText sc).toList, p c = true := by
  have hzero : p '0' = true := hp 0 (by decide)
  intro c hc
  rw [toList_parentText] at hc
  simp only [List.mem_append, List.mem_cons, List.not_mem_nil, or_false] at hc
  rcases hc with (rfl | rfl) | rfl | hc | rfl | hc | rfl | hc
  · exact hzero
  · exact hzero
  · exact hyphen
  · exact Hex.forall_digits hp _ _ c hc
  · exact hyphen
  · exact Hex.forall_digits hp _ _ c hc
  · exact hyphen
  · exact Hex.forall_digits hp _ _ c hc

theorem isVisible_parentText (sc : SpanContext) :
    ∀ c ∈ (parentText sc).toList, isVisibleChar c = true :=
  forall_parentText (by decide) (by decide) sc

theorem pieces_parentText (sc : SpanContext) :
    piecesTerminated '-' (parentText sc).toList
      = [['0', '0'], Hex.digits 32 sc.traceId.toNat, Hex.digits 16 sc.spanId.toNat,
          Hex.digits 2 (sc.flags &&& 1).toNat] := by
  have heq : pieces '-' (parentText sc).toList
      = [['0', '0'], Hex.digits 32 sc.traceId.toNat, Hex.digits 16 sc.spanId.toNat,
          Hex.digits 2 (sc.flags &&& 1).toNat] := by
    rw [toList_parentText, pieces_append_cons (by decide),
      pieces_append_cons (Hex.hyphen_not_mem_digits _ _),
      pieces_append_cons (Hex.hyphen_not_mem_digits _ _),
      pieces_eq_singleton (Hex.hyphen_not_mem_digits _ _)]
  rw [piecesTerminated_eq, heq]
  intro p hp
  rw [heq] at hp
  obtain rfl := Option.some.inj hp
  exact Hex.digits_ne_nil (by decide) _

theorem readId?_digits {width bits n : Nat} (hw : 0 < width)
    (hbits : Nat.pow 2 bits = Nat.pow 16 width) (hn : n < Nat.pow 2 bits) :
    readId? bits (Hex.digits width n) = some n := by
  have hlower : (Hex.digits width n).any isUpper = false := by
    rw [List.any_eq_false]
    intro c hc
    have := Hex.forall_digits (p := fun c => !isUpper c) (by decide) width n c hc
    simpa using this
  rw [readId?, hlower, if_neg Bool.false_ne_true]
  exact Hex.read?_digits hw (hbits ▸ hn) hn

/-- The lowest flag alone is a number below two. -/
theorem toNat_lowest (flags : UInt8) : (flags &&& 1).toNat < 2 := by
  rw [UInt8.toNat_and]
  exact Nat.and_lt_two_pow _ (n := 1) (by decide)

theorem parse?_parentText (sc : SpanContext) :
    parse? (parentText sc).toList = some ⟨0, sc.traceId, sc.spanId, sc.flags &&& 1⟩ := by
  have hblank : ∀ c ∈ (parentText sc).toList, isBlank c = false := by
    intro c hc
    have := forall_parentText (p := fun c => !isBlank c) (by decide) (by decide) sc c hc
    simpa using this
  have hversion : (Hex.read? 256 ['0', '0']).filter (versionOk · []) = some 0 := by decide
  have htrace : readId? 128 (Hex.digits 32 sc.traceId.toNat) = some sc.traceId.toNat :=
    readId?_digits (by decide) (by decide) sc.traceId.isLt
  have hspan : readId? 64 (Hex.digits 16 sc.spanId.toNat) = some sc.spanId.toNat :=
    readId?_digits (by decide) (by decide) sc.spanId.isLt
  have hflags : (Hex.read? 256 (Hex.digits 2 (sc.flags &&& 1).toNat)).filter (flagsOk 0)
      = some (sc.flags &&& 1).toNat := by
    have hlt := toNat_lowest sc.flags
    have hwidth : (sc.flags &&& 1).toNat < Nat.pow 16 2 := Nat.lt_trans hlt (by decide)
    rw [Hex.read?_digits (by decide) hwidth (by omega), Option.filter_some, if_pos]
    simp only [flagsOk, Bool.or_eq_true, decide_eq_true_eq]
    omega
  rw [parse?, trim_eq_self hblank, pieces_parentText]
  simp only [hversion, htrace, hspan, hflags, Option.bind_eq_bind, Option.bind_some]
  rw [BitVec.ofNat_toNat, BitVec.ofNat_toNat, BitVec.setWidth_eq, BitVec.setWidth_eq,
    UInt8.ofNat_toNat]

theorem readState_text (st : TraceState) : readState (some st.text) = st := by
  rw [readState, Option.bind_some, TraceState.parse?_text, Option.getD_some]

/-- The state has no say in whether there is a span context. -/
theorem decode?_state (parent state : Option String) :
    decode? parent state
      = (decode? parent none).map fun sc => { sc with state := readState state } := by
  rw [decode?, decode?]
  cases parse? (parent.getD "").toList with
  | none => rfl
  | some p =>
    rw [Option.bind_eq_bind, Option.bind_some, Option.bind_some]
    -- both sides ask about the ids alone
    by_cases hvalid :
      (⟨p.traceId, p.spanId, p.flags &&& 1, true, readState none⟩ : SpanContext).isValid = true
    · rw [if_pos hvalid]
      exact if_pos hvalid
    · rw [if_neg hvalid]
      exact if_neg hvalid

/-- **The wire.** What is decoded from the fields of a valid span context. -/
theorem decode?_encoded {sc : SpanContext} (h : sc.isValid = true) :
    decode? (some (parentText sc)) (some sc.state.text) = some sc.received := by
  have hflags : sc.flags &&& 1 &&& 1 = sc.flags &&& 1 := by
    rw [UInt8.and_assoc, UInt8.and_self]
  rw [decode?, Option.getD_some, parse?_parentText, Option.bind_eq_bind, Option.bind_some,
    readState_text, hflags]
  exact if_pos h

end TraceParent

end CallSpan
