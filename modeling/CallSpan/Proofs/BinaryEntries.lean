import CallSpan.Proofs.FieldEntries

/-!
# What a carrier shows of binary entries

A carrier is one of text fields, so taking the **binary** entries out of metadata should change
none of its answers. The views that go through all entries look at the kind of each, and nothing
changes for them. The look-ups by name do not: they only refuse a name that ends in exactly
`-bin`, before it is put in lower case. So under any other spelling of a binary key its entries
are found, and since every octet of a base-64 form is visible, what is found is read.

Such a name is **exposed** (`Metadata.Exposes`), and no other name is. The fields of propagators
are in lower case and do not end in `-bin`, so an extraction is not concerned.

Main results:

* `Metadata.unseen_iff`    — which answers change when the binary entries are taken out.
* `Metadata.binary_read`   — a binary entry that is read as a text.
-/

namespace CallSpan

open Text

-- ---------------------------------------------------------------------------
-- Base-64 forms
-- ---------------------------------------------------------------------------

theorem Text.Base64.isVisible_symbol {v : Nat} (h : v < 64) : isVisible (symbol v) = true := by
  have hall : ∀ v, v < 64 → isVisible (symbol v) = true := by decide
  exact hall v h

/-- Every octet of a base-64 form is visible. -/
theorem Text.Base64.all_isVisible_encode (bytes : List UInt8) :
    (encode bytes).all isVisible = true := by
  rw [List.all_eq_true]
  fun_induction encode bytes with
  | case1 => simp
  | case2 a =>
    have ha := a.toNat_lt
    simp only [List.forall_mem_cons, List.not_mem_nil, false_implies, implies_true, and_true]
    exact ⟨isVisible_symbol (by omega), isVisible_symbol (by omega)⟩
  | case3 a b =>
    have ha := a.toNat_lt
    have hb := b.toNat_lt
    simp only [List.forall_mem_cons, List.not_mem_nil, false_implies, implies_true, and_true]
    exact ⟨isVisible_symbol (by omega), isVisible_symbol (by omega), isVisible_symbol (by omega)⟩
  | case4 a b c rest ih =>
    have ha := a.toNat_lt
    have hb := b.toNat_lt
    have hc := c.toNat_lt
    simp only [List.forall_mem_cons]
    exact ⟨isVisible_symbol (by omega), isVisible_symbol (by omega), isVisible_symbol (by omega),
      isVisible_symbol (by omega), ih⟩

/-- What is read of a base-64 form. -/
theorem Text.Base64.text?_encode (bytes : List UInt8) :
    text? (encode bytes) = some (ofAscii (encode bytes)) := by
  rw [text?, if_pos (all_isVisible_encode bytes)]

namespace Metadata

variable {m : Metadata} {name : String}

-- ---------------------------------------------------------------------------
-- Taking the binary entries out
-- ---------------------------------------------------------------------------

/-- The metadata with its text entries alone. -/
def withoutBinary (m : Metadata) : Metadata where
  groups := m.groups.filter fun g => !g.1.isBinary
  distinct := m.distinct.sublist (List.filter_sublist.map Prod.fst)
  filled g hg := m.filled g (List.mem_filter.mp hg).1

theorem entries_withoutBinary (m : Metadata) :
    m.withoutBinary.entries = m.entries.filter fun e => !e.1.isBinary := by
  unfold entries withoutBinary
  dsimp only
  induction m.groups with
  | nil => rfl
  | cons g gs ih =>
    rw [List.flatMap_cons, List.filter_append]
    -- the entries of one group are of one kind
    cases hg : g.1.isBinary with
    | true =>
      have hnone : (g.2.map fun v => (g.1, v)).filter (fun e => !e.1.isBinary) = [] := by
        rw [List.filter_map, List.map_eq_nil_iff]
        exact List.filter_eq_nil_iff.mpr fun v _ => by simp [hg]
      rw [List.filter_cons_of_neg (by simp [hg]), ih, hnone, List.nil_append]
    | false =>
      have hall : (g.2.map fun v => (g.1, v)).filter (fun e => !e.1.isBinary)
          = g.2.map fun v => (g.1, v) := by
        rw [List.filter_map]
        exact congrArg _ (List.filter_eq_self.mpr fun v _ => by simp [hg])
      rw [List.filter_cons_of_pos (by simp [hg]), List.flatMap_cons, ih, hall]

theorem keys_withoutBinary (m : Metadata) :
    m.withoutBinary.keys = m.keys.filter fun k => !k.isBinary := by
  show (m.groups.filter fun g => !g.1.isBinary).map Prod.fst = _
  rw [keys, Groups.keys, List.filter_map]
  rfl

theorem values_withoutBinary (m : Metadata) (k : Key) :
    m.withoutBinary.values k = if k.isBinary then [] else m.values k := by
  rw [← values_of_entries, entries_withoutBinary, List.filter_filter, ← values_of_entries]
  split
  · rename_i hk
    rw [List.map_eq_nil_iff, List.filter_eq_nil_iff]
    intro e _ he
    simp only [Bool.and_eq_true, decide_eq_true_eq, Bool.not_eq_true'] at he
    rw [he.1, hk] at he
    exact absurd he.2.symm Bool.false_ne_true
  · rename_i hk
    congr 1
    refine List.filter_congr fun e _ => ?_
    by_cases he : e.1 = k
    · simp [he, hk]
    · simp [he]

-- ---------------------------------------------------------------------------
-- Looking up
-- ---------------------------------------------------------------------------

/-- What a look-up finds are the values of a binary key only if the name ends in `-bin`, in some
letter case. -/
theorem lookup_withoutBinary (m : Metadata) (name : String) :
    m.withoutBinary.lookup name = if namesBinary name then [] else m.lookup name := by
  unfold lookup
  cases hkey : lookupKey? name with
  | none => exact (ite_self _).symm
  | some k =>
    rw [lookupKey?, Option.ite_none_left_eq_some] at hkey
    have hbinary : k.isBinary = namesBinary name := by
      rw [Key.isBinary, Key.text_of_ofText? hkey.2, namesBinary]
    show (m.withoutBinary.values k).map (wireForm k)
      = if namesBinary name then [] else (m.values k).map (wireForm k)
    rw [values_withoutBinary, hbinary]
    split <;> rfl

/-- A name that finds binary entries: it names a key that has some, and does not end in exactly
`-bin`, but so only in another letter case. -/
structure Exposes (m : Metadata) (name : String) : Prop where
  spelling : binaryEnding.isSuffixOf name.toList = false
  entry : ∃ e ∈ m.entries, e.1.isBinary = true ∧ e.1.text = lower name

theorem Exposes.namesBinary (h : m.Exposes name) : namesBinary name = true := by
  obtain ⟨e, -, hbinary, hkey⟩ := h.entry
  rw [CallSpan.namesBinary, ← hkey]
  exact hbinary

/-- The texts of binary entries, in base 64. -/
def exposed (m : Metadata) (name : String) : List String :=
  (m.octetsUnder name).map fun octets => ofAscii (Base64.encode octets)

theorem Exposes.exposed_ne_nil (h : m.Exposes name) : m.exposed name ≠ [] := by
  obtain ⟨e, he, -, hkey⟩ := h.entry
  have hmem : e.2 ∈ m.octetsUnder name :=
    List.mem_map.mpr ⟨e, List.mem_filter.mpr ⟨he, decide_eq_true hkey⟩, rfl⟩
  exact List.ne_nil_of_mem (List.mem_map.mpr ⟨e.2, hmem, rfl⟩)

/-- What is found under an exposed name are the base-64 forms of the binary entries. -/
theorem Exposes.lookup_eq (h : m.Exposes name) :
    m.lookup name = (m.octetsUnder name).map Base64.encode := by
  obtain ⟨e, -, hbinary, hkey⟩ := h.entry
  have hfound : lookupKey? name = some e.1 := by
    have hvalid : isKeyText (lower name) = true := hkey ▸ e.1.valid
    rw [lookupKey?, if_neg (Bool.eq_false_iff.mp h.spelling), Key.ofText?_of_isKeyText hvalid]
    exact congrArg some (Key.ext hkey.symm)
  have hwire : wireForm e.1 = Base64.encode := by
    funext v
    exact if_pos hbinary
  rw [lookup, hfound, m.octetsUnder_key hkey]
  show (m.values e.1).map (wireForm e.1) = _
  rw [hwire]

/-- All of them are read. -/
theorem Exposes.texts_eq (h : m.Exposes name) : m.texts name = m.exposed name := by
  rw [texts, h.lookup_eq, exposed]
  induction m.octetsUnder name with
  | nil => rfl
  | cons v vs ih =>
    rw [List.map_cons, List.map_cons, List.filterMap_cons_some (Base64.text?_encode v), ih]

theorem Exposes.get?_eq (h : m.Exposes name) : m.get? name = (m.exposed name).head? := by
  rw [get?, h.lookup_eq, exposed]
  cases m.octetsUnder name with
  | nil => rfl
  | cons v vs => exact Base64.text?_encode v

/-- Under a name that ends in `-bin`, in any letter case, and is not exposed, nothing is found. -/
theorem lookup_of_not_exposes (hbinary : namesBinary name = true) (h : ¬ m.Exposes name) :
    m.lookup name = [] := by
  unfold lookup
  cases hkey : lookupKey? name with
  | none => rfl
  | some k =>
    rw [lookupKey?, Option.ite_none_left_eq_some] at hkey
    have htext := Key.text_of_ofText? hkey.2
    have hnone : m.values k = [] := by
      rw [values_eq_nil_iff, mem_keys_iff]
      rintro ⟨v, hv⟩
      refine h ⟨Bool.eq_false_iff.mpr hkey.1, (k, v), hv, ?_, htext⟩
      rw [Key.isBinary, htext]
      exact hbinary
    show (m.values k).map (wireForm k) = []
    rw [hnone, List.map_nil]

theorem lookup_withoutBinary_of_not_exposes (h : ¬ m.Exposes name) :
    m.withoutBinary.lookup name = m.lookup name := by
  rw [lookup_withoutBinary]
  split
  · rename_i hbinary
    exact (lookup_of_not_exposes hbinary h).symm
  · rfl

theorem lookup_withoutBinary_of_exposes (h : m.Exposes name) :
    m.withoutBinary.lookup name = [] := by
  rw [lookup_withoutBinary, if_pos h.namesBinary]

-- ---------------------------------------------------------------------------
-- The views
-- ---------------------------------------------------------------------------

theorem textPairs_withoutBinary (m : Metadata) : m.withoutBinary.textPairs = m.textPairs := by
  rw [textPairs, entries_withoutBinary, List.filter_filter, textPairs]
  simp only [Bool.and_self]

theorem textKeys_withoutBinary (m : Metadata) : m.withoutBinary.textKeys = m.textKeys := by
  rw [textKeys, keys_withoutBinary, List.filter_filter, textKeys]
  simp only [Bool.and_self]

/-- Nothing that an extraction goes by is a binary entry. -/
theorem extract_withoutBinary (m : Metadata) (cx : Context) (p : Propagator) :
    extract (cx.withMetadata m.withoutBinary) p = extract (cx.withMetadata m) p := by
  refine extract_congr fun field hfield => ?_
  have htext := (Propagator.field_spec hfield).2
  have hlookup := m.lookup_withoutBinary field
  rw [htext, if_neg Bool.false_ne_true, lookup_eq_entries _ htext, lookup_eq_entries _ htext]
    at hlookup
  exact congrArg List.head? hlookup

/-- What is said of a carrier, of a name, and of taking the binary entries out. -/
structure UnseenBut (m : Metadata) (name : String) : Prop where
  pairs : m.withoutBinary.textPairs = m.textPairs
  keys : m.withoutBinary.textKeys = m.textKeys
  /-- The first text under the name changes exactly if the name is exposed, -/
  first : m.withoutBinary.get? name = m.get? name ↔ ¬ m.Exposes name
  /-- and so do all its texts. -/
  texts : m.withoutBinary.texts name = m.texts name ↔ ¬ m.Exposes name
  /-- Under an exposed name the binary entries are read in base 64, and without them nothing. -/
  exposed : m.Exposes name →
    m.get? name = (m.exposed name).head? ∧ m.texts name = m.exposed name ∧
      m.exposed name ≠ [] ∧ m.withoutBinary.get? name = none ∧ m.withoutBinary.texts name = []

/-- **Binary entries.** Taking the binary entries out of metadata, which leaves its text entries as
they were, changes neither the pairs nor the keys that a carrier shows, nor any extraction. What
is read under a name changes exactly if the name is a spelling of the key of a binary entry that
does not end in exactly `-bin`: the entry is read in base 64 then. -/
theorem unseen_iff (m : Metadata) :
    m.withoutBinary.entries = m.entries.filter (fun e => !e.1.isBinary) ∧
    (∀ name, m.UnseenBut name) ∧
    ∀ (cx : Context) (p : Propagator),
      extract (cx.withMetadata m.withoutBinary) p = extract (cx.withMetadata m) p := by
  refine ⟨m.entries_withoutBinary, fun name => ?_, m.extract_withoutBinary⟩
  have hexposed : m.Exposes name →
      m.withoutBinary.get? name = none ∧ m.withoutBinary.texts name = [] := by
    intro h
    rw [get?, Metadata.texts, lookup_withoutBinary_of_exposes h]
    exact ⟨rfl, rfl⟩
  have hsame : ¬ m.Exposes name → m.withoutBinary.get? name = m.get? name ∧
      m.withoutBinary.texts name = m.texts name := by
    intro h
    have hlookup := lookup_withoutBinary_of_not_exposes h
    exact ⟨congrArg (·.head?.bind text?) hlookup, congrArg (List.filterMap text?) hlookup⟩
  refine ⟨m.textPairs_withoutBinary, m.textKeys_withoutBinary, ⟨?_, fun h => (hsame h).1⟩,
    ⟨?_, fun h => (hsame h).2⟩, fun h => ⟨h.get?_eq, h.texts_eq, h.exposed_ne_nil, hexposed h⟩⟩
  · intro heq h
    rw [(hexposed h).1, h.get?_eq] at heq
    exact h.exposed_ne_nil (List.head?_eq_none_iff.mp heq.symm)
  · intro heq h
    rw [(hexposed h).2, h.texts_eq] at heq
    exact h.exposed_ne_nil heq.symm

/-- A binary entry is read under its key in upper case. -/
theorem binary_read :
    ¬ ∀ (m : Metadata) (name : String),
      m.withoutBinary.textPairs = m.textPairs ∧ m.withoutBinary.textKeys = m.textKeys ∧
        m.withoutBinary.get? name = m.get? name ∧ m.withoutBinary.texts name = m.texts name := by
  intro h
  let m : Metadata := (∅ : Metadata).append ⟨"trace-bin", by decide⟩ [0, 1]
  have hread : m.get? "TRACE-BIN" = some "AAE" := by decide
  have hunread : m.withoutBinary.get? "TRACE-BIN" = none := by decide
  have heq := (h m "TRACE-BIN").2.2.1
  rw [hread, hunread] at heq
  cases heq

end Metadata

end CallSpan
