import CallSpan.Proofs.TextEntries

/-!
# The views of a carrier

A carrier shows metadata in four ways: all readable pairs, the keys, the readable texts under a
name, and the first text under a name. Each goes through the metadata in a way of its own, and
the two that are asked by name put the name in lower case, while the other two do not. They
agree, entry by entry, on every name but those that end in `-bin`: under such a name a look-up
may find binary entries in their base-64 form, which no other view shows.

What the views are compared with are the **entries** of the metadata. The pairs are the readable
text entries, one for one and in order (`Metadata.pairs_eq_entries`), and what is looked up
under a name is what its entries hold (`Metadata.lookup_eq_entries`).

Main result:

* `Metadata.viewsAgree` — the four views, for every metadata and every such name.
-/

namespace CallSpan

open Text

-- ---------------------------------------------------------------------------
-- Names
-- ---------------------------------------------------------------------------

/-- Whether a name ends as the names of binary entries do, in any letter case. -/
def namesBinary (name : String) : Bool :=
  binaryEnding.isSuffixOf (lower name).toList

/-- A name that ends in exactly `-bin` still does so in lower case. -/
theorem namesBinary_of_isSuffixOf {name : String}
    (h : binaryEnding.isSuffixOf name.toList = true) : namesBinary name = true := by
  rw [List.isSuffixOf_iff_suffix] at h
  have hlower : binaryEnding.map lowerChar <:+ name.toList.map lowerChar := h.map lowerChar
  rw [namesBinary, List.isSuffixOf_iff_suffix, lower, String.toList_ofList]
  exact hlower

theorem Key.ofText?_of_isKeyText {name : String} (h : isKeyText (lower name) = true) :
    Key.ofText? name = some ⟨lower name, h⟩ :=
  dif_pos h

theorem Key.ofText?_eq_none {name : String} (h : isKeyText (lower name) = false) :
    Key.ofText? name = none :=
  dif_neg (Bool.eq_false_iff.mp h)

namespace Metadata

variable {m : Metadata} {name : String}

-- ---------------------------------------------------------------------------
-- Entries
-- ---------------------------------------------------------------------------

theorem mem_keys_iff {k : Key} : k ∈ m.keys ↔ ∃ v, (k, v) ∈ m.entries := by
  constructor
  · intro hk
    obtain ⟨g, hg, rfl⟩ := List.mem_map.mp hk
    obtain ⟨v, hv⟩ := List.exists_mem_of_ne_nil g.2 (m.filled g hg)
    exact ⟨v, List.mem_flatMap.mpr ⟨g, hg, List.mem_map.mpr ⟨v, hv, rfl⟩⟩⟩
  · rintro ⟨v, hv⟩
    obtain ⟨g, hg, hv⟩ := List.mem_flatMap.mp hv
    obtain ⟨v', -, heq⟩ := List.mem_map.mp hv
    exact List.mem_map.mpr ⟨g, hg, congrArg Prod.fst heq⟩

/-- The octets of the entries under a name, in any letter case. -/
def octetsUnder (m : Metadata) (name : String) : List (List UInt8) :=
  (m.entries.filter (·.1.text = lower name)).map Prod.snd

theorem octetsUnder_key (m : Metadata) {k : Key} (h : k.text = lower name) :
    m.octetsUnder name = m.values k := by
  have hkey : ∀ e : Key × List UInt8, (e.1.text = lower name) = (e.1 = k) := by
    intro e
    rw [← h, Key.ext_iff]
  simp only [octetsUnder, hkey]
  exact m.values_of_entries k

/-- No entry is under a name that no key can have. -/
theorem octetsUnder_eq_nil (m : Metadata) (h : isKeyText (lower name) = false) :
    m.octetsUnder name = [] := by
  rw [octetsUnder, List.map_eq_nil_iff, List.filter_eq_nil_iff]
  intro e _ he
  have hvalid := e.1.valid
  rw [of_decide_eq_true he, h] at hvalid
  exact Bool.false_ne_true hvalid

/-- What a look-up under a name finds is what the entries under the name hold. -/
theorem lookup_eq_entries (m : Metadata) (h : namesBinary name = false) :
    m.lookup name = m.octetsUnder name := by
  have hexact : ¬ binaryEnding.isSuffixOf name.toList = true := by
    intro hsuffix
    rw [namesBinary_of_isSuffixOf hsuffix] at h
    cases h
  have hfound : lookupKey? name = Key.ofText? name := if_neg hexact
  cases hvalid : isKeyText (lower name) with
  | true =>
    let k : Key := ⟨lower name, hvalid⟩
    have hkey : lookupKey? name = some k := hfound.trans (Key.ofText?_of_isKeyText hvalid)
    rw [lookup_of_lookupKey? hkey h, m.octetsUnder_key (k := k) rfl]
  | false => rw [lookup, hfound, Key.ofText?_eq_none hvalid, m.octetsUnder_eq_nil hvalid]

-- ---------------------------------------------------------------------------
-- Pairs
-- ---------------------------------------------------------------------------

/-- Whether an entry is one of text, and its octets are visible. -/
def isReadable (e : Key × List UInt8) : Bool :=
  !e.1.isBinary && e.2.all isVisible

/-- The pairs are the readable entries, each once, in order. -/
theorem pairs_eq_entries (m : Metadata) :
    m.textPairs.map (fun p => (p.1, utf8 p.2)) = m.entries.filter isReadable := by
  unfold textPairs
  induction m.entries with
  | nil => rfl
  | cons e es ih =>
    cases hbinary : e.1.isBinary with
    | true =>
      rw [List.filter_cons_of_neg (by simp [hbinary]), ih,
        List.filter_cons_of_neg (by simp [isReadable, hbinary])]
    | false =>
      rw [List.filter_cons_of_pos (by simp [hbinary])]
      cases htext : text? e.2 with
      | none =>
        have hunreadable : isReadable e = false := by
          rw [text?, ite_eq_right_iff] at htext
          simpa [isReadable, hbinary] using htext
        rw [List.filterMap_cons_none (by simp [htext]), ih,
          List.filter_cons_of_neg (by simp [hunreadable])]
      | some s =>
        obtain ⟨hvisible, hs⟩ := text?_eq_some_iff.mp htext
        rw [List.filterMap_cons_some (b := (e.1, s)) (by simp [htext]), List.map_cons, ih, hs,
          List.filter_cons_of_pos (by simp [isReadable, hbinary, hvisible])]

/-- The pairs under a name are the readable texts of the entries under the name. -/
theorem pairs_under (m : Metadata) (h : namesBinary name = false) :
    (m.textPairs.filter (·.1.text = lower name)).map Prod.snd
      = (m.octetsUnder name).filterMap text? := by
  unfold textPairs octetsUnder
  rw [List.filterMap_filter, List.filter_filterMap, List.map_filterMap, List.filterMap_map,
    List.filterMap_filter]
  -- both sides go through the entries now, and choose from each of them
  refine congrArg (fun choose => m.entries.filterMap choose) (funext fun e => ?_)
  by_cases hkey : e.1.text = lower name
  · have hbinary : e.1.isBinary = false := by
      rw [Key.isBinary, hkey]
      exact h
    cases htext : text? e.2 with
    | none => simp [htext]
    | some s => simp [htext, hkey, hbinary, Option.filter]
  · cases text? e.2 with
    | none => simp [hkey]
    | some s =>
      cases e.1.isBinary with
      | true => simp [hkey]
      | false => simp [hkey, Option.filter]

-- ---------------------------------------------------------------------------
-- Texts under a name
-- ---------------------------------------------------------------------------

/-- The first text under a name is that of the first entry under the name. -/
theorem get?_eq_some_iff (h : namesBinary name = false) {s : String} :
    m.get? name = some s ↔
      ∃ e, m.entries.find? (·.1.text = lower name) = some e ∧ e.2.all isVisible = true ∧
        e.2 = utf8 s := by
  rw [get?, m.lookup_eq_entries h, octetsUnder, List.head?_map, List.head?_filter,
    Option.bind_eq_some_iff]
  constructor
  · rintro ⟨octets, hfirst, htext⟩
    obtain ⟨e, he, rfl⟩ := Option.map_eq_some_iff.mp hfirst
    obtain ⟨hvisible, hs⟩ := text?_eq_some_iff.mp htext
    exact ⟨e, he, hvisible, hs.symm⟩
  · rintro ⟨e, he, hvisible, hs⟩
    exact ⟨e.2, Option.map_eq_some_iff.mpr ⟨e, he, rfl⟩,
      text?_eq_some_iff.mpr ⟨hvisible, hs.symm⟩⟩

/-- A first text that can be read is the first of all that can be read. -/
theorem head?_texts {s : String} (h : m.get? name = some s) :
    (m.texts name).head? = some s := by
  unfold get? at h
  unfold texts
  cases hlookup : m.lookup name with
  | nil =>
    rw [hlookup] at h
    cases h
  | cons v vs =>
    rw [hlookup] at h
    have hv : text? v = some s := h
    rw [List.filterMap_cons_some hv, List.head?_cons]

/-- What is said of the views of metadata, and of a name. -/
structure ViewsAgree (m : Metadata) (name : String) : Prop where
  /-- The texts under a name are those of the pairs under the name in lower case, in order. -/
  texts : m.texts name = (m.textPairs.filter (·.1.text = lower name)).map Prod.snd
  /-- There are none under a name that no key can have. -/
  invalid : isKeyText (lower name) = false → m.texts name = []
  /-- The first text is that of the first entry under the name, if that one can be read. -/
  first : ∀ s, m.get? name = some s ↔
    ∃ e, m.entries.find? (·.1.text = lower name) = some e ∧ e.2.all isVisible = true ∧
      e.2 = utf8 s
  /-- It stands in front of the texts then. -/
  head : ∀ s, m.get? name = some s → (m.texts name).head? = some s
  /-- No key is listed twice. -/
  distinct : m.textKeys.Nodup
  /-- The keys are those of the text entries, whether these can be read or not. -/
  keys : ∀ k, k ∈ m.textKeys ↔ k.isBinary = false ∧ ∃ v, (k, v) ∈ m.entries
  /-- The pairs are the text entries that can be read, one for one, in order. -/
  pairs : m.textPairs.map (fun p => (p.1, utf8 p.2)) = m.entries.filter isReadable

/-- **Views.** Whatever the metadata, and whatever the name as long as it does not end in `-bin`,
in any letter case: the four views of a carrier agree with the entries, and so with each
other. -/
theorem viewsAgree (m : Metadata) (name : String) (h : namesBinary name = false) :
    m.ViewsAgree name where
  texts := by rw [Metadata.texts, m.lookup_eq_entries h, m.pairs_under h]
  invalid hinvalid := by
    rw [Metadata.texts, m.lookup_eq_entries h, m.octetsUnder_eq_nil hinvalid, List.filterMap_nil]
  first _ := get?_eq_some_iff h
  head _ := head?_texts
  distinct := m.distinct.filter _
  keys k := by
    rw [textKeys, List.mem_filter, Bool.not_eq_true', mem_keys_iff, and_comm]
  pairs := m.pairs_eq_entries

/-- A key with two values that can be read and one that cannot, and a binary entry among them. -/
def mixed : Metadata :=
  ((((∅ : Metadata).append ⟨"note", by decide⟩ (utf8 "a")).append ⟨"note", by decide⟩
    (utf8 "é")).append ⟨"trace-bin", by decide⟩ [0, 1]).append ⟨"note", by decide⟩ (utf8 "b")

example : mixed.texts "Note" = ["a", "b"] ∧ mixed.get? "NOTE" = some "a" ∧
    mixed.textPairs.map Prod.snd = ["a", "b"] ∧ mixed.textKeys.map Key.text = ["note"] := by
  decide

theorem viewsAgree_mixed : namesBinary "Note" = false ∧ mixed.ViewsAgree "Note" :=
  ⟨by decide, viewsAgree mixed "Note" (by decide)⟩

end Metadata

end CallSpan
