import CallSpan.Proofs.CarrierViews

/-!
# What storing a text amounts to

A carrier takes a text under a name, or it ignores it. It takes it if the name is one that a text
key can have and the text holds no control but the tab. It is then behind all values of its key,
and no other key is touched. But the carrier does **not** ask whether the text can be read back:
one with a character beyond ASCII is taken, and no look-up under its name shows it. So what is
read under the name grows by the text, or stays what it was.

Main result:

* `Metadata.put_ignored_or_stored` — the two cases, for every metadata, name and text.
-/

namespace CallSpan

open Text

namespace Metadata

variable {m m' : Metadata} {name value : String}

-- ---------------------------------------------------------------------------
-- What is taken
-- ---------------------------------------------------------------------------

/-- What a carrier takes: a name that a text key can have, in some letter case, and a text
without controls other than the tab. -/
structure Storable (name value : String) : Prop where
  key : isKeyText (lower name) = true
  isText : namesBinary name = false
  held : value.toList.all isFieldChar = true

/-- The key that a text is stored under. -/
def Storable.toKey (h : Storable name value) : Key := ⟨lower name, h.key⟩

/-- What is taken is appended to the values of its key. -/
theorem put_of_storable (m : Metadata) (h : Storable name value) :
    m.put name value = m.append h.toKey (utf8 value) := by
  have hkey : Key.ofText? name = some h.toKey := Key.ofText?_of_isKeyText h.key
  have hheld : (utf8 value).all isFieldByte = true := by
    rw [all_utf8 all_isFieldByte_utf8EncodeChar]
    exact h.held
  exact put_of_checkEntry (checkEntry_text hkey h.isText hheld)

/-- What is not taken is ignored. -/
theorem put_of_not_storable (m : Metadata) (h : ¬ Storable name value) :
    m.put name value = m := by
  have hrefused : ∃ error, checkEntry name (.text (utf8 value)) = .error error := by
    unfold checkEntry
    cases hkey : isKeyText (lower name) with
    | false =>
      rw [Key.ofText?_eq_none hkey]
      exact ⟨_, rfl⟩
    | true =>
      rw [Key.ofText?_of_isKeyText hkey]
      cases hbinary : namesBinary name with
      | true => exact ⟨_, if_pos hbinary⟩
      | false =>
        have hheld : ¬ (utf8 value).all isFieldByte = true := by
          rw [all_utf8 all_isFieldByte_utf8EncodeChar]
          exact fun hheld => h ⟨hkey, hbinary, hheld⟩
        refine ⟨.invalidValue, ?_⟩
        exact (if_neg (Bool.eq_false_iff.mp hbinary)).trans (if_neg hheld)
  obtain ⟨error, herror⟩ := hrefused
  unfold put append?
  rw [herror]
  rfl

-- ---------------------------------------------------------------------------
-- What is read afterwards
-- ---------------------------------------------------------------------------

/-- A look-up under a name goes by the values under the name in lower case. -/
theorem lookup_congr (h : ∀ k : Key, k.text = lower name → m.values k = m'.values k) :
    m.lookup name = m'.lookup name := by
  unfold lookup
  cases hkey : lookupKey? name with
  | none => rfl
  | some k =>
    rw [lookupKey?, Option.ite_none_left_eq_some] at hkey
    show (m.values k).map (wireForm k) = (m'.values k).map (wireForm k)
    rw [h k (Key.text_of_ofText? hkey.2)]

/-- The metadata `m'` is `m` with a text behind the values under a name, and the same otherwise. -/
structure Stored (m m' : Metadata) (name value : String) : Prop where
  /-- The octets of the text stand behind those that the key had. -/
  values : ∀ k : Key, k.text = lower name → m'.values k = m.values k ++ [utf8 value]
  /-- In any letter case, the text is read behind those that were read under the name, if it
  can be read at all. -/
  texts : ∀ other, lower other = lower name →
    m'.texts other = m.texts other ++ if value.toList.all isVisibleChar then [value] else []
  /-- The values of other keys, of text or binary, are as they were, -/
  others : ∀ k : Key, k.text ≠ lower name → m'.values k = m.values k
  /-- and so is what is read of them. -/
  otherTexts : ∀ other, lower other ≠ lower name →
    m'.texts other = m.texts other ∧ m'.get? other = m.get? other

theorem stored_append (m : Metadata) (h : Storable name value) :
    Stored m (m.append h.toKey (utf8 value)) name value := by
  let m' := m.append h.toKey (utf8 value)
  have hvalues : m'.values h.toKey = m.values h.toKey ++ [utf8 value] := by
    rw [values_append, if_pos rfl]
  have hothers : ∀ k : Key, k.text ≠ lower name → m'.values k = m.values k := by
    intro k hk
    have hne : h.toKey ≠ k := fun heq => hk (congrArg Key.text heq).symm
    rw [values_append, if_neg hne, List.append_nil]
  refine ⟨?_, ?_, hothers, ?_⟩
  · intro k hk
    obtain rfl : h.toKey = k := Key.ext hk.symm
    exact hvalues
  · intro other hother
    have hread : ∀ md : Metadata, md.texts other = (md.values h.toKey).filterMap text? := by
      intro md
      have hbinary : namesBinary other = false := by
        rw [namesBinary, hother]
        exact h.isText
      rw [Metadata.texts, md.lookup_eq_entries hbinary,
        md.octetsUnder_key (k := h.toKey) hother.symm]
    rw [hread, hread, hvalues, List.filterMap_append]
    congr 1
    cases hvisible : value.toList.all isVisibleChar with
    | true =>
      have htext : text? (utf8 value) = some value := by rw [text?_utf8_eq, if_pos hvisible]
      rw [List.filterMap_cons_some htext, List.filterMap_nil]
      rfl
    | false =>
      have htext : text? (utf8 value) = none := by
        rw [text?_utf8_eq, if_neg (Bool.eq_false_iff.mp hvisible)]
      rw [List.filterMap_cons_none htext, List.filterMap_nil]
      rfl
  · intro other hother
    have hlookup : m'.lookup other = m.lookup other :=
      lookup_congr fun k hk => hothers k fun heq => hother (hk.symm.trans heq)
    exact ⟨congrArg (List.filterMap text?) hlookup, congrArg (·.head?.bind text?) hlookup⟩

/-- **Storing.** Whatever the metadata, the name and the text: either the text is ignored and the
metadata stays as it was, and then the name is not one for texts or the text holds a control
other than the tab; or the text is behind the values under the name and all else is as it was,
and then what is read under the name grows by the text, if its characters are visible, and stays
as it was if they are not. -/
theorem put_ignored_or_stored (m : Metadata) (name value : String) :
    (¬ Storable name value ∧ m.put name value = m) ∨
      (Storable name value ∧ Stored m (m.put name value) name value) := by
  by_cases h : Storable name value
  · right
    refine ⟨h, ?_⟩
    rw [m.put_of_storable h]
    exact m.stored_append h
  · exact Or.inl ⟨h, m.put_of_not_storable h⟩

/-- A text with a character beyond ASCII is neither ignored nor read back. -/
theorem put_not_read_back :
    ¬ ∀ (m : Metadata) (name value : String), m.put name value = m ∨
      ∀ other, lower other = lower name →
        (m.put name value).texts other = m.texts other ++ [value] := by
  intro h
  rcases h ∅ "note" "é" with hignored | hread
  · have hvalues := congrArg (Metadata.values · ⟨"note", by decide⟩) hignored
    exact absurd hvalues (by decide)
  · exact absurd (hread "note" rfl) (by decide)

end Metadata

end CallSpan
