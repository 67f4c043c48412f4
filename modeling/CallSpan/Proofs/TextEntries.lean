import CallSpan.Metadata.Carrier
import CallSpan.Proofs.LegibleText

/-!
# Text entries of metadata

A carrier is asked by name. For the name of a text key the answers are those of the
entries under that key: the reader gives the first of them, if it is readable, and the
writer adds one at their end, if metadata can hold it.

* `Metadata.get?_text`        — what is read under a text key.
* `Metadata.put_text`         — what is stored under a text key.
* `Metadata.get?_put_text`    — what is read after a text was stored.
-/

namespace CallSpan

open Text

/-- Metadata can hold what can be read. -/
theorem isFieldByte_of_isVisible {b : UInt8} (h : isVisible b = true) : isFieldByte b = true := by
  rw [isVisible_iff] at h
  rw [isFieldByte_iff]
  omega

namespace Metadata

variable {m : Metadata} {k k' : Key} {value : String}

-- ---------------------------------------------------------------------------
-- Entries
-- ---------------------------------------------------------------------------

/-- A first value of a key stands behind all entries. -/
theorem entries_append (h : m.values k = []) (v : List UInt8) :
    (m.append k v).entries = m.entries ++ [(k, v)] := by
  have hkeys : k ∉ m.groups.keys := (values_eq_nil_iff m k).mp h
  have hgroups : m.groups.append k v = m.groups ++ [(k, [v])] := by
    generalize m.groups = gs at hkeys
    induction gs with
    | nil => rfl
    | cons g gs ih =>
      simp only [Groups.keys, List.map_cons, List.mem_cons, not_or] at hkeys
      rw [Groups.append, if_neg (Ne.symm hkeys.1), ih hkeys.2, List.cons_append]
  show (m.groups.append k v).flatMap (fun g => g.2.map fun v => (g.1, v)) = _
  rw [hgroups, List.flatMap_append]
  rfl

-- ---------------------------------------------------------------------------
-- Reading
-- ---------------------------------------------------------------------------

/-- A key of text entries is found under its own text. -/
theorem lookupKey?_text (hk : k.isBinary = false) : lookupKey? k.text = some k := by
  rw [lookupKey?, if_neg, Key.ofText?_text]
  exact fun h => absurd (hk.symm.trans h) Bool.false_ne_true

/-- Under a name that finds a key of text entries, a look-up finds the values of the key. -/
theorem lookup_of_lookupKey? {name : String} (h : lookupKey? name = some k)
    (hk : k.isBinary = false) : m.lookup name = m.values k := by
  have hwire : wireForm k = id := by
    funext v
    exact if_neg (by simp [hk])
  rw [lookup, h]
  show (m.values k).map (wireForm k) = m.values k
  rw [hwire, List.map_id]

theorem lookup_text (hk : k.isBinary = false) : m.lookup k.text = m.values k :=
  lookup_of_lookupKey? (lookupKey?_text hk) hk

/-- What is read under a text key is the first of its values, if it is readable. -/
theorem get?_text (hk : k.isBinary = false) :
    m.get? k.text = (m.values k).head?.bind text? := by
  rw [get?, lookup_text hk]

theorem isPresent_text : m.isPresent k.text = true ↔ m.values k ≠ [] := by
  rw [isPresent, Key.ofText?_text, ne_eq, values_eq_nil_iff, Decidable.not_not]
  exact List.contains_iff_mem

-- ---------------------------------------------------------------------------
-- Storing
-- ---------------------------------------------------------------------------

/-- A text entry is accepted under a text key, if metadata can hold its octets. -/
theorem checkEntry_text {name : String} {bytes : List UInt8} (hname : Key.ofText? name = some k)
    (hk : k.isBinary = false) (hbytes : bytes.all isFieldByte = true) :
    checkEntry name (.text bytes) = .ok (k, bytes) := by
  unfold checkEntry
  rw [hname]
  show (if k.isBinary then _ else _) = _
  rw [hk, if_neg Bool.false_ne_true, if_pos hbytes]

/-- What is accepted is stored. -/
theorem put_of_checkEntry {name : String} {e : Key × List UInt8}
    (h : checkEntry name (.text (utf8 value)) = .ok e) : m.put name value = m.append e.1 e.2 := by
  unfold put append?
  rw [h]
  rfl

/-- A text that can be read back is stored at the end of its key's values. -/
theorem put_text (hk : k.isBinary = false) (hv : ∀ c ∈ value.toList, isVisibleChar c = true) :
    m.put k.text value = m.append k (utf8 value) := by
  have hbytes : (utf8 value).all isFieldByte = true := by
    have hread := text?_utf8 hv
    rw [text?, Option.ite_none_right_eq_some] at hread
    rw [List.all_eq_true] at hread ⊢
    exact fun b hb => isFieldByte_of_isVisible (hread.1 b hb)
  exact put_of_checkEntry (checkEntry_text k.ofText?_text hk hbytes)

theorem values_put_text (hk : k.isBinary = false)
    (hv : ∀ c ∈ value.toList, isVisibleChar c = true) :
    (m.put k.text value).values k' = m.values k' ++ if k = k' then [utf8 value] else [] := by
  rw [put_text hk hv, values_append]

/-- The text that was stored is read only if it is the first under its key. -/
theorem get?_put_text (hk : k.isBinary = false) (hk' : k'.isBinary = false)
    (hv : ∀ c ∈ value.toList, isVisibleChar c = true) :
    (m.put k.text value).get? k'.text
      = if k = k' ∧ m.values k' = [] then some value else m.get? k'.text := by
  rw [get?_text hk', get?_text hk', values_put_text hk hv]
  by_cases hkk : k = k'
  · rw [if_pos hkk]
    cases hvalues : m.values k' with
    | nil =>
      rw [if_pos ⟨hkk, rfl⟩]
      exact text?_utf8 hv
    | cons v vs =>
      rw [if_neg fun h => List.cons_ne_nil v vs h.2]
      rfl
  · rw [if_neg hkk, if_neg fun h => hkk h.1, List.append_nil]

end Metadata

end CallSpan
