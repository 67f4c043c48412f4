import CallSpan.Metadata.Basic
import CallSpan.Text.Octets

/-!
# Texts that can be stored, and texts that can be read

A value of metadata is octets, and two tests decide about it. It can be **stored** if it holds
no control but the tab, and it can be **read** if it is all visible. On a text both come down to
its characters, but they do not agree: every octet of a character beyond ASCII passes the first
test, and none passes the second.

* `Text.all_utf8`           — a test of octets as a test of characters.
* `Text.text?_utf8_eq`      — a text is read back from its octets, or nothing is.
* `Text.text?_eq_some_iff`  — what is read is the text that has these octets.
-/

namespace CallSpan.Text

/-- A character that a text value may hold: a tab, or anything that is no ASCII control. -/
def isFieldChar (c : Char) : Bool :=
  c.toNat == 0x09 || (0x20 ≤ c.toNat && c.toNat != 0x7F)

-- ---------------------------------------------------------------------------
-- Octets of one character
-- ---------------------------------------------------------------------------

/-- Beyond ASCII, every octet of a character is at least 128. -/
theorem le_of_mem_utf8EncodeChar {c : Char} (h : 0x7F < c.toNat) {b : UInt8}
    (hb : b ∈ String.utf8EncodeChar c) : 0x80 ≤ b.toNat := by
  have hv : ¬ c.val.toNat ≤ 127 := Nat.not_le.mpr h
  simp only [String.utf8EncodeChar, if_neg hv] at hb
  split at hb
  · simp only [List.mem_cons, List.not_mem_nil, or_false] at hb
    rcases hb with rfl | rfl <;> rw [UInt8.toNat_ofNat'] <;> omega
  · split at hb
    · simp only [List.mem_cons, List.not_mem_nil, or_false] at hb
      rcases hb with rfl | rfl | rfl <;> rw [UInt8.toNat_ofNat'] <;> omega
    · simp only [List.mem_cons, List.not_mem_nil, or_false] at hb
      rcases hb with rfl | rfl | rfl | rfl <;> rw [UInt8.toNat_ofNat'] <;> omega

/-- In ASCII, a character is its one octet. -/
theorem exists_utf8EncodeChar {c : Char} (h : c.toNat ≤ 0x7F) :
    ∃ b : UInt8, String.utf8EncodeChar c = [b] ∧ b.toNat = c.toNat := by
  refine ⟨c.val.toUInt8, utf8EncodeChar_ascii h, ?_⟩
  have hv : c.val.toNat = c.toNat := rfl
  rw [UInt32.toNat_toUInt8, hv]
  omega

theorem isVisible_iff {b : UInt8} :
    isVisible b = true ↔ b.toNat = 0x09 ∨ (0x20 ≤ b.toNat ∧ b.toNat ≤ 0x7E) := by
  simp only [isVisible, Bool.or_eq_true, beq_iff_eq, Bool.and_eq_true, decide_eq_true_eq,
    UInt8.le_iff_toNat_le, ← UInt8.toNat_inj]
  rfl

theorem isFieldByte_iff {b : UInt8} :
    isFieldByte b = true ↔ b.toNat = 0x09 ∨ (0x20 ≤ b.toNat ∧ b.toNat ≠ 0x7F) := by
  simp only [isFieldByte, Bool.or_eq_true, beq_iff_eq, Bool.and_eq_true, decide_eq_true_eq,
    bne_iff_ne, ne_eq, UInt8.le_iff_toNat_le, ← UInt8.toNat_inj]
  rfl

theorem isVisibleChar_iff {c : Char} :
    isVisibleChar c = true ↔ c.toNat = 0x09 ∨ (0x20 ≤ c.toNat ∧ c.toNat ≤ 0x7E) := by
  simp only [isVisibleChar, Bool.or_eq_true, beq_iff_eq, Bool.and_eq_true, decide_eq_true_eq]

theorem isFieldChar_iff {c : Char} :
    isFieldChar c = true ↔ c.toNat = 0x09 ∨ (0x20 ≤ c.toNat ∧ c.toNat ≠ 0x7F) := by
  simp only [isFieldChar, Bool.or_eq_true, beq_iff_eq, Bool.and_eq_true, decide_eq_true_eq,
    bne_iff_ne]

theorem all_isVisible_utf8EncodeChar (c : Char) :
    (String.utf8EncodeChar c).all isVisible = isVisibleChar c := by
  rw [Bool.eq_iff_iff, List.all_eq_true, isVisibleChar_iff]
  by_cases hc : c.toNat ≤ 0x7F
  · obtain ⟨b, hb, hbc⟩ := exists_utf8EncodeChar hc
    rw [hb]
    simp only [List.forall_mem_singleton, isVisible_iff, hbc]
  · -- beyond ASCII there is an octet, and it is not visible
    have hlen : 0 < (String.utf8EncodeChar c).length := by
      rw [String.length_utf8EncodeChar]
      exact c.utf8Size_pos
    constructor
    · intro h
      have hvisible := isVisible_iff.mp (h _ (List.getElem_mem hlen))
      have hbeyond := le_of_mem_utf8EncodeChar (by omega) (List.getElem_mem hlen)
      omega
    · omega

theorem all_isFieldByte_utf8EncodeChar (c : Char) :
    (String.utf8EncodeChar c).all isFieldByte = isFieldChar c := by
  rw [Bool.eq_iff_iff, List.all_eq_true, isFieldChar_iff]
  by_cases hc : c.toNat ≤ 0x7F
  · obtain ⟨b, hb, hbc⟩ := exists_utf8EncodeChar hc
    rw [hb]
    simp only [List.forall_mem_singleton, isFieldByte_iff, hbc]
  · constructor
    · omega
    · intro _ b hb
      have hbeyond := le_of_mem_utf8EncodeChar (by omega) hb
      rw [isFieldByte_iff]
      omega

-- ---------------------------------------------------------------------------
-- Octets of a text
-- ---------------------------------------------------------------------------

/-- A test that all octets of a text pass, when it is one of characters. -/
theorem all_utf8 {p : UInt8 → Bool} {q : Char → Bool}
    (h : ∀ c, (String.utf8EncodeChar c).all p = q c) (s : String) :
    (utf8 s).all p = s.toList.all q := by
  rw [utf8, List.all_flatMap]
  simp only [h]

/-- What is read of a text's octets is that text, if its characters are visible. -/
theorem text?_utf8_eq (s : String) :
    text? (utf8 s) = if s.toList.all isVisibleChar then some s else none := by
  by_cases hs : s.toList.all isVisibleChar = true
  · rw [if_pos hs]
    exact text?_utf8 (List.all_eq_true.mp hs)
  · rw [if_neg hs, text?, all_utf8 all_isVisible_utf8EncodeChar, if_neg hs]

theorem utf8_ofAscii {bytes : List UInt8} (h : bytes.all isVisible = true) :
    utf8 (ofAscii bytes) = bytes := by
  have hchar : ∀ b ∈ bytes, (Char.ofNat b.toNat).toNat = b.toNat := by
    intro b hb
    have hvisible := isVisible_iff.mp (List.all_eq_true.mp h b hb)
    have hvalid : b.toNat.isValidChar := Or.inl (by omega)
    rw [Char.ofNat, dif_pos hvalid]
    rfl
  have hvisible : ∀ c ∈ bytes.map (fun b => Char.ofNat b.toNat), isVisibleChar c = true := by
    intro c hc
    obtain ⟨b, hb, rfl⟩ := List.mem_map.mp hc
    rw [isVisibleChar_iff, hchar b hb]
    exact isVisible_iff.mp (List.all_eq_true.mp h b hb)
  rw [ofAscii, utf8_ofList hvisible, List.map_map]
  have hback : bytes.map ((fun c : Char => c.val.toUInt8) ∘ fun b => Char.ofNat b.toNat)
      = bytes.map id := by
    apply List.map_congr_left
    intro b hb
    have hn : (Char.ofNat b.toNat).val.toNat = b.toNat := hchar b hb
    rw [Function.comp_apply, id_eq, ← UInt8.toNat_inj, UInt32.toNat_toUInt8, hn]
    exact Nat.mod_eq_of_lt b.toNat_lt
  rw [hback, List.map_id]

/-- A value is read as the text that has these octets, if they are all visible. -/
theorem text?_eq_some_iff {bytes : List UInt8} {s : String} :
    text? bytes = some s ↔ bytes.all isVisible = true ∧ utf8 s = bytes := by
  constructor
  · intro h
    rw [text?, Option.ite_none_right_eq_some] at h
    obtain ⟨hvisible, hs⟩ := h
    obtain rfl := Option.some.inj hs
    exact ⟨hvisible, utf8_ofAscii hvisible⟩
  · rintro ⟨hvisible, rfl⟩
    rw [all_utf8 all_isVisible_utf8EncodeChar] at hvisible
    rw [text?_utf8_eq, if_pos hvisible]

end CallSpan.Text
