/-!
# Texts as octets

Metadata values are strings of octets. A text is stored as its UTF-8 form; a
stored value is read as text only when every octet is **visible**: a tab or a
character from space to tilde.

* `text?_utf8` — a text of visible characters is read back from its octets.
-/

namespace CallSpan.Text

def utf8 (s : String) : List UInt8 :=
  s.toList.flatMap String.utf8EncodeChar

/-- The text that octets are the UTF-8 form of. -/
def ofUtf8? (bytes : List UInt8) : Option String :=
  String.fromUTF8? ⟨bytes.toArray⟩

/-- A tab, or a character from space to tilde. -/
def isVisible (b : UInt8) : Bool :=
  b == 0x09 || (0x20 ≤ b && b ≤ 0x7E)

/-- A character whose UTF-8 form is one visible octet. -/
def isVisibleChar (c : Char) : Bool :=
  c.toNat == 0x09 || (0x20 ≤ c.toNat && c.toNat ≤ 0x7E)

/-- Octets below 128 as the characters they are. -/
def ofAscii (bytes : List UInt8) : String :=
  String.ofList (bytes.map fun b => Char.ofNat b.toNat)

/-- The text of octets that are all visible. -/
def text? (bytes : List UInt8) : Option String :=
  if bytes.all isVisible then some (ofAscii bytes) else none

private theorem toNat_toUInt8 {c : Char} (h : c.toNat ≤ 0x7F) :
    c.val.toUInt8.toNat = c.toNat := by
  have : c.val.toNat = c.toNat := rfl
  simp only [UInt32.toNat_toUInt8, this]
  omega

/-- The UTF-8 form of an ASCII character is that one octet. -/
theorem utf8EncodeChar_ascii {c : Char} (h : c.toNat ≤ 0x7F) :
    String.utf8EncodeChar c = [c.val.toUInt8] := by
  have hv : c.val.toNat ≤ 127 := h
  simp only [String.utf8EncodeChar, if_pos hv]
  rfl

private theorem isVisible_toUInt8 {c : Char} (h : isVisibleChar c = true) :
    isVisible c.val.toUInt8 = true := by
  have hle : c.toNat ≤ 0x7F := by
    simp only [isVisibleChar, Bool.or_eq_true, beq_iff_eq, Bool.and_eq_true,
      decide_eq_true_eq] at h
    omega
  have hn := toNat_toUInt8 hle
  simp only [isVisibleChar, Bool.or_eq_true, beq_iff_eq, Bool.and_eq_true,
    decide_eq_true_eq] at h
  simp only [isVisible, Bool.or_eq_true, beq_iff_eq, Bool.and_eq_true, decide_eq_true_eq,
    UInt8.le_iff_toNat_le, ← UInt8.toNat_inj, hn]
  exact h

/-- Octets of a text of visible characters, one a character. -/
theorem utf8_ofList {cs : List Char} (h : ∀ c ∈ cs, isVisibleChar c = true) :
    utf8 (String.ofList cs) = cs.map (·.val.toUInt8) := by
  simp only [utf8, String.toList_ofList]
  induction cs with
  | nil => rfl
  | cons c cs ih =>
    have hc := h c (by simp)
    simp only [isVisibleChar, Bool.or_eq_true, beq_iff_eq, Bool.and_eq_true,
      decide_eq_true_eq] at hc
    rw [List.flatMap_cons, utf8EncodeChar_ascii (by omega),
      ih fun d hd => h d (List.mem_cons_of_mem _ hd)]
    rfl

/-- A text of visible characters is read back from its octets. -/
theorem text?_utf8 {s : String} (h : ∀ c ∈ s.toList, isVisibleChar c = true) :
    text? (utf8 s) = some s := by
  have hs : utf8 s = s.toList.map (·.val.toUInt8) := by
    have := utf8_ofList h
    rwa [String.ofList_toList] at this
  rw [hs, text?, if_pos]
  · rw [ofAscii, List.map_map]
    have : s.toList.map ((fun b => Char.ofNat b.toNat) ∘ fun c : Char => c.val.toUInt8)
        = s.toList.map id := by
      apply List.map_congr_left
      intro c hc
      have hv := h c hc
      simp only [isVisibleChar, Bool.or_eq_true, beq_iff_eq, Bool.and_eq_true,
        decide_eq_true_eq] at hv
      simp only [Function.comp_apply, id_eq]
      rw [toNat_toUInt8 (by omega), Char.ofNat_toNat]
    rw [this, List.map_id, String.ofList_toList]
  · rw [List.all_map, List.all_eq_true]
    intro c hc
    exact isVisible_toUInt8 (h c hc)

end CallSpan.Text
