/-!
# Metadata keys

A metadata entry is named by a **key**: 1 to 65535 letters, digits and the
characters that header names may hold, with letters in lower case. A key that
ends in `-bin` names **binary** entries, any other key names **text** entries.

* `Key.ofText?`          — the key that a text names, in any letter case.
* `Key.ofText?_text`     — a key names itself.
-/

namespace CallSpan

/-- A letter in lower case, any other character as it is. -/
def lowerChar (c : Char) : Char :=
  if 65 ≤ c.toNat ∧ c.toNat ≤ 90 then Char.ofNat (c.toNat + 32) else c

/-- A text with its ASCII letters in lower case. -/
def lower (s : String) : String :=
  String.ofList (s.toList.map lowerChar)

/-- A lower-case letter, a digit, or a character that header names may hold. -/
def isKeyChar (c : Char) : Bool :=
  (97 ≤ c.toNat && c.toNat ≤ 122) || (48 ≤ c.toNat && c.toNat ≤ 57) ||
    ['!', '#', '$', '%', '&', Char.ofNat 39, '*', '+', '-', '.', '^', '_', Char.ofNat 96, '|',
      '~'].contains c

/-- What a key looks like. -/
def isKeyText (s : String) : Bool :=
  s.toList.all isKeyChar && 1 ≤ s.length && s.length ≤ 65535

/-- The ending of the keys of binary entries. -/
def binaryEnding : List Char := ['-', 'b', 'i', 'n']

/-- The name of metadata entries. -/
@[ext] structure Key where
  text : String
  valid : isKeyText text = true
  deriving DecidableEq

namespace Key

/-- The key that a text names: the text in lower case, if a key looks like that. -/
def ofText? (s : String) : Option Key :=
  if h : isKeyText (lower s) = true then some ⟨lower s, h⟩ else none

/-- Whether the key's entries are binary. -/
def isBinary (k : Key) : Bool :=
  binaryEnding.isSuffixOf k.text.toList

/-- The order of keys: that of their texts, octet by octet. -/
def before (a b : Key) : Bool :=
  decide (a.text < b.text)

end Key

theorem lowerChar_eq_self {c : Char} (h : isKeyChar c = true) : lowerChar c = c := by
  unfold lowerChar
  split
  · rename_i hc
    exfalso
    have upper : ∀ n, n < 91 → 65 ≤ n → isKeyChar (Char.ofNat n) = false := by decide
    have hf := upper c.toNat (by omega) hc.1
    rw [Char.ofNat_toNat] at hf
    simp [hf] at h
  · rfl

/-- A text that a key may have is in lower case. -/
theorem lower_eq_self {s : String} (h : isKeyText s = true) : lower s = s := by
  simp only [isKeyText, Bool.and_eq_true, List.all_eq_true] at h
  have : s.toList.map lowerChar = s.toList.map id :=
    List.map_congr_left fun c hc => lowerChar_eq_self (h.1.1 c hc)
  rw [lower, this, List.map_id, String.ofList_toList]

/-- A key names itself. -/
theorem Key.ofText?_text (k : Key) : Key.ofText? k.text = some k := by
  have h := lower_eq_self k.valid
  unfold Key.ofText?
  rw [dif_pos (by rw [h]; exact k.valid)]
  exact congrArg some (Key.ext h)

/-- A key has the text that names it, in lower case. -/
theorem Key.text_of_ofText? {s : String} {k : Key} (h : Key.ofText? s = some k) :
    k.text = lower s := by
  unfold Key.ofText? at h
  split at h
  · cases h
    rfl
  · cases h

end CallSpan
