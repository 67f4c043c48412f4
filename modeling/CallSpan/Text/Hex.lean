/-!
# Hexadecimal numbers

Ids and flags travel as hexadecimal text. **Reading** takes digits of either
case, any number of leading zeros and one leading plus sign, and refuses a
value that does not fit below a given bound. **Writing** gives a fixed number
of lower-case digits.

* `digits_eq_map` — which digit stands at each place of a written form.
* `read?_digits`  — reading a written form gives the number back.
-/

namespace CallSpan.Text.Hex

/-- The value of one digit, in either case. -/
def digit? (c : Char) : Option Nat :=
  let n := c.toNat
  if 48 ≤ n ∧ n ≤ 57 then some (n - 48)
  else if 97 ≤ n ∧ n ≤ 102 then some (n - 87)
  else if 65 ≤ n ∧ n ≤ 70 then some (n - 55)
  else none

/-- The number that digits denote behind a value read so far. -/
def valueFrom? (acc : Nat) : List Char → Option Nat
  | [] => some acc
  | c :: cs => (digit? c).bind fun d => valueFrom? (acc * 16 + d) cs

/-- The number below `bound` that a text denotes: digits, at least one, behind at
most one plus sign. -/
def read? (bound : Nat) (cs : List Char) : Option Nat :=
  let digits := if cs.head? = some '+' then cs.tail else cs
  if digits.isEmpty then none
  else (valueFrom? 0 digits).filter (· < bound)

/-- The lower-case digit of a value below sixteen. -/
def lowerDigit (d : Nat) : Char :=
  if d < 10 then Char.ofNat (48 + d) else Char.ofNat (87 + d)

/-- The upper-case digit of a value below sixteen. -/
def upperDigit (d : Nat) : Char :=
  if d < 10 then Char.ofNat (48 + d) else Char.ofNat (55 + d)

/-- The last `width` lower-case digits of a number. -/
def digits : Nat → Nat → List Char
  | 0, _ => []
  | width + 1, n => digits width (n / 16) ++ [lowerDigit (n % 16)]

/-- Two lower-case digits a byte. -/
def ofBytes (bytes : List UInt8) : List Char :=
  bytes.flatMap fun b => digits 2 b.toNat

/-- The bytes that pairs of digits denote. -/
def toBytes? : List Char → Option (List UInt8)
  | [] => some []
  | [_] => none
  | h :: l :: rest => do
    let hi ← digit? h
    let lo ← digit? l
    let bytes ← toBytes? rest
    some (UInt8.ofNat (hi * 16 + lo) :: bytes)

@[simp] theorem length_digits (width n : Nat) : (digits width n).length = width := by
  induction width generalizing n with
  | zero => rfl
  | succ width ih => simp [digits, ih]

/-- The lower-case digits, in order. -/
theorem lowerDigit_eq : ∀ d, d < 16 → lowerDigit d = "0123456789abcdef".toList.getD d '0' := by
  decide

/-- A written form has its highest place first, and each place is four bits. -/
theorem digits_eq_map (width n : Nat) :
    digits width n
      = (List.range width).map fun i => lowerDigit (n >>> (4 * (width - 1 - i)) % 16) := by
  induction width generalizing n with
  | zero => rfl
  | succ width ih =>
    have hfirst : n / 16 = n >>> 4 := (Nat.shiftRight_eq_div_pow n 4).symm
    have hplaces : ∀ i ∈ List.range width, lowerDigit (n >>> 4 >>> (4 * (width - 1 - i)) % 16)
        = lowerDigit (n >>> (4 * (width - i)) % 16) := by
      intro i hi
      have hi' := List.mem_range.mp hi
      rw [← Nat.shiftRight_add, show 4 + 4 * (width - 1 - i) = 4 * (width - i) by omega]
    rw [digits, hfirst, ih, List.range_succ, List.map_append, List.map_congr_left hplaces]
    simp

/-- Each value below sixteen is the value of its lower-case digit. -/
theorem digit?_lowerDigit : ∀ d, d < 16 → digit? (lowerDigit d) = some d := by decide

private theorem valueFrom?_append (acc : Nat) (cs ds : List Char) :
    valueFrom? acc (cs ++ ds) = (valueFrom? acc cs).bind (valueFrom? · ds) := by
  induction cs generalizing acc with
  | nil => rfl
  | cons c cs ih =>
    simp only [List.cons_append, valueFrom?]
    cases digit? c with
    | none => rfl
    | some d => exact ih _

private theorem valueFrom?_digits (width n acc : Nat) :
    valueFrom? acc (digits width n) = some (acc * Nat.pow 16 width + n % Nat.pow 16 width) := by
  show valueFrom? acc (digits width n) = some (acc * 16 ^ width + n % 16 ^ width)
  induction width generalizing n with
  | zero => simp [digits, valueFrom?, Nat.mod_one]
  | succ width ih =>
    rw [digits, valueFrom?_append, ih]
    simp only [Option.bind_some, valueFrom?, digit?_lowerDigit _ (Nat.mod_lt n (by decide))]
    congr 1
    rw [Nat.pow_succ, Nat.mul_comm (16 ^ width) 16, Nat.mod_mul]
    rw [Nat.add_mul]
    have : acc * (16 * 16 ^ width) = acc * 16 ^ width * 16 := by
      rw [Nat.mul_comm 16, Nat.mul_assoc]
    omega

private theorem lowerDigit_ne_plus : ∀ d, d < 16 → lowerDigit d ≠ '+' := by decide

/-- No written form begins with a plus sign. -/
theorem head?_digits_ne_plus (width n : Nat) : (digits width n).head? ≠ some '+' := by
  induction width generalizing n with
  | zero => simp [digits]
  | succ width ih =>
    rw [digits]
    cases width with
    | zero =>
      simp only [digits, List.nil_append, List.head?_cons, ne_eq, Option.some.injEq]
      exact lowerDigit_ne_plus _ (Nat.mod_lt n (by decide))
    | succ width =>
      have h := ih (n / 16)
      cases hd : digits (width + 1) (n / 16) with
      | nil =>
        have hlen := length_digits (width + 1) (n / 16)
        simp [hd] at hlen
      | cons c cs => simpa [hd] using h

/-- Reading a written form gives the number back. -/
theorem read?_digits {width n bound : Nat} (hw : 0 < width) (hn : n < Nat.pow 16 width)
    (hb : n < bound) : read? bound (digits width n) = some n := by
  have hne : (digits width n).isEmpty = false := by
    cases hd : digits width n with
    | nil =>
      have := congrArg List.length hd
      simp at this
      omega
    | cons => rfl
  simp only [read?, head?_digits_ne_plus, if_false, hne, Bool.false_eq_true,
    valueFrom?_digits, Nat.zero_mul, Nat.zero_add, Nat.mod_eq_of_lt hn]
  simp [Option.filter, hb]

end CallSpan.Text.Hex
