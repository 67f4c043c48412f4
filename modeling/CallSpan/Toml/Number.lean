/-!
# Numbers in configuration files

An **integer** is decimal, with an optional sign and no leading zeros, or has one
of the marks `0x`, `0o`, `0b` and no sign. A **float** has a fraction or an
exponent, or is infinite or not a number by name. Single underscores may stand
between digits. Integers from `-2^127` to `2^128 - 1` can be held; a float that
would round to infinity cannot.

* `integer?`  — the integer that a word denotes.
* `isFloat`   — whether a word is a float that can be held.
-/

namespace CallSpan.Toml.Number

/-- The value of a digit in a base of at most sixteen. -/
def digit? (base : Nat) (c : Char) : Option Nat :=
  let n := c.toNat
  let d :=
    if 48 ≤ n ∧ n ≤ 57 then n - 48
    else if 97 ≤ n ∧ n ≤ 102 then n - 87
    else if 65 ≤ n ∧ n ≤ 70 then n - 55
    else base
  if d < base then some d else none

/-- Digits with single underscores between them: what is read behind a digit. -/
def digitsAfter (base : Nat) : List Char → Option (List Nat)
  | [] => some []
  | ['_'] => none
  | '_' :: c :: cs => do
    let d ← digit? base c
    let ds ← digitsAfter base cs
    some (d :: ds)
  | c :: cs => do
    let d ← digit? base c
    let ds ← digitsAfter base cs
    some (d :: ds)

/-- Digits, at least one, with single underscores between them. -/
def digits? (base : Nat) : List Char → Option (List Nat)
  | [] => none
  | c :: cs => do
    let d ← digit? base c
    let ds ← digitsAfter base cs
    some (d :: ds)

def value (base : Nat) (ds : List Nat) : Nat :=
  ds.foldl (fun acc d => acc * base + d) 0

/-- A word without its sign, and whether the sign is a minus. -/
def splitSign : List Char → Bool × List Char
  | '+' :: cs => (false, cs)
  | '-' :: cs => (true, cs)
  | cs => (false, cs)

/-- The digits of a decimal number without leading zeros. -/
def decimal? (cs : List Char) : Option (List Nat) :=
  (digits? 10 cs).filter fun ds => ds.length = 1 || ds.head? != some 0

/-- The integers that can be held. -/
def inRange (n : Int) : Bool :=
  -Int.pow 2 127 ≤ n && n < Int.pow 2 128

/-- The integer that a word denotes. -/
def integer? (word : List Char) : Option Int :=
  let n :=
    match word with
    | '0' :: 'x' :: cs => (digits? 16 cs).map fun ds => (value 16 ds : Int)
    | '0' :: 'o' :: cs => (digits? 8 cs).map fun ds => (value 8 ds : Int)
    | '0' :: 'b' :: cs => (digits? 2 cs).map fun ds => (value 2 ds : Int)
    | _ =>
      let (negative, cs) := splitSign word
      (decimal? cs).map fun ds => if negative then -(value 10 ds : Int) else value 10 ds
  n.filter inRange

/-- Whether `mantissa * 10 ^ exponent` would round to infinity: it does from halfway
between the greatest double and the power of two behind it. -/
def overflows (mantissa : List Nat) (exponent : Int) : Bool :=
  let bound := Nat.pow 2 1024 - Nat.pow 2 970
  let mantissa := mantissa.dropWhile (· = 0)
  let magnitude := exponent + mantissa.length
  -- only between these magnitudes the powers of ten have to be computed
  if mantissa.isEmpty || magnitude < 300 then false
  else if 320 < magnitude then true
  else if 0 ≤ exponent then bound ≤ value 10 mantissa * Nat.pow 10 exponent.toNat
  else bound * Nat.pow 10 (-exponent).toNat ≤ value 10 mantissa

/-- An exponent: digits, zeros in front allowed, behind an optional sign. -/
def exponent? (cs : List Char) : Option Int :=
  let (negative, cs) := splitSign cs
  (digits? 10 cs).map fun ds => if negative then -(value 10 ds : Int) else value 10 ds

/-- Whether a word without its sign is a float that can be held. -/
def isPlainFloat (cs : List Char) : Bool :=
  let isE := fun c => c == 'e' || c == 'E'
  let mantissa := cs.takeWhile fun c => !isE c
  let whole := mantissa.takeWhile (· != '.')
  let fraction :=
    match mantissa.dropWhile (· != '.') with
    | [] => some []
    | _ :: frac => digits? 10 frac
  let exponent :=
    match cs.dropWhile fun c => !isE c with
    | [] => some 0
    | _ :: e => exponent? e
  let marked := mantissa.contains '.' || cs.any isE
  match decimal? whole, fraction, exponent with
  | some w, some f, some e => marked && !overflows (w ++ f) (e - f.length)
  | _, _, _ => false

def isFloat (word : List Char) : Bool :=
  let (_, cs) := splitSign word
  cs == ['i', 'n', 'f'] || cs == ['n', 'a', 'n'] || isPlainFloat cs

end CallSpan.Toml.Number
