/-!
# Dates and times in configuration files

A **date** is a year, a month and a day of that month; a **time** is an hour, a
minute and perhaps a second with perhaps a fraction. A date and a time stand
together with a `T` or a blank between them, and then an offset from universal
time may follow.

* `isMoment`  — whether a word is a date, a time, or both.
-/

namespace CallSpan.Toml.Moment

/-- The number that exactly `count` decimal digits at the beginning denote, and the rest. -/
def number? : Nat → Nat → List Char → Option (Nat × List Char)
  | acc, 0, cs => some (acc, cs)
  | _, _ + 1, [] => none
  | acc, count + 1, c :: cs =>
    if 48 ≤ c.toNat ∧ c.toNat ≤ 57 then number? (acc * 10 + (c.toNat - 48)) count cs else none

/-- A number of two digits that is at most `bound`, and the rest. -/
def pair? (bound : Nat) (cs : List Char) : Option (Nat × List Char) :=
  (number? 0 2 cs).filter fun r => r.1 ≤ bound

/-- The rest behind a given character. -/
def behind? (c : Char) : List Char → Option (List Char)
  | [] => none
  | d :: cs => if d = c then some cs else none

def isLeap (year : Nat) : Bool :=
  year % 4 = 0 && (year % 100 != 0 || year % 400 = 0)

def daysIn (year month : Nat) : Nat :=
  match month with
  | 2 => if isLeap year then 29 else 28
  | 4 | 6 | 9 | 11 => 30
  | _ => 31

/-- The rest behind a date. -/
def date? (cs : List Char) : Option (List Char) := do
  let (year, cs) ← number? 0 4 cs
  let cs ← behind? '-' cs
  let (month, cs) ← (pair? 12 cs).filter fun r => 1 ≤ r.1
  let cs ← behind? '-' cs
  let (_, cs) ← (pair? (daysIn year month) cs).filter fun r => 1 ≤ r.1
  some cs

/-- The rest behind a fraction, if there is one. -/
def fraction? (cs : List Char) : Option (List Char) :=
  match behind? '.' cs with
  | none => some cs
  | some cs => do
    let (_, rest) ← number? 0 1 cs
    some (rest.dropWhile fun c => 48 ≤ c.toNat && c.toNat ≤ 57)

/-- The rest behind a time. A second may be a leap second. -/
def time? (cs : List Char) : Option (List Char) := do
  let (_, cs) ← pair? 23 cs
  let cs ← behind? ':' cs
  let (_, cs) ← pair? 59 cs
  match behind? ':' cs with
  | none => some cs
  | some cs => do
    let (_, cs) ← pair? 60 cs
    fraction? cs

/-- Whether nothing or an offset from universal time stands here. -/
def isOffset : List Char → Bool
  | [] => true
  | c :: cs =>
    if c = 'Z' ∨ c = 'z' then cs.isEmpty
    else if c = '+' ∨ c = '-' then
      (do
        let (_, cs) ← pair? 23 cs
        let cs ← behind? ':' cs
        let (_, cs) ← pair? 59 cs
        some cs.isEmpty).getD false
    else false

/-- Whether a word is a date, a time, or both. -/
def isMoment (word : List Char) : Bool :=
  match date? word with
  | some [] => true
  | some (c :: cs) =>
    (c = 'T' || c = 't' || c = ' ') && ((time? cs).map isOffset).getD false
  | none => (time? word).map List.isEmpty = some true

end CallSpan.Toml.Moment
