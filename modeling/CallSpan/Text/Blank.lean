/-!
# Blank characters

Headers and baggage entries are read with the blanks around them taken off.
A **blank** is a character of the Unicode property `White_Space`: the five
controls from tab to carriage return, the space, and 19 characters beyond
ASCII.

* `isBlank` — the class.
* `trim`    — a text without the blanks at its two ends.
-/

namespace CallSpan.Text

/-- A character of the Unicode property `White_Space`. -/
def isBlank (c : Char) : Bool :=
  let n := c.toNat
  (0x9 ≤ n && n ≤ 0xD) || n == 0x20 || n == 0x85 || n == 0xA0 || n == 0x1680 ||
    (0x2000 ≤ n && n ≤ 0x200A) || n == 0x2028 || n == 0x2029 || n == 0x202F ||
    n == 0x205F || n == 0x3000

/-- A text without the blanks at its two ends. -/
def trim (cs : List Char) : List Char :=
  ((cs.dropWhile isBlank).reverse.dropWhile isBlank).reverse

end CallSpan.Text
