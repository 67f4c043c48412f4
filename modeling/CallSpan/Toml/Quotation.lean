/-!
# Quoted texts in configuration files

A **basic** text stands between quotation marks and may hold escapes; a
**literal** text stands between apostrophes and is taken as it is. Between three
marks of either sort a text may run over lines: a line end right behind the
opening marks does not count, in a basic text a backslash at the end of a line
joins it to the next word, and one or two marks may stand before the closing ones.

* `text?`     — the quoted text that begins here, of either sort.
* `onOneLine?` — as `text?`, but only the forms that stay on one line.
-/

namespace CallSpan.Toml.Quotation

def apostrophe : Char := Char.ofNat 39

/-- A character that texts and comments may hold: a tab, or anything that is no control. -/
def isTextChar (c : Char) : Bool :=
  c == '\t' || (0x20 ≤ c.toNat && c.toNat != 0x7F)

def isSpace (c : Char) : Bool := c == ' ' || c == '\t'

def hexDigit? (c : Char) : Option Nat :=
  let n := c.toNat
  if 48 ≤ n ∧ n ≤ 57 then some (n - 48)
  else if 97 ≤ n ∧ n ≤ 102 then some (n - 87)
  else if 65 ≤ n ∧ n ≤ 70 then some (n - 55)
  else none

/-- The character of a code point in hexadecimal, if there is one. -/
def codePoint? (cs : List Char) : Option Char := do
  let n ← cs.foldlM (fun acc c => (hexDigit? c).map (acc * 16 + ·)) 0
  if n < 0xD800 ∨ (0xDFFF < n ∧ n ≤ 0x10FFFF) then some (Char.ofNat n) else none

/-- The character that a backslash and a letter stand for. -/
def shortEscape? (c : Char) : Option Char :=
  match c with
  | 'b' => some '\x08'
  | 't' => some '\t'
  | 'n' => some '\n'
  | 'f' => some '\x0c'
  | 'r' => some '\r'
  | 'e' => some '\x1b'
  | '"' => some '"'
  | '\\' => some '\\'
  | _ => none

/-- A text with one more character in front. -/
def consText (c : Option Char) (r : Option (List Char × List Char)) :
    Option (List Char × List Char) :=
  match c, r with
  | some c, some (cs, rest) => some (c :: cs, rest)
  | _, _ => none

/-- What stands up to the closing mark of a basic text, and the rest. -/
def basic : List Char → Option (List Char × List Char)
  | [] => none
  | '"' :: rest => some ([], rest)
  | '\\' :: 'x' :: a :: b :: rest => consText (codePoint? [a, b]) (basic rest)
  | '\\' :: 'u' :: a :: b :: c :: d :: rest => consText (codePoint? [a, b, c, d]) (basic rest)
  | '\\' :: 'U' :: a :: b :: c :: d :: e :: f :: g :: h :: rest =>
    consText (codePoint? [a, b, c, d, e, f, g, h]) (basic rest)
  | '\\' :: c :: rest => consText (shortEscape? c) (basic rest)
  | c :: rest => consText (if isTextChar c then some c else none) (basic rest)

/-- What stands up to the closing mark of a literal text, and the rest. -/
def literal : List Char → Option (List Char × List Char)
  | [] => none
  | c :: rest =>
    if c = apostrophe then some ([], rest)
    else consText (if isTextChar c then some c else none) (literal rest)

/-- The end of a text over lines: of up to two more marks behind three, all belong to
the text. -/
def closing (mark : Char) (rest : List Char) : List Char × List Char :=
  let marks := (rest.take 2).takeWhile (· = mark)
  (marks, rest.drop marks.length)

/-- Where the reading of a basic text over lines stands. -/
inductive Line where
  /-- In the text. -/
  | inside
  /-- Behind a backslash, before the end of its line. -/
  | joining
  /-- Behind the end of a line that is joined to the next word. -/
  | joined
  deriving DecidableEq

/-- What stands up to the closing marks of a basic text over lines, and the rest. -/
def basicLines (line : Line) : List Char → Option (List Char × List Char)
  | [] => none
  | '\r' :: '\n' :: rest =>
    match line with
    | .inside =>
      (basicLines .inside rest).map fun r => ('\r' :: '\n' :: r.1, r.2)
    | .joining | .joined => basicLines .joined rest
  | '"' :: '"' :: '"' :: rest => if line = .joining then none else some (closing '"' rest)
  | '\\' :: 'x' :: a :: b :: rest =>
    if line = .joining then none
    else consText (codePoint? [a, b]) (basicLines .inside rest)
  | '\\' :: 'u' :: a :: b :: c :: d :: rest =>
    if line = .joining then none
    else consText (codePoint? [a, b, c, d]) (basicLines .inside rest)
  | '\\' :: 'U' :: a :: b :: c :: d :: e :: f :: g :: h :: rest =>
    if line = .joining then none
    else consText (codePoint? [a, b, c, d, e, f, g, h]) (basicLines .inside rest)
  | '\\' :: '\r' :: '\n' :: rest => if line = .joining then none else basicLines .joined rest
  | '\\' :: c :: rest =>
    if line = .joining then none
    else if c = '\n' then basicLines .joined rest
    else if isSpace c then basicLines .joining rest
    else consText (shortEscape? c) (basicLines .inside rest)
  | c :: rest =>
    match line with
    | .inside =>
      consText (if isTextChar c || c == '\n' then some c else none) (basicLines .inside rest)
    | .joining =>
      if isSpace c then basicLines .joining rest
      else if c = '\n' then basicLines .joined rest
      else none
    | .joined =>
      if isSpace c || c == '\n' then basicLines .joined rest
      else consText (if isTextChar c then some c else none) (basicLines .inside rest)

/-- What stands up to the closing marks of a literal text over lines, and the rest. -/
def literalLines : List Char → Option (List Char × List Char)
  | [] => none
  | '\r' :: '\n' :: rest => (literalLines rest).map fun r => ('\r' :: '\n' :: r.1, r.2)
  | c :: rest =>
    if c = apostrophe ∧ rest.take 2 = [apostrophe, apostrophe] then
      some (closing apostrophe (rest.drop 2))
    else consText (if isTextChar c || c == '\n' then some c else none) (literalLines rest)

/-- What follows a line end right behind the opening marks. -/
def dropLineEnd : List Char → List Char
  | '\n' :: rest => rest
  | '\r' :: '\n' :: rest => rest
  | cs => cs

/-- The quoted text on one line that begins here, and the rest. -/
def onOneLine? : List Char → Option (List Char × List Char)
  | [] => none
  | c :: rest =>
    if c = '"' then basic rest else if c = apostrophe then literal rest else none

/-- The quoted text that begins here, and the rest. -/
def text? (cs : List Char) : Option (List Char × List Char) :=
  if cs.take 3 = ['"', '"', '"'] then basicLines .inside (dropLineEnd (cs.drop 3))
  else if cs.take 3 = [apostrophe, apostrophe, apostrophe] then
    literalLines (dropLineEnd (cs.drop 3))
  else onOneLine? cs

end CallSpan.Toml.Quotation
