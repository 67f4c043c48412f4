import CallSpan.Toml.Moment
import CallSpan.Toml.Number
import CallSpan.Toml.Quotation
import CallSpan.Toml.Tree

/-!
# Configuration files

A file is read line by line. A line defines a value under a dotted key, opens a
table with a header in brackets or double brackets, or is empty; a comment runs
from a number sign to the end of its line. Values are quoted texts, truth values,
numbers, dates and times, arrays, and tables written inline. Arrays and inline
tables may run over lines, with a line end or a comment wherever a blank may stand
but not within a dotted key, and may end in a comma. They lie at most 80 deep within
each other, and a dotted key has at most 80 names.

* `parse?`  — the root table of a file.
-/

namespace CallSpan.Toml

open Quotation

/-! ## Layout -/

/-- What stands behind blanks and tabs. -/
def skipSpaces (cs : List Char) : List Char := cs.dropWhile isSpace

/-- What stands behind blanks, line ends and comments. -/
def skipLayout (inComment : Bool) : List Char → Option (List Char)
  | [] => some []
  | '\r' :: '\n' :: rest => skipLayout false rest
  | c :: rest =>
    if c = '\n' then skipLayout false rest
    else if inComment then
      if isTextChar c then skipLayout true rest else none
    else if isSpace c then skipLayout false rest
    else if c = '#' then skipLayout true rest
    else some (c :: rest)

/-- What stands behind the end of a line, if nothing but a comment stands before it. -/
def endLine (inComment : Bool) : List Char → Option (List Char)
  | [] => some []
  | '\r' :: '\n' :: rest => some rest
  | c :: rest =>
    if c = '\n' then some rest
    else if inComment then
      if isTextChar c then endLine true rest else none
    else if isSpace c then endLine false rest
    else if c = '#' then endLine true rest
    else none

/-! ## Keys -/

/-- A character that keys may hold without quotation marks. -/
def isBareChar (c : Char) : Bool :=
  let n := c.toNat
  (97 ≤ n && n ≤ 122) || (65 ≤ n && n ≤ 90) || (48 ≤ n && n ≤ 57) || c == '_' || c == '-'

/-- One part of a key, and the rest. -/
def keyPart? (cs : List Char) : Option (String × List Char) :=
  match onOneLine? cs with
  | some (s, rest) => some (String.ofList s, rest)
  | none =>
    let bare := cs.takeWhile isBareChar
    if bare.isEmpty then none else some (String.ofList bare, cs.drop bare.length)

/-- A dotted key of at most `bound` names: those on its way, the last one, and the rest. -/
def keyWithin? : (bound : Nat) → List Char → Option (List String × String × List Char)
  | 0, _ => none
  | bound + 1, cs => do
    let (part, rest) ← keyPart? (skipSpaces cs)
    match skipSpaces rest with
    | '.' :: rest =>
      let (way, name, rest) ← keyWithin? bound rest
      some (part :: way, name, rest)
    | rest => some ([], part, rest)

def maxNames : Nat := 80

/-- A dotted key: the names on its way, the last name, and the rest. -/
def key? (cs : List Char) : Option (List String × String × List Char) :=
  keyWithin? maxNames cs

/-! ## Values -/

/-- A character at which a value without quotation marks ends. -/
def endsWord (c : Char) : Bool :=
  isSpace c || ['\n', '\r', ',', ']', '[', '{', '}', '#', '=', '"', apostrophe].contains c

/-- What a word denotes. -/
def word? (w : List Char) : Option Tree :=
  if w = "true".toList then some (.boolean true)
  else if w = "false".toList then some (.boolean false)
  else if Moment.isMoment w then some .moment
  else if Number.isFloat w then some .float
  else (Number.integer? w).map .integer

/-- The word that begins here, and the rest. A date goes on behind a blank with a time. -/
def splitWord (cs : List Char) : List Char × List Char :=
  let w := cs.takeWhile fun c => !endsWord c
  let rest := cs.drop w.length
  match Moment.date? w, rest with
  | some [], ' ' :: behind =>
    let time := behind.takeWhile fun c => !endsWord c
    if (Moment.pair? 23 time).isSome then (w ++ ' ' :: time, behind.drop time.length)
    else (w, rest)
  | _, _ => (w, rest)

mutual

/-- The value that begins here, and the rest. -/
def value? (fuel depth : Nat) (cs : List Char) : Option (Tree × List Char) :=
  match fuel with
  | 0 => none
  | fuel + 1 =>
    match cs with
    | '[' :: rest => if depth = 0 then none else items? fuel (depth - 1) [] rest
    | '{' :: rest => if depth = 0 then none else pairs? fuel (depth - 1) [] rest
    | cs =>
      if cs.head? = some '"' ∨ cs.head? = some apostrophe then
        (text? cs).map fun r => (.text (String.ofList r.1), r.2)
      else
        -- a truth value, a number, or a date
        let (w, rest) := splitWord cs
        (word? w).map fun v => (v, rest)

/-- The rest of an array, behind some of its items. -/
def items? (fuel depth : Nat) (items : List Tree) (cs : List Char) : Option (Tree × List Char) :=
  match fuel with
  | 0 => none
  | fuel + 1 => do
    let cs ← skipLayout false cs
    -- here an array may end behind a comma
    if cs.head? = some ']' then some (.array items, cs.tail)
    else
      let (v, rest) ← value? fuel depth cs
      let rest ← skipLayout false rest
      match rest with
      | ',' :: rest => items? fuel depth (items ++ [v]) rest
      | ']' :: rest => some (.array (items ++ [v]), rest)
      | _ => none

/-- The rest of an inline table, behind some of its definitions. -/
def pairs? (fuel depth : Nat) (pairs : List (List String × String × Tree)) (cs : List Char) :
    Option (Tree × List Char) :=
  match fuel with
  | 0 => none
  | fuel + 1 => do
    let cs ← skipLayout false cs
    if cs.head? = some '}' then (Tree.inlineTable? pairs).map fun t => (t, cs.tail)
    else
      let (way, name, rest) ← key? cs
      let rest ← skipLayout false rest
      let rest ← if rest.head? = some '=' then skipLayout false rest.tail else none
      let (v, rest) ← value? fuel depth rest
      let rest ← skipLayout false rest
      match rest with
      | ',' :: rest => pairs? fuel depth (pairs ++ [(way, name, v)]) rest
      | '}' :: rest => (Tree.inlineTable? (pairs ++ [(way, name, v)])).map fun t => (t, rest)
      | _ => none

end

/-! ## Lines -/

/-- The most arrays and inline tables around a value. -/
def maxDepth : Nat := 80

/-- A file being read: its root table, and the way to the table that is open. -/
structure Reading where
  root : Entries
  at? : List String

/-- A line that opens a table, behind its first bracket. -/
def headerLine? (r : Reading) (cs : List Char) : Option (Reading × List Char) :=
  match cs with
  | '[' :: cs => do
    let (way, name, rest) ← key? cs
    let rest ← if rest.take 2 = [']', ']'] then endLine false (rest.drop 2) else none
    let root ← Tree.openElement way name r.root
    some (⟨root, way ++ [name]⟩, rest)
  | cs => do
    let (way, name, rest) ← key? cs
    let rest ← if rest.head? = some ']' then endLine false rest.tail else none
    let root ← Tree.openTable way name r.root
    some (⟨root, way ++ [name]⟩, rest)

/-- A line that defines a value in the open table. -/
def definitionLine? (r : Reading) (cs : List Char) : Option (Reading × List Char) := do
  let (way, name, rest) ← key? cs
  let rest ← if rest.head? = some '=' then some (skipSpaces rest.tail) else none
  -- of two steps of reading in a row at least one takes a character
  let (v, rest) ← value? (2 * rest.length + 2) maxDepth rest
  let rest ← endLine false rest
  let root ← Tree.changeAt (Tree.define way name v) r.at? r.root
  some (⟨root, r.at?⟩, rest)

/-- Reads line by line. Each line takes at least one character. -/
def lines? : Nat → Reading → List Char → Option Entries
  | 0, _, _ => none
  | fuel + 1, r, cs => do
    let cs ← skipLayout false cs
    match cs with
    | [] => some r.root
    | '[' :: rest =>
      let (r, rest) ← headerLine? r rest
      lines? fuel r rest
    | cs =>
      let (r, rest) ← definitionLine? r cs
      lines? fuel r rest

/-- A text without a byte order mark in front. -/
def dropMark : List Char → List Char
  | c :: cs => if c = '\ufeff' then cs else c :: cs
  | [] => []

/-- The root table of a file. -/
def parse? (s : String) : Option Entries :=
  let cs := dropMark s.toList
  lines? (cs.length + 1) ⟨[], []⟩ cs

end CallSpan.Toml
