/-!
# Configuration trees

A configuration file denotes a **tree**: tables of named values, arrays, and
values that are not taken apart. While a file is read, a table remembers its
**origin**, because that decides what may still be added to it:

* a table under a header may be named by no second header, and not be extended by
  dotted keys from elsewhere;
* a table that only lies on the way to one under a header may get a header of its
  own;
* a table that lies on the way of a dotted key may be extended by other dotted
  keys, and by headers of tables below it;
* a table written inline is complete.

Arrays of tables under double headers grow by one table with each header, and what
follows goes to the last.

* `Tree.define`       — a value under a dotted key.
* `Tree.openTable`    — a header.
* `Tree.openElement`  — a double header.
-/

namespace CallSpan.Toml

/-- Where a table comes from. -/
inductive Origin where
  | header
  | way
  | dotted
  | inlined
  deriving DecidableEq

/-- What a configuration file denotes. -/
inductive Tree where
  | text (s : String)
  | integer (n : Int)
  | float
  | boolean (b : Bool)
  | moment
  | array (items : List Tree)
  | table (origin : Origin) (entries : List (String × Tree))
  | tables (elements : List (List (String × Tree)))

/-- Named values in the order in which they were defined. -/
abbrev Entries := List (String × Tree)

namespace Entries

def find? (entries : Entries) (name : String) : Option Tree :=
  (List.find? (fun e => e.1 == name) entries).map Prod.snd

/-- Gives a name a value, in its place if it has one and otherwise at the end. -/
def set (name : String) (value : Tree) : Entries → Entries
  | [] => [(name, value)]
  | e :: es => if e.1 = name then (name, value) :: es else e :: set name value es

end Entries

namespace Tree

/-- Elements with the last one changed, if there is a last one and it can be. -/
def changeLast (change : Entries → Option Entries) : List Entries → Option (List Entries)
  | [] => none
  | [e] => (change e).map fun e' => [e']
  | e :: es => (changeLast change es).map (e :: ·)

/-- Changes the entries at the end of a dotted key's way. Only tables that other dotted
keys made, or that are new, may lie at its end. -/
def changeDotted (change : Entries → Option Entries) : List String → Entries → Option Entries
  | [], entries => change entries
  | name :: way, entries => do
    let value ←
      match entries.find? name with
      | none => (changeDotted change way []).map (table .dotted)
      | some (table .dotted es) => (changeDotted change way es).map (table .dotted)
      | some (table .way es) =>
        if way.isEmpty then none else (changeDotted change way es).map (table .way)
      | some (tables elements) =>
        if way.isEmpty then none
        else (changeLast (changeDotted change way) elements).map tables
      | some _ => none
    some (entries.set name value)

/-- Adds a value under a name that has none. -/
def add (name : String) (value : Tree) (entries : Entries) : Option Entries :=
  match entries.find? name with
  | none => some (entries.set name value)
  | some _ => none

/-- Defines a value under a dotted key. -/
def define (way : List String) (name : String) (value : Tree) (entries : Entries) :
    Option Entries :=
  changeDotted (add name value) way entries

/-- Changes the entries at the end of a header's way. -/
def changeAt (change : Entries → Option Entries) : List String → Entries → Option Entries
  | [], entries => change entries
  | name :: way, entries => do
    let value ←
      match entries.find? name with
      | none => (changeAt change way []).map (table .way)
      | some (table .inlined _) => none
      | some (table origin es) => (changeAt change way es).map (table origin)
      | some (tables elements) => (changeLast (changeAt change way) elements).map tables
      | some _ => none
    some (entries.set name value)

/-- Opens the table under a header: a new one, or one that so far only lay on the way. -/
def openHere (name : String) (entries : Entries) : Option Entries :=
  match entries.find? name with
  | none => some (entries.set name (table .header []))
  | some (table .way es) => some (entries.set name (table .header es))
  | some _ => none

/-- Opens the next table of an array of tables. -/
def openElementHere (name : String) (entries : Entries) : Option Entries :=
  match entries.find? name with
  | none => some (entries.set name (tables [[]]))
  | some (tables elements) => some (entries.set name (tables (elements ++ [[]])))
  | some _ => none

/-- Opens the table under a header. -/
def openTable (way : List String) (name : String) (entries : Entries) : Option Entries :=
  changeAt (openHere name) way entries

/-- Opens the next table under a double header. -/
def openElement (way : List String) (name : String) (entries : Entries) : Option Entries :=
  changeAt (openElementHere name) way entries

/-- A table written inline, of values under dotted keys. -/
def inlineTable? (pairs : List (List String × String × Tree)) : Option Tree :=
  (pairs.foldlM (fun acc p => define p.1 p.2.1 p.2.2 acc) []).map (table .inlined)

end Tree

end CallSpan.Toml
