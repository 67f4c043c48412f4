import CallSpan.Text.Quoted

/-!
# Shown values

Payloads, call descriptions and options are shown for a reader as **records**
with named fields, **lists**, and named wrappers around one value. The same tree
is printed on one line, or broken over lines with four blanks a level and a
comma behind every element.

* `Display.inline`  — the form on one line.
* `Display.broken`  — the form over several lines.
-/

namespace CallSpan.Text

/-- What is shown of a value. A record may be left open, which says that it has
fields that are not shown. -/
inductive Display where
  | atom (text : String)
  | record (name : String) (fields : List (String × Display)) (isOpen : Bool)
  | list (items : List Display)
  | wrapped (name : String) (inner : Display)

namespace Display

def ofBool (b : Bool) : Display := atom (if b then "true" else "false")

def ofInt (n : Int) : Display := atom (toString n)

def ofText (s : String) : Display := atom (quoted s)

/-- A value that may be missing. -/
def ofOption : Option Display → Display
  | none => atom "None"
  | some d => wrapped "Some" d

/-- The parts that an open record has behind its fields. -/
private def openMark (isOpen : Bool) : List String :=
  if isOpen then [".."] else []

mutual

/-- The form on one line. -/
def inline : Display → String
  | atom text => text
  | record name fields isOpen =>
    match inlineFields fields ++ openMark isOpen with
    | [] => name
    | parts => name ++ " \x7b " ++ ", ".intercalate parts ++ " \x7d"
  | list items => "[" ++ ", ".intercalate (inlineItems items) ++ "]"
  | wrapped name inner => name ++ "(" ++ inner.inline ++ ")"

/-- The fields of a record, each on one line. -/
def inlineFields : List (String × Display) → List String
  | [] => []
  | (name, value) :: rest => (name ++ ": " ++ value.inline) :: inlineFields rest

/-- The items of a list, each on one line. -/
def inlineItems : List Display → List String
  | [] => []
  | item :: rest => item.inline :: inlineItems rest

end

/-- The blanks before a line at a depth. -/
private def indent (depth : Nat) : String :=
  String.ofList (List.replicate (4 * depth) ' ')

mutual

/-- The form over several lines, for a value whose first line is at a depth. -/
def brokenAt (depth : Nat) : Display → String
  | atom text => text
  | record name fields isOpen =>
    match brokenFields (depth + 1) fields ++
        (openMark isOpen).map (indent (depth + 1) ++ · ++ "\n") with
    | [] => name
    | lines => name ++ " \x7b\n" ++ String.join lines ++ indent depth ++ "\x7d"
  | list [] => "[]"
  | list items => "[\n" ++ String.join (brokenItems (depth + 1) items) ++ indent depth ++ "]"
  | wrapped name inner =>
    name ++ "(\n" ++ indent (depth + 1) ++ brokenAt (depth + 1) inner ++ ",\n" ++
      indent depth ++ ")"

/-- The fields of a record, each ended by a comma and a line end. -/
def brokenFields (depth : Nat) : List (String × Display) → List String
  | [] => []
  | (name, value) :: rest =>
    (indent depth ++ name ++ ": " ++ brokenAt depth value ++ ",\n") :: brokenFields depth rest

/-- The items of a list, each ended by a comma and a line end. -/
def brokenItems (depth : Nat) : List Display → List String
  | [] => []
  | item :: rest =>
    (indent depth ++ brokenAt depth item ++ ",\n") :: brokenItems depth rest

end

def broken (d : Display) : String := brokenAt 0 d

end Display

end CallSpan.Text
