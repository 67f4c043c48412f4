import CallSpan.Baggage
import CallSpan.Text.Blank
import CallSpan.Text.Octets
import CallSpan.Text.Percent
import CallSpan.Text.Pieces

/-!
# The baggage header field

Baggage travels in one field: members between commas, each a name, an equals
sign and a value, with properties behind semicolons. Names and values are
percent-coded. Blanks around a name, a value or a property do not count, and a
member that cannot be read is left out.

* `members`    — what a field lists.
* `decode`     — the baggage of a field.
* `encode?`    — the field of a baggage.
-/

namespace CallSpan.BaggageHeader

open Text

def field : String := "baggage"

/-- The text that a percent-coded piece denotes, if it is one, without blanks at its ends. -/
def decodePiece? (cs : List Char) : Option String :=
  (ofUtf8? (Percent.decode (utf8 (String.ofList cs)))).map fun s => String.ofList (trim s.toList)

/-- The properties that pieces denote. -/
def decodeProperties (parts : List (List Char)) : String :=
  let texts := (parts.filterMap decodePiece?).map String.toList
  String.ofList (trim (List.intercalate [';'] texts))

/-- The entry that a member denotes. Of the pieces between equals signs the first is the
name and the second the value. -/
def decodeMember? (cs : List Char) : Option BaggageEntry :=
  match pieces ';' cs with
  | [] => none
  | nameAndValue :: properties =>
    match pieces '=' nameAndValue with
    | name :: value :: _ => do
      let name ← decodePiece? name
      let value ← decodePiece? value
      some ⟨name, value, decodeProperties properties⟩
    | _ => none

/-- The entries that a field lists, in order. -/
def members (s : String) : List BaggageEntry :=
  (pieces ',' s.toList).filterMap decodeMember?

/-- The baggage of a field. -/
def decode (s : String) : Baggage :=
  Baggage.ofEntries (members s)

def encodePiece (s : String) : List Char :=
  (Percent.encode (utf8 (String.ofList (trim s.toList)))).map fun b => Char.ofNat b.toNat

/-- The member that denotes an entry. -/
def encodeMember (e : BaggageEntry) : List Char :=
  let properties := trim e.properties.toList
  encodePiece e.key ++ '=' :: encodePiece e.value ++
    if properties.isEmpty then [] else ';' :: properties

/-- The field of a baggage: none when it is empty. -/
def encode? (b : Baggage) : Option String :=
  if b.isEmpty then none
  else some (String.ofList (List.intercalate [','] (b.entries.map encodeMember)))

end CallSpan.BaggageHeader
