import CallSpan.Metadata.Basic
import CallSpan.Text.Base64

/-!
# Metadata as a carrier of text fields

A propagator knows nothing of metadata: it asks a **carrier** for the text under
a name and hands it text to store under a name.

Names are looked up in any letter case. A name that ends in exactly `-bin` finds
nothing; any other name that a key can have finds the entries of that key, and
what it reads of a binary entry is its base-64 form. A value is readable when
every octet is visible. Storing appends, and what metadata cannot hold is
ignored.

* `get?`, `texts`        — the first value, and all readable values, of a name.
* `textPairs`, `textKeys` — the text entries and their keys.
* `put`                  — stores a text.
-/

namespace CallSpan.Metadata

open Text

/-- The octets of an entry as they travel: a binary value is written in base 64. -/
def wireForm (k : Key) (v : List UInt8) : List UInt8 :=
  if k.isBinary then Base64.encode v else v

/-- The key that a requested name finds. -/
def lookupKey? (name : String) : Option Key :=
  if binaryEnding.isSuffixOf name.toList then none else Key.ofText? name

/-- The values under a requested name, as they travel. -/
def lookup (m : Metadata) (name : String) : List (List UInt8) :=
  match lookupKey? name with
  | none => []
  | some k => (m.values k).map (wireForm k)

/-- The first value under a name, if it is readable. -/
def get? (m : Metadata) (name : String) : Option String :=
  (m.lookup name).head?.bind text?

/-- The readable values under a name, in order. -/
def texts (m : Metadata) (name : String) : List String :=
  (m.lookup name).filterMap text?

/-- The readable text entries. -/
def textPairs (m : Metadata) : List (Key × String) :=
  (m.entries.filter fun e => !e.1.isBinary).filterMap fun e =>
    (text? e.2).map fun s => (e.1, s)

/-- The keys of text entries, each once. -/
def textKeys (m : Metadata) : List Key :=
  m.keys.filter fun k => !k.isBinary

/-- Whether any entry, readable or not, is under a name. -/
def isPresent (m : Metadata) (name : String) : Bool :=
  match Key.ofText? name with
  | none => false
  | some k => m.keys.contains k

/-- Appends a text under a name; ignored if metadata cannot hold it. -/
def put (m : Metadata) (name value : String) : Metadata :=
  match m.append? name (.text (utf8 value)) with
  | .ok m' => m'
  | .error _ => m

def putAll (m : Metadata) (fields : List (String × String)) : Metadata :=
  fields.foldl (fun acc f => acc.put f.1 f.2) m

@[simp] theorem putAll_nil (m : Metadata) : m.putAll [] = m := rfl

@[simp] theorem putAll_cons (m : Metadata) (f : String × String) (fs : List (String × String)) :
    m.putAll (f :: fs) = (m.put f.1 f.2).putAll fs := rfl

/-- Nothing is found in empty metadata. -/
@[simp] theorem get?_empty (name : String) : (∅ : Metadata).get? name = none := by
  unfold get? lookup
  split <;> rfl

end CallSpan.Metadata
