/-!
# Baggage

**Baggage** is what a call carries for the application: values under keys, each
with properties. It stays within limits: at most 64 entries, and at most 8192
octets of keys, values and properties together. An insertion that would break a
limit, or whose key is malformed, changes nothing.

* `Baggage.insert`     — adds an entry, or replaces the one of its key.
* `Baggage.ofEntries`  — inserts entries one by one.
* `Baggage.find?`      — the entry of a key.
-/

namespace CallSpan

/-- A value under a key, with properties. -/
structure BaggageEntry where
  key : String
  value : String
  properties : String
  deriving DecidableEq

namespace BaggageEntry

/-- The octets that an entry counts for. -/
def size (e : BaggageEntry) : Nat :=
  e.key.utf8ByteSize + e.value.utf8ByteSize + e.properties.utf8ByteSize

/-- Characters that keys must not hold, though they are printable. -/
def separators : List Char :=
  ['(', ')', ',', '/', ':', ';', '<', '=', '>', '?', '@', '[', '\\', ']', Char.ofNat 123,
    Char.ofNat 125, '"']

/-- A character that keys may hold. -/
def isKeyChar (c : Char) : Bool :=
  0x21 ≤ c.toNat && c.toNat ≤ 0x7E && !separators.contains c

/-- Whether the key is one that baggage can hold. -/
def hasValidKey (e : BaggageEntry) : Bool :=
  !e.key.toList.isEmpty && e.key.toList.all isKeyChar

end BaggageEntry

namespace Baggage

def maxEntries : Nat := 64

/-- The most octets of keys, values and properties. -/
def maxSize : Nat := 8192

/-- The octets that entries count for. -/
def sizeOf (entries : List BaggageEntry) : Nat :=
  entries.foldr (fun e octets => e.size + octets) 0

/-- Well-formed keys, not too many entries, not too many octets. -/
def withinLimits (entries : List BaggageEntry) : Bool :=
  entries.all BaggageEntry.hasValidKey && entries.length ≤ maxEntries && sizeOf entries ≤ maxSize

/-- Puts an entry in the place of the one with its key, or at the end. -/
def place (e : BaggageEntry) : List BaggageEntry → List BaggageEntry
  | [] => [e]
  | x :: xs => if x.key = e.key then e :: xs else x :: place e xs

def keysOf (entries : List BaggageEntry) : List String :=
  entries.map BaggageEntry.key

theorem keysOf_place (e : BaggageEntry) (xs : List BaggageEntry) :
    keysOf (place e xs) = if e.key ∈ keysOf xs then keysOf xs else keysOf xs ++ [e.key] := by
  induction xs with
  | nil => rfl
  | cons x xs ih =>
    simp only [keysOf] at ih
    by_cases h : x.key = e.key
    · simp [place, keysOf, h]
    · simp only [place, if_neg h, keysOf, List.map_cons, ih, List.mem_cons, Ne.symm h, false_or]
      by_cases hm : e.key ∈ xs.map BaggageEntry.key <;> simp [hm]

theorem nodup_place {e : BaggageEntry} {xs : List BaggageEntry} (h : (keysOf xs).Nodup) :
    (keysOf (place e xs)).Nodup := by
  rw [keysOf_place]
  split
  · exact h
  · grind [List.nodup_append]

end Baggage

/-- Entries with distinct keys, within the limits, in the order in which their keys were
first inserted. -/
@[ext] structure Baggage where
  entries : List BaggageEntry
  distinct : (Baggage.keysOf entries).Nodup
  limits : Baggage.withinLimits entries = true
  deriving DecidableEq

namespace Baggage

def empty : Baggage := ⟨[], by simp [keysOf], by decide⟩

instance : EmptyCollection Baggage := ⟨empty⟩
instance : Inhabited Baggage := ⟨empty⟩

def isEmpty (b : Baggage) : Bool := b.entries.isEmpty

/-- Adds an entry, or replaces the one of its key, unless that breaks a limit. -/
def insert (b : Baggage) (e : BaggageEntry) : Baggage :=
  if h : withinLimits (place e b.entries) = true then
    ⟨place e b.entries, nodup_place b.distinct, h⟩
  else b

/-- Inserts entries one by one, beginning with none. -/
def ofEntries (entries : List BaggageEntry) : Baggage :=
  entries.foldl insert ∅

def find? (b : Baggage) (key : String) : Option BaggageEntry :=
  b.entries.find? (·.key = key)

/-- The entries of two baggages in one, inserted one by one: where both have an entry for
a key, `incoming` is inserted later. -/
def merge (b incoming : Baggage) : Baggage :=
  ofEntries (b.entries ++ incoming.entries)

def sorted (b : Baggage) : List BaggageEntry :=
  b.entries.mergeSort fun x y => !decide (y.key < x.key)

@[simp] theorem entries_empty : (∅ : Baggage).entries = [] := rfl

/-- An insertion within the limits places the entry. -/
theorem entries_insert {b : Baggage} {e : BaggageEntry}
    (h : withinLimits (place e b.entries) = true) : (b.insert e).entries = place e b.entries := by
  rw [insert, dif_pos h]

/-- An insertion that would break a limit changes nothing. -/
theorem insert_eq_self {b : Baggage} {e : BaggageEntry}
    (h : withinLimits (place e b.entries) = false) : b.insert e = b := by
  rw [insert, dif_neg (by simp [h])]

end Baggage

end CallSpan
