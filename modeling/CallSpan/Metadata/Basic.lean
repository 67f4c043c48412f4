import CallSpan.Metadata.Key
import CallSpan.Text.Octets

/-!
# Metadata

**Metadata** maps keys to lists of values. Keys stand in the order in which they
first got a value, and the values of one key in the order in which they were
appended. A value is a string of octets: a text value holds no control but the
tab, a binary value is free.

* `values_append`  — appending adds at the end of one list.
* `values_insert`  — inserting replaces one list.
* `values_merge`   — merging concatenates the lists of each key.
-/

namespace CallSpan

/-- Why an entry is refused. -/
inductive MetadataError where
  | invalidKey
  | invalidValue
  deriving DecidableEq

def MetadataError.message : MetadataError → String
  | .invalidKey => "invalid gRPC metadata key name"
  | .invalidValue => "failed to parse metadata value"

/-- A value offered for an entry, of one of the two kinds. -/
inductive Field where
  | text (bytes : List UInt8)
  | binary (bytes : List UInt8)

/-- An octet that a text value may hold: a tab, or anything that is no control. -/
def isFieldByte (b : UInt8) : Bool :=
  b == 0x09 || (0x20 ≤ b && b != 0x7F)

/-- One list of values for each key that has any. -/
abbrev Groups := List (Key × List (List UInt8))

namespace Groups

/-- A value at the end of its key's list. -/
def append (k : Key) (v : List UInt8) : Groups → Groups
  | [] => [(k, [v])]
  | g :: gs => if g.1 = k then (g.1, g.2 ++ [v]) :: gs else g :: append k v gs

/-- A value as the only one of its key. -/
def insert (k : Key) (v : List UInt8) : Groups → Groups
  | [] => [(k, [v])]
  | g :: gs => if g.1 = k then (g.1, [v]) :: gs else g :: insert k v gs

def values (k : Key) : Groups → List (List UInt8)
  | [] => []
  | g :: gs => if g.1 = k then g.2 else values k gs

def keys (gs : Groups) : List Key := gs.map Prod.fst

theorem keys_append (k : Key) (v : List UInt8) (gs : Groups) :
    (append k v gs).keys = if k ∈ gs.keys then gs.keys else gs.keys ++ [k] := by
  induction gs with
  | nil => rfl
  | cons g gs ih =>
    by_cases h : g.1 = k
    · simp [append, keys, h]
    · simp only [append, if_neg h, keys, List.map_cons, List.mem_cons, Ne.symm h, false_or]
      simp only [keys] at ih
      rw [ih]
      by_cases hk : k ∈ gs.map Prod.fst <;> simp [hk]

theorem keys_insert (k : Key) (v : List UInt8) (gs : Groups) :
    (insert k v gs).keys = if k ∈ gs.keys then gs.keys else gs.keys ++ [k] := by
  induction gs with
  | nil => rfl
  | cons g gs ih =>
    by_cases h : g.1 = k
    · simp [insert, keys, h]
    · simp only [insert, if_neg h, keys, List.map_cons, List.mem_cons, Ne.symm h, false_or]
      simp only [keys] at ih
      rw [ih]
      by_cases hk : k ∈ gs.map Prod.fst <;> simp [hk]

theorem nodup_append {k : Key} {v : List UInt8} {gs : Groups} (h : gs.keys.Nodup) :
    (append k v gs).keys.Nodup := by
  rw [keys_append]
  split
  · exact h
  · grind [List.nodup_append]

theorem nodup_insert {k : Key} {v : List UInt8} {gs : Groups} (h : gs.keys.Nodup) :
    (insert k v gs).keys.Nodup := by
  rw [keys_insert]
  split
  · exact h
  · grind [List.nodup_append]

theorem filled_append {k : Key} {v : List UInt8} {gs : Groups} (h : ∀ g ∈ gs, g.2 ≠ []) :
    ∀ g ∈ append k v gs, g.2 ≠ [] := by
  induction gs with
  | nil => simp [append]
  | cons g gs ih =>
    simp only [List.forall_mem_cons] at h
    unfold append
    split
    · exact List.forall_mem_cons.mpr ⟨by simp, h.2⟩
    · exact List.forall_mem_cons.mpr ⟨h.1, ih h.2⟩

theorem filled_insert {k : Key} {v : List UInt8} {gs : Groups} (h : ∀ g ∈ gs, g.2 ≠ []) :
    ∀ g ∈ insert k v gs, g.2 ≠ [] := by
  induction gs with
  | nil => simp [insert]
  | cons g gs ih =>
    simp only [List.forall_mem_cons] at h
    unfold insert
    split
    · exact List.forall_mem_cons.mpr ⟨by simp, h.2⟩
    · exact List.forall_mem_cons.mpr ⟨h.1, ih h.2⟩

end Groups

/-- Values under keys. Each key has one list, and no list is empty. -/
structure Metadata where
  groups : Groups
  distinct : groups.keys.Nodup
  filled : ∀ g ∈ groups, g.2 ≠ []
  deriving DecidableEq

namespace Metadata

def empty : Metadata := ⟨[], by simp [Groups.keys], by simp⟩

instance : EmptyCollection Metadata := ⟨empty⟩
instance : Inhabited Metadata := ⟨empty⟩

@[ext] theorem ext {a b : Metadata} (h : a.groups = b.groups) : a = b := by
  cases a
  cases b
  cases h
  rfl

/-- The keys that have values, in the order of their first value. -/
def keys (m : Metadata) : List Key := m.groups.keys

/-- The values of a key, in the order in which they were appended. -/
def values (m : Metadata) (k : Key) : List (List UInt8) := m.groups.values k

/-- Every entry: the keys in order, each with its values in order. -/
def entries (m : Metadata) : List (Key × List UInt8) :=
  m.groups.flatMap fun g => g.2.map fun v => (g.1, v)

/-- Adds a value at the end of its key's list. -/
def append (m : Metadata) (k : Key) (v : List UInt8) : Metadata :=
  ⟨m.groups.append k v, Groups.nodup_append m.distinct, Groups.filled_append m.filled⟩

/-- Makes a value the only one of its key. -/
def insert (m : Metadata) (k : Key) (v : List UInt8) : Metadata :=
  ⟨m.groups.insert k v, Groups.nodup_insert m.distinct, Groups.filled_insert m.filled⟩

/-- Appends every entry of `other`, in its order. -/
def merge (m other : Metadata) : Metadata :=
  other.entries.foldl (fun acc e => acc.append e.1 e.2) m

/-- The key and octets of an entry, if its key is one for that kind of value and the
value is one that the kind can hold. The key is judged first. -/
def checkEntry (name : String) (field : Field) : Except MetadataError (Key × List UInt8) :=
  match Key.ofText? name, field with
  | none, _ => .error .invalidKey
  | some k, .text bytes =>
    if k.isBinary then .error .invalidKey
    else if bytes.all isFieldByte then .ok (k, bytes)
    else .error .invalidValue
  | some k, .binary bytes =>
    if k.isBinary then .ok (k, bytes) else .error .invalidKey

/-- Appends an entry if it can be one. -/
def append? (m : Metadata) (name : String) (field : Field) : Except MetadataError Metadata :=
  (checkEntry name field).map fun e => m.append e.1 e.2

def insert? (m : Metadata) (name : String) (field : Field) : Except MetadataError Metadata :=
  (checkEntry name field).map fun e => m.insert e.1 e.2

/-- The metadata that has the given entries appended one by one. -/
def ofFields? (fields : List (String × Field)) : Except MetadataError Metadata :=
  fields.foldlM (fun m f => m.append? f.1 f.2) ∅

def sorted (m : Metadata) : Groups :=
  m.groups.mergeSort fun a b => !b.1.before a.1

/-! ## The values of a key -/

@[simp] theorem groups_empty : (∅ : Metadata).groups = [] := rfl

@[simp] theorem values_empty (k : Key) : (∅ : Metadata).values k = [] := rfl

@[simp] theorem entries_empty : (∅ : Metadata).entries = [] := rfl

private theorem groups_values_append (k k' : Key) (v : List UInt8) (gs : Groups) :
    (gs.append k v).values k' = gs.values k' ++ if k = k' then [v] else [] := by
  induction gs with
  | nil => by_cases h : k = k' <;> simp [Groups.append, Groups.values, h]
  | cons g gs ih =>
    by_cases hg : g.1 = k
    · by_cases h : k = k' <;> simp [Groups.append, Groups.values, hg, h]
    · by_cases hk : g.1 = k'
      · have hkk : k ≠ k' := fun hkk => hg (hk.trans hkk.symm)
        simp [Groups.append, Groups.values, hk, hkk, Ne.symm hkk]
      · simp [Groups.append, Groups.values, hg, hk, ih]

/-- Appending adds at the end of one list and leaves the others. -/
theorem values_append (m : Metadata) (k k' : Key) (v : List UInt8) :
    (m.append k v).values k' = m.values k' ++ if k = k' then [v] else [] :=
  groups_values_append k k' v m.groups

private theorem groups_values_insert (k k' : Key) (v : List UInt8) (gs : Groups) :
    (gs.insert k v).values k' = if k = k' then [v] else gs.values k' := by
  induction gs with
  | nil => by_cases h : k = k' <;> simp [Groups.insert, Groups.values, h]
  | cons g gs ih =>
    by_cases hg : g.1 = k
    · by_cases h : k = k' <;> simp [Groups.insert, Groups.values, hg, h]
    · by_cases hk : g.1 = k'
      · have hkk : k ≠ k' := fun hkk => hg (hk.trans hkk.symm)
        simp [Groups.insert, Groups.values, hk, hkk, Ne.symm hkk]
      · simp [Groups.insert, Groups.values, hg, hk, ih]

/-- Inserting replaces one list and leaves the others. -/
theorem values_insert (m : Metadata) (k k' : Key) (v : List UInt8) :
    (m.insert k v).values k' = if k = k' then [v] else m.values k' :=
  groups_values_insert k k' v m.groups

/-- Appending entries one by one adds to each key the values that are under it. -/
theorem values_foldl_append (es : List (Key × List UInt8)) (m : Metadata) (k : Key) :
    (es.foldl (fun acc e => acc.append e.1 e.2) m).values k
      = m.values k ++ (es.filter (·.1 = k)).map Prod.snd := by
  induction es generalizing m with
  | nil => simp
  | cons e es ih =>
    rw [List.foldl_cons, ih, values_append]
    by_cases h : e.1 = k <;> simp [h]

private theorem filter_of_group (k : Key) (g : Key × List (List UInt8)) :
    ((g.2.map fun v => (g.1, v)).filter (·.1 = k)).map Prod.snd
      = if g.1 = k then g.2 else [] := by
  by_cases h : g.1 = k
  · subst h
    rw [List.filter_eq_self.mpr (by simp)]
    simp [List.map_map, Function.comp_def]
  · rw [List.filter_eq_nil_iff.mpr (by simp [h])]
    simp [h]

private theorem groups_values_of_not_mem {k : Key} {gs : Groups} (h : k ∉ gs.keys) :
    gs.values k = [] := by
  induction gs with
  | nil => rfl
  | cons g gs ih =>
    simp only [Groups.keys, List.map_cons, List.mem_cons, not_or] at h
    rw [Groups.values, if_neg (Ne.symm h.1)]
    exact ih h.2

private theorem groups_entries_values (k : Key) (gs : Groups) (h : gs.keys.Nodup) :
    ((gs.flatMap fun g => g.2.map fun v => (g.1, v)).filter (·.1 = k)).map Prod.snd
      = gs.values k := by
  induction gs with
  | nil => rfl
  | cons g gs ih =>
    simp only [Groups.keys, List.map_cons, List.nodup_cons] at h
    rw [List.flatMap_cons, List.filter_append, List.map_append, filter_of_group, ih h.2]
    by_cases hk : g.1 = k
    · -- the key stands first, so no later group has it
      have : Groups.values k gs = [] := groups_values_of_not_mem (hk ▸ h.1)
      simp [Groups.values, hk, this]
    · simp [Groups.values, hk]

/-- The entries under a key are that key's values, in order. -/
theorem values_of_entries (m : Metadata) (k : Key) :
    (m.entries.filter (·.1 = k)).map Prod.snd = m.values k :=
  groups_entries_values k m.groups m.distinct

/-- Merging concatenates the lists of each key. -/
theorem values_merge (m other : Metadata) (k : Key) :
    (m.merge other).values k = m.values k ++ other.values k := by
  rw [merge, values_foldl_append, values_of_entries]

/-- A key has values exactly when it is among the keys. -/
theorem values_eq_nil_iff (m : Metadata) (k : Key) : m.values k = [] ↔ k ∉ m.keys := by
  constructor
  · intro h hk
    obtain ⟨gs, hd, hf⟩ := m
    simp only [values, keys] at h hk
    clear hd
    induction gs with
    | nil => simp [Groups.keys] at hk
    | cons g gs ih =>
      simp only [List.forall_mem_cons] at hf
      simp only [Groups.values] at h
      split at h
      · exact hf.1 h
      · rename_i hg
        simp only [Groups.keys, List.map_cons, List.mem_cons] at hk
        exact ih hf.2 h (hk.resolve_left fun hk => hg hk.symm)
  · exact groups_values_of_not_mem

end Metadata

end CallSpan
