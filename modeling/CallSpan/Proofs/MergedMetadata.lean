import CallSpan.Proofs.FieldEntries
import CallSpan.Proofs.ResponseHistory

/-!
# Merged metadata

The header and the trailer of a response are given in pieces, and each piece is **merged** into
what is there: its entries are walked through, and each is appended under its key. Entries of
different keys may come in any order on such a **walk**, so long as those of one key come in
theirs; for what is under a key it makes no difference.

Metadata is determined by the order of its keys and by what is under each
(`Metadata.ext_values`), and of merged metadata both are known: first come the keys that were
there, then the new ones, and each list of values is followed by the other. So it does not
matter how pieces are grouped, and many pieces come to the same as one that is merged from them.

Main results:

* `Metadata.merge_concatenates` — merging concatenates under each key, and empty metadata is
  neutral for it, and it is associative.
* `Channel.foldl_header`, `Channel.foldl_trailer` — pieces of a header or trailer, one after the
  other, come to one piece.
-/

namespace CallSpan

-- ---------------------------------------------------------------------------
-- What determines metadata
-- ---------------------------------------------------------------------------

/-- Where no key has two lists, each key can be asked for its list. -/
theorem Groups.eq_map_values {gs : Groups} (h : gs.keys.Nodup) :
    gs = gs.keys.map fun k => (k, gs.values k) := by
  induction gs with
  | nil => rfl
  | cons g gs ih =>
    obtain ⟨hg, hgs⟩ := List.nodup_cons.mp h
    have hhead : Groups.values g.1 (g :: gs) = g.2 := if_pos rfl
    have htail : ∀ k ∈ Groups.keys gs, Groups.values k (g :: gs) = Groups.values k gs := by
      intro k hk
      have hne : g.1 ≠ k := fun hgk => hg (hgk ▸ hk)
      exact if_neg hne
    show g :: gs = (g.1, Groups.values g.1 (g :: gs)) ::
      (Groups.keys gs).map fun k => (k, Groups.values k (g :: gs))
    rw [hhead, List.map_congr_left fun k hk => congrArg (Prod.mk k) (htail k hk), ← ih hgs]

namespace Metadata

variable {a b c m : Metadata} {k : Key}

/-- Metadata with the same keys in the same order, and the same values under each, is the
same. -/
theorem ext_values (hkeys : a.keys = b.keys) (hvalues : ∀ k, a.values k = b.values k) : a = b := by
  ext1
  have ha : a.groups = a.keys.map fun k => (k, a.values k) := Groups.eq_map_values a.distinct
  have hb : b.groups = b.keys.map fun k => (k, b.values k) := Groups.eq_map_values b.distinct
  rw [ha, hb, hkeys]
  exact List.map_congr_left fun k _ => congrArg (Prod.mk k) (hvalues k)

-- ---------------------------------------------------------------------------
-- Entries one by one
-- ---------------------------------------------------------------------------

/-- An order in which the entries can be walked through: those of each key in their order. -/
def Walks (m : Metadata) (es : List (Key × List UInt8)) : Prop :=
  ∀ k, (es.filter (·.1 = k)).map Prod.snd = m.values k

theorem walks_entries (m : Metadata) : m.Walks m.entries := m.values_of_entries

/-- In whatever order entries are walked through, they come behind what each key has. -/
theorem values_appendAll {es : List (Key × List UInt8)} (h : b.Walks es) (a : Metadata) (k : Key) :
    (a.appendAll es).values k = a.values k ++ b.values k := by
  rw [appendAll, values_foldl_append, h k]

/-- An entry that is appended is one more entry, and no other changes. -/
theorem perm_entries_append (m : Metadata) (k : Key) (v : List UInt8) :
    (m.append k v).entries.Perm (m.entries ++ [(k, v)]) := by
  show ((m.groups.append k v).flatMap fun g => g.2.map fun v => (g.1, v)).Perm _
  rw [entries]
  generalize m.groups = gs
  induction gs with
  | nil => exact List.Perm.refl _
  | cons g gs ih =>
    by_cases hg : g.1 = k
    · subst hg
      -- the entry comes right behind the others of its key
      rw [Groups.append, if_pos rfl, List.flatMap_cons, List.flatMap_cons, List.map_append,
        List.append_assoc, List.append_assoc]
      exact List.perm_append_comm.append_left _
    · rw [Groups.append, if_neg hg, List.flatMap_cons, List.flatMap_cons, List.append_assoc]
      exact ih.append_left _

theorem perm_entries_appendAll (m : Metadata) (es : List (Key × List UInt8)) :
    (m.appendAll es).entries.Perm (m.entries ++ es) := by
  induction es generalizing m with
  | nil => rw [List.append_nil]; exact List.Perm.refl _
  | cons e es ih =>
    have hrest := ih (m.append e.1 e.2)
    have hfirst := (perm_entries_append m e.1 e.2).append_right es
    rw [List.append_assoc] at hfirst
    exact hrest.trans hfirst

-- ---------------------------------------------------------------------------
-- Keys
-- ---------------------------------------------------------------------------

/-- A key at the end, unless it is there. -/
def addKey (ks : List Key) (k : Key) : List Key := if k ∈ ks then ks else ks ++ [k]

theorem keys_append (m : Metadata) (k : Key) (v : List UInt8) :
    (m.append k v).keys = addKey m.keys k :=
  Groups.keys_append k v m.groups

theorem keys_appendAll (m : Metadata) (es : List (Key × List UInt8)) :
    (m.appendAll es).keys = (es.map Prod.fst).foldl addKey m.keys := by
  induction es generalizing m with
  | nil => rfl
  | cons e es ih =>
    have hrest := ih (m.append e.1 e.2)
    rw [keys_append] at hrest
    exact hrest

/-- A key is added once, however often it comes. -/
theorem foldl_addKey_replicate (ks : List Key) (k : Key) {n : Nat} (hn : n ≠ 0) :
    (List.replicate n k).foldl addKey ks = addKey ks k := by
  have hstays : ∀ n, (List.replicate n k).foldl addKey (addKey ks k) = addKey ks k := by
    intro n
    have hmem : k ∈ addKey ks k := by
      unfold addKey
      split <;> simp_all
    have hkeeps : addKey (addKey ks k) k = addKey ks k := if_pos hmem
    induction n with
    | zero => rfl
    | succ n ih => rw [List.replicate_succ, List.foldl_cons, hkeeps, ih]
  obtain ⟨n, rfl⟩ := Nat.exists_eq_succ_of_ne_zero hn
  rw [List.replicate_succ, List.foldl_cons, hstays]

/-- Walking through all entries, each key comes in its place. -/
theorem foldl_addKey_entries (m : Metadata) (ks : List Key) :
    (m.entries.map Prod.fst).foldl addKey ks = m.keys.foldl addKey ks := by
  have hfilled := m.filled
  show ((m.groups.flatMap fun g => g.2.map fun v => (g.1, v)).map Prod.fst).foldl addKey ks
    = (m.groups.map Prod.fst).foldl addKey ks
  generalize m.groups = gs at hfilled
  induction gs generalizing ks with
  | nil => rfl
  | cons g gs ih =>
    obtain ⟨hg, hgs⟩ := List.forall_mem_cons.mp hfilled
    have hgroup : (g.2.map fun v => (g.1, v)).map Prod.fst = List.replicate g.2.length g.1 := by
      rw [List.map_map]
      exact List.map_const'
    have hlength : g.2.length ≠ 0 := fun h => hg (List.length_eq_zero_iff.mp h)
    rw [List.flatMap_cons, List.map_append, List.foldl_append, hgroup,
      foldl_addKey_replicate ks g.1 hlength, ih _ hgs, List.map_cons, List.foldl_cons]

/-- Of keys that are all different, those are added that are not there. -/
theorem foldl_addKey_of_nodup {ks' : List Key} (h : ks'.Nodup) (ks : List Key) :
    ks'.foldl addKey ks = ks ++ ks'.filter (· ∉ ks) := by
  induction ks' generalizing ks with
  | nil => rw [List.filter_nil, List.append_nil]; rfl
  | cons k ks' ih =>
    obtain ⟨hk, hks'⟩ := List.nodup_cons.mp h
    rw [List.foldl_cons, ih hks', addKey]
    by_cases hmem : k ∈ ks
    · rw [if_pos hmem, List.filter_cons_of_neg (by simpa using hmem)]
    · -- what follows is not `k`, so it is new exactly if it was new before
      have hsame : ks'.filter (· ∉ ks ++ [k]) = ks'.filter (· ∉ ks) := by
        refine List.filter_congr fun x hx => ?_
        have hxk : x ≠ k := fun hxk => hk (hxk ▸ hx)
        simp [hxk]
      rw [if_neg hmem, hsame, List.filter_cons_of_pos (by simpa using hmem), List.append_assoc,
        List.singleton_append]

-- ---------------------------------------------------------------------------
-- Merging
-- ---------------------------------------------------------------------------

/-- The keys that were there come first, then the new ones. -/
theorem keys_merge (a b : Metadata) : (a.merge b).keys = a.keys ++ b.keys.filter (· ∉ a.keys) := by
  show (a.appendAll b.entries).keys = _
  rw [keys_appendAll, foldl_addKey_entries]
  exact foldl_addKey_of_nodup b.distinct a.keys

/-- All entries are kept, and there are no others. -/
theorem perm_entries_merge (a b : Metadata) :
    (a.merge b).entries.Perm (a.entries ++ b.entries) :=
  perm_entries_appendAll a b.entries

@[simp] theorem keys_empty : (∅ : Metadata).keys = [] := rfl

@[simp] theorem merge_empty (m : Metadata) : m.merge ∅ = m := rfl

@[simp] theorem empty_merge (m : Metadata) : (∅ : Metadata).merge m = m := by
  apply ext_values
  · rw [keys_merge, keys_empty, List.nil_append]
    exact List.filter_eq_self.mpr fun k _ => by simp
  · intro k
    rw [values_merge, values_empty, List.nil_append]

/-- It does not matter how merged metadata is grouped. -/
theorem merge_assoc (a b c : Metadata) : (a.merge b).merge c = a.merge (b.merge c) := by
  apply ext_values
  · have hnew : c.keys.filter (· ∉ a.keys ++ b.keys.filter (· ∉ a.keys))
        = (c.keys.filter (· ∉ b.keys)).filter (· ∉ a.keys) := by
      rw [List.filter_filter]
      refine List.filter_congr fun k _ => ?_
      by_cases hk : k ∈ a.keys <;> simp [hk]
    rw [keys_merge, keys_merge, keys_merge, keys_merge, List.filter_append, hnew,
      List.append_assoc]
  · intro k
    rw [values_merge, values_merge, values_merge, values_merge, List.append_assoc]

/-- Pieces that are merged into metadata one after the other come to one piece. -/
theorem foldl_merge (m : Metadata) (pieces : List Metadata) :
    pieces.foldl merge m = m.merge (pieces.foldl merge ∅) := by
  induction pieces generalizing m with
  | nil => rw [List.foldl_nil, List.foldl_nil, merge_empty]
  | cons piece pieces ih =>
    rw [List.foldl_cons, List.foldl_cons, empty_merge, ih (m.merge piece), ih piece, merge_assoc]

/-- **Merging concatenates.** Under each key, be it of text or of binary values, stands what was
there and then what is merged into it, unchanged, in whatever order the entries are walked
through; no entry is lost, made up, or moved between the two kinds. Merging one piece and then
another comes to merging the second into the first before, and empty metadata is neutral on both
sides. -/
theorem merge_concatenates (a b c : Metadata) :
    (∀ es, b.Walks es → ∀ k, (a.appendAll es).values k = a.values k ++ b.values k) ∧
    b.Walks b.entries ∧ a.merge b = a.appendAll b.entries ∧
    (∀ k, (a.merge b).values k = a.values k ++ b.values k) ∧
    (∀ binary, ((a.merge b).entries.filter (·.1.isBinary = binary)).Perm
      (a.entries.filter (·.1.isBinary = binary) ++ b.entries.filter (·.1.isBinary = binary))) ∧
    (a.merge b).merge c = a.merge (b.merge c) ∧ a.merge ∅ = a ∧ (∅ : Metadata).merge a = a := by
  refine ⟨?_, b.walks_entries, rfl, values_merge a b, ?_, merge_assoc a b c, merge_empty a,
    empty_merge a⟩
  · intro es hes k
    exact values_appendAll hes a k
  · intro binary
    have hkinds := (perm_entries_merge a b).filter (·.1.isBinary = binary)
    rw [List.filter_append] at hkinds
    exact hkinds

end Metadata

-- ---------------------------------------------------------------------------
-- Headers and trailers in pieces
-- ---------------------------------------------------------------------------

namespace Channel

/-- Pieces of a trailer come to one piece. -/
theorem foldl_trailer (c : Channel) (pieces : List Metadata) :
    pieces.foldl trailer c = c.trailer (pieces.foldl Metadata.merge ∅) := by
  have htrailer : pieces.foldl trailer c =
      { c with response :=
        { c.response with trailer := pieces.foldl Metadata.merge c.response.trailer } } := by
    induction pieces generalizing c with
    | nil => rfl
    | cons piece pieces ih => rw [List.foldl_cons, ih]; rfl
  rw [htrailer, Metadata.foldl_merge]
  rfl

/-- Pieces of a header that are set before it is sent come to one piece. -/
theorem foldl_header {c : Channel} (h : c.response.headerSent = false) (pieces : List Metadata) :
    pieces.foldl (fun c md => (c.header md false).2) c
      = (c.header (pieces.foldl Metadata.merge ∅) false).2 := by
  have hheader : pieces.foldl (fun c md => (c.header md false).2) c =
      { c with response := ⟨pieces.foldl Metadata.merge c.response.header, c.response.trailer,
        false⟩ } := by
    induction pieces generalizing c with
    | nil => rw [List.foldl_nil, List.foldl_nil, ← h]
    | cons piece pieces ih => rw [List.foldl_cons, header_of_unsent h, ih rfl]; rfl
  rw [hheader, header_of_unsent h, Metadata.foldl_merge]

end Channel

end CallSpan
