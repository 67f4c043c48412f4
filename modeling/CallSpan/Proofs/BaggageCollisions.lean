import CallSpan.Proofs.BaggageMerge

/-!
# Baggage under one key

Where an entry comes in under a key that is there already, the entry that comes in is meant to
win. It is inserted later, in the **place** of the other, but like every insertion it is refused
where the octets would be too many, and then the **stale** entry stays. What counts for this is
all that has been inserted by then, so it depends on the order in which the entries are gone
through. Neither the number of entries nor the form of the key can be the reason, for a
replacement changes neither.

Two baggages with no more than 8192 octets between them never collide in this way, however many
keys they have.

Main result:

* `withIncomingBaggage_collision` — whether the entry that comes in wins, in any order.
-/

namespace CallSpan

namespace Baggage

-- ---------------------------------------------------------------------------
-- One insertion under a key that is there
-- ---------------------------------------------------------------------------

section Insert

variable {b : Baggage} {e x : BaggageEntry} {es xs : List BaggageEntry} {k : String}

/-- An insertion under another key changes nothing that is found. -/
theorem find?_insert_of_ne (b : Baggage) (h : e.key ≠ k) :
    (b.insert e).find? k = b.find? k := by
  cases hlimits : withinLimits (place e b.entries) with
  | true => rw [find?, entries_insert hlimits, find?_place, if_neg h, find?]
  | false => rw [insert_eq_self hlimits]

theorem find?_foldl_insert_of_not_mem (b : Baggage) (h : k ∉ keysOf es) :
    (es.foldl insert b).find? k = b.find? k := by
  induction es generalizing b with
  | nil => rfl
  | cons e es ih =>
    rw [keysOf, List.map_cons, List.mem_cons, not_or] at h
    obtain ⟨hkey, hrest⟩ := h
    rw [List.foldl_cons, ih (b.insert e) hrest, find?_insert_of_ne b (Ne.symm hkey)]

theorem mem_keysOf_iff_find? : k ∈ keysOf b.entries ↔ b.find? k ≠ none := by
  rw [find?, ne_eq, find?_eq_none_iff, not_not]

/-- Whether a key is well-formed can be seen from any entry that has it. -/
theorem hasValidKey_of_mem (hkey : e.key ∈ keysOf b.entries) : e.hasValidKey = true := by
  obtain ⟨x, hx, hxkey⟩ := List.mem_map.mp hkey
  have hlimits := b.limits
  rw [withinLimits, Bool.and_eq_true, Bool.and_eq_true] at hlimits
  have hvalid : x.hasValidKey = true := List.all_eq_true.mp hlimits.1.1 x hx
  rw [BaggageEntry.hasValidKey, hxkey] at hvalid
  exact hvalid

/-- A replacement keeps the limits if it keeps the one on octets. -/
theorem withinLimits_place_iff (hkey : e.key ∈ keysOf b.entries) :
    withinLimits (place e b.entries) = true ↔ sizeOf (place e b.entries) ≤ maxSize := by
  have hlimits := b.limits
  rw [withinLimits, Bool.and_eq_true, Bool.and_eq_true, decide_eq_true_iff] at hlimits
  obtain ⟨⟨hvalid, hlength⟩, -⟩ := hlimits
  have hvalid' : (place e b.entries).all BaggageEntry.hasValidKey = true := by
    refine List.all_eq_true.mpr fun x hx => ?_
    rcases mem_of_mem_place hx with rfl | hx
    · exact hasValidKey_of_mem hkey
    · exact List.all_eq_true.mp hvalid x hx
  have hlength' : (place e b.entries).length ≤ maxEntries := by
    have hkeys : keysOf (place e b.entries) = keysOf b.entries := by
      rw [keysOf_place, if_pos hkey]
    have hsame := congrArg List.length hkeys
    rw [keysOf, keysOf, List.length_map, List.length_map] at hsame
    omega
  rw [withinLimits, hvalid', Bool.true_and, Bool.and_eq_true, decide_eq_true_iff,
    decide_eq_true_iff, and_iff_right hlength']

/-- The entry that is found after a replacement: the new one if there is room for it. -/
theorem find?_insert_self (hkey : e.key ∈ keysOf b.entries) :
    (b.insert e).find? e.key
      = if sizeOf (place e b.entries) ≤ maxSize then some e else b.find? e.key := by
  by_cases hsize : sizeOf (place e b.entries) ≤ maxSize
  · have hlimits := (withinLimits_place_iff hkey).mpr hsize
    rw [if_pos hsize, find?, entries_insert hlimits, find?_place, if_pos rfl]
  · have hlimits : withinLimits (place e b.entries) = false := by
      rw [← Bool.not_eq_true, withinLimits_place_iff hkey]
      exact hsize
    rw [if_neg hsize, insert_eq_self hlimits]

/-- What a replacement adds in octets, and what it takes away. -/
theorem sizeOf_place_of_find? (h : xs.find? (·.key = e.key) = some x) :
    sizeOf (place e xs) + x.size = sizeOf xs + e.size := by
  induction xs with
  | nil => exact nomatch h
  | cons y ys ih =>
    rw [find?_cons] at h
    rw [place]
    split
    · rename_i hy
      rw [if_pos hy] at h
      obtain rfl := Option.some.inj h
      rw [sizeOf_cons, sizeOf_cons]
      omega
    · rename_i hy
      rw [if_neg hy] at h
      have hrest := ih h
      rw [sizeOf_cons, sizeOf_cons]
      omega

end Insert

-- ---------------------------------------------------------------------------
-- All insertions
-- ---------------------------------------------------------------------------

section Merge

variable {b incoming : Baggage} {e : BaggageEntry} {xs before after : List BaggageEntry}

/-- Baggage fits into none. -/
theorem fit_entries (b : Baggage) : Fit b.entries := by
  have hlimits := b.limits
  rw [withinLimits, Bool.and_eq_true, Bool.and_eq_true, decide_eq_true_iff,
    decide_eq_true_iff] at hlimits
  obtain ⟨⟨hvalid, hlength⟩, hsize⟩ := hlimits
  refine ⟨List.all_eq_true.mp hvalid, ?_, hsize⟩
  rw [b.distinct.dedup, keysOf, List.length_map]
  exact hlength

/-- Baggage that is inserted into none is what it was, in any order. -/
theorem find?_ofEntries (hxs : xs.Perm b.entries) (k : String) :
    (ofEntries xs).find? k = b.find? k := by
  have hfit : Fit (b.entries ++ (∅ : Baggage).entries) := by
    rw [entries_empty, List.append_nil]
    exact b.fit_entries
  have hunion : (ofEntries (xs ++ [])).IsUnion b ∅ :=
    isUnion_ofEntries hfit hxs (List.Perm.refl [])
  rw [List.append_nil] at hunion
  rw [hunion.find? k]
  exact Option.none_or

theorem ofEntries_append (xs ys : List BaggageEntry) :
    ofEntries (xs ++ ys) = ys.foldl insert (ofEntries xs) :=
  List.foldl_append

/-- The key of an entry occurs neither before nor after it. -/
theorem not_mem_keysOf_of_perm (hys : (before ++ e :: after).Perm incoming.entries) :
    e.key ∉ keysOf before ∧ e.key ∉ keysOf after := by
  have hnodup : (keysOf (before ++ e :: after)).Nodup :=
    (hys.map BaggageEntry.key).nodup_iff.mpr incoming.distinct
  rw [keysOf_append, keysOf, keysOf, List.map_cons, List.nodup_append, List.nodup_cons] at hnodup
  obtain ⟨-, ⟨hafter, -⟩, hdisjoint⟩ := hnodup
  refine ⟨fun hbefore => ?_, hafter⟩
  exact hdisjoint _ hbefore _ List.mem_cons_self rfl

/-- Until an entry comes in, the one of its key is the one that was there. -/
theorem find?_met (hxs : xs.Perm b.entries) (hkey : e.key ∉ keysOf before) :
    (ofEntries (xs ++ before)).find? e.key = b.find? e.key := by
  rw [ofEntries_append, find?_foldl_insert_of_not_mem _ hkey, find?_ofEntries hxs]

/-- What is found in the end under the key of an entry that comes in: this goes by what has been
inserted before. -/
theorem find?_ofEntries_collision (hxs : xs.Perm b.entries)
    (hys : (before ++ e :: after).Perm incoming.entries) (hkey : e.key ∈ keysOf b.entries) :
    (ofEntries (xs ++ (before ++ e :: after))).find? e.key
      = if sizeOf (place e (ofEntries (xs ++ before)).entries) ≤ maxSize then some e
        else b.find? e.key := by
  obtain ⟨hbefore, hafter⟩ := not_mem_keysOf_of_perm hys
  have hmet := find?_met hxs hbefore
  have hthere : e.key ∈ keysOf (ofEntries (xs ++ before)).entries := by
    rw [mem_keysOf_iff_find?, hmet]
    exact mem_keysOf_iff_find?.mp hkey
  rw [← List.append_assoc, ofEntries_append, List.foldl_cons,
    find?_foldl_insert_of_not_mem _ hafter, find?_insert_self hthere, hmet]

/-- Whatever is refused on the way, there is no more than what was to be inserted. -/
theorem sizeOf_entries_foldl_insert_le (b : Baggage) (es : List BaggageEntry) :
    sizeOf (es.foldl insert b).entries ≤ sizeOf b.entries + sizeOf es := by
  induction es generalizing b with
  | nil => exact Nat.le_refl _
  | cons e es ih =>
    have hrest := ih (b.insert e)
    have hstep : sizeOf (b.insert e).entries ≤ e.size + sizeOf b.entries := by
      cases hlimits : withinLimits (place e b.entries) with
      | true =>
        rw [entries_insert hlimits]
        exact sizeOf_place_le e b.entries
      | false =>
        rw [insert_eq_self hlimits]
        exact Nat.le_add_left _ _
    rw [List.foldl_cons, sizeOf_cons]
    omega

/-- Two baggages that have not too many octets between them leave room for every entry. -/
theorem sizeOf_place_met_le (hxs : xs.Perm b.entries)
    (hys : (before ++ e :: after).Perm incoming.entries)
    (hsize : sizeOf b.entries + sizeOf incoming.entries ≤ maxSize) :
    sizeOf (place e (ofEntries (xs ++ before)).entries) ≤ maxSize := by
  have hplace := sizeOf_place_le e (ofEntries (xs ++ before)).entries
  have hmet := sizeOf_entries_foldl_insert_le ∅ (xs ++ before)
  have htotal := sizeOf_perm hys
  rw [entries_empty, sizeOf_append, sizeOf_perm hxs] at hmet
  rw [sizeOf_append, sizeOf_cons] at htotal
  have hnone : sizeOf [] = 0 := rfl
  rw [ofEntries] at hplace ⊢
  omega

end Merge

/-- An entry under a new key is placed at the end. -/
theorem place_of_not_mem {e : BaggageEntry} {xs : List BaggageEntry} (h : e.key ∉ keysOf xs) :
    place e xs = xs ++ [e] := by
  induction xs with
  | nil => rfl
  | cons x xs ih =>
    rw [keysOf, List.map_cons, List.mem_cons, not_or] at h
    obtain ⟨hx, hxs⟩ := h
    rw [place, if_neg (Ne.symm hx), ih hxs, List.cons_append]

theorem placeAll_of_nodup {xs ys : List BaggageEntry} (h : (keysOf (ys ++ xs)).Nodup) :
    placeAll xs ys = ys ++ xs := by
  induction xs generalizing ys with
  | nil => exact (List.append_nil ys).symm
  | cons x xs ih =>
    have hx : x.key ∉ keysOf ys := by
      rw [keysOf_append, List.nodup_append] at h
      intro hmem
      exact h.2.2 _ hmem _ List.mem_cons_self rfl
    have hrest : (keysOf ((ys ++ [x]) ++ xs)).Nodup := by
      rw [List.append_assoc]
      exact h
    rw [placeAll_cons, place_of_not_mem hx, ih hrest, List.append_assoc, List.singleton_append]

/-- Inserting the entries of baggage anew makes the same baggage. -/
theorem ofEntries_entries (b : Baggage) : ofEntries b.entries = b := by
  have hplaced : placeAll b.entries [] = [] ++ b.entries := placeAll_of_nodup b.distinct
  apply Baggage.ext
  rw [entries_ofEntries b.fit_entries, hplaced, List.nil_append]

-- ---------------------------------------------------------------------------
-- The context that comes of it
-- ---------------------------------------------------------------------------

/-- Also where nothing comes in, the baggage is what comes of inserting everything. -/
theorem withIncomingBaggage_baggage (cx decoded : Context) :
    (withIncomingBaggage cx decoded).baggage
      = ofEntries (cx.baggage.entries ++ decoded.baggage.entries) := by
  rw [withIncomingBaggage]
  split
  · rename_i hempty
    rw [List.isEmpty_iff.mp hempty, List.append_nil, ofEntries_entries]
  · rfl

/-- **Collisions.** An entry that comes in under a key that is there already, while the entries of
both baggages are gone through in some order: it wins if there is room for it when it is its
turn, and otherwise the entry that was there stays. There is room if what has been inserted by
then, without the stale entry and with the new one, has not too many octets. This cannot fail
where the two baggages have not too many octets between them. -/
theorem withIncomingBaggage_collision {cx decoded : Context}
    {xs before after : List BaggageEntry} {e : BaggageEntry}
    (hxs : xs.Perm cx.baggage.entries) (hys : (before ++ e :: after).Perm decoded.baggage.entries)
    (hkey : e.key ∈ keysOf cx.baggage.entries) :
    let met := ofEntries (xs ++ before)
    let merged := ofEntries (xs ++ (before ++ e :: after))
    (merged.find? e.key
      = if sizeOf (place e met.entries) ≤ 8192 then some e else cx.baggage.find? e.key) ∧
    (∀ stale, cx.baggage.find? e.key = some stale →
      sizeOf (place e met.entries) + stale.size = sizeOf met.entries + e.size) ∧
    (sizeOf cx.baggage.entries + sizeOf decoded.baggage.entries ≤ 8192 →
      merged.find? e.key = some e) ∧
    (xs = cx.baggage.entries → before ++ e :: after = decoded.baggage.entries →
      (withIncomingBaggage cx decoded).baggage = merged) := by
  intro met merged
  have hfound : merged.find? e.key
      = if sizeOf (place e met.entries) ≤ 8192 then some e else cx.baggage.find? e.key :=
    find?_ofEntries_collision hxs hys hkey
  refine ⟨hfound, ?_, ?_, ?_⟩
  · intro stale hstale
    have hmet : met.find? e.key = some stale :=
      (find?_met hxs (not_mem_keysOf_of_perm hys).1).trans hstale
    exact sizeOf_place_of_find? hmet
  · intro hsize
    have hroom : sizeOf (place e met.entries) ≤ 8192 := sizeOf_place_met_le hxs hys hsize
    rw [hfound, if_pos hroom]
  · intro hxs' hys'
    rw [withIncomingBaggage_baggage, ← hxs', ← hys']

/-- A user comes in where there is one already. -/
theorem withIncomingBaggage_collision_user :
    let cx := Context.empty.withBaggage (.ofEntries [⟨"user", "anna", ""⟩, ⟨"shop", "7", "near"⟩])
    let decoded := Context.empty.withBaggage (.ofEntries [⟨"cart", "3", ""⟩, ⟨"user", "otto", ""⟩])
    let xs : List BaggageEntry := [⟨"shop", "7", "near"⟩, ⟨"user", "anna", ""⟩]
    let e : BaggageEntry := ⟨"user", "otto", ""⟩
    let before : List BaggageEntry := [⟨"cart", "3", ""⟩]
    xs.Perm cx.baggage.entries ∧ (before ++ e :: []).Perm decoded.baggage.entries ∧
      e.key ∈ keysOf cx.baggage.entries ∧
      (ofEntries (xs ++ (before ++ e :: []))).find? "user" = some e := by
  intro cx decoded xs e before
  have hxs : xs.Perm cx.baggage.entries := List.Perm.swap _ _ _
  have hys : (before ++ e :: []).Perm decoded.baggage.entries := List.Perm.refl _
  have hkey : e.key ∈ keysOf cx.baggage.entries := List.mem_cons_self
  have hsize : sizeOf cx.baggage.entries + sizeOf decoded.baggage.entries ≤ 8192 := by
    decide +kernel
  exact ⟨hxs, hys, hkey, (withIncomingBaggage_collision hxs hys hkey).2.2.1 hsize⟩

/-- So many letters. -/
def letters (n : Nat) : String := String.ofList (List.replicate n 'a')

theorem utf8ByteSize_letters (n : Nat) : (letters n).utf8ByteSize = n := by
  unfold letters
  induction n with
  | zero => rfl
  | succ n ih =>
    have hletter : 'a'.utf8Size = 1 := rfl
    rw [List.replicate_succ, String.ofList_cons, String.utf8ByteSize_append,
      String.utf8ByteSize_singleton, ih, hletter, Nat.add_comm]

theorem sizeOf_cons_letters (k : String) (n : Nat) (es : List BaggageEntry) :
    sizeOf (⟨k, letters n, ""⟩ :: es) = k.utf8ByteSize + n + sizeOf es := by
  have hnone : "".utf8ByteSize = 0 := rfl
  rw [sizeOf_cons, BaggageEntry.size, utf8ByteSize_letters, hnone, Nat.add_zero]

/-- Baggage with a long entry and a user. -/
def crowded : Baggage where
  entries := [⟨"note", letters 8000, ""⟩, ⟨"user", "anna", ""⟩]
  distinct := by decide
  limits := by
    have huser : sizeOf [⟨"user", "anna", ""⟩] = 8 := rfl
    have hnote : "note".utf8ByteSize = 4 := rfl
    rw [withinLimits, sizeOf_cons_letters, huser, hnote]
    decide

/-- A user with a long name. -/
def longUser : Baggage where
  entries := [⟨"user", letters 500, ""⟩]
  distinct := by decide
  limits := by
    have huser : "user".utf8ByteSize = 4 := rfl
    have hnone : sizeOf [] = 0 := rfl
    rw [withinLimits, sizeOf_cons_letters, huser, hnone]
    decide

/-- The user that was there stays: with the one that comes in there would be 8508 octets. -/
theorem stale_user_stays :
    let cx := Context.empty.withBaggage crowded
    let decoded := Context.empty.withBaggage longUser
    (withIncomingBaggage cx decoded).baggage.find? "user" = some ⟨"user", "anna", ""⟩ ∧
      cx.baggage.find? "user" = some ⟨"user", "anna", ""⟩ ∧
      decoded.baggage.find? "user" = some ⟨"user", letters 500, ""⟩ := by
  intro cx decoded
  have hsize : sizeOf (place ⟨"user", letters 500, ""⟩ crowded.entries) = 8508 := by
    have hplace : place ⟨"user", letters 500, ""⟩ crowded.entries
        = [⟨"note", letters 8000, ""⟩, ⟨"user", letters 500, ""⟩] := rfl
    have hnote : "note".utf8ByteSize = 4 := rfl
    have huser : "user".utf8ByteSize = 4 := rfl
    have hnone : sizeOf [] = 0 := rfl
    rw [hplace, sizeOf_cons_letters, sizeOf_cons_letters, hnote, huser, hnone]
  have hrefused : withinLimits (place ⟨"user", letters 500, ""⟩ crowded.entries) = false := by
    rw [withinLimits, hsize]
    exact Bool.and_false _
  have hmerged : (withIncomingBaggage cx decoded).baggage = crowded := by
    have hcx : cx.baggage = crowded := rfl
    have hdecoded : decoded.baggage.entries = [⟨"user", letters 500, ""⟩] := rfl
    rw [withIncomingBaggage_baggage, hcx, hdecoded, ofEntries_append, ofEntries_entries,
      List.foldl_cons, List.foldl_nil, insert_eq_self hrefused]
  have hstale : crowded.find? "user" = some ⟨"user", "anna", ""⟩ := by
    rw [find?, crowded, find?_cons, find?_cons, if_neg (by decide), if_pos rfl]
  have hincoming : longUser.find? "user" = some ⟨"user", letters 500, ""⟩ := by
    rw [find?, longUser, find?_cons, if_pos rfl]
  rw [hmerged]
  exact ⟨hstale, hstale, hincoming⟩

end Baggage

end CallSpan
