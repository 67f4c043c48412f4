import CallSpan.Proofs.Verdicts
import Mathlib.Data.List.Dedup

/-!
# Baggage within a span

The context that is handed on within a span has the baggage of the call with the decoded baggage
merged in. Merging inserts every entry anew, the decoded ones last, and an insertion that would
break a limit is refused. So that nothing is lost, the limits have to be kept at every step on
the way, also while an entry that will be replaced still stands there.

They are if the entries together, before any is replaced, keep them (`Baggage.Fit`): what has
been placed so far has no other keys, none of them twice, and is no larger than what was
inserted. What comes of it is the **union**, in which the decoded baggage wins
(`Baggage.IsUnion`), and it does not matter in which order either baggage is gone through.

Main result:

* `Interceptor.intercept_handsOn` — the context that is handed on by a traced call.
-/

namespace CallSpan

variable {m : Mode}

namespace Baggage

-- ---------------------------------------------------------------------------
-- Placing an entry
-- ---------------------------------------------------------------------------

section Place

variable {e x : BaggageEntry} {xs ys : List BaggageEntry} {k : String}

theorem mem_of_mem_place (h : x ∈ place e xs) : x = e ∨ x ∈ xs := by
  induction xs with
  | nil => exact Or.inl (List.mem_singleton.mp h)
  | cons y ys ih =>
    rw [place] at h
    split at h
    · exact (List.mem_cons.mp h).imp_right (List.mem_cons_of_mem y)
    · rcases List.mem_cons.mp h with rfl | h
      · exact Or.inr List.mem_cons_self
      · exact (ih h).imp_right (List.mem_cons_of_mem y)

theorem keysOf_append (xs ys : List BaggageEntry) :
    keysOf (xs ++ ys) = keysOf xs ++ keysOf ys :=
  List.map_append

theorem mem_keysOf_of_mem_place (h : k ∈ keysOf (place e xs)) : k = e.key ∨ k ∈ keysOf xs := by
  obtain ⟨x, hx, rfl⟩ := List.mem_map.mp h
  rcases mem_of_mem_place hx with rfl | hx
  · exact Or.inl rfl
  · exact Or.inr (List.mem_map_of_mem hx)

theorem find?_cons (x : BaggageEntry) (xs : List BaggageEntry) (k : String) :
    (x :: xs).find? (·.key = k) = if x.key = k then some x else xs.find? (·.key = k) := by
  by_cases h : x.key = k
  · rw [List.find?_cons_of_pos (by simpa using h), if_pos h]
  · rw [List.find?_cons_of_neg (by simpa using h), if_neg h]

/-- The entry that is found under a key is the one that was placed, if it has that key. -/
theorem find?_place (e : BaggageEntry) (xs : List BaggageEntry) (k : String) :
    (place e xs).find? (·.key = k)
      = if e.key = k then some e else xs.find? (·.key = k) := by
  induction xs with
  | nil => rw [place, find?_cons]
  | cons x xs ih =>
    rw [place, find?_cons]
    by_cases hx : x.key = e.key
    · rw [if_pos hx, find?_cons, hx]
      split <;> rfl
    · rw [if_neg hx, find?_cons, ih]
      by_cases hxk : x.key = k
      · have he : e.key ≠ k := fun h => hx (hxk.trans h.symm)
        rw [if_pos hxk, if_neg he, if_pos hxk]
      · rw [if_neg hxk, if_neg hxk]

theorem sizeOf_cons (e : BaggageEntry) (xs : List BaggageEntry) :
    sizeOf (e :: xs) = e.size + sizeOf xs := rfl

theorem sizeOf_append (xs ys : List BaggageEntry) :
    sizeOf (xs ++ ys) = sizeOf xs + sizeOf ys := by
  induction xs with
  | nil => exact (Nat.zero_add _).symm
  | cons x xs ih => rw [List.cons_append, sizeOf_cons, sizeOf_cons, ih, Nat.add_assoc]

theorem sizeOf_perm {xs ys : List BaggageEntry} (h : xs.Perm ys) : sizeOf xs = sizeOf ys := by
  induction h with
  | nil => rfl
  | cons x _ ih => rw [sizeOf_cons, sizeOf_cons, ih]
  | swap x y zs =>
    rw [sizeOf_cons, sizeOf_cons, sizeOf_cons, sizeOf_cons]
    omega
  | trans _ _ ih ih' => exact ih.trans ih'

/-- Whatever is replaced, placing an entry adds no more octets than the entry has. -/
theorem sizeOf_place_le (e : BaggageEntry) (xs : List BaggageEntry) :
    sizeOf (place e xs) ≤ e.size + sizeOf xs := by
  induction xs with
  | nil => exact Nat.le_refl _
  | cons x xs ih =>
    rw [place]
    split
    · rw [sizeOf_cons, sizeOf_cons]
      omega
    · rw [sizeOf_cons, sizeOf_cons]
      omega

end Place

-- ---------------------------------------------------------------------------
-- Inserting entries one by one
-- ---------------------------------------------------------------------------

/-- Places entries one by one. -/
def placeAll (es xs : List BaggageEntry) : List BaggageEntry :=
  es.foldl (fun acc e => place e acc) xs

theorem placeAll_cons (e : BaggageEntry) (es xs : List BaggageEntry) :
    placeAll (e :: es) xs = placeAll es (place e xs) := rfl

/-- Entries that can be inserted one by one with none refused: well-formed keys, of which there
are not too many, and not too many octets, those of replaced entries included. -/
structure Fit (es : List BaggageEntry) : Prop where
  valid : ∀ e ∈ es, e.hasValidKey = true
  keys : (keysOf es).dedup.length ≤ maxEntries
  size : sizeOf es ≤ maxSize

namespace Fit

variable {e : BaggageEntry} {es es' xs : List BaggageEntry}

/-- Entries with keys that occur, each once, are not too many. -/
theorem length_le (h : Fit es) {keys : List String} (hsub : keys ⊆ keysOf es)
    (hkeys : keys.Nodup) : keys.length ≤ maxEntries := by
  have hdistinct : keys ⊆ (keysOf es).dedup := fun k hk => List.mem_dedup.mpr (hsub hk)
  exact Nat.le_trans (hkeys.length_le_of_subset hdistinct) h.keys

theorem perm (h : Fit es) (hp : es.Perm es') : Fit es' where
  valid e he := h.valid e (hp.mem_iff.mpr he)
  keys := by
    refine h.length_le (fun k hk => ?_) (List.nodup_dedup _)
    exact (hp.map BaggageEntry.key).mem_iff.mpr (List.mem_dedup.mp hk)
  size := by
    rw [← sizeOf_perm hp]
    exact h.size

/-- The keys that have been placed so far are among those that were there and are inserted. -/
theorem keysOf_place_subset (e : BaggageEntry) (xs es : List BaggageEntry) :
    keysOf (place e xs ++ es) ⊆ keysOf (xs ++ e :: es) := by
  intro k hk
  rw [keysOf_append] at hk
  rw [keysOf_append]
  rcases List.mem_append.mp hk with hk | hk
  · rcases mem_keysOf_of_mem_place hk with rfl | hk
    · exact List.mem_append_right _ List.mem_cons_self
    · exact List.mem_append_left _ hk
  · exact List.mem_append_right _ (List.mem_cons_of_mem _ hk)

/-- The running bound: what has been placed fits with what is left. -/
theorem place (h : Fit (xs ++ e :: es)) : Fit (place e xs ++ es) where
  valid x hx := by
    apply h.valid
    rcases List.mem_append.mp hx with hx | hx
    · rcases mem_of_mem_place hx with rfl | hx
      · exact List.mem_append_right _ List.mem_cons_self
      · exact List.mem_append_left _ hx
    · exact List.mem_append_right _ (List.mem_cons_of_mem _ hx)
  keys := by
    refine h.length_le (fun k hk => ?_) (List.nodup_dedup _)
    exact keysOf_place_subset e xs es (List.mem_dedup.mp hk)
  size := by
    have hsize := h.size
    have hplace := sizeOf_place_le e xs
    rw [sizeOf_append, sizeOf_cons] at hsize
    rw [sizeOf_append]
    omega

/-- The insertion that comes next is not refused. -/
theorem withinLimits_place (h : Fit (xs ++ e :: es)) (hxs : (keysOf xs).Nodup) :
    withinLimits (Baggage.place e xs) = true := by
  have hplaced := h.place
  have hvalid : (Baggage.place e xs).all BaggageEntry.hasValidKey = true :=
    List.all_eq_true.mpr fun x hx => hplaced.valid x (List.mem_append_left _ hx)
  have hlength : (Baggage.place e xs).length ≤ maxEntries := by
    rw [← List.length_map BaggageEntry.key]
    refine hplaced.length_le (fun k hk => ?_) (nodup_place hxs)
    rw [keysOf_append]
    exact List.mem_append_left _ hk
  have hsize := hplaced.size
  rw [sizeOf_append] at hsize
  rw [withinLimits, hvalid, Bool.true_and, Bool.and_eq_true]
  exact ⟨decide_eq_true hlength, decide_eq_true (by omega)⟩

end Fit

/-- Where all entries together fit, none is refused. -/
theorem entries_foldl_insert {b : Baggage} {es : List BaggageEntry} (h : Fit (b.entries ++ es)) :
    (es.foldl insert b).entries = placeAll es b.entries := by
  induction es generalizing b with
  | nil => rfl
  | cons e es ih =>
    have hinsert : (b.insert e).entries = place e b.entries :=
      entries_insert (h.withinLimits_place b.distinct)
    have hrest : Fit ((b.insert e).entries ++ es) := by
      rw [hinsert]
      exact h.place
    rw [List.foldl_cons, ih hrest, hinsert, placeAll_cons]

theorem entries_ofEntries {es : List BaggageEntry} (h : Fit es) :
    (ofEntries es).entries = placeAll es [] :=
  entries_foldl_insert (b := ∅) h

-- ---------------------------------------------------------------------------
-- The union
-- ---------------------------------------------------------------------------

section Union

variable {xs ys : List BaggageEntry}

theorem placeAll_append (xs ys zs : List BaggageEntry) :
    placeAll (xs ++ ys) zs = placeAll ys (placeAll xs zs) :=
  List.foldl_append

/-- Where keys are distinct, an entry that stands there is the one that is found. -/
theorem find?_eq_some_iff (h : (keysOf xs).Nodup) {k : String} {e : BaggageEntry} :
    xs.find? (·.key = k) = some e ↔ e ∈ xs ∧ e.key = k := by
  induction xs with
  | nil => simp
  | cons x xs ih =>
    rw [keysOf, List.map_cons, List.nodup_cons] at h
    rw [find?_cons, List.mem_cons]
    by_cases hx : x.key = k
    · rw [if_pos hx, Option.some_inj]
      constructor
      · rintro rfl
        exact ⟨Or.inl rfl, hx⟩
      · rintro ⟨rfl | he, hek⟩
        · rfl
        · have hmem : x.key ∈ keysOf xs := by
            rw [hx, ← hek]
            exact List.mem_map_of_mem he
          exact absurd hmem h.1
    · rw [if_neg hx, ih h.2]
      constructor
      · rintro ⟨he, hek⟩
        exact ⟨Or.inr he, hek⟩
      · rintro ⟨rfl | he, hek⟩
        · exact absurd hek hx
        · exact ⟨he, hek⟩

theorem find?_eq_none_iff {k : String} : xs.find? (·.key = k) = none ↔ k ∉ keysOf xs := by
  rw [List.find?_eq_none, keysOf, List.mem_map]
  constructor
  · rintro h ⟨x, hx, hxk⟩
    exact h x hx (decide_eq_true hxk)
  · intro h x hx hxk
    exact h ⟨x, hx, of_decide_eq_true hxk⟩

/-- In which order entries with distinct keys stand makes no difference to what is found. -/
theorem find?_perm (h : (keysOf xs).Nodup) (hp : xs.Perm ys) (k : String) :
    ys.find? (·.key = k) = xs.find? (·.key = k) := by
  have hys : (keysOf ys).Nodup := (hp.map BaggageEntry.key).nodup_iff.mp h
  apply Option.ext
  intro e
  rw [find?_eq_some_iff hys, find?_eq_some_iff h, hp.mem_iff]

/-- Entries with distinct keys that are placed are found before those that were there. -/
theorem find?_placeAll (h : (keysOf ys).Nodup) (xs : List BaggageEntry) (k : String) :
    (placeAll ys xs).find? (·.key = k)
      = (ys.find? (·.key = k)).or (xs.find? (·.key = k)) := by
  induction ys generalizing xs with
  | nil => rfl
  | cons y ys ih =>
    rw [keysOf, List.map_cons, List.nodup_cons] at h
    rw [placeAll_cons, ih h.2, find?_place, find?_cons]
    by_cases hy : y.key = k
    · have hnone : ys.find? (·.key = k) = none := find?_eq_none_iff.mpr (hy ▸ h.1)
      rw [if_pos hy, if_pos hy, hnone, Option.none_or, Option.some_or]
    · rw [if_neg hy, if_neg hy]

end Union

/-- Baggage that has each entry of `incoming`, and of `b` the entries under other keys, and
nothing else. -/
structure IsUnion (union b incoming : Baggage) : Prop where
  find? : ∀ k, union.find? k = (incoming.find? k).or (b.find? k)
  /-- As many entries as these, and the very same. -/
  perm : union.entries.Perm
    (incoming.entries ++ b.entries.filter fun e => !(keysOf incoming.entries).contains e.key)

/-- An entry of baggage is found under its key. -/
theorem mem_entries_iff (b : Baggage) (e : BaggageEntry) :
    e ∈ b.entries ↔ b.find? e.key = some e := by
  have h := find?_eq_some_iff b.distinct (k := e.key) (e := e)
  rw [find?, h, and_iff_left rfl]

theorem nodup_entries (b : Baggage) : b.entries.Nodup :=
  List.Nodup.of_map _ b.distinct

namespace IsUnion

variable {union b incoming : Baggage}

/-- What is found under each key tells how the entries stand to each other. -/
theorem of_find? (h : ∀ k, union.find? k = (incoming.find? k).or (b.find? k)) :
    union.IsUnion b incoming where
  find? := h
  perm := by
    let others := b.entries.filter fun e => !(keysOf incoming.entries).contains e.key
    have hothers : ∀ e, e ∈ others ↔ e ∈ b.entries ∧ e.key ∉ keysOf incoming.entries := by
      intro e
      rw [List.mem_filter, Bool.not_eq_true', ← Bool.not_eq_true, List.contains_iff_mem]
    have hnodup : (incoming.entries ++ others).Nodup := by
      refine List.nodup_append.mpr ⟨incoming.nodup_entries, b.nodup_entries.filter _, ?_⟩
      rintro e he e' he' rfl
      exact ((hothers e).mp he').2 (List.mem_map_of_mem he)
    refine (List.perm_ext_iff_of_nodup union.nodup_entries hnodup).mpr fun e => ?_
    rw [mem_entries_iff, h, Option.or_eq_some_iff, List.mem_append, hothers, mem_entries_iff,
      mem_entries_iff, Baggage.find?, find?_eq_none_iff, and_comm (a := e.key ∉ _)]

end IsUnion

/-- **Merging.** Entries of two baggages that fit together, each in any order, come to the
union. -/
theorem isUnion_ofEntries {b incoming : Baggage} (h : Fit (b.entries ++ incoming.entries))
    {xs ys : List BaggageEntry} (hxs : xs.Perm b.entries) (hys : ys.Perm incoming.entries) :
    (ofEntries (xs ++ ys)).IsUnion b incoming := by
  have hentries : (ofEntries (xs ++ ys)).entries = placeAll ys (placeAll xs []) := by
    rw [entries_ofEntries (h.perm (hxs.append hys).symm), placeAll_append]
  have hxs' : (keysOf xs).Nodup := (hxs.map BaggageEntry.key).nodup_iff.mpr b.distinct
  have hys' : (keysOf ys).Nodup := (hys.map BaggageEntry.key).nodup_iff.mpr incoming.distinct
  refine .of_find? fun k => ?_
  rw [find?, hentries, find?_placeAll hys', find?_placeAll hxs', List.find?_nil, Option.or_none,
    find?_perm incoming.distinct hys.symm, find?_perm b.distinct hxs.symm, find?, find?]

theorem isUnion_merge {b incoming : Baggage} (h : Fit (b.entries ++ incoming.entries)) :
    (b.merge incoming).IsUnion b incoming :=
  isUnion_ofEntries h (List.Perm.refl _) (List.Perm.refl _)

/-- Two baggages that have not too many keys nor octets between them can be inserted one after
the other. -/
theorem fit_of_bounds {b incoming : Baggage}
    (hkeys : (keysOf (b.entries ++ incoming.entries)).dedup.length ≤ maxEntries)
    (hsize : sizeOf b.entries + sizeOf incoming.entries ≤ maxSize) :
    Fit (b.entries ++ incoming.entries) where
  valid e he := by
    have hvalid : ∀ b' : Baggage, e ∈ b'.entries → e.hasValidKey = true := by
      intro b' he
      have hlimits := b'.limits
      rw [withinLimits, Bool.and_eq_true, Bool.and_eq_true] at hlimits
      exact List.all_eq_true.mp hlimits.1.1 e he
    rcases List.mem_append.mp he with he | he
    · exact hvalid b he
    · exact hvalid incoming he
  keys := hkeys
  size := by
    rw [sizeOf_append]
    exact hsize

/-- Where nothing comes in, the union is what was there. -/
theorem isUnion_empty (b : Baggage) : b.IsUnion b ∅ :=
  .of_find? fun _ => Option.none_or.symm

end Baggage

-- ---------------------------------------------------------------------------
-- The context that is handed on
-- ---------------------------------------------------------------------------

namespace Admission

variable (a : Admission m)

/-- The baggage of the call. -/
def outer : Baggage := (Mode.contextOf a.subject).baggage

/-- The baggage that was decoded for it. -/
def incoming : Baggage := a.judgement.decoded.baggage

/-- What is said of the context that an admitted call hands on. -/
structure HandsOn : Prop where
  /-- The span that was just started is active. -/
  span : a.context.span = some (.started a.span (Recorder.contextOf a.span a.judgement.parent))
  metadata : a.context.metadata = (Mode.contextOf a.subject).metadata
  baggage : a.context.baggage.IsUnion a.outer a.incoming
  /-- Whatever order the entries of either baggage are gone through in. -/
  unordered : ∀ xs ys, xs.Perm a.outer.entries → ys.Perm a.incoming.entries →
    (Baggage.ofEntries (xs ++ ys)).IsUnion a.outer a.incoming
  nothing : a.incoming = ∅ → a.context.baggage = a.outer
  /-- The context is that of the subject that goes down to the delegate and the handler. -/
  within : Mode.contextOf (Mode.rebase a.context a.subject) = a.context
  told : ∀ result, (a.decoration result).context = a.context

theorem baggage_context :
    a.context.baggage = if a.incoming.isEmpty then a.outer else a.outer.merge a.incoming := by
  rw [context, Judgement.contextWithin, withIncomingBaggage]
  show (Context.withSpan (if a.incoming.isEmpty = true then _ else _) _).baggage = _
  split <;> rfl

theorem handsOn
    (hkeys : (Baggage.keysOf (a.outer.entries ++ a.incoming.entries)).dedup.length ≤ 64)
    (hsize : Baggage.sizeOf a.outer.entries + Baggage.sizeOf a.incoming.entries ≤ 8192) :
    a.HandsOn := by
  have hfit : Baggage.Fit (a.outer.entries ++ a.incoming.entries) :=
    Baggage.fit_of_bounds hkeys hsize
  have hnothing : a.incoming = ∅ → a.context.baggage = a.outer := by
    intro h
    rw [baggage_context, h]
    rfl
  refine ⟨rfl, ?_, ?_, ?_, hnothing, ?_, ?_⟩
  · rw [context, Judgement.metadata_contextWithin]
  · rw [baggage_context]
    split
    · rename_i hempty
      have hincoming : a.incoming = ∅ := Baggage.ext (List.isEmpty_iff.mp hempty)
      rw [hincoming]
      exact a.outer.isUnion_empty
    · exact Baggage.isUnion_merge hfit
  · intro xs ys hxs hys
    exact Baggage.isUnion_ofEntries hfit hxs hys
  · exact Mode.contextOf_rebase a.context a.subject
  · intro result
    cases result with
    | ok reply => rfl
    | error status => rfl

end Admission

/-- **The context within.** Whatever the options, the propagator, the delegate, what lies behind
it and the context that a call comes with: where the two baggages have not too many keys and
octets between them, an admitted call goes through the stages of its admission with a context in
which its span is active and the metadata is what it was, and whose baggage is the union, in
which what was decoded from the metadata wins. The context that the call came with is a value,
and there is nothing that could change it. -/
theorem Interceptor.intercept_handsOn (p : TracingPolicy) (delegate : Option (Interceptor m))
    (inner : Continuation m) (info : m.Info) (subject : m.Subject) (w : World m.Client)
    (notes : List Note)
    (hincluded : (p.includes (p.inquiry info subject)).verdict = (notes, .returned true))
    (hkeys : (Baggage.keysOf ((Mode.contextOf subject).baggage.entries
      ++ (p.judgement subject true).decoded.baggage.entries)).dedup.length ≤ 64)
    (hsize : Baggage.sizeOf (Mode.contextOf subject).baggage.entries
      + Baggage.sizeOf (p.judgement subject true).decoded.baggage.entries ≤ 8192) :
    let a := p.admission info subject notes (through delegate info inner) w
    (tracing p delegate).intercept info inner subject w = a.ran ∧ a.HandsOn := by
  intro a
  constructor
  · exact TracingPolicy.around_admitted hincluded (through delegate info inner) w
  · exact a.handsOn hkeys hsize

/-- Carries baggage, and nothing else. -/
def TracingPolicy.carrying : TracingPolicy := { standard with propagator := [.baggage] }

/-- A request in whose metadata a user is told, and a cart, in a context with another user. -/
def UnaryRequest.laden : UnaryRequest :=
  let cx := Context.empty.withBaggage (.ofEntries [⟨"user", "anna", ""⟩, ⟨"shop", "7", "near"⟩])
  ⟨cx.withMetadata (Metadata.empty.put "baggage" "user=otto;guest,cart=3"), ⟨.unit, .unit⟩⟩

/-- What is decoded wins, and nothing else of either is lost. -/
example : (withIncomingBaggage UnaryRequest.laden.context
      (TracingPolicy.carrying.judgement (m := .unary) .laden true).decoded).baggage.entries
    = [⟨"user", "otto", "guest"⟩, ⟨"shop", "7", "near"⟩, ⟨"cart", "3", ""⟩] := rfl

theorem Interceptor.intercept_handsOn_laden :
    let p := TracingPolicy.carrying
    let decoded := (p.judgement (m := .unary) .laden true).decoded
    let inner : Continuation .unary :=
      (composite [.logging]).intercept ⟨"/shop/Buy"⟩ Handler.renaming.serve
    let a := p.admission (m := .unary) ⟨"/shop/Buy"⟩ .laden []
      (through (some .retraced) ⟨"/shop/Buy"⟩ inner) .fresh
    (p.includes (p.inquiry (m := .unary) ⟨"/shop/Buy"⟩ .laden)).verdict = ([], .returned true) ∧
    (Baggage.keysOf (UnaryRequest.laden.context.baggage.entries
      ++ decoded.baggage.entries)).dedup.length ≤ 64 ∧
    Baggage.sizeOf UnaryRequest.laden.context.baggage.entries
      + Baggage.sizeOf decoded.baggage.entries ≤ 8192 ∧
    (tracing p (some .retraced)).intercept ⟨"/shop/Buy"⟩ inner .laden .fresh = a.ran ∧
      a.HandsOn := by
  have hkeys : (Baggage.keysOf (UnaryRequest.laden.context.baggage.entries
      ++ (TracingPolicy.carrying.judgement (m := .unary) .laden
        true).decoded.baggage.entries)).dedup.length ≤ 64 := by decide +kernel
  have hsize : Baggage.sizeOf UnaryRequest.laden.context.baggage.entries
      + Baggage.sizeOf (TracingPolicy.carrying.judgement (m := .unary) .laden
        true).decoded.baggage.entries ≤ 8192 := by decide +kernel
  exact ⟨rfl, hkeys, hsize, intercept_handsOn .carrying (some .retraced) _ ⟨"/shop/Buy"⟩ .laden
    .fresh [] rfl hkeys hsize⟩

end CallSpan
