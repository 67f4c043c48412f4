import CallSpan.Proofs.Verdicts

/-!
# The life of a span

Every span that a tracing layer starts is ended by that layer, once, when all that
lies within has come to its end. This holds of any tree of interceptors around any
handler, and of every outcome: a call that returns, that panics in a predicate, a
decorator, a layer or the handler, or that is cancelled.

The invariant is `Bracketed`: what a call adds to the log and to the trail is a word
of a grammar. Each included judgement of the trail stands for a start in the log, the
step that settles it for the end, and between the two is a word again. Every way to
build a call keeps it (`Brackets`), so a whole tree does, by induction; what the
statement says about a log is then read off the grammar. Which judgements include a call is
not left to the layer: they are the answers of its predicate (`TracingPolicy.answer`).

Main result:

* `Interceptor.spanLifecycle_intercept` — the spans of a call, as `SpanLifecycle` says.
-/

namespace CallSpan

variable {m : Mode} {α β : Type}

-- ---------------------------------------------------------------------------
-- What is stated
-- ---------------------------------------------------------------------------

inductive Mark where
  | start (span : Nat)
  | finish (span : Nat)
  deriving DecidableEq

def Entry.startedSpan? : Entry → Option Nat
  | .started n _ => some n
  | _ => none

/-- The mark that an entry is, whoever set it. -/
def Entry.mark? : Entry → Option Mark
  | .started n _ => some (.start n)
  | .acted _ n .finish => some (.finish n)
  | _ => none

/-- Reads marks as brackets, with the given spans open, the innermost first: the spans that
are open in the end, or none if a span is ended that is not the innermost one. -/
def Mark.close : List Nat → List Mark → Option (List Nat)
  | opened, [] => some opened
  | opened, .start n :: marks => close (n :: opened) marks
  | [], .finish _ :: _ => none
  | n :: opened, .finish k :: marks => if n = k then close opened marks else none

def Step.isAdmission : Step m → Bool
  | judged _ _ j => j.included
  | _ => false

/-- How many calls were admitted by tracing layers. -/
def Trail.admissions (t : Trail m) : Nat := t.countP Step.isAdmission

/-- The marks that a trail calls for when `n` spans have been started. Of the invocations of
tracing layers that are still at work, `running` has the span of each, if it has one. -/
def Trail.marks : Nat → List (Option Nat) → Trail m → List Mark
  | _, _, [] => []
  | n, running, .judged _ _ j :: t =>
    if j.included then .start (n + 1) :: Trail.marks (n + 1) (some (n + 1) :: running) t
    else Trail.marks n (none :: running) t
  | n, some k :: running, .settled :: t => .finish k :: Trail.marks n running t
  | n, none :: running, .settled :: t => Trail.marks n running t
  | n, [], .settled :: t => Trail.marks n [] t
  | n, running, .entered _ _ :: t => Trail.marks n running t
  | n, running, .handled _ :: t => Trail.marks n running t
  | n, running, .answered _ _ :: t => Trail.marks n running t

/-- What the predicate of a tracing layer answers about a call, in whatever world. Without one,
every call is traced. -/
def TracingPolicy.answer (p : TracingPolicy) (info : m.Info) (subject : m.Subject) :
    Outcome Bool :=
  match p.predicate with
  | some predicate => (predicate (p.inquiry info subject)).verdict.2
  | none => .returned true

/-- What is said of the entries that a call adds to a log, and of its trail, when `spans`
spans were started before. -/
structure SpanLifecycle (info : m.Info) (spans : Nat) (t : Trail m) (es : List Entry) :
    Prop where
  /-- A tracing layer admits a call if its predicate says so, and only then. -/
  judged : ∀ p subject j, .judged p subject j ∈ t → p.answer info subject = .returned j.included
  /-- Spans are started one for each admission, and numbered on. -/
  started : es.filterMap Entry.startedSpan? = List.range' (spans + 1) t.admissions
  /-- A span that is started is ended exactly once. -/
  endedOnce : ∀ n s, Entry.started n s ∈ es → (es.filter (Entry.isEndOf n)).length = 1
  /-- Starts and ends are brackets. -/
  bracketed : Mark.close [] (es.filterMap Entry.mark?) = some []
  /-- A span starts when its layer admits a call, and ends when that layer is done with it. -/
  nested : es.filterMap Entry.mark? = t.marks spans []
  /-- What else a tracing layer does to a span, it does between its start and its end. -/
  inside : ∀ before n a after, es = before ++ .acted .layer n a :: after → a ≠ .finish →
    (∃ s, Entry.started n s ∈ before) ∧ ∃ e ∈ after, e.isEndOf n = true

-- ---------------------------------------------------------------------------
-- The grammar of logs and trails
-- ---------------------------------------------------------------------------

/-- An entry that may stand between marks, when `owner` is the span of the tracing layer at
work: a tracing layer acts on its own span alone, and only to end it does anyone end one. -/
def Entry.AllowedIn (owner : Option Nat) : Entry → Prop
  | .started _ _ => False
  | .acted .layer n a => owner = some n ∧ a ≠ .finish
  | .acted .user _ a => a ≠ .finish
  | .reported _ => True
  | .noted _ => True

/-- `Bracketed info owner n es t k`: entries and steps of a call that takes the number of spans
from `n` to `k`, within the work of a layer whose span is `owner`. -/
inductive Bracketed (info : m.Info) : Option Nat → Nat → List Entry → Trail m → Nat → Prop where
  | nil {owner : Option Nat} {n : Nat} : Bracketed info owner n [] [] n
  | entry {owner : Option Nat} {n k : Nat} {e : Entry} {es : List Entry} {t : Trail m}
      (he : e.AllowedIn owner) (rest : Bracketed info owner n es t k) :
      Bracketed info owner n (e :: es) t k
  | step {owner : Option Nat} {n k : Nat} {es : List Entry} {s : Step m} {t : Trail m}
      (hs : s.isVisit = true) (rest : Bracketed info owner n es t k) :
      Bracketed info owner n es (s :: t) k
  | bypass {owner : Option Nat} {n k l : Nat} {es es' : List Entry} {t t' : Trail m}
      {p : TracingPolicy} {subject : m.Subject} {j : Judgement}
      (hanswer : p.answer info subject = .returned j.included) (hj : j.included = false)
      (body : Bracketed info owner n es t k) (rest : Bracketed info owner k es' t' l) :
      Bracketed info owner n (es ++ es') (.judged p subject j :: (t ++ .settled :: t')) l
  | span {owner : Option Nat} {n k l : Nat} {es es' : List Entry} {t t' : Trail m}
      {p : TracingPolicy} {subject : m.Subject} {j : Judgement} {s : SpanStart}
      (hanswer : p.answer info subject = .returned j.included) (hj : j.included = true)
      (body : Bracketed info (some (n + 1)) (n + 1) es t k)
      (rest : Bracketed info owner k es' t' l) :
      Bracketed info owner n (.started (n + 1) s :: (es ++ .acted .layer (n + 1) .finish :: es'))
        (.judged p subject j :: (t ++ .settled :: t')) l

/-- Where a member of two lists in one stands. -/
theorem split_append {es es' before after : List Entry} {y : Entry}
    (h : es ++ es' = before ++ y :: after) :
    (∃ mid, es = before ++ y :: mid ∧ after = mid ++ es') ∨
      ∃ mid, before = es ++ mid ∧ es' = mid ++ y :: after := by
  rcases List.append_eq_append_iff.mp h with ⟨mid, hbefore, hes'⟩ | ⟨mid, hes, hafter⟩
  · exact Or.inr ⟨mid, hbefore, hes'⟩
  · cases mid with
    | nil => exact Or.inr ⟨[], by simpa using hes.symm, by simpa using hafter.symm⟩
    | cons z mid =>
      obtain ⟨rfl, rfl⟩ := List.cons.inj hafter
      exact Or.inl ⟨mid, hes, rfl⟩

namespace Bracketed

variable {info : m.Info} {owner : Option Nat} {n k l : Nat} {es es' : List Entry}
  {t t' : Trail m}

theorem append (h : Bracketed info owner n es t k) (h' : Bracketed info owner k es' t' l) :
    Bracketed info owner n (es ++ es') (t ++ t') l := by
  induction h with
  | nil => exact h'
  | entry he _ ih => exact .entry he (ih h')
  | step hs _ ih => exact .step hs (ih h')
  | bypass hanswer hj body _ _ ih =>
    rw [List.append_assoc, List.cons_append, List.append_assoc, List.cons_append]
    exact .bypass hanswer hj body (ih h')
  | span hanswer hj body _ _ ih =>
    rw [List.cons_append, List.append_assoc, List.cons_append, List.cons_append,
      List.append_assoc, List.cons_append]
    exact .span hanswer hj body (ih h')

theorem of_allowed (h : ∀ e ∈ es, e.AllowedIn owner) :
    Bracketed info owner n es [] n := by
  induction es with
  | nil => exact .nil
  | cons e es ih =>
    exact .entry (h e List.mem_cons_self) (ih fun x hx => h x (List.mem_cons_of_mem _ hx))

-- ---------------------------------------------------------------------------
-- What the grammar says of a log
-- ---------------------------------------------------------------------------

theorem startedSpan?_of_allowed {e : Entry} (he : e.AllowedIn owner) : e.startedSpan? = none := by
  cases e with
  | started => exact he.elim
  | _ => rfl

theorem mark?_of_allowed {e : Entry} (he : e.AllowedIn owner) : e.mark? = none := by
  cases e with
  | started => exact he.elim
  | acted author n a =>
    have ha : a ≠ .finish := by
      cases author with
      | layer => exact he.2
      | user => exact he
    cases a with
    | finish => exact absurd rfl ha
    | _ => rfl
  | _ => rfl

/-- What is no mark ends no span. -/
theorem isEndOf_of_mark? {e : Entry} (he : e.mark? = none) (x : Nat) : e.isEndOf x = false := by
  cases e with
  | acted author n a =>
    cases a with
    | finish => simp [Entry.mark?] at he
    | _ => rfl
  | _ => rfl

/-- What a trail says of the judgements of tracing layers are the answers of their predicates. -/
theorem answers (h : Bracketed info owner n es t k) {p : TracingPolicy} {subject : m.Subject}
    {j : Judgement} (hmem : .judged p subject j ∈ t) :
    p.answer info subject = .returned j.included := by
  induction h with
  | nil => exact absurd hmem List.not_mem_nil
  | entry _ _ ih => exact ih hmem
  | step hs _ ih =>
    rcases List.mem_cons.mp hmem with rfl | hmem
    · exact absurd hs Bool.false_ne_true
    · exact ih hmem
  | bypass hanswer _ _ _ ihb ih | span hanswer _ _ _ ihb ih =>
    rcases List.mem_cons.mp hmem with hjudged | hmem
    · obtain ⟨rfl, rfl, rfl⟩ := Step.judged.inj hjudged
      exact hanswer
    · rcases List.mem_append.mp hmem with hbody | hrest
      · exact ihb hbody
      · exact ih (List.mem_of_ne_of_mem (fun h => by cases h) hrest)

theorem count_admissions (h : Bracketed info owner n es t k) : k = n + t.admissions := by
  induction h with
  | nil => rfl
  | entry _ _ ih => exact ih
  | step hs _ ih =>
    rw [ih, Trail.admissions, Trail.admissions, List.countP_cons_of_neg]
    intro hadm
    unfold Step.isAdmission at hadm
    split at hadm
    · exact absurd hs Bool.false_ne_true
    · exact absurd hadm (by decide)
  | bypass _ hj _ _ ihb ih =>
    simp only [Trail.admissions, List.countP_cons, List.countP_append, Step.isAdmission, hj,
      Bool.false_eq_true, if_false] at ih ihb ⊢
    omega
  | span _ hj _ _ ihb ih =>
    simp only [Trail.admissions, List.countP_cons, List.countP_append, Step.isAdmission, hj,
      Bool.false_eq_true, if_true, if_false] at ih ihb ⊢
    omega

/-- The spans that are started are the next ones, in order. -/
theorem started_eq (h : Bracketed info owner n es t k) :
    es.filterMap Entry.startedSpan? = List.range' (n + 1) (k - n) := by
  induction h with
  | nil => simp
  | entry he _ ih => rwa [List.filterMap_cons_none (startedSpan?_of_allowed he)]
  | step _ _ ih => exact ih
  | @bypass _ n k l _ _ _ _ _ _ _ _ _ body rest ihb ih =>
    have hk := body.count_admissions
    have hl := rest.count_admissions
    rw [List.filterMap_append, ihb, ih, show k + 1 = n + 1 + (k - n) by omega, List.range'_append_1]
    congr 1
    omega
  | @span _ n k l _ _ _ _ _ _ _ _ _ _ body rest ihb ih =>
    have hk := body.count_admissions
    have hl := rest.count_admissions
    have hstart : ∀ s, (Entry.started (n + 1) s).startedSpan? = some (n + 1) := fun _ => rfl
    have hfinish : (Entry.acted .layer (n + 1) .finish).startedSpan? = none := rfl
    rw [List.filterMap_cons_some (hstart _), List.filterMap_append, ihb,
      List.filterMap_cons_none hfinish, ih,
      show k + 1 = n + 1 + 1 + (k - (n + 1)) by omega, List.range'_append_1,
      show l - n = (k - (n + 1) + (l - k)) + 1 by omega, List.range'_succ]

/-- Of the spans that are started each is ended once, and no other span is. -/
theorem count_ends (h : Bracketed info owner n es t k) (x : Nat) :
    (es.filter (Entry.isEndOf x)).length = if n < x ∧ x ≤ k then 1 else 0 := by
  induction h with
  | nil =>
    rw [if_neg (by omega)]
    rfl
  | entry he _ ih =>
    rw [List.filter_cons_of_neg (by simp [isEndOf_of_mark? (mark?_of_allowed he)]), ih]
  | step _ _ ih => exact ih
  | @bypass _ n k l _ _ _ _ _ _ _ _ _ body rest ihb ih =>
    have hk := body.count_admissions
    have hl := rest.count_admissions
    rw [List.filter_append, List.length_append, ihb, ih]
    split <;> split <;> split <;> omega
  | @span _ n k l _ _ _ _ _ _ _ _ _ _ body rest ihb ih =>
    have hk := body.count_admissions
    have hl := rest.count_admissions
    rw [List.filter_cons_of_neg (by simp [Entry.isEndOf]), List.filter_append, List.length_append,
      ihb]
    -- the end that the layer sets is that of its own span
    by_cases hx : n + 1 = x
    · rw [List.filter_cons_of_pos (by simp [Entry.isEndOf, hx]), List.length_cons, ih]
      split <;> split <;> split <;> omega
    · rw [List.filter_cons_of_neg (by simp [Entry.isEndOf, hx]), ih]
      split <;> split <;> split <;> omega

/-- A span's own marks stand around those of what lies within. -/
theorem mark?_span (n : Nat) (s : SpanStart) (es es' : List Entry) :
    (Entry.started n s :: (es ++ .acted .layer n .finish :: es')).filterMap Entry.mark?
      = .start n :: (es.filterMap Entry.mark? ++ .finish n :: es'.filterMap Entry.mark?) := by
  simp [Entry.mark?]

/-- The marks are those that the trail calls for, whatever is at work and whatever follows. -/
theorem marks_eq (h : Bracketed info owner n es t k) (running : List (Option Nat))
    (later : Trail m) :
    Trail.marks n running (t ++ later)
      = es.filterMap Entry.mark? ++ Trail.marks k running later := by
  induction h generalizing running later with
  | nil => rfl
  | entry he _ ih => rw [ih, List.filterMap_cons_none (mark?_of_allowed he)]
  | @step _ n k es s t hs _ ih =>
    cases s with
    | judged => exact absurd hs Bool.false_ne_true
    | settled => exact absurd hs Bool.false_ne_true
    | entered => exact ih running later
    | handled => exact ih running later
    | answered => exact ih running later
  | bypass _ hj _ _ ihb ih =>
    rw [List.cons_append, List.append_assoc, List.cons_append, Trail.marks, if_neg (by simp [hj]),
      ihb, Trail.marks, ih, List.filterMap_append, List.append_assoc]
  -- the layer is at work with its span while its body is read, and settles with it
  | span _ hj _ _ ihb ih =>
    rw [List.cons_append, List.append_assoc, List.cons_append, Trail.marks, if_pos hj, ihb,
      Trail.marks, ih, mark?_span, List.cons_append, List.append_assoc, List.cons_append]

/-- Marks are brackets, whatever is open and whatever follows. -/
theorem close_eq (h : Bracketed info owner n es t k) (opened : List Nat) (later : List Mark) :
    Mark.close opened (es.filterMap Entry.mark? ++ later) = Mark.close opened later := by
  induction h generalizing opened later with
  | nil => rfl
  | entry he _ ih => rw [List.filterMap_cons_none (mark?_of_allowed he), ih]
  | step _ _ ih => exact ih opened later
  | bypass _ _ _ _ ihb ih => rw [List.filterMap_append, List.append_assoc, ihb, ih]
  | span _ _ _ _ ihb ih =>
    rw [mark?_span, List.cons_append, List.append_assoc, Mark.close, ihb, List.cons_append,
      Mark.close, if_pos rfl, ih]

/-- A tracing layer acts on its own span, or on one that was started before and is ended
later. -/
theorem inside_span (h : Bracketed info owner n es t k) {before after : List Entry} {x : Nat}
    {a : SpanAction} (hes : es = before ++ .acted .layer x a :: after) (ha : a ≠ .finish) :
    owner = some x ∨
      (∃ s, Entry.started x s ∈ before) ∧ ∃ e ∈ after, e.isEndOf x = true := by
  induction h generalizing before after with
  | nil => simp at hes
  | entry he _ ih =>
    rcases List.cons_eq_append_iff.mp hes with ⟨rfl, hcons⟩ | ⟨before', rfl, hes'⟩
    · obtain ⟨rfl, -⟩ := List.cons.inj hcons
      exact Or.inl he.1
    · rcases ih hes' with howner | ⟨⟨s, hs⟩, hend⟩
      · exact Or.inl howner
      · exact Or.inr ⟨⟨s, List.mem_cons_of_mem _ hs⟩, hend⟩
  | step _ _ ih => exact ih hes
  | bypass _ _ _ _ ihb ih =>
    rcases split_append hes with ⟨mid, hbody, rfl⟩ | ⟨mid, rfl, hrest⟩
    · rcases ihb hbody with howner | ⟨hs, e, he, hend⟩
      · exact Or.inl howner
      · exact Or.inr ⟨hs, e, List.mem_append_left _ he, hend⟩
    · rcases ih hrest with howner | ⟨⟨s, hs⟩, hend⟩
      · exact Or.inl howner
      · exact Or.inr ⟨⟨s, List.mem_append_right _ hs⟩, hend⟩
  | span _ _ _ _ ihb ih =>
    rcases List.cons_eq_append_iff.mp hes with ⟨rfl, hcons⟩ | ⟨before', rfl, hes'⟩
    · exact absurd (List.cons.inj hcons).1 (by simp)
    rcases split_append hes' with ⟨mid, hbody, rfl⟩ | ⟨mid, rfl, hrest⟩
    · right
      rcases ihb hbody with howner | ⟨⟨s, hs⟩, e, he, hend⟩
      · -- the span of this very layer, whose marks stand on both sides
        obtain rfl := Option.some.inj howner
        exact ⟨⟨_, List.mem_cons_self⟩, _, List.mem_append_right _ List.mem_cons_self,
          by simp [Entry.isEndOf]⟩
      · exact ⟨⟨s, List.mem_cons_of_mem _ hs⟩, e, List.mem_append_left _ he, hend⟩
    · rcases List.cons_eq_append_iff.mp hrest with ⟨rfl, hcons⟩ | ⟨mid', rfl, hrest'⟩
      · have hfinish := (List.cons.inj hcons).1
        simp only [Entry.acted.injEq] at hfinish
        exact absurd hfinish.2.2 ha
      · rcases ih hrest' with howner | ⟨⟨s, hs⟩, hend⟩
        · exact Or.inl howner
        · refine Or.inr ⟨⟨s, ?_⟩, hend⟩
          exact List.mem_cons_of_mem _ (List.mem_append_right _ (List.mem_cons_of_mem _ hs))

/-- What the grammar says of a log, outside all tracing layers. -/
theorem spanLifecycle (h : Bracketed info none n es t k) : SpanLifecycle info n t es where
  judged _ _ _ hmem := h.answers hmem
  started := by
    have hk := h.count_admissions
    rw [h.started_eq, show k - n = t.admissions by omega]
  endedOnce := by
    intro x s hx
    have hmem : x ∈ es.filterMap Entry.startedSpan? := List.mem_filterMap.mpr ⟨_, hx, rfl⟩
    rw [h.started_eq, List.mem_range'_1] at hmem
    rw [h.count_ends, if_pos (by omega)]
  bracketed := by
    have hclose := h.close_eq [] []
    rwa [List.append_nil] at hclose
  nested := by
    have hmarks := h.marks_eq [] []
    rw [List.append_nil, Trail.marks, List.append_nil] at hmarks
    exact hmarks.symm
  inside := by
    intro before x a after hes ha
    rcases h.inside_span hes ha with howner | hinside
    · cases howner
    · exact hinside

end Bracketed

-- ---------------------------------------------------------------------------
-- Calls that keep to the grammar
-- ---------------------------------------------------------------------------

/-- A call that adds a word of the grammar to log and trail, from whatever world, and whatever
its outcome. -/
def Brackets (info : m.Info) (owner : Option Nat) (c : Call (Watched m) α) : Prop :=
  ∀ w, ∃ es t, (c w).2.recorder.log = w.recorder.log ++ es ∧
    (c w).2.client.2 = w.client.2 ++ t ∧
    Bracketed info owner w.recorder.spans es t (c w).2.recorder.spans

namespace Brackets

variable {info : m.Info} {owner : Option Nat}

/-- What adds nothing keeps to the grammar. -/
theorem of_unchanged {c : Call (Watched m) α}
    (h : ∀ w, (c w).2.recorder = w.recorder ∧ (c w).2.client.2 = w.client.2) :
    Brackets info owner c := by
  intro w
  obtain ⟨hrecorder, htrail⟩ := h w
  refine ⟨[], [], ?_, ?_, ?_⟩
  · rw [hrecorder, List.append_nil]
  · rw [htrail, List.append_nil]
  · rw [hrecorder]
    exact .nil

theorem returns (a : α) : Brackets info owner (Call.returns a) :=
  of_unchanged fun _ => ⟨rfl, rfl⟩

/-- What follows a call has to keep to the grammar for what that returns. -/
theorem bind_of_returned {c : Call (Watched m) α} {f : α → Call (Watched m) β}
    (hc : Brackets info owner c)
    (hf : ∀ a w w', c w = (.returned a, w') → Brackets info owner (f a)) :
    Brackets info owner (c.bind f) := by
  let adds (w w' : World (Watched m)) : Prop :=
    ∃ es t, w'.recorder.log = w.recorder.log ++ es ∧ w'.client.2 = w.client.2 ++ t ∧
      Bracketed info owner w.recorder.spans es t w'.recorder.spans
  have htrans : ∀ {w₁ w₂ w₃}, adds w₁ w₂ → adds w₂ w₃ → adds w₁ w₃ := by
    rintro w₁ w₂ w₃ ⟨es, t, hlog, htrail, hword⟩ ⟨es', t', hlog', htrail', hword'⟩
    refine ⟨es ++ es', t ++ t', ?_, ?_, hword.append hword'⟩
    · rw [hlog', hlog, List.append_assoc]
    · rw [htrail', htrail, List.append_assoc]
  exact Call.bind_of_returned (P := adds) htrans hc fun a w w' ha => hf a w w' ha w'

theorem bind {c : Call (Watched m) α} {f : α → Call (Watched m) β} (hc : Brackets info owner c)
    (hf : ∀ a, Brackets info owner (f a)) : Brackets info owner (c.bind f) :=
  bind_of_returned hc fun a _ _ _ => hf a

/-- A change of the recorder that adds allowed entries and starts no span. -/
theorem record {f : Recorder → Recorder}
    (h : ∀ r, ∃ es, (f r).log = r.log ++ es ∧ (f r).spans = r.spans ∧
      ∀ e ∈ es, e.AllowedIn owner) :
    Brackets info owner (Call.record f) := by
  intro w
  obtain ⟨es, hlog, hspans, hallowed⟩ := h w.recorder
  refine ⟨es, [], hlog, (List.append_nil _).symm, ?_⟩
  show Bracketed info owner w.recorder.spans es [] (f w.recorder).spans
  rw [hspans]
  exact .of_allowed hallowed

theorem log {e : Entry} (he : e.AllowedIn owner) : Brackets info owner (Call.log e) :=
  record fun _ => ⟨[e], rfl, rfl, fun x hx => by rwa [List.mem_singleton.mp hx]⟩

theorem step {s : Step m} (hs : s.isVisit = true) : Brackets info owner (Call.step s) :=
  fun _ => ⟨[], [s], (List.append_nil _).symm, rfl, .step hs .nil⟩

/-- An action is an entry if the context has a span that was started. -/
theorem act {author : Author} {cx : Context} {a : SpanAction}
    (h : ∀ n, cx.spanNumber? = some n → (Entry.acted author n a).AllowedIn owner) :
    Brackets info owner (Call.act author cx a) := by
  apply record
  intro r
  rw [r.act_eq]
  refine ⟨_, rfl, rfl, fun e he => ?_⟩
  obtain ⟨n, hn, rfl⟩ := List.mem_map.mp he
  exact h n (Option.mem_toList.mp hn)

/-- What a tracing layer does around its span keeps to the grammar, as long as it acts on that
span, and users end none. -/
def rule (info : m.Info) (owner : Option Nat) : Call.Rule (Watched m) (Watched m) where
  Holds c _ := Brackets info owner c
  Allows author cx a := ∀ n, cx.spanNumber? = some n → (Entry.acted author n a).AllowedIn owner
  returns := returns
  bind := bind
  note _ := log trivial
  report _ := log trivial
  act := act
  isRecording _ := of_unchanged fun _ => ⟨rfl, rfl⟩

theorem rule_panics : (rule info owner).Panics := fun _ => of_unchanged fun _ => ⟨rfl, rfl⟩

theorem rule_allowsWithin {cx : Context} (hcx : cx.spanNumber? = owner) :
    (rule info owner).AllowsWithin cx :=
  fun _ ha _ hn => ⟨hcx.symm.trans hn, ha⟩

theorem rule_allowsOp {o : SpanOp} (ho : o.LeavesSpansOpen) : (rule info owner).AllowsOp o := by
  cases o with
  | act cx a => exact fun _ _ => ho
  | hook o => exact trivial
  | isRecording cx => exact trivial

theorem run {S : Signature} {allowed : S.Op → Prop}
    {perform : (o : S.Op) → Call (Watched m) (S.Answer o)}
    (h : ∀ o, allowed o → Brackets info owner (perform o)) {p : Program S α}
    (hp : p.Only allowed) : Brackets info owner (p.run perform) := by
  have hperform : ∀ o, allowed o → (rule info owner).Holds (perform o) (perform o) := h
  exact (rule info owner).run hperform hp

end Brackets

-- ---------------------------------------------------------------------------
-- What users write
-- ---------------------------------------------------------------------------

variable {info : m.Info} {owner : Option Nat}

theorem HandlerOp.audited_brackets {o : HandlerOp m} (ho : o.LeavesSpansOpen) :
    Brackets info owner o.audited := by
  cases o with
  | span o => exact Call.Rule.spanOp Brackets.rule_panics (Brackets.rule_allowsOp ho)
  | client o =>
    apply Brackets.bind
    · exact Brackets.of_unchanged fun w => ⟨Mode.recorder_performClient o w.bare, rfl⟩
    · intro answer
      exact Brackets.bind (Brackets.step rfl) fun _ => Brackets.returns answer
  | wait => exact Brackets.of_unchanged fun _ => ⟨rfl, rfl⟩

theorem Handler.audited_brackets {h : Handler m} (hh : h.LeavesSpansOpen) (subject : m.Subject) :
    Brackets info owner (h.audited subject) :=
  Brackets.bind (Brackets.step rfl) fun _ =>
    Brackets.run (fun _ ho => HandlerOp.audited_brackets ho) (hh subject)

theorem Layer.audited_brackets {layer : Layer m} (hl : layer.LeavesSpansOpen)
    {inner : Inside m (Watched m)} (hinner : ∀ s, Brackets info owner (inner s))
    (subject : m.Subject) : Brackets info owner (layer.audited info inner subject) := by
  apply Brackets.bind (Brackets.step rfl)
  intro _
  refine Brackets.run (fun o ho => ?_) (hl info subject)
  cases o with
  | handler o => exact HandlerOp.audited_brackets ho
  | next s => exact hinner s

-- ---------------------------------------------------------------------------
-- Tracing layers
-- ---------------------------------------------------------------------------

namespace TracingPolicy

variable {p : TracingPolicy} {inner : Inside m (Watched m)}

/-- A layer that has judged a call goes by the answer of its predicate. -/
theorem answer_of_judge {σ : Type} {w w' : World σ} {subject : m.Subject} {j : Judgement}
    (h : p.judge info subject w = (.returned j, w')) :
    p.answer info subject = .returned j.included := by
  rw [← verdict_of_judge h, answer, includes]
  cases p.predicate with
  | none => rfl
  | some predicate => rfl

theorem judge_brackets (p : TracingPolicy) (subject : m.Subject) :
    Brackets info owner (p.judge info subject) :=
  Call.Rule.judge (R := Brackets.rule info owner) p info subject
    (Call.Rule.asked Brackets.rule_panics p)

theorem within_brackets (hp : p.LeavesSpansOpen) {cx : Context} (hcx : cx.spanNumber? = owner)
    (hinner : ∀ s, Brackets info owner (inner s)) (subject : m.Subject) :
    Brackets info owner (p.within cx info inner subject) := by
  have hdecorate : ∀ d, (Brackets.rule info owner).Holds (p.decorate d) (p.decorate d) := by
    refine Call.Rule.decorate p Brackets.rule_panics fun decorator hd d => ?_
    exact (hp decorator hd d).mono fun _ ho => Brackets.rule_allowsOp ho
  have hinner' : ∀ s, (Brackets.rule info owner).Holds (inner s) (inner s) := hinner
  exact Call.Rule.within p (Brackets.rule_allowsWithin hcx) hdecorate (hinner' _)

theorem bypassed_brackets (hinner : ∀ s, Brackets info owner (inner s)) (subject : m.Subject) :
    Brackets info owner (bypassed info inner subject) := by
  have hinner' : ∀ s, (Brackets.rule info owner).Holds (inner s) (inner s) := hinner
  exact Call.Rule.bypassed (hinner' subject)

/-- A call that is admitted: its span is started, and from there on it is the layer's own. -/
theorem admitted_brackets (hp : p.LeavesSpansOpen) (hinner : ∀ o s, Brackets info o (inner s))
    {j : Judgement} {subject : m.Subject} (hanswer : p.answer info subject = .returned j.included)
    (hj : j.included = true) :
    Brackets info owner ((Call.step (.judged p subject j)).bind fun _ =>
      (p.traced j info inner subject).settling) := by
  intro w
  let n := w.recorder.spans + 1
  let s : SpanStart := ⟨Mode.methodOf info, true, serverTags, j.parent⟩
  let cx := (withIncomingBaggage (Mode.contextOf subject) j.decoded).withSpan
    (.started n (Recorder.contextOf n j.parent))
  let w₁ : World (Watched m) :=
    ⟨⟨w.recorder.log ++ [.started n s], n⟩, (w.client.1, w.client.2 ++ [.judged p subject j])⟩
  let within := p.within cx info inner subject w₁
  have hrun : (((Call.step (.judged p subject j)).bind fun _ =>
      (p.traced j info inner subject).settling) w).2
        = (⟨within.2.recorder.act .layer cx .finish,
            (within.2.client.1, within.2.client.2 ++ [.settled])⟩ : World (Watched m)) := rfl
  have hcx : cx.spanNumber? = some n := rfl
  obtain ⟨es, t, hlog, htrail, hword⟩ := within_brackets hp hcx (hinner _) subject w₁
  refine ⟨.started n s :: (es ++ .acted .layer n .finish :: []),
    .judged p subject j :: (t ++ .settled :: []), ?_, ?_, ?_⟩
  · rw [hrun, Recorder.act, hcx]
    show within.2.recorder.log ++ [.acted .layer n .finish] = _
    rw [hlog]
    simp [w₁]
  · rw [hrun]
    show within.2.client.2 ++ [.settled] = _
    rw [htrail]
    simp [w₁]
  · rw [hrun, Recorder.act, hcx]
    exact .span hanswer hj hword .nil

/-- A call that is not admitted: what lies within is still the work of the layer without. -/
theorem excluded_brackets (hinner : ∀ o s, Brackets info o (inner s)) {j : Judgement}
    {subject : m.Subject} (hanswer : p.answer info subject = .returned j.included)
    (hj : j.included = false) :
    Brackets info owner ((Call.step (.judged p subject j)).bind fun _ =>
      (bypassed info inner subject).settling) := by
  intro w
  let w₁ : World (Watched m) := ⟨w.recorder, (w.client.1, w.client.2 ++ [.judged p subject j])⟩
  let within := bypassed info inner subject w₁
  have hrun : (((Call.step (.judged p subject j)).bind fun _ =>
      (bypassed info inner subject).settling) w).2
        = (⟨within.2.recorder, (within.2.client.1, within.2.client.2 ++ [.settled])⟩ :
            World (Watched m)) := rfl
  obtain ⟨es, t, hlog, htrail, hword⟩ := bypassed_brackets (hinner owner) subject w₁
  refine ⟨es ++ [], .judged p subject j :: (t ++ .settled :: []), ?_, ?_, ?_⟩
  · rw [hrun, List.append_nil]
    exact hlog
  · rw [hrun]
    show within.2.client.2 ++ [.settled] = _
    rw [htrail]
    simp [w₁]
  · rw [hrun]
    exact .bypass hanswer hj hword .nil

theorem audited_brackets (hp : p.LeavesSpansOpen) (hinner : ∀ o s, Brackets info o (inner s))
    (subject : m.Subject) : Brackets info owner (p.audited info inner subject) := by
  apply Brackets.bind_of_returned (judge_brackets p subject)
  intro j w w' hjudge
  have hanswer := answer_of_judge hjudge
  cases hj : j.included with
  | true => exact admitted_brackets hp hinner hanswer hj
  | false => exact excluded_brackets hinner hanswer hj

end TracingPolicy

-- ---------------------------------------------------------------------------
-- Trees
-- ---------------------------------------------------------------------------

/-- A tree keeps to the grammar if all that it stands around does. -/
theorem Interceptor.audited_brackets {i : Interceptor m} (hi : i.LeavesSpansOpen)
    {inner : Inside m (Watched m)} (hinner : ∀ o s, Brackets info o (inner s))
    (subject : m.Subject) : Brackets info owner (i.audited info inner subject) := by
  induction i generalizing inner owner subject with
  | tracing policy delegate ih =>
    cases hi with
    | tracing hp hd =>
      simp only [audited]
      cases delegate with
      | none => exact TracingPolicy.audited_brackets hp hinner subject
      | some d =>
        apply TracingPolicy.audited_brackets hp
        intro o s
        exact ih d rfl (hd d rfl) hinner s
  | composite layers ih =>
    cases hi with
    | composite hl =>
      rw [audited_composite]
      let kept (inside : Inside m (Watched m)) : Prop := ∀ o s, Brackets info o (inside s)
      -- an inside is one for whatever owner, since a layer further out may have no span
      refine List.foldrRecOn (motive := kept) layers _ hinner ?_ owner subject
      intro inside hinside layer hmem o s
      exact ih layer hmem (hl layer hmem) hinside s
  | logging =>
    simp only [audited]
    have hinner' : ∀ s, (Brackets.rule info owner).Holds (inner s) (inner s) := hinner owner
    exact Call.Rule.logged (hinner' subject)
  | custom layer =>
    cases hi with
    | custom hl =>
      simp only [audited]
      exact Layer.audited_brackets hl (hinner owner) subject

/-- **The spans of a call.** Whatever the tree, the handler, the call and its outcome, what
the call adds to the log is as `SpanLifecycle` says, for the trail of the call. -/
theorem Interceptor.spanLifecycle_intercept (i : Interceptor m) (h : Handler m) (info : m.Info)
    (subject : m.Subject) (w : World m.Client) (hi : i.LeavesSpansOpen)
    (hh : h.LeavesSpansOpen) :
    ∃ es : List Entry,
      (i.intercept info h.serve subject w).2.recorder.log = w.recorder.log ++ es ∧
      SpanLifecycle info w.recorder.spans (i.trail h info subject w) es := by
  have hbrackets : Brackets info none (i.audited info h.audited subject) :=
    Interceptor.audited_brackets hi (fun _ s => Handler.audited_brackets hh s) subject
  obtain ⟨es, t, hlog, htrail, hword⟩ := hbrackets (w.beside [])
  rw [i.audited_eq h info subject w] at hlog htrail
  refine ⟨es, hlog, ?_⟩
  obtain rfl : i.trail h info subject w = t := htrail
  exact hword.spanLifecycle

theorem Interceptor.spanLifecycle_retraced :
    retraced.LeavesSpansOpen ∧ Handler.renaming.LeavesSpansOpen ∧
      ∃ es : List Entry,
        (retraced.intercept ⟨"/shop/Buy"⟩ Handler.renaming.serve .blank .fresh).2.recorder.log
          = World.fresh.recorder.log ++ es ∧
        SpanLifecycle (m := .unary) ⟨"/shop/Buy"⟩ World.fresh.recorder.spans
          (retraced.trail Handler.renaming ⟨"/shop/Buy"⟩ .blank .fresh) es :=
  ⟨retraced_leavesSpansOpen, Handler.renaming_leavesSpansOpen,
    spanLifecycle_intercept retraced Handler.renaming ⟨"/shop/Buy"⟩ .blank .fresh
      retraced_leavesSpansOpen Handler.renaming_leavesSpansOpen⟩

end CallSpan
