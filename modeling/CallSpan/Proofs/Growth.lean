import CallSpan.Proofs.Rules

/-!
# A log only grows

Nothing that a call does takes an entry back: the log that it leaves begins with the
log that it found, whatever its outcome. The recorder has no operation that does
otherwise, each way to build a call keeps it, and so every tree of interceptors has it.

What users write cannot make reports or start spans, so all that it adds to the log are notes and
actions on spans: `Call.Adds` says of a call what sort of entries it adds.

Main result:

* `Interceptor.intercept_grows` — a tree only adds to the log if what lies within does.
-/

namespace CallSpan

variable {m : Mode} {σ α β : Type}

-- ---------------------------------------------------------------------------
-- Recorders
-- ---------------------------------------------------------------------------

namespace Recorder

theorem prefix_act (r : Recorder) (author : Author) (cx : Context) (a : SpanAction) :
    r.log <+: (r.act author cx a).log := by
  rw [act_eq]
  exact List.prefix_append _ _

end Recorder

-- ---------------------------------------------------------------------------
-- Calls
-- ---------------------------------------------------------------------------

namespace Call

/-- A call that only adds to the log. -/
def Grows (c : Call σ α) : Prop :=
  ∀ w, w.recorder.log <+: (c w).2.recorder.log

namespace Grows

theorem returns (a : α) : Grows (Call.returns (σ := σ) a) := fun _ => List.prefix_rfl

theorem panic (message : String) : Grows (Call.panic message : Call σ α) :=
  fun _ => List.prefix_rfl

theorem wait : Grows (Call.wait : Call σ α) := fun _ => List.prefix_rfl

theorem log (e : Entry) : Grows (Call.log (σ := σ) e) := fun _ => List.prefix_append _ _

theorem act (author : Author) (cx : Context) (a : SpanAction) :
    Grows (Call.act (σ := σ) author cx a) :=
  fun w => w.recorder.prefix_act author cx a

theorem start (s : SpanStart) : Grows (Call.start (σ := σ) s) := fun _ => List.prefix_append _ _

theorem bind {c : Call σ α} {f : α → Call σ β} (hc : Grows c) (hf : ∀ a, Grows (f a)) :
    Grows (c.bind f) :=
  Call.bind_of_trans (P := fun w w' => w.recorder.log <+: w'.recorder.log) List.IsPrefix.trans
    hc hf

theorem andFinally {c : Call σ α} (hc : Grows c) (author : Author) (cx : Context)
    (a : SpanAction) : Grows (c.andFinally (·.act author cx a)) :=
  fun w => (hc w).trans (Recorder.prefix_act _ author cx a)

/-- What a tracing layer does around its span only adds to the log. -/
def rule (σ : Type) : Call.Rule σ σ where
  Holds c _ := Grows c
  Allows _ _ _ := True
  returns := returns
  bind := bind
  note n := log (.noted n)
  report r := log (.reported r)
  act _ := act _ _ _
  isRecording _ _ := List.prefix_rfl

theorem rule_panics : (rule σ).Panics := fun message => panic message

theorem rule_allowsAll : (rule σ).AllowsAll := fun _ _ _ => trivial

theorem run {S : Signature} {perform : (o : S.Op) → Call σ (S.Answer o)}
    (h : ∀ o, Grows (perform o)) (p : Program S α) : Grows (p.run perform) := by
  show (rule σ).Holds (p.run perform) (p.run perform)
  exact (rule σ).runAny h p

end Grows

-- ---------------------------------------------------------------------------
-- What is added
-- ---------------------------------------------------------------------------

/-- A call that adds nothing but entries of a sort to the log. -/
def Adds (sort : Entry → Prop) (c : Call σ α) : Prop :=
  ∀ w, ∃ es, (c w).2.recorder.log = w.recorder.log ++ es ∧ ∀ e ∈ es, sort e

namespace Adds

variable {sort : Entry → Prop}

theorem of_unchanged {c : Call σ α} (h : ∀ w, (c w).2.recorder = w.recorder) : Adds sort c := by
  intro w
  rw [h w]
  exact ⟨[], (List.append_nil _).symm, fun e he => nomatch he⟩

theorem log {e : Entry} (he : sort e) : Adds sort (Call.log (σ := σ) e) :=
  fun _ => ⟨[e], rfl, List.forall_mem_singleton.mpr he⟩

theorem act {author : Author} {a : SpanAction} (h : ∀ n, sort (.acted author n a))
    (cx : Context) : Adds sort (Call.act (σ := σ) author cx a) := by
  intro w
  rw [Call.act, Call.record, w.recorder.act_eq]
  refine ⟨_, rfl, fun e he => ?_⟩
  obtain ⟨n, -, rfl⟩ := List.mem_map.mp he
  exact h n

theorem bind {c : Call σ α} {f : α → Call σ β} (hc : Adds sort c) (hf : ∀ a, Adds sort (f a)) :
    Adds sort (c.bind f) := by
  let adds (w w' : World σ) : Prop :=
    ∃ es, w'.recorder.log = w.recorder.log ++ es ∧ ∀ e ∈ es, sort e
  have htrans : ∀ {w₁ w₂ w₃}, adds w₁ w₂ → adds w₂ w₃ → adds w₁ w₃ := by
    rintro w₁ w₂ w₃ ⟨es, hlog, hsort⟩ ⟨es', hlog', hsort'⟩
    refine ⟨es ++ es', ?_, List.forall_mem_append.mpr ⟨hsort, hsort'⟩⟩
    rw [hlog', hlog, List.append_assoc]
  exact Call.bind_of_trans (P := adds) htrans hc hf

theorem run {S : Signature} {perform : (o : S.Op) → Call σ (S.Answer o)}
    (h : ∀ o, Adds sort (perform o)) (p : Program S α) : Adds sort (p.run perform) := by
  induction p with
  | done a => exact of_unchanged fun _ => rfl
  | perform o next ih => exact (h o).bind ih

/-- Decorators act on spans and write notes. -/
theorem spanOp (hacted : ∀ n a, sort (.acted .user n a)) (hnoted : ∀ n, sort (.noted n))
    (o : SpanOp) : Adds sort (o.perform (σ := σ)) := by
  cases o with
  | hook o =>
    cases o with
    | note n => exact log (hnoted n)
    | panic message => exact of_unchanged fun _ => rfl
  | act cx a => exact act (fun n => hacted n a) cx
  | isRecording cx => exact of_unchanged fun _ => rfl

/-- Handlers too, and what they do with the client is not logged. -/
theorem handlerOp (hacted : ∀ n a, sort (.acted .user n a)) (hnoted : ∀ n, sort (.noted n))
    (o : HandlerOp m) : Adds sort o.perform := by
  cases o with
  | span o => exact spanOp hacted hnoted o
  | client o => exact of_unchanged fun w => Mode.recorder_performClient o w
  | wait => exact of_unchanged fun _ => rfl

end Adds

end Call

open Call (Grows)

-- ---------------------------------------------------------------------------
-- What users write
-- ---------------------------------------------------------------------------

theorem HandlerOp.perform_grows (o : HandlerOp m) : Grows o.perform := by
  cases o with
  | span o => exact Call.Rule.spanOp Grows.rule_panics (Grows.rule_allowsAll.op o)
  | client o =>
    intro w
    have hlog : (Mode.performClient o w).2.recorder.log = w.recorder.log :=
      congrArg Recorder.log (Mode.recorder_performClient o w)
    exact hlog ▸ List.prefix_rfl
  | wait => exact Grows.wait

theorem Handler.serve_grows (h : Handler m) (subject : m.Subject) : Grows (h.serve subject) :=
  Grows.run HandlerOp.perform_grows (h subject)

-- ---------------------------------------------------------------------------
-- Layers and trees
-- ---------------------------------------------------------------------------

namespace TracingPolicy

variable (p : TracingPolicy) {info : m.Info} {inner : Inside m σ}

theorem within_grows (h : ∀ s, Grows (inner s)) (cx : Context) (subject : m.Subject) :
    Grows (p.within cx info inner subject) := by
  have hdecorate : ∀ d, (Grows.rule σ).Holds (p.decorate d) (p.decorate d) :=
    Grows.rule_allowsAll.decorate Grows.rule_panics p
  have hinner : ∀ s, (Grows.rule σ).Holds (inner s) (inner s) := h
  exact Call.Rule.within p (Grows.rule_allowsAll.within cx) hdecorate (hinner _)

theorem around_grows (h : ∀ s, Grows (inner s)) (subject : m.Subject) :
    Grows (p.around info inner subject) := by
  apply Grows.bind (Call.Rule.judge p info subject (Call.Rule.asked Grows.rule_panics p))
  intro j
  split
  · apply Grows.bind (Grows.bind (Grows.start _) fun _ => Grows.returns _)
    intro cx
    exact (p.within_grows h cx subject).andFinally .layer cx .finish
  · exact Grows.bind (Grows.log _) fun _ => h subject

end TracingPolicy

/-- A tree only adds to the log if what lies within does. -/
theorem Interceptor.intercept_grows (i : Interceptor m) (info : m.Info) {inner : Continuation m}
    (h : ∀ s, Grows (inner s)) (subject : m.Subject) :
    Grows (i.intercept info inner subject) := by
  induction i generalizing inner subject with
  | tracing policy delegate ih =>
    simp only [intercept]
    apply policy.around_grows
    intro s
    cases delegate with
    | none => exact h s
    | some d => exact ih d rfl h s
  | composite layers ih =>
    rw [intercept_composite]
    let kept (inside : Continuation m) : Prop := ∀ s, Grows (inside s)
    refine List.foldrRecOn (motive := kept) layers _ h ?_ subject
    intro inside hinside layer hmem s
    exact ih layer hmem hinside s
  | logging =>
    simp only [intercept]
    have hinner : ∀ s, (Grows.rule m.Client).Holds (inner s) (inner s) := h
    exact Call.Rule.logged (hinner subject)
  | custom layer =>
    simp only [intercept]
    refine Grows.run (fun o => ?_) (layer info subject)
    cases o with
    | handler o => exact o.perform_grows
    | next s => exact h s

end CallSpan
