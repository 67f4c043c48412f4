import CallSpan.Proofs.Exclusion
import CallSpan.Proofs.FieldEntries
import CallSpan.Proofs.Growth

/-!
# What becomes of a parent

A tracing layer that is reached by a call extracts its parent once. If the parent is malformed,
the layer tells operators so with the text of the error, at debug level, before it does anything
else. From there on there is no difference any more between a parent that is malformed and one
that is not found: the layer **proceeds** with no parent, so its predicate is asked about a root
and its span, if it starts one, begins a new trace.

Whatever it adds to the log besides, it says nothing more at that level. The predicate and the
decorator cannot, since they make no reports at all; only the call within a layer may, and what
that adds stands between what the layer adds before and after it.

Main result:

* `Interceptor.intercept_parent` — what comes of an extraction, and what each tracing layer in a
  tree does with it.
-/

namespace CallSpan

variable {m : Mode} {σ α β : Type}

-- ---------------------------------------------------------------------------
-- Going on with a parent
-- ---------------------------------------------------------------------------

namespace TracingPolicy

/-- What a layer does with a call when its parent has been extracted, and reported if it is
malformed. -/
def proceed (p : TracingPolicy) (decoded : Context) (parent : Option SpanContext) (info : m.Info)
    (inner : Inside m σ) : Inside m σ := fun subject => do
  let included ←
    (p.includes ⟨parent, Mode.methodOf info, Mode.request? subject, none⟩).run HookOp.perform
  if included then p.traced ⟨decoded, parent, included⟩ info inner subject
  else bypassed info inner subject

/-- A layer extracts the parent, reports it if it is malformed, and proceeds. -/
theorem around_eq_proceed (p : TracingPolicy) (info : m.Info) (inner : Inside m σ)
    (subject : m.Subject) (w : World σ) :
    let x := extract (Mode.contextOf subject) p.propagator
    p.around info inner subject w
      = p.proceed x.decoded x.parent.toOption info inner subject
          (w.after (x.reported (Mode.methodOf info))) := by
  intro x
  have hreported := reportParent_eq (σ := σ) x (Mode.methodOf info) w
  unfold around proceed
  simp only [Call.bind_eq, judge_eq, Call.bind_assoc, Call.returns_bind]
  rw [Call.bind_apply hreported, toOption_extract]

end TracingPolicy

-- ---------------------------------------------------------------------------
-- What fits a parent
-- ---------------------------------------------------------------------------

/-- Whether an entry is a report at debug level. -/
def Entry.isDebug : Entry → Bool
  | .reported r => r.level = .debug
  | _ => false

/-- An entry that a layer may make when it proceeds with a parent. -/
def Entry.Fits (parent : Option SpanContext) : Entry → Prop
  | .started _ s => s.parent = parent
  | .reported r => r.level ≠ .debug
  | .acted .. | .noted _ => True

theorem Entry.Fits.isDebug {parent : Option SpanContext} {e : Entry} (h : e.Fits parent) :
    e.isDebug = false := by
  cases e with
  | reported r => exact decide_eq_false h
  | started n s => rfl
  | acted author n action => rfl
  | noted n => rfl

/-- Entries that tell of a parent what there is to tell: they report it if it is malformed, and
nothing else at debug level, and start spans from it only. -/
structure Extraction.ToldBy (x : Extraction) (method : String) (es : List Entry) : Prop where
  debug : es.filter Entry.isDebug = x.reported method
  starts : ∀ n s, .started n s ∈ es → s.parent = x.parent.toOption

/-- There is nothing to report, or there is one report at debug level. -/
theorem Extraction.reported_eq (x : Extraction) (method : String) :
    x.reported method = [] ∨ ∃ r, r.level = .debug ∧ x.reported method = [.reported r] := by
  unfold reported
  split
  · exact Or.inr ⟨_, rfl, rfl⟩
  · exact Or.inl rfl

namespace Extraction.ToldBy

variable {x : Extraction} {method : String} {es es' : List Entry}

theorem reported (x : Extraction) (method : String) : x.ToldBy method (x.reported method) where
  debug := by
    rcases x.reported_eq method with h | ⟨r, hr, h⟩
    · rw [h, List.filter_nil]
    · have hdebug : (Entry.reported r).isDebug = true := decide_eq_true hr
      rw [h, List.filter_cons_of_pos hdebug, List.filter_nil]
  starts n s hs := by
    rcases x.reported_eq method with h | ⟨r, -, h⟩ <;> rw [h] at hs
    · cases hs
    · cases List.mem_singleton.mp hs

theorem append (h : x.ToldBy method es) (hfit : ∀ e ∈ es', e.Fits x.parent.toOption) :
    x.ToldBy method (es ++ es') where
  debug := by
    have hnone : es'.filter Entry.isDebug = [] :=
      List.filter_eq_nil_iff.mpr fun e he => Bool.eq_false_iff.mp (hfit e he).isDebug
    rw [List.filter_append, h.debug, hnone, List.append_nil]
  starts n s hs := by
    rcases List.mem_append.mp hs with hs | hs
    · exact h.starts n s hs
    · exact hfit _ hs

end Extraction.ToldBy

-- ---------------------------------------------------------------------------
-- What programs add
-- ---------------------------------------------------------------------------

/-- A call that only adds entries to the log that fit a parent. -/
def Call.Fits (parent : Option SpanContext) (c : Call σ α) : Prop :=
  ∀ w, ∃ es, (c w).2.recorder.log = w.recorder.log ++ es ∧ ∀ e ∈ es, e.Fits parent

namespace Call.Fits

variable {parent : Option SpanContext}

theorem of_unchanged {c : Call σ α} (h : ∀ w, (c w).2.recorder = w.recorder) : Fits parent c :=
  Call.Adds.of_unchanged h

theorem bind {c : Call σ α} {f : α → Call σ β} (hc : Fits parent c)
    (hf : ∀ a, Fits parent (f a)) : Fits parent (c.bind f) :=
  Call.Adds.bind hc hf

/-- What a decorator does fits any parent: it makes no reports and starts no spans. -/
theorem decorator (p : Program spanOps α) : Fits parent (p.run (SpanOp.perform (σ := σ))) :=
  Call.Adds.run (Call.Adds.spanOp (fun _ _ => trivial) fun _ => trivial) p

end Call.Fits

theorem Admission.conclude_fits (a : Admission m) (outcome : Outcome (Result m.Reply))
    (parent : Option SpanContext) : Call.Fits parent (a.conclude outcome) := by
  cases outcome with
  | returned result =>
    rw [conclude]
    cases a.policy.decorator with
    | none => exact Call.Fits.of_unchanged fun _ => rfl
    | some decorator =>
      exact (Call.Fits.decorator (decorator (a.decoration result))).bind
        fun _ => Call.Fits.of_unchanged fun _ => rfl
  | panicked message => exact Call.Fits.of_unchanged fun _ => rfl
  | cancelled => exact Call.Fits.of_unchanged fun _ => rfl

theorem Admission.acts_fit (a : Admission m) (actions : List SpanAction)
    {parent : Option SpanContext} : ∀ e ∈ a.acts actions, e.Fits parent := by
  intro e he
  obtain ⟨action, -, rfl⟩ := List.mem_map.mp he
  trivial

-- ---------------------------------------------------------------------------
-- Tracing layers
-- ---------------------------------------------------------------------------

/-- What a run adds to the log, around what a call within adds, if that is reached. -/
structure World.AddsAround (inner : Continuation m) (w w' : World m.Client)
    (before within after : List Entry) : Prop where
  log : w'.recorder.log = w.recorder.log ++ (before ++ within ++ after)
  within : within = [] ∨ ∃ (s : m.Subject) (v : World m.Client),
    v.recorder.log = w.recorder.log ++ before ∧
      (inner s v).2.recorder.log = v.recorder.log ++ within

/-- A call that is admitted adds what its layer records before and after the call within, all of
which fits the parent of the call. -/
theorem Admission.addsAround (a : Admission m) {asked : List Entry} {w : World m.Client}
    (hasked : a.world.recorder.log = w.recorder.log ++ asked)
    (hinner : ∀ s, Call.Grows (a.inner s)) :
    ∃ opening within ending, w.AddsAround a.inner a.ran.2 (asked ++ opening) within ending ∧
      ∀ e ∈ opening ++ ending, e.Fits a.judgement.parent := by
  obtain ⟨within, hwithin⟩ := hinner (Mode.rebase a.context a.subject) a.opened
  obtain ⟨decorated, hdecorated, hfit⟩ :=
    a.conclude_fits a.inside.1 a.judgement.parent a.closed
  let opening := a.start :: a.acts a.opening
  let ending := a.acts (a.closing a.inside.1) ++ decorated ++ a.acts [.finish]
  have hopened : a.opened.recorder.log = w.recorder.log ++ (asked ++ opening) := by
    show a.world.recorder.log ++ [a.start] ++ a.acts a.opening = _
    rw [hasked]
    simp only [opening, List.append_assoc, List.singleton_append]
  have hclosed : a.closed.recorder.log
      = w.recorder.log ++ (asked ++ opening) ++ within ++ a.acts (a.closing a.inside.1) := by
    show a.inside.2.recorder.log ++ _ = _
    rw [← hopened, hwithin]
    rfl
  have hran : a.ran.2.recorder.log
      = w.recorder.log ++ (asked ++ opening ++ within ++ ending) := by
    show a.concluded.2.recorder.log ++ a.acts [.finish] = _
    rw [concluded, hdecorated, hclosed]
    simp only [ending, List.append_assoc]
  refine ⟨opening, within, ending, ⟨hran, Or.inr ⟨_, a.opened, hopened, hwithin.symm⟩⟩, ?_⟩
  refine List.forall_mem_append.mpr ⟨List.forall_mem_cons.mpr ⟨rfl, a.acts_fit _⟩, ?_⟩
  exact List.forall_mem_append.mpr
    ⟨List.forall_mem_append.mpr ⟨a.acts_fit _, hfit⟩, a.acts_fit _⟩

namespace TracingPolicy

variable (p : TracingPolicy) (info : m.Info) (subject : m.Subject)

theorem toldBy_asking (notes : List Note) :
    (extract (Mode.contextOf subject) p.propagator).ToldBy (Mode.methodOf info)
      (p.asking info subject notes) := by
  refine (Extraction.ToldBy.reported _ _).append fun e he => ?_
  obtain ⟨n, -, rfl⟩ := List.mem_map.mp he
  trivial

/-- Whatever the predicate comes to, a layer tells of the parent what there is to tell. -/
theorem around_toldBy {inner : Continuation m} (hinner : ∀ s, Call.Grows (inner s))
    (w : World m.Client) :
    ∃ before within after,
      w.AddsAround inner (p.around info inner subject w).2 before within after ∧
      (extract (Mode.contextOf subject) p.propagator).ToldBy (Mode.methodOf info)
        (before ++ after) := by
  rcases hverdict : (p.includes (p.inquiry info subject)).verdict with ⟨notes, answer⟩
  have hasking := p.toldBy_asking info subject notes
  cases answer with
  | panicked message =>
    refine ⟨p.asking info subject notes, [], [], ⟨?_, Or.inl rfl⟩, ?_⟩
    · rw [around_of_panic hverdict, List.append_nil, List.append_nil]
      rfl
    · rw [List.append_nil]
      exact hasking
  | cancelled =>
    exact absurd (congrArg Prod.snd hverdict) (Program.verdict_ne_cancelled _)
  | returned included =>
    cases included with
    | false =>
      let asides := p.asides info subject notes
      obtain ⟨within, hwithin⟩ := hinner subject (w.after asides)
      refine ⟨asides, within, [], ⟨?_, Or.inr ⟨subject, w.after asides, rfl, hwithin.symm⟩⟩, ?_⟩
      · rw [around_turnedDown hverdict, ← hwithin, List.append_nil, ← List.append_assoc]
        rfl
      · rw [List.append_nil]
        -- behind the notes there is the report that the call is excluded
        refine hasking.append fun e he => ?_
        rw [List.mem_singleton.mp he]
        exact fun h => nomatch h
    | true =>
      let a := p.admission info subject notes inner w
      have hasked : a.world.recorder.log = w.recorder.log ++ p.asking info subject notes := rfl
      obtain ⟨opening, within, ending, hadds, hfit⟩ := a.addsAround hasked hinner
      refine ⟨p.asking info subject notes ++ opening, within, ending, ?_, ?_⟩
      · rw [around_admitted hverdict]
        exact hadds
      · rw [List.append_assoc]
        refine hasking.append ?_
        rw [toOption_extract]
        exact hfit

end TracingPolicy

/-- What lies within a layer only adds to the log. -/
theorem Interceptor.through_grows (delegate : Option (Interceptor m))
    (rest : List (Interceptor m)) (h : Handler m) (info : m.Info) (subject : m.Subject) :
    Call.Grows (through delegate info ((composite rest).intercept info h.serve) subject) := by
  rw [← intercept_delegate]
  exact intercept_grows _ info h.serve_grows subject

/-- A tracing layer in a chain reports the parent, proceeds with it, and tells no more of it. -/
theorem Interceptor.intercept_tracing_cons (p : TracingPolicy)
    (delegate : Option (Interceptor m)) (rest : List (Interceptor m)) (h : Handler m)
    (info : m.Info) (subject : m.Subject) (w : World m.Client) :
    let x := extract (Mode.contextOf subject) p.propagator
    let inner := through delegate info ((composite rest).intercept info h.serve)
    let run := (composite (tracing p delegate :: rest)).intercept info h.serve subject w
    run = p.proceed x.decoded x.parent.toOption info inner subject
        (w.after (x.reported (Mode.methodOf info))) ∧
    ∃ before within after, w.AddsAround inner run.2 before within after ∧
      x.ToldBy (Mode.methodOf info) (before ++ after) := by
  intro x inner run
  have hrun : run = p.around info inner subject w := by
    show (composite (tracing p delegate :: rest)).intercept info h.serve subject w = _
    rw [intercept_composite_cons, intercept]
  have hinner : ∀ s, Call.Grows (inner s) := through_grows delegate rest h info
  rw [hrun]
  exact ⟨p.around_eq_proceed info inner subject w, p.around_toldBy info subject hinner w⟩

/-- **Parents.** For every context and propagator: what is extracted goes by the entries under the
fields of the propagator, as described. And whatever the options, the delegate, the layers behind
it, the handler, the call and the world: a tracing layer that is reached by the call reports the
parent once, with the text of the error, if it is malformed, and proceeds with the parent that was
extracted, or as for a root; and of all that it adds to the log itself, before and after the call
within, this report is the only one at debug level, and every span is started from that parent. -/
theorem Interceptor.intercept_parent :
    (∀ (cx : Context) (p : Propagator), (extract cx p).GoesBy p (cx.metadata.getD ∅)) ∧
    ∀ {m : Mode} (p : TracingPolicy) (delegate : Option (Interceptor m))
      (rest : List (Interceptor m)) (h : Handler m) (info : m.Info) (subject : m.Subject)
      (w : World m.Client),
      let x := extract (Mode.contextOf subject) p.propagator
      let inner := through delegate info ((composite rest).intercept info h.serve)
      let run := (composite (tracing p delegate :: rest)).intercept info h.serve subject w
      run = p.proceed x.decoded x.parent.toOption info inner subject
          (w.after (x.reported (Mode.methodOf info))) ∧
      ∃ before within after, w.AddsAround inner run.2 before within after ∧
        x.ToldBy (Mode.methodOf info) (before ++ after) :=
  ⟨goesBy_extract, intercept_tracing_cons⟩

end CallSpan
