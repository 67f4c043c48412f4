import CallSpan.Proofs.Parentage
import CallSpan.Proofs.Renumbering

/-!
# Calls are independent of each other

Calls share their interceptor, which is a value that no call changes, and the tracer, of which
every call sees how many spans have been numbered before. Nothing else is carried from one call
to the next, and the numbers make no difference: made in another state of the tracer, a call
ends the same, does the same to its client, and adds the same to the log, renumbered.

Two worlds **tally** when they come from the two states of a rerun with the same client, as many
spans started since, and entries added that are renumbered. Each way to build a call keeps this
(`Call.Tallies`), and so does whatever is done in a tree that is oblivious.

Main results:

* `Interceptor.tallies`            — trees keep worlds in tally, around insides that do.
* `Interceptor.attend_log_eq`      — what was logged before makes no difference.
* `Interceptor.attend_independent` — a call in two states of the tracer, and calls one after the
  other.
-/

namespace CallSpan

variable {m : Mode} {σ α β : Type} {ρ : Rerun} {n : Nat}

-- ---------------------------------------------------------------------------
-- Worlds that tally
-- ---------------------------------------------------------------------------

/-- Worlds that come from the two states of a rerun, when `n` spans have been started in each:
what was logged before is still there, and what was added to it is renumbered. -/
structure Rerun.Tally (ρ : Rerun) (n : Nat) (w w' : World σ) : Prop where
  client : w.client = w'.client
  spans : w.recorder.spans = ρ.first.spans + n
  spans' : w'.recorder.spans = ρ.second.spans + n
  log : ∃ es es', w.recorder.log = ρ.first.log ++ es ∧ w'.recorder.log = ρ.second.log ++ es' ∧
    List.Forall₂ (Entry.Renumbered ρ n) es es'

namespace Rerun.Tally

variable {w w' : World σ}

theorem refl (ρ : Rerun) (client : σ) : ρ.Tally 0 ⟨ρ.first, client⟩ ⟨ρ.second, client⟩ :=
  ⟨rfl, rfl, rfl, [], [], (List.append_nil _).symm, (List.append_nil _).symm, .nil⟩

/-- Another client in both worlds. -/
theorem withClient (h : ρ.Tally n w w') {client client' : σ} (hclient : client = client') :
    ρ.Tally n { w with client } { w' with client := client' } :=
  ⟨hclient, h.spans, h.spans', h.log⟩

/-- Entries more in both logs. -/
theorem append (h : ρ.Tally n w w') {es es' : List Entry}
    (hes : List.Forall₂ (Entry.Renumbered ρ n) es es') :
    ρ.Tally n { w with recorder := ⟨w.recorder.log ++ es, w.recorder.spans⟩ }
      { w' with recorder := ⟨w'.recorder.log ++ es', w'.recorder.spans⟩ } := by
  obtain ⟨before, before', hlog, hlog', hbefore⟩ := h.log
  refine ⟨h.client, h.spans, h.spans', before ++ es, before' ++ es', ?_, ?_, ?_⟩
  · rw [hlog, List.append_assoc]
  · rw [hlog', List.append_assoc]
  · exact List.rel_append hbefore hes

/-- The number that the next span will have, in both worlds. -/
theorem next_spans (h : ρ.Tally n w w') :
    w.recorder.spans + 1 = ρ.first.spans + (n + 1) ∧
      w'.recorder.spans + 1 = ρ.second.spans + (n + 1) := by
  have hspans := h.spans
  have hspans' := h.spans'
  omega

/-- The next span in both worlds. -/
theorem start (h : ρ.Tally n w w') (s : SpanStart) :
    ρ.Tally (n + 1) { w with recorder := (w.recorder.start s).2 }
      { w' with recorder := (w'.recorder.start s).2 } := by
  obtain ⟨before, before', hlog, hlog', hbefore⟩ := h.log
  obtain ⟨hspans, hspans'⟩ := h.next_spans
  have hbefore' : List.Forall₂ (Entry.Renumbered ρ (n + 1)) before before' :=
    hbefore.imp fun _ _ he => he.mono (Nat.le_succ n)
  have hstarted : Entry.Renumbered ρ (n + 1) (.started (w.recorder.spans + 1) s)
      (.started (w'.recorder.spans + 1) s) := by
    rw [hspans, hspans']
    exact .started (Nat.succ_pos n) (Nat.le_refl _) s
  refine ⟨h.client, hspans, hspans', before ++ [.started (w.recorder.spans + 1) s],
    before' ++ [.started (w'.recorder.spans + 1) s], ?_, ?_, ?_⟩
  · rw [← List.append_assoc, ← hlog]
    rfl
  · rw [← List.append_assoc, ← hlog']
    rfl
  · exact List.rel_append hbefore' (.cons hstarted .nil)

/-- The span that is started next, in both worlds. -/
theorem started (h : ρ.Tally n w w') (s : SpanStart) :
    (w.recorder.start s).1.Renumbered ρ (n + 1) (w'.recorder.start s).1 := by
  obtain ⟨hspans, hspans'⟩ := h.next_spans
  rw [Recorder.start, Recorder.start, hspans, hspans']
  exact .allotted (Nat.succ_pos n) (Nat.le_refl _) s.parent

/-- A span is recording in both worlds or in neither. -/
theorem isRecording (h : ρ.Tally n w w') {i i' : Nat} (hi : ρ.Number n i i') :
    w.recorder.isRecording i = w'.recorder.isRecording i' := by
  obtain ⟨es, es', hlog, hlog', hes⟩ := h.log
  have hbefore := hi.agreed
  have hsince : es.any (Entry.isEndOf i) = es'.any (Entry.isEndOf i') := by
    clear hlog hlog'
    induction hes with
    | nil => rfl
    | cons he _ ih => rw [List.any_cons, List.any_cons, he.isEndOf hi, ih]
  rw [Recorder.isRecording, Recorder.isRecording, Bool.not_inj_iff] at hbefore
  rw [Recorder.isRecording, Recorder.isRecording, hlog, hlog', List.any_append, List.any_append,
    hbefore, hsince]

/-- Nothing has been ended in the second world that has not been started. -/
theorem sound (h : ρ.Tally n w w') : w'.recorder.Sound := by
  obtain ⟨es, es', -, hlog', hes⟩ := h.log
  intro j hj
  rw [h.spans'] at hj
  have hbefore : ρ.second.isRecording j = true := ρ.sound' j (by omega)
  have hsince : es'.any (Entry.isEndOf j) = false := by
    clear hlog'
    induction hes with
    | nil => rfl
    | cons he _ ih => rw [List.any_cons, he.isEndOf_of_lt hj, ih, Bool.or_false]
  rw [Recorder.isRecording, Bool.not_eq_true'] at hbefore
  rw [Recorder.isRecording, hlog', List.any_append, hbefore, hsince]
  rfl

/-- Where as many spans were numbered before, the very same is added to the log. -/
theorem log_eq (h : ρ.Tally n w w') (hspans : ρ.first.spans = ρ.second.spans) :
    ∃ es, w.recorder.log = ρ.first.log ++ es ∧ w'.recorder.log = ρ.second.log ++ es := by
  obtain ⟨es, es', hlog, hlog', hes⟩ := h.log
  have hsame : es = es' := by
    clear hlog hlog'
    induction hes with
    | nil => rfl
    | cons he _ ih => rw [he.eq hspans, ih]
  subst hsame
  exact ⟨es, hlog, hlog'⟩

end Rerun.Tally

-- ---------------------------------------------------------------------------
-- Calls
-- ---------------------------------------------------------------------------

/-- Calls that end the same in worlds that tally, when `n` spans or more have been started, and
leave worlds that tally. -/
def Call.Tallies (ρ : Rerun) (n : Nat) (c c' : Call σ α) : Prop :=
  ∀ k w w', n ≤ k → ρ.Tally k w w' →
    (c w).1 = (c' w').1 ∧ ∃ k', k ≤ k' ∧ ρ.Tally k' (c w).2 (c' w').2

namespace Call.Tallies

theorem mono {k : Nat} (hk : n ≤ k) {c c' : Call σ α} (h : Tallies ρ n c c') :
    Tallies ρ k c c' :=
  fun k' w w' hk' hw => h k' w w' (Nat.le_trans hk hk') hw

theorem returns (a : α) : Tallies (σ := σ) ρ n (Call.returns a) (Call.returns a) :=
  fun k _ _ _ hw => ⟨rfl, k, Nat.le_refl k, hw⟩

theorem panic (message : String) :
    Tallies (σ := σ) ρ n (Call.panic message : Call σ α) (Call.panic message) :=
  fun k _ _ _ hw => ⟨rfl, k, Nat.le_refl k, hw⟩

theorem wait : Tallies (σ := σ) ρ n (Call.wait : Call σ α) Call.wait :=
  fun k _ _ _ hw => ⟨rfl, k, Nat.le_refl k, hw⟩

theorem bind {c c' : Call σ α} {f f' : α → Call σ β} (hc : Tallies ρ n c c')
    (hf : ∀ a, Tallies ρ n (f a) (f' a)) : Tallies ρ n (c.bind f) (c'.bind f') := by
  intro k w w' hk hw
  obtain ⟨hout, k₁, hk₁, hleft⟩ := hc k w w' hk hw
  rw [Call.bind, Call.bind]
  generalize c w = ended at hout hleft ⊢
  generalize c' w' = ended' at hout hleft ⊢
  obtain ⟨outcome, w₁⟩ := ended
  obtain ⟨outcome', w₁'⟩ := ended'
  obtain rfl : outcome = outcome' := hout
  cases outcome with
  | returned a =>
    obtain ⟨hout', k₂, hk₂, hleft'⟩ := hf a k₁ w₁ w₁' (Nat.le_trans hk hk₁) hleft
    exact ⟨hout', k₂, Nat.le_trans hk₁ hk₂, hleft'⟩
  | panicked message => exact ⟨rfl, k₁, hk₁, hleft⟩
  | cancelled => exact ⟨rfl, k₁, hk₁, hleft⟩

/-- Where a span is started, what follows may know it. -/
theorem start_bind {s : SpanStart} {f f' : ActiveSpan → Call σ β}
    (hf : ∀ k, n ≤ k → ∀ a a', a.Renumbered ρ k a' → Tallies ρ k (f a) (f' a')) :
    Tallies ρ n ((Call.start s).bind f) ((Call.start s).bind f') := by
  intro k w w' hk hw
  have hstarted := hf (k + 1) (Nat.le_succ_of_le hk) _ _ (hw.started s)
  obtain ⟨hout, k₁, hk₁, hleft⟩ := hstarted (k + 1) _ _ (Nat.le_refl _) (hw.start s)
  exact ⟨hout, k₁, Nat.le_of_succ_le hk₁, hleft⟩

theorem log {e e' : Entry} (he : e.Renumbered ρ n e') :
    Tallies (σ := σ) ρ n (Call.log e) (Call.log e') :=
  fun k _ _ hk hw => ⟨rfl, k, Nat.le_refl k, hw.append (.cons (he.mono hk) .nil)⟩

theorem report {level : Level} {fields : List (String × String)}
    (h : Report.IsPlain ⟨level, fields⟩) :
    Tallies (σ := σ) ρ n (Call.report level fields) (Call.report level fields) :=
  log (.reported h)

variable {cx cx' : Context}

/-- What an action on the spans of two contexts leaves. -/
theorem tally_act (hcx : cx.Renumbered ρ n cx') {w w' : World σ} (hw : ρ.Tally n w w')
    (author : Author) (a : SpanAction) :
    ρ.Tally n { w with recorder := w.recorder.act author cx a }
      { w' with recorder := w'.recorder.act author cx' a } := by
  rw [Recorder.act_eq, Recorder.act_eq]
  refine hw.append ?_
  have hnumbers := hcx.spanNumber?
  generalize cx.spanNumber? = number at hnumbers ⊢
  generalize cx'.spanNumber? = number' at hnumbers ⊢
  cases hnumbers with
  | none => exact .nil
  | some hi => exact .cons (.acted author hi a) .nil

theorem act (hcx : cx.Renumbered ρ n cx') (author : Author) (a : SpanAction) :
    Tallies (σ := σ) ρ n (Call.act author cx a) (Call.act author cx' a) :=
  fun k _ _ hk hw => ⟨rfl, k, Nat.le_refl k, tally_act (hcx.mono hk) hw author a⟩

theorem actAll (hcx : cx.Renumbered ρ n cx') (author : Author) (actions : List SpanAction) :
    Tallies (σ := σ) ρ n (Call.record (·.actAll author cx actions))
      (Call.record (·.actAll author cx' actions)) := by
  induction actions with
  | nil => exact returns ()
  | cons a actions ih => exact bind (act hcx author a) fun _ => ih

theorem andFinally (hcx : cx.Renumbered ρ n cx') {c c' : Call σ α} (hc : Tallies ρ n c c')
    (author : Author) (a : SpanAction) :
    Tallies ρ n (c.andFinally (·.act author cx a)) (c'.andFinally (·.act author cx' a)) := by
  intro k w w' hk hw
  obtain ⟨hout, k₁, hk₁, hleft⟩ := hc k w w' hk hw
  exact ⟨hout, k₁, hk₁, tally_act (hcx.mono (Nat.le_trans hk hk₁)) hleft author a⟩

theorem isRecording (hcx : cx.Renumbered ρ n cx') :
    Tallies (σ := σ) ρ n (Call.isRecording cx) (Call.isRecording cx') := by
  intro k w w' hk hw
  refine ⟨congrArg Outcome.returned ?_, k, Nat.le_refl k, hw⟩
  have hnumbers := (hcx.mono hk).spanNumber?
  generalize cx.spanNumber? = number at hnumbers ⊢
  generalize cx'.spanNumber? = number' at hnumbers ⊢
  cases hnumbers with
  | none => rfl
  | some hi => exact hw.isRecording hi

theorem onClient (f : σ → Outcome α × σ) : Tallies ρ n (Call.onClient f) (Call.onClient f) := by
  intro k w w' hk hw
  have hdone : f w.client = f w'.client := congrArg f hw.client
  refine ⟨?_, k, Nat.le_refl k, hw.withClient (congrArg Prod.snd hdone)⟩
  show (f w.client).1 = (f w'.client).1
  rw [hdone]

/-- Programs that run in parallel keep worlds in tally, if their operations do. -/
theorem run {S : Signature} {same : S.Op → S.Op → Prop}
    {perform perform' : (o : S.Op) → Call σ (S.Answer o)}
    (h : ∀ {o o'}, same o o' → ∀ {f : S.Answer o → Call σ α} {f' : S.Answer o' → Call σ α},
      (∀ a a', HEq a a' → Tallies ρ n (f a) (f' a')) →
        Tallies ρ n ((perform o).bind f) ((perform' o').bind f'))
    {p q : Program S α} (hpq : p.Parallel same q) :
    Tallies ρ n (p.run perform) (q.run perform') := by
  induction hpq with
  | done a => exact returns a
  | left ho => exact ho.elim
  | right ho => exact ho.elim
  | both ho _ ih => exact h ho ih

-- ---------------------------------------------------------------------------
-- What users write
-- ---------------------------------------------------------------------------

theorem hookOp {o o' : HookOp} (h : o.Renumbered ρ n o')
    {f : o.Answer → Call σ α} {f' : o'.Answer → Call σ α}
    (hf : ∀ a a', HEq a a' → Tallies ρ n (f a) (f' a')) :
    Tallies ρ n (o.perform.bind f) (o'.perform.bind f') := by
  cases h with
  | note hν => exact bind (log (.noted hν)) fun a => hf a a HEq.rfl
  | panic message => exact bind (panic message) fun a => hf a a HEq.rfl

theorem spanOp {o o' : SpanOp} (h : o.Renumbered ρ n o')
    {f : o.Answer → Call σ α} {f' : o'.Answer → Call σ α}
    (hf : ∀ a a', HEq a a' → Tallies ρ n (f a) (f' a')) :
    Tallies ρ n (o.perform.bind f) (o'.perform.bind f') := by
  cases h with
  | hook h => exact hookOp h hf
  | act hcx a => exact bind (act hcx .user a) fun a => hf a a HEq.rfl
  | isRecording hcx => exact bind (isRecording hcx) fun a => hf a a HEq.rfl

theorem handlerOp {o o' : HandlerOp m} (h : HandlerOp.Renumbered ρ n o o')
    {f : o.Answer → Call m.Client α} {f' : o'.Answer → Call m.Client α}
    (hf : ∀ a a', HEq a a' → Tallies ρ n (f a) (f' a')) :
    Tallies ρ n (o.perform.bind f) (o'.perform.bind f') := by
  cases h with
  | span h => exact spanOp h hf
  | onServer s s' op =>
    have hperform : s.perform op = s'.perform op := by
      rw [ServerStream.perform_eq, ServerStream.perform_eq]
    refine bind (α := op.Answer) ?_ fun a => hf a a HEq.rfl
    show Tallies ρ n (Call.onClient (s.perform op)) (Call.onClient (s'.perform op))
    rw [hperform]
    exact onClient _
  | onClient op =>
    refine bind (α := op.Answer) ?_ fun a => hf a a HEq.rfl
    exact onClient fun c =>
      ((.returned (Channel.serve op c).1 : Outcome op.Answer), (Channel.serve op c).2)
  | wait => exact bind wait fun a => hf a a HEq.rfl

end Call.Tallies

open Call (Tallies)

/-- What lies within a layer keeps worlds in tally, whatever has been renumbered. -/
def InsideTallies (ρ : Rerun) (inner inner' : Inside m σ) : Prop :=
  ∀ n s s', Mode.Renumbered ρ n s s' → Tallies ρ n (inner s) (inner' s')

theorem Handler.serve_tallies {h : Handler m} (hh : h.Oblivious) :
    InsideTallies ρ h.serve h.serve := by
  intro n s s' hs
  exact Call.Tallies.run Call.Tallies.handlerOp (hh ρ n s s' hs)

theorem Layer.tallies {layer : Layer m} (hl : layer.Oblivious) (info : m.Info)
    {inner inner' : Continuation m} (hinner : InsideTallies ρ inner inner') {s s' : m.Subject}
    (hs : Mode.Renumbered ρ n s s') :
    Tallies ρ n ((layer info s).run (LayerOp.perform inner))
      ((layer info s').run (LayerOp.perform inner')) := by
  refine Call.Tallies.run ?_ (hl ρ n info s s' hs)
  intro o o' ho f f' hf
  cases ho with
  | handler ho => exact Call.Tallies.handlerOp ho hf
  | next hs => exact (hinner n _ _ hs).bind fun a => hf a a HEq.rfl

-- ---------------------------------------------------------------------------
-- Tracing layers
-- ---------------------------------------------------------------------------

/-- The parent that is adopted is decoded, and so it is the same in both runs. -/
theorem adoptParent_tallies (method : String) (parent : Except ExtractError SpanContext) :
    Tallies (σ := σ) ρ n (adoptParent method parent) (adoptParent method parent) := by
  cases parent with
  | ok sc => exact .returns (some sc)
  | error e =>
    cases e with
    | notFound => exact .returns none
    | malformed fields =>
      refine .bind (.report ?_) fun _ => .returns none
      show "trace_id" ∉ ["error", "message", "method"]
      decide

namespace TracingPolicy

variable {p : TracingPolicy} {info : m.Info} {s s' : m.Subject} {cx cx' : Context}

theorem asked_tallies (hp : p.Oblivious) (i : Inquiry) :
    Tallies (σ := σ) ρ n ((p.includes i).run HookOp.perform)
      ((p.includes i).run HookOp.perform) := by
  unfold includes
  split
  · rename_i predicate hpredicate
    exact .run .hookOp (hp.predicate predicate hpredicate ρ n i)
  · exact .returns true

/-- A layer finds out about a call what there is in its metadata and its request. -/
theorem judge_congr (hs : Mode.Renumbered ρ n s s') :
    p.judge (σ := σ) info s = p.judge info s' := by
  have hextract : extract (Mode.contextOf s) p.propagator
      = extract (Mode.contextOf s') p.propagator := by
    unfold extract
    rw [hs.contextOf.metadata]
  unfold judge
  rw [hextract, hs.request?]

theorem judge_tallies (hp : p.Oblivious) (hs : Mode.Renumbered ρ n s s') :
    Tallies (σ := σ) ρ n (p.judge info s) (p.judge info s') := by
  rw [judge_congr hs]
  unfold judge
  refine .bind (adoptParent_tallies _ _) fun parent => ?_
  exact .bind (asked_tallies hp _) fun included => .returns _

theorem decorate_tallies (hp : p.Oblivious) {d d' : Decoration} (hd : d.Renumbered ρ n d') :
    Tallies (σ := σ) ρ n (p.decorate d) (p.decorate d') := by
  unfold decorate
  split
  · rename_i decorator hdecorator
    exact .run .spanOp (hp.decorator decorator hdecorator ρ n d d' hd)
  · exact .returns ()

theorem recordPayload_tallies (hcx : cx.Renumbered ρ n cx') (event : String)
    (payload : Option Message) :
    Tallies (σ := σ) ρ n (recordPayload cx event payload) (recordPayload cx' event payload) := by
  cases payload with
  | none => exact .returns ()
  | some msg => exact .act hcx .layer _

theorem recordRequest_tallies (hcx : cx.Renumbered ρ n cx') (request : Option Message) :
    Tallies (σ := σ) ρ n (p.recordRequest cx request) (p.recordRequest cx' request) := by
  unfold recordRequest
  split
  · exact recordPayload_tallies hcx _ _
  · exact .returns ()

theorem recordOutcome_tallies (hcx : cx.Renumbered ρ n cx') (result : Result m.Reply) :
    Tallies (σ := σ) ρ n (p.recordOutcome cx result) (p.recordOutcome cx' result) := by
  unfold recordOutcome
  cases result with
  | ok reply =>
    dsimp only
    split
    · exact recordPayload_tallies hcx _ _
    · exact .returns ()
  | error status =>
    dsimp only
    split
    · exact .actAll hcx .layer _
    · exact .returns ()

variable {inner inner' : Inside m σ}

theorem within_tallies (hp : p.Oblivious) (hinner : InsideTallies ρ inner inner')
    (hs : Mode.Renumbered ρ n s s') (hcx : cx.Renumbered ρ n cx') :
    Tallies ρ n (p.within cx info inner s) (p.within cx' info inner' s') := by
  unfold within
  rw [← hs.request?]
  refine .bind (recordRequest_tallies hcx _) fun _ => ?_
  refine .bind (hinner n _ _ (hs.rebase hcx)) fun result => ?_
  refine .bind (recordOutcome_tallies hcx result) fun _ => ?_
  have hdecoration : Decoration.Renumbered ρ n
      ⟨cx, Mode.methodOf info, Mode.request? s, (replyOf result).bind Mode.response?,
        errorOf result⟩
      ⟨cx', Mode.methodOf info, Mode.request? s, (replyOf result).bind Mode.response?,
        errorOf result⟩ := ⟨hcx, rfl, rfl, rfl, rfl⟩
  exact .bind (decorate_tallies hp hdecoration) fun _ => .returns result

/-- The spans that are started are the next in both runs, with the same parent. -/
theorem traced_tallies (hp : p.Oblivious) (hinner : InsideTallies ρ inner inner')
    (hs : Mode.Renumbered ρ n s s') (j : Judgement) :
    Tallies ρ n (p.traced j info inner s) (p.traced j info inner' s') := by
  rw [traced_eq, traced_eq]
  refine .start_bind fun k hk span span' hspan => ?_
  have hs' : Mode.Renumbered ρ k s s' := hs.mono hk
  have hcx : (j.contextWithin (Mode.contextOf s) span).Renumbered ρ k
      (j.contextWithin (Mode.contextOf s') span') := hs'.contextOf.within j.decoded hspan
  exact .andFinally hcx (within_tallies hp hinner hs' hcx) .layer .finish

theorem bypassed_tallies (hinner : InsideTallies ρ inner inner')
    (hs : Mode.Renumbered ρ n s s') :
    Tallies ρ n (bypassed info inner s) (bypassed info inner' s') := by
  unfold bypassed
  refine .bind (.report ?_) fun _ => hinner n s s' hs
  show "trace_id" ∉ ["message", "method"]
  decide

theorem around_tallies (hp : p.Oblivious) (hinner : InsideTallies ρ inner inner') :
    InsideTallies ρ (p.around info inner) (p.around info inner') := by
  intro n s s' hs
  unfold around
  refine .bind (judge_tallies hp hs) fun j => ?_
  split
  · exact traced_tallies hp hinner hs j
  · exact bypassed_tallies hinner hs

end TracingPolicy

theorem loggedAround_tallies {info : m.Info} {inner inner' : Inside m σ}
    (hinner : InsideTallies ρ inner inner') :
    InsideTallies ρ (loggedAround info inner) (loggedAround info inner') := by
  intro n s s' hs
  unfold loggedAround
  refine .bind (hinner n s s' hs) fun result => ?_
  exact .bind (.log (.outcome _ hs.contextOf.traceId _)) fun _ => .returns result

-- ---------------------------------------------------------------------------
-- Trees
-- ---------------------------------------------------------------------------

namespace Interceptor

/-- Around insides that keep worlds in tally, a tree in which everything is oblivious does. -/
theorem tallies {i : Interceptor m} (hi : i.Oblivious) (info : m.Info)
    {inner inner' : Continuation m} (hinner : InsideTallies ρ inner inner') :
    InsideTallies ρ (i.intercept info inner) (i.intercept info inner') := by
  induction i generalizing inner inner' with
  | tracing policy delegate ih =>
    cases hi with
    | tracing hp hd =>
      cases delegate with
      | none => exact TracingPolicy.around_tallies hp hinner
      | some d => exact TracingPolicy.around_tallies hp (ih d rfl (hd d rfl) hinner)
  | composite layers ih =>
    cases hi with
    | composite hl =>
      rw [intercept_composite, intercept_composite]
      -- layer by layer, from the handler outwards
      refine List.foldr_rel (r := InsideTallies ρ) hinner ?_
      intro layer hmem inside inside' hinside
      exact ih layer hmem (hl layer hmem) hinside
  | logging => exact loggedAround_tallies hinner
  | custom layer =>
    cases hi with
    | custom hl =>
      intro n s s' hs
      exact Layer.tallies hl info hinner hs

end Interceptor

-- ---------------------------------------------------------------------------
-- Calls
-- ---------------------------------------------------------------------------

/-- The contexts of a stream, those of wrappers included. -/
def ServerStream.contexts : ServerStream → List Context
  | channel cx => [cx]
  | wrapped s cx => cx :: s.contexts

def Mode.contexts : {m : Mode} → m.Subject → List Context
  | .unary, r => [r.context]
  | .streaming, s => s.contexts

/-- No span of these contexts was started here, but in states from before the rerun. -/
def Rerun.KnowsAll (ρ : Rerun) (cxs : List Context) : Prop :=
  ∀ cx ∈ cxs, ∀ j, cx.spanNumber? = some j → ρ.Knows j

theorem Context.renumbered_self {cx : Context} (h : ∀ j, cx.spanNumber? = some j → ρ.Knows j) :
    cx.Renumbered ρ n cx := by
  obtain ⟨span, baggage, metadata⟩ := cx
  refine ⟨?_, rfl, rfl⟩
  cases span with
  | none => exact .none
  | some active =>
    cases active with
    | remote sc => exact .some (.remote (SpanContext.Renumbered.refl sc))
    | started j sc => exact .some (.known (h j rfl) sc)

theorem ServerStream.renumbered_self {s : ServerStream} (h : ρ.KnowsAll s.contexts) :
    s.Renumbered ρ n s := by
  induction s with
  | channel cx => exact .channel (Context.renumbered_self (h cx List.mem_cons_self))
  | wrapped s cx ih =>
    have hinner : s.Renumbered ρ n s := ih fun cx' hmem => h cx' (List.mem_cons_of_mem cx hmem)
    exact .wrapped hinner (Context.renumbered_self (h cx List.mem_cons_self))

theorem Mode.renumbered_self {s : m.Subject} (h : ρ.KnowsAll (Mode.contexts s)) :
    Mode.Renumbered ρ n s s := by
  cases m with
  | unary => exact ⟨Context.renumbered_self (h _ List.mem_cons_self), rfl⟩
  | streaming => exact ServerStream.renumbered_self h

/-- A call as it arrives, with the handler that it is for. -/
structure Arrival (m : Mode) where
  handler : Handler m
  info : m.Info
  subject : m.Subject
  client : m.Client

/-- How the two runs of a call have ended: the same way, in worlds that tally. -/
structure Rerun.Agree (ρ : Rerun) (ended ended' : Outcome α × World σ) : Prop where
  outcome : ended.1 = ended'.1
  tally : ∃ n, ρ.Tally n ended.2 ended'.2

namespace Interceptor

/-- Serves a call in a state of the tracer. -/
def attend (i : Interceptor m) (a : Arrival m) (r : Recorder) :
    Outcome (Result m.Reply) × World m.Client :=
  i.intercept a.info a.handler.serve a.subject ⟨r, a.client⟩

/-- Serves calls one after the other, each in the state of the tracer in which the one before has
left it. Tells this state, and how the call ended. -/
def attendAll (i : Interceptor m) :
    List (Arrival m) → Recorder → List (Recorder × (Outcome (Result m.Reply) × World m.Client))
  | [], _ => []
  | a :: calls, r => (r, i.attend a r) :: i.attendAll calls (i.attend a r).2.recorder

variable {i : Interceptor m}

theorem attend_agree (hi : i.Oblivious) {a : Arrival m} (ha : a.handler.Oblivious)
    (hknown : ρ.KnowsAll (Mode.contexts a.subject)) :
    ρ.Agree (i.attend a ρ.first) (i.attend a ρ.second) := by
  have hinner : InsideTallies ρ a.handler.serve a.handler.serve := a.handler.serve_tallies ha
  have hself : Mode.Renumbered ρ 0 a.subject a.subject := Mode.renumbered_self hknown
  obtain ⟨hout, n, -, htally⟩ :=
    i.tallies hi a.info hinner 0 _ _ hself 0 _ _ (Nat.le_refl 0) (.refl ρ a.client)
  exact ⟨hout, n, htally⟩

/-- What has been logged before makes no difference to what is added. -/
theorem attend_log_eq (hi : i.Oblivious) {a : Arrival m} (ha : a.handler.Oblivious)
    (hknown : ρ.KnowsAll (Mode.contexts a.subject)) (hspans : ρ.first.spans = ρ.second.spans) :
    (i.attend a ρ.first).1 = (i.attend a ρ.second).1 ∧
      ∃ es, (i.attend a ρ.first).2.recorder.log = ρ.first.log ++ es ∧
        (i.attend a ρ.second).2.recorder.log = ρ.second.log ++ es := by
  obtain ⟨hout, n, htally⟩ := attend_agree hi ha hknown
  exact ⟨hout, htally.log_eq hspans⟩

/-- Calls one after the other end as each does alone, in whatever state of the tracer. -/
theorem attendAll_agree (hi : i.Oblivious) {calls : List (Arrival m)} {r alone : Recorder}
    (hr : r.Sound) (halone : alone.Sound)
    (hcalls : ∀ a ∈ calls, a.handler.Oblivious ∧
      ∀ cx ∈ Mode.contexts a.subject, cx.spanNumber? = none) :
    List.Forall₂ (fun a served => ∃ ρ : Rerun, ρ.first = alone ∧ ρ.second = served.1 ∧
      ρ.Agree (i.attend a alone) served.2) calls (i.attendAll calls r) := by
  induction calls generalizing r with
  | nil => exact .nil
  | cons a calls ih =>
    obtain ⟨ha, hnew⟩ := hcalls a List.mem_cons_self
    let ρ : Rerun := ⟨alone, r, halone, hr⟩
    have hknown : ρ.KnowsAll (Mode.contexts a.subject) := by
      intro cx hcx j hj
      rw [hnew cx hcx] at hj
      exact nomatch hj
    have hagree : ρ.Agree (i.attend a alone) (i.attend a r) := attend_agree hi ha hknown
    obtain ⟨n, htally⟩ := hagree.tally
    -- the call leaves a state in which the next one can be made
    have hleft : (i.attend a r).2.recorder.Sound := htally.sound
    have hrest := ih hleft fun b hb => hcalls b (List.mem_cons_of_mem a hb)
    exact .cons ⟨ρ, rfl, rfl, hagree⟩ hrest

/-- **Independence.** Made in any two states of the tracer, a call ends the same way with the same
reply or status, and does the same to its client. It keeps what was logged and starts as many
spans; what it adds to the log is the same in both, but that the spans that it starts are
numbered from where the tracer was, and so their ids. So of calls that one tree serves one after
the other, each ends and adds to the log as it does alone, whatever comes before it and however
that ends. -/
theorem attend_independent (i : Interceptor m) (hi : i.Oblivious) :
    (∀ (a : Arrival m) (ρ : Rerun), a.handler.Oblivious →
      ρ.KnowsAll (Mode.contexts a.subject) →
        ρ.Agree (i.attend a ρ.first) (i.attend a ρ.second)) ∧
    (∀ (calls : List (Arrival m)) (r alone : Recorder), r.Sound → alone.Sound →
      (∀ a ∈ calls, a.handler.Oblivious ∧
        ∀ cx ∈ Mode.contexts a.subject, cx.spanNumber? = none) →
          List.Forall₂ (fun a served => ∃ ρ : Rerun, ρ.first = alone ∧ ρ.second = served.1 ∧
            ρ.Agree (i.attend a alone) served.2) calls (i.attendAll calls r)) := by
  constructor
  · intro a ρ ha hknown
    exact attend_agree hi ha hknown
  · intro calls r alone hr halone hcalls
    exact attendAll_agree hi hr halone hcalls

theorem retraced_oblivious : retraced.Oblivious := by
  refine retraced_every ⟨?_, ?_⟩ ?_
  · intro predicate hpredicate
    exact nomatch hpredicate
  · intro decorator hdecorator
    exact nomatch hdecorator
  · intro ρ n info s s' hs
    refine .both (.next hs) fun a a' _ => ?_
    refine .both (.next hs) fun b b' hb => ?_
    obtain rfl := eq_of_heq hb
    exact .done b

end Interceptor

theorem Handler.renaming_oblivious : Handler.renaming.Oblivious := by
  intro ρ n r r' hr
  refine .both (.span (.act hr.1 _)) fun _ _ _ => ?_
  rw [hr.2]
  exact .done _

/-- A call without a context. -/
def Arrival.blank : Arrival .unary := ⟨.renaming, ⟨"/shop/Buy"⟩, .blank, ()⟩

/-- A state of the tracer in which a span has been started and ended. -/
def Recorder.used : Recorder :=
  ⟨[.started 1 ⟨"/shop/Look", true, serverTags, none⟩, .acted .layer 1 .finish], 1⟩

theorem Recorder.sound_used : used.Sound := by
  intro j hj
  have hother : (1 == j) = false := by
    have hlt : 1 < j := hj
    rw [beq_eq_false_iff_ne]
    omega
  show (!(false || ((1 == j) || false))) = true
  rw [hother]
  rfl

theorem Interceptor.attend_independent_retraced :
    retraced.Oblivious ∧ Handler.renaming.Oblivious ∧
      (∃ ρ : Rerun, ρ.first = ∅ ∧ ρ.second = .used ∧
        ρ.Agree (retraced.attend .blank ∅) (retraced.attend .blank .used)) ∧
      List.Forall₂ (fun a served => ∃ ρ : Rerun, ρ.first = ∅ ∧ ρ.second = served.1 ∧
        ρ.Agree (retraced.attend a ∅) served.2) [.blank, .blank]
          (retraced.attendAll [.blank, .blank] .used) := by
  have hempty : Recorder.Sound ∅ := fun _ _ => rfl
  have hnew : ∀ cx ∈ Mode.contexts Arrival.blank.subject, cx.spanNumber? = none := by
    intro cx hcx
    rw [List.mem_singleton.mp hcx]
    rfl
  refine ⟨retraced_oblivious, Handler.renaming_oblivious, ?_, ?_⟩
  · let ρ : Rerun := ⟨∅, .used, hempty, Recorder.sound_used⟩
    refine ⟨ρ, rfl, rfl, (attend_independent retraced retraced_oblivious).1 .blank ρ
      Handler.renaming_oblivious ?_⟩
    intro cx hcx j hj
    rw [hnew cx hcx] at hj
    exact nomatch hj
  · refine (attend_independent retraced retraced_oblivious).2 _ .used ∅ Recorder.sound_used
      hempty ?_
    intro a ha
    obtain rfl : a = Arrival.blank := by
      rcases List.mem_cons.mp ha with h | h
      · exact h
      · exact List.mem_singleton.mp h
    exact ⟨Handler.renaming_oblivious, hnew⟩

end CallSpan
