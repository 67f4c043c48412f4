import CallSpan.Proofs.Composition
import CallSpan.Proofs.StreamRuns
import CallSpan.Proofs.Verdicts

/-!
# Calls that are left alone

A tracing layer that does not admit a call has decoded the parent and asked its predicate by
then. All that is left of this are entries in the log (`TracingPolicy.asides`): the report of a
parent that is malformed, what the predicate wrote down, and the report that the call is
excluded. The rest is the **direct** run of what lies within, on the very subject that came.

*Direct* is meant literally: the run of the delegate, or of the handler alone, in the world in
which the call came, without the asides. A run may look into the log, since programs ask
whether a span is recording. But asides end no span, so nothing that runs can tell whether they
are there: it is **steady**, it does and adds the same in worlds in which the same spans are
recording (`Steady`), and so does every tree.

Main result:

* `Interceptor.intercept_excluded` — a call that is not admitted is the direct run, with asides
  before it.
-/

namespace CallSpan

variable {m : Mode} {σ α β : Type}

-- ---------------------------------------------------------------------------
-- Steady calls
-- ---------------------------------------------------------------------------

/-- The world when entries and steps have been added to it, and the number of spans and the
client have become others. -/
def World.grown (w : World (Watched m)) (es : List Entry) (spans : Nat) (client : m.Client)
    (t : Trail m) : World (Watched m) :=
  ⟨⟨w.recorder.log ++ es, spans⟩, (client, w.client.2 ++ t)⟩

theorem World.grown_nil (w : World (Watched m)) :
    w.grown [] w.recorder.spans w.client.1 [] = w := by
  rw [grown, List.append_nil, List.append_nil]

theorem World.grown_grown (w : World (Watched m)) (es es' : List Entry) (spans spans' : Nat)
    (client client' : m.Client) (t t' : Trail m) :
    (w.grown es spans client t).grown es' spans' client' t'
      = w.grown (es ++ es') spans' client' (t ++ t') := by
  simp only [grown, List.append_assoc]

/-- Worlds with the same client, in which as many spans were started and the same are
recording. -/
structure InStep (w w' : World (Watched m)) : Prop where
  client : w.client.1 = w'.client.1
  spans : w.recorder.spans = w'.recorder.spans
  recording : ∀ n, w.recorder.isRecording n = w'.recorder.isRecording n

theorem InStep.grown {w w' : World (Watched m)} (h : InStep w w') (es : List Entry) (spans : Nat)
    (client : m.Client) (t : Trail m) :
    InStep (w.grown es spans client t) (w'.grown es spans client t) where
  client := rfl
  spans := rfl
  recording n := by
    have hends : w.recorder.log.any (Entry.isEndOf n) = w'.recorder.log.any (Entry.isEndOf n) :=
      Bool.not_inj (h.recording n)
    simp only [Recorder.isRecording, World.grown, List.any_append, hends]

/-- A call that ends the same way and adds the same, in worlds that are in step. -/
def Steady (c : Call (Watched m) α) : Prop :=
  ∀ w w', InStep w w' → ∃ outcome es spans client t,
    c w = (outcome, w.grown es spans client t) ∧ c w' = (outcome, w'.grown es spans client t)

namespace Steady

/-- A call that adds nothing, if its outcome is the same in worlds that are in step. -/
theorem of_unchanged {c : Call (Watched m) α} {outcome : World (Watched m) → Outcome α}
    (hc : ∀ w, c w = (outcome w, w)) (h : ∀ w w', InStep w w' → outcome w = outcome w') :
    Steady c := by
  intro w w' hw
  refine ⟨outcome w, [], w.recorder.spans, w.client.1, [], ?_, ?_⟩
  · rw [hc, World.grown_nil]
  · rw [hc, h w w' hw, hw.spans, hw.client, World.grown_nil]

theorem returns (a : α) : Steady (m := m) (Call.returns a) :=
  of_unchanged (fun _ => rfl) fun _ _ _ => rfl

/-- A call that goes by the client and the number of spans alone. -/
theorem of_grown {c : Call (Watched m) α} (outcome : Nat → m.Client → Outcome α)
    (es : Nat → List Entry) (spans : Nat → Nat) (client : m.Client → m.Client) (t : Trail m)
    (hc : ∀ w, c w = (outcome w.recorder.spans w.client.1,
      w.grown (es w.recorder.spans) (spans w.recorder.spans) (client w.client.1) t)) :
    Steady c := by
  intro w w' hw
  refine ⟨_, _, _, _, _, hc w, ?_⟩
  rw [hc, hw.spans, hw.client]

theorem log (e : Entry) : Steady (m := m) (Call.log e) := by
  refine of_grown (fun _ _ => .returned ()) (fun _ => [e]) id id [] fun w => ?_
  rw [World.grown, List.append_nil]
  rfl

theorem act (author : Author) (cx : Context) (a : SpanAction) :
    Steady (m := m) (Call.act author cx a) := by
  refine of_grown (fun _ _ => .returned ()) (fun _ => cx.spanNumber?.toList.map (.acted author · a))
    id id [] fun w => ?_
  rw [Call.act, Call.record, Recorder.act_eq, World.grown, List.append_nil]
  rfl

theorem start (s : SpanStart) : Steady (m := m) (Call.start s) := by
  refine of_grown (fun n _ => .returned (.started (n + 1) (Recorder.contextOf (n + 1) s.parent)))
    (fun n => [.started (n + 1) s]) (· + 1) id [] fun w => ?_
  rw [World.grown, List.append_nil]
  rfl

theorem isRecording (cx : Context) : Steady (m := m) (Call.isRecording cx) := by
  refine of_unchanged (fun _ => rfl) fun w w' hw => ?_
  have hspan : ∀ span : Option Nat,
      span.any w.recorder.isRecording = span.any w'.recorder.isRecording := by
    intro span
    cases span with
    | none => rfl
    | some n => exact hw.recording n
  rw [hspan]

theorem step (s : Step m) : Steady (Call.step s) := by
  refine of_grown (fun _ _ => .returned ()) (fun _ => []) id id [s] fun w => ?_
  rw [World.grown, List.append_nil]
  rfl

theorem client (o : m.ClientCall) : Steady (Mode.performClient o).unwatched := by
  cases m with
  | unary => exact nomatch o
  | streaming =>
    -- the operation is on the client alone
    rw [Mode.performClient_eq]
    refine of_grown (fun _ c => (o.perform c).1) (fun _ => []) id (fun c => (o.perform c).2) []
      fun w => ?_
    rw [World.grown, List.append_nil, List.append_nil]
    rfl

theorem bind {c : Call (Watched m) α} {f : α → Call (Watched m) β} (hc : Steady c)
    (hf : ∀ a, Steady (f a)) : Steady (c.bind f) := by
  intro w w' hw
  obtain ⟨outcome, es, spans, client, t, hrun, hrun'⟩ := hc w w' hw
  rw [Call.bind, Call.bind, hrun, hrun']
  cases outcome with
  | returned a =>
    obtain ⟨outcome₁, es₁, spans₁, client₁, t₁, hrun₁, hrun₁'⟩ :=
      hf a _ _ (hw.grown es spans client t)
    refine ⟨outcome₁, es ++ es₁, spans₁, client₁, t ++ t₁, ?_, ?_⟩
    · rw [← World.grown_grown, ← hrun₁]
    · rw [← World.grown_grown, ← hrun₁']
  | panicked message => exact ⟨.panicked message, es, spans, client, t, rfl, rfl⟩
  | cancelled => exact ⟨.cancelled, es, spans, client, t, rfl, rfl⟩

/-- A steady end, whatever the outcome. -/
theorem ending {c : Call (Watched m) α} (hc : Steady c) {g : Call (Watched m) Unit}
    (hg : Steady g) {c' : Call (Watched m) α} (hc' : ∀ w, c' w = ((c w).1, (g (c w).2).2)) :
    Steady c' := by
  intro w w' hw
  obtain ⟨outcome, es, spans, client, t, hrun, hrun'⟩ := hc w w' hw
  obtain ⟨_, es₁, spans₁, client₁, t₁, hend, hend'⟩ := hg _ _ (hw.grown es spans client t)
  refine ⟨outcome, es ++ es₁, spans₁, client₁, t ++ t₁, ?_, ?_⟩
  · rw [hc', hrun, hend, World.grown_grown]
  · rw [hc', hrun', hend', World.grown_grown]

/-- All that a call is made of is steady. -/
def rule (m : Mode) : Call.Rule (Watched m) (Watched m) where
  Holds c _ := Steady c
  Allows _ _ _ := True
  returns := returns
  bind := bind
  note n := log (.noted n)
  report r := log (.reported r)
  act _ := act _ _ _
  isRecording := isRecording

theorem rule_universal : (rule m).Universal where
  panics _ := of_unchanged (fun _ => rfl) fun _ _ _ => rfl
  allowsAll _ _ _ := trivial
  wait := of_unchanged (fun _ => rfl) fun _ _ _ => rfl
  start := start
  step := step
  client := client
  finishing cx hc := hc.ending (act .layer cx .finish) fun _ => rfl
  settling hc := hc.ending (step .settled) fun _ => rfl

end Steady

-- ---------------------------------------------------------------------------
-- What is left of a layer that does not admit a call
-- ---------------------------------------------------------------------------

namespace TracingPolicy

/-- What a layer leaves in the log when it does not admit a call and its predicate left notes. -/
def asides (p : TracingPolicy) (info : m.Info) (subject : m.Subject) (notes : List Note) :
    List Entry :=
  p.asking info subject notes
    ++ [.reported ⟨.trace, [("message", m.exclusionText), ("method", Mode.methodOf info)]⟩]

variable {p : TracingPolicy} {info : m.Info} {subject : m.Subject} {notes : List Note}

/-- A layer that does not admit a call does, after its asides, as what lies within. -/
theorem around_turnedDown {inner : Inside m σ}
    (h : (p.includes (p.inquiry info subject)).verdict = (notes, .returned false))
    (w : World σ) :
    p.around info inner subject w = inner subject (w.after (p.asides info subject notes)) := by
  unfold around
  rw [Call.bind_eq, Call.bind_apply (judge_of_verdict h _)]
  -- the report that the call is excluded is the last of the asides
  show bypassed info inner subject (w.after (p.asking info subject notes)) = _
  rw [asides, ← World.after_after]
  rfl

/-- An audited layer too, and it adds its steps. -/
theorem audited_excluded {inner : Inside m (Watched m)}
    (h : (p.includes (p.inquiry info subject)).verdict = (notes, .returned false))
    (w : World m.Client) :
    p.audited info inner subject (w.beside [])
      = (inner subject).settling
          ((w.after (p.asides info subject notes)).beside
            [.judged p subject (p.judgement subject false)]) := by
  rw [audited_of_verdict h, asides, ← World.after_after]
  rfl

theorem inStep_asides (w : World m.Client) (t : Trail m) :
    InStep (w.beside []) ((w.after (p.asides info subject notes)).beside t) where
  client := rfl
  spans := rfl
  recording n := by
    -- whatever is reported or noted is not the end of a span
    have hends : (p.asides info subject notes).any (Entry.isEndOf n) = false := by
      rw [asides, asking, Extraction.reported]
      split <;> simp [Entry.isEndOf]
    have hlog : (w.recorder.log ++ p.asides info subject notes).any (Entry.isEndOf n)
        = w.recorder.log.any (Entry.isEndOf n) := by
      rw [List.any_append, hends, Bool.or_false]
    exact congrArg Bool.not hlog.symm

/-- A layer that does not admit a call, around what lies within in an audited run and in the
run, if that is steady. -/
theorem around_excluded {inner : Inside m (Watched m)} {inner' : Continuation m}
    (hshadow : ∀ s, Call.Shadows (inner s) (inner' s)) (hsteady : Steady (inner subject))
    (h : (p.includes (p.inquiry info subject)).verdict = (notes, .returned false))
    (w : World m.Client) :
    (∃ es, (inner' subject w).2.recorder.log = w.recorder.log ++ es ∧
      p.around info inner' subject w
        = ((inner' subject w).1,
            ⟨⟨w.recorder.log ++ (p.asides info subject notes ++ es),
              (inner' subject w).2.recorder.spans⟩, (inner' subject w).2.client⟩)) ∧
    (p.audited info inner subject (w.beside [])).2.client.2
      = .judged p subject (p.judgement subject false) :: (inner subject (w.beside [])).2.client.2
          ++ [.settled] := by
  let judged : Step m := .judged p subject (p.judgement subject false)
  let aside : World (Watched m) := (w.after (p.asides info subject notes)).beside [judged]
  obtain ⟨outcome, es, spans, client, t, hdirect, haside⟩ :=
    hsteady (w.beside []) aside (inStep_asides w [judged])
  have haudited : p.audited info inner subject (w.beside [])
      = (outcome, (aside.grown es spans client (t ++ [.settled]))) := by
    rw [audited_excluded h w, Call.settling, haside, World.grown, World.grown,
      ← List.append_assoc]
    rfl
  have hinner' : inner' subject w = (outcome, ((w.beside []).grown es spans client t).bare) := by
    have hrun := hshadow subject (w.beside [])
    rw [hdirect] at hrun
    exact hrun.symm
  have haround : Call.Shadows (p.audited info inner subject) (p.around info inner' subject) :=
    p.audited_shadows hshadow subject
  have haround := haround (w.beside [])
  rw [haudited, World.bare_beside] at haround
  refine ⟨⟨es, ?_, ?_⟩, ?_⟩
  · rw [hinner']
    rfl
  · rw [← haround, hinner', ← List.append_assoc]
    rfl
  · rw [haudited, hdirect]
    rfl

end TracingPolicy

-- ---------------------------------------------------------------------------
-- Chains
-- ---------------------------------------------------------------------------

namespace Interceptor

variable (info : m.Info) (inner : Inside m (Watched m))

theorem audited_composite_cons (layer : Interceptor m) (layers : List (Interceptor m)) :
    (composite (layer :: layers)).audited info inner
      = layer.audited info ((composite layers).audited info inner) := by
  rw [audited_composite, audited_composite, List.foldr_cons]

/-- A delegate in front of a chain is what a tracing layer has around the chain. -/
theorem audited_delegate (delegate : Option (Interceptor m)) (rest : List (Interceptor m)) :
    (composite (delegate.toList ++ rest)).audited info inner
      = auditedThrough delegate info ((composite rest).audited info inner) := by
  cases delegate with
  | none => rfl
  | some d => exact audited_composite_cons info inner d rest

theorem intercept_delegate (delegate : Option (Interceptor m)) (rest : List (Interceptor m))
    (inner' : Continuation m) :
    (composite (delegate.toList ++ rest)).intercept info inner'
      = through delegate info ((composite rest).intercept info inner') := by
  cases delegate with
  | none => rfl
  | some d => exact intercept_composite_cons info inner' d rest

/-- **Exclusion.** Whatever the options, the delegate, the chain behind it, the handler and the
world: a call that the predicate of a tracing layer turns down runs directly, as it came, and
ends so. Before what the direct run adds to the log stand the asides of the layer, with the
notes of the predicate, which are those of being asked once. The layers and the handler within
are reached with what they are reached with directly. Nothing that is configured besides the
predicate and the propagator makes a difference. -/
theorem intercept_excluded (p : TracingPolicy) (delegate : Option (Interceptor m))
    (rest : List (Interceptor m)) (h : Handler m) (info : m.Info) (subject : m.Subject)
    (w : World m.Client) (notes : List Note)
    (hexcluded : (p.includes (p.inquiry info subject)).verdict = (notes, .returned false)) :
    let inner := (composite rest).intercept info h.serve
    let direct := through delegate info inner subject w
    (∃ es, direct.2.recorder.log = w.recorder.log ++ es ∧
      ∀ q : TracingPolicy, q.predicate = p.predicate → q.propagator = p.propagator →
        (tracing q delegate).intercept info inner subject w
          = (direct.1,
              ⟨⟨w.recorder.log ++ (p.asides info subject notes ++ es), direct.2.recorder.spans⟩,
                direct.2.client⟩)) ∧
    (composite (tracing p delegate :: rest)).trail h info subject w
      = .judged p subject (p.judgement subject false)
          :: (composite (delegate.toList ++ rest)).trail h info subject w ++ [.settled] := by
  intro inner direct
  let chain := composite (delegate.toList ++ rest)
  have hshadow : ∀ s, Call.Shadows (chain.audited info h.audited s)
      (through delegate info inner s) := by
    intro s
    rw [← intercept_delegate]
    exact chain.audited_shadows info (fun s => h.audited_shadows s) s
  have hsteady : Steady (chain.audited info h.audited subject) :=
    Steady.rule_universal.call chain h info subject
  have hchain : (composite (tracing p delegate :: rest)).audited info h.audited
      = p.audited info (chain.audited info h.audited) := by
    rw [audited_composite_cons, audited_delegate]
    simp only [audited]
  obtain ⟨⟨es, hdirect, -⟩, htrail⟩ := p.around_excluded hshadow hsteady hexcluded w
  refine ⟨⟨es, hdirect, fun q hpredicate hpropagator => ?_⟩, ?_⟩
  · have hq : (q.includes (q.inquiry info subject)).verdict = (notes, .returned false) := by
      rw [TracingPolicy.includes, TracingPolicy.inquiry, hpredicate, hpropagator]
      exact hexcluded
    obtain ⟨⟨es', hdirect', hq⟩, -⟩ := q.around_excluded hshadow hsteady hq w
    -- the direct run is the same, and so is what it adds
    obtain rfl : es = es' := List.append_cancel_left (hdirect.symm.trans hdirect')
    have hasides : q.asides info subject notes = p.asides info subject notes := by
      rw [TracingPolicy.asides, TracingPolicy.asking, hpropagator]
      rfl
    rw [← hasides]
    exact hq
  · rw [trail, hchain]
    exact htrail

end Interceptor

/-- Turns every call down, and writes down what it is asked. -/
def TracingPolicy.closed : TracingPolicy where
  logPayloads := true
  logErrors := true
  predicate := some fun inquiry => .perform (.note (.asked inquiry)) fun _ => .done false
  decorator := some fun d => .perform (.act d.context (.rename "decorated")) .done
  propagator := [.traceContext, .baggage]

theorem TracingPolicy.verdict_closed (i : Inquiry) :
    (closed.includes i).verdict = ([.asked i], .returned false) := rfl

/-- A request with a parent in its metadata that cannot be read. -/
def UnaryRequest.garbled : UnaryRequest :=
  ⟨Context.empty.withMetadata (Metadata.empty.put "traceparent" "00-"), ⟨.unit, .unit⟩⟩

/-- A parent that cannot be read is reported before the predicate is asked. -/
example : TracingPolicy.closed.asides (m := .unary) ⟨"/shop/Buy"⟩ .garbled []
    = [.reported ⟨.debug,
        [("error", "malformed span context in gRPC metadata (fields: traceparent)"),
          ("message", "ignoring undecodable parent span context"), ("method", "/shop/Buy")]⟩,
      .reported ⟨.trace,
        [("message", "call excluded from tracing"), ("method", "/shop/Buy")]⟩] := rfl

theorem Interceptor.intercept_excluded_closed :
    let p := TracingPolicy.closed
    let inquiry := p.inquiry (m := .unary) ⟨"/shop/Buy"⟩ .forwarded
    let inner : Continuation .unary :=
      (composite [.logging]).intercept ⟨"/shop/Buy"⟩ Handler.renaming.serve
    let direct := through (some .retraced) ⟨"/shop/Buy"⟩ inner .forwarded .fresh
    (p.includes inquiry).verdict = ([.asked inquiry], .returned false) ∧
    (∃ es, direct.2.recorder.log = World.fresh.recorder.log ++ es ∧
      ∀ q : TracingPolicy, q.predicate = p.predicate → q.propagator = p.propagator →
        (tracing q (some .retraced)).intercept ⟨"/shop/Buy"⟩ inner .forwarded .fresh
          = (direct.1,
              ⟨⟨World.fresh.recorder.log
                  ++ (p.asides (m := .unary) ⟨"/shop/Buy"⟩ .forwarded [.asked inquiry] ++ es),
                direct.2.recorder.spans⟩, direct.2.client⟩)) ∧
    (composite [tracing p (some .retraced), .logging]).trail .renaming ⟨"/shop/Buy"⟩ .forwarded
        .fresh
      = .judged p UnaryRequest.forwarded (p.judgement (m := .unary) .forwarded false)
          :: (composite [.retraced, .logging]).trail .renaming ⟨"/shop/Buy"⟩ .forwarded .fresh
          ++ [.settled] :=
  ⟨TracingPolicy.verdict_closed _,
    intercept_excluded .closed (some .retraced) [.logging] .renaming ⟨"/shop/Buy"⟩ .forwarded
      .fresh _ (TracingPolicy.verdict_closed _)⟩

end CallSpan
