import CallSpan.Proofs.Audit
import CallSpan.Proofs.Injection

/-!
# Where spans hang in a trace

The parent of a span is what the propagator of its layer decodes from the metadata of the
call. Nothing else has a say: not a span that is active already, be it that of a tracing
layer further out; not the baggage, the request, or metadata that was attached before. So
nested layers with one propagator start siblings, and two calls with the same metadata hang
from the same parents, whatever else is different about them.

The metadata of a context survives all that a tracing layer derives from it, and a layer of
the users' is asked to hand it on (`Interceptor.KeepsMetadata`). What a predicate is shown
leaves no mark in the log. It is told by **guards**: a guarded predicate does as the
predicate does about the parent that it should be shown, and whatever one likes about any
other. A tree with guards runs as the tree without.

Main result:

* `Interceptor.spansHang_intercept` — what predicates are shown and spans are started with.
-/

namespace CallSpan

variable {m : Mode} {σ α β : Type} {attached : Option Metadata}

-- ---------------------------------------------------------------------------
-- The parent in metadata
-- ---------------------------------------------------------------------------

/-- The parent that a propagator finds in the metadata of a context, with nothing else to
begin with: none if no valid span context is decoded. -/
def Propagator.parentIn (p : Propagator) (attached : Option Metadata) : Option SpanContext :=
  (p.decode (attached.getD ∅) ∅).spanContext?.filter SpanContext.isValid

theorem toOption_extract (cx : Context) (p : Propagator) :
    (extract cx p).parent.toOption = p.parentIn cx.metadata := by
  unfold extract Propagator.parentIn
  cases h : (p.decode (cx.metadata.getD ∅) ∅).spanContext?.filter SpanContext.isValid with
  | none => simp only [h, Except.toOption]
  | some sc => simp only [h, Except.toOption]

theorem Propagator.Part.remote_decode (md : Metadata) {cx : Context}
    (h : ∀ sc, cx.spanContext? = some sc → sc.remote = true) (part : Part) {sc : SpanContext}
    (hsc : (part.decode md cx).spanContext? = some sc) : sc.remote = true := by
  cases part with
  | traceContext =>
    simp only [decode] at hsc
    split at hsc
    · rename_i sc' hdecode
      obtain rfl : sc' = sc := Option.some.inj hsc
      exact (TraceParent.of_decode? hdecode).2
    · exact h sc hsc
  | baggage =>
    simp only [decode] at hsc
    split at hsc
    · exact h sc hsc
    · exact h sc hsc

theorem Propagator.remote_parentIn {p : Propagator} {sc : SpanContext}
    (h : p.parentIn attached = some sc) : sc.remote = true := by
  have hspan : (p.decode (attached.getD ∅) ∅).spanContext? = some sc :=
    (Option.filter_eq_some_iff.mp h).1
  let kept (cx : Context) : Prop := ∀ sc, cx.spanContext? = some sc → sc.remote = true
  have hkept : kept (p.decode (attached.getD ∅) ∅) := by
    refine List.foldlRecOn (motive := kept) p _ (fun sc hsc => nomatch hsc) ?_
    intro cx hcx part _ sc hsc
    exact part.remote_decode _ hcx hsc
  exact hkept sc hspan

/-- A span that is started here is not remote, and so is no parent that is decoded. -/
theorem Propagator.parentIn_ne_contextOf (p : Propagator) (n : Nat)
    (parent : Option SpanContext) : p.parentIn attached ≠ some (Recorder.contextOf n parent) := by
  intro h
  have hremote := remote_parentIn h
  cases parent with
  | none => exact absurd hremote Bool.false_ne_true
  | some sc => exact absurd hremote Bool.false_ne_true

-- ---------------------------------------------------------------------------
-- What a tracing layer goes on with
-- ---------------------------------------------------------------------------

/-- Reports a parent that is malformed. -/
def reportParent (method : String) : Except ExtractError SpanContext → Call σ Unit
  | .error (.malformed fields) =>
    Call.report .debug
      [("error", (ExtractError.malformed fields).message),
        ("message", "ignoring undecodable parent span context"), ("method", method)]
  | _ => .returns ()

theorem adoptParent_eq (method : String) (x : Except ExtractError SpanContext) :
    adoptParent (σ := σ) method x = (reportParent method x).bind fun _ => .returns x.toOption := by
  cases x with
  | ok sc => rfl
  | error e => cases e <;> rfl

/-- The context that is handed on within a span. -/
def Judgement.contextWithin (j : Judgement) (cx : Context) (span : ActiveSpan) : Context :=
  (withIncomingBaggage cx j.decoded).withSpan span

@[simp] theorem Judgement.metadata_contextWithin (j : Judgement) (cx : Context)
    (span : ActiveSpan) : (j.contextWithin cx span).metadata = cx.metadata := by
  unfold contextWithin withIncomingBaggage
  split <;> rfl

namespace TracingPolicy

variable (p : TracingPolicy) (info : m.Info)

/-- A layer finds the parent in the metadata, asks the predicate about it, and goes on with
it. -/
theorem judge_eq (subject : m.Subject) :
    p.judge (σ := σ) info subject
      = (reportParent (Mode.methodOf info)
          (extract (Mode.contextOf subject) p.propagator).parent).bind fun _ =>
        ((p.includes ⟨p.propagator.parentIn (Mode.contextOf subject).metadata,
            Mode.methodOf info, Mode.request? subject, none⟩).run HookOp.perform).bind
          fun included => .returns
            ⟨(extract (Mode.contextOf subject) p.propagator).decoded,
              p.propagator.parentIn (Mode.contextOf subject).metadata, included⟩ := by
  unfold judge
  simp only [Call.bind_eq, adoptParent_eq, Call.bind_assoc, Call.returns_bind, toOption_extract]

/-- A traced call is what is done within the span that it starts. -/
theorem traced_eq (j : Judgement) (inner : Inside m σ) (subject : m.Subject) :
    p.traced j info inner subject
      = (Call.start ⟨Mode.methodOf info, true, serverTags, j.parent⟩).bind fun span =>
          (p.within (j.contextWithin (Mode.contextOf subject) span) info inner
            subject).andFinally
              (·.act .layer (j.contextWithin (Mode.contextOf subject) span) .finish) := by
  unfold traced startServerSpan
  simp only [Call.bind_eq, Call.bind_assoc, Call.returns_bind]
  rfl

end TracingPolicy

-- ---------------------------------------------------------------------------
-- Guards
-- ---------------------------------------------------------------------------

/-- The policy whose predicate does as `other` does about any parent but the one that the
propagator finds in the metadata. -/
def TracingPolicy.guarded (attached : Option Metadata) (other : Predicate) (p : TracingPolicy) :
    TracingPolicy :=
  { p with predicate := p.predicate.map fun predicate inquiry =>
      if inquiry.parent = p.propagator.parentIn attached then predicate inquiry
      else other inquiry }

namespace Interceptor

mutual

/-- The tree with all its predicates guarded. -/
def guarded (attached : Option Metadata) (other : Predicate) : Interceptor m → Interceptor m
  | tracing policy delegate =>
    tracing (policy.guarded attached other) (guardedThrough attached other delegate)
  | composite layers => composite (guardedAll attached other layers)
  | logging => logging
  | custom layer => custom layer

def guardedThrough (attached : Option Metadata) (other : Predicate) :
    Option (Interceptor m) → Option (Interceptor m)
  | none => none
  | some delegate => some (delegate.guarded attached other)

def guardedAll (attached : Option Metadata) (other : Predicate) :
    List (Interceptor m) → List (Interceptor m)
  | [] => []
  | layer :: layers => layer.guarded attached other :: guardedAll attached other layers

end

theorem guardedAll_eq_map (other : Predicate) (layers : List (Interceptor m)) :
    guardedAll attached other layers = layers.map (guarded attached other) := by
  induction layers with
  | nil => rfl
  | cons layer layers ih => simp [guardedAll, ih]

end Interceptor

theorem Program.run_congr {S : Signature} {allowed : S.Op → Prop}
    {perform perform' : (o : S.Op) → Call σ (S.Answer o)}
    (h : ∀ o, allowed o → perform o = perform' o) {p : Program S α} (hp : p.Only allowed) :
    p.run perform = p.run perform' := by
  induction p with
  | done a => rfl
  | perform o next ih =>
    have hnext : (fun answer => (next answer).run perform)
        = fun answer => (next answer).run perform' := by
      funext answer
      exact ih answer (hp.2 answer)
    rw [run, run, h o hp.1, hnext]

namespace TracingPolicy

variable {p : TracingPolicy} (info : m.Info) {inner inner' : Inside m σ} {subject : m.Subject}

theorem includes_guarded (other : Predicate) {i : Inquiry}
    (hi : i.parent = p.propagator.parentIn attached) :
    (p.guarded attached other).includes i = p.includes i := by
  unfold includes guarded
  cases p.predicate with
  | none => rfl
  | some predicate => exact if_pos hi

theorem judge_guarded (other : Predicate)
    (hs : (Mode.contextOf subject).metadata = attached) :
    (p.guarded attached other).judge (σ := σ) info subject = p.judge info subject := by
  let asked : Inquiry :=
    ⟨p.propagator.parentIn attached, Mode.methodOf info, Mode.request? subject, none⟩
  have hasked : (p.guarded attached other).includes asked = p.includes asked :=
    includes_guarded other rfl
  rw [judge_eq, judge_eq, hs, ← hasked]
  rfl

theorem around_guarded (other : Predicate)
    (hinner : ∀ s, (Mode.contextOf s).metadata = attached → inner s = inner' s)
    (hs : (Mode.contextOf subject).metadata = attached) :
    (p.guarded attached other).around info inner subject = p.around info inner' subject := by
  have htraced : ∀ j, (p.guarded attached other).traced j info inner subject
      = p.traced j info inner' subject := by
    intro j
    rw [traced_eq, traced_eq]
    congr 1
    funext span
    -- the metadata is still there within the span
    have hwithin := hinner (Mode.rebase (j.contextWithin (Mode.contextOf subject) span) subject)
      (by rw [Mode.contextOf_rebase, j.metadata_contextWithin, hs])
    congr 1
    show p.within _ info inner subject = p.within _ info inner' subject
    simp only [within, hwithin]
  have hbypassed : bypassed info inner subject = bypassed info inner' subject := by
    simp only [bypassed, hinner subject hs]
  unfold around
  simp only [judge_guarded info other hs, htraced, hbypassed]

end TracingPolicy

/-- A tree with guards does as the tree without, around insides that agree on subjects with
the metadata. -/
theorem Interceptor.intercept_guarded {i : Interceptor m} (hi : i.KeepsMetadata)
    (other : Predicate) (info : m.Info) {inner inner' : Continuation m}
    (hinner : ∀ s, (Mode.contextOf s).metadata = attached → inner s = inner' s)
    {subject : m.Subject} (hs : (Mode.contextOf subject).metadata = attached) :
    (i.guarded attached other).intercept info inner subject
      = i.intercept info inner' subject := by
  induction i generalizing inner inner' subject with
  | tracing policy delegate ih =>
    cases hi with
    | tracing _ hd =>
      simp only [guarded, intercept]
      apply TracingPolicy.around_guarded info other _ hs
      intro s hs'
      cases delegate with
      | none => exact hinner s hs'
      | some d => exact ih d rfl (hd d rfl) hinner hs'
  | composite layers ih =>
    cases hi with
    | composite hl =>
      rw [guarded, guardedAll_eq_map, intercept_composite, intercept_composite, List.foldr_map]
      let related (inside inside' : Continuation m) : Prop :=
        ∀ s, (Mode.contextOf s).metadata = attached → inside s = inside' s
      refine List.foldr_rel (r := related) hinner ?_ subject hs
      intro layer hmem inside inside' hinside s hs'
      exact ih layer hmem (hl layer hmem) hinside hs'
  | logging =>
    simp only [guarded, intercept, loggedAround, hinner subject hs]
  | custom layer =>
    cases hi with
    | custom hl =>
      simp only [guarded, intercept]
      refine Program.run_congr (fun o ho => ?_) (hl info subject)
      cases o with
      | handler o => rfl
      | next s => exact hinner s (ho.trans hs)

-- ---------------------------------------------------------------------------
-- What spans are started with
-- ---------------------------------------------------------------------------

/-- The parent of the span that an entry starts. -/
def Entry.startedUnder? : Entry → Option (Option SpanContext)
  | .started _ s => some s.parent
  | _ => none

/-- The parent in the metadata, for the propagator of the layer that admits a call. -/
def Step.admittedUnder? (attached : Option Metadata) : Step m → Option (Option SpanContext)
  | judged p _ j => if j.included then some (p.propagator.parentIn attached) else none
  | _ => none

/-- What is said of the entries that a call adds to a log, and of its trail, when its
metadata is `attached`. -/
structure SpansHang (attached : Option Metadata) (t : Trail m) (es : List Entry) : Prop where
  /-- Spans are started one for each admission, in order, with the parent that the propagator
  of the layer finds in the metadata. -/
  started : es.filterMap Entry.startedUnder? = t.filterMap (Step.admittedUnder? attached)
  /-- With that parent every layer goes on, whether it admits the call or not. -/
  judged : ∀ p s j, Step.judged p s j ∈ t → j.parent = p.propagator.parentIn attached

/-- Layers with the same propagator go on with the same parent. -/
def Trail.SameParents (t t' : Trail m) : Prop :=
  ∀ p s j p' s' j', Step.judged p s j ∈ t → Step.judged p' s' j' ∈ t' →
    p.propagator = p'.propagator → j.parent = j'.parent

namespace SpansHang

variable {t t' : Trail m} {es es' : List Entry}

theorem of_quiet (h : ∀ e ∈ es, e.startedUnder? = none) :
    SpansHang (m := m) attached [] es where
  started := List.filterMap_eq_nil_iff.mpr h
  judged _ _ _ hj := absurd hj List.not_mem_nil

theorem append (h : SpansHang attached t es) (h' : SpansHang attached t' es') :
    SpansHang attached (t ++ t') (es ++ es') where
  started := by rw [List.filterMap_append, List.filterMap_append, h.started, h'.started]
  judged p s j hj := by
    rcases List.mem_append.mp hj with hj | hj
    · exact h.judged p s j hj
    · exact h'.judged p s j hj

theorem visit {s : Step m} (hs : s.isVisit = true) : SpansHang attached [s] [] where
  started := by
    cases s with
    | judged => exact absurd hs Bool.false_ne_true
    | _ => rfl
  judged p s' j hj := by
    obtain rfl := List.mem_singleton.mp hj
    exact absurd hs Bool.false_ne_true

theorem settled : SpansHang (m := m) attached [.settled] [] where
  started := rfl
  judged _ _ _ hj := nomatch List.mem_singleton.mp hj

theorem admitted {p : TracingPolicy} {subject : m.Subject} {j : Judgement}
    (hj : j.included = true) (hparent : j.parent = p.propagator.parentIn attached) (n : Nat)
    {s : SpanStart} (hs : s.parent = j.parent) :
    SpansHang attached [.judged p subject j] [.started n s] where
  started := by simp [Entry.startedUnder?, Step.admittedUnder?, hj, hs, hparent]
  judged p' s' j' hj' := by
    cases List.mem_singleton.mp hj'
    exact hparent

theorem excluded {p : TracingPolicy} {subject : m.Subject} {j : Judgement}
    (hj : j.included = false) (hparent : j.parent = p.propagator.parentIn attached) :
    SpansHang attached [.judged p subject j] [] where
  started := by simp [Step.admittedUnder?, hj]
  judged p' s' j' hj' := by
    cases List.mem_singleton.mp hj'
    exact hparent

theorem sameParents (h : SpansHang attached t es) (h' : SpansHang attached t' es') :
    t.SameParents t' := by
  intro p s j p' s' j' hj hj' hp
  rw [h.judged p s j hj, h'.judged p' s' j' hj', hp]

/-- No span hangs from a span that is started here. -/
theorem parent_ne (h : SpansHang attached t es) {n : Nat} {s : SpanStart}
    (hs : Entry.started n s ∈ es) (k : Nat) (parent : Option SpanContext) :
    s.parent ≠ some (Recorder.contextOf k parent) := by
  have hmem : s.parent ∈ t.filterMap (Step.admittedUnder? attached) := by
    rw [← h.started]
    exact List.mem_filterMap.mpr ⟨_, hs, rfl⟩
  obtain ⟨step, -, hstep⟩ := List.mem_filterMap.mp hmem
  cases step with
  | judged p subject j =>
    simp only [Step.admittedUnder?] at hstep
    split at hstep
    · rw [← Option.some.inj hstep]
      exact p.propagator.parentIn_ne_contextOf k parent
    · exact nomatch hstep
  | _ => exact nomatch hstep

end SpansHang

/-- A call that starts spans where they should hang, from whatever world, and whatever its
outcome. -/
def Hanging (attached : Option Metadata) (c : Call (Watched m) α) : Prop :=
  ∀ w, ∃ es t, (c w).2.recorder.log = w.recorder.log ++ es ∧
    (c w).2.client.2 = w.client.2 ++ t ∧ SpansHang attached t es

namespace Hanging

theorem of_unchanged {c : Call (Watched m) α}
    (h : ∀ w, (c w).2.recorder = w.recorder ∧ (c w).2.client.2 = w.client.2) :
    Hanging attached c := by
  intro w
  obtain ⟨hrecorder, htrail⟩ := h w
  refine ⟨[], [], ?_, ?_, .of_quiet fun e he => absurd he List.not_mem_nil⟩
  · rw [hrecorder, List.append_nil]
  · rw [htrail, List.append_nil]

theorem returns (a : α) : Hanging (m := m) attached (Call.returns a) :=
  of_unchanged fun _ => ⟨rfl, rfl⟩

theorem bind {c : Call (Watched m) α} {f : α → Call (Watched m) β} (hc : Hanging attached c)
    (hf : ∀ a, Hanging attached (f a)) : Hanging attached (c.bind f) := by
  let adds (w w' : World (Watched m)) : Prop :=
    ∃ es t, w'.recorder.log = w.recorder.log ++ es ∧ w'.client.2 = w.client.2 ++ t ∧
      SpansHang attached t es
  have htrans : ∀ {w₁ w₂ w₃}, adds w₁ w₂ → adds w₂ w₃ → adds w₁ w₃ := by
    rintro w₁ w₂ w₃ ⟨es, t, hlog, htrail, hhang⟩ ⟨es', t', hlog', htrail', hhang'⟩
    refine ⟨es ++ es', t ++ t', ?_, ?_, hhang.append hhang'⟩
    · rw [hlog', hlog, List.append_assoc]
    · rw [htrail', htrail, List.append_assoc]
  exact Call.bind_of_trans (P := adds) htrans hc hf

theorem log {e : Entry} (he : e.startedUnder? = none) :
    Hanging (m := m) attached (Call.log e) := by
  intro w
  refine ⟨[e], [], rfl, (List.append_nil _).symm, .of_quiet fun x hx => ?_⟩
  rwa [List.mem_singleton.mp hx]

theorem step {s : Step m} (hs : s.isVisit = true) : Hanging attached (Call.step s) :=
  fun _ => ⟨[], [s], (List.append_nil _).symm, rfl, .visit hs⟩

theorem log_act (r : Recorder) (author : Author) (cx : Context) (a : SpanAction) :
    ∃ es, (r.act author cx a).log = r.log ++ es ∧ ∀ e ∈ es, e.startedUnder? = none := by
  rw [r.act_eq]
  refine ⟨_, rfl, fun e he => ?_⟩
  obtain ⟨n, -, rfl⟩ := List.mem_map.mp he
  rfl

theorem act (author : Author) (cx : Context) (a : SpanAction) :
    Hanging (m := m) attached (Call.act author cx a) := by
  intro w
  obtain ⟨es, hlog, hquiet⟩ := log_act w.recorder author cx a
  exact ⟨es, [], hlog, (List.append_nil _).symm, .of_quiet hquiet⟩

theorem andFinally {c : Call (Watched m) α} (hc : Hanging attached c) (author : Author)
    (cx : Context) (a : SpanAction) : Hanging attached (c.andFinally (·.act author cx a)) := by
  intro w
  obtain ⟨es, t, hlog, htrail, hhang⟩ := hc w
  obtain ⟨es', hlog', hquiet⟩ := log_act (c w).2.recorder author cx a
  refine ⟨es ++ es', t ++ [], ?_, ?_, hhang.append (.of_quiet hquiet)⟩
  · show ((c w).2.recorder.act author cx a).log = _
    rw [hlog', hlog, List.append_assoc]
  · rw [List.append_nil]
    exact htrail

theorem settling {c : Call (Watched m) α} (hc : Hanging attached c) :
    Hanging attached c.settling := by
  intro w
  obtain ⟨es, t, hlog, htrail, hhang⟩ := hc w
  refine ⟨es ++ [], t ++ [.settled], ?_, ?_, hhang.append .settled⟩
  · rw [List.append_nil]
    exact hlog
  · show (c w).2.client.2 ++ [.settled] = _
    rw [htrail, List.append_assoc]

/-- What a tracing layer does around its span starts no span. -/
def rule (m : Mode) (attached : Option Metadata) : Call.Rule (Watched m) (Watched m) where
  Holds c _ := Hanging attached c
  Allows _ _ _ := True
  returns := returns
  bind := bind
  note _ := log rfl
  report _ := log rfl
  act _ := act _ _ _
  isRecording _ := of_unchanged fun _ => ⟨rfl, rfl⟩

theorem rule_panics : (rule m attached).Panics := fun _ => of_unchanged fun _ => ⟨rfl, rfl⟩

theorem rule_allowsAll : (rule m attached).AllowsAll := fun _ _ _ => trivial

theorem run {S : Signature} {allowed : S.Op → Prop}
    {perform : (o : S.Op) → Call (Watched m) (S.Answer o)}
    (h : ∀ o, allowed o → Hanging attached (perform o)) {p : Program S α} (hp : p.Only allowed) :
    Hanging attached (p.run perform) := by
  have hperform : ∀ o, allowed o → (rule m attached).Holds (perform o) (perform o) := h
  exact (rule m attached).run hperform hp

theorem reportParent (method : String) (x : Except ExtractError SpanContext) :
    Hanging (m := m) attached (reportParent method x) := by
  cases x with
  | ok sc => exact returns ()
  | error e =>
    cases e with
    | notFound => exact returns ()
    | malformed fields => exact log rfl

/-- A span that is started upon an admission, with the parent of the judgement. -/
theorem admitted {p : TracingPolicy} {subject : m.Subject} {j : Judgement}
    (hj : j.included = true) (hparent : j.parent = p.propagator.parentIn attached)
    {s : SpanStart} (hs : s.parent = j.parent) {f : ActiveSpan → Call (Watched m) α}
    (hf : ∀ span, Hanging attached (f span)) :
    Hanging attached ((Call.step (.judged p subject j)).bind fun _ =>
      ((Call.start s).bind f).settling) := by
  intro w
  let n := w.recorder.spans + 1
  let w₁ : World (Watched m) :=
    ⟨⟨w.recorder.log ++ [.started n s], n⟩, (w.client.1, w.client.2 ++ [.judged p subject j])⟩
  obtain ⟨es, t, hlog, htrail, hhang⟩ := (hf (w.recorder.start s).1).settling w₁
  refine ⟨[.started n s] ++ es, [.judged p subject j] ++ t, ?_, ?_,
    (SpansHang.admitted hj hparent n hs).append hhang⟩
  · rw [← List.append_assoc]
    exact hlog
  · rw [← List.append_assoc]
    exact htrail

theorem excluded {p : TracingPolicy} {subject : m.Subject} {j : Judgement}
    (hj : j.included = false) (hparent : j.parent = p.propagator.parentIn attached) :
    Hanging attached (Call.step (.judged p subject j)) :=
  fun _ => ⟨[], [.judged p subject j], (List.append_nil _).symm, rfl, .excluded hj hparent⟩

end Hanging

-- ---------------------------------------------------------------------------
-- Trees
-- ---------------------------------------------------------------------------

theorem HandlerOp.audited_hanging (o : HandlerOp m) : Hanging attached o.audited := by
  cases o with
  | span o => exact Call.Rule.spanOp Hanging.rule_panics (Hanging.rule_allowsAll.op o)
  | client o =>
    apply Hanging.bind
    · exact Hanging.of_unchanged fun w => ⟨Mode.recorder_performClient o w.bare, rfl⟩
    · intro answer
      exact Hanging.bind (Hanging.step rfl) fun _ => Hanging.returns answer
  | wait => exact Hanging.of_unchanged fun _ => ⟨rfl, rfl⟩

theorem Handler.audited_hanging (h : Handler m) (subject : m.Subject) :
    Hanging attached (h.audited subject) := by
  apply Hanging.bind (Hanging.step rfl)
  intro _
  have hops : ∀ o : HandlerOp m, True → Hanging attached o.audited := fun o _ => o.audited_hanging
  exact Hanging.run hops (Program.only_of_forall (fun _ => trivial) (h subject))

section Layers

variable {info : m.Info} {inner : Inside m (Watched m)} {subject : m.Subject}

theorem Layer.audited_hanging {layer : Layer m} (hl : layer.KeepsMetadata)
    (hinner : ∀ s, (Mode.contextOf s).metadata = attached → Hanging attached (inner s))
    (hs : (Mode.contextOf subject).metadata = attached) :
    Hanging attached (layer.audited info inner subject) := by
  apply Hanging.bind (Hanging.step rfl)
  intro _
  refine Hanging.run (fun o ho => ?_) (hl info subject)
  cases o with
  | handler o => exact o.audited_hanging
  | next s => exact hinner s (ho.trans hs)

theorem TracingPolicy.within_hanging (p : TracingPolicy) {cx : Context}
    (hinner : Hanging attached (inner (Mode.rebase cx subject))) :
    Hanging attached (p.within cx info inner subject) := by
  have hinner' : (Hanging.rule m attached).Holds (inner (Mode.rebase cx subject))
      (inner (Mode.rebase cx subject)) := hinner
  exact Call.Rule.within p (Hanging.rule_allowsAll.within cx)
    (Hanging.rule_allowsAll.decorate Hanging.rule_panics p) hinner'

/-- A tracing layer hands the metadata on, whether it starts a span or not. -/
theorem TracingPolicy.audited_hanging (p : TracingPolicy)
    (hinner : ∀ s, (Mode.contextOf s).metadata = attached → Hanging attached (inner s))
    (hs : (Mode.contextOf subject).metadata = attached) :
    Hanging attached (p.audited info inner subject) := by
  unfold audited
  simp only [Call.bind_eq, judge_eq, Call.bind_assoc, Call.returns_bind, hs]
  apply Hanging.bind (Hanging.reportParent _ _)
  intro _
  apply Hanging.bind (Call.Rule.asked (R := Hanging.rule m attached) Hanging.rule_panics p _)
  intro included
  cases included with
  | true =>
    rw [if_pos rfl, traced_eq]
    apply Hanging.admitted rfl rfl rfl
    intro span
    apply Hanging.andFinally
    apply p.within_hanging
    apply hinner
    rw [Mode.contextOf_rebase, Judgement.metadata_contextWithin, hs]
  | false =>
    rw [if_neg Bool.false_ne_true]
    apply Hanging.bind (Hanging.excluded rfl rfl)
    intro _
    apply Hanging.settling
    exact Hanging.bind (Hanging.log rfl) fun _ => hinner subject hs

end Layers

theorem Interceptor.audited_hanging {i : Interceptor m} (hi : i.KeepsMetadata) (info : m.Info)
    {inner : Inside m (Watched m)}
    (hinner : ∀ s, (Mode.contextOf s).metadata = attached → Hanging attached (inner s))
    {subject : m.Subject} (hs : (Mode.contextOf subject).metadata = attached) :
    Hanging attached (i.audited info inner subject) := by
  induction i generalizing inner subject with
  | tracing policy delegate ih =>
    cases hi with
    | tracing _ hd =>
      simp only [audited]
      apply policy.audited_hanging _ hs
      intro s hs'
      cases delegate with
      | none => exact hinner s hs'
      | some d => exact ih d rfl (hd d rfl) hinner hs'
  | composite layers ih =>
    cases hi with
    | composite hl =>
      rw [audited_composite]
      let kept (inside : Inside m (Watched m)) : Prop :=
        ∀ s, (Mode.contextOf s).metadata = attached → Hanging attached (inside s)
      refine List.foldrRecOn (motive := kept) layers _ hinner ?_ subject hs
      intro inside hinside layer hmem s hs'
      exact ih layer hmem (hl layer hmem) hinside hs'
  | logging =>
    simp only [audited]
    have hinner' : (Hanging.rule m attached).Holds (inner subject) (inner subject) :=
      hinner subject hs
    exact Call.Rule.logged hinner'
  | custom layer =>
    cases hi with
    | custom hl =>
      simp only [audited]
      exact Layer.audited_hanging hl hinner hs

theorem Interceptor.hangs (i : Interceptor m) (h : Handler m) (info : m.Info)
    (subject : m.Subject) (w : World m.Client) (hi : i.KeepsMetadata)
    (hs : (Mode.contextOf subject).metadata = attached) :
    ∃ es : List Entry,
      (i.intercept info h.serve subject w).2.recorder.log = w.recorder.log ++ es ∧
      SpansHang attached (i.trail h info subject w) es := by
  have hhanging : Hanging attached (i.audited info h.audited subject) :=
    audited_hanging hi info (fun s _ => h.audited_hanging s) hs
  obtain ⟨es, t, hlog, htrail, hhang⟩ := hhanging (w.beside [])
  rw [i.audited_eq h info subject w] at hlog htrail
  obtain rfl : i.trail h info subject w = t := htrail
  exact ⟨es, hlog, hhang⟩

/-- **Parents.** Whatever the tree, the handler, the call and its outcome: with guards about any
parent but the one in the metadata, the call runs as without; the spans that it adds to the log
hang from the parents in the metadata, and none from a span that is started here. It goes on
with the same parents as any other call with that metadata, and within itself. -/
theorem Interceptor.spansHang_intercept (i : Interceptor m) (h : Handler m) (info : m.Info)
    (subject : m.Subject) (w : World m.Client) (hi : i.KeepsMetadata)
    (hs : (Mode.contextOf subject).metadata = attached) :
    (∀ other : Predicate, (i.guarded attached other).intercept info h.serve subject w
      = i.intercept info h.serve subject w) ∧
    (∃ es : List Entry,
      (i.intercept info h.serve subject w).2.recorder.log = w.recorder.log ++ es ∧
      SpansHang attached (i.trail h info subject w) es ∧
      ∀ n s k parent, Entry.started n s ∈ es → s.parent ≠ some (Recorder.contextOf k parent)) ∧
    ∀ (i' : Interceptor m) (h' : Handler m) (info' : m.Info) (subject' : m.Subject)
      (w' : World m.Client), i'.KeepsMetadata → (Mode.contextOf subject').metadata = attached →
        (i.trail h info subject w).SameParents (i'.trail h' info' subject' w') := by
  obtain ⟨es, hlog, hhang⟩ := i.hangs h info subject w hi hs
  refine ⟨?_, ⟨es, hlog, hhang, ?_⟩, ?_⟩
  · intro other
    rw [intercept_guarded hi other info (fun _ _ => rfl) hs]
  · intro n s k parent hstarted
    exact hhang.parent_ne hstarted k parent
  · intro i' h' info' subject' w' hi' hs'
    obtain ⟨es', -, hhang'⟩ := i'.hangs h' info' subject' w' hi' hs'
    exact hhang.sameParents hhang'

/-- A request that comes with the trace of a first hop, in a context in which a span of a second
hop is active, and in which metadata with that one's trace was attached before. -/
def UnaryRequest.forwarded : UnaryRequest :=
  ⟨((Context.empty.withRemote Propagator.secondHop).withMetadata
      (Propagator.passedOn ∅)).withMetadata Propagator.sentMetadata, ⟨.unit, .unit⟩⟩

theorem Propagator.parentIn_sentMetadata :
    standard.parentIn (some sentMetadata) = some firstHop.received := by
  have hextract : extractParent (Context.empty.withMetadata sentMetadata) standard
      = .ok firstHop.received := by
    rw [sentMetadata, extractParent_of_injected injectable_firstHop rfl rfl, Metadata.firstText,
      Metadata.firstText, if_pos (Metadata.values_empty _), if_pos (Metadata.values_empty _),
      TraceParent.decode?_encoded injectable_firstHop.valid]
    rfl
  have hparent := toOption_extract (Context.empty.withMetadata sentMetadata) standard
  rw [extractParent] at hextract
  rw [hextract] at hparent
  exact hparent.symm

theorem Interceptor.spansHang_forwarded :
    retraced.KeepsMetadata ∧
      (Mode.contextOf (m := .unary) .forwarded).metadata = some Propagator.sentMetadata ∧
      Propagator.standard.parentIn (some Propagator.sentMetadata)
        = some Propagator.firstHop.received ∧
      ∃ es : List Entry,
        (retraced.intercept ⟨"/shop/Buy"⟩ Handler.renaming.serve .forwarded .fresh).2.recorder.log
          = World.fresh.recorder.log ++ es ∧
        SpansHang (some Propagator.sentMetadata)
          (retraced.trail Handler.renaming ⟨"/shop/Buy"⟩ .forwarded .fresh) es := by
  refine ⟨retraced_keepsMetadata, rfl, Propagator.parentIn_sentMetadata, ?_⟩
  obtain ⟨es, hlog, hhang, -⟩ :=
    (spansHang_intercept retraced Handler.renaming ⟨"/shop/Buy"⟩ .forwarded .fresh
      retraced_keepsMetadata rfl).2.1
  exact ⟨es, hlog, hhang⟩

end CallSpan
