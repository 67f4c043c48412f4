import CallSpan.Proofs.Growth
import CallSpan.Proofs.Injection

/-!
# A trace continues across the wire

A span context that is injected into metadata without trace fields is the parent that the
other side goes on with. It is what is extracted from any context that the metadata is
attached to, whatever else that context holds; it is what a tracing layer shows to its
predicate; and a call that is included starts its span as a child of it, in its trace.

Main result:

* `TraceContinues.of_inject` — for every span context that can be injected.
-/

namespace CallSpan

open TraceParent Propagator Text

/-- Calls with the context `cx` carry `sc` on. -/
structure TraceContinues (sc : SpanContext) (cx : Context) : Prop where
  extracted : extractParent cx .standard = .ok sc.received
  /-- A tracing layer asks its predicate about it, first of all, and goes on with it. -/
  asked : ∀ {m : Mode} (p : TracingPolicy) (delegate : Option (Interceptor m)) (info : m.Info)
    (inner : Continuation m) (subject : m.Subject), p.propagator = .standard →
      Mode.contextOf subject = cx →
      (Interceptor.tracing p delegate).intercept info inner subject
        = ((p.includes ⟨some sc.received, Mode.methodOf info, Mode.request? subject, none⟩).run
            HookOp.perform).bind fun included =>
              if included then
                p.traced ⟨(extract cx .standard).decoded, some sc.received, included⟩ info
                  (Interceptor.through delegate info inner) subject
              else TracingPolicy.bypassed info (Interceptor.through delegate info inner) subject
  /-- An included call starts its span with it, before anything else, and in its trace. -/
  started : ∀ {m : Mode} (p : TracingPolicy) (delegate : Option (Interceptor m)) (h : Handler m)
    (info : m.Info) (subject : m.Subject) (w w₁ : World m.Client), p.propagator = .standard →
      Mode.contextOf subject = cx →
      (p.includes ⟨some sc.received, Mode.methodOf info, Mode.request? subject, none⟩).run
        HookOp.perform w = (.returned true, w₁) →
      (w₁.recorder.start ⟨Mode.methodOf info, true, serverTags, some sc.received⟩).1.context.traceId
          = sc.traceId ∧
        ∃ later : List Entry,
          ((Interceptor.tracing p delegate).intercept info h.serve subject w).2.recorder.log
            = w₁.recorder.log ++ .started (w₁.recorder.spans + 1)
                ⟨Mode.methodOf info, true, serverTags, some sc.received⟩ :: later

namespace TraceContinues

variable {m : Mode} {sc : SpanContext} {cx : Context}

/-- What a predicate is asked depends on what is extracted alone. -/
theorem judge_of_extracted (hextract : extractParent cx .standard = .ok sc) {p : TracingPolicy}
    (hp : p.propagator = .standard) (info : m.Info) {subject : m.Subject}
    (hcx : Mode.contextOf subject = cx) :
    p.judge (σ := m.Client) info subject
      = ((p.includes ⟨some sc, Mode.methodOf info, Mode.request? subject, none⟩).run
          HookOp.perform).bind fun included =>
            .returns ⟨(extract cx .standard).decoded, some sc, included⟩ := by
  have hparent : (extract cx .standard).parent = .ok sc := hextract
  unfold TracingPolicy.judge
  simp only [hp, hcx, hparent, adoptParent, Call.bind_eq]
  rfl

/-- A traced call begins with the start of its span, and keeps it in the log. -/
theorem log_traced (p : TracingPolicy) (j : Judgement) (info : m.Info) {inner : Continuation m}
    (hinner : ∀ s, Call.Grows (inner s)) (subject : m.Subject) (w : World m.Client) :
    ∃ later, (p.traced j info inner subject w).2.recorder.log
      = w.recorder.log ++ .started (w.recorder.spans + 1)
          ⟨Mode.methodOf info, true, serverTags, j.parent⟩ :: later := by
  let s : SpanStart := ⟨Mode.methodOf info, true, serverTags, j.parent⟩
  let w₁ : World m.Client := { w with recorder := (w.recorder.start s).2 }
  let within := (withIncomingBaggage (Mode.contextOf subject) j.decoded).withSpan
    (w.recorder.start s).1
  have hrun : p.traced j info inner subject w
      = ((p.within within info inner subject).andFinally (·.act .layer within .finish)) w₁ := rfl
  have hgrows : Call.Grows (p.within within info inner subject) :=
    p.within_grows hinner within subject
  obtain ⟨later, hlater⟩ := hgrows.andFinally .layer within .finish w₁
  refine ⟨later, ?_⟩
  rw [hrun, ← hlater]
  show (w.recorder.log ++ [.started (w.recorder.spans + 1) s]) ++ later = _
  rw [List.append_assoc, List.singleton_append]

/-- A trace continues in every context from which its span context is extracted. -/
theorem of_extracted (hextract : extractParent cx .standard = .ok sc.received) :
    TraceContinues sc cx := by
  have hasked : ∀ {m : Mode} (p : TracingPolicy) (delegate : Option (Interceptor m))
      (info : m.Info) (inner : Continuation m) (subject : m.Subject),
      p.propagator = .standard → Mode.contextOf subject = cx →
      (Interceptor.tracing p delegate).intercept info inner subject
        = ((p.includes ⟨some sc.received, Mode.methodOf info, Mode.request? subject, none⟩).run
            HookOp.perform).bind fun included =>
              if included then
                p.traced ⟨(extract cx .standard).decoded, some sc.received, included⟩ info
                  (Interceptor.through delegate info inner) subject
              else TracingPolicy.bypassed info (Interceptor.through delegate info inner) subject := by
    intro m p delegate info inner subject hp hcx
    simp only [Interceptor.intercept, TracingPolicy.around, Call.bind_eq,
      judge_of_extracted hextract hp info hcx, Call.bind_assoc, Call.returns_bind]
  refine ⟨hextract, hasked, ?_⟩
  intro m p delegate h info subject w w₁ hp hcx hincluded
  have hinner : ∀ s, Call.Grows (Interceptor.through delegate info h.serve s) := by
    intro s
    cases delegate with
    | none => exact h.serve_grows s
    | some d => exact d.intercept_grows info h.serve_grows s
  refine ⟨rfl, ?_⟩
  rw [hasked p delegate info h.serve subject hp hcx, Call.bind, hincluded]
  exact log_traced p ⟨(extract cx .standard).decoded, some sc.received, true⟩ info hinner subject w₁

/-- **The trace continues.** Inject a span context into metadata without trace fields, and
attach that to whatever context: calls there carry the span context on. The metadata has all
its entries as before, and the two fields behind them. -/
theorem of_inject {md : Metadata} (hsc : Injectable sc) (hcx : cx.spanContext? = some sc)
    (hparent : md.values parentKey = []) (hstate : md.values stateKey = []) :
    (∀ base : Context, TraceContinues sc (base.withMetadata (inject .standard cx md))) ∧
      (∀ attached : Option Context,
        TraceContinues sc (.ofRequest attached (inject .standard cx md))) ∧
      (inject .standard cx md).entries
        = md.entries
          ++ [(parentKey, utf8 (parentText sc)), (stateKey, utf8 sc.state.text)] := by
  have hextract : ∀ cx' : Context, cx'.metadata = some (inject .standard cx md) →
      extractParent cx' .standard = .ok sc.received := by
    intro cx' h
    rw [extractParent_of_injected hsc hcx h, Metadata.firstText, Metadata.firstText,
      if_pos hparent, if_pos hstate, decode?_encoded hsc.valid]
    rfl
  refine ⟨?_, ?_, ?_⟩
  · intro base
    exact of_extracted (hextract _ rfl)
  · intro attached
    exact of_extracted (hextract _ rfl)
  · have hstate' : (md.append parentKey (utf8 (parentText sc))).values stateKey = [] := by
      rw [Metadata.values_append, hstate, if_neg parentKey_ne_stateKey, List.append_nil]
    rw [inject_standard hsc hcx, Metadata.put_text isBinary_stateKey hsc.visible,
      Metadata.put_text isBinary_parentKey (isVisible_parentText sc),
      Metadata.entries_append hstate', Metadata.entries_append hparent, List.append_assoc]
    rfl

/-- A sampled span with another flag, and a trace state. -/
def vendorSpan : SpanContext := ⟨0xABC, 0xDEF, 3, false, ⟨[("vendor", "a b")], by decide⟩⟩

def userMetadata : Metadata := (∅ : Metadata).append ⟨"user", by decide⟩ [55]

theorem of_inject_vendorSpan :
    Injectable vendorSpan ∧ (Context.empty.withRemote vendorSpan).spanContext? = some vendorSpan ∧
      userMetadata.values parentKey = [] ∧ userMetadata.values stateKey = [] ∧
      TraceContinues vendorSpan
        (Context.empty.withMetadata
          (inject .standard (Context.empty.withRemote vendorSpan) userMetadata)) := by
  have hsc : Injectable vendorSpan := ⟨rfl, List.all_eq_true.mp rfl⟩
  exact ⟨hsc, rfl, rfl, rfl, (of_inject hsc rfl rfl rfl).1 Context.empty⟩

end TraceContinues

end CallSpan
