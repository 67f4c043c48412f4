import CallSpan.Proofs.ParentOutcome

/-!
# Calls without trace fields

A call whose metadata has neither trace field is the root of a new trace, and its parent ought to
be one that is not found. Which of the two errors there is, though, is told by *all* fields of a
propagator. So if a propagator carries baggage and the call has any, its parent is called
**malformed** in the baggage field, as often as the propagator has a part for it, and every tracing
layer tells operators so. The field need not have anything wrong with it: it may have been read,
and its entries may be on their way to the handler.

In all other respects the call is a root, and a call without baggage, or with a propagator that
carries none, has a parent that is not found.

Main result:

* `Interceptor.intercept_untraced` — the error of a call without trace fields, and what each
  tracing layer says of it.
-/

namespace CallSpan

/-- Metadata without entries under the fields of a trace. -/
structure Metadata.Untraced (m : Metadata) : Prop where
  parent : m.octetsUnder TraceParent.parentField = []
  state : m.octetsUnder TraceParent.stateField = []

/-- The error for a call without trace fields: what there is of baggage counts against it. -/
def ExtractError.untraced (p : Propagator) (m : Metadata) : ExtractError :=
  if .baggage ∈ p ∧ m.octetsUnder BaggageHeader.field ≠ [] then
    .malformed (List.replicate (p.count .baggage) BaggageHeader.field)
  else .notFound

namespace Propagator

variable {m : Metadata} {cx : Context}

-- ---------------------------------------------------------------------------
-- Decoding
-- ---------------------------------------------------------------------------

/-- No part finds a span where there are no trace fields. -/
theorem Part.spanContext?_decode (h : m.Untraced) (part : Part) :
    (part.decode m cx).spanContext? = cx.spanContext? := by
  cases part with
  | traceContext =>
    have hread : ∀ field, m.octetsUnder field = [] → namesBinary field = false →
        m.get? field = none := by
      intro field hfield htext
      rw [Metadata.get?_eq_head? htext, hfield]
      rfl
    have hdecode : TraceParent.decode? none none = none := rfl
    simp only [decode, hread _ h.parent rfl, hread _ h.state rfl, hdecode]
  | baggage =>
    simp only [decode]
    split <;> rfl

theorem spanContext?_decode (h : m.Untraced) (p : Propagator) :
    (p.decode m cx).spanContext? = cx.spanContext? := by
  induction p generalizing cx with
  | nil => rfl
  | cons part parts ih =>
    have hparts : decode (part :: parts) m cx = decode parts m (part.decode m cx) := rfl
    rw [hparts, ih, Part.spanContext?_decode h]

-- ---------------------------------------------------------------------------
-- Fields
-- ---------------------------------------------------------------------------

/-- The fields with entries: the baggage field, once for each of its parts. -/
theorem entered_untraced (h : m.Untraced) (p : Propagator) :
    p.entered m = if m.octetsUnder BaggageHeader.field = [] then []
      else List.replicate (p.count .baggage) BaggageHeader.field := by
  induction p with
  | nil =>
    rw [List.count_nil, List.replicate_zero, ite_self]
    rfl
  | cons part parts ih =>
    have hparts : entered (part :: parts) m
        = part.fields.filter (fun field => m.octetsUnder field ≠ []) ++ entered parts m :=
      List.filter_append _ _
    rw [hparts, ih]
    cases part with
    | traceContext =>
      have hnone : (Part.traceContext.fields).filter (fun field => m.octetsUnder field ≠ [])
          = [] := by
        rw [Part.fields, List.filter_cons_of_neg (by simp [h.parent]),
          List.filter_cons_of_neg (by simp [h.state]), List.filter_nil]
      rw [hnone, List.nil_append, List.count_cons_of_ne (by decide)]
    | baggage =>
      rw [Part.fields, List.count_cons_self, List.replicate_succ]
      by_cases hbaggage : m.octetsUnder BaggageHeader.field = []
      · rw [if_pos hbaggage, if_pos hbaggage, List.filter_cons_of_neg (by simp [hbaggage])]
        rfl
      · rw [if_neg hbaggage, if_neg hbaggage, List.filter_cons_of_pos (by simp [hbaggage])]
        rfl

theorem classify_untraced (h : m.Untraced) (p : Propagator) :
    ExtractError.classify m p = .untraced p m := by
  have hentered := entered_untraced h p
  unfold ExtractError.untraced
  by_cases hbaggage : m.octetsUnder BaggageHeader.field = []
  · rw [if_neg fun h => h.2 hbaggage]
    rw [if_pos hbaggage] at hentered
    exact ExtractError.classify_eq_notFound_iff.mpr hentered
  · rw [if_neg hbaggage] at hentered
    by_cases hpart : Part.baggage ∈ p
    · rw [if_pos ⟨hpart, hbaggage⟩]
      refine ExtractError.classify_eq_malformed_iff.mpr ⟨?_, hentered.symm⟩
      rw [ne_eq, List.replicate_eq_nil_iff]
      exact Nat.ne_of_gt (List.count_pos_iff.mpr hpart)
    · rw [if_neg fun h => hpart h.1]
      rw [List.count_eq_zero.mpr hpart, List.replicate_zero] at hentered
      exact ExtractError.classify_eq_notFound_iff.mpr hentered

end Propagator

-- ---------------------------------------------------------------------------
-- The error, and the report
-- ---------------------------------------------------------------------------

theorem parent_extract_untraced {cx : Context} (h : (cx.metadata.getD ∅).Untraced)
    (p : Propagator) : (extract cx p).parent = .error (.untraced p (cx.metadata.getD ∅)) := by
  refine parent_extract_eq_error_iff.mpr ⟨fun sc hsc => ?_, Propagator.classify_untraced h p⟩
  have hspan := (parent_extract_eq_ok_iff.mp hsc).1
  rw [decoded_extract, Propagator.spanContext?_decode h] at hspan
  exact nomatch hspan

/-- **Untraced calls.** Whatever the options, the delegate, the layers behind it, the handler, the
call and the world: a call whose metadata has no trace fields has no parent. A tracing layer that
is reached by it proceeds as for a root, and the call is malformed, and reported so, exactly when
the propagator carries baggage and there is an entry under the baggage field, whatever that says;
otherwise its parent is not found, and the layer makes no report at debug level. -/
theorem Interceptor.intercept_untraced {m : Mode} (p : TracingPolicy)
    (delegate : Option (Interceptor m)) (rest : List (Interceptor m)) (h : Handler m)
    (info : m.Info) (subject : m.Subject) (w : World m.Client)
    (huntraced : ((Mode.contextOf subject).metadata.getD ∅).Untraced) :
    let md := (Mode.contextOf subject).metadata.getD ∅
    let x := extract (Mode.contextOf subject) p.propagator
    let inner := through delegate info ((composite rest).intercept info h.serve)
    let run := (composite (tracing p delegate :: rest)).intercept info h.serve subject w
    extractParent (Mode.contextOf subject) p.propagator = .error (.untraced p.propagator md) ∧
    run = p.proceed x.decoded none info inner subject (w.after (x.reported (Mode.methodOf info))) ∧
    ∃ before within after, w.AddsAround inner run.2 before within after ∧
      (before ++ after).filter Entry.isDebug
        = if .baggage ∈ p.propagator ∧ md.octetsUnder BaggageHeader.field ≠ [] then
            [.reported ⟨.debug,
              [("error", "malformed span context in gRPC metadata (fields: "
                  ++ ",".intercalate (List.replicate (p.propagator.count .baggage) "baggage")
                  ++ ")"),
                ("message", "ignoring undecodable parent span context"),
                ("method", Mode.methodOf info)]⟩]
          else [] := by
  intro md x inner run
  have hparent : x.parent = .error (.untraced p.propagator md) :=
    parent_extract_untraced huntraced p.propagator
  obtain ⟨hrun, before, within, after, hadds, htold⟩ :=
    intercept_tracing_cons p delegate rest h info subject w
  refine ⟨hparent, ?_, before, within, after, hadds, ?_⟩
  · have hnone : x.parent.toOption = none := congrArg Except.toOption hparent
    rw [← hnone]
    exact hrun
  · rw [htold.debug, Extraction.reported, hparent, ExtractError.untraced]
    by_cases hbaggage : .baggage ∈ p.propagator ∧ md.octetsUnder BaggageHeader.field ≠ []
    · rw [if_pos hbaggage, if_pos hbaggage]
      rfl
    · rw [if_neg hbaggage, if_neg hbaggage]

/-- A request without trace fields, in whose metadata a tenant is told. -/
def UnaryRequest.tenanted : UnaryRequest :=
  ⟨Context.empty.withMetadata (Metadata.empty.put "baggage" "tenant=acme"), ⟨.unit, .unit⟩⟩

theorem Metadata.untraced_tenanted :
    (UnaryRequest.tenanted.context.metadata.getD ∅).Untraced := by
  constructor <;> decide

theorem Interceptor.intercept_untraced_tenanted :
    let p := TracingPolicy.closed
    let md := UnaryRequest.tenanted.context.metadata.getD ∅
    let x := extract UnaryRequest.tenanted.context p.propagator
    let inner : Continuation .unary :=
      through (some .retraced) ⟨"/shop/Buy"⟩
        ((composite [.logging]).intercept ⟨"/shop/Buy"⟩ Handler.renaming.serve)
    let run := (composite [tracing p (some .retraced), .logging]).intercept ⟨"/shop/Buy"⟩
      Handler.renaming.serve .tenanted .fresh
    md.Untraced ∧
    extractParent UnaryRequest.tenanted.context p.propagator = .error (.untraced p.propagator md) ∧
    run = p.proceed (m := .unary) x.decoded none ⟨"/shop/Buy"⟩ inner .tenanted
      (World.fresh.after (x.reported "/shop/Buy")) ∧
    ∃ before within after, World.fresh.AddsAround inner run.2 before within after ∧
      (before ++ after).filter Entry.isDebug
        = if .baggage ∈ p.propagator ∧ md.octetsUnder BaggageHeader.field ≠ [] then
            [.reported ⟨.debug,
              [("error", "malformed span context in gRPC metadata (fields: "
                  ++ ",".intercalate (List.replicate (p.propagator.count .baggage) "baggage")
                  ++ ")"),
                ("message", "ignoring undecodable parent span context"),
                ("method", "/shop/Buy")]⟩]
          else [] :=
  ⟨Metadata.untraced_tenanted,
    intercept_untraced .closed (some .retraced) [.logging] .renaming ⟨"/shop/Buy"⟩ .tenanted .fresh
      Metadata.untraced_tenanted⟩

/-- Baggage that was read, and has an entry, makes a call without trace fields malformed. -/
theorem extractParent_ne_notFound : ¬ ∀ (cx : Context) (p : Propagator),
    (cx.metadata.getD ∅).Untraced →
    ((cx.metadata.getD ∅).octetsUnder BaggageHeader.field = [] ∨
      ∃ s, (cx.metadata.getD ∅).get? BaggageHeader.field = some s ∧
        (BaggageHeader.decode s).entries ≠ []) →
    extractParent cx p = .error .notFound := by
  intro h
  have hentries : (BaggageHeader.decode "tenant=acme").entries = [⟨"tenant", "acme", ""⟩] := rfl
  have hread : ∃ s, (UnaryRequest.tenanted.context.metadata.getD ∅).get? BaggageHeader.field
      = some s ∧ (BaggageHeader.decode s).entries ≠ [] := by
    refine ⟨"tenant=acme", rfl, ?_⟩
    rw [hentries]
    exact List.cons_ne_nil _ _
  have hparent : extractParent UnaryRequest.tenanted.context [.traceContext, .baggage]
      = .error (.malformed ["baggage"]) := rfl
  have hnone := h _ [.traceContext, .baggage] Metadata.untraced_tenanted (Or.inr hread)
  rw [hparent] at hnone
  exact nomatch hnone

end CallSpan
