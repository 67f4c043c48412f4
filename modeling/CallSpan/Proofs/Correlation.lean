import CallSpan.Proofs.Growth
import CallSpan.Proofs.Verdicts

/-!
# Which trace a log line names

A logging layer reports how the call within it ended, with the trace of the span that is active
in the context that it was reached with. Which span that is depends on what stands above it: on
which tracing layers admitted the call, and on whether a layer of the users' put another span in
the place of the active one. A **scope** says it: the call has its own context, or that of the
innermost layer which admitted it, or one of a user's choosing.

No log tells which logging layers were reached. So there is the **tour** of a tree, the same run
with a list beside it, in which each layer knows the scope that it is reached in, and each logging
layer leaves a **visit**, whatever came of the call within it. It does as the tree does
(`Interceptor.toured_shadows`). What carries the rest is one invariant of a scope and a context,
`Scope.Explains`: a layer is never reached in a scope that does not explain the active span of its
context. The span of a layer that admitted the call is in the log by then, with the parent that it
was started from.

Main results:

* `Visit.readOff` — trace and code can be read off a log line.
* `Interceptor.intercept_correlates` — the log lines of a call are those of the visits that
  returned, one for each, and the trace that each names is as the scope of its visit says.
-/

namespace CallSpan

variable {m : Mode} {σ α β : Type}

-- ---------------------------------------------------------------------------
-- Scopes and visits
-- ---------------------------------------------------------------------------

/-- Where the active span of a context comes from. -/
inductive Scope (m : Mode) where
  /-- From without: no tracing layer above has admitted the call. -/
  | outside
  /-- From the innermost tracing layer above that admitted the call: its policy, the call as it
  reached that layer, and the context that the layer handed on. -/
  | within (policy : TracingPolicy) (subject : m.Subject) (opened : Context)
  /-- From a layer of the users' that handed on this context. -/
  | replaced (handed : Context)

/-- The scope of what a layer of the users' hands on: its own, unless another span is active. -/
def Scope.next (scope : Scope m) (subject handed : m.Subject) : Scope m :=
  if (Mode.contextOf handed).span = (Mode.contextOf subject).span then scope
  else .replaced (Mode.contextOf handed)

/-- A trace as log lines name it: its thirty-two hexadecimal digits, the highest first. -/
def TraceId.hex (id : TraceId) : String :=
  String.ofList ((List.range 32).map fun i =>
    "0123456789abcdef".toList.getD (id.toNat >>> (4 * (31 - i)) % 16) '0')

/-- A call of a logging layer. -/
structure Visit (m : Mode) where
  scope : Scope m
  /-- What the layer was reached with. -/
  subject : m.Subject
  /-- The log when it was reached. -/
  before : List Entry
  /-- How the call within it ended. -/
  outcome : Outcome (Result m.Reply)
  /-- The log when that had ended. -/
  after : List Entry

namespace Visit

/-- The trace of the span that is active in the context of a visit, zero if there is none. -/
def traceId (v : Visit m) : TraceId := (Mode.contextOf v.subject).traceId

/-- The report of a visit: of a call that returned, and of no other. -/
def event? (info : m.Info) (v : Visit m) : Option Report :=
  match v.outcome with
  | .returned (.ok _) => some ⟨.info,
      [("elapsed_ms", "*"), ("message", "gRPC call completed"),
        ("method", Mode.methodOf info), ("trace_id", v.traceId.hex)]⟩
  | .returned (.error status) => some ⟨.warn,
      [("code", status.code.name), ("elapsed_ms", "*"), ("message", status.message),
        ("message", "gRPC call failed"), ("method", Mode.methodOf info),
        ("trace_id", v.traceId.hex)]⟩
  | .panicked _ | .cancelled => none

end Visit

-- ---------------------------------------------------------------------------
-- What stands in a log line
-- ---------------------------------------------------------------------------

/-- What the logging layer writes are the digits of the trace. -/
theorem traceIdText_eq (id : TraceId) : traceIdText id = id.hex := by
  have hdigits : ∀ i ∈ List.range 32,
      Text.Hex.lowerDigit (id.toNat >>> (4 * (32 - 1 - i)) % 16)
        = "0123456789abcdef".toList.getD (id.toNat >>> (4 * (31 - i)) % 16) '0' :=
    fun _ _ => Text.Hex.lowerDigit_eq _ (Nat.mod_lt _ (by decide))
  rw [traceIdText, TraceId.hex, Text.Hex.digits_eq_map, List.map_congr_left hdigits]

/-- What the logging layer reports of a call that returned is the report of the visit. -/
theorem Visit.event?_of_returned {v : Visit m} {result : Result m.Reply}
    (h : v.outcome = .returned result) (info : m.Info) :
    v.event? info
      = some (outcomeReport (Mode.methodOf info) v.traceId (errorOf result)) := by
  rw [event?, h]
  cases result with
  | ok reply => rw [errorOf, outcomeReport, traceIdText_eq]
  | error status => rw [errorOf, outcomeReport, traceIdText_eq]

/-- A trace can be read back as that of a header, so no two are named alike. -/
theorem TraceId.readId?_hex (id : TraceId) :
    TraceParent.readId? 128 id.hex.toList = some id.toNat := by
  rw [← traceIdText_eq, traceIdText, String.toList_ofList]
  exact TraceParent.readId?_digits (by decide) (by decide) id.isLt

theorem TraceId.hex_zero : (0 : TraceId).hex = "00000000000000000000000000000000" := by
  decide

/-- What can be read off the report of a visit. -/
structure Visit.ReadOff (v : Visit m) (r : Report) : Prop where
  trace : ∃ text, ("trace_id", text) ∈ r.fields ∧
    TraceParent.readId? 128 text.toList = some v.traceId.toNat
  /-- Of a failure it names the code, and no other code has that name. -/
  code : ∀ status, v.outcome = .returned (.error status) →
    ∃ name, ("code", name) ∈ r.fields ∧ ∀ c : Code, c.name = name ↔ c = status.code

/-- The report of a visit tells the trace, and of a failure the code. -/
theorem Visit.readOff {v : Visit m} {info : m.Info} {r : Report} (h : v.event? info = some r) :
    v.ReadOff r := by
  unfold event? at h
  split at h
  · rename_i houtcome
    obtain rfl := Option.some.inj h
    refine ⟨⟨v.traceId.hex, by simp, v.traceId.readId?_hex⟩, fun status hstatus => ?_⟩
    rw [houtcome] at hstatus
    cases hstatus
  · rename_i status houtcome
    obtain rfl := Option.some.inj h
    refine ⟨⟨v.traceId.hex, by simp, v.traceId.readId?_hex⟩, fun status' hstatus => ?_⟩
    rw [houtcome] at hstatus
    obtain rfl := Except.error.inj (Outcome.returned.inj hstatus)
    exact ⟨status.code.name, by simp, fun _ => ⟨Code.name_injective, congrArg Code.name⟩⟩
  · cases h
  · cases h

-- ---------------------------------------------------------------------------
-- Tours
-- ---------------------------------------------------------------------------

/-- What a tour shares with the client, and the visits beside it. -/
abbrev Toured (m : Mode) := m.Client × List (Visit m)

/-- What lies within a layer, in the scope in which the layer calls on. -/
abbrev TouredInside (m : Mode) := Scope m → Inside m (Toured m)

/-- Adds a visit when the call within has ended, whatever the outcome. -/
def visiting (scope : Scope m) (inner : Inside m (Toured m)) : Inside m (Toured m) :=
  fun subject w =>
    let (outcome, w') := inner subject w
    let visit : Visit m := ⟨scope, subject, w.recorder.log, outcome, w'.recorder.log⟩
    (outcome, w'.bare.beside (w'.client.2 ++ [visit]))

def LayerOp.toured (inner : TouredInside m) (scope : Scope m) (subject : m.Subject) :
    (o : LayerOp m) → Call (Toured m) o.Answer
  | handler o => o.perform.unwatched
  | .next handed => inner (scope.next subject handed) handed

def Handler.toured (h : Handler m) : TouredInside m := fun _ subject =>
  (h.serve subject).unwatched

/-- A tracing layer that admits a call opens a scope of its own: that of the context which it
hands on. -/
def TracingPolicy.toured (p : TracingPolicy) (info : m.Info) (inner : TouredInside m) :
    TouredInside m := fun scope subject => do
  let j ← p.judge info subject
  if j.included then
    p.traced j info (fun s => inner (.within p subject (Mode.contextOf s)) s) subject
  else TracingPolicy.bypassed info (inner scope) subject

namespace Interceptor

mutual

/-- A tour of an interceptor. -/
def toured : Interceptor m → m.Info → TouredInside m → TouredInside m
  | tracing policy delegate => fun info inner =>
    policy.toured info (touredThrough delegate info inner)
  | composite layers => fun info inner =>
    (touredAll layers).foldr (fun layer inside => layer info inside) inner
  | logging => fun info inner scope => loggedAround info (visiting scope (inner scope))
  | custom layer => fun info inner scope subject =>
    (layer info subject).run (LayerOp.toured inner scope subject)

def touredThrough : Option (Interceptor m) → m.Info → TouredInside m → TouredInside m
  | none => fun _ inner => inner
  | some delegate => delegate.toured

def touredAll : List (Interceptor m) → List (m.Info → TouredInside m → TouredInside m)
  | [] => []
  | layer :: layers => layer.toured :: touredAll layers

end

theorem touredAll_eq_map (layers : List (Interceptor m)) :
    touredAll layers = layers.map toured := by
  induction layers with
  | nil => rfl
  | cons layer layers ih => simp [touredAll, ih]

theorem toured_composite (layers : List (Interceptor m)) (info : m.Info)
    (inner : TouredInside m) :
    (composite layers).toured info inner
      = layers.foldr (fun layer inside => layer.toured info inside) inner := by
  simp only [toured, touredAll_eq_map, List.foldr_map]

/-- The visits of a call, in the order in which they ended. -/
def visits (i : Interceptor m) (h : Handler m) (info : m.Info) (subject : m.Subject)
    (w : World m.Client) : List (Visit m) :=
  (i.toured info h.toured .outside subject (w.beside [])).2.client.2

end Interceptor

-- ---------------------------------------------------------------------------
-- Scopes make no difference
-- ---------------------------------------------------------------------------

open Call (Shadows)

theorem TracingPolicy.toured_shadows (p : TracingPolicy) {info : m.Info} {inner : TouredInside m}
    {inner' : Continuation m} (h : ∀ scope s, Shadows (inner scope s) (inner' s))
    (scope : Scope m) (subject : m.Subject) :
    Shadows (p.toured info inner scope subject) (p.around info inner' subject) := by
  unfold toured around
  apply Shadows.bind (p.judge_shadows info subject)
  intro j
  split
  · exact p.traced_shadows j (fun s => h _ s) subject
  · exact Call.Rule.bypassed (R := Shadows.rule _ _) (h scope subject)

/-- A tour of a tree acts as the tree, around whatever acts alike in all scopes. -/
theorem Interceptor.toured_shadows (i : Interceptor m) (info : m.Info) {inner : TouredInside m}
    {inner' : Continuation m} (h : ∀ scope s, Shadows (inner scope s) (inner' s))
    (scope : Scope m) (subject : m.Subject) :
    Shadows (i.toured info inner scope subject) (i.intercept info inner' subject) := by
  induction i generalizing inner inner' scope subject with
  | tracing policy delegate ih =>
    simp only [toured, intercept]
    cases delegate with
    | none => exact policy.toured_shadows h scope subject
    | some d => exact policy.toured_shadows (fun scope s => ih d rfl h scope s) scope subject
  | composite layers ih =>
    rw [toured_composite, intercept_composite]
    let related (inside : TouredInside m) (inside' : Continuation m) : Prop :=
      ∀ scope s, Shadows (inside scope s) (inside' s)
    refine List.foldr_rel (r := related) h ?_ scope subject
    intro layer hmem inside inside' hinside scope s
    exact ih layer hmem hinside scope s
  | logging =>
    simp only [toured, intercept]
    have hvisiting : Shadows (visiting scope (inner scope) subject) (inner' subject) :=
      fun w => h scope subject w
    exact Call.Rule.logged (R := Shadows.rule _ _) hvisiting
  | custom layer =>
    simp only [toured, intercept]
    refine Shadows.run (fun o => ?_) (layer info subject)
    cases o with
    | handler o => exact Shadows.unwatched _
    | next handed => exact h _ handed

/-- A tour is the run, with the visits beside it. -/
theorem Interceptor.toured_eq (i : Interceptor m) (h : Handler m) (info : m.Info)
    (subject : m.Subject) (w : World m.Client) :
    i.toured info h.toured .outside subject (w.beside [])
      = ((i.intercept info h.serve subject w).1,
          (i.intercept info h.serve subject w).2.beside (i.visits h info subject w)) := by
  have hhandler : ∀ scope s, Shadows (h.toured scope s) (h.serve s) :=
    fun _ s => Shadows.unwatched (h.serve s)
  have hrun := i.toured_shadows info hhandler .outside subject (w.beside [])
  rw [World.bare_beside] at hrun
  rw [← hrun, visits, World.beside_bare]

-- ---------------------------------------------------------------------------
-- What a scope explains
-- ---------------------------------------------------------------------------

/-- The start of the span of a tracing layer, for a call as it reached the layer. -/
def TracingPolicy.spanStart (p : TracingPolicy) (info : m.Info) (subject : m.Subject) :
    SpanStart :=
  ⟨Mode.methodOf info, true, serverTags,
    p.propagator.parentIn (Mode.contextOf subject).metadata⟩

/-- A context handed on by a tracing layer that admitted a call: the span that is active in it is
in the log, as that of the layer. -/
def TracingPolicy.Opens (p : TracingPolicy) (info : m.Info) (subject : m.Subject)
    (opened : Context) (log : List Entry) : Prop :=
  ∃ n, .started n (p.spanStart info subject) ∈ log ∧
    opened.span = some (.started n (Recorder.contextOf n (p.spanStart info subject).parent))

/-- The scope tells where the active span of a context comes from. -/
def Scope.Explains (scope : Scope m) (base : Context) (info : m.Info) (cx : Context)
    (log : List Entry) : Prop :=
  match scope with
  | outside => cx.span = base.span
  | within p subject opened => cx.span = opened.span ∧ p.Opens info subject opened log
  | replaced handed => cx.span = handed.span

namespace Scope.Explains

variable {scope : Scope m} {base cx : Context} {info : m.Info} {log log' : List Entry}

theorem mono (h : scope.Explains base info cx log) (hlog : log <+: log') :
    scope.Explains base info cx log' := by
  cases scope with
  | outside => exact h
  | within p subject opened =>
    obtain ⟨hspan, n, hstarted, hopened⟩ := h
    exact ⟨hspan, n, hlog.subset hstarted, hopened⟩
  | replaced handed => exact h

/-- Whatever a layer of the users' hands on, the scope of it explains it. -/
theorem next {subject handed : m.Subject}
    (h : scope.Explains base info (Mode.contextOf subject) log) :
    (scope.next subject handed).Explains base info (Mode.contextOf handed) log := by
  unfold Scope.next
  split
  · rename_i hspan
    cases scope with
    | outside => exact hspan.trans h
    | within p reached opened => exact ⟨hspan.trans h.1, h.2⟩
    | replaced cx => exact hspan.trans h
  · exact rfl

end Scope.Explains

theorem Context.traceId_eq {cx cx' : Context} (h : cx.span = cx'.span) :
    cx.traceId = cx'.traceId := by
  rw [traceId, traceId, spanContext?, spanContext?, h]

-- ---------------------------------------------------------------------------
-- What a tour tells
-- ---------------------------------------------------------------------------

/-- The reports of how calls ended: those at info level and those at warn level. -/
def Entry.outcome? : Entry → Option Report
  | .reported r => if r.level = .info ∨ r.level = .warn then some r else none
  | _ => none

/-- A visit in its place: it comes behind the log `start`, the call within it adds to the log, and
directly behind that the report of the visit stands in the log `final`, if it has one. -/
structure Visit.Placed (v : Visit m) (info : m.Info) (start final : List Entry) : Prop where
  reached : start <+: v.before
  grown : v.before <+: v.after
  told : ∀ r, v.event? info = some r → v.after ++ [.reported r] <+: final

theorem Visit.Placed.mono {v : Visit m} {info : m.Info} {start start' final final' : List Entry}
    (h : v.Placed info start' final) (hstart : start <+: start') (hfinal : final <+: final') :
    v.Placed info start final' where
  reached := hstart.trans h.reached
  grown := h.grown
  told r hr := (h.told r hr).trans hfinal

/-- What a run adds to a log, and the visits that it adds: each is in its place and in a scope that
explains it, and their reports are all the reports of how calls ended. -/
structure Tale (info : m.Info) (base : Context) (start es : List Entry) (vs : List (Visit m)) :
    Prop where
  events : es.filterMap Entry.outcome? = vs.filterMap (Visit.event? info)
  placed : ∀ v ∈ vs, v.Placed info start (start ++ es)
  explained : ∀ v ∈ vs, v.scope.Explains base info (Mode.contextOf v.subject) v.before

namespace Tale

variable {info : m.Info} {base : Context} {start es es' : List Entry} {vs vs' : List (Visit m)}

/-- A run that makes no report of how a call ended, and no visit. -/
theorem quiet (h : ∀ e ∈ es, e.outcome? = none) : Tale (m := m) info base start es [] where
  events := List.filterMap_eq_nil_iff.mpr h
  placed _ hv := absurd hv List.not_mem_nil
  explained _ hv := absurd hv List.not_mem_nil

theorem append (h : Tale info base start es vs) (h' : Tale info base (start ++ es) es' vs') :
    Tale info base start (es ++ es') (vs ++ vs') where
  events := by
    rw [List.filterMap_append, List.filterMap_append, h.events, h'.events]
  placed := by
    rw [← List.append_assoc]
    refine List.forall_mem_append.mpr ⟨fun v hv => ?_, fun v hv => ?_⟩
    · exact (h.placed v hv).mono List.prefix_rfl (List.prefix_append _ _)
    · exact (h'.placed v hv).mono (List.prefix_append _ _) List.prefix_rfl
  explained := List.forall_mem_append.mpr ⟨h.explained, h'.explained⟩

/-- A visit comes behind what the call within it added, with its report if it has one. -/
theorem visit (h : Tale info base start es vs) {v : Visit m} (hbefore : v.before = start)
    (hafter : v.after = start ++ es)
    (hexplains : v.scope.Explains base info (Mode.contextOf v.subject) start) :
    Tale info base start (es ++ (v.event? info).toList.map .reported) (vs ++ [v]) := by
  have hevent : ∀ r, v.event? info = some r → (Entry.reported r).outcome? = some r := by
    intro r hr
    unfold Visit.event? at hr
    split at hr <;> cases hr <;> rfl
  refine ⟨?_, ?_, ?_⟩
  · rw [List.filterMap_append, List.filterMap_append, h.events]
    cases hr : v.event? info with
    | none => simp [hr]
    | some r => simp [hr, hevent r hr]
  · rw [← List.append_assoc]
    refine List.forall_mem_append.mpr ⟨fun x hx => ?_, fun x hx => ?_⟩
    · exact (h.placed x hx).mono List.prefix_rfl (List.prefix_append _ _)
    · obtain rfl := List.mem_singleton.mp hx
      refine ⟨hbefore ▸ List.prefix_rfl, ?_, ?_⟩
      · rw [hbefore, hafter]
        exact List.prefix_append _ _
      · intro r hr
        rw [hafter, hr]
        exact List.prefix_rfl
  · refine List.forall_mem_append.mpr ⟨h.explained, fun x hx => ?_⟩
    obtain rfl := List.mem_singleton.mp hx
    exact hbefore ▸ hexplains

end Tale

/-- An entry that is no report of how a call ended. -/
def Entry.IsQuiet (e : Entry) : Prop := e.outcome? = none

/-- Between two worlds there is a tale to tell. -/
def World.Told (info : m.Info) (base : Context) (w w' : World (Toured m)) : Prop :=
  ∃ (es : List Entry) (vs : List (Visit m)),
    w'.recorder.log = w.recorder.log ++ es ∧ w'.client.2 = w.client.2 ++ vs ∧
      Tale info base w.recorder.log es vs

namespace World.Told

variable {info : m.Info} {base : Context} {w w₁ w₂ : World (Toured m)}

theorem of_quiet {es : List Entry} (hlog : w₁.recorder.log = w.recorder.log ++ es)
    (hvisits : w₁.client.2 = w.client.2) (hes : ∀ e ∈ es, e.IsQuiet) : Told info base w w₁ :=
  ⟨es, [], hlog, hvisits.trans (List.append_nil _).symm, Tale.quiet hes⟩

theorem trans (h : Told info base w w₁) (h' : Told info base w₁ w₂) : Told info base w w₂ := by
  obtain ⟨es, vs, hlog, hvisits, htale⟩ := h
  obtain ⟨es', vs', hlog', hvisits', htale'⟩ := h'
  rw [hlog] at hlog' htale'
  rw [hvisits] at hvisits'
  refine ⟨es ++ es', vs ++ vs', ?_, ?_, htale.append htale'⟩
  · rw [hlog', List.append_assoc]
  · rw [hvisits', List.append_assoc]

theorem grows (h : Told info base w w₁) : w.recorder.log <+: w₁.recorder.log := by
  obtain ⟨es, vs, hlog, -⟩ := h
  rw [hlog]
  exact List.prefix_append _ _

end World.Told

open World (Told)

/-- A call that tells a tale in every world whose log begins with `known`. -/
def Call.Tells (info : m.Info) (base : Context) (known : List Entry) (c : Call (Toured m) α) :
    Prop :=
  ∀ w, known <+: w.recorder.log → Told info base w (c w).2

namespace Call.Tells

variable {info : m.Info} {base : Context} {known : List Entry}

/-- A call that makes no visit, and no report of how a call ended. -/
theorem quiet {c : Call (Toured m) α} (hlog : Call.Adds Entry.IsQuiet c)
    (hvisits : ∀ w, (c w).2.client.2 = w.client.2) : Tells info base known c := by
  intro w _
  obtain ⟨es, hes, hquiet⟩ := hlog w
  exact Told.of_quiet hes (hvisits w) hquiet

/-- What a call does that knows of no visits. -/
theorem unwatched {c : Call m.Client α} (hc : Call.Adds Entry.IsQuiet c) :
    Tells info base known (c.unwatched (γ := List (Visit m))) :=
  quiet (fun w => hc w.bare) fun _ => rfl

theorem returns (a : α) : Tells info base known (Call.returns a) :=
  quiet (Call.Adds.of_unchanged fun _ => rfl) fun _ => rfl

theorem bind {c : Call (Toured m) α} {f : α → Call (Toured m) β} (hc : Tells info base known c)
    (hf : ∀ a, Tells info base known (f a)) : Tells info base known (c.bind f) := by
  let tells (w w' : World (Toured m)) : Prop :=
    known <+: w.recorder.log → Told info base w w'
  refine Call.bind_of_trans (P := tells) ?_ hc hf
  intro w₁ w₂ w₃ h h' hknown
  have htold := h hknown
  exact htold.trans (h' (hknown.trans htold.grows))

theorem run {S : Signature} {perform : (o : S.Op) → Call (Toured m) (S.Answer o)}
    (h : ∀ o, Tells info base known (perform o)) (p : Program S α) :
    Tells info base known (p.run perform) := by
  induction p with
  | done a => exact returns a
  | perform o next ih => exact (h o).bind ih

/-- Quiet entries may come before what a call tells. -/
theorem after {c : Call (Toured m) α} (hc : Tells info base known c) {es : List Entry}
    (hes : ∀ e ∈ es, e.IsQuiet) {w : World (Toured m)} (hknown : known <+: w.recorder.log) :
    Told info base w (c (w.after es)).2 := by
  have hadded : Told info base w (w.after es) := Told.of_quiet rfl rfl hes
  exact hadded.trans (hc (w.after es) (hknown.trans hadded.grows))

/-- Behind the start of a span, the span is known. -/
theorem start_bind {s : SpanStart} {f : ActiveSpan → Call (Toured m) α}
    (hf : ∀ n known, .started n s ∈ known →
      Tells info base known (f (.started n (Recorder.contextOf n s.parent)))) :
    Tells info base known ((Call.start s).bind f) := by
  intro w _
  let n := w.recorder.spans + 1
  let opened : World (Toured m) := ⟨⟨w.recorder.log ++ [.started n s], n⟩, w.client⟩
  have hopened : Told info base w opened :=
    Told.of_quiet rfl rfl (List.forall_mem_singleton.mpr rfl)
  have hstarted : Entry.started n s ∈ opened.recorder.log :=
    List.mem_append_right _ List.mem_cons_self
  exact hopened.trans (hf n opened.recorder.log hstarted opened List.prefix_rfl)

/-- The end of a span is no report. -/
theorem finishing {c : Call (Toured m) α} (hc : Tells info base known c) (cx : Context) :
    Tells info base known (c.andFinally (·.act .layer cx .finish)) := by
  intro w hknown
  have hact : Call.Adds Entry.IsQuiet (Call.act (σ := Toured m) .layer cx .finish) :=
    Call.Adds.act (fun _ => rfl) cx
  obtain ⟨es, hes, hquiet⟩ := hact (c w).2
  exact (hc w hknown).trans (Told.of_quiet hes rfl hquiet)

/-- A logging layer visits, and reports if the call within it returned. -/
theorem logged {scope : Scope m} {subject : m.Subject} {inner : Inside m (Toured m)}
    (hinner : Tells info base known (inner subject))
    (hexplains : scope.Explains base info (Mode.contextOf subject) known) :
    Tells info base known (loggedAround info (visiting scope inner) subject) := by
  intro w hknown
  obtain ⟨es, vs, hlog, hvisits, htale⟩ := hinner w hknown
  rcases hrun : inner subject w with ⟨outcome, w'⟩
  rw [hrun] at hlog hvisits
  let visit : Visit m := ⟨scope, subject, w.recorder.log, outcome, w'.recorder.log⟩
  let told : List Entry := (visit.event? info).toList.map .reported
  have hend : loggedAround info (visiting scope inner) subject w
      = (outcome, ⟨⟨w'.recorder.log ++ told, w'.recorder.spans⟩,
          (w'.client.1, w'.client.2 ++ [visit])⟩) := by
    rw [loggedAround, Call.bind_eq, Call.bind, visiting, hrun]
    cases outcome with
    | returned result =>
      have htold : told = [.reported (outcomeReport (Mode.methodOf info) visit.traceId
          (errorOf result))] := by
        rw [show told = (visit.event? info).toList.map .reported from rfl,
          Visit.event?_of_returned rfl]
        rfl
      rw [htold]
      rfl
    -- the layer is left before it reports
    | panicked message =>
      have hnone : told = [] := rfl
      rw [hnone, List.append_nil]
      rfl
    | cancelled =>
      have hnone : told = [] := rfl
      rw [hnone, List.append_nil]
      rfl
  rw [hend]
  refine ⟨es ++ told, vs ++ [visit], ?_, ?_, htale.visit rfl hlog (hexplains.mono hknown)⟩
  · rw [← List.append_assoc, ← hlog]
  · rw [← List.append_assoc, ← hvisits]

end Call.Tells

open Call (Adds Tells)

-- ---------------------------------------------------------------------------
-- What layers add
-- ---------------------------------------------------------------------------

theorem HandlerOp.adds_quiet (o : HandlerOp m) : Adds Entry.IsQuiet o.perform :=
  Adds.handlerOp (fun _ _ => rfl) (fun _ => rfl) o

/-- The rule that a call leaves the visits as they are. -/
def Call.leavesVisits (m : Mode) : Call.Rule (Toured m) (Toured m) :=
  Call.Rule.onClient (fun x y => y.2 = x.2) (fun _ => rfl) fun h h' => h'.trans h

theorem Call.leavesVisits_panics : (Call.leavesVisits m).Panics := fun _ _ => rfl

theorem Call.leavesVisits_allowsAll : (Call.leavesVisits m).AllowsAll := fun _ _ _ => trivial

theorem recordPayload_adds_quiet (cx : Context) (event : String) (payload : Option Message) :
    Adds Entry.IsQuiet (recordPayload (σ := σ) cx event payload) := by
  cases payload with
  | none => exact Adds.of_unchanged fun _ => rfl
  | some msg => exact Adds.act (fun _ => rfl) cx

theorem recordFailure_adds_quiet (cx : Context) (status : Status) :
    Adds Entry.IsQuiet (recordFailure (σ := σ) cx status) := by
  unfold recordFailure
  induction errorTags status false ++ [errorEvent status] with
  | nil => exact Adds.of_unchanged fun _ => rfl
  | cons a actions ih =>
    have hact : Adds Entry.IsQuiet (Call.act (σ := σ) .layer cx a) := Adds.act (fun _ => rfl) cx
    exact hact.bind fun _ => ih

namespace TracingPolicy

variable (p : TracingPolicy) {info : m.Info} {base : Context} {known : List Entry}

theorem recordRequest_adds_quiet (cx : Context) (request : Option Message) :
    Adds Entry.IsQuiet (p.recordRequest (σ := σ) cx request) := by
  unfold recordRequest
  split
  · exact recordPayload_adds_quiet cx _ request
  · exact Adds.of_unchanged fun _ => rfl

theorem recordOutcome_adds_quiet (cx : Context) (result : Result m.Reply) :
    Adds Entry.IsQuiet (p.recordOutcome (σ := σ) cx result) := by
  cases result with
  | ok reply =>
    simp only [recordOutcome]
    split
    · exact recordPayload_adds_quiet cx _ _
    · exact Adds.of_unchanged fun _ => rfl
  | error status =>
    simp only [recordOutcome]
    split
    · exact recordFailure_adds_quiet cx status
    · exact Adds.of_unchanged fun _ => rfl

theorem decorate_adds_quiet (d : Decoration) :
    Adds Entry.IsQuiet (p.decorate (σ := σ) d) := by
  unfold decorate
  split
  · exact Adds.run (Adds.spanOp (fun _ _ => rfl) fun _ => rfl) _
  · exact Adds.of_unchanged fun _ => rfl

theorem asking_quiet (info : m.Info) (subject : m.Subject) (notes : List Note) :
    ∀ e ∈ p.asking info subject notes, e.IsQuiet := by
  refine List.forall_mem_append.mpr ⟨fun e he => ?_, fun e he => ?_⟩
  · unfold Extraction.reported at he
    split at he
    · rw [List.mem_singleton.mp he]
      rfl
    · exact absurd he List.not_mem_nil
  · obtain ⟨n, -, rfl⟩ := List.mem_map.mp he
    rfl

/-- Around the call within, a tracing layer makes no report of how it ended. -/
theorem within_tells {inner : Inside m (Toured m)} {cx : Context} {subject : m.Subject}
    (hinner : Tells info base known (inner (Mode.rebase cx subject))) :
    Tells info base known (p.within cx info inner subject) := by
  have hcx : (Call.leavesVisits m).AllowsWithin cx := Call.leavesVisits_allowsAll.within cx
  unfold within
  apply Tells.bind (Tells.quiet (p.recordRequest_adds_quiet cx _)
    (Call.Rule.recordRequest p hcx _))
  intro _
  apply Tells.bind hinner
  intro result
  apply Tells.bind (Tells.quiet (p.recordOutcome_adds_quiet cx result)
    (Call.Rule.recordOutcome p hcx result))
  intro _
  have hdecorate : ∀ d, Tells (m := m) info base known (p.decorate d) := fun d =>
    Tells.quiet (p.decorate_adds_quiet d)
      (Call.leavesVisits_allowsAll.decorate Call.leavesVisits_panics p d)
  exact (hdecorate _).bind fun _ => Tells.returns result

end TracingPolicy

-- ---------------------------------------------------------------------------
-- Trees
-- ---------------------------------------------------------------------------

/-- What lies within a layer and tells its tale whenever the scope that it is reached in explains
the context that it is reached with. -/
def Tours (info : m.Info) (base : Context) (inner : TouredInside m) : Prop :=
  ∀ (scope : Scope m) (subject : m.Subject) (known : List Entry),
    scope.Explains base info (Mode.contextOf subject) known →
      Tells info base known (inner scope subject)

variable {info : m.Info} {base : Context} {inner : TouredInside m}

theorem Handler.tours (h : Handler m) : Tours info base h.toured := fun _ subject _ _ =>
  Tells.unwatched (Adds.run HandlerOp.adds_quiet (h subject))

theorem TracingPolicy.tours (p : TracingPolicy) (hinner : Tours info base inner) :
    Tours info base (p.toured info inner) := by
  intro scope subject known hexplains w hknown
  rcases hverdict : (p.includes (p.inquiry info subject)).verdict with ⟨notes, answer⟩
  have hasking := p.asking_quiet info subject notes
  cases answer with
  | panicked message =>
    have hpanic : Tells info base known (Call.panic message : Call (Toured m) (Result m.Reply)) :=
      Tells.quiet (Adds.of_unchanged fun _ => rfl) fun _ => rfl
    have htold := hpanic.after hasking hknown
    unfold toured
    rw [Call.bind_eq, Call.bind_panicked (judge_of_panic hverdict w)]
    exact htold
  | cancelled => exact absurd (congrArg Prod.snd hverdict) (Program.verdict_ne_cancelled _)
  | returned included =>
    cases included with
    | false =>
      have hbypassed : Tells info base known (bypassed info (inner scope) subject) :=
        Tells.bind (Tells.quiet (Adds.log rfl) fun _ => rfl) fun _ =>
          hinner scope subject known hexplains
      have htold := hbypassed.after hasking hknown
      unfold toured
      rw [Call.bind_eq, Call.bind_apply (judge_of_verdict hverdict w)]
      exact htold
    | true =>
      let opened (s : m.Subject) := inner (.within p subject (Mode.contextOf s)) s
      have htraced : Tells info base known
          (p.traced (p.judgement subject true) info opened subject) := by
        rw [traced_eq]
        apply Tells.start_bind
        intro n known hstarted
        apply Tells.finishing
        apply p.within_tells
        refine hinner _ _ known ⟨rfl, n, hstarted, ?_⟩
        rw [Mode.contextOf_rebase]
        rfl
      have htold := htraced.after hasking hknown
      unfold toured
      rw [Call.bind_eq, Call.bind_apply (judge_of_verdict hverdict w)]
      exact htold

theorem Interceptor.tours (i : Interceptor m) (hinner : Tours info base inner) :
    Tours info base (i.toured info inner) := by
  induction i generalizing inner with
  | tracing policy delegate ih =>
    simp only [toured]
    apply policy.tours
    cases delegate with
    | none => exact hinner
    | some d => exact ih d rfl hinner
  | composite layers ih =>
    rw [toured_composite]
    refine List.foldrRecOn (motive := Tours info base) layers _ hinner ?_
    intro inside hinside layer hmem
    exact ih layer hmem hinside
  | logging =>
    intro scope subject known hexplains
    simp only [toured]
    exact Tells.logged (hinner scope subject known hexplains) hexplains
  | custom layer =>
    intro scope subject known hexplains
    simp only [toured]
    refine Tells.run (fun o => ?_) (layer info subject)
    cases o with
    | handler o => exact Tells.unwatched o.adds_quiet
    | next handed => exact hinner _ handed known hexplains.next

-- ---------------------------------------------------------------------------
-- The trace of a log line
-- ---------------------------------------------------------------------------

/-- The trace of a visit is as its scope says, for a call that came with the context `base`. -/
structure Visit.Correlates (v : Visit m) (info : m.Info) (base : Context) : Prop where
  /-- Beneath no layer that admitted the call, it is that of the context which the call came
  with. -/
  outside : v.scope = .outside → v.traceId = base.traceId
  /-- It is zero then, if no span is active in that, and the log line names it so. -/
  untraced : v.scope = .outside → base.span = none →
    v.traceId = 0 ∧ v.traceId.hex = "00000000000000000000000000000000"
  /-- Beneath a layer that admitted the call, it is that of the span of the layer. -/
  within : ∀ p subject opened, v.scope = .within p subject opened →
    p.Opens info subject opened v.before ∧ v.traceId = opened.traceId
  /-- If the layer decoded a parent, it is that of the caller. -/
  caller : ∀ p subject opened sc, v.scope = .within p subject opened →
    (extract (Mode.contextOf subject) p.propagator).parent = .ok sc → v.traceId = sc.traceId
  /-- Beneath a layer of the users' that replaced the active span, it is that of the span which
  the layer chose. -/
  replaced : ∀ handed, v.scope = .replaced handed → v.traceId = handed.traceId

/-- The span of a layer that decoded a parent has the trace of the caller. -/
theorem TracingPolicy.Opens.traceId {p : TracingPolicy} {subject : m.Subject} {opened : Context}
    {log : List Entry} (h : p.Opens info subject opened log) {sc : SpanContext}
    (hsc : (extract (Mode.contextOf subject) p.propagator).parent = .ok sc) :
    opened.traceId = sc.traceId := by
  obtain ⟨n, -, hspan⟩ := h
  have hparent : (p.spanStart info subject).parent = some sc := by
    rw [spanStart, ← toOption_extract, hsc]
    rfl
  rw [Context.traceId, Context.spanContext?, hspan, hparent]
  rfl

theorem Scope.Explains.correlates {v : Visit m}
    (h : v.scope.Explains base info (Mode.contextOf v.subject) v.before) :
    v.Correlates info base := by
  have hspan : ∀ cx : Context, (Mode.contextOf v.subject).span = cx.span →
      v.traceId = cx.traceId := fun _ => Context.traceId_eq
  refine ⟨?_, ?_, ?_, ?_, ?_⟩
  · intro hscope
    rw [hscope] at h
    exact hspan base h
  · intro hscope hbase
    rw [hscope] at h
    have hzero : v.traceId = 0 := by
      rw [hspan base h, Context.traceId, Context.spanContext?, hbase]
      rfl
    exact ⟨hzero, hzero ▸ TraceId.hex_zero⟩
  · intro p subject opened hscope
    rw [hscope] at h
    exact ⟨h.2, hspan opened h.1⟩
  · intro p subject opened sc hscope hsc
    rw [hscope] at h
    rw [hspan opened h.1]
    exact h.2.traceId hsc
  · intro handed hscope
    rw [hscope] at h
    exact hspan handed h

/-- **Correlation.** Whatever tree a call goes through, with logging layers at whatever places,
whatever the handler and however things end: of what the call adds to the log, the reports of how
calls ended are those of the visits to logging layers that returned, one for each and in order.
Each stands directly behind what the call within the layer logged, at info level or, with the code
and the message of the status, at warn level, and it names the trace that the scope of the visit
says, by all its digits: trace and code can be read off it. -/
theorem Interceptor.intercept_correlates (i : Interceptor m) (h : Handler m) (info : m.Info)
    (subject : m.Subject) (w : World m.Client) :
    let run := i.intercept info h.serve subject w
    let visits := i.visits h info subject w
    i.toured info h.toured .outside subject (w.beside []) = (run.1, run.2.beside visits) ∧
    ∃ es, run.2.recorder.log = w.recorder.log ++ es ∧
      es.filterMap Entry.outcome? = visits.filterMap (Visit.event? info) ∧
      ∀ v ∈ visits, v.Placed info w.recorder.log run.2.recorder.log ∧
        v.Correlates info (Mode.contextOf subject) ∧
        ∀ r, v.event? info = some r → v.ReadOff r := by
  intro run visits
  have hbase : (Scope.outside : Scope m).Explains (Mode.contextOf subject) info
      (Mode.contextOf subject) w.recorder.log := rfl
  have htours : Tours info (Mode.contextOf subject) (i.toured info h.toured) := i.tours h.tours
  obtain ⟨es, vs, hlog, hvisits, htale⟩ :=
    htours .outside subject w.recorder.log hbase (w.beside []) List.prefix_rfl
  have hrun := i.toured_eq h info subject w
  rw [hrun] at hlog
  -- nothing was visited before
  have hvs : visits = vs := hvisits.trans (List.nil_append vs)
  have hfinal : run.2.recorder.log = w.recorder.log ++ es := hlog
  refine ⟨hrun, es, hfinal, hvs ▸ htale.events, fun v hv => ?_⟩
  rw [hvs] at hv
  exact ⟨hfinal ▸ htale.placed v hv, (htale.explained v hv).correlates, fun _ => Visit.readOff⟩

/-- The logging layer of `Interceptor.retraced` is visited once, within the outer span, which
begins the first trace. -/
theorem Interceptor.intercept_correlates_retraced :
    ∃ v ∈ retraced.visits .renaming ⟨"/shop/Buy"⟩ .blank .fresh,
      v.event? (m := .unary) ⟨"/shop/Buy"⟩ = some ⟨.info,
        [("elapsed_ms", "*"), ("message", "gRPC call completed"), ("method", "/shop/Buy"),
          ("trace_id", "00000000000000000000000000000001")]⟩ ∧
      ∃ opened, v.scope = .within .standard .blank opened ∧ v.traceId = opened.traceId := by
  obtain ⟨-, es, -, -, hvisits⟩ :=
    intercept_correlates retraced .renaming ⟨"/shop/Buy"⟩ .blank .fresh
  have hvisited : ∃ v opened, retraced.visits .renaming ⟨"/shop/Buy"⟩ .blank .fresh = [v] ∧
      v.event? (m := .unary) ⟨"/shop/Buy"⟩ = some ⟨.info,
        [("elapsed_ms", "*"), ("message", "gRPC call completed"), ("method", "/shop/Buy"),
          ("trace_id", "00000000000000000000000000000001")]⟩ ∧
      v.scope = .within .standard .blank opened :=
    ⟨_, _, rfl, rfl, rfl⟩
  obtain ⟨v, opened, hone, hevent, hscope⟩ := hvisited
  have hv : v ∈ retraced.visits .renaming ⟨"/shop/Buy"⟩ .blank .fresh :=
    hone ▸ List.mem_singleton_self v
  exact ⟨v, hv, hevent, opened, hscope, ((hvisits v hv).2.1.within _ _ _ hscope).2⟩

end CallSpan
