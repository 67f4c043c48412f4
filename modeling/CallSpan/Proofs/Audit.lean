import CallSpan.Proofs.Rules

/-!
# Audited runs

The log tells what a call does to spans and what users of the library write down. It
does not tell which layers were *invoked*: an arbitrary predicate, layer or handler
leaves no mark of its own. An **audited** run is the same run with a **trail** beside
it, to which every tracing layer, every layer of the user's and the handler add a
step when they are reached, and every answer of the client is added too.

The auditor watches and does not interfere: whatever is decided while the call runs
is decided without a look at the trail. `Shadows` says so of one call, and each way to
build a call keeps it.

Main results:

* `Interceptor.audited_shadows` — an audited tree acts as the tree, around whatever
  audited inside.
* `Interceptor.audited_eq` — outcome, log and client of an audited run are those of
  the run; what is beside it is the `Interceptor.trail` of the call.
-/

namespace CallSpan

variable {m : Mode} {σ γ α β : Type}

/-! ## Trails -/

/-- What an auditor sees of a run besides the log. -/
inductive Step (m : Mode) where
  /-- A tracing layer judged a call, and goes on with it. -/
  | judged (policy : TracingPolicy) (subject : m.Subject) (judgement : Judgement)
  /-- The tracing layer that judged last, of those still at work, is done with its call. -/
  | settled
  | entered (layer : Layer m) (subject : m.Subject)
  | handled (subject : m.Subject)
  | answered (o : m.ClientCall) (answer : m.ClientAnswer o)

/-- A step that is no concern of a tracing layer: a layer of the user's, the handler, or the
client. -/
def Step.isVisit : Step m → Bool
  | judged _ _ _ | settled => false
  | entered _ _ | handled _ | answered _ _ => true

/-- Steps in the order in which they were taken. -/
abbrev Trail (m : Mode) := List (Step m)

/-- What an audited call shares with its client, and the trail beside it. -/
abbrev Watched (m : Mode) := m.Client × Trail m

namespace World

/-- The world without what stands beside the client. -/
def bare (w : World (σ × γ)) : World σ := ⟨w.recorder, w.client.1⟩

/-- The world with something beside the client. -/
def beside (w : World σ) (g : γ) : World (σ × γ) := ⟨w.recorder, (w.client, g)⟩

@[simp] theorem bare_beside (w : World σ) (g : γ) : (w.beside g).bare = w := rfl

@[simp] theorem beside_bare (w : World (σ × γ)) : w.bare.beside w.client.2 = w := rfl

end World

namespace Call

/-- A call that knows of nothing beside the client. -/
def unwatched (c : Call σ α) : Call (σ × γ) α := fun w =>
  let (outcome, w') := c w.bare
  (outcome, w'.beside w.client.2)

def step (s : Step m) : Call (Watched m) Unit := fun w =>
  (.returned (), w.bare.beside (w.client.2 ++ [s]))

/-- Adds that a tracing layer is done when its call has ended, whatever the outcome. -/
def settling (c : Call (Watched m) α) : Call (Watched m) α := fun w =>
  let (outcome, w') := c w
  (outcome, w'.bare.beside (w'.client.2 ++ [.settled]))

end Call

/-! ## Audited parts -/

def HandlerOp.audited : (o : HandlerOp m) → Call (Watched m) o.Answer
  | span o => o.perform
  | client o => do
    let answer ← (Mode.performClient o).unwatched
    Call.step (.answered o answer)
    .returns answer
  | wait => Call.wait

def LayerOp.audited (next : Inside m (Watched m)) : (o : LayerOp m) → Call (Watched m) o.Answer
  | handler o => o.audited
  | .next subject => next subject

def Handler.audited (h : Handler m) : Inside m (Watched m) := fun subject => do
  Call.step (.handled subject)
  (h subject).run HandlerOp.audited

def Layer.audited (layer : Layer m) : Around m (Watched m) := fun info inner subject => do
  Call.step (.entered layer subject)
  (layer info subject).run (LayerOp.audited inner)

def TracingPolicy.audited (p : TracingPolicy) : Around m (Watched m) := fun info inner subject => do
  let j ← p.judge info subject
  Call.step (.judged p subject j)
  (if j.included then p.traced j info inner subject
    else TracingPolicy.bypassed info inner subject).settling

namespace Interceptor

mutual

/-- An audited interceptor. -/
def audited : Interceptor m → Around m (Watched m)
  | tracing policy delegate => fun info inner =>
    policy.audited info (auditedThrough delegate info inner)
  | composite layers => chainFrom (auditedAll layers) 0
  | logging => loggedAround
  | custom layer => layer.audited

def auditedThrough : Option (Interceptor m) → Around m (Watched m)
  | none => fun _ inner => inner
  | some delegate => delegate.audited

def auditedAll : List (Interceptor m) → List (Around m (Watched m))
  | [] => []
  | layer :: layers => layer.audited :: auditedAll layers

end

theorem auditedAll_eq_map (layers : List (Interceptor m)) :
    auditedAll layers = layers.map audited := by
  induction layers with
  | nil => rfl
  | cons layer layers ih => simp [auditedAll, ih]

theorem audited_composite (layers : List (Interceptor m)) (info : m.Info)
    (inner : Inside m (Watched m)) :
    (composite layers).audited info inner
      = layers.foldr (fun layer inside => layer.audited info inside) inner := by
  rw [audited, chainFrom_eq_foldr, auditedAll_eq_map, List.drop_zero, List.foldr_map]

end Interceptor

/-! ## The auditor does not interfere -/

namespace Call

/-- A call that does what another does, whatever stands beside the client. -/
def Shadows (c : Call (σ × γ) α) (c' : Call σ α) : Prop :=
  ∀ w, ((c w).1, (c w).2.bare) = c' w.bare

namespace Shadows

theorem returns (a : α) : Shadows (γ := γ) (Call.returns a) (Call.returns (σ := σ) a) :=
  fun _ => rfl

theorem panic (message : String) :
    Shadows (γ := γ) (Call.panic message : Call _ α) (Call.panic (σ := σ) message) :=
  fun _ => rfl

theorem wait : Shadows (γ := γ) (Call.wait : Call _ α) (Call.wait (σ := σ)) :=
  fun _ => rfl

theorem record (f : Recorder → Recorder) :
    Shadows (γ := γ) (Call.record f) (Call.record (σ := σ) f) :=
  fun _ => rfl

theorem start (s : SpanStart) : Shadows (γ := γ) (Call.start s) (Call.start (σ := σ) s) :=
  fun _ => rfl

theorem isRecording (cx : Context) :
    Shadows (γ := γ) (Call.isRecording cx) (Call.isRecording (σ := σ) cx) :=
  fun _ => rfl

theorem unwatched (c : Call σ α) : Shadows (γ := γ) c.unwatched c :=
  fun _ => rfl

theorem bind {c : Call (σ × γ) α} {c' : Call σ α} {f : α → Call (σ × γ) β} {f' : α → Call σ β}
    (hc : Shadows c c') (hf : ∀ a, Shadows (f a) (f' a)) : Shadows (c.bind f) (c'.bind f') := by
  intro w
  have hw := hc w
  simp only [Call.bind, ← hw]
  rcases h : c w with ⟨outcome, w'⟩
  cases outcome with
  | returned a => exact hf a w'
  | panicked message => rfl
  | cancelled => rfl

/-- A step of the trail leaves no trace in what the call does. -/
theorem step_bind {s : Step m} {f : Unit → Call (Watched m) α} {c' : Call m.Client α}
    (hf : Shadows (f ()) c') : Shadows ((Call.step s).bind f) c' :=
  fun w => hf (w.bare.beside (w.client.2 ++ [s]))

theorem settling {c : Call (Watched m) α} {c' : Call m.Client α} (hc : Shadows c c') :
    Shadows c.settling c' :=
  fun w => hc w

theorem andFinally {c : Call (σ × γ) α} {c' : Call σ α} (hc : Shadows c c')
    (f : Recorder → Recorder) : Shadows (c.andFinally f) (c'.andFinally f) := by
  intro w
  have hw := hc w
  simp only [Call.andFinally, ← hw]
  rfl

/-- What a tracing layer does around its span, it does without a look at what stands beside the
client. -/
def rule (σ γ : Type) : Call.Rule (σ × γ) σ where
  Holds := Shadows
  Allows _ _ _ := True
  returns := returns
  bind := bind
  note _ := record _
  report _ := record _
  act _ := record _
  isRecording := isRecording

theorem run {S : Signature} {perform : (o : S.Op) → Call (σ × γ) (S.Answer o)}
    {perform' : (o : S.Op) → Call σ (S.Answer o)} (h : ∀ o, Shadows (perform o) (perform' o))
    (p : Program S α) : Shadows (p.run perform) (p.run perform') :=
  (rule σ γ).runAny h p

theorem rule_panics : (rule σ γ).Panics := fun message => panic message

theorem rule_allowsAll : (rule σ γ).AllowsAll := fun _ _ _ => trivial

end Shadows

end Call

open Call (Shadows)

theorem HandlerOp.audited_shadows (o : HandlerOp m) : Shadows o.audited o.perform := by
  cases o with
  | span o => exact Call.Rule.spanOp Shadows.rule_panics (Shadows.rule_allowsAll.op o)
  | client o =>
    -- the step is added behind the operation, whose answer goes on
    have h : Shadows (HandlerOp.client o).audited
        ((Mode.performClient o).bind fun answer => Call.returns answer) :=
      Shadows.bind (Shadows.unwatched _) fun answer => Shadows.step_bind (Shadows.returns answer)
    rwa [Call.bind_returns] at h
  | wait => exact Shadows.wait

/-! ### Tracing layers -/

theorem startServerSpan_shadows (cx decoded : Context) (parent : Option SpanContext)
    (method : String) :
    Shadows (γ := γ) (startServerSpan cx decoded parent method)
      (startServerSpan (σ := σ) cx decoded parent method) :=
  Shadows.bind (Shadows.start _) fun _ => Shadows.returns _

namespace TracingPolicy

variable (p : TracingPolicy)

theorem decorate_shadows (d : Decoration) :
    Shadows (γ := γ) (p.decorate d) (p.decorate (σ := σ) d) :=
  Shadows.rule_allowsAll.decorate Shadows.rule_panics p d

theorem asked_shadows (i : Inquiry) :
    Shadows (γ := γ) ((p.includes i).run HookOp.perform)
      ((p.includes i).run (HookOp.perform (σ := σ))) :=
  Call.Rule.asked Shadows.rule_panics p i

theorem judge_shadows (info : m.Info) (subject : m.Subject) :
    Shadows (γ := γ) (p.judge info subject) (p.judge (σ := σ) info subject) :=
  Call.Rule.judge (R := Shadows.rule _ _) p info subject p.asked_shadows

theorem traced_shadows (j : Judgement) {info : m.Info} {inner : Inside m (σ × γ)}
    {inner' : Inside m σ} (h : ∀ s, Shadows (inner s) (inner' s)) (subject : m.Subject) :
    Shadows (p.traced j info inner subject) (p.traced j info inner' subject) := by
  unfold traced
  apply Shadows.bind (startServerSpan_shadows _ _ _ _)
  intro cx
  apply Shadows.andFinally
  exact Call.Rule.within (R := Shadows.rule _ _) p (Shadows.rule_allowsAll.within cx)
    p.decorate_shadows (h _)

theorem audited_shadows {info : m.Info} {inner : Inside m (Watched m)} {inner' : Continuation m}
    (h : ∀ s, Shadows (inner s) (inner' s)) (subject : m.Subject) :
    Shadows (p.audited info inner subject) (p.around info inner' subject) := by
  unfold audited around
  apply Shadows.bind (p.judge_shadows info subject)
  intro j
  -- the steps for the judgement and behind the call are on the left alone
  apply Shadows.step_bind
  apply Shadows.settling
  split
  · exact p.traced_shadows j h subject
  · exact Call.Rule.bypassed (R := Shadows.rule _ _) (h subject)

end TracingPolicy

/-! ### Trees -/

theorem Handler.audited_shadows (h : Handler m) (subject : m.Subject) :
    Shadows (h.audited subject) (h.serve subject) :=
  Shadows.step_bind (Shadows.run HandlerOp.audited_shadows (h subject))

theorem Layer.audited_shadows (layer : Layer m) {info : m.Info} {inner : Inside m (Watched m)}
    {inner' : Continuation m} (h : ∀ s, Shadows (inner s) (inner' s)) (subject : m.Subject) :
    Shadows (layer.audited info inner subject)
      ((layer info subject).run (LayerOp.perform inner')) := by
  apply Shadows.step_bind
  refine Shadows.run (fun o => ?_) (layer info subject)
  cases o with
  | handler o => exact o.audited_shadows
  | next s => exact h s

/-- An audited tree acts as the tree, around whatever audited inside. -/
theorem Interceptor.audited_shadows (i : Interceptor m) (info : m.Info)
    {inner : Inside m (Watched m)} {inner' : Continuation m}
    (h : ∀ s, Shadows (inner s) (inner' s)) (subject : m.Subject) :
    Shadows (i.audited info inner subject) (i.intercept info inner' subject) := by
  induction i generalizing inner inner' subject with
  | tracing policy delegate ih =>
    simp only [audited, intercept]
    cases delegate with
    | none => exact policy.audited_shadows h subject
    | some d => exact policy.audited_shadows (fun s => ih d rfl h s) subject
  | composite layers ih =>
    -- both are folds over the same layers
    rw [audited_composite, intercept_composite]
    let related (inside : Inside m (Watched m)) (inside' : Continuation m) : Prop :=
      ∀ s, Shadows (inside s) (inside' s)
    refine List.foldr_rel (r := related) h ?_ subject
    intro layer hmem inside inside' hinside s
    exact ih layer hmem hinside s
  | logging =>
    simp only [audited, intercept]
    exact Call.Rule.logged (R := Shadows.rule _ _) (h subject)
  | custom layer =>
    simp only [audited, intercept]
    exact layer.audited_shadows h subject

/-- The trail of a call: what an auditor sees who comes with nothing seen yet. -/
def Interceptor.trail (i : Interceptor m) (h : Handler m) (info : m.Info) (subject : m.Subject)
    (w : World m.Client) : Trail m :=
  (i.audited info h.audited subject (w.beside [])).2.client.2

/-- An audited run is the run, with the trail beside it. -/
theorem Interceptor.audited_eq (i : Interceptor m) (h : Handler m) (info : m.Info)
    (subject : m.Subject) (w : World m.Client) :
    i.audited info h.audited subject (w.beside [])
      = ((i.intercept info h.serve subject w).1,
          (i.intercept info h.serve subject w).2.beside (i.trail h info subject w)) := by
  have hrun := i.audited_shadows info (fun s => h.audited_shadows s) subject (w.beside [])
  rw [World.bare_beside] at hrun
  rw [← hrun, Interceptor.trail, World.beside_bare]

/-! ## Rules that audited calls keep -/

namespace Call.Rule

/-- A rule that holds of all that an audited call is made of, whatever policies, layers and
handlers it goes through. -/
structure Universal (R : Call.Rule (Watched m) (Watched m)) : Prop where
  panics : R.Panics
  allowsAll : R.AllowsAll
  wait : ∀ {α : Type}, R.Holds (Call.wait : Call (Watched m) α) Call.wait
  start : ∀ s, R.Holds (Call.start s) (Call.start s)
  step : ∀ s, R.Holds (Call.step s) (Call.step s)
  client : ∀ o, R.Holds (Mode.performClient o).unwatched (Mode.performClient o).unwatched
  finishing : ∀ {α : Type} {c c' : Call (Watched m) α} (cx : Context), R.Holds c c' →
    R.Holds (c.andFinally (·.act .layer cx .finish)) (c'.andFinally (·.act .layer cx .finish))
  settling : ∀ {α : Type} {c c' : Call (Watched m) α}, R.Holds c c' →
    R.Holds c.settling c'.settling

namespace Universal

variable {R : Call.Rule (Watched m) (Watched m)}

theorem handlerOp (hR : R.Universal) (o : HandlerOp m) : R.Holds o.audited o.audited := by
  cases o with
  | span o => exact Rule.spanOp hR.panics (hR.allowsAll.op o)
  | client o =>
    apply R.bind (hR.client o)
    intro answer
    exact R.bind (hR.step _) fun _ => R.returns answer
  | wait => exact hR.wait

theorem handler (hR : R.Universal) (h : Handler m) (subject : m.Subject) :
    R.Holds (h.audited subject) (h.audited subject) := by
  unfold Handler.audited
  apply R.bind (hR.step _)
  intro _
  exact R.runAny hR.handlerOp (h subject)

variable {info : m.Info} {inner inner' : Inside m (Watched m)}

theorem layer (hR : R.Universal) (layer : Layer m) (hinner : ∀ s, R.Holds (inner s) (inner' s))
    (subject : m.Subject) :
    R.Holds (layer.audited info inner subject) (layer.audited info inner' subject) := by
  unfold Layer.audited
  apply R.bind (hR.step _)
  intro _
  refine R.runAny (fun o => ?_) (layer info subject)
  cases o with
  | handler o => exact hR.handlerOp o
  | next s => exact hinner s

theorem startServerSpan (hR : R.Universal) (cx decoded : Context) (parent : Option SpanContext)
    (method : String) :
    R.Holds (startServerSpan cx decoded parent method) (startServerSpan cx decoded parent method) :=
  R.bind (hR.start _) fun _ => R.returns _

theorem policy (hR : R.Universal) (p : TracingPolicy)
    (hinner : ∀ s, R.Holds (inner s) (inner' s)) (subject : m.Subject) :
    R.Holds (p.audited info inner subject) (p.audited info inner' subject) := by
  apply R.bind (Rule.judge p info subject (Rule.asked hR.panics p))
  intro j
  apply R.bind (hR.step _)
  intro _
  apply hR.settling
  split
  · unfold TracingPolicy.traced
    apply R.bind (hR.startServerSpan _ _ _ _)
    intro cx
    apply hR.finishing
    exact Rule.within p (hR.allowsAll.within cx) (hR.allowsAll.decorate hR.panics p) (hinner _)
  · exact Rule.bypassed (hinner subject)

/-- Every tree keeps such a rule, around whatever is related by it. -/
theorem tree (hR : R.Universal) (i : Interceptor m) (info : m.Info)
    {inner inner' : Inside m (Watched m)} (hinner : ∀ s, R.Holds (inner s) (inner' s))
    (subject : m.Subject) :
    R.Holds (i.audited info inner subject) (i.audited info inner' subject) := by
  induction i generalizing inner inner' subject with
  | tracing policy delegate ih =>
    simp only [Interceptor.audited]
    apply hR.policy policy
    intro s
    cases delegate with
    | none => exact hinner s
    | some d => exact ih d rfl hinner s
  | composite layers ih =>
    rw [Interceptor.audited_composite, Interceptor.audited_composite]
    let related (inside inside' : Inside m (Watched m)) : Prop :=
      ∀ s, R.Holds (inside s) (inside' s)
    refine List.foldr_rel (r := related) hinner ?_ subject
    intro layer hmem inside inside' hinside s
    exact ih layer hmem hinside s
  | logging =>
    simp only [Interceptor.audited]
    exact Rule.logged (hinner subject)
  | custom layer =>
    simp only [Interceptor.audited]
    exact hR.layer layer hinner subject

/-- Every call through a tree to a handler keeps such a rule. -/
theorem call (hR : R.Universal) (i : Interceptor m) (h : Handler m) (info : m.Info)
    (subject : m.Subject) :
    R.Holds (i.audited info h.audited subject) (i.audited info h.audited subject) :=
  hR.tree i info (fun s => hR.handler h s) subject

end Universal

end Call.Rule

end CallSpan
