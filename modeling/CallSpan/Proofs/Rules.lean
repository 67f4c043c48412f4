import CallSpan.Proofs.Conduct

/-!
# Rules that calls keep

Much of what is said of calls is said in the same way: each way to build a call keeps it.
A `Call.Rule` is such a thing to say, of two calls at once that may run in different
worlds, and with a say in which actions on spans it puts up with. Of one call alone it is
said with the second call ignored.

What a rule is asked is little, and it does not ask about panics, waiting, clients and
the start of spans, since these are where rules differ. What it gives is that all that a
tracing layer does around its span keeps it.

Main results:

* `Call.Rule.run`     — programs, if their operations keep the rule.
* `Call.Rule.within`  — what a tracing layer does within its span.
* `Call.Rule.logged`  — the layer that reports how calls end.
-/

namespace CallSpan

variable {m : Mode} {σ τ α β : Type}

-- ---------------------------------------------------------------------------
-- Before and after a call
-- ---------------------------------------------------------------------------

/-- An action is logged if the context has a span that was started here, and changes nothing
else. -/
theorem Recorder.act_eq (r : Recorder) (author : Author) (cx : Context) (a : SpanAction) :
    r.act author cx a
      = ⟨r.log ++ cx.spanNumber?.toList.map (.acted author · a), r.spans⟩ := by
  rw [act]
  cases cx.spanNumber? with
  | none => rw [Option.toList_none, List.map_nil, List.append_nil]
  | some n => rfl

/-- A transitive relation between the worlds before and after each of two calls is one between
those before and after both. The second has to be asked only of what the first returns. -/
theorem Call.bind_of_returned {P : World σ → World σ → Prop}
    (htrans : ∀ {w₁ w₂ w₃}, P w₁ w₂ → P w₂ w₃ → P w₁ w₃) {c : Call σ α} {f : α → Call σ β}
    (hc : ∀ w, P w (c w).2) (hf : ∀ a w w', c w = (.returned a, w') → P w' (f a w').2)
    (w : World σ) : P w (c.bind f w).2 := by
  have hw := hc w
  rw [Call.bind]
  rcases h : c w with ⟨outcome, w'⟩
  rw [h] at hw
  cases outcome with
  | returned a => exact htrans hw (hf a w w' h)
  | panicked message => exact hw
  | cancelled => exact hw

theorem Call.bind_of_trans {P : World σ → World σ → Prop}
    (htrans : ∀ {w₁ w₂ w₃}, P w₁ w₂ → P w₂ w₃ → P w₁ w₃) {c : Call σ α} {f : α → Call σ β}
    (hc : ∀ w, P w (c w).2) (hf : ∀ a w, P w (f a w).2) (w : World σ) :
    P w (c.bind f w).2 :=
  Call.bind_of_returned (P := P) htrans hc (fun a _ w' _ => hf a w') w

-- ---------------------------------------------------------------------------
-- Rules
-- ---------------------------------------------------------------------------

/-- A relation between calls that the ways to build calls keep. -/
structure Call.Rule (σ τ : Type) where
  Holds : {α : Type} → Call σ α → Call τ α → Prop
  /-- The actions on spans that keep it. -/
  Allows : Author → Context → SpanAction → Prop
  returns : ∀ {α : Type} (a : α), Holds (Call.returns a) (Call.returns a)
  bind : ∀ {α β : Type} {c : Call σ α} {c' : Call τ α} {f : α → Call σ β} {f' : α → Call τ β},
    Holds c c' → (∀ a, Holds (f a) (f' a)) → Holds (c.bind f) (c'.bind f')
  note : ∀ n, Holds (Call.note n) (Call.note n)
  report : ∀ r, Holds (Call.log (.reported r)) (Call.log (.reported r))
  act : ∀ {author : Author} {cx : Context} {a : SpanAction}, Allows author cx a →
    Holds (Call.act author cx a) (Call.act author cx a)
  isRecording : ∀ cx, Holds (Call.isRecording cx) (Call.isRecording cx)

namespace Call.Rule

variable (R : Call.Rule σ τ)

-- ---------------------------------------------------------------------------
-- Programs
-- ---------------------------------------------------------------------------

/-- A program keeps a rule if the operations that it is allowed do. -/
theorem run {S : Signature} {allowed : S.Op → Prop}
    {perform : (o : S.Op) → Call σ (S.Answer o)} {perform' : (o : S.Op) → Call τ (S.Answer o)}
    (h : ∀ o, allowed o → R.Holds (perform o) (perform' o)) {p : Program S α}
    (hp : p.Only allowed) : R.Holds (p.run perform) (p.run perform') := by
  induction p with
  | done a => exact R.returns a
  | perform o next ih => exact R.bind (h o hp.1) fun answer => ih answer (hp.2 answer)

/-- A program keeps a rule that all operations keep. -/
theorem runAny {S : Signature} {perform : (o : S.Op) → Call σ (S.Answer o)}
    {perform' : (o : S.Op) → Call τ (S.Answer o)} (h : ∀ o, R.Holds (perform o) (perform' o))
    (p : Program S α) : R.Holds (p.run perform) (p.run perform') :=
  R.run (fun o _ => h o) (Program.only_of_forall (fun _ => trivial) p)

/-- The rule that what is shared with the client is, before and after a call, as a relation says.
Nothing that is recorded has to do with it. -/
def onClient (P : σ → σ → Prop) (hrefl : ∀ x, P x x)
    (htrans : ∀ {x y z}, P x y → P y z → P x z) : Call.Rule σ σ where
  Holds c _ := ∀ w, P w.client (c w).2.client
  Allows _ _ _ := True
  returns _ w := hrefl w.client
  bind := Call.bind_of_trans (P := fun w w' => P w.client w'.client) htrans
  note _ w := hrefl w.client
  report _ w := hrefl w.client
  act _ w := hrefl w.client
  isRecording _ w := hrefl w.client

/-- The operations of decorators that a rule puts up with. -/
def AllowsOp : SpanOp → Prop
  | .act cx a => R.Allows .user cx a
  | .hook _ | .isRecording _ => True

def Panics : Prop :=
  ∀ {α : Type} (message : String), R.Holds (Call.panic message : Call σ α) (Call.panic message)

variable {R}

theorem hook (hpanic : R.Panics) (o : HookOp) : R.Holds o.perform o.perform := by
  cases o with
  | note n => exact R.note n
  | panic message => exact hpanic message

theorem spanOp (hpanic : R.Panics) {o : SpanOp} (ho : R.AllowsOp o) :
    R.Holds o.perform o.perform := by
  cases o with
  | hook o => exact hook hpanic o
  | act cx a => exact R.act ho
  | isRecording cx => exact R.isRecording cx

-- ---------------------------------------------------------------------------
-- What a tracing layer does around its span
-- ---------------------------------------------------------------------------

/-- Several actions are taken one after the other. -/
theorem actAll {author : Author} {cx : Context} {actions : List SpanAction}
    (h : ∀ a ∈ actions, R.Allows author cx a) :
    R.Holds (Call.record (·.actAll author cx actions))
      (Call.record (·.actAll author cx actions)) := by
  induction actions with
  | nil => exact R.returns ()
  | cons a actions ih =>
    have hrest := ih fun x hx => h x (List.mem_cons_of_mem a hx)
    exact R.bind (R.act (h a List.mem_cons_self)) fun _ => hrest

theorem adoptParent (method : String) (parent : Except ExtractError SpanContext) :
    R.Holds (adoptParent method parent) (adoptParent method parent) := by
  cases parent with
  | ok sc => exact R.returns (some sc)
  | error e =>
    cases e with
    | notFound => exact R.returns none
    | malformed fields => exact R.bind (R.report _) fun _ => R.returns none

/-- A tracing layer judges a call by a rule, if it asks its predicate by it. -/
theorem judge (p : TracingPolicy) (info : m.Info) (subject : m.Subject)
    (hasked : ∀ i, R.Holds ((p.includes i).run HookOp.perform)
      ((p.includes i).run HookOp.perform)) :
    R.Holds (p.judge info subject) (p.judge info subject) := by
  unfold TracingPolicy.judge
  apply R.bind (adoptParent _ _)
  intro parent
  exact R.bind (hasked _) fun _ => R.returns _

/-- An answer to a predicate is given by any rule that puts up with panics. -/
theorem asked (hpanic : R.Panics) (p : TracingPolicy) (i : Inquiry) :
    R.Holds ((p.includes i).run HookOp.perform) ((p.includes i).run HookOp.perform) :=
  R.runAny (hook hpanic) (p.includes i)

/-- A rule that lets a layer do anything to the span of a context but end it. -/
def AllowsWithin (R : Call.Rule σ τ) (cx : Context) : Prop :=
  ∀ a, a ≠ .finish → R.Allows .layer cx a

section Within

variable {cx : Context} (p : TracingPolicy)

theorem recordPayload (hcx : R.AllowsWithin cx) (event : String) (payload : Option Message) :
    R.Holds (recordPayload cx event payload) (recordPayload cx event payload) := by
  cases payload with
  | none => exact R.returns ()
  | some msg => exact R.act (hcx (payloadEvent event msg) SpanAction.noConfusion)

theorem recordFailure (hcx : R.AllowsWithin cx) (status : Status) :
    R.Holds (recordFailure cx status) (recordFailure cx status) := by
  refine actAll fun a ha => hcx a ?_
  -- a failure is an event, attributes and a status, never an end
  rintro rfl
  simp [errorTags, errorEvent] at ha

theorem recordRequest (hcx : R.AllowsWithin cx) (request : Option Message) :
    R.Holds (p.recordRequest cx request) (p.recordRequest cx request) := by
  unfold TracingPolicy.recordRequest
  split
  · exact recordPayload hcx _ _
  · exact R.returns ()

theorem recordOutcome (hcx : R.AllowsWithin cx) (result : Result m.Reply) :
    R.Holds (p.recordOutcome cx result) (p.recordOutcome cx result) := by
  cases result with
  | ok reply =>
    simp only [TracingPolicy.recordOutcome]
    split
    · exact recordPayload hcx _ _
    · exact R.returns ()
  | error status =>
    simp only [TracingPolicy.recordOutcome]
    split
    · exact recordFailure hcx status
    · exact R.returns ()

theorem decorate (hpanic : R.Panics)
    (hp : ∀ decorator, p.decorator = some decorator → ∀ d, (decorator d).Only R.AllowsOp)
    (d : Decoration) : R.Holds (p.decorate d) (p.decorate d) := by
  unfold TracingPolicy.decorate
  split
  · rename_i decorator hd
    exact R.run (fun _ ho => spanOp hpanic ho) (hp decorator hd d)
  · exact R.returns ()

variable {info : m.Info} {inner : Inside m σ} {inner' : Inside m τ} {subject : m.Subject}

/-- What a tracing layer does within its span keeps a rule, if what lies within does, with the
subject that it is handed. -/
theorem within (hcx : R.AllowsWithin cx)
    (hdecorate : ∀ d, R.Holds (p.decorate d) (p.decorate d))
    (hinner : R.Holds (inner (Mode.rebase cx subject)) (inner' (Mode.rebase cx subject))) :
    R.Holds (p.within cx info inner subject) (p.within cx info inner' subject) := by
  unfold TracingPolicy.within
  apply R.bind (recordRequest p hcx _)
  intro _
  apply R.bind hinner
  intro result
  apply R.bind (recordOutcome p hcx result)
  intro _
  exact R.bind (hdecorate _) fun _ => R.returns result

end Within

-- ---------------------------------------------------------------------------
-- Rules that put up with everything
-- ---------------------------------------------------------------------------

/-- A rule that is kept whatever is done to spans. -/
def AllowsAll (R : Call.Rule σ τ) : Prop := ∀ author cx a, R.Allows author cx a

theorem AllowsAll.within (h : R.AllowsAll) (cx : Context) : R.AllowsWithin cx :=
  fun a _ => h .layer cx a

theorem AllowsAll.op (h : R.AllowsAll) (o : SpanOp) : R.AllowsOp o := by
  cases o with
  | act cx a => exact h .user cx a
  | hook o => exact trivial
  | isRecording cx => exact trivial

theorem AllowsAll.decorate (h : R.AllowsAll) (hpanic : R.Panics) (p : TracingPolicy)
    (d : Decoration) : R.Holds (p.decorate d) (p.decorate d) :=
  Rule.decorate p hpanic (fun _ _ _ => Program.only_of_forall h.op _) d

-- ---------------------------------------------------------------------------
-- Layers that start no span
-- ---------------------------------------------------------------------------

variable {info : m.Info} {inner : Inside m σ} {inner' : Inside m τ} {subject : m.Subject}

theorem bypassed (hinner : R.Holds (inner subject) (inner' subject)) :
    R.Holds (TracingPolicy.bypassed info inner subject)
      (TracingPolicy.bypassed info inner' subject) := by
  unfold TracingPolicy.bypassed
  exact R.bind (R.report _) fun _ => hinner

theorem logged (hinner : R.Holds (inner subject) (inner' subject)) :
    R.Holds (loggedAround info inner subject) (loggedAround info inner' subject) := by
  unfold loggedAround
  apply R.bind hinner
  intro result
  exact R.bind (R.report _) fun _ => R.returns result

end Call.Rule

end CallSpan
