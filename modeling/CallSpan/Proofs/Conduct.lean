import CallSpan.Interceptor

/-!
# The conduct of what users write

Handlers, layers, predicates and decorators are arbitrary programs. What a statement
asks of them is a rule about their operations, whatever these are answered:
`Program.Only`. `Interceptor.Every` asks it of all that stands in a tree.

One such rule is that nobody but the tracing layers ends a span:
`Interceptor.LeavesSpansOpen` and `Handler.LeavesSpansOpen`. Another is that what a layer
hands on has the metadata that came: `Interceptor.KeepsMetadata`.
-/

namespace CallSpan

variable {m : Mode}

/-- Every operation that a program performs, whatever it is answered, is allowed. -/
def Program.Only {S : Signature} {α : Type} (allowed : S.Op → Prop) : Program S α → Prop
  | done _ => True
  | perform op next => allowed op ∧ ∀ answer, (next answer).Only allowed

/-- Where anything is allowed, every program keeps to that. -/
theorem Program.only_of_forall {S : Signature} {α : Type} {allowed : S.Op → Prop}
    (h : ∀ o, allowed o) (p : Program S α) : p.Only allowed := by
  induction p with
  | done a => exact trivial
  | perform o next ih => exact ⟨h o, ih⟩

theorem Program.Only.mono {S : Signature} {α : Type} {allowed allowed' : S.Op → Prop}
    (h : ∀ o, allowed o → allowed' o) {p : Program S α} (hp : p.Only allowed) :
    p.Only allowed' := by
  induction p with
  | done a => exact trivial
  | perform o next ih => exact ⟨h o hp.1, fun answer => ih answer (hp.2 answer)⟩

/-- Every policy in a tree, and every layer of the users' in it, keeps to a rule. -/
inductive Interceptor.Every (policyRule : TracingPolicy → Prop) (layerRule : Layer m → Prop) :
    Interceptor m → Prop where
  | tracing {policy : TracingPolicy} {delegate : Option (Interceptor m)}
      (hPolicy : policyRule policy)
      (hDelegate : ∀ d, delegate = some d → d.Every policyRule layerRule) :
      (Interceptor.tracing policy delegate).Every policyRule layerRule
  | composite {layers : List (Interceptor m)}
      (hLayers : ∀ layer ∈ layers, layer.Every policyRule layerRule) :
      (Interceptor.composite layers).Every policyRule layerRule
  | logging : Interceptor.logging.Every policyRule layerRule
  | custom {layer : Layer m} (hLayer : layerRule layer) :
      (Interceptor.custom layer).Every policyRule layerRule

-- ---------------------------------------------------------------------------
-- Ending spans
-- ---------------------------------------------------------------------------

def SpanOp.LeavesSpansOpen : SpanOp → Prop
  | act _ a => a ≠ .finish
  | hook _ | isRecording _ => True

def HandlerOp.LeavesSpansOpen : HandlerOp m → Prop
  | span o => o.LeavesSpansOpen
  | client _ | wait => True

def LayerOp.LeavesSpansOpen : LayerOp m → Prop
  | handler o => o.LeavesSpansOpen
  | .next _ => True

def Handler.LeavesSpansOpen (h : Handler m) : Prop :=
  ∀ subject, (h subject).Only HandlerOp.LeavesSpansOpen

def Layer.LeavesSpansOpen (layer : Layer m) : Prop :=
  ∀ info subject, (layer info subject).Only LayerOp.LeavesSpansOpen

/-- A policy whose decorator, if there is one, ends no span. -/
def TracingPolicy.LeavesSpansOpen (p : TracingPolicy) : Prop :=
  ∀ decorator, p.decorator = some decorator →
    ∀ d, (decorator d).Only SpanOp.LeavesSpansOpen

/-- A tree in which neither a decorator nor a layer of the users' ends a span. -/
def Interceptor.LeavesSpansOpen (i : Interceptor m) : Prop :=
  i.Every TracingPolicy.LeavesSpansOpen Layer.LeavesSpansOpen

-- ---------------------------------------------------------------------------
-- Keeping the metadata
-- ---------------------------------------------------------------------------

def LayerOp.KeepsMetadata (attached : Option Metadata) : LayerOp m → Prop
  | handler _ => True
  | .next subject => (Mode.contextOf subject).metadata = attached

/-- A layer that calls on with the metadata that came, if it calls on: for one, with the very
context that came. -/
def Layer.KeepsMetadata (layer : Layer m) : Prop :=
  ∀ info subject,
    (layer info subject).Only (LayerOp.KeepsMetadata (Mode.contextOf subject).metadata)

/-- A tree in which no layer of the users' replaces the metadata of a call. -/
def Interceptor.KeepsMetadata (i : Interceptor m) : Prop :=
  i.Every (fun _ => True) Layer.KeepsMetadata

-- ---------------------------------------------------------------------------
-- A layer, a handler and a tree of them
-- ---------------------------------------------------------------------------

/-- Calls on twice, and answers as the second time. -/
def Layer.twice : Layer m := fun _ subject =>
  .perform (.next subject) fun _ => .perform (.next subject) fun result => .done result

/-- Renames the span of its context and answers with the request. -/
def Handler.renaming : Handler .unary := fun r =>
  .perform (.span (.act r.context (.rename "renamed"))) fun _ => .done (.ok r.message)

def UnaryRequest.blank : UnaryRequest := ⟨∅, ⟨.unit, .unit⟩⟩

/-- A world in which no call was made. -/
def World.fresh : World Unit := ⟨∅, ()⟩

/-- Traces a call, reports on it, calls on twice, and traces what comes of it each time. -/
def Interceptor.retraced : Interceptor .unary :=
  .tracing .standard
    (some (.composite [.logging, .custom .twice, .tracing .standard none]))

/-- What the tree of `Interceptor.retraced` consists of keeps to a rule if its policy and its
layer do. -/
theorem Interceptor.retraced_every {policyRule : TracingPolicy → Prop}
    {layerRule : Layer .unary → Prop} (hp : policyRule .standard) (hl : layerRule .twice) :
    Interceptor.retraced.Every policyRule layerRule := by
  refine .tracing hp fun d hd => ?_
  obtain rfl := Option.some.inj hd
  refine .composite fun layer hmem => ?_
  simp only [List.mem_cons, List.not_mem_nil, or_false] at hmem
  rcases hmem with rfl | rfl | rfl
  · exact .logging
  · exact .custom hl
  · exact .tracing hp fun d hd => nomatch hd

theorem Interceptor.retraced_leavesSpansOpen : Interceptor.retraced.LeavesSpansOpen := by
  refine Interceptor.retraced_every ?_ ?_
  · intro decorator hd
    exact nomatch hd
  · intro info subject
    exact ⟨trivial, fun _ => ⟨trivial, fun _ => trivial⟩⟩

theorem Interceptor.retraced_keepsMetadata : Interceptor.retraced.KeepsMetadata := by
  refine Interceptor.retraced_every trivial ?_
  intro info subject
  exact ⟨rfl, fun _ => ⟨rfl, fun _ => trivial⟩⟩

theorem Handler.renaming_leavesSpansOpen : Handler.renaming.LeavesSpansOpen := by
  intro r
  exact ⟨SpanAction.noConfusion, fun _ => trivial⟩

end CallSpan
