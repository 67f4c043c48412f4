import CallSpan.Tracing

/-!
# Interceptors

An **interceptor** stands around the handlers of a service. It is a tree: a
tracing layer, which may have a **delegate** between itself and the handler; a
**composite** of layers, the first outermost; the logging layer; or a layer of
the user's own.

A composite hands on by position: the layer at a position gets as its inside
whatever begins at the next position, and behind the last one is the handler.

* `Interceptor.intercept`  — an interceptor around what lies within.
* `chainFrom`              — the layers of a composite from a position on.
* `Interceptor.induct`     — induction over trees.
-/

namespace CallSpan

/-- What stands around a handler. -/
inductive Interceptor (m : Mode) where
  | tracing (policy : TracingPolicy) (delegate : Option (Interceptor m))
  | composite (layers : List (Interceptor m))
  | logging
  | custom (layer : Layer m)

/-- How an interceptor acts: for the description of a call, it turns what lies within into
what is seen from without. -/
abbrev Around (m : Mode) (σ : Type) := m.Info → Inside m σ → Inside m σ

/-- The layers from a position on, around what lies within the last one. -/
def chainFrom {m : Mode} {σ : Type} (layers : List (Around m σ)) (position : Nat)
    (info : m.Info) (inner : Inside m σ) : Inside m σ :=
  if h : position < layers.length then
    -- every time a layer calls on, all that lies behind it runs anew
    layers[position] info (chainFrom layers (position + 1) info inner)
  else inner
termination_by layers.length - position

/-- From a position on, a chain nests the layers that stand there. -/
theorem chainFrom_eq_foldr {m : Mode} {σ : Type} (layers : List (Around m σ)) (info : m.Info)
    (inner : Inside m σ) (position : Nat) :
    chainFrom layers position info inner
      = (layers.drop position).foldr (fun layer inside => layer info inside) inner := by
  unfold chainFrom
  split
  · rename_i h
    rw [List.drop_eq_getElem_cons h, List.foldr_cons,
      chainFrom_eq_foldr layers info inner (position + 1)]
  · rename_i h
    rw [List.drop_eq_nil_of_le (by omega), List.foldr_nil]
termination_by layers.length - position

namespace Interceptor

variable {m : Mode}

mutual

/-- An interceptor around what lies within. -/
def intercept : Interceptor m → Around m m.Client
  | tracing policy delegate => fun info inner => policy.around info (through delegate info inner)
  | composite layers => chainFrom (interceptAll layers) 0
  | logging => loggedAround
  | custom layer => fun info inner subject => (layer info subject).run (LayerOp.perform inner)

/-- A delegate around what lies within: nothing more if there is none. -/
def through : Option (Interceptor m) → Around m m.Client
  | none => fun _ inner => inner
  | some delegate => delegate.intercept

def interceptAll : List (Interceptor m) → List (Around m m.Client)
  | [] => []
  | layer :: layers => layer.intercept :: interceptAll layers

end

theorem interceptAll_eq_map (layers : List (Interceptor m)) :
    interceptAll layers = layers.map intercept := by
  induction layers with
  | nil => rfl
  | cons layer layers ih => simp [interceptAll, ih]

/-- A composite nests its layers, the first outermost. -/
theorem intercept_composite (layers : List (Interceptor m)) (info : m.Info)
    (inner : Continuation m) :
    (composite layers).intercept info inner
      = layers.foldr (fun layer inside => layer.intercept info inside) inner := by
  rw [intercept, chainFrom_eq_foldr, interceptAll_eq_map, List.drop_zero, List.foldr_map]

/-- What a tree has if its parts have it, every tree has. -/
@[induction_eliminator]
theorem induct {motive : Interceptor m → Prop}
    (tracing : ∀ policy delegate, (∀ d, delegate = some d → motive d) →
      motive (.tracing policy delegate))
    (composite : ∀ layers, (∀ layer ∈ layers, motive layer) → motive (.composite layers))
    (logging : motive .logging) (custom : ∀ layer, motive (.custom layer))
    (i : Interceptor m) : motive i := by
  refine @Interceptor.rec m motive (fun delegate => ∀ d, delegate = some d → motive d)
    (fun layers => ∀ layer ∈ layers, motive layer) tracing composite logging custom ?none ?some
    ?nil ?cons i
  case none =>
    intro d h
    cases h
  case some =>
    intro d hd d' h
    cases h
    exact hd
  case nil =>
    intro layer h
    cases h
  case cons =>
    intro first rest hfirst hrest layer h
    rcases List.mem_cons.mp h with rfl | h
    · exact hfirst
    · exact hrest layer h

end Interceptor

end CallSpan
