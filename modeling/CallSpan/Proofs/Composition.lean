import CallSpan.Options
import CallSpan.Proofs.Conduct

/-!
# Composites and delegates

A composite hands on by position, and every time one of its layers calls on, the chain
behind that layer is built anew. What this comes to is the **right fold** of the layers
around the handler: a layer gets the description of the call as it came, and as its
inside all the layers behind it, from the first of them on, however often it calls on.
So how layers are grouped into composites does not matter, and a composite as the
delegate of a tracing layer is one more way to group them.

The positions that are read are those of the list, and no more (`chainWithin_eq`).

Main results:

* `Interceptor.composite_nesting` — what a composite amounts to, and that composites
  nest freely.
* `Options.interceptor_delegating_composite` — a tracing interceptor with a composite as
  its delegate is a composite that begins with the tracing interceptor.
-/

namespace CallSpan

variable {m : Mode} {σ : Type}

-- ---------------------------------------------------------------------------
-- Positions
-- ---------------------------------------------------------------------------

/-- The layers from a position on, as `chainFrom` has them, with the list read at whatever
position comes next: nothing if no layer stands at a position that is read, or if the end of
the list is not reached in so many steps. -/
def chainWithin (layers : List (Around m σ)) (info : m.Info) (inner : Inside m σ) :
    Nat → Nat → Option (Inside m σ)
  | 0, _ => none
  | steps + 1, position =>
    if layers.length ≤ position then some inner
    else do
      let layer ← layers[position]?
      let inside ← chainWithin layers info inner steps (position + 1)
      some (layer info inside)

/-- A layer stands at every position that is read, and the end is reached. -/
theorem chainWithin_eq (layers : List (Around m σ)) (info : m.Info) (inner : Inside m σ)
    {steps position : Nat} (h : layers.length - position < steps) :
    chainWithin layers info inner steps position = some (chainFrom layers position info inner) := by
  induction steps generalizing position with
  | zero => omega
  | succ steps ih =>
    rw [chainWithin, chainFrom]
    by_cases hposition : position < layers.length
    · have hrest : chainWithin layers info inner steps (position + 1)
          = some (chainFrom layers (position + 1) info inner) := ih (by omega)
      rw [if_neg (by omega), dif_pos hposition, List.getElem?_eq_getElem hposition, hrest]
      rfl
    · rw [if_pos (by omega), dif_neg hposition]

-- ---------------------------------------------------------------------------
-- Composites
-- ---------------------------------------------------------------------------

namespace Interceptor

variable (info : m.Info) (inner : Continuation m)

theorem intercept_composite_nil : (composite []).intercept info inner = inner := by
  rw [intercept_composite, List.foldr_nil]

theorem intercept_composite_cons (layer : Interceptor m) (layers : List (Interceptor m)) :
    (composite (layer :: layers)).intercept info inner
      = layer.intercept info ((composite layers).intercept info inner) := by
  rw [intercept_composite, intercept_composite, List.foldr_cons]

theorem intercept_composite_append (xs ys : List (Interceptor m)) :
    (composite (xs ++ ys)).intercept info inner
      = (composite xs).intercept info ((composite ys).intercept info inner) := by
  rw [intercept_composite, intercept_composite, intercept_composite, List.foldr_append]

/-- **Composites.** A composite is the right fold of its layers, found by reading the list at
its own positions. Each layer gets the description of the call, and around the handler all
the layers behind it, whenever it calls on. The empty composite is the handler, and a
composite in a composite is its layers in their place. -/
theorem composite_nesting :
    (∀ layers : List (Interceptor m), (composite layers).intercept info inner
      = layers.foldr (fun layer inside => layer.intercept info inside) inner) ∧
    (∀ layers : List (Interceptor m),
      chainWithin (layers.map intercept) info inner (layers.length + 1) 0
        = some ((composite layers).intercept info inner)) ∧
    (∀ before layer after, (composite (before ++ layer :: after)).intercept info inner
      = (composite before).intercept info
          (layer.intercept info ((composite after).intercept info inner))) ∧
    (∀ (layer : Layer m) after subject,
      (composite (.custom layer :: after)).intercept info inner subject
        = (layer info subject).run
            (LayerOp.perform ((composite after).intercept info inner))) ∧
    (composite []).intercept info inner = inner ∧
    ∀ xs ys zs, (composite (xs ++ [composite ys] ++ zs)).intercept info inner
      = (composite (xs ++ ys ++ zs)).intercept info inner := by
  refine ⟨?_, ?_, ?_, ?_, ?_, ?_⟩
  · intro layers
    exact intercept_composite layers info inner
  · intro layers
    rw [chainWithin_eq _ info inner (by rw [List.length_map]; omega), intercept,
      interceptAll_eq_map]
  · intro before layer after
    rw [intercept_composite_append, intercept_composite_cons]
  · intro layer after subject
    rw [intercept_composite_cons]
    simp only [intercept]
  · exact intercept_composite_nil info inner
  · intro xs ys zs
    calc (composite (xs ++ [composite ys] ++ zs)).intercept info inner
        = (composite xs).intercept info
            ((composite ys).intercept info ((composite zs).intercept info inner)) := by
          rw [List.append_assoc, List.singleton_append, intercept_composite_append,
            intercept_composite_cons]
      _ = (composite (xs ++ ys ++ zs)).intercept info inner := by
          rw [List.append_assoc, intercept_composite_append, intercept_composite_append]

end Interceptor

-- ---------------------------------------------------------------------------
-- Delegates
-- ---------------------------------------------------------------------------

/-- The option that sets the delegate for calls of a mode. -/
def ServerOption.delegating : {m : Mode} → Interceptor m → ServerOption
  | .unary, i => .unaryInterceptor i
  | .streaming, i => .streamInterceptor i

/-- Whether an option sets the delegate for calls of a mode. -/
def ServerOption.isDelegate : Mode → ServerOption → Bool
  | .unary, .unaryInterceptor _ => true
  | .streaming, .streamInterceptor _ => true
  | _, _ => false

namespace Options

def delegate (o : Options) : (m : Mode) → Option (Interceptor m)
  | .unary => o.unaryDelegate
  | .streaming => o.streamDelegate

def withDelegate (o : Options) : {m : Mode} → Interceptor m → Options
  | .unary, i => { o with unaryDelegate := some i }
  | .streaming, i => { o with streamDelegate := some i }

theorem interceptor_eq (o : Options) (m : Mode) :
    o.interceptor m = .tracing o.toTracingPolicy (o.delegate m) := by
  cases m <;> rfl

theorem interceptor_withDelegate (o : Options) (i : Interceptor m) :
    (o.withDelegate i).interceptor m = .tracing o.toTracingPolicy (some i) := by
  cases m <;> rfl

theorem delegate_apply {c : ServerOption} (hc : c.isDelegate m = false) (o : Options) :
    (c.apply o).delegate m = o.delegate m := by
  cases m with
  | unary =>
    cases c with
    | unaryInterceptor i => cases hc
    | _ => rfl
  | streaming =>
    cases c with
    | streamInterceptor i => cases hc
    | _ => rfl

/-- An option for something else may come before the delegate or behind it. -/
theorem apply_withDelegate {c : ServerOption} (hc : c.isDelegate m = false) (o : Options)
    (i : Interceptor m) : c.apply (o.withDelegate i) = (c.apply o).withDelegate i := by
  cases m with
  | unary =>
    cases c with
    | unaryInterceptor i => cases hc
    | _ => rfl
  | streaming =>
    cases c with
    | streamInterceptor i => cases hc
    | _ => rfl

theorem delegate_foldl {changes : List ServerOption}
    (h : ∀ c ∈ changes, c.isDelegate m = false) (o : Options) :
    (changes.foldl ServerOption.apply o).delegate m = o.delegate m := by
  induction changes generalizing o with
  | nil => rfl
  | cons c changes ih =>
    rw [List.foldl_cons, ih fun x hx => h x (List.mem_cons_of_mem c hx)]
    exact delegate_apply (h c List.mem_cons_self) o

theorem foldl_withDelegate {changes : List ServerOption}
    (h : ∀ c ∈ changes, c.isDelegate m = false) (o : Options) (i : Interceptor m) :
    changes.foldl ServerOption.apply (o.withDelegate i)
      = (changes.foldl ServerOption.apply o).withDelegate i := by
  induction changes generalizing o with
  | nil => rfl
  | cons c changes ih =>
    rw [List.foldl_cons, List.foldl_cons, apply_withDelegate (h c List.mem_cons_self)]
    exact ih (fun x hx => h x (List.mem_cons_of_mem c hx)) (c.apply o)

/-- Wherever the option for the delegate stands, it sets the delegate and nothing else. -/
theorem ofList_delegating {before after : List ServerOption}
    (h : ∀ c ∈ after, c.isDelegate m = false) (i : Interceptor m) :
    ofList (before ++ .delegating i :: after) = (ofList (before ++ after)).withDelegate i := by
  have hset : ∀ o : Options, (ServerOption.delegating i).apply o = o.withDelegate i := by
    intro o
    cases m <;> rfl
  rw [ofList, ofList, List.foldl_append, List.foldl_append, List.foldl_cons, hset,
    foldl_withDelegate h]

/-- **Delegates.** A composite as the delegate of a tracing interceptor, and the composite of
the tracing interceptor and the same layers, run every call alike: with the same outcome, the
same log and the same client in the end, whether the call is traced or not. -/
theorem interceptor_delegating_composite {before after : List ServerOption}
    (h : ∀ c ∈ before ++ after, c.isDelegate m = false) (layers : List (Interceptor m))
    (info : m.Info) (inner : Continuation m) (subject : m.Subject) (w : World m.Client) :
    ((ofList (before ++ .delegating (.composite layers) :: after)).interceptor m).intercept
        info inner subject w
      = (Interceptor.composite ((ofList (before ++ after)).interceptor m :: layers)).intercept
          info inner subject w := by
  have hafter : ∀ c ∈ after, c.isDelegate m = false :=
    fun c hc => h c (List.mem_append_right before hc)
  have hnone : (ofList (before ++ after)).delegate m = none := by
    rw [ofList, delegate_foldl h]
    cases m <;> rfl
  rw [ofList_delegating hafter, interceptor_withDelegate, interceptor_eq, hnone,
    Interceptor.intercept_composite_cons]
  -- with the composite as delegate or as inside, the layer stands around the same
  simp only [Interceptor.intercept, Interceptor.through]

/-- Options on both sides of the delegate, and in it a layer that calls on twice. -/
theorem interceptor_delegating_composite_twice :
    (∀ c ∈ [ServerOption.logPayloads] ++ [.logErrors false], c.isDelegate .unary = false) ∧
      ((ofList [.logPayloads, .unaryInterceptor (.composite [.logging, .custom .twice]),
          .logErrors false]).interceptor .unary).intercept ⟨"/shop/Buy"⟩
            Handler.renaming.serve .blank .fresh
        = (Interceptor.composite [(ofList [.logPayloads, .logErrors false]).interceptor .unary,
            .logging, .custom .twice]).intercept ⟨"/shop/Buy"⟩
              Handler.renaming.serve .blank .fresh := by
  have h : ∀ c ∈ [ServerOption.logPayloads] ++ [.logErrors false],
      c.isDelegate .unary = false := by
    decide
  exact ⟨h, interceptor_delegating_composite h [.logging, .custom .twice] ⟨"/shop/Buy"⟩
    Handler.renaming.serve .blank .fresh⟩

end Options

end CallSpan
