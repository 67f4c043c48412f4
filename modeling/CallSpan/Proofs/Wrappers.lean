import CallSpan.Stream
import Mathlib.Data.List.Forall2
import Mathlib.Logic.Function.Iterate

/-!
# Streams in wrappers

Every tracing layer puts a stream into a wrapper with a context of its own, and so may any
other. To **use** a stream is to ask for its context and to do operations on it, one after the
other, where what is done next may depend on all that has been answered: also on errors, and on
a send that was given up because it had to wait. In between, others work on what lies behind
the stream; this is how room comes for a message that has to wait.

Through wrappers the same use comes to the same: the same answers, but that the context is that
of the **outermost** wrapper, and the same is left of what lies behind. This does not hang on what
a stream is made of, so it is shown for streams of any make besides channels.

Main results:

* `Endpoint.Simulates.use` — what is kept by each operation is kept by any use.
* `wrappers_transparent`   — a stream in wrappers is used as the stream itself.
-/

namespace CallSpan

-- ---------------------------------------------------------------------------
-- Using a stream
-- ---------------------------------------------------------------------------

/-- What can happen to a stream behind which there is a `σ`. -/
inductive StreamUse (σ : Type) where
  | context
  | operate (op : StreamOp)
  /-- Others work on what lies behind the stream. -/
  | meanwhile (others : σ → σ)

/-- The answers. An operation may also not come to an end, and it goes on after this as well. -/
@[reducible] def StreamUse.Answer {σ : Type} : StreamUse σ → Type
  | context => Context
  | operate op => Outcome op.Answer
  | meanwhile _ => Unit

abbrev streamUses (σ : Type) : Signature := ⟨StreamUse σ, StreamUse.Answer⟩

/-- What is answered by a stream that is held as a `τ`. -/
structure Endpoint (σ τ : Type) where
  context : τ → Context
  perform : (op : StreamOp) → τ → Outcome op.Answer × τ
  meanwhile : (σ → σ) → τ → τ

/-- What was done, and what was answered. -/
structure StreamUsed (σ : Type) where
  use : StreamUse σ
  came : use.Answer

/-- What a use comes to: a value, all that was done and answered, and what is left. -/
structure Usage (σ τ α : Type) where
  value : α
  history : List (StreamUsed σ)
  left : τ

section Use

variable {σ τ τ' α : Type}

def Endpoint.act (k : Endpoint σ τ) : (u : StreamUse σ) → τ → u.Answer × τ
  | .context, x => (k.context x, x)
  | .operate op, x => k.perform op x
  | .meanwhile others, x => ((), k.meanwhile others x)

/-- Uses a stream. -/
def Program.use (k : Endpoint σ τ) : Program (streamUses σ) α → τ → Usage σ τ α
  | .done a, x => ⟨a, [], x⟩
  | .perform u next, x =>
    let (came, x') := k.act u x
    let rest := (next came).use k x'
    { rest with history := ⟨u, came⟩ :: rest.history }

/-- The same use, but that it goes on as if the context were `outer`. -/
def Program.told (outer : Context) : Program (streamUses σ) α → Program (streamUses σ) α
  | .done a => .done a
  | .perform .context next => .perform .context fun _ => (next outer).told outer
  | .perform (.operate op) next => .perform (.operate op) fun came => (next came).told outer
  | .perform (.meanwhile others) next =>
    .perform (.meanwhile others) fun came => (next came).told outer

/-- The same was done, and the same was answered, but that the context was `outer`. -/
inductive StreamUsed.SameBut (outer : Context) : StreamUsed σ → StreamUsed σ → Prop where
  | context (own : Context) : SameBut outer ⟨.context, outer⟩ ⟨.context, own⟩
  | operate (op : StreamOp) (came : Outcome op.Answer) :
      SameBut outer ⟨.operate op, came⟩ ⟨.operate op, came⟩
  | meanwhile (others : σ → σ) :
      SameBut outer ⟨.meanwhile others, ()⟩ ⟨.meanwhile others, ()⟩

/-- Two uses that come to the same, but that in the first the context was `outer`, and with what
is left related. -/
structure Usage.SameBut (outer : Context) (related : τ → τ' → Prop) (u : Usage σ τ α)
    (u' : Usage σ τ' α) : Prop where
  value : u.value = u'.value
  history : List.Forall₂ (StreamUsed.SameBut outer) u.history u'.history
  left : related u.left u'.left

/-- On related streams the same is answered, but that the context is `outer`, and they stay
related. -/
structure Endpoint.Simulates (k : Endpoint σ τ) (k' : Endpoint σ τ') (outer : Context)
    (related : τ → τ' → Prop) : Prop where
  context : ∀ x x', related x x' → k.context x = outer
  perform : ∀ op x x', related x x' →
    (k.perform op x).1 = (k'.perform op x').1 ∧
      related (k.perform op x).2 (k'.perform op x').2
  meanwhile : ∀ others x x', related x x' →
    related (k.meanwhile others x) (k'.meanwhile others x')

/-- What is kept by each operation is kept by any use. -/
theorem Endpoint.Simulates.use {k : Endpoint σ τ} {k' : Endpoint σ τ'} {outer : Context}
    {related : τ → τ' → Prop} (h : k.Simulates k' outer related)
    (p : Program (streamUses σ) α) {x : τ} {x' : τ'} (hx : related x x') :
    (p.use k x).SameBut outer related ((p.told outer).use k' x') := by
  induction p generalizing x x' with
  | done a => exact ⟨rfl, .nil, hx⟩
  | perform u next ih =>
    cases u with
    | context =>
      have hcontext : k.context x = outer := h.context x x' hx
      have hrest := ih outer hx
      rw [Program.use, Endpoint.act, hcontext]
      exact ⟨hrest.value, .cons (.context _) hrest.history, hrest.left⟩
    | operate op =>
      obtain ⟨hcame, hleft⟩ := h.perform op x x' hx
      rw [Program.use, Program.told, Program.use, Endpoint.act, Endpoint.act]
      generalize k.perform op x = answered at hcame hleft ⊢
      generalize k'.perform op x' = answered' at hcame hleft ⊢
      obtain ⟨came, y⟩ := answered
      obtain ⟨came', y'⟩ := answered'
      obtain rfl : came = came' := hcame
      have hrest := ih came hleft
      exact ⟨hrest.value, .cons (.operate op came) hrest.history, hrest.left⟩
    | meanwhile others =>
      have hrest := ih () (h.meanwhile others x x' hx)
      exact ⟨hrest.value, .cons (.meanwhile others) hrest.history, hrest.left⟩

end Use

-- ---------------------------------------------------------------------------
-- Channels in wrappers
-- ---------------------------------------------------------------------------

namespace ServerStream

/-- The stream in wrappers, with the outermost first. -/
def within (s : ServerStream) : List Context → ServerStream
  | [] => s
  | cx :: cxs => .wrapped (s.within cxs) cx

def endpoint (s : ServerStream) : Endpoint Channel Channel where
  context _ := s.context
  perform := s.perform
  meanwhile others := others

/-- Each wrapper passes an operation on to what it holds. -/
theorem perform_within (s : ServerStream) (cxs : List Context) (op : StreamOp) (c : Channel) :
    (s.within cxs).perform op c = s.perform op c := by
  induction cxs with
  | nil => rfl
  | cons cx cxs ih => exact ih

/-- Taking off as many wrappers as there are gives back the stream. -/
theorem inner_iterate_within (s : ServerStream) (cxs : List Context) :
    inner^[cxs.length] (s.within cxs) = s := by
  induction cxs with
  | nil => rfl
  | cons cx cxs ih =>
    rw [List.length_cons, Function.iterate_succ_apply, within, inner_wrapped, ih]

theorem simulates_within (s : ServerStream) (outer : Context) (cxs : List Context) :
    (s.within (outer :: cxs)).endpoint.Simulates s.endpoint outer Eq where
  context _ _ _ := rfl
  perform op c c' hc := by
    subst hc
    have hperform : (s.within (outer :: cxs)).endpoint.perform op c = s.endpoint.perform op c :=
      s.perform_within (outer :: cxs) op c
    rw [hperform]
    exact ⟨rfl, rfl⟩
  meanwhile others c c' hc := congrArg others hc

end ServerStream

-- ---------------------------------------------------------------------------
-- Streams of any make in wrappers
-- ---------------------------------------------------------------------------

/-- A make of streams. -/
structure StreamMake (σ : Type) where
  context : σ → Context
  perform : (op : StreamOp) → σ → Outcome op.Answer × σ

/-- A stream of some make, in wrappers that each hold the next. -/
inductive Wrapped (σ : Type) where
  | bare (x : σ)
  | wrapped (inner : Wrapped σ) (cx : Context)

namespace Wrapped

variable {σ : Type} (k : StreamMake σ)

def context : Wrapped σ → Context
  | bare x => k.context x
  | wrapped _ cx => cx

/-- A wrapper passes an operation on to what it holds, and answers what that answers. -/
def perform (op : StreamOp) : Wrapped σ → Outcome op.Answer × Wrapped σ
  | bare x => let (came, x') := k.perform op x; (came, bare x')
  | wrapped inner cx => let (came, inner') := inner.perform op; (came, wrapped inner' cx)

def meanwhile (others : σ → σ) : Wrapped σ → Wrapped σ
  | bare x => bare (others x)
  | wrapped inner cx => wrapped (inner.meanwhile others) cx

def intoInner : Wrapped σ → Wrapped σ
  | bare x => bare x
  | wrapped inner _ => inner

def within (s : Wrapped σ) : List Context → Wrapped σ
  | [] => s
  | cx :: cxs => .wrapped (s.within cxs) cx

def endpoint : Endpoint σ (Wrapped σ) := ⟨context k, perform k, meanwhile⟩

theorem perform_within (s : Wrapped σ) (cxs : List Context) (op : StreamOp) :
    (s.within cxs).perform k op = ((s.perform k op).1, (s.perform k op).2.within cxs) := by
  induction cxs with
  | nil => rfl
  | cons cx cxs ih =>
    rw [within, perform, ih]
    rfl

theorem meanwhile_within (others : σ → σ) (s : Wrapped σ) (cxs : List Context) :
    (s.within cxs).meanwhile others = (s.meanwhile others).within cxs := by
  induction cxs with
  | nil => rfl
  | cons cx cxs ih => rw [within, meanwhile, ih, within]

theorem intoInner_iterate_within (s : Wrapped σ) (cxs : List Context) :
    intoInner^[cxs.length] (s.within cxs) = s := by
  induction cxs with
  | nil => rfl
  | cons cx cxs ih =>
    rw [List.length_cons, Function.iterate_succ_apply, within, intoInner, ih]

/-- The wrappers stay as they are. -/
theorem simulates_within (outer : Context) (cxs : List Context) :
    (endpoint k).Simulates (endpoint k) outer (fun s s' => s = s'.within (outer :: cxs)) where
  context s s' hs := by
    subst hs
    rfl
  perform op s s' hs := by
    subst hs
    have hperform := perform_within k s' (outer :: cxs) op
    show (perform k op _).1 = (perform k op s').1 ∧
      (perform k op _).2 = (perform k op s').2.within _
    rw [hperform]
    exact ⟨rfl, rfl⟩
  meanwhile others s s' hs := by
    subst hs
    exact meanwhile_within others s' (outer :: cxs)

end Wrapped

/-- **Wrappers are transparent.** However a stream is used, through however many wrappers and
with whatever contexts: the same use of the stream itself, told that the context is the outermost
one, comes to the same value, with the same answer to every operation and the same left of what
lies behind; the context is the outermost one each time. Taking off the wrappers gives back the
stream, in the state in which that use leaves it. -/
theorem wrappers_transparent (outer : Context) (cxs : List Context) :
    (∀ (s : ServerStream) (c : Channel) {α : Type} (p : Program (streamUses Channel) α),
      let traced := s.within (outer :: cxs)
      (p.use traced.endpoint c).SameBut outer Eq ((p.told outer).use s.endpoint c) ∧
        ServerStream.inner^[cxs.length + 1] traced = s) ∧
    (∀ {σ : Type} (k : StreamMake σ) (s : Wrapped σ) {α : Type} (p : Program (streamUses σ) α),
      let used := p.use (Wrapped.endpoint k) (s.within (outer :: cxs))
      let used' := (p.told outer).use (Wrapped.endpoint k) s
      used.SameBut outer (fun left left' => left = left'.within (outer :: cxs)) used' ∧
        Wrapped.intoInner^[cxs.length + 1] used.left = used'.left) := by
  constructor
  · intro s c α p traced
    exact ⟨(s.simulates_within outer cxs).use p rfl, s.inner_iterate_within (outer :: cxs)⟩
  · intro σ k s α p used used'
    have hsame : used.SameBut outer (fun left left' => left = left'.within (outer :: cxs)) used' :=
      (Wrapped.simulates_within k outer cxs).use p rfl
    refine ⟨hsame, ?_⟩
    have hleft : used.left = used'.left.within (outer :: cxs) := hsame.left
    rw [hleft]
    exact Wrapped.intoInner_iterate_within _ (outer :: cxs)

end CallSpan
