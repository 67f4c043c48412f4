import CallSpan.Proofs.Audit

/-!
# Runs of a stream

A channel is worked on from two sides. Handlers and layers do stream operations on it, through
whatever wrappers, and look at what their client sees. Meanwhile the client may do as it likes
on its own side: send items, take out messages, go away. A **run** is any sequence of this, in
any order, also after operations that failed, and after sends that were given up while they
waited for room.

A run keeps a **history**: each operation with what came of it. Operations are not chosen
beforehand, so a run may be that of a program that goes by earlier answers.

Main results:

* `Interceptor.intercept_related` — what holds before and after each operation on a channel holds
  before and after a call.
* `Interceptor.intercept_runs`    — whatever a call does with its channel is a run.
-/

namespace CallSpan

-- ---------------------------------------------------------------------------
-- Histories
-- ---------------------------------------------------------------------------

/-- What an operation on a channel comes to, from either side. -/
def StreamCall.perform : (o : StreamCall) → Channel → Outcome o.Answer × Channel
  | .onServer s op, c => s.perform op c
  | .onClient op, c => (.returned (Channel.serve op c).1, (Channel.serve op c).2)

theorem Mode.performClient_eq (o : StreamCall) :
    Mode.performClient (m := .streaming) o = Call.onClient o.perform := by
  cases o with
  | onServer s op => rfl
  | onClient op => rfl

/-- An operation and what came of it. -/
structure StreamEvent where
  call : StreamCall
  came : Outcome call.Answer

/-- What came of operations, in the order in which they were done. -/
abbrev History := List StreamEvent

namespace Channel

/-- What a client that does as it likes leaves alone: the metadata of the response, and of what
kind messages have to be. -/
structure Undisturbed (c c' : Channel) : Prop where
  response : c'.response = c.response
  responseKind : c'.responseKind = c.responseKind

/-- What may become of a channel, with the history of the operations on it. -/
inductive Run (c : Channel) : History → Channel → Prop where
  | start : Run c [] c
  | call {es : History} {c' : Channel} (h : Run c es c') (o : StreamCall) :
      Run c (es ++ [⟨o, (o.perform c').1⟩]) (o.perform c').2
  | aside {es : History} {c' c'' : Channel} (h : Run c es c') (hc : Undisturbed c' c'') :
      Run c es c''

theorem Run.trans {c c' c'' : Channel} {es es' : History} (h : Run c es c')
    (h' : Run c' es' c'') : Run c (es ++ es') c'' := by
  induction h' with
  | start =>
    rw [List.append_nil]
    exact h
  | call _ o ih =>
    rw [← List.append_assoc]
    exact ih.call o
  | aside _ hc ih => exact ih.aside hc

end Channel

-- ---------------------------------------------------------------------------
-- What a call does with its channel
-- ---------------------------------------------------------------------------

namespace Call.Rule

variable {R : Channel → Channel → Prop} (hrefl : ∀ c, R c c)
  (htrans : ∀ {c c' c''}, R c c' → R c' c'' → R c c'')

/-- The rule that the channel is, before and after a call, as a relation says. -/
def onChannel : Call.Rule (Watched .streaming) (Watched .streaming) :=
  .onClient (fun x x' => R x.1 x'.1) (fun x => hrefl x.1) htrans

/-- What is done besides operations on the channel leaves it alone. -/
theorem onChannel_universal (hcall : ∀ (o : StreamCall) c, R c (o.perform c).2) :
    (onChannel hrefl htrans).Universal where
  panics _ w := hrefl w.client.1
  allowsAll _ _ _ := trivial
  wait w := hrefl w.client.1
  start _ w := hrefl w.client.1
  step _ w := hrefl w.client.1
  client o w := by
    rw [Mode.performClient_eq]
    exact hcall o w.client.1
  finishing _ hc := hc
  settling hc := hc

end Call.Rule

/-- What holds of a channel before and after each operation, and from one to the next, holds of it
before and after a call, whatever the tree, the handler and the outcome. -/
theorem Interceptor.intercept_related {R : Channel → Channel → Prop}
    (hrefl : ∀ c, R c c)
    (htrans : ∀ {c c' c''}, R c c' → R c' c'' → R c c'')
    (hcall : ∀ (o : StreamCall) c, R c (o.perform c).2)
    (i : Interceptor .streaming) (h : Handler .streaming) (info : StreamInfo) (s : ServerStream)
    (w : World Channel) : R w.client (i.intercept info h.serve s w).2.client := by
  have hcalls := (Call.Rule.onChannel_universal hrefl htrans hcall).call i h info s (w.beside [])
  rw [i.audited_eq h info s w] at hcalls
  exact hcalls

/-- Whatever the tree, the handler and the outcome, a call leaves the channel as some run of it
does. -/
theorem Interceptor.intercept_runs (i : Interceptor .streaming) (h : Handler .streaming)
    (info : StreamInfo) (s : ServerStream) (w : World Channel) :
    ∃ es, Channel.Run w.client es (i.intercept info h.serve s w).2.client :=
  i.intercept_related (R := fun c c' => ∃ es, Channel.Run c es c')
    (fun _ => ⟨[], .start⟩) (fun ⟨es, hrun⟩ ⟨es', hrun'⟩ => ⟨es ++ es', hrun.trans hrun'⟩)
    (fun o _ => ⟨_, Channel.Run.start.call o⟩) h info s w

end CallSpan
