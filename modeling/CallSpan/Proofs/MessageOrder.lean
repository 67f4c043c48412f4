import CallSpan.Proofs.Traffic

/-!
# Messages in order

Each step of traffic keeps the books, and so it can be said of a channel at any time what has
become of the messages for its client: they are read in the order in which they were accepted,
none is lost on the way, and none is made up. Only when the client goes away are those lost that
are queued then. In the same way those who receive get all the items that the client sends.

A handler is **at work** while the client moves (`Program.Works`): its operations are done one
after the other, and one that has to wait is tried again. What it does is traffic whatever the
client does when.

Main results:

* `Channel.inOrder_of_made` — what can be said of a channel after any traffic; and whatever a
  handler or a call does with its channel is traffic.
* `Program.works_run`       — a program that is run is at work beside a client that keeps still.
-/

namespace CallSpan

namespace Channel

variable {c c' : Channel} {x : Crossing} {t : Traffic}

-- ---------------------------------------------------------------------------
-- Messages for the client, over all traffic
-- ---------------------------------------------------------------------------

/-- What is said of the messages for the client, on a channel that was made with nothing queued,
for messages of a kind and so many at once. -/
structure Outbound (kind : Kind) (capacity : Nat) (t : Traffic) (c : Channel) : Prop where
  responseKind : c.responseKind = kind
  room : c.capacity = capacity
  closed : c.closed = t.shut
  /-- While the client is there, what it has read and what is queued are what was accepted. -/
  delivered : t.departed = false → t.read ++ c.queue = t.accepted
  /-- In any case it has read what was accepted first. -/
  kept : t.read <+: t.accepted
  emptied : t.departed = true → c.queue = []
  bounded : c.queue.length ≤ capacity
  accepts : ∀ msg ∈ t.accepted, msg.is kind = true

theorem Outbound.next {kind : Kind} {capacity : Nat} (h : c.Outbound kind capacity t)
    (hx : c.Outward x c') : c'.Outbound kind capacity (t ++ [x]) := by
  obtain ⟨rfl, rfl, hclosed, hdelivered, hkept, hemptied, hbounded, haccepts⟩ := h
  have hbalance : Traffic.departed (t ++ [x]) = false →
      Traffic.read (t ++ [x]) ++ c'.queue = Traffic.accepted (t ++ [x]) := by
    intro hthere
    rw [Traffic.departed_concat, Bool.or_eq_false_iff] at hthere
    rw [Traffic.read_concat, Traffic.accepted_concat, List.append_assoc, ← hx.balance hthere.2,
      ← List.append_assoc, hdelivered hthere.1]
  have hnothing : Traffic.departed (t ++ [x]) = true →
      x.accepted = [] ∧ x.read = [] ∧ c'.queue = [] := by
    intro hgone
    rw [Traffic.departed_concat, Bool.or_eq_true] at hgone
    refine hx.nothing (hgone.symm.imp_right fun hbefore => ?_)
    exact ⟨hclosed.trans (Traffic.shut_of_departed hbefore), hemptied hbefore⟩
  refine ⟨hx.kind, hx.capacity, ?_, hbalance, ?_, fun hgone => (hnothing hgone).2.2,
    hx.bounded hbounded, ?_⟩
  · rw [hx.closed, hclosed, Traffic.shut_concat]
  · cases hthere : Traffic.departed (t ++ [x]) with
    | false => exact ⟨c'.queue, hbalance hthere⟩
    | true =>
      obtain ⟨haccepted, hread, -⟩ := hnothing hthere
      rw [Traffic.read_concat, Traffic.accepted_concat, haccepted, hread, List.append_nil,
        List.append_nil]
      exact hkept
  · intro msg hmsg
    rw [Traffic.accepted_concat, List.mem_append] at hmsg
    rcases hmsg with hbefore | hnow
    · exact haccepts msg hbefore
    · exact (hx.accepts msg hnow).1

-- ---------------------------------------------------------------------------
-- Items from the client, over all traffic
-- ---------------------------------------------------------------------------

/-- Where each answer is that of its turn, one more may be given in its turn. -/
theorem inTurn_concat {β : Type} {answers : List β} {f : Nat → β}
    (h : ∀ n answer, answers[n]? = some answer → answer = f n) :
    ∀ n answer, (answers ++ [f answers.length])[n]? = some answer → answer = f n := by
  intro n answer hanswer
  rcases Nat.lt_or_ge n answers.length with hn | hn
  · rw [List.getElem?_append_left hn] at hanswer
    exact h n answer hanswer
  · rw [List.getElem?_append_right hn, List.getElem?_singleton,
      Option.ite_none_right_eq_some] at hanswer
    obtain ⟨hlast, hanswer⟩ := hanswer
    obtain rfl : n = answers.length := by omega
    exact (Option.some.inj hanswer).symm

/-- What is said of the items from the client, on a channel that was made with some of them, and
open for more or not. -/
structure Inbound (items : List (Result Message)) (isOpen : Bool) (t : Traffic) (c : Channel) :
    Prop where
  /-- The answers are all the items, each in its turn and once, and then the end for ever. -/
  received : ∀ n answer, t.received[n]? = some answer → answer = itemAt (items ++ t.sent) n
  remaining : c.inbound = (items ++ t.sent).drop t.received.length
  unended : c.inboundOpen = true → t.received.length ≤ (items ++ t.sent).length
  ended : isOpen = false → c.inboundOpen = false ∧ t.sent = []

theorem Inbound.next {items : List (Result Message)} {isOpen : Bool}
    (h : c.Inbound items isOpen t) (hx : c.Inward x c') : c'.Inbound items isOpen (t ++ [x]) := by
  obtain ⟨hreceived, hremaining, hunended, hended⟩ := h
  cases hx with
  | idle hnone hsent hinbound hopen =>
    refine ⟨?_, ?_, ?_, ?_⟩
    all_goals rw [Traffic.sent_concat, hsent, List.append_nil]
    · rw [Traffic.received_concat, hnone, List.append_nil]
      exact hreceived
    · rw [Traffic.received_concat, hnone, List.append_nil, hinbound]
      exact hremaining
    · rw [Traffic.received_concat, hnone, List.append_nil]
      exact fun h => hunended (hopen h)
    · intro hclosed
      obtain ⟨hfinished, hnothing⟩ := hended hclosed
      exact ⟨Bool.eq_false_iff.mpr fun h => Bool.false_ne_true (hfinished.symm.trans (hopen h)),
        hnothing⟩
  | sends hnone item hsent hinbound hopen =>
    have hlength := hunended hopen
    refine ⟨?_, ?_, ?_, ?_⟩
    · rw [Traffic.received_concat, Traffic.sent_concat, hnone, hsent, List.append_nil,
        ← List.append_assoc]
      intro n answer hanswer
      -- as long as more can come, no answer was the end
      have hn : n < t.received.length := (List.getElem?_eq_some_iff.mp hanswer).1
      rw [itemAt_append (by omega)]
      exact hreceived n answer hanswer
    · rw [Traffic.received_concat, Traffic.sent_concat, hnone, hsent, List.append_nil,
        ← List.append_assoc, List.drop_append_of_le_length hlength, hinbound, hremaining]
    · rw [Traffic.received_concat, Traffic.sent_concat, hnone, hsent, List.append_nil,
        ← List.append_assoc, List.length_append]
      intro _
      omega
    · intro hclosed
      exact absurd ((hended hclosed).1.symm.trans hopen) Bool.false_ne_true
  | receives hone hsent hinbound hopen hlast =>
    refine ⟨?_, ?_, ?_, ?_⟩
    all_goals rw [Traffic.sent_concat, hsent, List.append_nil]
    · rw [Traffic.received_concat, hone, hremaining, itemAt_drop]
      exact inTurn_concat hreceived
    · rw [Traffic.received_concat, hone, List.length_append, List.length_singleton, hinbound,
        hremaining, List.tail_drop]
    · rw [Traffic.received_concat, hone, List.length_append, List.length_singleton]
      intro hstill
      -- where more can come, there was an item to receive
      have hsome : c.inbound ≠ [] := by
        intro hnone
        exact Bool.false_ne_true ((hlast hnone).symm.trans (hopen.symm.trans hstill))
      rw [hremaining, ne_eq, List.drop_eq_nil_iff] at hsome
      omega
    · intro hclosed
      obtain ⟨hfinished, hnothing⟩ := hended hclosed
      exact ⟨hopen.trans hfinished, hnothing⟩

-- ---------------------------------------------------------------------------
-- All that crosses a channel
-- ---------------------------------------------------------------------------

variable {kind : Kind} {items : List (Result Message)} {isOpen : Bool} {capacity : Nat}

/-- A channel is made if there is to be room for a message, and not for too many. -/
theorem make?_eq_ok_iff : make? kind items isOpen capacity = .ok c ↔
    ∃ h : 0 < capacity, capacity ≤ maxCapacity ∧
      c = ⟨kind, items, isOpen, [], capacity, h, false, ⟨∅, ∅, false⟩⟩ := by
  unfold make?
  by_cases hpos : 0 < capacity
  · rw [dif_pos hpos]
    by_cases hmax : capacity ≤ maxCapacity
    · rw [if_pos hmax, Except.ok.injEq]
      constructor
      · intro hc
        exact ⟨hpos, hmax, hc.symm⟩
      · rintro ⟨-, -, rfl⟩
        rfl
    · rw [if_neg hmax]
      refine iff_of_false (fun h => ?_) ?_
      · cases h
      · rintro ⟨-, hle, -⟩
        exact hmax hle
  · rw [dif_neg hpos]
    refine iff_of_false (fun h => ?_) ?_
    · cases h
    · rintro ⟨hlt, -⟩
      exact hpos hlt

/-- What is said of a channel that was made for messages of a kind and so many at once, with some
items from the client and open for more or not, when `t` has crossed it. -/
structure InOrder (kind : Kind) (items : List (Result Message)) (isOpen : Bool) (capacity : Nat)
    (t : Traffic) (c : Channel) : Prop where
  outbound : c.Outbound kind capacity t
  inbound : c.Inbound items isOpen t
  /-- A message of another kind is refused, and changes nothing. -/
  refuses : ∀ (s : ServerStream) msg, msg.is kind = false → s.perform (.send msg) c
    = (.returned (.error (.internal ("unexpected response type, expected " ++ kind.typeName))), c)
  cancels : t.shut = true → ∀ (s : ServerStream) msg, msg.is kind = true → s.perform (.send msg) c
    = (.returned (.error (.plain .cancelled "response stream closed by client")), c.sealHeader)
  accepts : t.shut = false → ∀ (s : ServerStream) msg, msg.is kind = true →
    c.queue.length < capacity →
    s.perform (.send msg) c
      = (.returned (.ok ()), { c.sealHeader with queue := c.queue ++ [msg] })
  waits : t.shut = false → ∀ (s : ServerStream) msg, msg.is kind = true →
    c.queue.length = capacity → s.perform (.send msg) c = (.cancelled, c.sealHeader)
  /-- An item is received if there is one, and the end if there will be none. -/
  answers : (c.inbound = [] → c.inboundOpen = false) → ∀ s : ServerStream,
    (s.perform .receive c).1 = .returned (itemAt (items ++ t.sent) t.received.length)

theorem Carries.outbound (h : c.Carries t c') (hmade : make? kind items isOpen capacity = .ok c) :
    c'.Outbound kind capacity t := by
  obtain ⟨_, -, rfl⟩ := make?_eq_ok_iff.mp hmade
  induction h with
  | start => exact ⟨rfl, rfl, rfl, fun _ => rfl, List.prefix_rfl, nofun, Nat.zero_le _, nofun⟩
  | next _ hx ih => exact ih.next hx.outward

theorem Carries.inbound (h : c.Carries t c') (hmade : make? kind items isOpen capacity = .ok c) :
    c'.Inbound items isOpen t := by
  obtain ⟨_, -, rfl⟩ := make?_eq_ok_iff.mp hmade
  induction h with
  | start => exact ⟨nofun, (List.append_nil items).symm, fun _ => Nat.zero_le _, fun h => ⟨h, rfl⟩⟩
  | next _ hx ih => exact ih.next hx.inward

theorem Carries.inOrder (h : c.Carries t c') (hmade : make? kind items isOpen capacity = .ok c) :
    c'.InOrder kind items isOpen capacity t := by
  have hout := h.outbound hmade
  have hin := h.inbound hmade
  obtain ⟨rfl, rfl, hclosed, -⟩ := hout
  refine ⟨h.outbound hmade, hin, ?_, ?_, ?_, ?_, ?_⟩
  · intro s msg hkind
    rw [ServerStream.perform_eq]
    exact send_of_mismatch hkind
  · intro hshut s msg hkind
    rw [ServerStream.perform_eq]
    exact send_of_closed hkind (hclosed.trans hshut)
  · intro hopen s msg hkind hroom
    rw [ServerStream.perform_eq]
    exact send_of_room hkind (hclosed.trans hopen) hroom
  · intro hopen s msg hkind hfull
    rw [ServerStream.perform_eq]
    exact send_of_full hkind (hclosed.trans hopen) (by omega)
  · intro hanswers s
    have hnext : itemAt c'.inbound 0 = itemAt (items ++ t.sent) t.received.length := by
      rw [hin.remaining, itemAt_drop]
    rw [ServerStream.perform_eq, Channel.perform, receive_of_answer hanswers, hnext]
    rfl

end Channel

-- ---------------------------------------------------------------------------
-- Handlers and calls
-- ---------------------------------------------------------------------------

/-- A program at work on a channel, while the client moves: what it has still to do, and what the
channel has become. An operation that has to wait is tried again, and what does not concern the
channel may be answered in any way. -/
inductive Program.Works {α : Type} (p : Program (handlerOps .streaming) α) (c : Channel) :
    Traffic → Program (handlerOps .streaming) α → Channel → Prop where
  | start : Works p c [] p c
  | answered {t : Traffic} {o : StreamCall} {next : o.Answer → Program (handlerOps .streaming) α}
      {c' : Channel} {answer : o.Answer} (h : Works p c t (.perform (.client o) next) c')
      (hanswer : (o.perform c').1 = .returned answer) :
      Works p c (t ++ [.call ⟨o, (o.perform c').1⟩]) (next answer) (o.perform c').2
  | waits {t : Traffic} {o : StreamCall} {next : o.Answer → Program (handlerOps .streaming) α}
      {c' : Channel} (h : Works p c t (.perform (.client o) next) c')
      (hwaits : ∀ answer, (o.perform c').1 ≠ .returned answer) :
      Works p c (t ++ [.call ⟨o, (o.perform c').1⟩]) (.perform (.client o) next) (o.perform c').2
  | elsewhere {t : Traffic} {o : SpanOp} {next : o.Answer → Program (handlerOps .streaming) α}
      {c' : Channel} (h : Works p c t (.perform (.span o) next) c') (answer : o.Answer) :
      Works p c t (next answer) c'
  | meanwhile {t : Traffic} {q : Program (handlerOps .streaming) α} {c' c'' : Channel}
      {m : ClientMove} (h : Works p c t q c') (hm : c'.Moves m c'') :
      Works p c (t ++ [.move m]) q c''

namespace Program.Works

variable {α : Type} {p q q' : Program (handlerOps .streaming) α} {c c' c'' : Channel}
  {t t' : Traffic}

theorem carries (h : p.Works c t q c') : c.Carries t c' := by
  induction h with
  | start => exact .start
  | @answered _ o _ c' _ _ _ ih => exact ih.next (.call o)
  | @waits _ o _ c' _ _ ih => exact ih.next (.call o)
  | elsewhere _ _ ih => exact ih
  | meanwhile _ hm ih => exact ih.next (.move hm)

theorem trans (h : p.Works c t q c') (h' : q.Works c' t' q' c'') :
    p.Works c (t ++ t') q' c'' := by
  induction h' with
  | start =>
    rw [List.append_nil]
    exact h
  | answered _ hanswer ih =>
    rw [← List.append_assoc]
    exact ih.answered hanswer
  | waits _ hwaits ih =>
    rw [← List.append_assoc]
    exact ih.waits hwaits
  | elsewhere _ answer ih => exact ih.elsewhere answer
  | meanwhile _ hm ih =>
    rw [← List.append_assoc]
    exact ih.meanwhile hm

end Program.Works

/-- What does not concern the channel leaves it alone. -/
theorem SpanOp.client_perform {σ : Type} (o : SpanOp) (w : World σ) :
    (o.perform w).2.client = w.client := by
  cases o with
  | hook o => cases o <;> rfl
  | act cx a => rfl
  | isRecording cx => rfl

theorem HandlerOp.perform_client (o : StreamCall) (w : World Channel) :
    HandlerOp.perform (m := .streaming) (.client o) w
      = ((o.perform w.client).1, ⟨w.recorder, (o.perform w.client).2⟩) := by
  show Mode.performClient (m := .streaming) o w = _
  rw [Mode.performClient_eq]
  rfl

namespace Program

variable {α : Type} {o : HandlerOp .streaming} (next : o.Answer → Program (handlerOps .streaming) α)
  {w w' : World Channel} {outcome : Outcome o.Answer}

/-- An operation that is answered when it is done in a running call. -/
theorem works_of_answer {answer : o.Answer} (h : o.perform w = (.returned answer, w')) :
    ∃ t, (Program.perform o next).Works w.client t (next answer) w'.client := by
  cases o with
  | span o =>
    have hsame : w'.client = w.client :=
      (congrArg (·.2.client) h).symm.trans (o.client_perform w)
    rw [hsame]
    exact ⟨[], Works.start.elsewhere answer⟩
  | client o =>
    rw [HandlerOp.perform_client] at h
    obtain ⟨hanswer, rfl⟩ := Prod.mk.inj h
    exact ⟨_, Works.start.answered hanswer⟩
  | wait => cases h

/-- And one that comes to no end, after which nothing more is done. -/
theorem works_of_no_answer (h : o.perform w = (outcome, w'))
    (hnone : ∀ answer, outcome ≠ .returned answer) :
    ∃ t, (Program.perform o next).Works w.client t (Program.perform o next) w'.client := by
  cases o with
  | span o =>
    have hsame : w'.client = w.client :=
      (congrArg (·.2.client) h).symm.trans (o.client_perform w)
    rw [hsame]
    exact ⟨[], .start⟩
  | client o =>
    rw [HandlerOp.perform_client] at h
    obtain ⟨rfl, rfl⟩ := Prod.mk.inj h
    exact ⟨_, Works.start.waits hnone⟩
  | wait =>
    obtain ⟨-, rfl⟩ := Prod.mk.inj h
    exact ⟨[], .start⟩

/-- A program that is run is at work beside a client that keeps still, until it comes to its end
or can go no further. -/
theorem works_run (p : Program (handlerOps .streaming) α) (w : World Channel) :
    ∃ t q, p.Works w.client t q (p.run HandlerOp.perform w).2.client ∧
      ∀ a, (p.run HandlerOp.perform w).1 = .returned a → q = .done a := by
  induction p generalizing w with
  | done a =>
    refine ⟨[], .done a, .start, ?_⟩
    intro a' ha'
    exact congrArg Program.done (Outcome.returned.inj ha')
  | perform o next ih =>
    rw [Program.run, Call.bind]
    rcases hperformed : HandlerOp.perform o w with ⟨outcome, w'⟩
    cases outcome with
    | returned answer =>
      obtain ⟨t, hfirst⟩ := works_of_answer next hperformed
      obtain ⟨t', q, hrest, hdone⟩ := ih answer w'
      exact ⟨t ++ t', q, hfirst.trans hrest, hdone⟩
    | panicked message =>
      obtain ⟨t, hfirst⟩ := works_of_no_answer next hperformed fun _ h => by cases h
      exact ⟨t, _, hfirst, fun _ h => by cases h⟩
    | cancelled =>
      obtain ⟨t, hfirst⟩ := works_of_no_answer next hperformed fun _ h => by cases h
      exact ⟨t, _, hfirst, fun _ h => by cases h⟩

end Program

/-- What a call does with its channel is traffic, whatever the tree, the handler and the outcome. -/
theorem Interceptor.intercept_carries (i : Interceptor .streaming) (h : Handler .streaming)
    (info : StreamInfo) (s : ServerStream) (w : World Channel) :
    ∃ t, w.client.Carries t (i.intercept info h.serve s w).2.client :=
  i.intercept_related (R := fun c c' => ∃ t, c.Carries t c')
    (fun _ => ⟨[], .start⟩) (fun ⟨t, ht⟩ ⟨t', ht'⟩ => ⟨t ++ t', ht.trans ht'⟩)
    (fun o _ => ⟨_, Channel.Carries.start.next (.call o)⟩) h info s w

namespace Channel

variable {kind : Kind} {items : List (Result Message)} {isOpen : Bool} {capacity : Nat}
  {c : Channel}

/-- **Messages cross in order.** Whatever crosses a channel for messages of a kind and so many at
once: while the client is there, what it has read and what is queued are the messages that were
accepted, in their order, and never more are queued than there is room for; when it has gone, what
it has read was accepted first. A message of another kind is refused and changes nothing, and any
other is accepted if there is room, waits if there is none, and fails when the client lets no more
in. Those who receive get all the items that the client sends, each in its turn and once, also
behind errors, and then the end for ever. A handler that is at work while the client moves makes
such traffic, and so does a call through any layers. -/
theorem inOrder_of_made (hmade : make? kind items isOpen capacity = .ok c) :
    (∀ t c', c.Carries t c' → c'.InOrder kind items isOpen capacity t) ∧
    (∀ (h : Handler .streaming) (s : ServerStream) t q c',
      (h s).Works c t q c' → c.Carries t c') ∧
    ∀ (i : Interceptor .streaming) (h : Handler .streaming) (info : StreamInfo)
      (s : ServerStream) (r : Recorder),
      ∃ t, c.Carries t (i.intercept info h.serve s ⟨r, c⟩).2.client := by
  refine ⟨?_, ?_, ?_⟩
  · intro t c' hcarries
    exact hcarries.inOrder hmade
  · intro h s t q c' hworks
    exact hworks.carries
  · intro i h info s r
    exact i.intercept_carries h info s ⟨r, c⟩

/-- Operations that are chosen beforehand are traffic. -/
theorem carries_script (c : Channel) (os : List StreamCall) :
    c.Carries ((c.script os).1.map .call) (c.script os).2 := by
  induction os generalizing c with
  | nil => exact .start
  | cons o os ih =>
    have hfirst : c.Carries ([] ++ [.call ⟨o, (o.perform c).1⟩]) (o.perform c).2 :=
      Carries.start.next (.call o)
    exact hfirst.trans (ih (o.perform c).2)

/-- Room for one text, and two items to come. -/
def narrow : Channel :=
  ⟨.text, [.error (.internal "lost"), .ok (.of .unit)], false, [], 1, Nat.one_pos, false,
    ⟨∅, ∅, false⟩⟩

/-- A text waits until another has been read, and one comes when the client has gone; and there is
receiving beyond the end. -/
def backlog : List StreamCall :=
  let s : ServerStream := .wrapped (.channel ∅) ∅
  let text (words : String) : StreamCall := .onServer s (.send (.of (.text words)))
  [text "first", text "second", .onClient .drain, .onServer s .receive,
    .onServer s (.send (.of (.number 2))), text "second", .onServer s .receive,
    .onServer s .receive, .onClient .close, text "third", .onServer s .receive]

example :
    let t : Traffic := (narrow.script backlog).1.map .call
    t.accepted = [.of (.text "first"), .of (.text "second")] ∧ t.read = [.of (.text "first")] ∧
      t.received = [.error (.internal "lost"), .ok (some (.of .unit)), .ok none, .ok none] :=
  ⟨rfl, rfl, rfl⟩

theorem inOrder_narrow :
    make? .text [.error (.internal "lost"), .ok (.of .unit)] false 1 = .ok narrow ∧
      (narrow.script backlog).2.InOrder .text [.error (.internal "lost"), .ok (.of .unit)] false 1
        ((narrow.script backlog).1.map .call) :=
  ⟨rfl, (inOrder_of_made rfl).1 _ _ (narrow.carries_script backlog)⟩

end Channel

end CallSpan
