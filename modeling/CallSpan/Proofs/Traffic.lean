import CallSpan.Proofs.FailedOperations

/-!
# Traffic on a channel

What crosses a channel are messages for the client and items from it. Operations are done on the
server's end, through whatever wrappers, while the client **moves** on its own: it reads the
message that has been queued longest, lets no more in, goes away, or sends items. **Traffic** is
any sequence of this. An operation that has to wait stands in it as one that came to no end; it
may be tried again, which is how room comes for a message, or be given up.

Each step keeps the books. What was queued and what is accepted are what is read and what is then
queued, unless the client goes away and leaves behind what is queued (`Channel.Outward`). An item
that is received was the first that waited (`Channel.Inward`).

Main results:

* `Channel.Crosses.outward` — what one step does to the messages for the client.
* `Channel.Crosses.inward`  — what one step does to the items from the client.
-/

namespace CallSpan

-- ---------------------------------------------------------------------------
-- What crosses a channel
-- ---------------------------------------------------------------------------

/-- What the client may do on its own side, while others are at work on the server's. -/
inductive ClientMove where
  /-- It reads the message that has been queued longest. -/
  | read (msg : Message)
  /-- It lets no more messages in, and may still read those that are queued. -/
  | shut
  | send (item : Result Message)
  /-- It will send nothing more. -/
  | finish

/-- An operation with what came of it, or a move of the client. -/
inductive Crossing where
  | call (e : StreamEvent)
  | move (m : ClientMove)

namespace Crossing

/-- The message that was accepted for the client. -/
def accepted : Crossing → List Message
  | call ⟨.onServer _ (.send msg), .returned (.ok _)⟩ => [msg]
  | _ => []

/-- The messages that the client has read. -/
def read : Crossing → List Message
  | call ⟨.onClient .drain, .returned msgs⟩ => msgs
  | move (.read msg) => [msg]
  | _ => []

/-- What was answered to whoever received. -/
def received : Crossing → List (Result (Option Message))
  | call ⟨.onServer _ .receive, .returned answer⟩ => [answer]
  | _ => []

/-- The item that the client has sent. -/
def sent : Crossing → List (Result Message)
  | move (.send item) => [item]
  | _ => []

/-- The client goes away. -/
def departs : Crossing → Bool
  | call ⟨.onClient .close, _⟩ => true
  | _ => false

/-- The client lets no more messages in, be it that it goes away. -/
def shuts : Crossing → Bool
  | move .shut => true
  | x => x.departs

theorem shuts_of_departs {x : Crossing} (h : x.departs = true) : x.shuts = true := by
  unfold shuts
  split
  · rfl
  · exact h

end Crossing

/-- What has crossed a channel, in order. -/
abbrev Traffic := List Crossing

namespace Traffic

def accepted (t : Traffic) : List Message := t.flatMap Crossing.accepted

def read (t : Traffic) : List Message := t.flatMap Crossing.read

def received (t : Traffic) : List (Result (Option Message)) := t.flatMap Crossing.received

def sent (t : Traffic) : List (Result Message) := t.flatMap Crossing.sent

def departed (t : Traffic) : Bool := t.any Crossing.departs

def shut (t : Traffic) : Bool := t.any Crossing.shuts

variable (t : Traffic) (x : Crossing)

@[simp] theorem accepted_concat : Traffic.accepted (t ++ [x]) = t.accepted ++ x.accepted := by
  simp [accepted]

@[simp] theorem read_concat : Traffic.read (t ++ [x]) = t.read ++ x.read := by
  simp [read]

@[simp] theorem received_concat : Traffic.received (t ++ [x]) = t.received ++ x.received := by
  simp [received]

@[simp] theorem sent_concat : Traffic.sent (t ++ [x]) = t.sent ++ x.sent := by
  simp [sent]

@[simp] theorem departed_concat :
    Traffic.departed (t ++ [x]) = (t.departed || x.departs) := by
  simp [departed]

@[simp] theorem shut_concat : Traffic.shut (t ++ [x]) = (t.shut || x.shuts) := by
  simp [shut]

variable {t}

theorem shut_of_departed (h : t.departed = true) : t.shut = true := by
  obtain ⟨x, hx, hdeparts⟩ := List.any_eq_true.mp h
  exact List.any_eq_true.mpr ⟨x, hx, Crossing.shuts_of_departs hdeparts⟩

end Traffic

/-- The answer to whoever receives when `n` answers have been given, if these are all the items
that the client sends: behind the last one is the end. -/
def itemAt (items : List (Result Message)) (n : Nat) : Result (Option Message) :=
  match items[n]? with
  | some item => item.map some
  | none => .ok none

theorem itemAt_append {items more : List (Result Message)} {n : Nat} (h : n < items.length) :
    itemAt (items ++ more) n = itemAt items n := by
  unfold itemAt
  rw [List.getElem?_append_left h]

theorem itemAt_drop (items : List (Result Message)) (n : Nat) :
    itemAt (items.drop n) 0 = itemAt items n := by
  unfold itemAt
  rw [List.getElem?_drop, Nat.add_zero]

namespace Channel

/-- What a move of the client does. -/
inductive Moves (c : Channel) : ClientMove → Channel → Prop where
  | read {msg : Message} {rest : List Message} (h : c.queue = msg :: rest) :
      Moves c (.read msg) { c with queue := rest }
  | shut : Moves c .shut { c with closed := true }
  | send (h : c.inboundOpen = true) (item : Result Message) :
      Moves c (.send item) { c with inbound := c.inbound ++ [item] }
  | finish : Moves c .finish { c with inboundOpen := false }

/-- One step of traffic. -/
inductive Crosses (c : Channel) : Crossing → Channel → Prop where
  | call (o : StreamCall) : Crosses c (.call ⟨o, (o.perform c).1⟩) (o.perform c).2
  | move {m : ClientMove} {c' : Channel} (h : c.Moves m c') : Crosses c (.move m) c'

/-- What may become of a channel, with the traffic that crosses it. -/
inductive Carries (c : Channel) : Traffic → Channel → Prop where
  | start : Carries c [] c
  | next {t : Traffic} {x : Crossing} {c' c'' : Channel} (h : Carries c t c')
      (hx : c'.Crosses x c'') : Carries c (t ++ [x]) c''

theorem Carries.trans {c c' c'' : Channel} {t t' : Traffic} (h : c.Carries t c')
    (h' : c'.Carries t' c'') : c.Carries (t ++ t') c'' := by
  induction h' with
  | start =>
    rw [List.append_nil]
    exact h
  | next _ hx ih =>
    rw [← List.append_assoc]
    exact ih.next hx

-- ---------------------------------------------------------------------------
-- Messages for the client, step by step
-- ---------------------------------------------------------------------------

variable {c c' : Channel} {x : Crossing} {t : Traffic}

/-- A message of the right kind is queued if there is room for it. -/
theorem send_of_room {msg : Message} (hkind : msg.is c.responseKind = true)
    (hopen : c.closed = false) (hroom : c.queue.length < c.capacity) :
    c.send msg = (.returned (.ok ()), { c.sealHeader with queue := c.queue ++ [msg] }) := by
  have hsealed : ¬ c.sealHeader.closed = true := Bool.eq_false_iff.mp hopen
  have hfits : c.sealHeader.queue.length < c.sealHeader.capacity := hroom
  rw [send, if_pos hkind]
  dsimp only
  rw [if_neg hsealed, if_pos hfits]
  rfl

/-- And it waits if there is none. -/
theorem send_of_full {msg : Message} (hkind : msg.is c.responseKind = true)
    (hopen : c.closed = false) (hfull : ¬ c.queue.length < c.capacity) :
    c.send msg = (.cancelled, c.sealHeader) := by
  have hsealed : ¬ c.sealHeader.closed = true := Bool.eq_false_iff.mp hopen
  have hlacks : ¬ c.sealHeader.queue.length < c.sealHeader.capacity := hfull
  rw [send, if_pos hkind]
  dsimp only
  rw [if_neg hsealed, if_neg hlacks]

/-- What one step does to the messages for the client. -/
structure Outward (c : Channel) (x : Crossing) (c' : Channel) : Prop where
  kind : c'.responseKind = c.responseKind
  capacity : c'.capacity = c.capacity
  closed : c'.closed = (c.closed || x.shuts)
  /-- What was queued and what is accepted are what is read and what is then queued. -/
  balance : x.departs = false → c.queue ++ x.accepted = x.read ++ c'.queue
  departed : x.departs = true → x.accepted = [] ∧ x.read = [] ∧ c'.queue = []
  accepts : ∀ msg ∈ x.accepted, msg.is c.responseKind = true ∧ c.closed = false
  bounded : c.queue.length ≤ c.capacity → c'.queue.length ≤ c.capacity

/-- Nothing happens to the messages for the client. -/
structure Resting (c c' : Channel) : Prop where
  kind : c'.responseKind = c.responseKind
  capacity : c'.capacity = c.capacity
  closed : c'.closed = c.closed
  queue : c'.queue = c.queue

theorem Resting.outward (h : c.Resting c') (haccepted : x.accepted = []) (hread : x.read = [])
    (hdeparts : x.departs = false) (hshuts : x.shuts = false) : c.Outward x c' where
  kind := h.kind
  capacity := h.capacity
  closed := by rw [h.closed, hshuts, Bool.or_false]
  balance _ := by rw [haccepted, hread, h.queue, List.append_nil, List.nil_append]
  departed hgone := absurd (hdeparts.symm.trans hgone) Bool.false_ne_true
  accepts msg hmsg := by rw [haccepted] at hmsg; exact nomatch hmsg
  bounded hlength := by rw [h.queue]; exact hlength

theorem resting_header (c : Channel) (md : Metadata) (sending : Bool) :
    c.Resting (c.header md sending).2 := by
  unfold header
  split <;> exact ⟨rfl, rfl, rfl, rfl⟩

theorem resting_receive (c : Channel) : c.Resting c.receive.2 := by
  unfold receive
  split
  · split <;> exact ⟨rfl, rfl, rfl, rfl⟩
  · exact ⟨rfl, rfl, rfl, rfl⟩

theorem resting_sealHeader (c : Channel) : c.Resting c.sealHeader := ⟨rfl, rfl, rfl, rfl⟩

/-- A message is accepted if it is of the right kind, the client is there, and there is room. -/
theorem outward_send (s : ServerStream) (msg : Message) (c : Channel) :
    c.Outward (.call ⟨.onServer s (.send msg), (c.send msg).1⟩) (c.send msg).2 := by
  cases hkind : msg.is c.responseKind with
  | false =>
    rw [send_of_mismatch hkind]
    exact Resting.outward ⟨rfl, rfl, rfl, rfl⟩ rfl rfl rfl rfl
  | true =>
    cases hclosed : c.closed with
    | true =>
      rw [send_of_closed hkind hclosed]
      exact c.resting_sealHeader.outward rfl rfl rfl rfl
    | false =>
      by_cases hroom : c.queue.length < c.capacity
      · rw [send_of_room hkind hclosed hroom]
        refine ⟨rfl, rfl, (Bool.or_false _).symm, fun _ => rfl, nofun, ?_, fun _ => ?_⟩
        · intro msg' hmsg'
          obtain rfl := List.mem_singleton.mp hmsg'
          exact ⟨hkind, hclosed⟩
        · show (c.queue ++ [msg]).length ≤ c.capacity
          rw [List.length_append, List.length_singleton]
          omega
      · rw [send_of_full hkind hclosed hroom]
        exact c.resting_sealHeader.outward rfl rfl rfl rfl

theorem outward_call (o : StreamCall) (c : Channel) :
    c.Outward (.call ⟨o, (o.perform c).1⟩) (o.perform c).2 := by
  cases o with
  | onClient op =>
    cases op with
    | drain =>
      -- all that was queued is read, and nothing is queued then
      refine ⟨rfl, rfl, (Bool.or_false _).symm, fun _ => rfl, nofun, nofun, fun _ => ?_⟩
      exact Nat.zero_le _
    | close =>
      refine ⟨rfl, rfl, (Bool.or_true _).symm, nofun, fun _ => ⟨rfl, rfl, rfl⟩, nofun, fun _ => ?_⟩
      exact Nat.zero_le _
    | snapshot => exact Resting.outward ⟨rfl, rfl, rfl, rfl⟩ rfl rfl rfl rfl
  | onServer s op =>
    rw [perform_onServer]
    cases op with
    | setHeader md => exact (c.resting_header md false).outward rfl rfl rfl rfl
    | sendHeader md => exact (c.resting_header md true).outward rfl rfl rfl rfl
    | setTrailer md => exact Resting.outward ⟨rfl, rfl, rfl, rfl⟩ rfl rfl rfl rfl
    | send msg => exact outward_send s msg c
    | receive => exact c.resting_receive.outward rfl rfl rfl rfl

theorem Moves.outward {m : ClientMove} (h : c.Moves m c') : c.Outward (.move m) c' := by
  cases h with
  | @read msg rest hqueue =>
    refine ⟨rfl, rfl, (Bool.or_false _).symm, fun _ => ?_, nofun, nofun, fun hlength => ?_⟩
    · rw [hqueue]
      exact List.append_nil _
    · rw [hqueue, List.length_cons] at hlength
      exact Nat.le_of_succ_le hlength
  | shut =>
    refine ⟨rfl, rfl, (Bool.or_true _).symm, fun _ => ?_, nofun, nofun, fun hlength => hlength⟩
    exact List.append_nil _
  | send _ item => exact Resting.outward ⟨rfl, rfl, rfl, rfl⟩ rfl rfl rfl rfl
  | finish => exact Resting.outward ⟨rfl, rfl, rfl, rfl⟩ rfl rfl rfl rfl

theorem Crosses.outward (h : c.Crosses x c') : c.Outward x c' := by
  cases h with
  | call o => exact outward_call o c
  | move hm => exact hm.outward

/-- When the client is gone, or goes, nothing is accepted or read. -/
theorem Outward.nothing (h : c.Outward x c')
    (hgone : x.departs = true ∨ (c.closed = true ∧ c.queue = [])) :
    x.accepted = [] ∧ x.read = [] ∧ c'.queue = [] := by
  cases hdeparts : x.departs with
  | true => exact h.departed hdeparts
  | false =>
    obtain ⟨hclosed, hqueue⟩ :=
      hgone.resolve_left fun h => Bool.false_ne_true (hdeparts.symm.trans h)
    have haccepted : x.accepted = [] := by
      refine List.eq_nil_iff_forall_not_mem.mpr fun msg hmsg => ?_
      exact Bool.false_ne_true ((h.accepts msg hmsg).2.symm.trans hclosed)
    have hbalance := h.balance hdeparts
    rw [hqueue, haccepted, List.append_nil] at hbalance
    obtain ⟨hread, hqueue'⟩ := List.append_eq_nil_iff.mp hbalance.symm
    exact ⟨haccepted, hread, hqueue'⟩

-- ---------------------------------------------------------------------------
-- Items from the client
-- ---------------------------------------------------------------------------

/-- What one step does to the items from the client. -/
inductive Inward (c : Channel) (x : Crossing) (c' : Channel) : Prop where
  | idle (received : x.received = []) (sent : x.sent = []) (inbound : c'.inbound = c.inbound)
      (isOpen : c'.inboundOpen = true → c.inboundOpen = true)
  | sends (received : x.received = []) (item : Result Message) (sent : x.sent = [item])
      (inbound : c'.inbound = c.inbound ++ [item]) (isOpen : c.inboundOpen = true)
  /-- The first item is received; the end, if there is none. -/
  | receives (received : x.received = [itemAt c.inbound 0]) (sent : x.sent = [])
      (inbound : c'.inbound = c.inbound.tail) (isOpen : c'.inboundOpen = c.inboundOpen)
      (ended : c.inbound = [] → c.inboundOpen = false)

/-- Receiving answers the first item, or the end if there will be none. -/
theorem receive_of_answer (h : c.inbound = [] → c.inboundOpen = false) :
    c.receive = (.returned (itemAt c.inbound 0), { c with inbound := c.inbound.tail }) := by
  obtain ⟨kind, inbound, inboundOpen, queue, capacity, hcapacity, closed, response⟩ := c
  cases inbound with
  | nil =>
    obtain rfl : inboundOpen = false := h rfl
    rfl
  | cons item rest => rfl

/-- And it waits for an item that may come. -/
theorem receive_of_none (hinbound : c.inbound = []) (hopen : c.inboundOpen = true) :
    c.receive = (.cancelled, c) := by
  unfold receive
  rw [hinbound]
  exact if_pos hopen

theorem inward_receive (s : ServerStream) (c : Channel) :
    c.Inward (.call ⟨.onServer s .receive, c.receive.1⟩) c.receive.2 := by
  by_cases hwaits : c.inbound = [] ∧ c.inboundOpen = true
  · rw [receive_of_none hwaits.1 hwaits.2]
    exact .idle rfl rfl rfl id
  · have hanswers : c.inbound = [] → c.inboundOpen = false := by
      intro hnone
      exact Bool.eq_false_iff.mpr fun hopen => hwaits ⟨hnone, hopen⟩
    rw [receive_of_answer hanswers]
    exact .receives rfl rfl rfl rfl hanswers

/-- Nothing but receiving touches the items from the client. -/
structure Untouched (c c' : Channel) : Prop where
  inbound : c'.inbound = c.inbound
  inboundOpen : c'.inboundOpen = c.inboundOpen

theorem Untouched.inward (h : c.Untouched c') (hreceived : x.received = []) (hsent : x.sent = []) :
    c.Inward x c' :=
  .idle hreceived hsent h.inbound fun hopen => h.inboundOpen.symm.trans hopen

theorem untouched_header (c : Channel) (md : Metadata) (sending : Bool) :
    c.Untouched (c.header md sending).2 := by
  unfold header
  split <;> exact ⟨rfl, rfl⟩

theorem untouched_send (c : Channel) (msg : Message) : c.Untouched (c.send msg).2 := by
  unfold send
  split
  · dsimp only
    split
    · exact ⟨rfl, rfl⟩
    · split <;> exact ⟨rfl, rfl⟩
  · exact ⟨rfl, rfl⟩

theorem inward_call (o : StreamCall) (c : Channel) :
    c.Inward (.call ⟨o, (o.perform c).1⟩) (o.perform c).2 := by
  cases o with
  | onClient op => cases op <;> exact Untouched.inward ⟨rfl, rfl⟩ rfl rfl
  | onServer s op =>
    rw [perform_onServer]
    cases op with
    | setHeader md => exact (c.untouched_header md false).inward rfl rfl
    | sendHeader md => exact (c.untouched_header md true).inward rfl rfl
    | setTrailer md => exact Untouched.inward ⟨rfl, rfl⟩ rfl rfl
    | send msg => exact (c.untouched_send msg).inward rfl rfl
    | receive => exact inward_receive s c

theorem Moves.inward {m : ClientMove} (h : c.Moves m c') : c.Inward (.move m) c' := by
  cases h with
  | read _ => exact Untouched.inward ⟨rfl, rfl⟩ rfl rfl
  | shut => exact Untouched.inward ⟨rfl, rfl⟩ rfl rfl
  | send hopen item => exact .sends rfl item rfl rfl hopen
  | finish => exact .idle rfl rfl rfl nofun

theorem Crosses.inward (h : c.Crosses x c') : c.Inward x c' := by
  cases h with
  | call o => exact inward_call o c
  | move hm => exact hm.inward

end Channel

end CallSpan
