import CallSpan.Proofs.ResponseHistory

/-!
# Stream operations that fail

A header operation fails when the header has been fixed, and a send fails for a message of the
wrong kind, and for a client that has gone away. It is to be expected that a failure leaves
everything as it was. Of these, all but one do so: a message of the right kind fixes the header
**before** it is known that there is nobody left to take it. Where the header was still open,
such a message comes **late**: it is refused, and yet the header counts as sent.

So that the header has been sent does not mean that one was sent, or that a message was
accepted. It may as well mean that a message was **lost**: refused for want of a client, or
given up while it waited for room.

Main result:

* `Channel.failures_of_made` — at every point of what is done with a channel, an operation that
  fails leaves the state of the response intact exactly if it is not a message that comes late;
  and the header has been sent exactly if one was, or a message was accepted or lost.
-/

namespace CallSpan

-- ---------------------------------------------------------------------------
-- What fails
-- ---------------------------------------------------------------------------

/-- The error that a header operation or a send has answered, if it has. -/
def StreamOp.failure? : (op : StreamOp) → Outcome op.Answer → Option Status
  | .setHeader _, .returned (.error st) => some st
  | .sendHeader _, .returned (.error st) => some st
  | .send _, .returned (.error st) => some st
  | _, _ => none

/-- A message that could be sent, for a client that has gone away while the header was open. -/
inductive StreamOp.ComesLate (c : Channel) : StreamOp → Prop where
  | send {msg : Message} (kind : msg.is c.responseKind = true) (closed : c.closed = true)
      (unsent : c.response.headerSent = false) : ComesLate c (.send msg)

theorem StreamOp.ComesLate.unsent {op : StreamOp} {c : Channel} (h : op.ComesLate c) :
    c.response.headerSent = false := by
  cases h with
  | send _ _ hunsent => exact hunsent

namespace Channel

variable {c : Channel} {op : StreamOp} {st : Status}

/-- What a channel refuses, and with which error. -/
inductive Refuses (c : Channel) : StreamOp → Status → Prop where
  | setHeader (h : c.response.headerSent = true) (md : Metadata) :
      Refuses c (.setHeader md) headerAlreadySent
  | sendHeader (h : c.response.headerSent = true) (md : Metadata) :
      Refuses c (.sendHeader md) headerAlreadySent
  | mismatch {msg : Message} (h : msg.is c.responseKind = false) :
      Refuses c (.send msg) (.unexpectedResponse c.responseKind)
  | gone {msg : Message} (hkind : msg.is c.responseKind = true) (h : c.closed = true) :
      Refuses c (.send msg) closedByClient

/-- A message that could be sent, for a client that has gone away. -/
theorem send_of_closed {msg : Message} (hkind : msg.is c.responseKind = true)
    (hclosed : c.closed = true) :
    c.send msg = (.returned (.error closedByClient), c.sealHeader) := by
  have hsealed : c.sealHeader.closed = true := hclosed
  rw [send, if_pos hkind]
  exact if_pos hsealed

/-- A client that is there is sent every message of the right kind, unless there is no room. -/
theorem send_of_open {msg : Message} (hkind : msg.is c.responseKind = true)
    (hopen : c.closed = false) :
    (c.send msg).1 = .returned (.ok ()) ∨ (c.send msg).1 = .cancelled := by
  have hsealed : ¬ c.sealHeader.closed = true := by
    show ¬ c.closed = true
    rw [hopen]
    decide
  rw [send, if_pos hkind]
  dsimp only
  rw [if_neg hsealed]
  split
  · exact .inl rfl
  · exact .inr rfl

/-- What is refused is all that fails. -/
theorem failure?_eq_some_iff :
    op.failure? (Channel.perform op c).1 = some st ↔ c.Refuses op st := by
  constructor
  · intro h
    cases op with
    | setHeader md =>
      cases hsent : c.response.headerSent with
      | true =>
        rw [Channel.perform, header_of_sent hsent] at h
        obtain rfl := Option.some.inj h
        exact .setHeader hsent md
      | false =>
        rw [Channel.perform, header_of_unsent hsent] at h
        cases h
    | sendHeader md =>
      cases hsent : c.response.headerSent with
      | true =>
        rw [Channel.perform, header_of_sent hsent] at h
        obtain rfl := Option.some.inj h
        exact .sendHeader hsent md
      | false =>
        rw [Channel.perform, header_of_unsent hsent] at h
        cases h
    | send msg =>
      rw [Channel.perform] at h
      cases hkind : msg.is c.responseKind with
      | false =>
        rw [send_of_mismatch hkind] at h
        obtain rfl := Option.some.inj h
        exact .mismatch hkind
      | true =>
        cases hclosed : c.closed with
        | true =>
          rw [send_of_closed hkind hclosed] at h
          obtain rfl := Option.some.inj h
          exact .gone hkind hclosed
        | false =>
          -- then the message is queued, or waits
          rcases send_of_open hkind hclosed with hsend | hsend
          · rw [hsend] at h
            cases h
          · rw [hsend] at h
            cases h
    | setTrailer md => cases h
    | receive => cases h
  · intro h
    cases h with
    | setHeader hsent md =>
      rw [Channel.perform, header_of_sent hsent]
      rfl
    | sendHeader hsent md =>
      rw [Channel.perform, header_of_sent hsent]
      rfl
    | mismatch hkind =>
      rw [Channel.perform, send_of_mismatch hkind]
      rfl
    | gone hkind hclosed =>
      rw [Channel.perform, send_of_closed hkind hclosed]
      rfl

-- ---------------------------------------------------------------------------
-- What a failure leaves
-- ---------------------------------------------------------------------------

/-- The state of the response is what it was. -/
structure Intact (c c' : Channel) : Prop where
  header : c'.response.header = c.response.header
  trailer : c'.response.trailer = c.response.trailer
  headerSent : c'.response.headerSent = c.response.headerSent
  queue : c'.queue = c.queue

theorem Intact.refl (c : Channel) : c.Intact c := ⟨rfl, rfl, rfl, rfl⟩

/-- Fixing a header that is fixed does nothing, and fixing any other is to be seen. -/
theorem intact_sealHeader_iff : c.Intact c.sealHeader ↔ c.response.headerSent = true := by
  constructor
  · intro h
    exact h.headerSent.symm
  · intro h
    exact ⟨rfl, rfl, h.symm, rfl⟩

theorem Refuses.of_comesLate (h : op.ComesLate c) : c.Refuses op closedByClient := by
  cases h with
  | send hkind hclosed _ => exact .gone hkind hclosed

/-- What is refused changes nothing, but for a message that is refused for want of a client:
this fixes the header. -/
theorem Refuses.leaves (h : c.Refuses op st) :
    (¬ op.ComesLate c ∧ c.Intact (Channel.perform op c).2) ∨
      (op.ComesLate c ∧ st = closedByClient ∧ (Channel.perform op c).2 = c.sealHeader) := by
  cases h with
  | setHeader hsent md =>
    left
    constructor
    · intro hlate
      cases hlate
    · rw [Channel.perform, header_of_sent hsent]
      exact Intact.refl c
  | sendHeader hsent md =>
    left
    constructor
    · intro hlate
      cases hlate
    · rw [Channel.perform, header_of_sent hsent]
      exact Intact.refl c
  | mismatch hkind =>
    refine .inl ⟨fun hlate => ?_, ?_⟩
    · cases hlate with
      | send hkind' _ _ => exact Bool.false_ne_true (hkind.symm.trans hkind')
    · rw [Channel.perform, send_of_mismatch hkind]
      exact Intact.refl c
  | gone hkind hclosed =>
    rw [Channel.perform, send_of_closed hkind hclosed]
    cases hsent : c.response.headerSent with
    | true =>
      refine .inl ⟨fun hlate => ?_, intact_sealHeader_iff.mpr hsent⟩
      exact Bool.false_ne_true (hlate.unsent.symm.trans hsent)
    | false => exact .inr ⟨.send hkind hclosed hsent, rfl, rfl⟩

/-- Of what is refused, only a message that comes late does not leave everything intact. -/
theorem Refuses.intact_iff (h : c.Refuses op st) :
    c.Intact (Channel.perform op c).2 ↔ ¬ op.ComesLate c := by
  rcases h.leaves with ⟨hlate, hintact⟩ | ⟨hlate, -, hsealed⟩
  · exact ⟨fun _ => hlate, fun _ => hintact⟩
  · rw [hsealed, intact_sealHeader_iff]
    constructor
    · intro hsent
      exact absurd (hlate.unsent.symm.trans hsent) Bool.false_ne_true
    · intro hnot
      exact absurd hlate hnot

end Channel

-- ---------------------------------------------------------------------------
-- What it means that the header has been sent
-- ---------------------------------------------------------------------------

namespace StreamEvent

/-- A header was sent. -/
def sendsHeader (e : StreamEvent) : Prop :=
  ∃ s md, e = ⟨.onServer s (.sendHeader md), .returned (.ok ())⟩

/-- A message was accepted. -/
def accepted (e : StreamEvent) : Prop :=
  ∃ s msg, e = ⟨.onServer s (.send msg), .returned (.ok ())⟩

/-- A message of a kind was refused, or was given up while it waited. -/
def loses (kind : Kind) (e : StreamEvent) : Prop :=
  ∃ s msg came, e = ⟨.onServer s (.send msg), came⟩ ∧ msg.is kind = true ∧
    came ≠ .returned (.ok ())

/-- What fixes the header is a header that is sent, or a message of the right kind that is sent
or lost. -/
theorem fixesHeader_iff {kind : Kind} {e : StreamEvent} :
    e.fixesHeader kind = true ↔
      e.sendsHeader ∨ (e.accepted ∧ e.fixesHeader kind = true) ∨ e.loses kind := by
  constructor
  · intro h
    obtain ⟨call, came⟩ := e
    cases call with
    | onClient op => exact nomatch h
    | onServer s op =>
      cases op with
      | setHeader md => exact nomatch h
      | setTrailer md => exact nomatch h
      | receive => exact nomatch h
      | sendHeader md =>
        match came, h with
        | .returned (.ok ()), _ => exact .inl ⟨s, md, rfl⟩
      | send msg =>
        by_cases hcame : came = .returned (.ok ())
        · exact .inr (.inl ⟨⟨s, msg, by rw [hcame]⟩, h⟩)
        · exact .inr (.inr ⟨s, msg, came, rfl, h, hcame⟩)
  · rintro (⟨s, md, rfl⟩ | ⟨-, h⟩ | ⟨s, msg, came, rfl, hkind, -⟩)
    · rfl
    · exact h
    · exact hkind

end StreamEvent

namespace Channel

variable {c c' : Channel} {es : History}

/-- A message that is accepted is of the right kind. -/
theorem Run.kind_of_accepted (h : c.Run es c') (hc : c.response = ⟨∅, ∅, false⟩) {e : StreamEvent}
    (he : e ∈ es) (haccepted : e.accepted) : e.fixesHeader c.responseKind = true := by
  obtain ⟨before, after, rfl⟩ := List.append_of_mem he
  obtain ⟨c₁, hbefore, hcame⟩ := h.came_of_mem
  obtain ⟨hkind, -⟩ := hbefore.shows hc
  obtain ⟨s, msg, rfl⟩ := haccepted
  rw [perform_onServer, Channel.perform] at hcame
  show msg.is c.responseKind = true
  rw [← hkind]
  cases hmatch : msg.is c₁.responseKind with
  | true => rfl
  | false =>
    rw [send_of_mismatch hmatch] at hcame
    cases hcame

/-- Whenever the header counts as sent, the history says why. -/
theorem Run.headerSent_iff (h : c.Run es c') (hc : c.response = ⟨∅, ∅, false⟩) :
    c'.response.headerSent = true ↔
      ∃ e ∈ es, e.sendsHeader ∨ e.accepted ∨ e.loses c.responseKind := by
  obtain ⟨-, hshows⟩ := h.shows hc
  rw [hshows.headerSent, History.headerFixed, List.any_eq_true]
  constructor
  · rintro ⟨e, he, hfixes⟩
    rcases StreamEvent.fixesHeader_iff.mp hfixes with hsends | ⟨haccepted, -⟩ | hloses
    · exact ⟨e, he, .inl hsends⟩
    · exact ⟨e, he, .inr (.inl haccepted)⟩
    · exact ⟨e, he, .inr (.inr hloses)⟩
  · rintro ⟨e, he, hsends | haccepted | hloses⟩
    · exact ⟨e, he, StreamEvent.fixesHeader_iff.mpr (.inl hsends)⟩
    · exact ⟨e, he, h.kind_of_accepted hc he haccepted⟩
    · exact ⟨e, he, StreamEvent.fixesHeader_iff.mpr (.inr (.inr hloses))⟩

/-- What is said of a channel for messages of a kind, when `es` has been done. -/
structure Failures (c : Channel) (kind : Kind) (es : History) : Prop where
  /-- A failure leaves the state of the response intact, but for a message that comes late. -/
  intact : ∀ (s : ServerStream) (op : StreamOp) (st : Status),
    op.failure? (s.perform op c).1 = some st → (c.Intact (s.perform op c).2 ↔ ¬ op.ComesLate c)
  /-- A message that comes late fails, and fixes the header. -/
  late : ∀ (s : ServerStream) (op : StreamOp), op.ComesLate c →
    op.failure? (s.perform op c).1 = some (.plain .cancelled "response stream closed by client") ∧
      (s.perform op c).2 = c.sealHeader
  sent : c.response.headerSent = true ↔ ∃ e ∈ es, e.sendsHeader ∨ e.accepted ∨ e.loses kind

/-- **Failures.** Whatever has been done with a channel that came to be without metadata: a
header operation or a send that answers an error leaves header, trailer, the queue and whether
the header has been sent as they were, exactly unless it is a message of the right kind, for a
client that has gone away while the header was open. Such a message answers that the stream is
closed, and fixes the header. So the header counts as sent exactly if one was sent, or a message
was accepted or lost. -/
theorem failures_of_made (hc : c.response = ⟨∅, ∅, false⟩) :
    ∀ es c', c.Run es c' → c'.Failures c.responseKind es := by
  intro es c' hrun
  refine ⟨?_, ?_, hrun.headerSent_iff hc⟩
  · intro s op st hfailure
    rw [ServerStream.perform_eq] at hfailure ⊢
    have hrefuses : c'.Refuses op st := failure?_eq_some_iff.mp hfailure
    exact hrefuses.intact_iff
  · intro s op hlate
    rw [ServerStream.perform_eq]
    have hrefuses : c'.Refuses op closedByClient := Refuses.of_comesLate hlate
    refine ⟨failure?_eq_some_iff.mpr hrefuses, ?_⟩
    rcases hrefuses.leaves with ⟨hnot, -⟩ | ⟨-, -, hsealed⟩
    · exact absurd hlate hnot
    · exact hsealed

/-- The client goes away before anything has been sent, and then there is a message for it. -/
def deserted : List StreamCall := [.onClient .close, .onServer (.channel ∅) (.send (.of .unit))]

theorem failures_deserted :
    silent.response = ⟨∅, ∅, false⟩ ∧
      (silent.script deserted).2.Failures .unit (silent.script deserted).1 :=
  have hmade := response_of_make? silent_made
  ⟨hmade, failures_of_made hmade _ _ (silent.run_script deserted)⟩

/-- A message for a client that has gone away fails and fixes the header all the same, although
no header was sent and no message accepted. -/
theorem failure_not_intact :
    (¬ ∀ es c', silent.Run es c' → ∀ (s : ServerStream) (op : StreamOp) (st : Status),
      op.failure? (s.perform op c').1 = some st → c'.Intact (s.perform op c').2) ∧
    ¬ ∀ es c', silent.Run es c' → c'.response.headerSent = true →
      ∃ e ∈ es, e.sendsHeader ∨ e.accepted := by
  constructor
  · intro hintact
    have hrun := silent.run_script [.onClient .close]
    have hleft := hintact _ _ hrun (.channel ∅) (.send (.of .unit)) closedByClient rfl
    exact Bool.false_ne_true hleft.headerSent.symm
  · intro hsent
    obtain ⟨e, he, hwhy⟩ := hsent _ _ (silent.run_script deserted) rfl
    -- the two events are that the client went away, and a message that failed
    rcases List.mem_cons.mp he with rfl | he
    · rcases hwhy with ⟨s, md, hsends⟩ | ⟨s, msg, haccepted⟩
      · cases hsends
      · cases haccepted
    · rcases List.mem_singleton.mp he with rfl
      rcases hwhy with ⟨s, md, hsends⟩ | ⟨s, msg, haccepted⟩
      · cases hsends
      · cases haccepted

end Channel

end CallSpan
