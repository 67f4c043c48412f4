import CallSpan.Proofs.StreamRuns

/-!
# The metadata of the response to a stream

Header, trailer, and whether the header has been sent: five operations of the server's end work
on this, in any order and as often as they like, and a handle of the client's shows it. What it
is at any time can be read off the **history** so far. The header is what was given to header
operations that succeeded, and the trailer what was given to any trailer operation. The header
is **fixed** by the first header that was sent, or by the first message of the right kind that
was, whether or not there was anybody left to take it.

A header operation succeeds exactly until then, and from then on neither the header nor the
fact that it is fixed can change, whatever is done.

Main result:

* `Channel.lifeCycle_of_made` — whatever is done with a channel, at every point the metadata of
  the response is what the history says; and what a call does is a run.
-/

namespace CallSpan

-- ---------------------------------------------------------------------------
-- What a history says of the response
-- ---------------------------------------------------------------------------

namespace StreamEvent

/-- What was given to a header operation that succeeded. -/
def header? (e : StreamEvent) : Option Metadata :=
  match e.call, e.came with
  | .onServer _ (.setHeader md), .returned (.ok _) => some md
  | .onServer _ (.sendHeader md), .returned (.ok _) => some md
  | _, _ => none

/-- What was given to a trailer operation. -/
def trailer? (e : StreamEvent) : Option Metadata :=
  match e.call with
  | .onServer _ (.setTrailer md) => some md
  | _ => none

/-- Whether the header is fixed from then on, if messages are of a kind: a message of that kind
fixes it whatever becomes of the message. -/
def fixesHeader (kind : Kind) (e : StreamEvent) : Bool :=
  match e.call, e.came with
  | .onServer _ (.sendHeader _), .returned (.ok _) => true
  | .onServer _ (.send msg), _ => msg.is kind
  | _, _ => false

end StreamEvent

namespace History

/-- The values of a key in the metadata that events give, one after the other. -/
def values (given : StreamEvent → Option Metadata) (es : History) (k : Key) : List (List UInt8) :=
  (es.filterMap given).flatMap (Metadata.values · k)

/-- The values of a key that header operations have set, in their order. -/
def headerValues (es : History) (k : Key) : List (List UInt8) :=
  es.values StreamEvent.header? k

def trailerValues (es : History) (k : Key) : List (List UInt8) :=
  es.values StreamEvent.trailer? k

def headerFixed (kind : Kind) (es : History) : Bool :=
  es.any (StreamEvent.fixesHeader kind)

variable {given : StreamEvent → Option Metadata} {es : History} {e : StreamEvent}

theorem values_concat_none (h : given e = none) (k : Key) :
    History.values given (es ++ [e]) k = es.values given k := by
  rw [values, List.filterMap_append, List.filterMap_cons_none h, List.filterMap_nil,
    List.append_nil, values]

theorem values_concat_some {md : Metadata} (h : given e = some md) (k : Key) :
    History.values given (es ++ [e]) k = es.values given k ++ md.values k := by
  rw [values, List.filterMap_append, List.filterMap_cons_some h, List.filterMap_nil,
    List.flatMap_append, List.flatMap_singleton, values]

theorem headerFixed_concat (kind : Kind) (es : History) (e : StreamEvent) :
    History.headerFixed kind (es ++ [e]) = (es.headerFixed kind || e.fixesHeader kind) := by
  rw [headerFixed, List.any_append, List.any_cons, List.any_nil, Bool.or_false, headerFixed]

end History

/-- Metadata of a response that is what a history says, on a channel for messages of a kind. -/
structure Response.Shows (r : Response) (kind : Kind) (es : History) : Prop where
  header : ∀ k, r.header.values k = es.headerValues k
  trailer : ∀ k, r.trailer.values k = es.trailerValues k
  headerSent : r.headerSent = es.headerFixed kind

-- ---------------------------------------------------------------------------
-- One operation
-- ---------------------------------------------------------------------------

namespace Response.Shows

variable {r : Response} {kind : Kind} {es : History} {e : StreamEvent}

/-- An event that gives nothing and does not fix the header leaves the metadata as it is. -/
theorem idle (h : r.Shows kind es) (hheader : e.header? = none) (htrailer : e.trailer? = none)
    (hfixes : e.fixesHeader kind = false) : r.Shows kind (es ++ [e]) where
  header k := (h.header k).trans (History.values_concat_none hheader k).symm
  trailer k := (h.trailer k).trans (History.values_concat_none htrailer k).symm
  headerSent := by rw [History.headerFixed_concat, hfixes, Bool.or_false, h.headerSent]

/-- A header operation that succeeds, and sends the header or not. -/
theorem headerGiven (h : r.Shows kind es) (hsent : r.headerSent = false) {md : Metadata}
    {sending : Bool} (hheader : e.header? = some md) (htrailer : e.trailer? = none)
    (hfixes : e.fixesHeader kind = sending) :
    Response.Shows ⟨r.header.merge md, r.trailer, sending⟩ kind (es ++ [e]) where
  header k := by
    rw [Metadata.values_merge, h.header k]
    exact (History.values_concat_some hheader k).symm
  trailer k := (h.trailer k).trans (History.values_concat_none htrailer k).symm
  headerSent := by
    have hbefore : es.headerFixed kind = false := h.headerSent.symm.trans hsent
    rw [History.headerFixed_concat, hfixes, hbefore, Bool.false_or]

theorem trailerGiven (h : r.Shows kind es) {md : Metadata} (hheader : e.header? = none)
    (htrailer : e.trailer? = some md) (hfixes : e.fixesHeader kind = false) :
    Response.Shows { r with trailer := r.trailer.merge md } kind (es ++ [e]) where
  header k := (h.header k).trans (History.values_concat_none hheader k).symm
  trailer k := by
    rw [Metadata.values_merge, h.trailer k]
    exact (History.values_concat_some htrailer k).symm
  headerSent := by rw [History.headerFixed_concat, hfixes, Bool.or_false, h.headerSent]

theorem headerSealed (h : r.Shows kind es) (hheader : e.header? = none)
    (htrailer : e.trailer? = none) (hfixes : e.fixesHeader kind = true) :
    Response.Shows { r with headerSent := true } kind (es ++ [e]) where
  header k := (h.header k).trans (History.values_concat_none hheader k).symm
  trailer k := (h.trailer k).trans (History.values_concat_none htrailer k).symm
  headerSent := by rw [History.headerFixed_concat, hfixes, Bool.or_true]

end Response.Shows

namespace Channel

variable {c : Channel} {es : History}

/-- However a channel is made, it is made without metadata. -/
theorem response_of_make? {kind : Kind} {inbound : List (Result Message)} {inboundOpen : Bool}
    {capacity : Nat} (h : make? kind inbound inboundOpen capacity = .ok c) :
    c.response = ⟨∅, ∅, false⟩ := by
  unfold make? at h
  split at h
  · split at h
    · obtain rfl := Except.ok.inj h
      rfl
    · exact nomatch h
  · exact nomatch h

theorem silent_made : make? .unit [] false 1 = .ok silent := rfl

/-- Where the header has been sent, a header operation fails and changes nothing. -/
theorem header_of_sent (h : c.response.headerSent = true) (md : Metadata) (sending : Bool) :
    c.header md sending = (.error headerAlreadySent, c) := by
  rw [header, if_pos h]

theorem header_of_unsent (h : c.response.headerSent = false) (md : Metadata) (sending : Bool) :
    c.header md sending
      = (.ok (),
          { c with response := ⟨c.response.header.merge md, c.response.trailer, sending⟩ }) := by
  rw [header, if_neg (by rw [h]; decide)]

/-- A message of another kind changes nothing. -/
theorem send_of_mismatch {msg : Message} (h : msg.is c.responseKind = false) :
    c.send msg = (.returned (.error (.unexpectedResponse c.responseKind)), c) := by
  rw [send, if_neg (by rw [h]; decide)]

/-- A message of the right kind seals the header, and nothing more is seen of what becomes of
it. -/
theorem undisturbed_send {msg : Message} (h : msg.is c.responseKind = true) :
    Undisturbed c.sealHeader (c.send msg).2 := by
  rw [send, if_pos h]
  dsimp only
  split
  · exact ⟨rfl, rfl⟩
  · split <;> exact ⟨rfl, rfl⟩

theorem undisturbed_receive (c : Channel) : Undisturbed c c.receive.2 := by
  rw [receive]
  split
  · split <;> exact ⟨rfl, rfl⟩
  · exact ⟨rfl, rfl⟩

/-- What an operation on the server's end comes to, whatever wrappers it goes through. -/
theorem perform_onServer (s : ServerStream) (op : StreamOp) (c : Channel) :
    (StreamCall.onServer s op).perform c = Channel.perform op c := by
  rw [StreamCall.perform, ServerStream.perform_eq]

/-- Metadata that is what a history says is so after one more operation. -/
theorem shows_perform (h : c.response.Shows c.responseKind es) (o : StreamCall) :
    (o.perform c).2.responseKind = c.responseKind ∧
      (o.perform c).2.response.Shows c.responseKind (es ++ [⟨o, (o.perform c).1⟩]) := by
  cases o with
  | onClient op =>
    -- the client changes nothing of it
    cases op <;> exact ⟨rfl, h.idle rfl rfl rfl⟩
  | onServer s op =>
    rw [perform_onServer]
    cases op with
    | setHeader md =>
      cases hsent : c.response.headerSent with
      | true =>
        rw [Channel.perform, header_of_sent hsent]
        exact ⟨rfl, h.idle rfl rfl rfl⟩
      | false =>
        rw [Channel.perform, header_of_unsent hsent]
        exact ⟨rfl, h.headerGiven hsent rfl rfl rfl⟩
    | sendHeader md =>
      cases hsent : c.response.headerSent with
      | true =>
        rw [Channel.perform, header_of_sent hsent]
        exact ⟨rfl, h.idle rfl rfl rfl⟩
      | false =>
        rw [Channel.perform, header_of_unsent hsent]
        exact ⟨rfl, h.headerGiven hsent rfl rfl rfl⟩
    | setTrailer md => exact ⟨rfl, h.trailerGiven rfl rfl rfl⟩
    | send msg =>
      cases hkind : msg.is c.responseKind with
      | true =>
        have hsent := undisturbed_send hkind
        rw [Channel.perform, hsent.response]
        exact ⟨hsent.responseKind, h.headerSealed rfl rfl hkind⟩
      | false =>
        rw [Channel.perform, send_of_mismatch hkind]
        exact ⟨rfl, h.idle rfl rfl hkind⟩
    | receive =>
      have hreceived := undisturbed_receive c
      rw [Channel.perform, hreceived.response]
      exact ⟨hreceived.responseKind, h.idle rfl rfl rfl⟩

/-- Once the header has been sent, no operation changes it. -/
theorem frozen_perform (h : c.response.headerSent = true) (o : StreamCall) :
    (o.perform c).2.response.headerSent = true ∧
      (o.perform c).2.response.header = c.response.header := by
  cases o with
  | onClient op => cases op <;> exact ⟨h, rfl⟩
  | onServer s op =>
    rw [perform_onServer]
    cases op with
    | setHeader md =>
      rw [Channel.perform, header_of_sent h]
      exact ⟨h, rfl⟩
    | sendHeader md =>
      rw [Channel.perform, header_of_sent h]
      exact ⟨h, rfl⟩
    | setTrailer md => exact ⟨h, rfl⟩
    | send msg =>
      cases hkind : msg.is c.responseKind with
      | true =>
        rw [Channel.perform, (undisturbed_send hkind).response]
        exact ⟨rfl, rfl⟩
      | false =>
        rw [Channel.perform, send_of_mismatch hkind]
        exact ⟨h, rfl⟩
    | receive =>
      rw [Channel.perform, (undisturbed_receive c).response]
      exact ⟨h, rfl⟩

-- ---------------------------------------------------------------------------
-- Runs
-- ---------------------------------------------------------------------------

namespace Run

variable {c' : Channel}

/-- What was the case before a run and is seen from the response is the case after it. -/
theorem shows (h : c.Run es c') (hc : c.response = ⟨∅, ∅, false⟩) :
    c'.responseKind = c.responseKind ∧ c'.response.Shows c.responseKind es := by
  induction h with
  | start =>
    rw [hc]
    exact ⟨rfl, fun k => Metadata.values_empty k, fun k => Metadata.values_empty k, rfl⟩
  | call _ o ih =>
    obtain ⟨hkind, hshows⟩ := ih
    rw [← hkind] at hshows
    obtain ⟨hkind', hshows'⟩ := shows_perform hshows o
    rw [hkind] at hkind' hshows'
    exact ⟨hkind', hshows'⟩
  | aside _ hundisturbed ih =>
    rw [hundisturbed.response, hundisturbed.responseKind]
    exact ih

theorem frozen (h : c.Run es c') (hc : c.response.headerSent = true) :
    c'.response.headerSent = true ∧ c'.response.header = c.response.header := by
  induction h with
  | start => exact ⟨hc, rfl⟩
  | call _ o ih =>
    obtain ⟨hsent, hheader⟩ := ih
    obtain ⟨hsent', hheader'⟩ := frozen_perform hsent o
    exact ⟨hsent', hheader'.trans hheader⟩
  | aside _ hundisturbed ih =>
    rw [hundisturbed.response]
    exact ih

/-- What came of an operation in a run is what came of it on the channel at that point. -/
theorem came_of_mem {before after : History} {e : StreamEvent}
    (h : c.Run (before ++ e :: after) c') :
    ∃ c₁, c.Run before c₁ ∧ e.came = (e.call.perform c₁).1 := by
  generalize hes : before ++ e :: after = es at h
  induction h generalizing after with
  | start => exact absurd hes (List.append_ne_nil_of_right_ne_nil _ (List.cons_ne_nil _ _))
  | aside _ _ ih => exact ih hes
  | @call es c₁ hrun o ih =>
    rcases List.eq_nil_or_concat after with rfl | ⟨after', last, rfl⟩
    · -- it is the last of the operations
      obtain ⟨rfl, hlast⟩ := List.append_inj' hes rfl
      obtain rfl : e = ⟨o, (o.perform c₁).1⟩ := List.singleton_inj.mp hlast
      exact ⟨c₁, hrun, rfl⟩
    · have hinit : before ++ e :: after' = es := by
        rw [List.concat_eq_append, ← List.cons_append, ← List.append_assoc] at hes
        exact (List.append_inj' hes rfl).1
      exact ih hinit

end Run

-- ---------------------------------------------------------------------------
-- The life of the header
-- ---------------------------------------------------------------------------

/-- What is said of a channel that came to be without metadata, when `es` has been done. -/
structure LifeCycle (c : Channel) (es : History) : Prop where
  shows : c.response.Shows c.responseKind es
  accepts : c.response.headerSent = false → ∀ s md,
    ((StreamCall.onServer s (.setHeader md)).perform c).1 = .returned (.ok ()) ∧
      ((StreamCall.onServer s (.sendHeader md)).perform c).1 = .returned (.ok ())
  /-- Nothing is changed by a header operation that fails. -/
  refuses : c.response.headerSent = true → ∀ s md,
    (StreamCall.onServer s (.setHeader md)).perform c
        = (.returned (.error (.internal "response header already sent")), c) ∧
      (StreamCall.onServer s (.sendHeader md)).perform c
        = (.returned (.error (.internal "response header already sent")), c)
  /-- Nor by a message of another kind. -/
  mismatch : ∀ s msg, msg.is c.responseKind = false →
    (StreamCall.onServer s (.send msg)).perform c
      = (.returned (.error (.unexpectedResponse c.responseKind)), c)
  frozen : c.response.headerSent = true → ∀ es' c', c.Run es' c' →
    c'.response.headerSent = true ∧ c'.response.header = c.response.header
  /-- A handle shows what is the case when it is read. -/
  handles : ∀ before came after, es = before ++ ⟨.onClient .snapshot, came⟩ :: after →
    ∃ r : Response, came = .returned r ∧ r.Shows c.responseKind before

theorem Run.lifeCycle {c' : Channel} (h : c.Run es c') (hc : c.response = ⟨∅, ∅, false⟩) :
    c'.LifeCycle es := by
  obtain ⟨hkind, hshows⟩ := h.shows hc
  refine ⟨?_, ?_, ?_, ?_, ?_, ?_⟩
  · rw [hkind]
    exact hshows
  · intro hsent s md
    rw [perform_onServer, perform_onServer, Channel.perform, Channel.perform,
      header_of_unsent hsent, header_of_unsent hsent]
    exact ⟨rfl, rfl⟩
  · intro hsent s md
    rw [perform_onServer, perform_onServer, Channel.perform, Channel.perform,
      header_of_sent hsent, header_of_sent hsent]
    exact ⟨rfl, rfl⟩
  · intro s msg hmsg
    rw [perform_onServer, Channel.perform, send_of_mismatch hmsg]
    rfl
  · intro hsent es' c'' hrun
    exact hrun.frozen hsent
  · rintro before came after rfl
    obtain ⟨c₁, hbefore, hcame⟩ := h.came_of_mem
    refine ⟨c₁.response, hcame, ?_⟩
    rw [hkind]
    exact (hbefore.shows hc).2

/-- **The life of the header.** Whatever is done with a channel that came to be without
metadata, from either side, in any order and through whatever wrappers: at every point the
metadata of the response is what the history says, header operations succeed exactly until the
header is fixed, and then it stays as it is. All that a call does, with any handler and through
any layers, is done in this way. -/
theorem lifeCycle_of_made (hc : c.response = ⟨∅, ∅, false⟩) :
    (∀ es c', c.Run es c' → c'.LifeCycle es) ∧
    ∀ (i : Interceptor .streaming) (h : Handler .streaming) (info : StreamInfo)
      (s : ServerStream) (r : Recorder),
      ∃ es, c.Run es (i.intercept info h.serve s ⟨r, c⟩).2.client := by
  constructor
  · intro es c' hrun
    exact hrun.lifeCycle hc
  · intro i h info s r
    exact i.intercept_runs h info s ⟨r, c⟩

/-- What comes of operations that are chosen beforehand. -/
def script (c : Channel) : List StreamCall → History × Channel
  | [] => ([], c)
  | o :: os =>
    let (es, c') := (o.perform c).2.script os
    (⟨o, (o.perform c).1⟩ :: es, c')

theorem run_script (c : Channel) (os : List StreamCall) :
    c.Run (c.script os).1 (c.script os).2 := by
  induction os generalizing c with
  | nil => exact .start
  | cons o os ih => exact (Run.start.call o).trans (ih (o.perform c).2)

/-- Sets a header, sends a message of the wrong kind and one of the right kind to a client that
has gone away, and tries to send a header and sets the trailer after that. -/
def lateHeader : List StreamCall :=
  let s : ServerStream := .wrapped (.channel ∅) ∅
  let md (value : String) : Metadata := Metadata.empty.put "x-shard" value
  [.onServer s (.setHeader (md "7")), .onServer s (.send (.of (.text "?"))), .onClient .close,
    .onServer s (.send (.of .unit)), .onServer s (.sendHeader (md "8")),
    .onServer s (.setTrailer (md "9")), .onClient .snapshot]

example : (silent.script lateHeader).2.response
    = ⟨Metadata.empty.put "x-shard" "7", Metadata.empty.put "x-shard" "9", true⟩ := rfl

theorem lifeCycle_lateHeader :
    silent.response = ⟨∅, ∅, false⟩ ∧
      (silent.script lateHeader).2.LifeCycle (silent.script lateHeader).1 :=
  have hmade := response_of_make? silent_made
  ⟨hmade, (lifeCycle_of_made hmade).1 _ _ (silent.run_script lateHeader)⟩

end Channel

end CallSpan
