import CallSpan.Proofs.Composition
import CallSpan.Proofs.Exclusion

/-!
# Unary and streaming calls are traced alike

One configuration serves both modes. A unary call has its context beside the request, and a
streaming call has it on the stream and hands a wrapped stream on; but where the same is to be
traced, the same is recorded.

Three differences are there by nature and are **erased** from logs before they are compared:
payloads are recorded of unary calls alone, hooks are told of requests and responses of unary
calls alone, and that a call is excluded is told in other words. Recorders that **match** are
the same but for these. Programs cannot tell them apart, since an end of a span is never erased;
so what is done in the same way on both sides keeps matching recorders matching
(`Call.Matching`). What is found out of a call, and the context with which its handler is
reached, are the same outright (`Trail.sights`).

Main result:

* `Options.interceptors_agree` — a unary and a streaming call with handlers that do the same are
  traced alike, and payload logging is nothing to the streaming call.
-/

namespace CallSpan

variable {m : Mode} {σ τ α β : Type}

-- ---------------------------------------------------------------------------
-- What is erased
-- ---------------------------------------------------------------------------

/-- The inquiry without request and response. -/
def Inquiry.erase (i : Inquiry) : Inquiry :=
  { i with request := none, response := none }

def Decoration.erase (d : Decoration) : Decoration :=
  { d with request := none, response := none }

/-- What a hook writes down of its arguments, without requests and responses. -/
def Note.erase : Note → Note
  | asked i => asked i.erase
  | decorated name d active => decorated name d.erase active
  | n => n

/-- The report without the wording that tells in which mode a call is excluded. -/
def Report.erase (r : Report) : Report :=
  { r with fields := r.fields.map fun f =>
      if f = ("message", Mode.unary.exclusionText) ∨ f = ("message", Mode.streaming.exclusionText)
      then ("message", "") else f }

/-- The entry without what differs between modes. Nothing is left of a recorded payload. -/
def Entry.erase : Entry → Option Entry
  | .acted .layer n (.addEvent name attributes) =>
    if name = "gRPC request" ∨ name = "gRPC response" then none
    else some (.acted .layer n (.addEvent name attributes))
  | .noted n => some (.noted n.erase)
  | .reported r => some (.reported r.erase)
  | e => some e

/-- No end of a span is erased, and nothing becomes one. -/
theorem Entry.any_erase (n : Nat) (es : List Entry) :
    (es.filterMap Entry.erase).any (Entry.isEndOf n) = es.any (Entry.isEndOf n) := by
  rw [List.any_filterMap]
  congr 1
  funext e
  cases e with
  | acted author k action =>
    cases author with
    | user => rfl
    | layer =>
      cases action with
      | addEvent name attributes =>
        rw [erase]
        split
        · rename_i h
          split at h
          · cases h
          · obtain rfl := Option.some.inj h
            rfl
        · rfl
      | _ => rfl
  | _ => rfl

-- ---------------------------------------------------------------------------
-- Recorders that match
-- ---------------------------------------------------------------------------

/-- Recorders that are the same but for what is erased. -/
structure Recorder.Matches (r r' : Recorder) : Prop where
  spans : r.spans = r'.spans
  log : r.log.filterMap Entry.erase = r'.log.filterMap Entry.erase

namespace Recorder.Matches

variable {r r' r'' : Recorder}

theorem refl (r : Recorder) : r.Matches r := ⟨rfl, rfl⟩

theorem trans (h : r.Matches r') (h' : r'.Matches r'') : r.Matches r'' :=
  ⟨h.spans.trans h'.spans, h.log.trans h'.log⟩

/-- Entries are added on both sides that are the same but for what is erased. -/
theorem log_append (h : r.Matches r') {es es' : List Entry}
    (hes : es.filterMap Entry.erase = es'.filterMap Entry.erase) :
    (r.log ++ es).filterMap Entry.erase = (r'.log ++ es').filterMap Entry.erase := by
  rw [List.filterMap_append, List.filterMap_append, h.log, hes]

theorem after {w : World σ} {w' : World τ} (h : w.recorder.Matches w'.recorder)
    {es es' : List Entry} (hes : es.filterMap Entry.erase = es'.filterMap Entry.erase) :
    (w.after es).recorder.Matches (w'.after es').recorder :=
  ⟨h.spans, h.log_append hes⟩

theorem isRecording (h : r.Matches r') (n : Nat) : r.isRecording n = r'.isRecording n := by
  rw [Recorder.isRecording, Recorder.isRecording, ← Entry.any_erase, h.log, Entry.any_erase]

end Recorder.Matches

/-- Calls that end the same way and leave recorders that match, in worlds with recorders that
match. -/
def Call.Matching (c : Call σ α) (c' : Call τ α) : Prop :=
  ∀ w w', w.recorder.Matches w'.recorder →
    (c w).1 = (c' w').1 ∧ (c w).2.recorder.Matches (c' w').2.recorder

namespace Call.Matching

theorem log (e : Entry) : Matching (Call.log (σ := σ) e) (Call.log (σ := τ) e) := by
  intro w w' h
  have hlogged : (w.after [e]).recorder.Matches (w'.after [e]).recorder := h.after rfl
  exact ⟨rfl, hlogged⟩

theorem act (author : Author) (cx : Context) (a : SpanAction) :
    Matching (Call.act (σ := σ) author cx a) (Call.act (σ := τ) author cx a) := by
  intro w w' h
  rw [Call.act, Call.act, Call.record, Call.record, Recorder.act_eq, Recorder.act_eq]
  exact ⟨rfl, h.after rfl⟩

theorem isRecording (cx : Context) :
    Matching (Call.isRecording (σ := σ) cx) (Call.isRecording (σ := τ) cx) := by
  intro w w' h
  have hspan : cx.spanNumber?.any w.recorder.isRecording
      = cx.spanNumber?.any w'.recorder.isRecording := by
    cases cx.spanNumber? with
    | none => rfl
    | some n => exact h.isRecording n
  exact ⟨congrArg Outcome.returned hspan, h⟩

theorem bind {c : Call σ α} {c' : Call τ α} {f : α → Call σ β} {f' : α → Call τ β}
    (hc : Matching c c') (hf : ∀ a, Matching (f a) (f' a)) :
    Matching (c.bind f) (c'.bind f') := by
  intro w w' h
  obtain ⟨hout, hmatch⟩ := hc w w' h
  simp only [Call.bind]
  rcases hcw : c w with ⟨outcome, w₁⟩
  rcases hcw' : c' w' with ⟨outcome', w₁'⟩
  rw [hcw, hcw'] at hout hmatch
  obtain rfl : outcome = outcome' := hout
  cases outcome with
  | returned a => exact hf a w₁ w₁' hmatch
  | panicked message => exact ⟨rfl, hmatch⟩
  | cancelled => exact ⟨rfl, hmatch⟩

/-- What is done in the same way on both sides, matches. -/
def rule (σ τ : Type) : Call.Rule σ τ where
  Holds := Matching
  Allows _ _ _ := True
  returns _ := fun _ _ h => ⟨rfl, h⟩
  bind := bind
  note n := log (.noted n)
  report r := log (.reported r)
  act _ := act _ _ _
  isRecording := isRecording

theorem rule_panics : (rule σ τ).Panics := fun _ _ _ h => ⟨rfl, h⟩

theorem rule_allowsAll : (rule σ τ).AllowsAll := fun _ _ _ => trivial

/-- A decorator on both sides, whatever it does. -/
theorem spanOps (p : Program spanOps α) :
    Matching (p.run (SpanOp.perform (σ := σ))) (p.run (SpanOp.perform (σ := τ))) :=
  (rule σ τ).runAny (fun o => Call.Rule.spanOp rule_panics (rule_allowsAll.op o)) p

/-- The handler of a unary call, which has no client to work with. -/
theorem serve (h : Handler .unary) (r : UnaryRequest) :
    Matching (h.serve r) (h.serve r) := by
  refine (rule Unit Unit).runAny (fun o => ?_) (h r)
  cases o with
  | span o => exact Call.Rule.spanOp rule_panics (rule_allowsAll.op o)
  | client o => exact nomatch o
  | wait => exact fun _ _ h => ⟨rfl, h⟩

end Call.Matching

-- ---------------------------------------------------------------------------
-- What is asked of users
-- ---------------------------------------------------------------------------

/-- How a call finished, whatever it replied: with success, a status, a panic, or not. -/
def Outcome.finish : Outcome (Result α) → Outcome (Option Status)
  | returned result => .returned (errorOf result)
  | panicked message => .panicked message
  | cancelled => .cancelled

/-- A predicate to which the request and the response of its inquiry are nothing, except that
it may write them down. -/
def Predicate.IgnoresPayload (f : Predicate) : Prop :=
  ∀ i i', i.erase = i'.erase →
    (f i).verdict.2 = (f i').verdict.2 ∧
      (f i).verdict.1.map Note.erase = (f i').verdict.1.map Note.erase

/-- A decorator to which the request and the response are nothing, except that it may write them
down. -/
def Decorator.IgnoresPayload (f : Decorator) : Prop :=
  ∀ d d', d.erase = d'.erase → ∀ w : World Unit,
    let left := (f d).run SpanOp.perform w
    let right := (f d').run SpanOp.perform w
    left.1 = right.1 ∧ left.2.recorder.Matches right.2.recorder

structure TracingPolicy.IgnoresPayload (p : TracingPolicy) : Prop where
  predicate : ∀ f, p.predicate = some f → f.IgnoresPayload
  decorator : ∀ f, p.decorator = some f → f.IgnoresPayload

/-- Handlers that take the same steps on the context that they see and finish the same way: the
one on a request with a message, the other on any stream over a channel. -/
def Handler.Paired (h : Handler .unary) (message : Message) (h' : Handler .streaming)
    (c : Channel) : Prop :=
  ∀ (s : ServerStream) (r : Recorder),
    let left := h.serve ⟨s.context, message⟩ ⟨r, ()⟩
    let right := h'.serve s ⟨r, c⟩
    left.1.finish = right.1.finish ∧ left.2.recorder = right.2.recorder

variable {h : Handler .unary} {h' : Handler .streaming} {message : Message}

/-- Paired handlers match, when their recorders only match. -/
theorem Handler.Paired.matches {w : World Unit} {w' : World Channel}
    (hpaired : h.Paired message h' w'.client) (hw : w.recorder.Matches w'.recorder)
    {s : ServerStream} {cx : Context} (hs : s.context = cx) :
    (h.serve ⟨cx, message⟩ w).1.finish = (h'.serve s w').1.finish ∧
      (h.serve ⟨cx, message⟩ w).2.recorder.Matches (h'.serve s w').2.recorder := by
  subst hs
  -- the unary handler in a world with the recorder of the other
  obtain ⟨hout, hmatch⟩ := Call.Matching.serve h ⟨s.context, message⟩ w ⟨w'.recorder, ()⟩ hw
  obtain ⟨hfinish, hrecorder⟩ := hpaired s w'.recorder
  rw [hout]
  exact ⟨hfinish, hrecorder ▸ hmatch⟩

theorem Decorator.IgnoresPayload.matches {f : Decorator} (hf : f.IgnoresPayload)
    {d d' : Decoration} (hd : d.erase = d'.erase) {w : World Unit} {w' : World Channel}
    (hw : w.recorder.Matches w'.recorder) :
    ((f d).run SpanOp.perform w).1 = ((f d').run SpanOp.perform w').1 ∧
      ((f d).run SpanOp.perform w).2.recorder.Matches
        ((f d').run SpanOp.perform w').2.recorder := by
  obtain ⟨hout, hmatch⟩ := hf d d' hd w
  obtain ⟨hout', hmatch'⟩ := Call.Matching.spanOps (f d') w w' hw
  exact ⟨hout.trans hout', hmatch.trans hmatch'⟩

-- ---------------------------------------------------------------------------
-- Admitted calls, stage by stage
-- ---------------------------------------------------------------------------

/-- Calls of both modes that were admitted alike. -/
structure Admission.Twins (a : Admission .unary) (b : Admission .streaming) : Prop where
  policy : a.policy = b.policy
  ignores : a.policy.IgnoresPayload
  method : Mode.methodOf a.info = Mode.methodOf b.info
  context : Mode.contextOf a.subject = Mode.contextOf b.subject
  judgement : a.judgement = b.judgement
  world : a.world.recorder.Matches b.world.recorder
  inner : ∀ (w : World Unit) (w' : World Channel) cx, w.recorder.Matches w'.recorder →
    w'.client = b.world.client →
      let left := a.inner (Mode.rebase cx a.subject) w
      let right := b.inner (Mode.rebase cx b.subject) w'
      left.1.finish = right.1.finish ∧ left.2.recorder.Matches right.2.recorder

/-- Of a recorded payload nothing is left. -/
theorem Admission.erase_opening (a : Admission m) :
    (a.acts a.opening).filterMap Entry.erase = [] := by
  rw [opening]
  split
  · cases Mode.request? a.subject <;> rfl
  · rfl

theorem Admission.erase_closing_ok (a : Admission m) (reply : m.Reply) :
    (a.acts (a.closing (.returned (.ok reply)))).filterMap Entry.erase = [] := by
  rw [closing]
  split
  · cases Mode.response? reply <;> rfl
  · rfl

/-- Calls that finish the same way, by the way they do. -/
theorem Outcome.finish_eq {x : Outcome (Result α)} {y : Outcome (Result β)}
    (h : x.finish = y.finish) :
    (∃ r r', x = .returned r ∧ y = .returned r' ∧ errorOf r = errorOf r') ∨
    (∃ message, x = .panicked message ∧ y = .panicked message) ∨
    (x = .cancelled ∧ y = .cancelled) := by
  cases x with
  | returned r =>
    cases y with
    | returned r' => exact Or.inl ⟨r, r', rfl, rfl, Outcome.returned.inj h⟩
    | panicked message => cases h
    | cancelled => cases h
  | panicked message =>
    cases y with
    | returned r' => cases h
    | panicked message' =>
      cases h
      exact Or.inr (Or.inl ⟨message, rfl, rfl⟩)
    | cancelled => cases h
  | cancelled =>
    cases y with
    | returned r' => cases h
    | panicked message => cases h
    | cancelled => exact Or.inr (Or.inr ⟨rfl, rfl⟩)

theorem Result.errorOf_eq {r : Result α} {r' : Result β} (h : errorOf r = errorOf r') :
    (∃ a b, r = .ok a ∧ r' = .ok b) ∨ ∃ status, r = .error status ∧ r' = .error status := by
  cases r with
  | ok a =>
    cases r' with
    | ok b => exact Or.inl ⟨a, b, rfl, rfl⟩
    | error status => cases h
  | error status =>
    cases r' with
    | ok b => cases h
    | error status' =>
      cases h
      exact Or.inr ⟨status, rfl, rfl⟩

/-- Results that finish a call the same way are handed on behind calls that end the same way. -/
theorem Call.matches_handOn {c : Call σ Unit} {c' : Call τ Unit} {w : World σ} {w' : World τ}
    (hout : (c w).1 = (c' w').1) (hmatch : (c w).2.recorder.Matches (c' w').2.recorder)
    {r : Result α} {r' : Result β} (herror : errorOf r = errorOf r') :
    ((c.bind fun _ => .returns r) w).1.finish = ((c'.bind fun _ => .returns r') w').1.finish ∧
      ((c.bind fun _ => .returns r) w).2.recorder.Matches
        ((c'.bind fun _ => .returns r') w').2.recorder := by
  rw [bind, bind]
  rcases hcw : c w with ⟨outcome, w₁⟩
  rcases hcw' : c' w' with ⟨outcome', w₁'⟩
  rw [hcw, hcw'] at hout hmatch
  obtain rfl : outcome = outcome' := hout
  cases outcome with
  | returned _ => exact ⟨congrArg Outcome.returned herror, hmatch⟩
  | panicked message => exact ⟨rfl, hmatch⟩
  | cancelled => exact ⟨rfl, hmatch⟩

namespace Admission.Twins

variable {a : Admission .unary} {b : Admission .streaming}

theorem span (h : Twins a b) : a.span = b.span := by
  rw [Admission.span, Admission.span, h.world.spans]

theorem context_eq (h : Twins a b) : a.context = b.context := by
  rw [Admission.context, Admission.context, h.span, h.judgement, h.context]

theorem opened (h : Twins a b) : a.opened.recorder.Matches b.opened.recorder := by
  have hstart : a.start = b.start := by
    rw [Admission.start, Admission.start, h.span, h.method, h.judgement]
  let started {m : Mode} (a : Admission m) : World m.Client :=
    ⟨⟨a.world.recorder.log ++ [a.start], a.span⟩, a.world.client⟩
  have hstarted : (started a).recorder.Matches (started b).recorder := by
    refine ⟨h.span, ?_⟩
    show (a.world.recorder.log ++ [a.start]).filterMap Entry.erase
      = (b.world.recorder.log ++ [b.start]).filterMap Entry.erase
    rw [hstart]
    exact h.world.log_append rfl
  exact hstarted.after (a.erase_opening.trans b.erase_opening.symm)

theorem inside (h : Twins a b) :
    a.inside.1.finish = b.inside.1.finish ∧
      a.inside.2.recorder.Matches b.inside.2.recorder := by
  rw [Admission.inside, Admission.inside, h.context_eq]
  exact h.inner a.opened b.opened b.context h.opened rfl

theorem closed (h : Twins a b) : a.closed.recorder.Matches b.closed.recorder := by
  obtain ⟨hfinish, hinside⟩ := h.inside
  refine hinside.after ?_
  rcases Outcome.finish_eq hfinish with ⟨r, r', hr, hr', herror⟩ | ⟨message, hr, hr'⟩ | ⟨hr, hr'⟩
  · rw [hr, hr']
    rcases Result.errorOf_eq herror with ⟨reply, reply', rfl, rfl⟩ | ⟨status, rfl, rfl⟩
    · rw [erase_closing_ok, erase_closing_ok]
    · rw [Admission.closing, Admission.closing, h.policy, Admission.acts, Admission.acts, h.span]
  -- nothing is recorded of what did not return
  · rw [hr, hr']
    rfl
  · rw [hr, hr']
    rfl

theorem decoration (h : Twins a b) {r : Result Message} {r' : Result Unit}
    (herror : errorOf r = errorOf r') : (a.decoration r).erase = (b.decoration r').erase := by
  rcases Result.errorOf_eq herror with ⟨reply, reply', rfl, rfl⟩ | ⟨status, rfl, rfl⟩
  · rw [Admission.decoration, Admission.decoration, h.context_eq, h.method]
    rfl
  · rw [Admission.decoration, Admission.decoration, h.context_eq, h.method]
    rfl

theorem concluded (h : Twins a b) :
    a.concluded.1.finish = b.concluded.1.finish ∧
      a.concluded.2.recorder.Matches b.concluded.2.recorder := by
  have hclosed := h.closed
  rw [Admission.concluded, Admission.concluded]
  rcases Outcome.finish_eq h.inside.1 with ⟨r, r', hr, hr', herror⟩ | ⟨message, hr, hr'⟩ | ⟨hr, hr'⟩
  · rw [hr, hr', Admission.conclude, Admission.conclude, ← h.policy]
    cases hdecorator : a.policy.decorator with
    | none => exact ⟨congrArg Outcome.returned herror, hclosed⟩
    | some f =>
      obtain ⟨hout, hmatch⟩ :=
        (h.ignores.decorator f hdecorator).matches (h.decoration herror) hclosed
      exact Call.matches_handOn hout hmatch herror
  · rw [hr, hr']
    exact ⟨rfl, hclosed⟩
  · rw [hr, hr']
    exact ⟨rfl, hclosed⟩

theorem ran (h : Twins a b) :
    a.ran.1.finish = b.ran.1.finish ∧ a.ran.2.recorder.Matches b.ran.2.recorder := by
  obtain ⟨hfinish, hconcluded⟩ := h.concluded
  refine ⟨hfinish, hconcluded.after ?_⟩
  rw [Admission.acts, Admission.acts, h.span]

end Admission.Twins

-- ---------------------------------------------------------------------------
-- One policy in both modes
-- ---------------------------------------------------------------------------

theorem Entry.erase_noted (notes : List Note) :
    (notes.map Entry.noted).filterMap Entry.erase = (notes.map Note.erase).map Entry.noted := by
  induction notes with
  | nil => rfl
  | cons n notes ih => exact congrArg (Entry.noted n.erase :: ·) ih

namespace TracingPolicy

variable {p : TracingPolicy}

theorem verdict_includes (hp : p.IgnoresPayload) {i i' : Inquiry} (h : i.erase = i'.erase) :
    (p.includes i).verdict.2 = (p.includes i').verdict.2 ∧
      (p.includes i).verdict.1.map Note.erase = (p.includes i').verdict.1.map Note.erase := by
  rw [includes, includes]
  cases hpredicate : p.predicate with
  | none => exact ⟨rfl, rfl⟩
  | some f => exact hp.predicate f hpredicate i i' h

variable {info : UnaryInfo} {info' : StreamInfo} {r : UnaryRequest} {s : ServerStream}

theorem erase_inquiry (hmethod : info.fullMethod = info'.fullMethod)
    (hcontext : r.context = s.context) :
    (p.inquiry (m := .unary) info r).erase = (p.inquiry (m := .streaming) info' s).erase := by
  show Inquiry.mk (p.propagator.parentIn r.context.metadata) info.fullMethod none none
    = ⟨p.propagator.parentIn s.context.metadata, info'.fullMethod, none, none⟩
  rw [hmethod, hcontext]

/-- The predicate answers alike in both modes, or panics alike, and leaves the same notes but for
what is erased. -/
theorem verdicts_alike (hp : p.IgnoresPayload) (hmethod : info.fullMethod = info'.fullMethod)
    (hcontext : r.context = s.context) :
    ∃ notes notes' : List Note, notes.map Note.erase = notes'.map Note.erase ∧
      ((∃ included,
          (p.includes (p.inquiry (m := .unary) info r)).verdict = (notes, .returned included) ∧
          (p.includes (p.inquiry (m := .streaming) info' s)).verdict
            = (notes', .returned included)) ∨
        ∃ text,
          (p.includes (p.inquiry (m := .unary) info r)).verdict = (notes, .panicked text) ∧
          (p.includes (p.inquiry (m := .streaming) info' s)).verdict
            = (notes', .panicked text)) := by
  obtain ⟨hanswer, hnotes⟩ := verdict_includes hp (erase_inquiry (p := p) hmethod hcontext)
  have hnever := (p.includes (p.inquiry (m := .unary) info r)).verdict_ne_cancelled
  rcases hverdict : (p.includes (p.inquiry (m := .unary) info r)).verdict with ⟨notes, answer⟩
  rcases hverdict' : (p.includes (p.inquiry (m := .streaming) info' s)).verdict
    with ⟨notes', answer'⟩
  rw [hverdict, hverdict'] at hanswer hnotes
  rw [hverdict] at hnever
  obtain rfl : answer = answer' := hanswer
  refine ⟨notes, notes', hnotes, ?_⟩
  cases answer with
  | returned included => exact Or.inl ⟨included, rfl, rfl⟩
  | panicked text => exact Or.inr ⟨text, rfl, rfl⟩
  | cancelled => exact absurd rfl hnever

theorem erase_asking (hmethod : info.fullMethod = info'.fullMethod)
    (hcontext : r.context = s.context) {notes notes' : List Note}
    (hnotes : notes.map Note.erase = notes'.map Note.erase) :
    (p.asking (m := .unary) info r notes).filterMap Entry.erase
      = (p.asking (m := .streaming) info' s notes').filterMap Entry.erase := by
  show ((extract r.context p.propagator).reported info.fullMethod
      ++ notes.map Entry.noted).filterMap Entry.erase
    = ((extract s.context p.propagator).reported info'.fullMethod
      ++ notes'.map Entry.noted).filterMap Entry.erase
  rw [List.filterMap_append, List.filterMap_append, Entry.erase_noted, Entry.erase_noted, hnotes,
    hmethod, hcontext]

theorem erase_asides (hmethod : info.fullMethod = info'.fullMethod)
    (hcontext : r.context = s.context) {notes notes' : List Note}
    (hnotes : notes.map Note.erase = notes'.map Note.erase) :
    (p.asides (m := .unary) info r notes).filterMap Entry.erase
      = (p.asides (m := .streaming) info' s notes').filterMap Entry.erase := by
  have hasking := erase_asking (p := p) hmethod hcontext hnotes
  have hreport : ∀ method : String,
      [Entry.reported ⟨.trace,
          [("message", Mode.unary.exclusionText), ("method", method)]⟩].filterMap Entry.erase
        = [Entry.reported ⟨.trace,
            [("message", Mode.streaming.exclusionText), ("method", method)]⟩].filterMap
          Entry.erase := fun _ => rfl
  rw [asides, asides, List.filterMap_append, List.filterMap_append, hasking]
  show _ ++ [Entry.reported ⟨.trace,
      [("message", Mode.unary.exclusionText), ("method", info.fullMethod)]⟩].filterMap _ = _
  rw [hmethod, hreport]
  rfl

end TracingPolicy

section Calls

variable {p : TracingPolicy} {info : UnaryInfo} {info' : StreamInfo} {s : ServerStream}
  {h : Handler .unary} {h' : Handler .streaming} {message : Message}

/-- Calls with paired handlers that are admitted with the same verdict. -/
theorem TracingPolicy.twins_admission (hp : p.IgnoresPayload)
    (hmethod : info.fullMethod = info'.fullMethod) {w : World Unit} {w' : World Channel}
    (hpaired : h.Paired message h' w'.client) (hw : w.recorder.Matches w'.recorder)
    {notes notes' : List Note} (hnotes : notes.map Note.erase = notes'.map Note.erase) :
    Admission.Twins
      (p.admission (m := .unary) info ⟨s.context, message⟩ notes h.serve w)
      (p.admission (m := .streaming) info' s notes' h'.serve w') where
  policy := rfl
  ignores := hp
  method := hmethod
  context := rfl
  judgement := rfl
  world := hw.after (TracingPolicy.erase_asking hmethod rfl hnotes)
  inner := by
    intro w₁ w₁' cx hw₁ hclient
    have hpaired₁ : h.Paired message h' w₁'.client := by
      rw [hclient]
      exact hpaired
    exact hpaired₁.matches hw₁ rfl

/-- A tracing layer around paired handlers, in both modes. -/
theorem Interceptor.intercept_matches (hp : p.IgnoresPayload)
    (hmethod : info.fullMethod = info'.fullMethod) {w : World Unit} {w' : World Channel}
    (hpaired : h.Paired message h' w'.client) (hw : w.recorder.Matches w'.recorder) :
    let left := (tracing (m := .unary) p none).intercept info h.serve ⟨s.context, message⟩ w
    let right := (tracing (m := .streaming) p none).intercept info' h'.serve s w'
    left.1.finish = right.1.finish ∧ left.2.recorder.Matches right.2.recorder := by
  intro left right
  let r : UnaryRequest := ⟨s.context, message⟩
  obtain ⟨notes, notes', hnotes, ⟨included, hverdict, hverdict'⟩ | ⟨text, hverdict, hverdict'⟩⟩ :=
    TracingPolicy.verdicts_alike (r := r) (s := s) hp hmethod rfl
  · cases included with
    | false =>
      have hleft : left = h.serve r (w.after (p.asides (m := .unary) info r notes)) :=
        TracingPolicy.around_turnedDown hverdict w
      have hright : right = h'.serve s (w'.after (p.asides (m := .streaming) info' s notes')) :=
        TracingPolicy.around_turnedDown hverdict' w'
      have hpaired₁ : h.Paired message h'
          (w'.after (p.asides (m := .streaming) info' s notes')).client := hpaired
      rw [hleft, hright]
      exact hpaired₁.matches (hw.after (TracingPolicy.erase_asides hmethod rfl hnotes)) rfl
    | true =>
      have hleft : left = _ := TracingPolicy.around_admitted hverdict h.serve w
      have hright : right = _ := TracingPolicy.around_admitted hverdict' h'.serve w'
      rw [hleft, hright]
      exact (TracingPolicy.twins_admission hp hmethod hpaired hw hnotes).ran
  · have hleft : left = (.panicked text, w.after (p.asking (m := .unary) info r notes)) :=
      TracingPolicy.around_of_panic hverdict w
    have hright : right = (.panicked text, w'.after (p.asking (m := .streaming) info' s notes')) :=
      TracingPolicy.around_of_panic hverdict' w'
    rw [hleft, hright]
    exact ⟨rfl, hw.after (TracingPolicy.erase_asking hmethod rfl hnotes)⟩

end Calls

-- ---------------------------------------------------------------------------
-- What is seen on the way
-- ---------------------------------------------------------------------------

/-- What an auditor sees of a call, whatever its mode: what a tracing layer found out, and the
context with which the handler was reached. -/
inductive Sight where
  | judged (judgement : Judgement)
  | handled (cx : Context)

def Step.sight? : Step m → Option Sight
  | judged _ _ j => some (.judged j)
  | handled s => some (.handled (Mode.contextOf s))
  | settled | entered _ _ | answered _ _ => none

def Trail.sights (t : Trail m) : List Sight := t.filterMap Step.sight?

/-- A call that adds nothing to see. -/
def Call.Unseeing (c : Call (Watched m) α) : Prop :=
  ∀ w, Trail.sights (c w).2.client.2 = Trail.sights w.client.2

namespace Call.Unseeing

/-- All but steps that are seen. -/
def rule (m : Mode) : Call.Rule (Watched m) (Watched m) :=
  .onClient (fun x x' => Trail.sights x'.2 = Trail.sights x.2) (fun _ => rfl)
    fun h h' => h'.trans h

theorem bind {c : Call (Watched m) α} {f : α → Call (Watched m) β} (hc : Unseeing c)
    (hf : ∀ a, Unseeing (f a)) : Unseeing (c.bind f) := by
  have hcall : (rule m).Holds c c := hc
  have hrest : ∀ a, (rule m).Holds (f a) (f a) := hf
  exact (rule m).bind hcall hrest

theorem rule_panics : (rule m).Panics := fun _ _ => rfl

theorem rule_allowsAll : (rule m).AllowsAll := fun _ _ _ => trivial

theorem step {s : Step m} (hs : s.sight? = none) : Unseeing (Call.step s) := by
  intro w
  show Trail.sights (w.client.2 ++ [s]) = _
  rw [Trail.sights, List.filterMap_append, List.filterMap_cons_none hs, List.filterMap_nil,
    List.append_nil, Trail.sights]

theorem handlerOp (o : HandlerOp m) : Unseeing o.audited := by
  cases o with
  | span o => exact Call.Rule.spanOp (R := rule m) rule_panics (rule_allowsAll.op o)
  | client o =>
    -- what the client does is not seen, nor what it answered
    have hclient : Unseeing (Mode.performClient o).unwatched := fun _ => rfl
    apply bind hclient
    intro answer
    exact bind (step rfl) fun _ => (rule m).returns answer
  | wait => exact fun _ => rfl

theorem sights_bind {c : Call (Watched m) α} {f : α → Call (Watched m) β}
    (hf : ∀ a, Unseeing (f a)) (w : World (Watched m)) :
    Trail.sights (c.bind f w).2.client.2 = Trail.sights (c w).2.client.2 := by
  rw [Call.bind]
  rcases c w with ⟨outcome, w₁⟩
  cases outcome with
  | returned a => exact hf a w₁
  | panicked message => rfl
  | cancelled => rfl

end Call.Unseeing

open Call (Unseeing)

/-- A handler is seen once, with the context that it gets. -/
theorem Handler.sights_audited (h : Handler m) (subject : m.Subject) (w : World (Watched m)) :
    Trail.sights (h.audited subject w).2.client.2
      = Trail.sights w.client.2 ++ [.handled (Mode.contextOf subject)] := by
  let reached : World (Watched m) := w.bare.beside (w.client.2 ++ [.handled subject])
  have hops : ∀ o : HandlerOp m, (Unseeing.rule m).Holds o.audited o.audited :=
    Unseeing.handlerOp
  have hrun : Unseeing ((h subject).run HandlerOp.audited) :=
    (Unseeing.rule m).runAny hops (h subject)
  show Trail.sights (((h subject).run HandlerOp.audited) reached).2.client.2 = _
  rw [hrun reached]
  show Trail.sights (w.client.2 ++ [.handled subject]) = _
  rw [Trail.sights, List.filterMap_append]
  rfl

namespace TracingPolicy

variable (p : TracingPolicy) (info : m.Info) (h : Handler m) (subject : m.Subject)

theorem recordRequest_returned (cx : Context) (request : Option Message) (w : World σ) :
    ∃ w₁, p.recordRequest cx request w = (.returned (), w₁) ∧ w₁.client = w.client := by
  rw [recordRequest]
  split
  · cases request with
    | none => exact ⟨w, rfl, rfl⟩
    | some msg => exact ⟨_, rfl, rfl⟩
  · exact ⟨w, rfl, rfl⟩

/-- Within its span a tracing layer hands its own context on. -/
theorem sights_within (cx : Context) (w : World (Watched m)) :
    Trail.sights (p.within cx info h.audited subject w).2.client.2
      = Trail.sights w.client.2 ++ [.handled cx] := by
  obtain ⟨w₁, hrequest, hclient⟩ := p.recordRequest_returned cx (Mode.request? subject) w
  unfold within
  rw [Call.bind_eq, Call.bind_apply hrequest, Call.bind_eq, Unseeing.sights_bind,
    h.sights_audited, Mode.contextOf_rebase, hclient]
  -- what is done behind the handler is not seen
  intro result
  have hwithin : (Unseeing.rule m).AllowsWithin cx := Unseeing.rule_allowsAll.within cx
  have hdecorate : ∀ d, (Unseeing.rule m).Holds (p.decorate d) (p.decorate d) :=
    Unseeing.rule_allowsAll.decorate Unseeing.rule_panics p
  apply Unseeing.bind (Call.Rule.recordOutcome (R := Unseeing.rule m) p hwithin result)
  intro _
  exact Unseeing.bind (hdecorate _) fun _ => (Unseeing.rule m).returns result

/-- The context with which a tracing layer reaches its handler, in a world in which so many spans
were started: within the span if the call is admitted, and else the context that came. -/
def handedContext (included : Bool) (spans : Nat) : Context :=
  let j := p.judgement subject included
  if included then
    j.contextWithin (Mode.contextOf subject)
      (.started (spans + 1) (Recorder.contextOf (spans + 1) j.parent))
  else Mode.contextOf subject

variable {p info subject} {notes : List Note} {included : Bool}

theorem sights_audited
    (hverdict : (p.includes (p.inquiry info subject)).verdict = (notes, .returned included))
    (w : World m.Client) :
    Trail.sights (p.audited info h.audited subject (w.beside [])).2.client.2
      = [.judged (p.judgement subject included),
          .handled (p.handedContext subject included w.recorder.spans)] := by
  let j := p.judgement subject included
  let judged : World (Watched m) :=
    (w.after (p.asking info subject notes)).beside [.judged p subject j]
  have hsettling : ∀ c : Call (Watched m) (Result m.Reply),
      Trail.sights (c.settling judged).2.client.2 = Trail.sights (c judged).2.client.2 := by
    intro c
    show Trail.sights ((c judged).2.client.2 ++ [.settled]) = _
    rw [Trail.sights, List.filterMap_append]
    exact List.append_nil _
  rw [audited_of_verdict hverdict, hsettling]
  cases included with
  | true =>
    rw [if_pos rfl, traced_eq]
    show Trail.sights (p.within _ info h.audited subject _).2.client.2 = _
    rw [sights_within]
    rfl
  | false =>
    rw [if_neg Bool.false_ne_true]
    show Trail.sights (h.audited subject _).2.client.2 = _
    rw [h.sights_audited]
    rfl

theorem sights_audited_of_panic {message : String}
    (hverdict : (p.includes (p.inquiry info subject)).verdict = (notes, .panicked message))
    (w : World m.Client) :
    Trail.sights (p.audited info h.audited subject (w.beside [])).2.client.2 = [] := by
  unfold audited
  rw [Call.bind_eq, Call.bind_panicked (judge_of_panic hverdict _)]
  rfl

end TracingPolicy

/-- The same is seen of a call in both modes, with whatever handlers. -/
theorem Interceptor.sights_trail {p : TracingPolicy} (hp : p.IgnoresPayload) {info : UnaryInfo}
    {info' : StreamInfo} (hmethod : info.fullMethod = info'.fullMethod) (h : Handler .unary)
    (h' : Handler .streaming) (message : Message) (s : ServerStream) {w : World Unit}
    {w' : World Channel} (hspans : w.recorder.spans = w'.recorder.spans) :
    Trail.sights ((tracing (m := .unary) p none).trail h info ⟨s.context, message⟩ w)
      = Trail.sights ((tracing (m := .streaming) p none).trail h' info' s w') := by
  let r : UnaryRequest := ⟨s.context, message⟩
  show Trail.sights (p.audited (m := .unary) info h.audited r (w.beside [])).2.client.2
    = Trail.sights (p.audited (m := .streaming) info' h'.audited s (w'.beside [])).2.client.2
  obtain ⟨notes, notes', -, ⟨included, hverdict, hverdict'⟩ | ⟨text, hverdict, hverdict'⟩⟩ :=
    TracingPolicy.verdicts_alike (r := r) (s := s) hp hmethod rfl
  · rw [TracingPolicy.sights_audited h hverdict, TracingPolicy.sights_audited h' hverdict', hspans]
    rfl
  · rw [TracingPolicy.sights_audited_of_panic h hverdict,
      TracingPolicy.sights_audited_of_panic h' hverdict']

-- ---------------------------------------------------------------------------
-- Payload logging
-- ---------------------------------------------------------------------------

/-- Payload logging is nothing to a streaming call: there is no payload to be logged. -/
theorem TracingPolicy.around_logPayloads (p : TracingPolicy) (on : Bool) (info : StreamInfo)
    (inner : Inside .streaming σ) :
    TracingPolicy.around (m := .streaming) { p with logPayloads := on } info inner
      = p.around info inner := by
  have hrequest : ∀ (q : TracingPolicy) cx (s : ServerStream),
      q.recordRequest (σ := σ) cx (Mode.request? (m := .streaming) s) = .returns () := by
    intro q cx s
    rw [recordRequest]
    split <;> rfl
  have houtcome : ∀ cx (result : Result Unit),
      recordOutcome (m := .streaming) (σ := σ) { p with logPayloads := on } cx result
        = p.recordOutcome (m := .streaming) cx result := by
    intro cx result
    cases result with
    | ok reply =>
      rw [recordOutcome, recordOutcome]
      split <;> split <;> rfl
    | error status => rfl
  have hwithin : ∀ cx s, within (m := .streaming) { p with logPayloads := on } cx info inner s
      = p.within cx info inner s := by
    intro cx s
    unfold within
    simp only [hrequest, houtcome]
    rfl
  have htraced : ∀ j s, traced (m := .streaming) { p with logPayloads := on } j info inner s
      = p.traced j info inner s := by
    intro j s
    rw [traced_eq, traced_eq]
    congr 1
    funext span
    rw [hwithin]
  unfold around
  simp only [htraced]
  rfl

theorem Interceptor.intercept_logPayloads (p : TracingPolicy) (on : Bool)
    (delegate : Option (Interceptor .streaming)) :
    (tracing { p with logPayloads := on } delegate).intercept = (tracing p delegate).intercept := by
  funext info inner
  exact p.around_logPayloads on info (through delegate info inner)

/-- Wherever the option stands, it turns payload logging on and does nothing else. -/
theorem Options.ofList_logPayloads (before after : List ServerOption) :
    ofList (before ++ .logPayloads :: after)
      = { ofList (before ++ after) with logPayloads := true } := by
  have happly : ∀ (c : ServerOption) (o : Options),
      c.apply { o with logPayloads := true } = { c.apply o with logPayloads := true } := by
    intro c o
    cases c <;> rfl
  have hfoldl : ∀ (changes : List ServerOption) (o : Options),
      changes.foldl ServerOption.apply { o with logPayloads := true }
        = { changes.foldl ServerOption.apply o with logPayloads := true } := by
    intro changes
    induction changes with
    | nil => exact fun _ => rfl
    | cons c changes ih =>
      intro o
      rw [List.foldl_cons, List.foldl_cons, happly, ih]
  rw [ofList, ofList, List.foldl_append, List.foldl_append, List.foldl_cons]
  exact hfoldl after _

/-- **One configuration, two modes.** Let options without delegates be given whose predicate and
decorator do not care about payloads, and a unary and a streaming handler that do the same on the
context that they see. Then a unary call and a streaming call of one method, that come with one
context, finish the same way and record the same, but for what is erased; the tracing layer finds
out the same, and reaches its handler with the same context. And payload logging, whatever else
is configured, is nothing to a streaming call. -/
theorem Options.interceptors_agree (changes : List ServerOption)
    (hdelegates : ∀ c ∈ changes, ∀ m, c.isDelegate m = false)
    (hignores : (ofList changes).toTracingPolicy.IgnoresPayload) (h : Handler .unary)
    (message : Message) (h' : Handler .streaming) (c : Channel)
    (hpaired : h.Paired message h' c) (info : StreamInfo) (s : ServerStream) (r : Recorder) :
    let unary := (ofList changes).interceptor .unary
    let streaming := (ofList changes).interceptor .streaming
    let left := unary.intercept ⟨info.fullMethod⟩ h.serve ⟨s.context, message⟩ ⟨r, ()⟩
    let right := streaming.intercept info h'.serve s ⟨r, c⟩
    left.1.finish = right.1.finish ∧
    left.2.recorder.Matches right.2.recorder ∧
    Trail.sights (unary.trail h ⟨info.fullMethod⟩ ⟨s.context, message⟩ ⟨r, ()⟩)
      = Trail.sights (streaming.trail h' info s ⟨r, c⟩) ∧
    ∀ before after : List ServerOption,
      ((ofList (before ++ .logPayloads :: after)).interceptor .streaming).intercept
        = ((ofList (before ++ after)).interceptor .streaming).intercept := by
  intro unary streaming left right
  let p := (ofList changes).toTracingPolicy
  have hdelegate : ∀ m, (ofList changes).delegate m = none := by
    intro m
    rw [ofList, delegate_foldl fun c hc => hdelegates c hc m]
    cases m <;> rfl
  have halone : ∀ m, (ofList changes).interceptor m = .tracing p none := by
    intro m
    rw [interceptor_eq, hdelegate]
  have hmethod : (⟨info.fullMethod⟩ : UnaryInfo).fullMethod = info.fullMethod := rfl
  let w : World Unit := ⟨r, ()⟩
  let w' : World Channel := ⟨r, c⟩
  have hclient : h.Paired message h' w'.client := hpaired
  have hworlds : w.recorder.Matches w'.recorder := .refl r
  have hmatches := Interceptor.intercept_matches (s := s) hignores hmethod hclient hworlds
  refine ⟨?_, ?_, ?_, ?_⟩
  · show (((ofList changes).interceptor .unary).intercept _ _ _ _).1.finish
      = (((ofList changes).interceptor .streaming).intercept _ _ _ _).1.finish
    rw [halone, halone]
    exact hmatches.1
  · show (((ofList changes).interceptor .unary).intercept _ _ _ _).2.recorder.Matches
      (((ofList changes).interceptor .streaming).intercept _ _ _ _).2.recorder
    rw [halone, halone]
    exact hmatches.2
  · show Trail.sights (((ofList changes).interceptor .unary).trail _ _ _ _)
      = Trail.sights (((ofList changes).interceptor .streaming).trail _ _ _ _)
    rw [halone, halone]
    exact Interceptor.sights_trail hignores hmethod h h' message s rfl
  · intro before after
    rw [ofList_logPayloads]
    exact Interceptor.intercept_logPayloads _ true _

-- ---------------------------------------------------------------------------
-- A configuration and two handlers
-- ---------------------------------------------------------------------------

/-- Writes down what it is asked, and admits every call. -/
def Predicate.curious : Predicate := fun inquiry =>
  .perform (.note (.asked inquiry)) fun _ => .done true

/-- Writes down what it is told, and renames the span. -/
def Decorator.curious : Decorator := fun d =>
  .perform (.hook (.note (.decorated none d true))) fun _ =>
    .perform (.act d.context (.rename "decorated")) .done

theorem Predicate.curious_ignoresPayload : curious.IgnoresPayload := by
  intro i i' h
  exact ⟨rfl, congrArg (fun inquiry => [Note.asked inquiry]) h⟩

theorem Decorator.curious_ignoresPayload : curious.IgnoresPayload := by
  intro d d' h w
  have hcontext : d.erase.context = d'.erase.context := by rw [h]
  have hnoted : (w.after [.noted (.decorated none d true)]).recorder.Matches
      (w.after [.noted (.decorated none d' true)]).recorder := by
    refine (Recorder.Matches.refl w.recorder).after ?_
    exact congrArg (fun d => [Entry.noted (.decorated none d true)]) h
  obtain ⟨-, hrenamed⟩ := Call.Matching.act (σ := Unit) (τ := Unit) .user d.context
    (.rename "decorated") _ _ hnoted
  refine ⟨rfl, ?_⟩
  show Recorder.Matches ((Call.act .user d.context (.rename "decorated")) _).2.recorder
    ((Call.act .user d'.context (.rename "decorated")) _).2.recorder
  rw [show d'.context = d.context from hcontext.symm]
  exact hrenamed

/-- Looks at the response, renames the span of its stream's context, and fails. -/
def Handler.refusingStream : Handler .streaming := fun s =>
  .perform (.client (.onClient .snapshot)) fun _ =>
    .perform (.span (.act s.context (.rename "refused"))) fun _ =>
      .done (.error (.internal "out of stock"))

theorem Handler.refusing_paired (message : Message) (c : Channel) :
    Handler.refusing.Paired message .refusingStream c :=
  fun _ _ => ⟨rfl, rfl⟩

/-- Payloads are logged, and both hooks are told of every call. -/
def Options.watchful : List ServerOption :=
  [.logPayloads, .including .curious, .decorator .curious]

theorem Options.watchful_ignoresPayload : (ofList watchful).toTracingPolicy.IgnoresPayload where
  predicate _ hf := Option.some.inj hf ▸ Predicate.curious_ignoresPayload
  decorator _ hf := Option.some.inj hf ▸ Decorator.curious_ignoresPayload

theorem Options.watchful_isDelegate : ∀ c ∈ watchful, ∀ m, c.isDelegate m = false := by
  intro _ hc m
  simp only [watchful, List.mem_cons, List.not_mem_nil, or_false] at hc
  obtain rfl | rfl | rfl := hc <;> cases m <;> rfl

theorem Options.interceptors_agree_watchful :
    let info : StreamInfo := ⟨"/shop/Watch", true, true⟩
    let left := ((ofList watchful).interceptor .unary).intercept ⟨info.fullMethod⟩
      Handler.refusing.serve .blank .fresh
    let right := ((ofList watchful).interceptor .streaming).intercept info
      Handler.refusingStream.serve (.channel ∅) ⟨∅, .silent⟩
    (∀ c ∈ watchful, ∀ m, c.isDelegate m = false) ∧
      (ofList watchful).toTracingPolicy.IgnoresPayload ∧
      Handler.refusing.Paired ⟨.unit, .unit⟩ .refusingStream .silent ∧
      left.1.finish = right.1.finish ∧ left.2.recorder.Matches right.2.recorder :=
  have hpaired := Handler.refusing_paired ⟨.unit, .unit⟩ .silent
  have hagree := interceptors_agree watchful watchful_isDelegate watchful_ignoresPayload .refusing
    _ .refusingStream _ hpaired ⟨"/shop/Watch", true, true⟩ (.channel ∅) ∅
  ⟨watchful_isDelegate, watchful_ignoresPayload, hpaired, hagree.1, hagree.2.1⟩

end CallSpan
