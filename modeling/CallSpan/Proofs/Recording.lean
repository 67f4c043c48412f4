import CallSpan.Proofs.Parentage

/-!
# What a traced call records

A call that a tracing layer admits goes through stages: its span is started, the request is
recorded, the call within runs, what came of it is recorded, the decorator is called, and the
span is ended. An `Admission` is such a call, and what it leaves is defined from it stage by
stage (`Admission.ran`), with the names and texts that are recorded written out.

Between the stages an arbitrary delegate, handler and decorator run. They may act on the span,
but as users: the **own** entries of a span are those that its layer makes, and nothing within
makes one, since a layer within acts on a span of its own, which is numbered higher.

Main result:

* `Interceptor.intercept_admission` — a tracing layer does with a call that it admits as the
  stages say, and the own entries of its span are those of the stages.
-/

namespace CallSpan

variable {m : Mode} {σ α β : Type}

-- ---------------------------------------------------------------------------
-- What is recorded
-- ---------------------------------------------------------------------------

/-- The event of a payload, if there is one: it shows the payload under its own name. -/
def payloadShown (event : String) : Option Message → List SpanAction
  | some payload => [.addEvent event [(event, .text payload.display.inline)]]
  | none => []

namespace Code

/-- The codes of failures that the client is to blame for. -/
def clientFaults : List Code :=
  [.cancelled, .invalidArgument, .notFound, .alreadyExists, .permissionDenied, .unauthenticated,
    .failedPrecondition, .outOfRange]

/-- The codes of failures that the server is to blame for. -/
def serverFaults : List Code :=
  [.unknown, .deadlineExceeded, .resourceExhausted, .aborted, .unimplemented, .internal,
    .unavailable, .dataLoss]

/-- How the class of a code is recorded. -/
def responseClass (c : Code) : String :=
  if c ∈ clientFaults then "4xx" else if c ∈ serverFaults then "5xx" else "2xx"

end Code

/-- What is recorded of a failure: its code and class, that it is an error if the server is to
blame, and an event with its message. -/
def Status.recorded (status : Status) : List SpanAction :=
  [.setAttribute ("response_code", .integer (Int64.ofNat status.code.number)),
    .setAttribute ("response_class", .text status.code.responseClass)] ++
  (if status.code ∈ Code.serverFaults then
    [.setAttribute ("error", .flag true), .setStatus (.error status.message)]
  else []) ++
  [.addEvent "error" [("event", .text "error"), ("message", .text status.message)]]

/-- The world with entries added to its log. -/
def World.after (w : World σ) (es : List Entry) : World σ :=
  { w with recorder := { w.recorder with log := w.recorder.log ++ es } }

/-- A call that a tracing layer has admitted, and the world in which it has. -/
structure Admission (m : Mode) where
  policy : TracingPolicy
  info : m.Info
  /-- What lies within the layer. -/
  inner : Continuation m
  subject : m.Subject
  judgement : Judgement
  world : World m.Client

namespace Admission

variable (a : Admission m)

/-- The number of the span that is started. -/
def span : Nat := a.world.recorder.spans + 1

/-- The context that is handed on, in which the span is active. -/
def context : Context :=
  a.judgement.contextWithin (Mode.contextOf a.subject)
    (.started a.span (Recorder.contextOf a.span a.judgement.parent))

def start : Entry :=
  .started a.span
    ⟨Mode.methodOf a.info, true, [("component", .text "gRPC")], a.judgement.parent⟩

/-- Actions of the layer on its span, as entries. -/
def acts (actions : List SpanAction) : List Entry :=
  actions.map (.acted .layer a.span)

/-- What is recorded before the call within. -/
def opening : List SpanAction :=
  if a.policy.logPayloads then payloadShown "gRPC request" (Mode.request? a.subject) else []

/-- What is recorded when the call within has ended. -/
def closing : Outcome (Result m.Reply) → List SpanAction
  | .returned (.ok reply) =>
    if a.policy.logPayloads then payloadShown "gRPC response" (Mode.response? reply) else []
  | .returned (.error status) => if a.policy.logErrors then status.recorded else []
  | .panicked _ | .cancelled => []

/-- What the decorator is told: of the request what this layer got, whatever was handed on
below. -/
def decoration : Result m.Reply → Decoration
  | .ok reply =>
    ⟨a.context, Mode.methodOf a.info, Mode.request? a.subject, Mode.response? reply, none⟩
  | .error status =>
    ⟨a.context, Mode.methodOf a.info, Mode.request? a.subject, none, some status⟩

/-- The decorator is called if the call within has returned, and what that call came to is
what the whole comes to, unless the decorator panics. -/
def conclude : Outcome (Result m.Reply) → Call m.Client (Result m.Reply)
  | .returned result =>
    match a.policy.decorator with
    | some decorator =>
      ((decorator (a.decoration result)).run SpanOp.perform).bind fun _ => .returns result
    | none => .returns result
  | .panicked message => .panic message
  | .cancelled => .wait

-- ---------------------------------------------------------------------------
-- Stages
-- ---------------------------------------------------------------------------

/-- The span is started, and the request is recorded. -/
def opened : World m.Client :=
  World.after ⟨⟨a.world.recorder.log ++ [a.start], a.span⟩, a.world.client⟩ (a.acts a.opening)

/-- The call within has run. -/
def inside : Outcome (Result m.Reply) × World m.Client :=
  a.inner (Mode.rebase a.context a.subject) a.opened

/-- What came of it is recorded. -/
def closed : World m.Client := a.inside.2.after (a.acts (a.closing a.inside.1))

/-- The decorator has run, if it was called. -/
def concluded : Outcome (Result m.Reply) × World m.Client := a.conclude a.inside.1 a.closed

/-- The span is ended. -/
def ran : Outcome (Result m.Reply) × World m.Client :=
  (a.concluded.1, a.concluded.2.after (a.acts [.finish]))

end Admission

/-- Whether an entry is the start of a span, or was made by the layer that started it. -/
def Entry.isOwn (span : Nat) : Entry → Bool
  | .started n _ => n == span
  | .acted .layer n _ => n == span
  | _ => false

/-- The entries that an admitted call makes, with those of the call within and of the
decorator where they stand. -/
def Admission.entries (a : Admission m) (within decorated : List Entry) : List Entry :=
  a.start :: (a.acts a.opening ++ within ++ a.acts (a.closing a.inside.1) ++ decorated ++
    a.acts [.finish])

/-- What is said of an admitted call that came in the world `w`, when the predicate, the call
within and the decorator add the given entries to the log. -/
structure Admission.Recorded (a : Admission m) (w : World m.Client)
    (asked within decorated : List Entry) : Prop where
  logAsked : a.world.recorder.log = w.recorder.log ++ asked
  logWithin : a.inside.2.recorder.log = a.opened.recorder.log ++ within
  logDecorated : a.concluded.2.recorder.log = a.closed.recorder.log ++ decorated
  /-- What the call adds to the log in all. -/
  log : a.ran.2.recorder.log = w.recorder.log ++ (asked ++ a.entries within decorated)
  /-- Of that, the layer's own operations on its span. -/
  own : (asked ++ a.entries within decorated).filter (Entry.isOwn a.span)
    = a.start :: a.acts (a.opening ++ a.closing a.inside.1 ++ [.finish])

-- ---------------------------------------------------------------------------
-- A tracing layer goes through the stages
-- ---------------------------------------------------------------------------

section Actions

variable {cx : Context} {n : Nat}

theorem Recorder.actAll_of_spanNumber? (h : cx.spanNumber? = some n) (r : Recorder)
    (author : Author) (actions : List SpanAction) :
    r.actAll author cx actions = ⟨r.log ++ actions.map (.acted author n), r.spans⟩ := by
  induction actions generalizing r with
  | nil => rw [List.map_nil, List.append_nil, actAll, List.foldl_nil]
  | cons action actions ih =>
    have hfirst : r.act author cx action = ⟨r.log ++ [.acted author n action], r.spans⟩ := by
      rw [act_eq, h]
      rfl
    rw [actAll, List.foldl_cons, hfirst, ← actAll, ih, List.append_assoc]
    rfl

end Actions

@[simp] theorem World.after_nil (w : World σ) : w.after [] = w := by
  rw [World.after, List.append_nil]

theorem Code.label_errorClass (c : Code) : c.errorClass.label = c.responseClass := by
  cases c <;> rfl

theorem Code.errorClass_eq_serverError_iff (c : Code) :
    c.errorClass = .serverError ↔ c ∈ serverFaults := by
  cases c <;> decide

theorem errorTags_errorEvent (status : Status) :
    errorTags status false ++ [errorEvent status] = status.recorded := by
  rw [errorTags, Status.recorded, Status.isSpanError, Bool.false_or, Code.label_errorClass]
  have hclass := status.code.errorClass_eq_serverError_iff
  by_cases h : status.code ∈ Code.serverFaults
  · rw [if_pos (decide_eq_true (hclass.mpr h)), if_pos h]
    rfl
  · rw [if_neg (by simp [hclass, h]), if_neg h]
    rfl

namespace Admission

variable (a : Admission m)

@[simp] theorem acts_nil : a.acts [] = [] := rfl

theorem recordPayload_eq (event : String) (payload : Option Message) (w : World σ) :
    recordPayload a.context event payload w
      = (.returned (), w.after (a.acts (payloadShown event payload))) := by
  cases payload with
  | none =>
    rw [payloadShown, acts_nil, World.after_nil]
    rfl
  | some msg => rfl

theorem recordRequest_eq (w : World σ) :
    a.policy.recordRequest a.context (Mode.request? a.subject) w
      = (.returned (), w.after (a.acts a.opening)) := by
  rw [TracingPolicy.recordRequest, opening]
  split
  · exact a.recordPayload_eq "gRPC request" _ w
  · rw [acts_nil, World.after_nil]
    rfl

theorem recordOutcome_eq (result : Result m.Reply) (w : World σ) :
    a.policy.recordOutcome a.context result w
      = (.returned (), w.after (a.acts (a.closing (.returned result)))) := by
  cases result with
  | ok reply =>
    rw [TracingPolicy.recordOutcome, closing]
    split
    · exact a.recordPayload_eq "gRPC response" _ w
    · rw [acts_nil, World.after_nil]
      rfl
  | error status =>
    rw [TracingPolicy.recordOutcome, closing]
    split
    · have hcx : a.context.spanNumber? = some a.span := rfl
      rw [recordFailure, Call.record, errorTags_errorEvent, Recorder.actAll_of_spanNumber? hcx]
      rfl
    · rw [acts_nil, World.after_nil]
      rfl

theorem decorate_eq (result : Result m.Reply) :
    ((a.policy.decorate ⟨a.context, Mode.methodOf a.info, Mode.request? a.subject,
        (replyOf result).bind Mode.response?, errorOf result⟩).bind fun _ => .returns result)
      = a.conclude (.returned result) := by
  have hdecoration : (⟨a.context, Mode.methodOf a.info, Mode.request? a.subject,
      (replyOf result).bind Mode.response?, errorOf result⟩ : Decoration)
        = a.decoration result := by
    cases result with
    | ok reply => rfl
    | error status => rfl
  rw [hdecoration, TracingPolicy.decorate, conclude]
  cases a.policy.decorator with
  | none => rfl
  | some decorator => rfl

theorem within_eq (w : World m.Client) (hw : w.after (a.acts a.opening) = a.opened) :
    a.policy.within a.context a.info a.inner a.subject w = a.concluded := by
  unfold TracingPolicy.within
  simp only [Call.bind_eq, decorate_eq]
  rw [Call.bind, recordRequest_eq, concluded, closed, inside, ← hw]
  simp only [Call.bind]
  rcases a.inner (Mode.rebase a.context a.subject) (w.after (a.acts a.opening))
    with ⟨outcome, w'⟩
  cases outcome with
  | returned result => simp only [recordOutcome_eq]
  -- nothing is recorded, and the decorator is not called
  | panicked message =>
    rw [closing, acts_nil, World.after_nil]
    rfl
  | cancelled =>
    rw [closing, acts_nil, World.after_nil]
    rfl

theorem traced_eq :
    a.policy.traced a.judgement a.info a.inner a.subject a.world = a.ran := by
  rw [TracingPolicy.traced_eq]
  let started : World m.Client := ⟨⟨a.world.recorder.log ++ [a.start], a.span⟩, a.world.client⟩
  have hwithin := a.within_eq started rfl
  show ((a.policy.within a.context a.info a.inner a.subject).andFinally
    (·.act .layer a.context .finish)) started = a.ran
  rw [Call.andFinally, hwithin]
  rfl

end Admission

-- ---------------------------------------------------------------------------
-- Whose own entries a call makes
-- ---------------------------------------------------------------------------

/-- Entries that are added while the number of spans goes from `n` to `k`, none of them an own
entry of a span but of `owner` and of those that are started meanwhile. -/
structure KeptTo (owner : Option Nat) (n : Nat) (es : List Entry) (k : Nat) : Prop where
  spans : n ≤ k
  own : ∀ e ∈ es, ∀ i, e.isOwn i = true → owner = some i ∨ n < i ∧ i ≤ k

namespace KeptTo

variable {owner : Option Nat} {n k l : Nat} {es es' : List Entry}

theorem nil (owner : Option Nat) (n : Nat) : KeptTo owner n [] n where
  spans := Nat.le_refl n
  own _ he := absurd he List.not_mem_nil

theorem append (h : KeptTo owner n es k) (h' : KeptTo owner k es' l) :
    KeptTo owner n (es ++ es') l where
  spans := Nat.le_trans h.spans h'.spans
  own := by
    have hk := h.spans
    have hl := h'.spans
    intro e he i hi
    rcases List.mem_append.mp he with he | he
    · exact (h.own e he i hi).imp_right fun hstarted => ⟨hstarted.1, by omega⟩
    · exact (h'.own e he i hi).imp_right fun hstarted => ⟨by omega, hstarted.2⟩

theorem singleton {e : Entry} (he : ∀ i, e.isOwn i = true → owner = some i) :
    KeptTo owner n [e] n where
  spans := Nat.le_refl n
  own e' he' i hi := by
    rw [List.mem_singleton.mp he'] at hi
    exact Or.inl (he i hi)

/-- What follows the start of a span may keep to that span, whoever was the owner before. -/
theorem start (h : KeptTo (some (n + 1)) (n + 1) es k) (s : SpanStart) :
    KeptTo owner n (.started (n + 1) s :: es) k where
  spans := Nat.le_of_succ_le h.spans
  own := by
    have hk := h.spans
    intro e he i hi
    right
    rcases List.mem_cons.mp he with rfl | he
    · obtain rfl : n + 1 = i := of_decide_eq_true hi
      omega
    · rcases h.own e he i hi with howner | hstarted
      · obtain rfl := Option.some.inj howner
        omega
      · omega

theorem filter_isOwn (h : KeptTo none n es k) {i : Nat} (hi : i ≤ n ∨ k < i) :
    es.filter (Entry.isOwn i) = [] := by
  refine List.filter_eq_nil_iff.mpr fun e he hown => ?_
  rcases h.own e he i hown with howner | hstarted
  · cases howner
  · omega

end KeptTo

/-- A call that keeps to a span, from whatever world, and whatever its outcome. -/
def Call.KeepsTo (owner : Option Nat) (c : Call σ α) : Prop :=
  ∀ w, ∃ es, (c w).2.recorder.log = w.recorder.log ++ es ∧
    KeptTo owner w.recorder.spans es (c w).2.recorder.spans

namespace Call.KeepsTo

variable {owner : Option Nat}

theorem of_unchanged {c : Call σ α} (h : ∀ w, (c w).2.recorder = w.recorder) :
    KeepsTo owner c := by
  intro w
  rw [h w]
  exact ⟨[], (List.append_nil _).symm, .nil _ _⟩

theorem returns (a : α) : KeepsTo owner (Call.returns (σ := σ) a) := of_unchanged fun _ => rfl

theorem bind {c : Call σ α} {f : α → Call σ β} (hc : KeepsTo owner c)
    (hf : ∀ a, KeepsTo owner (f a)) : KeepsTo owner (c.bind f) := by
  let adds (w w' : World σ) : Prop :=
    ∃ es, w'.recorder.log = w.recorder.log ++ es ∧
      KeptTo owner w.recorder.spans es w'.recorder.spans
  have htrans : ∀ {w₁ w₂ w₃}, adds w₁ w₂ → adds w₂ w₃ → adds w₁ w₃ := by
    rintro w₁ w₂ w₃ ⟨es, hlog, hkept⟩ ⟨es', hlog', hkept'⟩
    refine ⟨es ++ es', ?_, hkept.append hkept'⟩
    rw [hlog', hlog, List.append_assoc]
  exact Call.bind_of_trans (P := adds) htrans hc hf

theorem log {e : Entry} (he : ∀ i, e.isOwn i = true → owner = some i) :
    KeepsTo owner (Call.log (σ := σ) e) :=
  fun _ => ⟨[e], rfl, .singleton he⟩

theorem act {author : Author} {cx : Context} {a : SpanAction}
    (h : author = .layer → cx.spanNumber? = owner) :
    KeepsTo owner (Call.act (σ := σ) author cx a) := by
  intro w
  rw [Call.act, Call.record, w.recorder.act_eq]
  refine ⟨_, rfl, Nat.le_refl _, fun e he i hi => ?_⟩
  obtain ⟨n, hn, rfl⟩ := List.mem_map.mp he
  cases author with
  | layer =>
    obtain rfl : n = i := of_decide_eq_true hi
    exact Or.inl ((h rfl).symm.trans (Option.mem_toList.mp hn))
  | user => exact absurd hi Bool.false_ne_true

theorem start_bind {s : SpanStart} {f : ActiveSpan → Call σ α}
    (hf : ∀ n sc, KeepsTo (some n) (f (.started n sc))) :
    KeepsTo owner ((Call.start s).bind f) := by
  intro w
  let n := w.recorder.spans + 1
  obtain ⟨es, hlog, hkept⟩ := hf n (Recorder.contextOf n s.parent)
    ⟨⟨w.recorder.log ++ [.started n s], n⟩, w.client⟩
  exact ⟨.started n s :: es, hlog.trans (List.append_assoc _ _ _), hkept.start s⟩

theorem andFinally {c : Call σ α} (hc : KeepsTo owner c) {cx : Context}
    (hcx : cx.spanNumber? = owner) (a : SpanAction) :
    KeepsTo owner (c.andFinally (·.act .layer cx a)) := by
  intro w
  have hact : KeepsTo owner (Call.act (σ := σ) .layer cx a) := act fun _ => hcx
  obtain ⟨es, hlog, hkept⟩ := hc w
  obtain ⟨es', hlog', hkept'⟩ := hact (c w).2
  refine ⟨es ++ es', ?_, hkept.append hkept'⟩
  rw [← List.append_assoc, ← hlog]
  exact hlog'

/-- What a tracing layer does around its span keeps to that span. -/
def rule (σ : Type) (owner : Option Nat) : Call.Rule σ σ where
  Holds c _ := KeepsTo owner c
  Allows author cx _ := author = .layer → cx.spanNumber? = owner
  returns := returns
  bind := bind
  note _ := log fun _ hk => absurd hk Bool.false_ne_true
  report _ := log fun _ hk => absurd hk Bool.false_ne_true
  act := act
  isRecording _ := of_unchanged fun _ => rfl

theorem rule_panics : (rule σ owner).Panics := fun _ => of_unchanged fun _ => rfl

theorem rule_allowsWithin {cx : Context} (hcx : cx.spanNumber? = owner) :
    (rule σ owner).AllowsWithin cx :=
  fun _ _ _ => hcx

theorem rule_allowsOp (o : SpanOp) : (rule σ owner).AllowsOp o := by
  cases o with
  | act cx a => exact fun hauthor => nomatch hauthor
  | hook o => exact trivial
  | isRecording cx => exact trivial

theorem run {S : Signature} {perform : (o : S.Op) → Call σ (S.Answer o)}
    (h : ∀ o, KeepsTo owner (perform o)) (p : Program S α) : KeepsTo owner (p.run perform) := by
  show (rule σ owner).Holds (p.run perform) (p.run perform)
  exact (rule σ owner).runAny h p

end Call.KeepsTo

open Call (KeepsTo)

variable {owner : Option Nat}

theorem SpanOp.perform_keepsTo (o : SpanOp) : KeepsTo owner (o.perform (σ := σ)) :=
  Call.Rule.spanOp KeepsTo.rule_panics (KeepsTo.rule_allowsOp o)

theorem HandlerOp.perform_keepsTo (o : HandlerOp m) : KeepsTo owner o.perform := by
  cases o with
  | span o => exact o.perform_keepsTo
  | client o => exact KeepsTo.of_unchanged (Mode.recorder_performClient o)
  | wait => exact KeepsTo.of_unchanged fun _ => rfl

namespace TracingPolicy

variable (p : TracingPolicy) {info : m.Info} {inner : Inside m σ}

end TracingPolicy

namespace Admission

variable (a : Admission m)

theorem conclude_keepsTo (outcome : Outcome (Result m.Reply)) :
    KeepsTo owner (a.conclude outcome) := by
  cases outcome with
  | returned result =>
    rw [conclude]
    cases a.policy.decorator with
    | none => exact KeepsTo.returns result
    | some decorator =>
      have hdecorator : KeepsTo (σ := m.Client) owner
          ((decorator (a.decoration result)).run SpanOp.perform) :=
        KeepsTo.run SpanOp.perform_keepsTo _
      exact hdecorator.bind fun _ => KeepsTo.returns result
  | panicked message => exact KeepsTo.rule_panics message
  | cancelled => exact KeepsTo.of_unchanged fun _ => rfl

theorem filter_acts (actions : List SpanAction) :
    (a.acts actions).filter (Entry.isOwn a.span) = a.acts actions := by
  refine List.filter_eq_self.mpr fun e he => ?_
  obtain ⟨action, -, rfl⟩ := List.mem_map.mp he
  exact decide_eq_true rfl

theorem isOwn_start : a.start.isOwn a.span = true := decide_eq_true rfl

theorem filter_entries {asked within decorated : List Entry}
    (hasked : asked.filter (Entry.isOwn a.span) = [])
    (hwithin : within.filter (Entry.isOwn a.span) = [])
    (hdecorated : decorated.filter (Entry.isOwn a.span) = []) :
    (asked ++ a.entries within decorated).filter (Entry.isOwn a.span)
      = a.start :: a.acts (a.opening ++ a.closing a.inside.1 ++ [.finish]) := by
  rw [List.filter_append, hasked, entries, List.filter_cons_of_pos a.isOwn_start]
  simp only [List.filter_append, filter_acts, hwithin, hdecorated]
  simp [acts]

theorem recorded (w : World m.Client) {asked : List Entry}
    (hasked : a.world.recorder.log = w.recorder.log ++ asked)
    (haskedKept : KeptTo none w.recorder.spans asked a.world.recorder.spans)
    (hinner : ∀ s, KeepsTo none (a.inner s)) :
    ∃ within decorated, a.Recorded w asked within decorated := by
  obtain ⟨within, hwithin, hwithinKept⟩ := hinner (Mode.rebase a.context a.subject) a.opened
  have hconclude : KeepsTo none (a.conclude a.inside.1) := a.conclude_keepsTo a.inside.1
  obtain ⟨decorated, hdecorated, hdecoratedKept⟩ := hconclude a.closed
  have hasked' : asked.filter (Entry.isOwn a.span) = [] :=
    haskedKept.filter_isOwn (Or.inr (Nat.lt_succ_self _))
  have hwithin' : within.filter (Entry.isOwn a.span) = [] :=
    hwithinKept.filter_isOwn (Or.inl (Nat.le_refl _))
  have hdecorated' : decorated.filter (Entry.isOwn a.span) = [] :=
    hdecoratedKept.filter_isOwn (Or.inl hwithinKept.spans)
  refine ⟨within, decorated, hasked, hwithin, hdecorated, ?_,
    a.filter_entries hasked' hwithin' hdecorated'⟩
  show a.concluded.2.recorder.log ++ a.acts [.finish] = _
  have hclosed : a.concluded.2.recorder.log
      = a.inside.2.recorder.log ++ a.acts (a.closing a.inside.1) ++ decorated := hdecorated
  have hopened : a.inside.2.recorder.log
      = a.world.recorder.log ++ [a.start] ++ a.acts a.opening ++ within := hwithin
  rw [hclosed, hopened, hasked, entries]
  simp

end Admission

/-- A call that a tracing layer has admitted with a judgement, around its delegate and a
handler. -/
def Interceptor.admission (p : TracingPolicy) (delegate : Option (Interceptor m)) (h : Handler m)
    (info : m.Info) (subject : m.Subject) (j : Judgement) (w : World m.Client) : Admission m :=
  ⟨p, info, through delegate info h.serve, subject, j, w⟩

/-- Logs payloads, and puts the code of a failure on the span. -/
def TracingPolicy.verbose : TracingPolicy where
  logPayloads := true
  logErrors := true
  predicate := none
  decorator := some fun d =>
    match d.error with
    | some status => .perform (.act d.context (.setAttribute ("code", .text status.code.name))) .done
    | none => .done ()
  propagator := Propagator.standard

/-- Renames the span of its context and fails. -/
def Handler.refusing : Handler .unary := fun r =>
  .perform (.span (.act r.context (.rename "refused"))) fun _ =>
    .done (.error (.internal "out of stock"))

/-- What is recorded of a failure, between what the user does to the span: the handler renames
it, and the decorator puts the name of the code on it. -/
example :
    ((Interceptor.tracing (m := .unary) .verbose none).intercept ⟨"/shop/Buy"⟩
        Handler.refusing.serve ⟨∅, .of (.blob (.mk "cart" [3] none none))⟩ .fresh).2.recorder.log
      = [.started 1 ⟨"/shop/Buy", true, [("component", .text "gRPC")], none⟩,
        .acted .layer 1 (.addEvent "gRPC request" [("gRPC request",
          .text "Blob \x7b name: \"cart\", items: [3], note: None, inner: None \x7d")]),
        .acted .user 1 (.rename "refused"),
        .acted .layer 1 (.setAttribute ("response_code", .integer 13)),
        .acted .layer 1 (.setAttribute ("response_class", .text "5xx")),
        .acted .layer 1 (.setAttribute ("error", .flag true)),
        .acted .layer 1 (.setStatus (.error "out of stock")),
        .acted .layer 1
          (.addEvent "error" [("event", .text "error"), ("message", .text "out of stock")]),
        .acted .user 1 (.setAttribute ("code", .text "Internal")),
        .acted .layer 1 .finish] := rfl

/-- A call that is admitted around a layer that calls on twice, and a handler that fails. -/
def Admission.refused : Admission .unary :=
  Interceptor.admission .verbose (some (.custom .twice)) .refusing ⟨"/shop/Buy"⟩ .blank
    ⟨∅, none, true⟩ .fresh

end CallSpan
