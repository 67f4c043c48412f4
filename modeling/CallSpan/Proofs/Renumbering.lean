import CallSpan.Proofs.Transparency

/-!
# Renumbering

A tracer numbers its spans, and goes on counting from call to call. So the same call, made in
two states of the tracer, gets other numbers, and other ids made of these. A **rerun** is such a
pair of states, before the call. What is seen in the one run is **renumbered** in the other: it
is the same, but for the spans that have been started since. The first of them is the first
there, the second the second, and so on, so that all these numbers are shifted by the difference
of the two counters.

* Spans from before are known by the same number in both runs, as long as they are known in both
  states, and agreed to be recording or not.
* Ids that come from elsewhere stay as they are, whatever number they may look like.

What users write is **oblivious** if it does the same, up to renumbering, with whatever has been
renumbered: it may look at ids, write them down and hand them on, but what it does and what it
answers does not go by their values. As nobody could know what a number stands for, this also
means that no span is acted on that one was not told about.

* `Rerun.Number`, `Rerun.Id`  — numbers and ids of the same span.
* `Entry.Renumbered`          — entries of the two logs.
* `Interceptor.Oblivious`, `Handler.Oblivious` — what is asked of users.
-/

namespace CallSpan

variable {m : Mode}

-- ---------------------------------------------------------------------------
-- Two states of a tracer
-- ---------------------------------------------------------------------------

/-- Nothing has been ended that has not been started. -/
def Recorder.Sound (r : Recorder) : Prop :=
  ∀ j, r.spans < j → r.isRecording j = true

/-- Two states of a tracer in which a call is made. -/
structure Rerun where
  first : Recorder
  second : Recorder
  sound : first.Sound
  sound' : second.Sound

namespace Rerun

/-- A span that was started before, in both states, and is recording in both or in neither. -/
structure Knows (ρ : Rerun) (j : Nat) : Prop where
  first : j ≤ ρ.first.spans
  second : j ≤ ρ.second.spans
  agreed : ρ.first.isRecording j = ρ.second.isRecording j

/-- Numbers of the same span, when `n` spans have been started since. -/
inductive Number (ρ : Rerun) (n : Nat) : Nat → Nat → Prop where
  | known {j : Nat} (h : ρ.Knows j) : Number ρ n j j
  | allotted {k : Nat} (hpos : 0 < k) (hle : k ≤ n) :
      Number ρ n (ρ.first.spans + k) (ρ.second.spans + k)

/-- Ids that are the same, or those of a span that was started since. -/
inductive Id (ρ : Rerun) (n : Nat) {w : Nat} : BitVec w → BitVec w → Prop where
  | same (id : BitVec w) : Id ρ n id id
  | allotted {k : Nat} (hpos : 0 < k) (hle : k ≤ n) :
      Id ρ n (.ofNat w (ρ.first.spans + k)) (.ofNat w (ρ.second.spans + k))

variable {ρ : Rerun} {n n' : Nat}

theorem Number.mono (hn : n ≤ n') {i i' : Nat} (h : ρ.Number n i i') : ρ.Number n' i i' := by
  cases h with
  | known h => exact .known h
  | allotted hpos hle => exact .allotted hpos (Nat.le_trans hle hn)

theorem Id.mono (hn : n ≤ n') {w : Nat} {id id' : BitVec w} (h : ρ.Id n id id') :
    ρ.Id n' id id' := by
  cases h with
  | same id => exact .same id
  | allotted hpos hle => exact .allotted hpos (Nat.le_trans hle hn)

/-- Different spans have different numbers, in both runs. -/
theorem Number.eq_iff {i i' j j' : Nat} (hi : ρ.Number n i i') (hj : ρ.Number n j j') :
    i = j ↔ i' = j' := by
  cases hi with
  | known hi =>
    cases hj with
    | known hj => exact Iff.rfl
    | allotted hpos _ =>
      have hfirst := hi.first
      have hsecond := hi.second
      omega
  | allotted hpos _ =>
    cases hj with
    | known hj =>
      have hfirst := hj.first
      have hsecond := hj.second
      omega
    | allotted _ _ => omega

/-- No number is beyond the spans that have been started. -/
theorem Number.le {i i' : Nat} (h : ρ.Number n i i') :
    i ≤ ρ.first.spans + n ∧ i' ≤ ρ.second.spans + n := by
  cases h with
  | known h => exact ⟨Nat.le_add_right_of_le h.first, Nat.le_add_right_of_le h.second⟩
  | allotted _ hle => exact ⟨Nat.add_le_add_left hle _, Nat.add_le_add_left hle _⟩

/-- Before the call, a span was recording in both states or in neither. -/
theorem Number.agreed {i i' : Nat} (h : ρ.Number n i i') :
    ρ.first.isRecording i = ρ.second.isRecording i' := by
  cases h with
  | known h => exact h.agreed
  | allotted hpos _ =>
    have hfirst := ρ.sound _ (Nat.lt_add_of_pos_right hpos)
    have hsecond := ρ.sound' _ (Nat.lt_add_of_pos_right hpos)
    rw [hfirst, hsecond]

end Rerun

-- ---------------------------------------------------------------------------
-- Contexts
-- ---------------------------------------------------------------------------

/-- Span contexts that differ at most in ids. -/
structure SpanContext.Renumbered (ρ : Rerun) (n : Nat) (sc sc' : SpanContext) : Prop where
  traceId : ρ.Id n sc.traceId sc'.traceId
  spanId : ρ.Id n sc.spanId sc'.spanId
  flags : sc.flags = sc'.flags
  remote : sc.remote = sc'.remote
  state : sc.state = sc'.state

/-- Active spans: told about from elsewhere, or started before, or since with the same parent. -/
inductive ActiveSpan.Renumbered (ρ : Rerun) (n : Nat) : ActiveSpan → ActiveSpan → Prop where
  | remote {sc sc' : SpanContext} (h : sc.Renumbered ρ n sc') :
      Renumbered ρ n (.remote sc) (.remote sc')
  | known {j : Nat} (h : ρ.Knows j) (sc : SpanContext) :
      Renumbered ρ n (.started j sc) (.started j sc)
  | allotted {k : Nat} (hpos : 0 < k) (hle : k ≤ n) (parent : Option SpanContext) :
      Renumbered ρ n
        (.started (ρ.first.spans + k) (Recorder.contextOf (ρ.first.spans + k) parent))
        (.started (ρ.second.spans + k) (Recorder.contextOf (ρ.second.spans + k) parent))

/-- Contexts that differ at most in the active span. -/
structure Context.Renumbered (ρ : Rerun) (n : Nat) (cx cx' : Context) : Prop where
  span : Option.Rel (ActiveSpan.Renumbered ρ n) cx.span cx'.span
  baggage : cx.baggage = cx'.baggage
  metadata : cx.metadata = cx'.metadata

/-- Streams with as many wrappers and a context for each. -/
inductive ServerStream.Renumbered (ρ : Rerun) (n : Nat) : ServerStream → ServerStream → Prop where
  | channel {cx cx' : Context} (h : cx.Renumbered ρ n cx') :
      Renumbered ρ n (.channel cx) (.channel cx')
  | wrapped {inner inner' : ServerStream} {cx cx' : Context}
      (hinner : Renumbered ρ n inner inner') (h : cx.Renumbered ρ n cx') :
      Renumbered ρ n (.wrapped inner cx) (.wrapped inner' cx')

/-- What goes down through the layers in the two runs. -/
def Mode.Renumbered (ρ : Rerun) (n : Nat) : {m : Mode} → m.Subject → m.Subject → Prop
  | .unary, r, r' => r.context.Renumbered ρ n r'.context ∧ r.message = r'.message
  | .streaming, s, s' => s.Renumbered ρ n s'

section Contexts

variable {ρ : Rerun} {n n' : Nat}

theorem optionRel_mono {α : Type} {R R' : α → α → Prop} (h : ∀ {a a'}, R a a' → R' a a')
    {o o' : Option α} (ho : Option.Rel R o o') : Option.Rel R' o o' := by
  cases ho with
  | some ha => exact .some (h ha)
  | none => exact .none

theorem SpanContext.Renumbered.mono (hn : n ≤ n') {sc sc' : SpanContext}
    (h : sc.Renumbered ρ n sc') : sc.Renumbered ρ n' sc' :=
  ⟨h.traceId.mono hn, h.spanId.mono hn, h.flags, h.remote, h.state⟩

theorem SpanContext.Renumbered.refl (sc : SpanContext) : sc.Renumbered ρ n sc :=
  ⟨.same _, .same _, rfl, rfl, rfl⟩

/-- Spans that were started one for the other are told about alike. -/
theorem Recorder.contextOf_renumbered {k : Nat} (hpos : 0 < k) (hle : k ≤ n)
    (parent : Option SpanContext) :
    (contextOf (ρ.first.spans + k) parent).Renumbered ρ n
      (contextOf (ρ.second.spans + k) parent) := by
  cases parent with
  | none => exact ⟨.allotted hpos hle, .allotted hpos hle, rfl, rfl, rfl⟩
  | some sc => exact ⟨.same sc.traceId, .allotted hpos hle, rfl, rfl, rfl⟩

theorem ActiveSpan.Renumbered.mono (hn : n ≤ n') {a a' : ActiveSpan} (h : a.Renumbered ρ n a') :
    a.Renumbered ρ n' a' := by
  cases h with
  | remote h => exact .remote (h.mono hn)
  | known h sc => exact .known h sc
  | allotted hpos hle parent => exact .allotted hpos (Nat.le_trans hle hn) parent

theorem ActiveSpan.Renumbered.context {a a' : ActiveSpan} (h : a.Renumbered ρ n a') :
    a.context.Renumbered ρ n a'.context := by
  cases h with
  | remote h => exact h
  | known h sc => exact SpanContext.Renumbered.refl sc
  | allotted hpos hle parent => exact Recorder.contextOf_renumbered hpos hle parent

theorem ActiveSpan.Renumbered.number? {a a' : ActiveSpan} (h : a.Renumbered ρ n a') :
    Option.Rel (ρ.Number n) a.number? a'.number? := by
  cases h with
  | remote h => exact .none
  | known h sc => exact .some (.known h)
  | allotted hpos hle parent => exact .some (.allotted hpos hle)

namespace Context.Renumbered

variable {cx cx' : Context}

theorem mono (hn : n ≤ n') (h : cx.Renumbered ρ n cx') : cx.Renumbered ρ n' cx' :=
  ⟨optionRel_mono (ActiveSpan.Renumbered.mono hn) h.span, h.baggage, h.metadata⟩

theorem traceId (h : cx.Renumbered ρ n cx') : ρ.Id n cx.traceId cx'.traceId := by
  obtain ⟨span, baggage, metadata⟩ := cx
  obtain ⟨span', baggage', metadata'⟩ := cx'
  cases h.span with
  | none => exact .same 0
  | some ha => exact ha.context.traceId

theorem spanNumber? (h : cx.Renumbered ρ n cx') :
    Option.Rel (ρ.Number n) cx.spanNumber? cx'.spanNumber? := by
  obtain ⟨span, baggage, metadata⟩ := cx
  obtain ⟨span', baggage', metadata'⟩ := cx'
  cases h.span with
  | none => exact .none
  | some ha => exact ha.number?

/-- Another span in both contexts, and the same decoded baggage merged in. -/
theorem within (h : cx.Renumbered ρ n cx') (decoded : Context) {a a' : ActiveSpan}
    (ha : a.Renumbered ρ n a') :
    ((withIncomingBaggage cx decoded).withSpan a).Renumbered ρ n
      ((withIncomingBaggage cx' decoded).withSpan a') := by
  unfold withIncomingBaggage
  split
  · exact ⟨.some ha, h.baggage, h.metadata⟩
  · refine ⟨.some ha, ?_, h.metadata⟩
    show cx.baggage.merge decoded.baggage = cx'.baggage.merge decoded.baggage
    rw [h.baggage]

end Context.Renumbered

theorem ServerStream.Renumbered.mono (hn : n ≤ n') {s s' : ServerStream}
    (h : s.Renumbered ρ n s') : s.Renumbered ρ n' s' := by
  induction h with
  | channel h => exact .channel (h.mono hn)
  | wrapped _ h ih => exact .wrapped ih (h.mono hn)

namespace Mode.Renumbered

variable {s s' : m.Subject}

theorem mono (hn : n ≤ n') (h : Mode.Renumbered ρ n s s') : Mode.Renumbered ρ n' s s' := by
  cases m with
  | unary => exact ⟨h.1.mono hn, h.2⟩
  | streaming => exact ServerStream.Renumbered.mono hn h

theorem contextOf (h : Mode.Renumbered ρ n s s') :
    (Mode.contextOf s).Renumbered ρ n (Mode.contextOf s') := by
  cases m with
  | unary => exact h.1
  | streaming =>
    cases h with
    | channel h => exact h
    | wrapped _ h => exact h

theorem request? (h : Mode.Renumbered ρ n s s') : Mode.request? s = Mode.request? s' := by
  cases m with
  | unary => exact congrArg some h.2
  | streaming => rfl

theorem rebase (h : Mode.Renumbered ρ n s s') {cx cx' : Context} (hcx : cx.Renumbered ρ n cx') :
    Mode.Renumbered ρ n (Mode.rebase cx s) (Mode.rebase cx' s') := by
  cases m with
  | unary => exact ⟨hcx, h.2⟩
  | streaming => exact .wrapped h hcx

end Mode.Renumbered

end Contexts

-- ---------------------------------------------------------------------------
-- Logs
-- ---------------------------------------------------------------------------

/-- What predicates are told in the two runs. -/
structure Inquiry.Renumbered (ρ : Rerun) (n : Nat) (i i' : Inquiry) : Prop where
  parent : Option.Rel (SpanContext.Renumbered ρ n) i.parent i'.parent
  method : i.method = i'.method
  request : i.request = i'.request
  response : i.response = i'.response

/-- What decorators are told in the two runs. -/
structure Decoration.Renumbered (ρ : Rerun) (n : Nat) (d d' : Decoration) : Prop where
  context : d.context.Renumbered ρ n d'.context
  method : d.method = d'.method
  request : d.request = d'.request
  response : d.response = d'.response
  error : d.error = d'.error

/-- A note in which there is neither a context nor an id. -/
def Note.IsPlain : Note → Prop
  | asked _ | decorated _ _ _ | entered _ _ _ | observed _ | wrapped _ _ | unwrapped _ _ => False
  | left _ _ | handledMessage _ | handledValue _ | handledStream | recording _ | snapshot _
  | drained _ | received _ | stepped _ _ => True

inductive Note.Renumbered (ρ : Rerun) (n : Nat) : Note → Note → Prop where
  | plain {ν : Note} (h : ν.IsPlain) : Renumbered ρ n ν ν
  | asked {i i' : Inquiry} (h : i.Renumbered ρ n i') : Renumbered ρ n (.asked i) (.asked i')
  | decorated (name : Option String) {d d' : Decoration} (h : d.Renumbered ρ n d')
      (recording : Bool) :
      Renumbered ρ n (.decorated name d recording) (.decorated name d' recording)
  | entered (name : Option String) (method : String) {cx cx' : Context}
      (h : cx.Renumbered ρ n cx') :
      Renumbered ρ n (.entered name method cx) (.entered name method cx')
  | observed {cx cx' : Context} (h : cx.Renumbered ρ n cx') :
      Renumbered ρ n (.observed cx) (.observed cx')
  | wrapped {new new' old old' : Context} (hnew : new.Renumbered ρ n new')
      (hold : old.Renumbered ρ n old') : Renumbered ρ n (.wrapped new old) (.wrapped new' old')
  | unwrapped {outer outer' inner inner' : Context} (houter : outer.Renumbered ρ n outer')
      (hinner : inner.Renumbered ρ n inner') :
      Renumbered ρ n (.unwrapped outer inner) (.unwrapped outer' inner')

/-- A report that tells of no trace. -/
def Report.IsPlain (r : Report) : Prop :=
  "trace_id" ∉ r.fields.map Prod.fst

/-- What stands at the same place of the two logs: the start of the same span, with the same
parent, the same action on it, the same report but for the trace, or the same note. -/
inductive Entry.Renumbered (ρ : Rerun) (n : Nat) : Entry → Entry → Prop where
  | started {k : Nat} (hpos : 0 < k) (hle : k ≤ n) (start : SpanStart) :
      Renumbered ρ n (.started (ρ.first.spans + k) start) (.started (ρ.second.spans + k) start)
  | acted (author : Author) {i i' : Nat} (h : ρ.Number n i i') (action : SpanAction) :
      Renumbered ρ n (.acted author i action) (.acted author i' action)
  | reported {r : Report} (h : r.IsPlain) : Renumbered ρ n (.reported r) (.reported r)
  | outcome (method : String) {trace trace' : TraceId} (h : ρ.Id n trace trace')
      (error : Option Status) :
      Renumbered ρ n (.reported (outcomeReport method trace error))
        (.reported (outcomeReport method trace' error))
  | noted {ν ν' : Note} (h : ν.Renumbered ρ n ν') : Renumbered ρ n (.noted ν) (.noted ν')

section Logs

variable {ρ : Rerun} {n n' : Nat}

theorem Inquiry.Renumbered.mono (hn : n ≤ n') {i i' : Inquiry} (h : i.Renumbered ρ n i') :
    i.Renumbered ρ n' i' :=
  ⟨optionRel_mono (SpanContext.Renumbered.mono hn) h.parent, h.method, h.request,
    h.response⟩

theorem Decoration.Renumbered.mono (hn : n ≤ n') {d d' : Decoration} (h : d.Renumbered ρ n d') :
    d.Renumbered ρ n' d' :=
  ⟨h.context.mono hn, h.method, h.request, h.response, h.error⟩

theorem Note.Renumbered.mono (hn : n ≤ n') {ν ν' : Note} (h : ν.Renumbered ρ n ν') :
    ν.Renumbered ρ n' ν' := by
  cases h with
  | plain h => exact .plain h
  | asked h => exact .asked (h.mono hn)
  | decorated name h recording => exact .decorated name (h.mono hn) recording
  | entered name method h => exact .entered name method (h.mono hn)
  | observed h => exact .observed (h.mono hn)
  | wrapped hnew hold => exact .wrapped (hnew.mono hn) (hold.mono hn)
  | unwrapped houter hinner => exact .unwrapped (houter.mono hn) (hinner.mono hn)

theorem Entry.Renumbered.mono (hn : n ≤ n') {e e' : Entry} (h : e.Renumbered ρ n e') :
    e.Renumbered ρ n' e' := by
  cases h with
  | started hpos hle start => exact .started hpos (Nat.le_trans hle hn) start
  | acted author h action => exact .acted author (h.mono hn) action
  | reported h => exact .reported h
  | outcome method h error => exact .outcome method (h.mono hn) error
  | noted h => exact .noted (h.mono hn)

theorem Entry.isEndOf_reported (r : Report) (i : Nat) : (Entry.reported r).isEndOf i = false := rfl

/-- The end of a span stands where its end stands in the other log. -/
theorem Entry.Renumbered.isEndOf {e e' : Entry} (h : e.Renumbered ρ n e') {i i' : Nat}
    (hi : ρ.Number n i i') : e.isEndOf i = e'.isEndOf i' := by
  cases h with
  | acted author hj action =>
    cases action with
    | finish =>
      have hsame := hj.eq_iff hi
      rw [Entry.isEndOf, Entry.isEndOf, Bool.eq_iff_iff, beq_iff_eq, beq_iff_eq, hsame]
    | setAttribute a => rfl
    | addEvent name attributes => rfl
    | setStatus status => rfl
    | rename name => rfl
  | started hpos hle start => rfl
  | reported h => rw [Entry.isEndOf_reported, Entry.isEndOf_reported]
  | outcome method h error => rw [Entry.isEndOf_reported, Entry.isEndOf_reported]
  | noted h => rfl

/-- No span is ended that has not been started by then. -/
theorem Entry.Renumbered.isEndOf_of_lt {e e' : Entry} (h : e.Renumbered ρ n e') {j : Nat}
    (hj : ρ.second.spans + n < j) : e'.isEndOf j = false := by
  cases h with
  | acted author hi action =>
    obtain ⟨-, hle⟩ := hi.le
    cases action with
    | finish =>
      rw [Entry.isEndOf, beq_eq_false_iff_ne]
      omega
    | setAttribute a => rfl
    | addEvent name attributes => rfl
    | setStatus status => rfl
    | rename name => rfl
  | started hpos hle start => rfl
  | reported h => rw [Entry.isEndOf_reported]
  | outcome method h error => rw [Entry.isEndOf_reported]
  | noted h => rfl

end Logs

-- ---------------------------------------------------------------------------
-- The same numbers
-- ---------------------------------------------------------------------------

/-! Where both states have numbered as many spans, what has been renumbered is the same. -/

section SameNumbers

variable {ρ : Rerun} {n : Nat}

theorem Rerun.Number.eq (h : ρ.first.spans = ρ.second.spans) {i i' : Nat}
    (hi : ρ.Number n i i') : i = i' := by
  cases hi with
  | known _ => rfl
  | allotted _ _ => rw [h]

theorem Rerun.Id.eq (h : ρ.first.spans = ρ.second.spans) {w : Nat} {id id' : BitVec w}
    (hid : ρ.Id n id id') : id = id' := by
  cases hid with
  | same id => rfl
  | allotted _ _ => rw [h]

theorem optionRel_eq {α : Type} {R : α → α → Prop} (h : ∀ {a a'}, R a a' → a = a')
    {o o' : Option α} (ho : Option.Rel R o o') : o = o' := by
  cases ho with
  | some ha => exact congrArg some (h ha)
  | none => rfl

theorem SpanContext.Renumbered.eq (h : ρ.first.spans = ρ.second.spans) {sc sc' : SpanContext}
    (hsc : sc.Renumbered ρ n sc') : sc = sc' := by
  obtain ⟨traceId, spanId, flags, remote, state⟩ := sc
  obtain ⟨traceId', spanId', flags', remote', state'⟩ := sc'
  obtain ⟨htrace, hspan, rfl, rfl, rfl⟩ := hsc
  rw [SpanContext.mk.injEq]
  exact ⟨htrace.eq h, hspan.eq h, rfl, rfl, rfl⟩

theorem ActiveSpan.Renumbered.eq (h : ρ.first.spans = ρ.second.spans) {a a' : ActiveSpan}
    (ha : a.Renumbered ρ n a') : a = a' := by
  cases ha with
  | remote hsc => rw [hsc.eq h]
  | known _ sc => rfl
  | allotted _ _ parent => rw [h]

theorem Context.Renumbered.eq (h : ρ.first.spans = ρ.second.spans) {cx cx' : Context}
    (hcx : cx.Renumbered ρ n cx') : cx = cx' := by
  obtain ⟨span, baggage, metadata⟩ := cx
  obtain ⟨span', baggage', metadata'⟩ := cx'
  obtain ⟨hspan, rfl, rfl⟩ := hcx
  obtain rfl : span = span' := optionRel_eq (ActiveSpan.Renumbered.eq h) hspan
  rfl

theorem Inquiry.Renumbered.eq (h : ρ.first.spans = ρ.second.spans) {i i' : Inquiry}
    (hi : i.Renumbered ρ n i') : i = i' := by
  obtain ⟨parent, method, request, response⟩ := i
  obtain ⟨parent', method', request', response'⟩ := i'
  obtain ⟨hparent, rfl, rfl, rfl⟩ := hi
  obtain rfl : parent = parent' := optionRel_eq (SpanContext.Renumbered.eq h) hparent
  rfl

theorem Decoration.Renumbered.eq (h : ρ.first.spans = ρ.second.spans) {d d' : Decoration}
    (hd : d.Renumbered ρ n d') : d = d' := by
  obtain ⟨context, method, request, response, error⟩ := d
  obtain ⟨context', method', request', response', error'⟩ := d'
  obtain ⟨hcontext, rfl, rfl, rfl, rfl⟩ := hd
  obtain rfl : context = context' := hcontext.eq h
  rfl

theorem Note.Renumbered.eq (h : ρ.first.spans = ρ.second.spans) {ν ν' : Note}
    (hν : ν.Renumbered ρ n ν') : ν = ν' := by
  cases hν with
  | plain _ => rfl
  | asked hi => rw [hi.eq h]
  | decorated name hd recording => rw [hd.eq h]
  | entered name method hcx => rw [hcx.eq h]
  | observed hcx => rw [hcx.eq h]
  | wrapped hnew hold => rw [hnew.eq h, hold.eq h]
  | unwrapped houter hinner => rw [houter.eq h, hinner.eq h]

theorem Entry.Renumbered.eq (h : ρ.first.spans = ρ.second.spans) {e e' : Entry}
    (he : e.Renumbered ρ n e') : e = e' := by
  cases he with
  | started _ _ start => rw [h]
  | acted author hi action => rw [hi.eq h]
  | reported _ => rfl
  | outcome method htrace error => rw [htrace.eq h]
  | noted hν => rw [hν.eq h]

end SameNumbers

-- ---------------------------------------------------------------------------
-- What users do
-- ---------------------------------------------------------------------------

inductive HookOp.Renumbered (ρ : Rerun) (n : Nat) : HookOp → HookOp → Prop where
  | note {ν ν' : Note} (h : ν.Renumbered ρ n ν') : Renumbered ρ n (.note ν) (.note ν')
  | panic (message : String) : Renumbered ρ n (.panic message) (.panic message)

inductive SpanOp.Renumbered (ρ : Rerun) (n : Nat) : SpanOp → SpanOp → Prop where
  | hook {o o' : HookOp} (h : o.Renumbered ρ n o') : Renumbered ρ n (.hook o) (.hook o')
  | act {cx cx' : Context} (h : cx.Renumbered ρ n cx') (a : SpanAction) :
      Renumbered ρ n (.act cx a) (.act cx' a)
  | isRecording {cx cx' : Context} (h : cx.Renumbered ρ n cx') :
      Renumbered ρ n (.isRecording cx) (.isRecording cx')

/-- What is done with a stream does not depend on its wrappers, so these may be any. -/
inductive HandlerOp.Renumbered (ρ : Rerun) (n : Nat) :
    {m : Mode} → HandlerOp m → HandlerOp m → Prop where
  | span {m : Mode} {o o' : SpanOp} (h : o.Renumbered ρ n o') :
      @Renumbered ρ n m (.span o) (.span o')
  | onServer (s s' : ServerStream) (op : StreamOp) :
      @Renumbered ρ n .streaming (.client (.onServer s op)) (.client (.onServer s' op))
  | onClient (op : ClientOp) :
      @Renumbered ρ n .streaming (.client (.onClient op)) (.client (.onClient op))
  | wait {m : Mode} : @Renumbered ρ n m .wait .wait

inductive LayerOp.Renumbered (ρ : Rerun) (n : Nat) : LayerOp m → LayerOp m → Prop where
  | handler {o o' : HandlerOp m} (h : HandlerOp.Renumbered ρ n o o') :
      Renumbered ρ n (.handler o) (.handler o')
  | next {s s' : m.Subject} (h : Mode.Renumbered ρ n s s') :
      Renumbered ρ n (.next s) (.next s')

/-- Programs that do the same one operation after the other, and answer the same, as long as they
are answered the same. -/
def Program.Parallel {S : Signature} {α : Type} (same : S.Op → S.Op → Prop) :
    Program S α → Program S α → Prop :=
  Program.Alike (fun _ => False) same

/-- A predicate is asked the same in both runs, since parents are decoded. -/
def Predicate.Oblivious (predicate : Predicate) : Prop :=
  ∀ ρ n inquiry, (predicate inquiry).Parallel (HookOp.Renumbered ρ n) (predicate inquiry)

def Decorator.Oblivious (decorator : Decorator) : Prop :=
  ∀ ρ n d d', Decoration.Renumbered ρ n d d' →
    (decorator d).Parallel (SpanOp.Renumbered ρ n) (decorator d')

structure TracingPolicy.Oblivious (p : TracingPolicy) : Prop where
  predicate : ∀ predicate, p.predicate = some predicate → predicate.Oblivious
  decorator : ∀ decorator, p.decorator = some decorator → decorator.Oblivious

def Handler.Oblivious (h : Handler m) : Prop :=
  ∀ ρ n s s', Mode.Renumbered ρ n s s' → (h s).Parallel (HandlerOp.Renumbered ρ n) (h s')

def Layer.Oblivious (layer : Layer m) : Prop :=
  ∀ ρ n info s s', Mode.Renumbered ρ n s s' →
    (layer info s).Parallel (LayerOp.Renumbered ρ n) (layer info s')

/-- A tree in which nothing of the users' goes by the value of an id. -/
def Interceptor.Oblivious (i : Interceptor m) : Prop :=
  i.Every TracingPolicy.Oblivious Layer.Oblivious

end CallSpan
