import CallSpan.Proofs.Recording

/-!
# Verdicts

A predicate leaves notes and then answers, or panics, and it cannot tell in which world it is
asked. So what it comes to is its **verdict**, notes and answer, without any world. When a
tracing layer judges a call, the verdict on its inquiry is all that it goes by besides what the
metadata of the call decodes to, and what this leaves in the log is the report of a parent that
cannot be read, and the notes.

Main results:

* `TracingPolicy.judge_of_verdict` — what a tracing layer finds out, and leaves in the log.
* `TracingPolicy.around_admitted` — a call that it admits goes through the stages.
-/

namespace CallSpan

variable {m : Mode} {σ α β : Type}

theorem Call.bind_apply {c : Call σ α} {f : α → Call σ β} {w w' : World σ} {a : α}
    (h : c w = (.returned a, w')) : c.bind f w = f a w' := by
  rw [bind, h]

theorem Call.bind_panicked {c : Call σ α} {f : α → Call σ β} {w w' : World σ} {message : String}
    (h : c w = (.panicked message, w')) : c.bind f w = (.panicked message, w') := by
  rw [bind, h]

theorem World.after_after (w : World σ) (es es' : List Entry) :
    (w.after es).after es' = w.after (es ++ es') := by
  rw [World.after, World.after, World.after, List.append_assoc]

-- ---------------------------------------------------------------------------
-- What a predicate comes to
-- ---------------------------------------------------------------------------

/-- What a predicate comes to, in whatever world: the notes that it leaves, and its answer. -/
def Program.verdict : Program hookOps α → List Note × Outcome α
  | done a => ([], .returned a)
  | perform (.note n) next => (n :: (next ()).verdict.1, (next ()).verdict.2)
  | perform (.panic message) _ => ([], .panicked message)

theorem Program.run_hooks (p : Program hookOps α) (w : World σ) :
    p.run HookOp.perform w = (p.verdict.2, w.after (p.verdict.1.map .noted)) := by
  induction p generalizing w with
  | done a =>
    rw [verdict, List.map_nil, World.after_nil]
    rfl
  | perform o next ih =>
    cases o with
    | note n =>
      have hnotes : w.after ((perform (S := hookOps) (HookOp.note n) next).verdict.1.map .noted)
          = (w.after [.noted n]).after ((next ()).verdict.1.map .noted) := by
        rw [World.after_after]
        rfl
      rw [hnotes]
      exact ih () (w.after [.noted n])
    | panic message =>
      rw [verdict, List.map_nil, World.after_nil]
      rfl

/-- A predicate has nothing to wait for. -/
theorem Program.verdict_ne_cancelled (p : Program hookOps α) : p.verdict.2 ≠ .cancelled := by
  induction p with
  | done a => exact fun h => nomatch h
  | perform o next ih =>
    cases o with
    | note n => exact ih ()
    | panic message => exact fun h => nomatch h

-- ---------------------------------------------------------------------------
-- What a tracing layer finds out
-- ---------------------------------------------------------------------------

/-- The report of a parent that is malformed: of one that is found, or not there, none. -/
def Extraction.reported (x : Extraction) (method : String) : List Entry :=
  match x.parent with
  | .error (.malformed fields) =>
    [.reported ⟨.debug,
      [("error", "malformed span context in gRPC metadata (fields: "
          ++ ",".intercalate fields ++ ")"),
        ("message", "ignoring undecodable parent span context"), ("method", method)]⟩]
  | _ => []

theorem reportParent_eq (x : Extraction) (method : String) (w : World σ) :
    reportParent method x.parent w = (.returned (), w.after (x.reported method)) := by
  rw [Extraction.reported]
  cases hx : x.parent with
  | ok sc =>
    rw [World.after_nil]
    rfl
  | error e =>
    cases e with
    | notFound =>
      rw [World.after_nil]
      rfl
    | malformed fields => rfl

theorem decoded_extract (cx : Context) (p : Propagator) :
    (extract cx p).decoded = p.decode (cx.metadata.getD ∅) ∅ := by
  unfold extract
  dsimp only
  split <;> rfl

namespace TracingPolicy

variable (p : TracingPolicy) (info : m.Info) (subject : m.Subject)

/-- What the predicate is asked about a call. -/
def inquiry : Inquiry :=
  ⟨p.propagator.parentIn (Mode.contextOf subject).metadata, Mode.methodOf info,
    Mode.request? subject, none⟩

/-- What a layer leaves in the log until its predicate has answered, with its notes. -/
def asking (notes : List Note) : List Entry :=
  (extract (Mode.contextOf subject) p.propagator).reported (Mode.methodOf info)
    ++ notes.map .noted

/-- What a layer finds out about a call that it admits, or does not. -/
def judgement (included : Bool) : Judgement :=
  ⟨p.propagator.decode ((Mode.contextOf subject).metadata.getD ∅) ∅,
    p.propagator.parentIn (Mode.contextOf subject).metadata, included⟩

variable {p info subject} {notes : List Note} {included : Bool}

/-- What is left of judging when the parent has been reported. -/
theorem judge_reported (p : TracingPolicy) (info : m.Info) (subject : m.Subject) (w : World σ) :
    p.judge info subject w
      = (((p.includes (p.inquiry info subject)).run HookOp.perform).bind fun included =>
          .returns (p.judgement subject included))
        (w.after ((extract (Mode.contextOf subject) p.propagator).reported
          (Mode.methodOf info))) := by
  rw [judge_eq, decoded_extract, Call.bind_apply (reportParent_eq _ _ w)]
  rfl

/-- **Judging.** What a layer finds out is what is decoded and what its predicate answers, and
it leaves the notes of its predicate, once. -/
theorem judge_of_verdict
    (h : (p.includes (p.inquiry info subject)).verdict = (notes, .returned included))
    (w : World σ) :
    p.judge info subject w
      = (.returned (p.judgement subject included), w.after (p.asking info subject notes)) := by
  have hasked : ∀ w' : World σ, (p.includes (p.inquiry info subject)).run HookOp.perform w'
      = (.returned included, w'.after (notes.map .noted)) := by
    intro w'
    rw [Program.run_hooks, h]
  rw [judge_reported, Call.bind_apply (hasked _), World.after_after]
  rfl

/-- A predicate that panics ends the judging. -/
theorem judge_of_panic {message : String}
    (h : (p.includes (p.inquiry info subject)).verdict = (notes, .panicked message))
    (w : World σ) :
    p.judge info subject w = (.panicked message, w.after (p.asking info subject notes)) := by
  have hasked : ∀ w' : World σ, (p.includes (p.inquiry info subject)).run HookOp.perform w'
      = (.panicked message, w'.after (notes.map .noted)) := by
    intro w'
    rw [Program.run_hooks, h]
  rw [judge_reported, Call.bind_panicked (hasked _), World.after_after]
  rfl

/-- What a layer finds out about a call has the answer of its predicate in it. -/
theorem verdict_of_judge {w w' : World σ} {j : Judgement}
    (h : p.judge info subject w = (.returned j, w')) :
    (p.includes (p.inquiry info subject)).verdict.2 = .returned j.included := by
  rcases hverdict : (p.includes (p.inquiry info subject)).verdict with ⟨notes, answer⟩
  cases answer with
  | returned included =>
    rw [judge_of_verdict hverdict w] at h
    obtain rfl := Outcome.returned.inj (congrArg Prod.fst h)
    rfl
  | panicked message =>
    rw [judge_of_panic hverdict w] at h
    cases congrArg Prod.fst h
  | cancelled => exact absurd (congrArg Prod.snd hverdict) (Program.verdict_ne_cancelled _)

/-- A call whose predicate panics gets no further. -/
theorem around_of_panic {inner : Inside m σ} {message : String}
    (h : (p.includes (p.inquiry info subject)).verdict = (notes, .panicked message))
    (w : World σ) :
    p.around info inner subject w = (.panicked message, w.after (p.asking info subject notes)) := by
  unfold around
  rw [Call.bind_eq, Call.bind_panicked (judge_of_panic h w)]

/-- What is left of an audited call when it has been judged. -/
theorem audited_of_verdict {inner : Inside m (Watched m)}
    (h : (p.includes (p.inquiry info subject)).verdict = (notes, .returned included))
    (w : World m.Client) :
    p.audited info inner subject (w.beside [])
      = (if included then p.traced (p.judgement subject included) info inner subject
          else bypassed info inner subject).settling
        ((w.after (p.asking info subject notes)).beside
          [.judged p subject (p.judgement subject included)]) := by
  unfold audited
  rw [Call.bind_eq, Call.bind_apply (judge_of_verdict h _)]
  rfl

variable (p info subject notes) in
/-- A call that a layer admits in the world `w`, around whatever lies within, when its predicate
has left notes. -/
def admission (inner : Continuation m) (w : World m.Client) : Admission m where
  policy := p
  info := info
  inner := inner
  subject := subject
  judgement := p.judgement subject true
  world := w.after (p.asking info subject notes)

/-- A call that a layer admits goes through the stages of its admission. -/
theorem around_admitted
    (h : (p.includes (p.inquiry info subject)).verdict = (notes, .returned true))
    (inner : Continuation m) (w : World m.Client) :
    p.around info inner subject w = (p.admission info subject notes inner w).ran := by
  rw [← Admission.traced_eq]
  unfold around
  rw [Call.bind_eq, Call.bind_apply (judge_of_verdict h w)]
  rfl

end TracingPolicy

end CallSpan
