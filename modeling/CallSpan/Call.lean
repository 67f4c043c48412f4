import CallSpan.Log
import CallSpan.Program

/-!
# Running calls

A call runs in a **world**: the recorder, and what the call shares with its
client. It ends with an **outcome**: it returned a value, it panicked, or it was
cancelled because it waits for something that does not come. Whatever the
outcome, the world that it leaves is known.

* `Call.andFinally`    — an action that is done on every outcome.
* `Program.run`        — a program as a call, given what its operations do.
-/

namespace CallSpan

/-- How a computation ends. -/
inductive Outcome (α : Type) where
  | returned (value : α)
  | panicked (message : String)
  | cancelled

/-- What a call runs in: the recorder, and what it shares with its client. -/
structure World (σ : Type) where
  recorder : Recorder
  client : σ

/-- A computation in a world. -/
def Call (σ α : Type) := World σ → Outcome α × World σ

namespace Call

variable {σ α β : Type}

def returns (a : α) : Call σ α := fun w => (.returned a, w)

/-- Goes on with the value that a call returns. -/
def bind (c : Call σ α) (f : α → Call σ β) : Call σ β := fun w =>
  match c w with
  | (.returned a, w') => f a w'
  | (.panicked message, w') => (.panicked message, w')
  | (.cancelled, w') => (.cancelled, w')

instance : Monad (Call σ) where
  pure := returns
  bind := bind

@[simp] theorem bind_eq (c : Call σ α) (f : α → Call σ β) : c >>= f = c.bind f := rfl

@[simp] theorem bind_returns (c : Call σ α) : (c.bind fun a => returns a) = c := by
  funext w
  simp only [bind]
  rcases c w with ⟨outcome, w'⟩
  cases outcome <;> rfl

theorem returns_bind (a : α) (f : α → Call σ β) : (returns a).bind f = f a := rfl

theorem bind_assoc {γ : Type} (c : Call σ α) (f : α → Call σ β) (g : β → Call σ γ) :
    (c.bind f).bind g = c.bind fun a => (f a).bind g := by
  funext w
  simp only [bind]
  rcases c w with ⟨outcome, w'⟩
  cases outcome <;> rfl

def panic (message : String) : Call σ α := fun w => (.panicked message, w)

/-- Waits for what does not come. -/
def wait : Call σ α := fun w => (.cancelled, w)

def record (f : Recorder → Recorder) : Call σ Unit := fun w =>
  (.returned (), { w with recorder := f w.recorder })

def log (e : Entry) : Call σ Unit := record (·.push e)

def note (n : Note) : Call σ Unit := log (.noted n)

def report (level : Level) (fields : List (String × String)) : Call σ Unit :=
  log (.reported ⟨level, fields⟩)

def act (author : Author) (cx : Context) (a : SpanAction) : Call σ Unit :=
  record (·.act author cx a)

def start (s : SpanStart) : Call σ ActiveSpan := fun w =>
  let (span, recorder) := w.recorder.start s
  (.returned span, { w with recorder })

def isRecording (cx : Context) : Call σ Bool := fun w =>
  (.returned (cx.spanNumber?.any w.recorder.isRecording), w)

/-- Runs on the client side of the world. -/
def onClient (f : σ → Outcome α × σ) : Call σ α := fun w =>
  let (outcome, client) := f w.client
  (outcome, { w with client })

/-- Changes the recorder when a call has ended, whatever its outcome. -/
def andFinally (c : Call σ α) (f : Recorder → Recorder) : Call σ α := fun w =>
  let (outcome, w') := c w
  (outcome, { w' with recorder := f w'.recorder })

end Call

/-- A program as a call, given what its operations do. -/
def Program.run {S : Signature} {σ α : Type} (perform : (o : S.Op) → Call σ (S.Answer o)) :
    Program S α → Call σ α
  | .done a => .returns a
  | .perform o next => (perform o).bind fun answer => (next answer).run perform

/-- Running one program after another is running them one after the other. -/
theorem Program.run_bind {S : Signature} {σ α β : Type}
    (perform : (o : S.Op) → Call σ (S.Answer o)) (p : Program S α) (f : α → Program S β) :
    (p.bind f).run perform = (p.run perform).bind fun a => (f a).run perform := by
  induction p with
  | done a => rfl
  | perform o next ih =>
    funext w
    simp only [bind, run, Call.bind]
    cases perform o w with
    | mk outcome w' => cases outcome <;> simp [ih, Call.bind]

end CallSpan
