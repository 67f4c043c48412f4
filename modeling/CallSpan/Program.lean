/-!
# Programs over effects

Handlers, hooks and layers are written by the user of the library. A **program**
is such a computation as data: it either is done, or performs an operation and
goes on with the answer. Which operations there are, and what each answers, is a
**signature**. An operation without answers ends the program: this is how a
program panics, or waits for something that does not come.

Being data, programs can be reasoned about by induction, whatever they do.

* `Program.bind`  — one program after another.
* `Program.lift`  — a program over more operations.
-/

namespace CallSpan

/-- Operations and what they answer. -/
structure Signature where
  Op : Type
  Answer : Op → Type

/-- A computation that performs operations of a signature. -/
inductive Program (S : Signature) (α : Type) : Type where
  | done (a : α)
  | perform (op : S.Op) (next : S.Answer op → Program S α)

namespace Program

variable {S T : Signature} {α β γ : Type}

/-- Goes on with the result of a program. -/
def bind : Program S α → (α → Program S β) → Program S β
  | done a, f => f a
  | perform op next, f => perform op fun answer => (next answer).bind f

instance : Monad (Program S) where
  pure := done
  bind := bind

def op (o : S.Op) : Program S (S.Answer o) := perform o done

/-- How the operations of one signature are operations of another. -/
structure Embedding (S T : Signature) where
  op : S.Op → T.Op
  answer : (o : S.Op) → T.Answer (op o) → S.Answer o

/-- A program over the operations of a larger signature. -/
def lift (e : Embedding S T) : Program S α → Program T α
  | done a => done a
  | perform o next => perform (e.op o) fun answer => (next (e.answer o answer)).lift e

@[simp] theorem pure_eq (a : α) : (pure a : Program S α) = done a := rfl

@[simp] theorem bind_eq (p : Program S α) (f : α → Program S β) : p >>= f = p.bind f := rfl

@[simp] theorem done_bind (a : α) (f : α → Program S β) : (done a).bind f = f a := rfl

@[simp] theorem bind_done (p : Program S α) : p.bind done = p := by
  induction p with
  | done a => rfl
  | perform o next ih => simp [bind, ih]

theorem bind_assoc (p : Program S α) (f : α → Program S β) (g : β → Program S γ) :
    (p.bind f).bind g = p.bind fun a => (f a).bind g := by
  induction p with
  | done a => rfl
  | perform o next ih => simp [bind, ih]

end Program

end CallSpan
