import CallSpan.Mode

/-!
# What users of the library write

Handlers, layers, predicates and decorators are programs. Each may do what the
one before it in this list may do, and more:

* a **predicate** leaves notes and may panic;
* a **decorator** also acts on spans and asks whether they are recording;
* a **handler** also works with the client of the call and may wait for ever;
* a **layer** also hands a subject on to what lies within it, any number of
  times.

`HookOp.perform`, `SpanOp.perform`, `HandlerOp.perform` and `LayerOp.perform` say
what each operation does in a running call.
-/

namespace CallSpan

/-! ## Predicates -/

/-- What a predicate may do. -/
inductive HookOp where
  | note (n : Note)
  | panic (message : String)

@[reducible] def HookOp.Answer : HookOp → Type
  | note _ => Unit
  | panic _ => Empty

abbrev hookOps : Signature := ⟨HookOp, HookOp.Answer⟩

/-- What an operation does. -/
def HookOp.perform {σ : Type} : (o : HookOp) → Call σ o.Answer
  | note n => Call.note n
  | panic message => Call.panic message

/-- Decides whether a call is traced. -/
abbrev Predicate := Inquiry → Program hookOps Bool

/-! ## Decorators -/

/-- What a decorator may do. -/
inductive SpanOp where
  | hook (o : HookOp)
  | act (cx : Context) (a : SpanAction)
  | isRecording (cx : Context)

@[reducible] def SpanOp.Answer : SpanOp → Type
  | hook o => o.Answer
  | act _ _ => Unit
  | isRecording _ => Bool

abbrev spanOps : Signature := ⟨SpanOp, SpanOp.Answer⟩

/-- What an operation does. -/
def SpanOp.perform {σ : Type} : (o : SpanOp) → Call σ o.Answer
  | hook o => o.perform
  | act cx a => Call.act .user cx a
  | isRecording cx => Call.isRecording cx

/-- Acts on a span when the call within it has returned. -/
abbrev Decorator := Decoration → Program spanOps Unit

/-! ## Handlers -/

/-- What a handler may do. -/
inductive HandlerOp (m : Mode) where
  | span (o : SpanOp)
  | client (o : m.ClientCall)
  | wait

@[reducible] def HandlerOp.Answer {m : Mode} : HandlerOp m → Type
  | span o => o.Answer
  | client o => m.ClientAnswer o
  | wait => Empty

abbrev handlerOps (m : Mode) : Signature := ⟨HandlerOp m, HandlerOp.Answer⟩

/-- What an operation does. -/
def HandlerOp.perform {m : Mode} : (o : HandlerOp m) → Call m.Client o.Answer
  | span o => o.perform
  | client o => Mode.performClient o
  | wait => Call.wait

abbrev Handler (m : Mode) := m.Subject → Program (handlerOps m) (Result m.Reply)

/-! ## Layers -/

/-- What lies within a layer, in a world with a given client side. -/
abbrev Inside (m : Mode) (σ : Type) := m.Subject → Call σ (Result m.Reply)

/-- What lies within a layer, in the world of its mode. -/
abbrev Continuation (m : Mode) := Inside m m.Client

/-- What a layer may do. -/
inductive LayerOp (m : Mode) where
  | handler (o : HandlerOp m)
  | next (subject : m.Subject)

@[reducible] def LayerOp.Answer {m : Mode} : LayerOp m → Type
  | handler o => o.Answer
  | next _ => Result m.Reply

abbrev layerOps (m : Mode) : Signature := ⟨LayerOp m, LayerOp.Answer⟩

/-- What an operation does, given what lies within the layer. -/
def LayerOp.perform {m : Mode} (next : Continuation m) :
    (o : LayerOp m) → Call m.Client o.Answer
  | handler o => o.perform
  | .next subject => next subject

/-- Stands around what lies within it. -/
abbrev Layer (m : Mode) := m.Info → m.Subject → Program (layerOps m) (Result m.Reply)

/-- A handler as what lies within a layer. -/
def Handler.serve {m : Mode} (h : Handler m) : Continuation m :=
  fun subject => (h subject).run HandlerOp.perform

/-! ## More operations -/

namespace Program

def spanToHandler (m : Mode) : Embedding spanOps (handlerOps m) := ⟨.span, fun _ answer => answer⟩

/-- Running a program over more operations is running it with what they do there. -/
theorem run_lift {S T : Signature} {σ α : Type} (e : Embedding S T)
    (perform : (o : T.Op) → Call σ (T.Answer o)) (p : Program S α) :
    (p.lift e).run perform
      = p.run fun o => (perform (e.op o)).bind fun answer => .returns (e.answer o answer) := by
  induction p with
  | done a => rfl
  | perform o next ih =>
    funext w
    simp only [lift, run, Call.bind]
    cases perform (e.op o) w with
    | mk outcome w' => cases outcome <;> simp [ih, Call.returns]

end Program

end CallSpan
