import CallSpan.Config

/-!
# Scripted hooks and layers

Predicates, decorators and layers with a fixed behaviour, for trying out how
interceptors treat what users write. Each leaves a note of what it is given
before it does anything else.

* `Rule.predicate`     — a predicate that decides by a rule.
* `scriptedDecorator`  — a decorator that takes steps on its span.
* `UnaryLayer.layer`, `CommonLayer.layer`  — layers.
-/

namespace CallSpan.Scenario

/-! ## Steps on a span -/

/-- A step on the active span of a context. -/
inductive SpanStep where
  | act (a : SpanAction)
  | recording

def SpanStep.take (cx : Context) : SpanStep → Program spanOps Unit
  | act a => Program.op (S := spanOps) (.act cx a)
  | recording => do
    let b ← Program.op (S := spanOps) (.isRecording cx)
    Program.op (S := spanOps) (.hook (.note (.recording b)))

def takeSpanSteps (cx : Context) : List SpanStep → Program spanOps Unit
  | [] => .done ()
  | s :: ss => (s.take cx).bind fun _ => takeSpanSteps cx ss

/-! ## Hooks -/

/-- How a predicate decides. -/
inductive Rule where
  | always
  | never
  | hasParent
  | sampledParent
  | methodBegins (text : String)
  | requestIs (kind : Kind)
  | panic (message : String)

/-- Decides about a call. -/
def Rule.decide (i : Inquiry) : Rule → Program hookOps Bool
  | always => .done true
  | never => .done false
  | hasParent => .done i.parent.isSome
  | sampledParent => .done (i.parent.any SpanContext.isSampled)
  | methodBegins text => .done (text.toList.isPrefixOf i.method.toList)
  | requestIs kind => .done (i.request.any (·.is kind))
  | panic message => .perform (.panic message) fun e => nomatch e

/-- A predicate that decides by a rule. -/
def Rule.predicate (r : Rule) : Predicate := fun i =>
  .perform (.note (.asked i)) fun _ => r.decide i

/-- A decorator that takes steps on its span, and then may panic. -/
def scriptedDecorator (name : Option String) (steps : List SpanStep)
    (panicking : Option String) : Decorator := fun d => do
  let recording ← Program.op (S := spanOps) (.isRecording d.context)
  Program.op (S := spanOps) (.hook (.note (.decorated name d recording)))
  takeSpanSteps d.context steps
  match panicking with
  | none => .done ()
  | some message => .perform (.hook (.panic message)) fun e => nomatch e

/-! ## Layers -/

variable {m : Mode}

def layerNote (n : Note) : Program (layerOps m) Unit :=
  Program.op (S := layerOps m) (.handler (.span (.hook (.note n))))

/-- Hands a subject on to what lies within a layer. -/
def handOn (s : m.Subject) : Program (layerOps m) (Result m.Reply) :=
  Program.op (S := layerOps m) (.next s)

def layerPanic {α : Type} (message : String) : Program (layerOps m) α :=
  .perform (.handler (.span (.hook (.panic message)))) fun e => nomatch e

/-- The code that a result answers. -/
def codeOf {α : Type} : Result α → Code
  | .ok _ => .ok
  | .error status => status.code

/-- A layer that notes when it is entered, and the code of what is called within when that
has returned; then it may answer something else. -/
def notedLayer (name : Option String) (within : m.Subject → Program (layerOps m) (Result m.Reply))
    (answer : Result m.Reply → Result m.Reply) : Layer m := fun info s => do
  layerNote (.entered name (Mode.methodOf info) (Mode.contextOf s))
  let result ← within s
  layerNote (.left name (codeOf result))
  .done (answer result)

/-- Layers for calls of either mode. -/
inductive CommonLayer (m : Mode) where
  /-- Hands on what it is given. -/
  | recorder
  /-- Answers without calling on. -/
  | shortCircuit (result : Result m.Reply)
  /-- Replaces every failure. -/
  | mapError (status : Status)
  | panic (message : String)
  /-- Hands on with another context. -/
  | freshContext (cx : Context)

def CommonLayer.layer (name : Option String) : CommonLayer m → Layer m
  | recorder => notedLayer name handOn id
  | shortCircuit result => notedLayer name (fun _ => .done result) id
  | mapError status => notedLayer name handOn fun r =>
    match r with
    | .ok reply => .ok reply
    | .error _ => .error status
  | panic message => notedLayer name (fun _ => layerPanic message) id
  | freshContext cx => notedLayer name (fun s => handOn (Mode.rebase cx s)) id

/-- Layers for unary calls. -/
inductive UnaryLayer where
  | common (layer : CommonLayer .unary)
  /-- Hands on with another request. -/
  | replaceRequest (request : Message)
  /-- Hands on twice, and answers what comes back the second time. -/
  | twice

def UnaryLayer.layer (name : Option String) : UnaryLayer → Layer .unary
  | common l => l.layer name
  | replaceRequest request =>
    notedLayer name (fun s => handOn (m := .unary) ⟨s.context, request⟩) id
  | twice => notedLayer name (fun s => (handOn (m := .unary) s).bind fun _ => handOn s) id

end CallSpan.Scenario
