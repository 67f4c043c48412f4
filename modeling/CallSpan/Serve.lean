import CallSpan.Interceptor

/-!
# Typed calls

Handlers and callers know the kinds of their values, the layers between them do
not. A **typed handler** takes its request out of the message and puts its
response into one; a **typed call** puts the request into a message and takes the
response out. A message of another kind is an internal error that names the kind
that was expected.

* `Handler.typed`  — a function on values as a handler.
* `serveUnary`     — a typed call through an interceptor.
-/

namespace CallSpan

/-- The error for a request of another kind than the handler's. -/
def Status.unexpectedRequest (expected : Kind) : Status :=
  .internal ("unexpected request type, expected " ++ expected.typeName)

/-- A function from values of one kind to values of another. -/
abbrev TypedHandler (req resp : Kind) :=
  Context → Value req → Program (handlerOps .unary) (Result (Value resp))

/-- A function on values as a handler: it does not run on a message of another kind. -/
def Handler.typed {req resp : Kind} (f : TypedHandler req resp) : Handler .unary := fun r =>
  match r.message.value? req with
  | some v => (f r.context v).bind fun result => .done (result.map Message.of)
  | none => .done (.error (.unexpectedRequest req))

/-- The value that a caller expects of a result. -/
def expectKind (resp : Kind) : Result Message → Result (Value resp)
  | .error status => .error status
  | .ok msg =>
    match msg.value? resp with
    | some v => .ok v
    | none => .error (.unexpectedResponse resp)

/-- A typed call through an interceptor. -/
def serveUnary {req : Kind} (i : Interceptor .unary) (resp : Kind) (cx : Context)
    (v : Value req) (info : UnaryInfo) (inner : Continuation .unary) :
    Call Unit (Result (Value resp)) := do
  let result ← i.intercept info inner ⟨cx, Message.of v⟩
  .returns (expectKind resp result)

end CallSpan
