import CallSpan.Log

/-!
# What spans are tagged with

Every server span has an attribute that says where it comes from. A failed call
is tagged with the number and class of its code; it counts as an **error** when
the fault is the server's, or always for a client. Payloads and errors are
recorded as events.

* `serverTags`     — the attributes of every server span.
* `errorTags`      — what is done to the span of a failed call.
* `errorEvent`     — the event of a failure.
* `payloadEvent`   — the event of a request or response.
-/

namespace CallSpan

/-- The attributes of every server span. -/
def serverTags : List Attribute := [("component", .text "gRPC")]

def requestEvent : String := "gRPC request"

def responseEvent : String := "gRPC response"

/-- Whether a failure counts as an error of the span. -/
def Status.isSpanError (status : Status) (client : Bool) : Bool :=
  client || status.code.errorClass = .serverError

/-- The actions that tag the span of a failed call. -/
def errorTags (status : Status) (client : Bool) : List SpanAction :=
  [.setAttribute ("response_code", .integer (Int64.ofNat status.code.number)),
    .setAttribute ("response_class", .text status.code.errorClass.label)] ++
    if status.isSpanError client then
      [.setAttribute ("error", .flag true), .setStatus (.error status.message)]
    else []

/-- The event of a failure. -/
def errorEvent (status : Status) : SpanAction :=
  .addEvent "error" [("event", .text "error"), ("message", .text status.message)]

/-- The event of a request or response, which shows the payload. -/
def payloadEvent (name : String) (payload : Message) : SpanAction :=
  .addEvent name [(name, .text payload.display.inline)]

end CallSpan
