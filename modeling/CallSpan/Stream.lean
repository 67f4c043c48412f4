import CallSpan.Call

/-!
# Streams

The server's end of a stream receives messages, sends messages, and sets the
metadata of the response: a **header**, which is fixed as soon as it is sent or a
message is, and a **trailer**. Behind it is a **channel**: the items that the
client sends, and a bounded queue of messages for the client, who may take them
out, or go away.

A stream may be **wrapped** with a context of its own. Everything but the context
is then that of the stream within.

* `Channel.perform`       — what a stream operation does to a channel.
* `ServerStream.perform`  — what it does through any number of wrappers.
* `Channel.serve`         — what the client does.
-/

namespace CallSpan

/-! ## Channels -/

/-- What the two ends of a stream share. -/
structure Channel where
  /-- The kind of the messages for the client. -/
  responseKind : Kind
  /-- Items from the client that have not been received yet. -/
  inbound : List (Result Message)
  inboundOpen : Bool
  /-- Messages that the client has not taken out yet. -/
  queue : List Message
  /-- The most messages that may be queued. -/
  capacity : Nat
  capacity_pos : 0 < capacity
  closed : Bool
  response : Response

/-- Why there is no channel. -/
inductive ChannelError where
  | noCapacity
  | tooMuchCapacity
  deriving DecidableEq

/-- The most messages that a channel can be made for. -/
def Channel.maxCapacity : Nat := Nat.pow 2 61 - 1

def ChannelError.message : ChannelError → String
  | .noCapacity => "mpsc bounded channel requires buffer > 0"
  | .tooMuchCapacity =>
    "a semaphore may not have more than MAX_PERMITS permits (" ++
      toString Channel.maxCapacity ++ ")"

/-- What can be done with the server's end. -/
inductive StreamOp where
  | setHeader (metadata : Metadata)
  | sendHeader (metadata : Metadata)
  | setTrailer (metadata : Metadata)
  | send (message : Message)
  | receive

/-- What each operation answers. Receiving answers no message at the end. -/
def StreamOp.Answer : StreamOp → Type
  | setHeader _ => Result Unit
  | sendHeader _ => Result Unit
  | setTrailer _ => Unit
  | send _ => Result Unit
  | receive => Result (Option Message)

/-- What the client can do: take out what is queued, go away, or look at the metadata of
the response. -/
inductive ClientOp where
  | drain
  | close
  | snapshot

/-- What each of these answers. -/
def ClientOp.Answer : ClientOp → Type
  | drain => List Message
  | close => Unit
  | snapshot => Response

/-- The error for a response of another kind than the one that is expected. -/
def Status.unexpectedResponse (expected : Kind) : Status :=
  .internal ("unexpected response type, expected " ++ expected.typeName)

namespace Channel

/-- The error for a header after the header has been sent. -/
def headerAlreadySent : Status := .internal "response header already sent"

/-- The error for a message to a client that has gone away. -/
def closedByClient : Status := .plain .cancelled "response stream closed by client"

/-- A channel with nothing queued and no metadata set. -/
def make? (responseKind : Kind) (inbound : List (Result Message)) (inboundOpen : Bool)
    (capacity : Nat) : Except ChannelError Channel :=
  if h : 0 < capacity then
    if capacity ≤ maxCapacity then
      .ok ⟨responseKind, inbound, inboundOpen, [], capacity, h, false, ⟨∅, ∅, false⟩⟩
    else .error .tooMuchCapacity
  else .error .noCapacity

/-- A channel on which the client sends nothing. -/
def silent : Channel := ⟨.unit, [], false, [], 1, by decide, false, ⟨∅, ∅, false⟩⟩

/-- Appends to the header unless it has been sent, and sends it if asked to. -/
def header (c : Channel) (m : Metadata) (sending : Bool) : Result Unit × Channel :=
  if c.response.headerSent then (.error headerAlreadySent, c)
  else
    (.ok (), { c with response :=
      { c.response with header := c.response.header.merge m, headerSent := sending } })

def trailer (c : Channel) (m : Metadata) : Channel :=
  { c with response := { c.response with trailer := c.response.trailer.merge m } }

/-- Fixes the header. -/
def sealHeader (c : Channel) : Channel :=
  { c with response := { c.response with headerSent := true } }

/-- Queues a message of the channel's kind. The header is fixed before it is known whether
the client is still there, and a full queue is waited for. -/
def send (c : Channel) (msg : Message) : Outcome (Result Unit) × Channel :=
  if msg.is c.responseKind then
    let c := c.sealHeader
    -- the client may be gone, or its queue full, with the header fixed already
    if c.closed then (.returned (.error closedByClient), c)
    else if c.queue.length < c.capacity then
      (.returned (.ok ()), { c with queue := c.queue ++ [msg] })
    else (.cancelled, c)
  else (.returned (.error (.unexpectedResponse c.responseKind)), c)

/-- Receives the next item. Behind the last one is the end, unless the client may send
more. -/
def receive (c : Channel) : Outcome (Result (Option Message)) × Channel :=
  match c.inbound with
  | [] => if c.inboundOpen then (.cancelled, c) else (.returned (.ok none), c)
  | item :: rest => (.returned (item.map some), { c with inbound := rest })

/-- What an operation on the server's end does. -/
def perform : (op : StreamOp) → Channel → Outcome op.Answer × Channel
  | .setHeader m, c => let (answer, c') := c.header m false; (.returned answer, c')
  | .sendHeader m, c => let (answer, c') := c.header m true; (.returned answer, c')
  | .setTrailer m, c => (.returned (), c.trailer m)
  | .send msg, c => c.send msg
  | .receive, c => c.receive

/-- What the client does. When it goes away, what is queued is lost. -/
def serve : (op : ClientOp) → Channel → op.Answer × Channel
  | .drain, c => (c.queue, { c with queue := [] })
  | .close, c => ((), { c with queue := [], closed := true })
  | .snapshot, c => (c.response, c)

end Channel

/-! ## The server's end -/

/-- The server's end of a stream. -/
inductive ServerStream where
  | channel (cx : Context)
  | wrapped (inner : ServerStream) (cx : Context)
  deriving DecidableEq

namespace ServerStream

/-- The context of a stream: that of the outermost wrapper, if there is one. -/
def context : ServerStream → Context
  | channel cx => cx
  | wrapped _ cx => cx

/-- The stream within the outermost wrapper. -/
def inner : ServerStream → ServerStream
  | channel cx => channel cx
  | wrapped s _ => s

/-- What an operation on a stream does: wrappers pass it on. -/
def perform : ServerStream → (op : StreamOp) → Channel → Outcome op.Answer × Channel
  | channel _, op, c => Channel.perform op c
  | wrapped s _, op, c => s.perform op c

@[simp] theorem inner_wrapped (s : ServerStream) (cx : Context) : (wrapped s cx).inner = s := rfl

@[simp] theorem context_wrapped (s : ServerStream) (cx : Context) :
    (wrapped s cx).context = cx := rfl

/-- Wrappers change no operation. -/
theorem perform_eq (s : ServerStream) (op : StreamOp) : s.perform op = Channel.perform op := by
  induction s with
  | channel cx => rfl
  | wrapped s cx ih => exact ih

end ServerStream

end CallSpan
