/-
The client side of the SASL layer of AMQP 1.0. Both peers send a protocol
header first. The server then offers its mechanisms, the client picks one
with sasl-init, the server challenges as often as it likes, each challenge
is answered by a response, and an outcome ends the exchange.

The client holds the server to that order, one frame at a time: a second
offer, a challenge or an outcome before sasl-init, and anything on top of a
challenge that still waits to be taken are violations. A frame that is
refused is used up, and leaves all else as it was.
-/
import SaslGate.Engine
import SaslGate.Amqp.Frame
import SaslGate.Amqp.Header

namespace SaslGate

/-- Which protocol headers have passed. -/
inductive ConnectionState
  | start
  | headerSent
  | headerReceived
  | headerExchange
  /-- Closed for good. -/
  | ended
  deriving DecidableEq, Repr

/-- A state of the connection in diagnostics. -/
def ConnectionState.label : ConnectionState → String
  | .start => "Start"
  | .headerSent => "HeaderSent"
  | .headerReceived => "HeaderReceived"
  | .headerExchange => "HeaderExchange"
  | .ended => "End"

/-- The client between two calls. -/
structure Client where
  connection : ConnectionState
  outbound : Bytes
  reader : Sized.Reader
  mechanisms : Option (List String)
  progress : Progress
  pending : Option Bytes
  outcome : Option SaslCode
  deriving DecidableEq, Repr

namespace Client

/-- Frames are limited to the size that every peer has to accept. -/
def maxFrameSize : Nat := 512

/-- A client at its start. -/
def fresh : Client := ⟨.start, [], .empty, none, .idle, none, none⟩

-- =============================================================== sending

/-- Queues the protocol header, which is sent once. -/
def sendHeader (c : Client) : Except TransportError Unit × Client :=
  match c.connection with
  | .start =>
    (.ok (), { c with
      outbound := c.outbound ++ Header.sasl.encode
      connection := .headerSent })
  | .headerReceived =>
    (.ok (), { c with
      outbound := c.outbound ++ Header.sasl.encode
      connection := .headerExchange })
  | .ended => (.error .closed, c)
  | _ => (.error (.illegalState "protocol header already sent"), c)

/-- Why no frame may be sent, if none may. -/
def sendingBlocked (c : Client) : Option TransportError :=
  match c.connection with
  | .ended => some .closed
  | .start => some (.illegalState "protocol header not sent")
  | _ => none

/-- A frame behind its size, if it is small enough. -/
def sized (f : Frame) : Except TransportError Bytes :=
  match f.encode with
  | .error e => .error (.frame e)
  | .ok body =>
    match Sized.encode maxFrameSize body with
    | .error e => .error (.frame (.size e))
    | .ok bytes => .ok bytes

/-- Queues a frame; a frame that is too large leaves the queue alone. -/
def queue (f : Frame) (c : Client) : Except TransportError Unit × Client :=
  match sized f with
  | .error e => (.error e, c)
  | .ok bytes => (.ok (), { c with outbound := c.outbound ++ bytes })

/-- Picks a mechanism out of the server's offer. -/
def sendInit (mechanism : String) (hostname : Option String)
    (initialResponse : Bytes) (c : Client) :
    Except TransportError Unit × Client :=
  match c.sendingBlocked with
  | some e => (.error e, c)
  | none =>
    if c.mechanisms.isNone then
      (.error (.illegalState "sasl-init before sasl-mechanisms"), c)
    else if c.progress ≠ .idle then
      (.error (.illegalState "sasl-init already sent"), c)
    else
      match c.queue (.init mechanism (some initialResponse) hostname) with
      | (.error e, c) => (.error e, c)
      | (.ok (), c) => (.ok (), { c with progress := .step })

/-- Answers a challenge, which is used up even if the answer does not fit
in a frame. -/
def sendResponse (response : Bytes) (c : Client) :
    Except TransportError Unit × Client :=
  match c.sendingBlocked with
  | some e => (.error e, c)
  | none =>
    if c.progress ≠ .step then
      (.error (.illegalState "sasl-response outside of negotiation"), c)
    else { c with pending := none }.queue (.response response)

/-- Counts the first `n` queued bytes as sent. -/
def consume (n : Nat) (c : Client) : Client :=
  { c with outbound := c.outbound.drop n }

-- ============================================================= receiving

/-- What the client is waiting for, in words. -/
def stateName (c : Client) : String :=
  match c.progress with
  | .idle =>
    if c.mechanisms.isSome then "awaiting sasl-init"
    else "awaiting sasl-mechanisms"
  | .step =>
    if c.pending.isSome then "awaiting sasl-response" else "negotiating"
  | .pass | .fail => "negotiation has ended"

/-- Whether the exchange has room for a challenge or an outcome. -/
def awaitsServer (c : Client) : Bool := c.progress = .step ∧ c.pending = none

/-- Takes note of a frame, or refuses it. -/
def accept (f : Frame) (c : Client) : Except TransportError Client :=
  let refused :=
    TransportError.unexpectedFrame f.performative.name c.stateName
  match f with
  | .mechanisms names =>
    if c.mechanisms.isSome then .error refused
    else .ok { c with mechanisms := some names }
  | .challenge data =>
    if c.awaitsServer then .ok { c with pending := some data }
    else .error refused
  | .outcome code data =>
    if c.awaitsServer then
      .ok { c with
        progress := if code = .ok then .pass else .fail
        pending := data
        outcome := some code }
    else .error refused
  | .init .. | .response .. => .error refused

/-- Takes note of the frame in a payload. -/
def receive (payload : Bytes) (c : Client) : Except TransportError Client :=
  match Frame.decode payload with
  | .error e => .error (.frame e)
  | .ok f => c.accept f

/-- A frame is taken note of when it has left the reader. -/
theorem reader_of_accept {f : Frame} {c c' : Client}
    (h : c.accept f = .ok c') : c'.reader = c.reader := by
  unfold accept at h
  cases f <;> simp only at h <;> (try split at h) <;> cases h <;> rfl

/-- Decoding it happens outside the reader too. -/
theorem reader_of_receive {payload : Bytes} {c c' : Client}
    (h : c.receive payload = .ok c') : c'.reader = c.reader := by
  unfold receive at h
  split at h
  · cases h
  · exact reader_of_accept h

/-- Works off every frame that has arrived completely, up to the first one
that is wrong. -/
def drain (c : Client) : Except TransportError Unit × Client :=
  match _hn : c.reader.next maxFrameSize with
  | (.error e, reader) => (.error (.frame (.size e)), { c with reader })
  | (.ok none, reader) => (.ok (), { c with reader })
  | (.ok (some payload), reader) =>
    match _hr : { c with reader }.receive payload with
    | .error e => (.error e, { c with reader })
    | .ok c' => drain c'
termination_by c.reader.weight
decreasing_by
  rw [reader_of_receive _hr]
  exact Sized.Reader.weight_next_lt _hn

/-- Whether the peer's header has arrived. -/
def headerDone (c : Client) : Bool :=
  c.connection = .headerExchange ∨ c.connection = .headerReceived

/-- Reads the peer's header, if enough of it is there: `true` once it has
been found to be the supported one. -/
def receiveHeader (c : Client) : Except TransportError Bool × Client :=
  match Header.scan c.reader.buffer with
  | (.incomplete, _) => (.ok false, c)
  | (.mismatch bytes, rest) =>
    (.error (.headerMismatch bytes),
      { c with reader := { c.reader with buffer := rest } })
  | (.header h, rest) =>
    let c := { c with reader := { c.reader with buffer := rest } }
    if h.isSupported then
      (.ok true, { c with
        connection :=
          if c.connection = .headerSent then .headerExchange
          else .headerReceived })
    else (.error (.headerMismatch h.encode), c)

/-- Works off bytes that arrived. -/
def feed (bytes : Bytes) (c : Client) : Except TransportError Unit × Client :=
  if c.connection = .ended then (.error .closed, c)
  else
    let c := { c with reader := c.reader.append bytes }
    if c.headerDone then c.drain
    else
      match c.receiveHeader with
      | (.error e, c) => (.error e, c)
      | (.ok false, c) => (.ok (), c)
      | (.ok true, c) => c.drain

/-- Takes the challenge, or the data of the outcome, that waits. -/
def takePending (c : Client) : Option Bytes × Client :=
  (c.pending, { c with pending := none })

/-- Drops everything that is buffered. Closing again changes nothing. -/
def close (c : Client) : Client :=
  if c.connection = .ended then c
  else
    { c with
      outbound := []
      reader := { c.reader with buffer := [] }
      pending := none
      connection := .ended }

instance : Engine Client where
  sendHeader := sendHeader
  sendInit := sendInit
  sendResponse := sendResponse
  outbound := Client.outbound
  consume := consume
  feed := feed
  announced := Client.mechanisms
  progress := Client.progress
  hasPending c := c.pending.isSome
  takePending := takePending
  outcomeCode := Client.outcome
  close := close
  outbound_consume _ _ := rfl

end Client

end SaslGate
