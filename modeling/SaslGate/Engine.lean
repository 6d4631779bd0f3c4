/-
What a byte pump needs to know of a protocol: bytes that wait to be sent,
bytes that arrived, and how far the SASL exchange has come. An engine never
touches a socket. It queues what it wants to say until somebody has sent
it, and works off what it hears as it is fed.
-/
import SaslGate.Amqp.Error

namespace SaslGate

/-- How far the client side of an exchange has come. -/
inductive Progress
  /-- No sasl-init has been queued. -/
  | idle
  /-- The exchange is under way. -/
  | step
  /-- The server accepted. -/
  | pass
  /-- The server refused. -/
  | fail
  deriving DecidableEq, Repr

/-- A stage of the exchange in diagnostics. -/
def Progress.label : Progress → String
  | .idle => "Idle"
  | .step => "Step"
  | .pass => "Pass"
  | .fail => "Fail"

/-- Whether the server has reported an outcome. -/
def Progress.isTerminal (p : Progress) : Bool := p = .pass ∨ p = .fail

/-- The client side of a SASL exchange, seen from the byte pump. A call
that fails may still have changed the engine. -/
class Engine (ε : Type) where
  /-- Queues the protocol header. -/
  sendHeader : ε → Except TransportError Unit × ε
  /-- Queues a sasl-init frame. -/
  sendInit : String → Option String → Bytes → ε →
    Except TransportError Unit × ε
  /-- Queues a sasl-response frame. -/
  sendResponse : Bytes → ε → Except TransportError Unit × ε
  /-- The bytes that wait to be sent. -/
  outbound : ε → Bytes
  /-- Counts the first bytes of the queue as sent. -/
  consume : Nat → ε → ε
  /-- Works off bytes that arrived. -/
  feed : Bytes → ε → Except TransportError Unit × ε
  /-- The mechanisms the server offers, once it has said so. -/
  announced : ε → Option (List String)
  progress : ε → Progress
  /-- Whether a challenge or the data of an outcome has not been taken. -/
  hasPending : ε → Bool
  takePending : ε → Option Bytes × ε
  /-- The outcome code, once there is one. -/
  outcomeCode : ε → Option SaslCode
  /-- Drops everything that is buffered. -/
  close : ε → ε
  outbound_consume : ∀ n e, outbound (consume n e) = (outbound e).drop n

end SaslGate
