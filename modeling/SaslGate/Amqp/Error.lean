/-
What can be wrong with a frame, and with the conduct of the peer that sent
it. One constructor per cause; the wording is in one function per type.
-/
import SaslGate.Amqp.Performative
import SaslGate.Amqp.Sized
import SaslGate.Text.Quoted

namespace SaslGate

/-- Why a frame body is no SASL performative. -/
inductive BodyError
  /-- The bytes end inside a value. -/
  | cutOff
  | unknownCode
  | unknownSymbol
  /-- A value of the wrong type, a missing field, text that is not UTF-8. -/
  | malformed
  deriving DecidableEq, Repr

/-- Why a frame cannot be read or written. -/
inductive FrameError
  | io (kind : IoKind)
  | size (cause : SizeError)
  | body (cause : BodyError)
  /-- Shorter than the fixed header. -/
  | truncated (length : Nat)
  | unexpectedFrameType (type : UInt8)
  | unsupportedDataOffset (offset : UInt8)
  deriving DecidableEq, Repr

/-- The kind of io failure that a frame error counts as, if it does. -/
def FrameError.ioKind? : FrameError → Option IoKind
  | .io kind => some kind
  | .size cause => some cause.kind
  | .body .cutOff => some .unexpectedEof
  | _ => none

def BodyError.message : BodyError → String
  | .cutOff => IoKind.unexpectedEof.message
  | .unknownCode =>
    "Decode Error Message Wrong code value for SASL frame body descriptor"
  | .unknownSymbol =>
    "Decode Error Message Wrong symbol value for SASL frame body descriptor"
  | .malformed => "Decode Error Invalid value"

def FrameError.message : FrameError → String
  | .io kind => kind.message
  | .size cause => cause.kind.message
  | .body cause => cause.message
  | .truncated length =>
    "Frame of " ++ toString length
      ++ " bytes is shorter than the frame header"
  | .unexpectedFrameType type => "Unexpected frame type " ++ Text.hexByte type
  | .unsupportedDataOffset offset =>
    "Unsupported data offset " ++ toString offset.toNat

/-- The names of a frame error and its causes, outermost first. -/
def FrameError.path : FrameError → List String
  | .io _ | .size _ | .body .cutOff => ["Io"]
  | .body _ => ["DecodeError"]
  | .truncated _ => ["Truncated"]
  | .unexpectedFrameType _ => ["UnexpectedFrameType"]
  | .unsupportedDataOffset _ => ["UnsupportedDataOffset"]

/-- Why the SASL layer of a connection cannot go on. -/
inductive TransportError
  | frame (cause : FrameError)
  /-- The peer's header is not the supported one. -/
  | headerMismatch (bytes : Bytes)
  /-- A frame that the state of the exchange does not allow. -/
  | unexpectedFrame (name state : String)
  /-- A request that the state of the exchange does not allow. -/
  | illegalState (reason : String)
  | closed
  /-- The outcome code and the server-final message contradict each other. -/
  | outcomeMismatch (code : SaslCode)
  deriving DecidableEq, Repr

def TransportError.message : TransportError → String
  | .frame cause => cause.message
  | .headerMismatch bytes =>
    "Protocol header mismatch " ++ Text.byteList bytes
  | .unexpectedFrame name state =>
    "Unexpected " ++ name ++ " frame while " ++ state
  | .illegalState reason => "Illegal state: " ++ reason
  | .closed => "Transport engine is closed"
  | .outcomeMismatch code =>
    "SASL outcome " ++ code.name ++ " disagrees with the server-final message"

/-- The names of a transport error and its causes, outermost first. -/
def TransportError.path : TransportError → List String
  | .frame cause => "Frame" :: cause.path
  | .headerMismatch _ => ["ProtocolHeaderMismatch"]
  | .unexpectedFrame .. => ["UnexpectedFrame"]
  | .illegalState _ => ["IllegalState"]
  | .closed => ["Closed"]
  | .outcomeMismatch _ => ["OutcomeMismatch"]

/-- The kind of io failure at the bottom, if there is one. -/
def TransportError.ioKind? : TransportError → Option IoKind
  | .frame cause => cause.ioKind?
  | _ => none

/-- How many further causes lie below a frame error. -/
def FrameError.depth (e : FrameError) : Nat :=
  if e.ioKind?.isSome then 1 else 0

/-- How many further causes lie below a transport error. -/
def TransportError.depth : TransportError → Nat
  | .frame cause => cause.depth
  | _ => 0

end SaslGate
