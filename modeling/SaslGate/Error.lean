/-
Failures of an authentication attempt. Every one ends its session. A client
is told the same sentence for all of them, so that refused credentials
cannot be told from an outage; the kind and the message are for operators.
-/
import SaslGate.Directory.Service
import SaslGate.Pump

namespace SaslGate

/-- Why an authentication attempt failed, or a call was not allowed. -/
inductive AuthError
  /-- The client's message does not have the form of its mechanism. -/
  | malformedRequest (reason : String)
  | emptyIdentity
  | emptySecret
  /-- The client wants to act as somebody else. -/
  | impersonationNotSupported
  /-- The remote server could not be reached. -/
  | connectFailure (host : String) (portNumber : UInt16) (cause : IoKind)
  /-- None of so many directory servers could be reached. -/
  | noReachableDirectory (count : Nat)
  /-- The remote server took too long. -/
  | remoteTimeout
  /-- The remote server does not offer the mechanism. -/
  | mechanismNotOffered (requested : String) (offered : List String)
  | protocolViolation (cause : TransportError)
  /-- The remote server hung up too soon. -/
  | unexpectedEndOfStream
  /-- The remote server reported an outcome before its challenge. -/
  | remoteEndedEarly
  /-- A client message came when none was expected. -/
  | illegalSequencing (state : String)
  /-- The credentials were refused. -/
  | rejected
  | directory (cause : DirectoryError)
  /-- The exchange is not complete, or complete already. -/
  | notYetComplete
  | io (kind : IoKind)
  /-- The clock cannot show the time by which the remote server has to have
  answered. This is no failure that a caller is told: the call panics and does
  not return. Its session is lost, and the link is closed as it is dropped, so
  nothing is seen of the session any more but the end of its trace. -/
  | deadlineOverflow
  deriving DecidableEq, Repr

/-- What sort of failure it is, for operators. -/
inductive ErrorKind
  | clientInput
  | transport
  | protocol
  | rejected
  | directory
  | usage
  deriving DecidableEq, Repr

def ErrorKind.name : ErrorKind → String
  | .clientInput => "ClientInput"
  | .transport => "Transport"
  | .protocol => "Protocol"
  | .rejected => "Rejected"
  | .directory => "Directory"
  | .usage => "Usage"

namespace AuthError

/-- The sort of a failure. -/
def kind : AuthError → ErrorKind
  | malformedRequest _ | emptyIdentity | emptySecret
  | impersonationNotSupported => .clientInput
  | connectFailure .. | noReachableDirectory _ | remoteTimeout
  | unexpectedEndOfStream | io _ => .transport
  | mechanismNotOffered .. | protocolViolation _ | remoteEndedEarly
  | illegalSequencing _ => .protocol
  | rejected => .rejected
  | directory _ => .directory
  | notYetComplete | deadlineOverflow => .usage

/-- The message of a failure, for operators. -/
def message : AuthError → String
  | malformedRequest reason => "Badly formed request: " ++ reason
  | emptyIdentity => "Authentication failed: username not specified"
  | emptySecret => "Authentication failed: password not specified"
  | impersonationNotSupported =>
    "Authentication failed: Client requested an authorization id that is "
      ++ "different from username"
  | connectFailure host portNumber _ =>
    "Unable to connect to " ++ host ++ ":" ++ toString portNumber.toNat
  | noReachableDirectory count =>
    "Failed to connect to any of the " ++ toString count
      ++ " given directory servers"
  | remoteTimeout => "Timed out waiting for the upstream server"
  | mechanismNotOffered requested offered =>
    "Upstream server supports mechanisms " ++ Text.quotedList offered
      ++ " which does not include " ++ requested
  | protocolViolation cause => "Protocol violation: " ++ cause.message
  | unexpectedEndOfStream =>
    "Unexpected end of stream while authenticating using SASL delegation"
  | remoteEndedEarly => "Upstream server ended the SASL exchange prematurely"
  | illegalSequencing state => "evaluate called when in state " ++ state
  | rejected => "Authentication failed: invalid credentials"
  | directory cause => cause.message
  | notYetComplete =>
    "Operation not allowed at this point of the authentication exchange"
  | io kind => kind.message
  | deadlineOverflow => "overflow when adding duration to instant"

/-- The names of a failure and its causes, outermost first. -/
def path : AuthError → List String
  | malformedRequest _ => ["MalformedRequest"]
  | emptyIdentity => ["EmptyIdentity"]
  | emptySecret => ["EmptySecret"]
  | impersonationNotSupported => ["ImpersonationNotSupported"]
  | connectFailure .. => ["ConnectFailure"]
  | noReachableDirectory _ => ["NoReachableDirectory"]
  | remoteTimeout => ["UpstreamTimeout"]
  | mechanismNotOffered .. => ["MechanismNotOffered"]
  | protocolViolation cause => "ProtocolViolation" :: cause.path
  | unexpectedEndOfStream => ["UnexpectedEndOfStream"]
  | remoteEndedEarly => ["UpstreamEndedEarly"]
  | illegalSequencing _ => ["IllegalSequencing"]
  | rejected => ["UpstreamRejected"]
  | directory cause => "Directory" :: cause.path
  | notYetComplete => ["NotYetComplete"]
  | io _ => ["Io"]
  | deadlineOverflow => ["Panic"]

/-- The kind of io failure at the bottom, if there is one. -/
def ioKind? : AuthError → Option IoKind
  | connectFailure _ _ cause => some cause
  | protocolViolation cause => cause.ioKind?
  | directory cause => cause.ioKind?
  | io kind => some kind
  | _ => none

/-- All that a client is ever told. -/
def clientMessage (_ : AuthError) : String := "Authentication failed"

/-- How many further causes lie below a failure. -/
def depth : AuthError → Nat
  | connectFailure .. | io _ => 1
  | protocolViolation cause => 1 + cause.depth
  | directory cause => cause.depth
  | _ => 0

/-- A failure to move bytes, as a failure of the attempt. -/
def ofPump : PumpError → AuthError
  | .endOfStream => unexpectedEndOfStream
  | .protocolViolation cause => protocolViolation cause
  | .timeout => remoteTimeout
  | .io kind => io kind

end AuthError

end SaslGate
