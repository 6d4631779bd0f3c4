/-
Kinds of failure that a byte stream, a connect call or a directory
connection reports. Only the kind counts here: what a session does with a
failure never depends on more.
-/

namespace SaslGate

/-- The kind of an input or output failure. -/
inductive IoKind
  | notFound
  | permissionDenied
  | connectionRefused
  | connectionReset
  | hostUnreachable
  | networkUnreachable
  | connectionAborted
  | notConnected
  | addrInUse
  | addrNotAvailable
  | networkDown
  | brokenPipe
  | alreadyExists
  | wouldBlock
  | invalidInput
  | invalidData
  | timedOut
  | writeZero
  | interrupted
  | unsupported
  | unexpectedEof
  | outOfMemory
  | other
  deriving DecidableEq, Repr

namespace IoKind

/-- The name of a kind, as diagnostics print it. -/
def name : IoKind → String
  | notFound => "NotFound"
  | permissionDenied => "PermissionDenied"
  | connectionRefused => "ConnectionRefused"
  | connectionReset => "ConnectionReset"
  | hostUnreachable => "HostUnreachable"
  | networkUnreachable => "NetworkUnreachable"
  | connectionAborted => "ConnectionAborted"
  | notConnected => "NotConnected"
  | addrInUse => "AddrInUse"
  | addrNotAvailable => "AddrNotAvailable"
  | networkDown => "NetworkDown"
  | brokenPipe => "BrokenPipe"
  | alreadyExists => "AlreadyExists"
  | wouldBlock => "WouldBlock"
  | invalidInput => "InvalidInput"
  | invalidData => "InvalidData"
  | timedOut => "TimedOut"
  | writeZero => "WriteZero"
  | interrupted => "Interrupted"
  | unsupported => "Unsupported"
  | unexpectedEof => "UnexpectedEof"
  | outOfMemory => "OutOfMemory"
  | other => "Other"

/-- Every kind. -/
def all : List IoKind :=
  [notFound, permissionDenied, connectionRefused, connectionReset,
    hostUnreachable, networkUnreachable, connectionAborted, notConnected,
    addrInUse, addrNotAvailable, networkDown, brokenPipe, alreadyExists,
    wouldBlock, invalidInput, invalidData, timedOut, writeZero, interrupted,
    unsupported, unexpectedEof, outOfMemory, other]

/-- The kind of a given name. -/
def ofName? (text : String) : Option IoKind :=
  all.find? fun kind => kind.name == text

/-- How every layer words a bare failure of this kind. -/
def message (kind : IoKind) : String := "IO Error Kind(" ++ kind.name ++ ")"

/-- Whether a failed call ran out of time. -/
def isTimeout (kind : IoKind) : Bool := kind = timedOut ∨ kind = wouldBlock

/-- There are two ways to say that time has run out. -/
theorem isTimeout_iff (kind : IoKind) :
    kind.isTimeout = true ↔ kind = timedOut ∨ kind = wouldBlock :=
  decide_eq_true_iff

/-- A read that is repeated was not one that came too late. -/
theorem ne_interrupted_of_isTimeout {kind : IoKind}
    (h : kind.isTimeout = true) : kind ≠ interrupted := by
  intro hkind
  rw [hkind] at h
  cases h

end IoKind

end SaslGate
