/-
The SCRAM mechanisms (RFC 5802, RFC 7677) that can be relayed, and the
attribute that a server-final message begins with when it carries the
server's signature.
-/
import SaslGate.Bytes
import SaslGate.Text.Quoted

namespace SaslGate

/-- A SCRAM mechanism, told apart by its hash function. -/
inductive ScramMechanism
  | sha256
  | sha512
  deriving DecidableEq, Repr

namespace ScramMechanism

/-- Every mechanism, the strongest last. -/
def all : List ScramMechanism := [sha256, sha512]

/-- The registered name of a mechanism. -/
def name : ScramMechanism → String
  | sha256 => "SCRAM-SHA-256"
  | sha512 => "SCRAM-SHA-512"

/-- The name of its hash function. -/
def hashName : ScramMechanism → String
  | sha256 => "SHA-256"
  | sha512 => "SHA-512"

/-- The label of a mechanism in diagnostics. -/
def label : ScramMechanism → String
  | sha256 => "Sha256"
  | sha512 => "Sha512"

/-- The mechanism of a registered name. -/
def ofName? (text : String) : Option ScramMechanism :=
  all.find? fun m => m.name == text

/-- The mechanism of a registered name, or what is wrong with the name. -/
def ofName (text : String) : Except String ScramMechanism :=
  match ofName? text with
  | some m => .ok m
  | none => .error ("unsupported SCRAM mechanism " ++ Text.quoted text)

end ScramMechanism

/-- Whether data is a server-final message with a signature: it begins with
`v=`. -/
def isServerFinal (data : Bytes) : Bool := [0x76, 0x3d].isPrefixOf data

end SaslGate
