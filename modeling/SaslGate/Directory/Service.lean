/-
The outside world at the far end of a directory connection. A service hands
out connections to endpoints, and a connection answers binds, each as it
likes. A service also arranges endpoints at random when it is asked to; all
that is known of the arrangement is that it loses and invents none.

Every call is an action that leaves its answer in the trace.
-/
import SaslGate.Act
import SaslGate.Directory.Endpoint
import SaslGate.Directory.Mechanism
import SaslGate.IoKind

namespace SaslGate

/-- A failure of the client that speaks LDAP for a service. It is the service's
own: all that is seen of it is what it says and how many causes it names. -/
structure LdapError where
  message : String
  depth : Nat
  deriving DecidableEq, Repr

/-- A failure that a directory server or its connection reports. -/
inductive DirectoryError
  /-- The directory refused the credentials. -/
  | invalidCredentials
  /-- Any other result that is no success. -/
  | resultCode (code : UInt32) (text : String)
  | unsupportedMechanism (name : String)
  | closed
  /-- The client that speaks LDAP failed. Its error stands for itself. -/
  | ldap (cause : LdapError)
  | io (kind : IoKind)
  deriving DecidableEq, Repr

/-- What is said of a bind mechanism that the service cannot use. -/
def unsupportedBindMessage (name : String) : String :=
  "SASL bind mechanism " ++ name
    ++ " is not supported by the directory connector"

def DirectoryError.message : DirectoryError → String
  | .invalidCredentials => "Invalid credentials"
  | .resultCode code text =>
    "Directory returned result code " ++ toString code.toNat ++ ": " ++ text
  | .unsupportedMechanism name => unsupportedBindMessage name
  | .closed => "Directory connection is closed"
  | .ldap cause => cause.message
  | .io kind => kind.message

/-- The names of a directory error and its causes, outermost first. -/
def DirectoryError.path : DirectoryError → List String
  | .invalidCredentials => ["InvalidCredentials"]
  | .resultCode .. => ["ResultCode"]
  | .unsupportedMechanism _ => ["UnsupportedMechanism"]
  | .closed => ["Closed"]
  | .ldap _ => ["Ldap"]
  | .io _ => ["Io"]

/-- The kind of io failure at the bottom, if there is one. -/
def DirectoryError.ioKind? : DirectoryError → Option IoKind
  | .io kind => some kind
  | _ => none

/-- How many further causes lie below a directory error. -/
def DirectoryError.depth : DirectoryError → Nat
  | .io _ => 1
  | .ldap cause => cause.depth
  | _ => 0

/-- An open connection to a directory server. -/
class DirectoryConnection (γ : Type) where
  /-- Binds as a distinguished name with a password. -/
  simpleBind : String → String → γ → Except DirectoryError Unit × γ
  saslBind : SaslBindRequest → γ → Except DirectoryError Unit × γ
  /-- Returns to the state of nobody being authenticated. -/
  anonymousBind : γ → Except DirectoryError Unit × γ
  close : γ → Except DirectoryError Unit × γ

/-- Opens connections to directory servers. -/
class DirectoryService (δ : Type) (γ : outParam Type) where
  connect : Endpoint → δ → Except DirectoryError γ × δ
  /-- Whether connections can bind with a mechanism. -/
  supports : BindMechanism → δ → Bool
  /-- Arranges endpoints at random. -/
  arrange : List Endpoint → δ → List Endpoint × δ
  arrange_perm : ∀ es d, (arrange es d).1.Perm es

/-- A call on a directory, with its answer. -/
inductive DirectoryEvent
  | connect (endpoint : Endpoint) (answer : Except DirectoryError Unit)
  | simpleBind (dn password : String) (answer : Except DirectoryError Unit)
  | saslBind (request : SaslBindRequest) (answer : Except DirectoryError Unit)
  | anonymousBind (answer : Except DirectoryError Unit)
  | close (answer : Except DirectoryError Unit)

/-- Opens a connection to an endpoint. -/
def dialDirectory [DirectoryService δ γ] (e : Endpoint) :
    Act DirectoryEvent δ DirectoryError γ :=
  Act.ask (fun answer => .connect e (answer.map fun _ => ()))
    (DirectoryService.connect e)

end SaslGate
