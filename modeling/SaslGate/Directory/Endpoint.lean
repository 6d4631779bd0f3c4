/-
Where directory servers are: one server is a scheme, a host and a TCP port
number, and a configuration names at least one. An endpoint prints as a
URL without path, with its port number even where that is the default.
-/
import SaslGate.Directory.Url
import SaslGate.Text.Quoted

namespace SaslGate

/-- An endpoint that cannot be used. -/
inductive EndpointError
  | invalidUrl (url reason : String)
  | unsupportedScheme (scheme : String)
  | missingHost (url : String)
  /-- No endpoint at all. -/
  | empty
  deriving DecidableEq, Repr

def EndpointError.message : EndpointError → String
  | .invalidUrl url reason =>
    "Invalid directory URL " ++ Text.quoted url ++ ": " ++ reason
  | .unsupportedScheme scheme =>
    "Unsupported scheme " ++ Text.quoted scheme
      ++ " in directory URL, expected ldap or ldaps"
  | .missingHost url => "Missing host in directory URL " ++ Text.quoted url
  | .empty => "No directory URL given"

/-- The name of an endpoint error. -/
def EndpointError.path : EndpointError → List String
  | .invalidUrl .. => ["InvalidUrl"]
  | .unsupportedScheme _ => ["UnsupportedScheme"]
  | .missingHost _ => ["MissingHost"]
  | .empty => ["Empty"]

/-- How the connection to a directory is protected. -/
inductive DirectoryScheme
  | ldap
  /-- Over TLS. -/
  | ldaps
  deriving DecidableEq, Repr

namespace DirectoryScheme

def name : DirectoryScheme → String
  | ldap => "ldap"
  | ldaps => "ldaps"

/-- The port number that goes without saying. -/
def defaultPortNumber : DirectoryScheme → UInt16
  | ldap => 389
  | ldaps => 636

/-- The scheme of a name. -/
def ofName? (text : String) : Option DirectoryScheme :=
  if text = "ldap" then some ldap
  else if text = "ldaps" then some ldaps
  else none

end DirectoryScheme

/-- A directory server. -/
structure Endpoint where
  scheme : DirectoryScheme
  host : String
  portNumber : UInt16
  deriving DecidableEq, Repr

namespace Endpoint

/-- The server on a host that listens where its scheme says. -/
def onHost (scheme : DirectoryScheme) (host : String) : Endpoint :=
  ⟨scheme, host, scheme.defaultPortNumber⟩

/-- The URL of an endpoint. -/
def url (e : Endpoint) : String :=
  e.scheme.name ++ "://" ++ e.host ++ ":" ++ toString e.portNumber.toNat

/-- The endpoint of a URL. -/
def ofUrl (text : String) : Except EndpointError Endpoint :=
  match Url.parse text with
  | .error e => .error (.invalidUrl text e.message)
  | .ok url =>
    match DirectoryScheme.ofName? url.scheme with
    | none => .error (.unsupportedScheme url.scheme)
    | some scheme =>
      match url.host with
      | none => .error (.missingHost text)
      | some host =>
        .ok ⟨scheme, host, url.portNumber.getD scheme.defaultPortNumber⟩

end Endpoint

/-- At least one endpoint, in the order of the configuration. -/
structure Endpoints where
  list : List Endpoint
  nonempty : list ≠ []
  deriving DecidableEq, Repr

namespace Endpoints

/-- The endpoints of a list that has some. -/
def ofList (list : List Endpoint) : Except EndpointError Endpoints :=
  if h : list ≠ [] then .ok ⟨list, h⟩ else .error .empty

/-- How many endpoints there are. -/
def size (es : Endpoints) : Nat := es.list.length

/-- The texts between commas, without blanks at their ends, that are not
empty. -/
def items (text : String) : List String :=
  ((Text.pieces ',' text.toList).map
    fun cs => String.ofList (Text.strip Text.isBlank cs)).filter (· ≠ "")

/-- The endpoints of a list of URLs between commas. -/
def parse (text : String) : Except EndpointError Endpoints :=
  match (items text).mapM Endpoint.ofUrl with
  | .error e => .error e
  | .ok list => ofList list

end Endpoints

/-- The order in which endpoints are tried. -/
inductive FailoverOrder
  /-- A fresh random order for every attempt. -/
  | shuffled
  /-- The order of the configuration. -/
  | sequential
  deriving DecidableEq, Repr

namespace FailoverOrder

def label : FailoverOrder → String
  | shuffled => "Shuffled"
  | sequential => "Sequential"

/-- The order of a name in any case; ASCII letters only have two. -/
def ofName (text : String) : Except String FailoverOrder :=
  let lower := String.ofList (text.toList.map Char.toLower)
  if lower = "shuffled" ∨ lower = "random" then .ok shuffled
  else if lower = "sequential" ∨ lower = "ordered" then .ok sequential
  else .error ("unknown failover order " ++ Text.quoted lower)

end FailoverOrder

end SaslGate
