/-
Where authentication is delegated to: a remote AMQP server that owns the
credentials, directory servers that check passwords, or both. A
configuration is read once and shared by every session.
-/
import SaslGate.Directory.Bind
import SaslGate.Wire

namespace SaslGate

/-- The bound on connecting and on negotiating unless another is given. -/
def defaultTimeout : Duration := millis 10000

/-- The registered port number of AMQP. -/
def amqpPortNumber : UInt16 := 5672

/-- A remote AMQP server that owns the credentials. -/
structure RemoteConfig where
  host : String
  portNumber : UInt16 := amqpPortNumber
  /-- The host name told to the server. -/
  saslHostname : Option String := none
  /-- The realm of the users, told to the server if no host name is. -/
  realm : Option String := none
  /-- The bound on connecting, if there is one. -/
  connectTimeout : Option Duration := some defaultTimeout
  /-- The bound on each exchange with the server, if there is one. -/
  negotiationTimeout : Option Duration := some defaultTimeout
  deriving DecidableEq, Repr

/-- The host name that the server is told. -/
def RemoteConfig.effectiveHostname (c : RemoteConfig) : String :=
  (c.saslHostname.or c.realm).getD c.host

/-- How a directory checks a password. -/
inductive BindMode
  | simple (template : DnTemplate)
  | sasl (mechanism : BindMechanism)
  deriving DecidableEq, Repr

/-- Directory servers that check passwords. -/
structure DirectoryConfig where
  endpoints : Endpoints
  mode : BindMode
  /-- Only sent with the mechanism that has a realm. -/
  realm : Option String := none
  /-- The bound on connecting and on each call, if there is one. -/
  timeout : Option Duration := some defaultTimeout
  failover : FailoverOrder := .shuffled
  deriving DecidableEq, Repr

/-- How a session checks a password. -/
def DirectoryConfig.strategy (c : DirectoryConfig) : BindStrategy :=
  match c.mode with
  | .simple template => .simple template
  | .sasl mechanism => .sasl mechanism c.realm

/-- Everything that authentication may be delegated to. -/
structure Config where
  remote : Option RemoteConfig := none
  /-- Used for passwords if there is no remote server. -/
  directory : Option DirectoryConfig := none
  deriving DecidableEq, Repr

/-- A configuration that cannot be used. -/
inductive ConfigError
  | missingOption (key : String)
  | invalidOption (key value reason : String)
  | endpoint (cause : EndpointError)
  | dnTemplate (cause : DnTemplateError)
  /-- The directory service cannot bind with the mechanism. -/
  | unsupportedBind (mechanism : BindMechanism)
  /-- There is nothing to delegate to. -/
  | noBackend
  deriving DecidableEq, Repr

def ConfigError.message : ConfigError → String
  | .missingOption key => "Missing option " ++ key
  | .invalidOption key value reason =>
    "Invalid value " ++ Text.quoted value ++ " for option " ++ key ++ ": "
      ++ reason
  | .endpoint cause => cause.message
  | .dnTemplate cause => cause.message
  | .unsupportedBind mechanism => unsupportedBindMessage mechanism.name
  | .noBackend => "Either amqp_host or ldap_urls must be configured"

/-- The names of a configuration error and its cause, outermost first. -/
def ConfigError.path : ConfigError → List String
  | .missingOption _ => ["MissingOption"]
  | .invalidOption .. => ["InvalidOption"]
  | .endpoint cause => "Endpoint" :: cause.path
  | .dnTemplate cause => cause.path
  | .unsupportedBind _ => ["UnsupportedBind"]
  | .noBackend => ["NoBackend"]

end SaslGate
