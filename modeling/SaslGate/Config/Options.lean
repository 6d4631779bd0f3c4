/-
A configuration as a list of text options. Of several values for a key the
last one counts, and a blank value counts as none; white space around a
value does not count, and unknown keys are passed over. Options of a
backend that is not chosen are not looked at, the two timeouts apart.
-/
import SaslGate.Config
import SaslGate.Text.Blank
import SaslGate.Text.Numeral

namespace SaslGate

/-- Options as a host hands them over: keys and values in order. -/
abbrev Options := List (String × String)

namespace Options

/-- The value that counts for a key, if one does. -/
def value? (options : Options) (key : String) : Option String :=
  ((options.map fun (k, v) => (k, Text.trim v)).reverse.find?
    fun (k, v) => k == key && v != "").map Prod.snd

/-- A number up to `max` as the value of a key, if there is a value. -/
def number? (options : Options) (key : String) (max : Nat) :
    Except ConfigError (Option Nat) :=
  match options.value? key with
  | none => .ok none
  | some text =>
    match Text.numeral max text.toList with
    | .ok n => .ok (some n)
    | .error e => .error (.invalidOption key text e.message)

/-- A timeout in milliseconds: the default one unless it is given, and none
at all if it is zero. -/
def timeout (options : Options) (key : String) :
    Except ConfigError (Option Duration) := do
  match ← options.number? key (UInt64.size - 1) with
  | none => return some defaultTimeout
  | some n => return if n = 0 then none else some (millis n)

/-- Which remote server is meant, if one is. -/
def remote (options : Options)
    (connectTimeout negotiationTimeout : Option Duration) :
    Except ConfigError (Option RemoteConfig) :=
  match options.value? "amqp_host" with
  | none => .ok none
  | some host => do
    let number ← options.number? "amqp_port" 65535
    return some {
      host
      portNumber := (number.map UInt16.ofNat).getD amqpPortNumber
      saslHostname := options.value? "amqp_hostname"
      realm := options.value? "realm"
      connectTimeout
      negotiationTimeout }

/-- How the directory is to check passwords. -/
def bindMode (options : Options) : Except ConfigError BindMode :=
  let bind := (options.value? "bind").getD "simple"
  if String.ofList (bind.toList.map Char.toLower) = "simple" then
    match options.value? "dn_format" with
    | none => .error (.missingOption "dn_format")
    | some format =>
      match DnTemplate.ofString format with
      | .ok template => .ok (.simple template)
      | .error e => .error (.dnTemplate e)
  else
    match BindMechanism.ofName bind with
    | .ok mechanism => .ok (.sasl mechanism)
    | .error reason => .error (.invalidOption "bind" bind reason)

/-- In which order directory servers are tried. -/
def failover (options : Options) : Except ConfigError FailoverOrder :=
  match options.value? "ldap_failover" with
  | none => .ok .shuffled
  | some name =>
    match FailoverOrder.ofName name with
    | .ok order => .ok order
    | .error reason => .error (.invalidOption "ldap_failover" name reason)

/-- Which directory is meant, if one is. -/
def directory (options : Options) (timeout : Option Duration) :
    Except ConfigError (Option DirectoryConfig) :=
  match options.value? "ldap_urls" with
  | none => .ok none
  | some urls =>
    match Endpoints.parse urls with
    | .error e => .error (.endpoint e)
    | .ok endpoints => do
      let mode ← options.bindMode
      let failover ← options.failover
      return some {
        endpoints
        mode
        realm := options.value? "realm"
        timeout
        failover }

/-- The configuration that the options describe. -/
def config (options : Options) : Except ConfigError Config := do
  let connectTimeout ← options.timeout "connect_timeout_ms"
  let negotiationTimeout ← options.timeout "negotiation_timeout_ms"
  let remote ← options.remote connectTimeout negotiationTimeout
  let directory ← options.directory connectTimeout
  if remote.isNone ∧ directory.isNone then .error .noBackend
  return { remote, directory }

end Options

end SaslGate
