/-
A configuration put together by a program: it begins with a default for
everything that has one, and each setter replaces one value.
-/
import SaslGate.Config

namespace SaslGate

namespace RemoteConfig

/-- The remote server before anything is set. -/
def builder : RemoteConfig := { host := "localhost" }

def withHost (host : String) (c : RemoteConfig) : RemoteConfig :=
  { c with host }

def withPortNumber (portNumber : UInt16) (c : RemoteConfig) : RemoteConfig :=
  { c with portNumber }

def withSaslHostname (hostname : String) (c : RemoteConfig) : RemoteConfig :=
  { c with saslHostname := some hostname }

def withRealm (realm : String) (c : RemoteConfig) : RemoteConfig :=
  { c with realm := some realm }

/-- No timeout at all is a value like any other. -/
def withConnectTimeout (connectTimeout : Option Duration) (c : RemoteConfig) :
    RemoteConfig :=
  { c with connectTimeout }

def withNegotiationTimeout (negotiationTimeout : Option Duration)
    (c : RemoteConfig) : RemoteConfig :=
  { c with negotiationTimeout }

end RemoteConfig

namespace DirectoryConfig

/-- The directory before anything is set. -/
def builder (endpoints : Endpoints) (mode : BindMode) : DirectoryConfig :=
  { endpoints, mode }

def withRealm (realm : String) (c : DirectoryConfig) : DirectoryConfig :=
  { c with realm := some realm }

def withTimeout (timeout : Option Duration) (c : DirectoryConfig) :
    DirectoryConfig :=
  { c with timeout }

def withFailover (failover : FailoverOrder) (c : DirectoryConfig) :
    DirectoryConfig :=
  { c with failover }

end DirectoryConfig

namespace Config

/-- Nothing to delegate to. -/
def builder : Config := {}

def withRemote (remote : RemoteConfig) (c : Config) : Config :=
  { c with remote := some remote }

def withDirectory (directory : DirectoryConfig) (c : Config) : Config :=
  { c with directory := some directory }

end Config

end SaslGate
