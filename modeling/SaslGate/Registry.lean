/-
What a host asks first: which mechanisms there are, and a session for one
of them. Both are read off the configuration. A remote server takes all of
authentication upon itself, so the directory is used only without one.
-/
import SaslGate.Session

namespace SaslGate

/-- The mechanisms of a configuration that can be used. -/
structure Registry where
  config : Config
  deriving DecidableEq, Repr

namespace Registry

variable {δ σ γ : Type}

/-- A registry over a directory service, which has to support the bind that
is configured, even where a remote server leaves it unused. -/
def ofConfig [DirectoryService δ γ] (config : Config) (service : δ) :
    Except ConfigError Registry :=
  match config.directory.map DirectoryConfig.mode with
  | some (.sasl mechanism) =>
    if DirectoryService.supports mechanism service then .ok ⟨config⟩
    else .error (.unsupportedBind mechanism)
  | _ => .ok ⟨config⟩

/-- The names of the mechanisms. -/
def mechanisms (r : Registry) : List String :=
  let plain :=
    if r.config.remote.isSome ∨ r.config.directory.isSome then [plainName]
    else []
  let scram :=
    if r.config.remote.isSome then ScramMechanism.all.map ScramMechanism.name
    else []
  plain ++ scram

/-- A fresh session for a mechanism, if it is one of them. -/
def create (r : Registry) (mechanism : String) : Option (Session σ γ) :=
  match r.config.remote, r.config.directory with
  | some remote, _ =>
    if mechanism = plainName then some (.plain remote .fresh)
    else
      (ScramMechanism.ofName? mechanism).map fun m =>
        .scram remote (.fresh m)
  | none, some directory =>
    if mechanism = plainName then some (.directory directory .fresh)
    else none
  | none, none => none

end Registry

end SaslGate
