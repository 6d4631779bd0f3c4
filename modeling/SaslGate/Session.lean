/-
The session that a host drives, of whichever kind: it is given the client's
messages one by one and hands back what the client is to be told, until it
is complete. What it may call upon, the connectors, is shared by all
sessions and passed from one call to the next.

No security layer is ever negotiated, so a complete session passes bytes
through unchanged in both directions and has no properties.
-/
import SaslGate.Session.DirectoryCheck
import SaslGate.Session.PlainRelay
import SaslGate.Session.ScramRelay

namespace SaslGate

/-- All that sessions may call upon. -/
structure World (κ δ : Type) where
  connector : κ
  directory : δ

/-- A session of any kind, with its configuration. -/
inductive Session (σ γ : Type)
  | plain (config : RemoteConfig) (relay : PlainRelay σ)
  | scram (config : RemoteConfig) (relay : ScramRelay σ)
  | directory (config : DirectoryConfig) (check : DirectoryCheck γ)

/-- An action of a session of any kind. -/
abbrev Serving (κ δ σ γ α : Type) := Working (World κ δ) (Session σ γ) α

namespace Session

variable {κ δ σ γ : Type}

-- ================================================================ views

/-- The registered name of the mechanism. -/
def mechanismName : Session σ γ → String
  | plain .. | directory .. => plainName
  | scram _ relay => relay.mechanism.name

/-- How the exchange ended, once it has. -/
def outcome : Session σ γ → Option Outcome
  | plain _ relay => relay.outcome
  | scram _ relay => relay.stage.outcome
  | directory _ check => check.outcome

/-- Whether the exchange has ended. SCRAM goes by its stage, the others by
their outcome. -/
def isComplete : Session σ γ → Bool
  | plain _ relay => relay.outcome.isSome
  | scram _ relay => relay.stage.isDone
  | directory _ check => check.outcome.isSome

/-- The exchange has ended exactly if there is an outcome, for each kind. -/
theorem isComplete_eq (s : Session σ γ) :
    s.isComplete = s.outcome.isSome := by
  cases s with
  | plain config relay => rfl
  | scram config relay => exact relay.stage.isDone_eq
  | directory config check => rfl

/-- The identity that the session has taken note of. -/
def noted : Session σ γ → Option String
  | plain _ relay => relay.authorizationId
  | scram _ relay => relay.authorizationId
  | directory _ check => check.authorizationId

/-- Who the client is, after success. -/
def authorizationId (s : Session σ γ) : Except AuthError String :=
  authorized s.outcome s.noted

/-- Something that only a complete session hands out. -/
def ifComplete (s : Session σ γ) (a : α) : Except AuthError α :=
  if s.isComplete then .ok a else .error .notYetComplete

/-- Bytes on their way out. -/
def wrap (s : Session σ γ) (bytes : Bytes) : Except AuthError Bytes :=
  s.ifComplete bytes

/-- Bytes on their way in. -/
def unwrap (s : Session σ γ) (bytes : Bytes) : Except AuthError Bytes :=
  s.ifComplete bytes

/-- A negotiated property; there are none. -/
def property (s : Session σ γ) (_name : String) :
    Except AuthError (Option String) :=
  s.ifComplete none

/-- A session in diagnostics; `label` stands for its number. -/
def summary (label : String) : Session σ γ → String
  | plain config relay => relay.summary label config
  | scram config relay => relay.summary label config
  | directory config check => check.summary label config

-- ============================================================== actions

/-- The action that fits the session at hand. It sees only the connector
that the session's kind uses. -/
def serve (onPlain : RemoteConfig → Working κ (PlainRelay σ) α)
    (onScram : RemoteConfig → Working κ (ScramRelay σ) α)
    (onDirectory : DirectoryConfig → Working δ (DirectoryCheck γ) α) :
    Serving κ δ σ γ α :=
  ⟨fun d =>
    match d.session with
    | plain config relay =>
      let r := (onPlain config).run ⟨d.opener.connector, relay⟩
      ⟨r.result,
        ⟨{ d.opener with connector := r.state.opener },
          plain config r.state.session⟩, r.events⟩
    | scram config relay =>
      let r := (onScram config).run ⟨d.opener.connector, relay⟩
      ⟨r.result,
        ⟨{ d.opener with connector := r.state.opener },
          scram config r.state.session⟩, r.events⟩
    | directory config check =>
      let r := (onDirectory config).run ⟨d.opener.directory, check⟩
      ⟨r.result,
        ⟨{ d.opener with directory := r.state.opener },
          directory config r.state.session⟩, r.events⟩⟩

/-- The answer to a client's message. Every failure completes the
session. -/
def evaluate [Connector κ σ] [Wire σ] [DirectoryService δ γ]
    [DirectoryConnection γ] (message : Bytes) : Serving κ δ σ γ Bytes :=
  serve (PlainRelay.evaluate · message) (ScramRelay.evaluate · message)
    (DirectoryCheck.evaluate · message)

/-- Closes what is open. Doing it again does nothing. -/
def dispose [Wire σ] [DirectoryConnection γ] : Serving κ δ σ γ Unit :=
  serve (fun _ => PlainRelay.release) (fun _ => ScramRelay.release)
    fun _ => DirectoryCheck.dispose

/-- The end of a session: what is still open is closed, and nobody hears of
a failure. -/
def drop [Wire σ] [DirectoryConnection γ] : Serving κ δ σ γ Unit := do
  let _ ← (dispose : Serving κ δ σ γ Unit).attempt

end Session

end SaslGate
