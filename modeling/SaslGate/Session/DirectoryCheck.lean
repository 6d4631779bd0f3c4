/-
PLAIN, checked by a directory: the client's one message is taken apart and
the password tried by a bind on the first server that can be reached. The
connection is closed at once if the client is refused. Otherwise it stays
open until the host lets go of the session.
-/
import SaslGate.Auth.Plain
import SaslGate.Config
import SaslGate.Directory.Failover
import SaslGate.Session.Desk
import SaslGate.Session.Outcome

namespace SaslGate

/-- A PLAIN session that is checked by a directory. -/
structure DirectoryCheck (γ : Type) where
  binder : Option (Binder γ)
  outcome : Option Outcome
  authorizationId : Option String

namespace DirectoryCheck

variable {δ γ : Type}

/-- A session that has not been asked anything. -/
def fresh : DirectoryCheck γ := ⟨none, none, none⟩

/-- Where the session keeps its connection. -/
def slot : Slot (DirectoryCheck γ) (Binder γ) where
  get := DirectoryCheck.binder
  put binder s := { s with binder }

/-- An action of a directory as the sessions see it. -/
def seen (x : Act DirectoryEvent ρ ε α) : Act Event ρ ε α :=
  x.label Event.directory

/-- Closes the connection, if there is one. -/
def release [DirectoryConnection γ] :
    Working δ (DirectoryCheck γ) (Except DirectoryError Unit) :=
  Desk.release slot (seen Binder.dispose)

/-- Tries the password in a client's message. -/
def verify [DirectoryService δ γ] [DirectoryConnection γ]
    (c : DirectoryConfig) (message : Bytes) :
    Working δ (DirectoryCheck γ) Bytes := do
  let credentials ← Act.ofExcept (PlainCredentials.parse message)
  let connection ← Desk.ofOpener (seen (connectAny c.endpoints c.failover))
  Desk.hold slot ⟨c.strategy, some connection⟩
  let taken ← Desk.onHeld slot
    ((seen (Binder.bind credentials.username credentials.password)).orElse
      .directory)
  if taken then
    Desk.change fun s =>
      { s with authorizationId := some credentials.username }
    return []
  else Act.fail .rejected

/-- The answer to a client's message, which completes the session. -/
def evaluate [DirectoryService δ γ] [DirectoryConnection γ]
    (c : DirectoryConfig) (message : Bytes) :
    Working δ (DirectoryCheck γ) Bytes := do
  if (← Desk.current).outcome.isSome then Act.fail .notYetComplete
  let result ← (verify c message).attempt
  Desk.change fun s => { s with outcome := some (Outcome.of result) }
  match result with
  | .ok reply => return reply
  | .error e => do
    let _ ← release
    Act.fail e

/-- Closes the connection and reports a failure to do so. -/
def dispose [DirectoryConnection γ] : Working δ (DirectoryCheck γ) Unit := do
  Act.ofExcept ((← release).mapError .directory)

/-- A session in diagnostics; `label` stands for its number. -/
def summary (label : String) (c : DirectoryConfig) (s : DirectoryCheck γ) :
    String :=
  "DirectoryPlainServer \x7b session: " ++ label
    ++ ", endpoints: " ++ toString c.endpoints.size
    ++ ", connected: " ++ toString s.binder.isSome
    ++ ", outcome: " ++ Text.optional Outcome.label s.outcome
    ++ ", authorization_id: " ++ Text.optional Text.quoted s.authorizationId
    ++ " \x7d"

end DirectoryCheck

end SaslGate
