/-
SCRAM, relayed to the remote server: both messages of the client are passed
on as they came, and so are the server's answers, so the server computes
the challenge and checks the proof. A client is authorized only if the
server says so twice, by the outcome and by a server-final message with its
signature, which comes with the outcome or as a challenge before it.

The connection is kept between the two messages of the client and closed as
soon as the exchange is over.
-/
import SaslGate.Auth.ClientFirst
import SaslGate.Auth.Scram
import SaslGate.Session.Desk
import SaslGate.Session.ScramStage

namespace SaslGate

/-- A SCRAM session that is relayed to a remote server. -/
structure ScramRelay (σ : Type) where
  mechanism : ScramMechanism
  link : Option (Link Client σ)
  stage : ScramStage
  /-- The user whom the client claims to be. -/
  username : Option String
  authorizationId : Option String

namespace ScramRelay

variable {κ σ : Type}

/-- A session that has not been asked anything. -/
def fresh (mechanism : ScramMechanism) : ScramRelay σ :=
  ⟨mechanism, none, .initial, none, none⟩

/-- Where the session keeps its link. -/
def slot : Slot (ScramRelay σ) (Link Client σ) where
  get := ScramRelay.link
  put link s := { s with link }

/-- Closes the link, if there is one; that this may fail concerns nobody. -/
def release [Wire σ] : Working κ (ScramRelay σ) Unit := do
  let _ ← Desk.release slot Link.close

-- =============================================================== stages

/-- Moves the exchange on. -/
def advance (input : ScramInput) : Working κ (ScramRelay σ) ScramEffect := do
  let (stage, effect) ← Act.ofExcept ((← Desk.current).stage.advance input)
  Desk.change fun s => { s with stage }
  return effect

/-- Refuses what does not belong to the present stage. -/
def refuse : Working κ (ScramRelay σ) α := do
  Act.fail (.illegalSequencing (← Desk.current).stage.name)

/-- Waits for the server's reply and moves the exchange on. -/
def react [Wire σ] : Working κ (ScramRelay σ) ScramEffect := do
  advance (.reply (← Desk.onHeld slot Reply.await))

/-- The data of the reply, empty if it has none. -/
def replyData [Wire σ] : Working κ (ScramRelay σ) Bytes := do
  return (← Desk.onHeld slot Link.takePending).getD []

-- ==================================================== the first message

/-- Passes the client's first message on and returns the challenge. -/
def forwardClientFirst [Connector κ σ] [Wire σ] (c : RemoteConfig)
    (message : Bytes) : Working κ (ScramRelay σ) Bytes := do
  let clientFirst ← Act.ofExcept (ClientFirst.parse message)
  let name := (← Desk.current).mechanism.name
  let link ← Desk.ofOpener (Link.bootstrap Client.fresh c name)
  Desk.hold slot link
  Desk.onHeld slot (Link.sendInit name (some c.effectiveHostname) message)
  match ← react with
  | .returnChallenge => do
    Desk.change fun s => { s with username := some clientFirst.username }
    replyData
  | .endEarly => Act.fail .remoteEndedEarly
  | _ => refuse

-- ============================================================= the proof

/-- The outcome code that the server reported. -/
def outcomeCode : Working κ (ScramRelay σ) SaslCode := do
  let link := (← Desk.current).link
  let code := link.bind fun k => k.engine.live?.bind Client.outcome
  return code.getD .auth

/-- What the client is told at the end, if both of the server's signs of
success agree. `acknowledged` is a server-final message that came before
the outcome; data that comes with the outcome goes before it. -/
def settle [Wire σ] (acknowledged : Option Bytes) :
    ScramEffect → Working κ (ScramRelay σ) Bytes
  | .returnServerFinal => do
    let data ← replyData
    let data := if data = [] then acknowledged.getD [] else data
    if isServerFinal data then
      Desk.change fun s =>
        { s with authorizationId := s.username, username := none }
      return data
    else Act.fail (.protocolViolation (.outcomeMismatch .ok))
  | .reject => do
    if isServerFinal (← replyData) then
      Act.fail (.protocolViolation (.outcomeMismatch (← outcomeCode)))
    else Act.fail .rejected
  | _ => refuse

/-- A challenge where only the outcome may follow. -/
def strayChallenge : AuthError :=
  .protocolViolation
    (.unexpectedFrame Performative.challenge.name "awaiting the outcome")

/-- Waits for the outcome after a server-final message. -/
def concludeAfter [Wire σ] (serverFinal : Bytes) :
    Working κ (ScramRelay σ) Bytes := do
  match ← react with
  | .acknowledgeServerFinal => Act.fail strayChallenge
  | effect => settle (some serverFinal) effect

/-- Waits for the outcome, which a server-final message may precede. -/
def conclude [Wire σ] : Working κ (ScramRelay σ) Bytes := do
  match ← react with
  | .acknowledgeServerFinal => do
    let data ← replyData
    if isServerFinal data then
      Desk.onHeld slot (Link.sendResponse [])
      concludeAfter data
    else Act.fail strayChallenge
  | effect => settle none effect

/-- Passes the client's proof on and waits for the outcome. -/
def forwardProof [Wire σ] (message : Bytes) :
    Working κ (ScramRelay σ) Bytes := do
  Desk.onHeld slot (Link.sendResponse message)
  conclude

-- ========================================================== the session

/-- Passes a message of the client on. -/
def dispatch [Connector κ σ] [Wire σ] (c : RemoteConfig) (message : Bytes) :
    Working κ (ScramRelay σ) Bytes := do
  match ← advance .clientMessage with
  | .forwardClientFirst => forwardClientFirst c message
  | .forwardProof => forwardProof message
  | _ => refuse

/-- Ends the session without success if a result is a failure. -/
def fallIf (result : Except AuthError Bytes) (s : ScramRelay σ) :
    ScramRelay σ :=
  match result with
  | .ok _ => s
  | .error _ => { s with stage := .done .failure, authorizationId := none }

/-- The answer to a client's message. A failure completes the session. -/
def evaluate [Connector κ σ] [Wire σ] (c : RemoteConfig) (message : Bytes) :
    Working κ (ScramRelay σ) Bytes := do
  if (← Desk.current).stage.isDone then Act.fail .notYetComplete
  let result ← (dispatch c message).attempt
  Desk.change (fallIf result)
  if (← Desk.current).stage.isDone then release
  Act.ofExcept result

/-- A session in diagnostics; `label` stands for its number. -/
def summary (label : String) (c : RemoteConfig) (s : ScramRelay σ) : String :=
  "DelegatingScramServer \x7b session: " ++ label
    ++ ", mechanism: " ++ s.mechanism.label
    ++ ", upstream: " ++ c.host ++ ":" ++ toString c.portNumber.toNat
    ++ ", connected: " ++ toString s.link.isSome
    ++ ", state: " ++ s.stage.label
    ++ ", username: " ++ Text.optional Text.quoted s.username
    ++ ", authorization_id: " ++ Text.optional Text.quoted s.authorizationId
    ++ " \x7d"

end ScramRelay

end SaslGate
