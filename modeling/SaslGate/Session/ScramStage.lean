/-
The course of a relayed SCRAM exchange: the client's first message, the
server's challenge, the client's proof, and the outcome. Client and server
take turns; whoever speaks out of turn is refused. A server may send its
final message as one more challenge before the outcome, so a challenge does
not move the exchange on once the proof is with the server.
-/
import SaslGate.Session.Outcome
import SaslGate.Session.Reply

namespace SaslGate

/-- Where a SCRAM exchange stands. -/
inductive ScramStage
  | initial
  /-- The client's first message is with the server. -/
  | awaitingChallenge
  /-- The challenge is with the client. -/
  | awaitingProof
  /-- The proof is with the server. -/
  | evaluatingProof
  | done (outcome : Outcome)
  deriving DecidableEq, Repr

/-- What moves an exchange on. -/
inductive ScramInput
  | clientMessage
  | reply (reply : Reply)
  deriving DecidableEq, Repr

/-- What is to be done about it. -/
inductive ScramEffect
  | forwardClientFirst
  | returnChallenge
  /-- The outcome came before the challenge. -/
  | endEarly
  | forwardProof
  /-- The server-final message came as a challenge. -/
  | acknowledgeServerFinal
  | returnServerFinal
  | reject
  deriving DecidableEq, Repr

namespace ScramStage

/-- A stage in words. -/
def name : ScramStage → String
  | initial => "initial"
  | awaitingChallenge => "awaiting challenge"
  | awaitingProof => "awaiting proof"
  | evaluatingProof => "evaluating proof"
  | done _ => "done"

/-- A stage in diagnostics. -/
def label : ScramStage → String
  | initial => "Initial"
  | awaitingChallenge => "AwaitingChallenge"
  | awaitingProof => "AwaitingProof"
  | evaluatingProof => "EvaluatingProof"
  | done outcome => "Done(" ++ outcome.label ++ ")"

/-- Whether the exchange is over. -/
def isDone : ScramStage → Bool
  | done _ => true
  | _ => false

/-- The outcome, once there is one. -/
def outcome : ScramStage → Option Outcome
  | done outcome => some outcome
  | _ => none

/-- An exchange is over exactly if it has an outcome. -/
theorem isDone_eq (s : ScramStage) : s.isDone = s.outcome.isSome := by
  cases s with
  | done outcome => rfl
  | initial | awaitingChallenge | awaitingProof | evaluatingProof => rfl

/-- The next stage and what is to be done, unless the input is out of
turn. -/
def advance : ScramStage → ScramInput →
    Except AuthError (ScramStage × ScramEffect)
  | done _, _ => .error .notYetComplete
  | initial, .clientMessage => .ok (awaitingChallenge, .forwardClientFirst)
  | awaitingChallenge, .reply .challenge =>
    .ok (awaitingProof, .returnChallenge)
  | awaitingChallenge, .reply _ => .ok (done .failure, .endEarly)
  | awaitingProof, .clientMessage => .ok (evaluatingProof, .forwardProof)
  | evaluatingProof, .reply .challenge =>
    .ok (evaluatingProof, .acknowledgeServerFinal)
  | evaluatingProof, .reply .passed => .ok (done .success, .returnServerFinal)
  | evaluatingProof, .reply .failed => .ok (done .failure, .reject)
  | stage, _ => .error (.illegalSequencing stage.name)

end ScramStage

end SaslGate
