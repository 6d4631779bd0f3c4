/-
PLAIN, relayed to the remote server: the client's one message is passed on
as it came, and the outcome the server reports is the outcome of the
session. A server that challenges is answered with nothing, because PLAIN
has nothing more to say. Each session opens a connection of its own and
closes it before it hands on the result.
-/
import SaslGate.Auth.Plain
import SaslGate.Session.Desk
import SaslGate.Session.Outcome
import SaslGate.Session.Reply

namespace SaslGate

/-- A PLAIN session that is relayed to a remote server. -/
structure PlainRelay (σ : Type) where
  link : Option (Link Client σ)
  outcome : Option Outcome
  authorizationId : Option String

namespace PlainRelay

variable {κ σ : Type}

/-- A session that has not been asked anything. -/
def fresh : PlainRelay σ := ⟨none, none, none⟩

-- ===================================================== the conversation

/-- One round: waits for a reply, and asks for another round if it was a
challenge. -/
def round [Wire σ] : Linked Client σ Bool := do
  match ← Reply.await with
  | .passed => return false
  | .failed => Act.fail .rejected
  | .challenge => do
    let _ ← Link.takePending
    Link.sendResponse []
    return true

/-- What a link has still to give: two for every read that may bring
something, and one for a reply that is there already. -/
def weight [Wire σ] (k : Link Client σ) : Nat :=
  2 * k.talk + if k.hasReply then 1 else 0

/-- A round that asks for another has used up a reply. -/
theorem round_lowers [Wire σ] (k : Link Client σ)
    (h : (round.run k).result = .ok true) :
    weight (round.run k).state < weight k := by
  obtain ⟨reply, k₁, _, h₁, h, e₁⟩ := Act.run_bind_inv h
  match reply with
  | .passed => cases h
  | .failed => cases h
  | .challenge =>
    obtain ⟨_, k₂, _, h₂, h, e₂⟩ := Act.run_bind_inv h
    obtain ⟨_, k₃, _, h₃, -, e₃⟩ := Act.run_bind_inv h
    have t₂ : k₂.talk ≤ k₁.talk := by
      have := Link.keeps_takePending k₁
      rwa [h₂] at this
    have t₃ : k₃.talk ≤ k₂.talk := by
      have := Link.keeps_send (Engine.sendResponse []) k₂
      rwa [show (Link.send (Engine.sendResponse [])).run k₂ = _ from h₃]
        at this
    have n₃ : k₃.hasReply = false := Reply.not_hasReply_of_sendResponse h₃
    have t₁ := Reply.talk_await h₁
    have : weight (round.run k).state = weight k₃ := by
      unfold round
      rw [e₁, Run.state_after, e₂, Run.state_after, e₃]
      rfl
    rw [this]
    -- a reply that was there is gone, or one was read: the weight counts both
    cases hr : k.hasReply <;> simp [weight, n₃, hr] at t₁ ⊢ <;> omega

/-- Answers challenges until the server reports an outcome. -/
def converse [Wire σ] : Linked Client σ Unit :=
  Act.iterate round weight round_lowers

-- ========================================================== the session

/-- Where the session keeps its link. -/
def slot : Slot (PlainRelay σ) (Link Client σ) where
  get := PlainRelay.link
  put link s := { s with link }

/-- Closes the link, if there is one; that this may fail concerns nobody. -/
def release [Wire σ] : Working κ (PlainRelay σ) Unit := do
  let _ ← Desk.release slot Link.close

/-- Passes a client's message on and waits for the outcome. -/
def delegate [Connector κ σ] [Wire σ] (c : RemoteConfig) (message : Bytes) :
    Working κ (PlainRelay σ) Bytes := do
  let credentials ← Act.ofExcept (PlainCredentials.parse message)
  let link ← Desk.ofOpener (Link.bootstrap Client.fresh c plainName)
  Desk.hold slot link
  Desk.onHeld slot
    (Link.sendInit plainName (some c.effectiveHostname) message)
  Desk.onHeld slot converse
  Desk.change fun s => { s with authorizationId := some credentials.username }
  return []

/-- The answer to a client's message, which completes the session. -/
def evaluate [Connector κ σ] [Wire σ] (c : RemoteConfig) (message : Bytes) :
    Working κ (PlainRelay σ) Bytes := do
  if (← Desk.current).outcome.isSome then Act.fail .notYetComplete
  let result ← (delegate c message).attempt
  Desk.change fun s => { s with outcome := some (Outcome.of result) }
  release
  Act.ofExcept result

/-- A session in diagnostics; `label` stands for its number. -/
def summary (label : String) (c : RemoteConfig) (s : PlainRelay σ) : String :=
  "DelegatingPlainServer \x7b session: " ++ label
    ++ ", upstream: " ++ c.host ++ ":" ++ toString c.portNumber.toNat
    ++ ", connected: " ++ toString s.link.isSome
    ++ ", outcome: " ++ Text.optional Outcome.label s.outcome
    ++ ", authorization_id: " ++ Text.optional Text.quoted s.authorizationId
    ++ " \x7d"

end PlainRelay

end SaslGate
