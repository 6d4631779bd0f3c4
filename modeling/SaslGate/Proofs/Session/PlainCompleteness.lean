/-
What a relayed PLAIN session achieves with a server in lock-step. A message
that holds credentials is passed on to the end, through as many challenges as
the server likes, and the answer to it is the server's.

The conversation is an induction on the challenges, with one round of the
program for each (`ends_converse_owed`); an empty challenge is a challenge. What
becomes of the link, the socket and the session behind it does not depend on
the outcome, so both outcomes are followed in one go (`Answered`).
-/
import SaslGate.Proofs.Cues
import SaslGate.Proofs.Session.Plain

namespace SaslGate

open Act (Ends)
open Event (calls)
open Link (Owed Settled)

/-- What the client is told in the end. -/
def PlainExchange.answer (x : PlainExchange) : Except AuthError Bytes :=
  if x.code = .ok then .ok [] else .error .rejected

namespace PlainRelay

variable {κ σ : Type} {config : RemoteConfig} {id : Nat}
  {plays : Part → σ → Prop}

-- ======================================================== the conversation

section Conversation

variable [Wire σ] {told said heard : List Frame} {names : List String}
  {k : Link Client σ} {t : List Event}

/-- A round that brings a challenge answers it with nothing. -/
theorem ends_round_challenge {data : Bytes} (lockStep : LockStep plays)
    (h : Owed plays config id told (.response [] :: said)
      (.challenge data :: heard) (Client.attending names) k t) :
    Ends t round k
      (fun again k' t' => again = true
        ∧ Owed plays config id (told ++ [.response []]) said heard
          (Client.attending names) k' t')
      fun _ _ => Late config.negotiationTimeout := by
  refine (h.await lockStep (Client.attending_listening names) rfl
    (.challenge data)).andThen ?_
  intro reply k₁ t₁ hawait
  obtain ⟨rfl, hidle⟩ := hawait
  apply hidle.takePending.andThen
  intro _ k₂ t₂ htaken
  have hsent := htaken.2.send (d := Client.attending names) lockStep
    fun bytes fits => Client.sendResponse_attending names fits
  apply hsent.andThen
  intro _ k₃ t₃ howed
  exact .pure ⟨rfl, howed⟩

/-- A round that brings the outcome ends the conversation. -/
theorem ends_round_outcome {code : SaslCode} {data : Option Bytes}
    (lockStep : LockStep plays)
    (h : Owed plays config id told [] [.outcome code data]
      (Client.attending names) k t) :
    Ends t round k
      (fun again k' t' => again = false ∧ code = .ok
        ∧ Settled plays config id told k' t')
      fun e k' t' => Late config.negotiationTimeout t'
        ∨ e = .rejected ∧ code ≠ .ok ∧ Settled plays config id told k' t' := by
  have hlistens := Client.attending_listening names
  by_cases hcode : code = .ok
  · subst hcode
    refine .bind ((h.await lockStep hlistens rfl (.passed data)).imp ?_ ?_)
    · intro reply k' t' hawait
      obtain ⟨rfl, hidle⟩ := hawait
      exact .pure ⟨rfl, rfl, _, hidle⟩
    · intro _ _ _ hlate
      exact .inl hlate
  · refine .bind ((h.await lockStep hlistens rfl
      (.failed code data hcode)).imp ?_ ?_)
    · intro reply k' t' hawait
      obtain ⟨rfl, hidle⟩ := hawait
      exact .fails (.inr ⟨rfl, hcode, _, hidle⟩)
    · intro _ _ _ hlate
      exact .inl hlate

/-- Some of the challenges are answered, and the others are to come. -/
def Midway (plays : Part → σ → Prop) (config : RemoteConfig) (id : Nat)
    (names : List String) (told : List Frame) (challenges : List Bytes)
    (last : Frame) (k : Link Client σ) (t : List Event) : Prop :=
  ∃ done todo, challenges = done ++ todo
    ∧ Owed plays config id (told ++ done.map fun _ => .response [])
      (todo.map fun _ => .response []) (todo.map .challenge ++ [last])
      (Client.attending names) k t

/-- The conversation goes through all challenges to the outcome. -/
theorem ends_converse_owed {challenges : List Bytes} {code : SaslCode}
    {data : Option Bytes} (lockStep : LockStep plays)
    (h : Owed plays config id told (challenges.map fun _ => .response [])
      (challenges.map .challenge ++ [.outcome code data])
      (Client.attending names) k t) :
    Ends t converse k
      (fun _ k' t' => code = .ok ∧ Settled plays config id
        (told ++ challenges.map fun _ => .response []) k' t')
      fun e k' t' => Late config.negotiationTimeout t'
        ∨ e = .rejected ∧ code ≠ .ok ∧ Settled plays config id
          (told ++ challenges.map fun _ => .response []) k' t' := by
  have hstart : Midway plays config id names told challenges
      (.outcome code data) k t := ⟨[], challenges, rfl, by simpa using h⟩
  refine .iterate ?_ hstart
  intro k t hmidway
  obtain ⟨done, todo, rfl, howed⟩ := hmidway
  -- the invariant is a place among the challenges; past the last one the
  -- outcome is due
  cases todo with
  | nil =>
    rw [List.append_nil]
    apply (ends_round_outcome lockStep howed).imp_ok
    intro again k' t' hround
    obtain ⟨rfl, hsettled⟩ := hround
    exact hsettled
  | cons challenge todo =>
    refine (ends_round_challenge lockStep howed).imp ?_ ?_
    · intro again k' t' hround
      obtain ⟨rfl, howed'⟩ := hround
      refine ⟨done ++ [challenge], todo, by simp, ?_⟩
      rw [List.map_append, ← List.append_assoc]
      exact howed'
    · intro _ _ _ hlate
      exact .inl hlate

end Conversation

-- ============================================================= the session

/-- How the one message ends, if no time runs out: with the answer of the
exchange `x`, over a link that has nothing left to do. -/
structure Answered (plays : Part → σ → Prop) (config : RemoteConfig)
    (message : Bytes) (username : String) (x : PlainExchange)
    (result : Except AuthError Bytes) (session : PlainRelay σ)
    (t : List Event) : Prop where
  result : result = x.answer
  identity : x.code = .ok → session.authorizationId = some username
  settled : ∃ k, session.link = some k
    ∧ Settled plays config x.socket (x.said config message) k t

variable [Wire σ] [Connector κ σ]

/-- Passing the message on. -/
theorem ends_delegate_answers {message : Bytes}
    {credentials : PlainCredentials} {x : PlainExchange} {opener : κ}
    (parsed : PlainCredentials.parse message = .ok credentials)
    (offered : plainName ∈ x.offer)
    (answers : Answers config x.socket (x.said config message) x.heard
      opener) :
    ∃ plays : Part → σ → Prop,
      Ends [] (delegate config message) ⟨opener, .fresh⟩
        (fun a d t => Answered plays config message credentials.username x
          (.ok a) d.session t)
        fun e d t => Late config.negotiationTimeout t
          ∨ Answered plays config message credentials.username x
            (.error e) d.session t := by
  obtain ⟨plays, hlock, hboot⟩ := Link.ends_bootstrap_answers answers offered
  refine ⟨plays, ?_⟩
  unfold delegate
  rw [parsed]
  refine .bind (.ofExcept ?_ nofun)
  intro _ hcredentials
  cases hcredentials
  refine .bind (Desk.ends_ofOpener (hboot.imp ?_ fun _ _ _ => .inl))
  intro k opener' t hidle
  refine .bind (.update ?_)
  have hinit := hidle.send (d := Client.attending x.offer) hlock
    fun bytes fits => Client.sendInit_offered x.offer fits
  refine .bind (Desk.ends_onHeld (k := k) rfl (hinit.imp ?_
    fun _ _ _ => .inl))
  intro _ k₁ t₁ howed
  refine .bind (Desk.ends_onHeld (k := k₁) rfl
    ((ends_converse_owed hlock howed).imp ?_ ?_))
  · intro _ k₂ t₂ hdone
    obtain ⟨hcode, hsettled⟩ := hdone
    refine .bind (.update (.pure ⟨?_, fun _ => rfl, k₂, rfl, hsettled⟩))
    rw [PlainExchange.answer, if_pos hcode]
  · intro e k₂ t₂ hfailed
    rcases hfailed with hlate | ⟨rfl, hcode, hsettled⟩
    · exact .inl hlate
    · refine .inr ⟨?_, fun hok => absurd hok hcode, k₂, rfl, hsettled⟩
      rw [PlainExchange.answer, if_neg hcode]

section Sessions

variable {δ γ : Type} [DirectoryService δ γ] [DirectoryConnection γ]

end Sessions

end PlainRelay

-- ============================================================= a rehearsal

namespace Rehearsal

open PlainRelay

/-- An exchange with two challenges, of which the first is empty. -/
def patient : PlainExchange :=
  ⟨0, ["ANONYMOUS", plainName], [[], [1]], .ok, none⟩

/-- The server's part in it. The greeting is cut inside the header and inside
the size of the frame, the second challenge before its last byte, and reads
are interrupted before, between and behind. -/
def patientCues : List Cue :=
  let greeting := Header.sasl.encode ++ frames [.mechanisms patient.offer]
  let challenge := frames [.challenge [1]]
  [⟨Header.sasl.encode, [.error .interrupted, .ok (greeting.take 3),
      .ok ((greeting.take 10).drop 3), .error .interrupted,
      .ok (greeting.drop 10)]⟩,
    ⟨frames [.init plainName (some plainMessage) (some "broker")],
      [.ok (frames [.challenge []]), .error .interrupted]⟩,
    ⟨frames [.response []], [.ok (challenge.take (challenge.length - 1)),
      .ok (challenge.drop (challenge.length - 1))]⟩,
    ⟨frames [.response []], [.error .interrupted, .error .interrupted,
      .ok (frames [.outcome .ok none])]⟩]

/-- The reads of the rehearsal bring its frames. -/
theorem patient_script :
    Script (patient.said { host := "broker" } plainMessage) patient.heard
      patientCues := by
  have offer : Spells [.mechanisms patient.offer]
      (frames [.mechanisms patient.offer]) :=
    spells_frames (by decide +kernel) (by decide +kernel)
  have empty : Spells [.challenge []] (frames [.challenge []]) :=
    spells_frames (by decide +kernel) (by decide +kernel)
  have challenge : Spells [.challenge [1]] (frames [.challenge [1]]) :=
    spells_frames (by decide +kernel) (by decide +kernel)
  have outcome : Spells [.outcome .ok none] (frames [.outcome .ok none]) :=
    spells_frames (by decide +kernel) (by decide +kernel)
  refine .intro (.interrupted (.chunk ?_ (.chunk ?_ (.interrupted
    (.chunk ?_ .nil))))) ?_ offer (.cons (sized_frames ?_) (.chunk ?_
    (.interrupted .nil)) empty (.cons (sized_frames ?_) (.chunk ?_
    (.chunk ?_ .nil)) (spells_cut _ challenge) (.cons (sized_frames ?_)
    (.interrupted (.interrupted (.chunk ?_ .nil))) outcome .nil)))
  all_goals decide +kernel

/-- What comes of the message. -/
def patientRun : Run Event (Desk (World Remote Directory) Actor) AuthError
    Bytes :=
  (Session.evaluate plainMessage).run
    ⟨worldPlaying patientCues, .plain { host := "broker" } .fresh⟩

end Rehearsal

end SaslGate
