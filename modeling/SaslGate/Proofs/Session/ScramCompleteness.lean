/-
What a relayed SCRAM session achieves with a server in lock-step that accepts
the client: both messages are passed on to the end, the client is told the
challenge and the server-final message, and it is authorized.

The server-final message may come as a challenge before the outcome or as
data of the outcome. Either way the conversation ends with the outcome, and
what is made of that is told once, for whoever waits for it (`ends_passed`).
Between the two messages the session holds a link on which it is its turn
(`Halfway`); nothing else carries over from one call to the next.
-/
import SaslGate.Proofs.Cues
import SaslGate.Proofs.Session.Scram

namespace SaslGate

open Act (Ends)
open Event (calls)
open Link (Idle Owed Settled)

namespace ScramRelay

variable {κ σ : Type} {config : RemoteConfig} {id : Nat}
  {plays : Part → σ → Prop} {told said heard : List Frame}
  {names : List String} {k : Link Client σ} {d : Desk κ (ScramRelay σ)}
  {t : List Event} {early data : Option Bytes}

-- ========================================================== single actions

section Actions

variable [Wire σ]

/-- The next reply, and what it makes of the exchange. -/
theorem ends_react_owed {reply : Reply} {g : Frame} {c : Client}
    {stage : ScramStage} {effect : ScramEffect} (lockStep : LockStep plays)
    (h : Owed plays config id told said (g :: heard)
      (Client.attending names) k t)
    (held : d.session.link = some k)
    (brings : Reply.Brings (Client.attending names) reply g c)
    (moves : d.session.stage.advance (.reply reply) = .ok (stage, effect)) :
    Ends t react d
      (fun e d' t' => e = effect ∧ ∃ k',
        Idle plays config id told said heard
          (c.placed .headerExchange .empty) k' t'
        ∧ d' = { d with session :=
            { d.session with link := some k', stage } })
      fun _ _ => Late config.negotiationTimeout := by
  have hawait := h.await lockStep (Client.attending_listening names) rfl brings
  refine .bind (Desk.ends_onHeld held (hawait.imp_ok ?_))
  intro r k' t' hheard
  obtain ⟨rfl, hidle⟩ := hheard
  have hmoves := run_advance
    (d := { d with session := slot.put (some k') d.session }) moves
  refine .of_run_ok hmoves ?_
  rw [List.append_nil]
  exact ⟨rfl, k', hidle, rfl⟩

/-- Taking the data of a reply. -/
theorem ends_replyData_idle {c : Client}
    {fail : AuthError → Desk κ (ScramRelay σ) → List Event → Prop}
    (h : Idle plays config id told said heard c k t)
    (held : d.session.link = some k) :
    Ends t replyData d
      (fun bytes d' t' => bytes = c.pending.getD [] ∧ ∃ k',
        Idle plays config id told said heard { c with pending := none } k' t'
        ∧ d' = { d with session := { d.session with link := some k' } })
      fail := by
  refine .bind (Desk.ends_onHeld held (h.takePending.imp_ok ?_))
  intro pending k' t' htaken
  obtain ⟨rfl, hidle⟩ := htaken
  exact .pure ⟨rfl, k', hidle, rfl⟩

/-- Passing on what the server waits for. -/
theorem ends_sendResponse_idle {response : Bytes} (lockStep : LockStep plays)
    (h : Idle plays config id told (.response response :: said) heard
      (Client.attending names) k t)
    (held : d.session.link = some k) :
    Ends t (Desk.onHeld slot (Link.sendResponse response)) d
      (fun _ d' t' => ∃ k',
        Owed plays config id (told ++ [.response response]) said heard
          (Client.attending names) k' t'
        ∧ d' = { d with session := { d.session with link := some k' } })
      fun _ _ => Late config.negotiationTimeout := by
  have hsent := h.send (d := Client.attending names) lockStep
    fun bytes fits => Client.sendResponse_attending names fits
  refine Desk.ends_onHeld held (hsent.imp_ok ?_)
  intro _ k' t' howed
  exact ⟨k', howed, rfl⟩

/-- The outcome, and what becomes of it, whoever waits for it. -/
theorem ends_passed {g : ScramEffect → Working κ (ScramRelay σ) Bytes}
    (lockStep : LockStep plays)
    (settles : g .returnServerFinal = settle early .returnServerFinal)
    (h : Owed plays config id told [] [.outcome .ok data]
      (Client.attending names) k t)
    (held : d.session.link = some k)
    (stage : d.session.stage = .evaluatingProof)
    (signed : isServerFinal (serverFinal early data) = true) :
    Ends t (react >>= g) d
      (fun reply d' t' => reply = serverFinal early data ∧ ∃ k',
        Settled plays config id told k' t'
        ∧ d'.session = succeeded d.session k')
      fun _ _ => Late config.negotiationTimeout := by
  have hmoves : d.session.stage.advance (.reply .passed) =
      .ok (.done .success, .returnServerFinal) := by
    rw [stage]
    rfl
  apply (ends_react_owed lockStep h held (.passed data) hmoves).andThen
  intro effect d₁ t₁ hreact
  obtain ⟨rfl, k₁, hidle, rfl⟩ := hreact
  rw [settles]
  apply (ends_replyData_idle hidle rfl).andThen
  intro bytes d₂ t₂ hdata
  obtain ⟨hbytes, k₂, hidle₂, rfl⟩ := hdata
  -- the data of the outcome comes first, the earlier message in its absence
  have hreply : (if bytes = [] then early.getD [] else bytes)
      = serverFinal early data := by
    rw [hbytes]
    rfl
  dsimp only
  rw [hreply, if_pos signed]
  exact .bind (.update (.pure ⟨rfl, k₂, ⟨_, hidle₂⟩, rfl⟩))

/-- The server-final message, if it comes as a challenge, and the outcome. -/
theorem ends_conclude_owed (lockStep : LockStep plays)
    (h : Owed plays config id told (early.toList.map fun _ => .response [])
      (early.toList.map .challenge ++ [.outcome .ok data])
      (Client.attending names) k t)
    (held : d.session.link = some k)
    (stage : d.session.stage = .evaluatingProof)
    (announced : ∀ f, early = some f → isServerFinal f = true)
    (signed : isServerFinal (serverFinal early data) = true) :
    Ends t conclude d
      (fun reply d' t' => reply = serverFinal early data ∧ ∃ k',
        Settled plays config id
          (told ++ early.toList.map fun _ => .response []) k' t'
        ∧ d'.session = succeeded d.session k')
      fun _ _ => Late config.negotiationTimeout := by
  cases early with
  | none =>
    rw [show (told ++ (none : Option Bytes).toList.map fun _ =>
      Frame.response []) = told from List.append_nil told]
    exact ends_passed lockStep rfl h held stage signed
  | some final =>
    have hmoves : d.session.stage.advance (.reply .challenge) =
        .ok (.evaluatingProof, .acknowledgeServerFinal) := by
      rw [stage]
      rfl
    refine (ends_react_owed lockStep h held (.challenge final)
      hmoves).andThen ?_
    intro effect d₁ t₁ hreact
    obtain ⟨rfl, k₁, hidle, rfl⟩ := hreact
    apply (ends_replyData_idle hidle rfl).andThen
    intro bytes d₂ t₂ hdata
    obtain ⟨rfl, k₂, hidle₂, rfl⟩ := hdata
    dsimp only
    rw [if_pos (announced bytes rfl)]
    apply (ends_sendResponse_idle lockStep hidle₂ rfl).andThen
    intro _ d₃ t₃ hsent
    obtain ⟨k₃, howed, rfl⟩ := hsent
    -- the acknowledgement is out, and the rest is as without it
    exact ends_passed lockStep rfl howed rfl rfl signed

end Actions

-- ========================================================= two messages

section Messages

variable [Wire σ] [Connector κ σ] {mechanism : ScramMechanism}
  {x : ScramExchange} {username : String}

/-- The challenge is with the client, and it is the session's turn. What is
left of the exchange `x` begins with the proof. -/
def Halfway (plays : Part → σ → Prop) (config : RemoteConfig)
    (mechanism : ScramMechanism) (x : ScramExchange) (k : Link Client σ)
    (t : List Event) : Prop :=
  Idle plays config x.socket
    [.init mechanism.name (some x.clientFirst)
      (some config.effectiveHostname)]
    (.response x.proof :: x.early.toList.map fun _ => .response [])
    (x.early.toList.map .challenge ++ [.outcome .ok x.data])
    (Client.attending x.offer) k t

/-- Passing the first message on brings the challenge. -/
theorem ends_dispatch_fresh {clientFirst : ClientFirst} {opener : κ}
    (parsed : ClientFirst.parse x.clientFirst = .ok clientFirst)
    (offered : mechanism.name ∈ x.offer)
    (answers : Answers config x.socket (x.said config mechanism) x.heard
      opener) :
    ∃ plays : Part → σ → Prop, LockStep plays
      ∧ Ends [] (dispatch config x.clientFirst) ⟨opener, .fresh mechanism⟩
        (fun reply d t => reply = x.challenge ∧ ∃ k,
          Halfway plays config mechanism x k t
          ∧ d.session = ⟨mechanism, some k, .awaitingProof,
              some clientFirst.username, none⟩)
        fun _ _ => Late config.negotiationTimeout := by
  obtain ⟨plays, hlock, hboot⟩ := Link.ends_bootstrap_answers answers offered
  refine ⟨plays, hlock, .bind (.of_run_ok (run_advance rfl) ?_)⟩
  dsimp only [forwardClientFirst]
  rw [parsed, List.append_nil]
  refine .bind (.ofExcept ?_ nofun)
  intro _ hclientFirst
  cases hclientFirst
  refine Desk.ends_current_bind (.bind (Desk.ends_ofOpener
    (hboot.imp_ok ?_)))
  intro k opener' t hidle
  refine .bind (.update ?_)
  have hinit := hidle.send (d := Client.attending x.offer) hlock
    fun bytes fits => Client.sendInit_offered x.offer fits
  refine .bind (Desk.ends_onHeld (k := k) rfl (hinit.imp_ok ?_))
  intro _ k₁ t₁ howed
  refine (ends_react_owed (k := k₁) hlock howed rfl
    (.challenge x.challenge) rfl).andThen ?_
  intro effect d₂ t₂ hreact
  obtain ⟨rfl, k₂, hidle₂, rfl⟩ := hreact
  refine .bind (.update ((ends_replyData_idle hidle₂ rfl).imp_ok ?_))
  intro reply d₃ t₃ hdata
  obtain ⟨rfl, k₃, hidle₃, rfl⟩ := hdata
  exact ⟨rfl, k₃, hidle₃, rfl⟩

/-- Passing the proof on brings the verdict. -/
theorem ends_dispatch_halfway {plays : Part → σ → Prop}
    {d : Desk κ (ScramRelay σ)} {k : Link Client σ} {t : List Event}
    (lockStep : LockStep plays) (h : Halfway plays config mechanism x k t)
    (held : d.session.link = some k)
    (stage : d.session.stage = .awaitingProof)
    (announced : ∀ f, x.early = some f → isServerFinal f = true)
    (signed : isServerFinal x.verdict = true) :
    Ends t (dispatch config x.proof) d
      (fun reply d' t' => reply = x.verdict ∧ ∃ k',
        Settled plays config x.socket (x.said config mechanism) k' t'
        ∧ d'.session = succeeded d.session k')
      fun _ _ => Late config.negotiationTimeout := by
  have hmoves : d.session.stage.advance .clientMessage =
      .ok (.evaluatingProof, .forwardProof) := by
    rw [stage]
    rfl
  refine .bind (.of_run_ok (run_advance hmoves) ?_)
  dsimp only [forwardProof]
  rw [List.append_nil]
  refine (ends_sendResponse_idle (d := { d with session :=
    { d.session with stage := .evaluatingProof } }) lockStep h held).andThen ?_
  intro _ d₁ t₁ hsent
  obtain ⟨k₁, howed, rfl⟩ := hsent
  exact ends_conclude_owed lockStep howed rfl rfl announced signed

end Messages

-- ============================================================= the session

section Sessions

variable {δ γ : Type} [Connector κ σ] [Wire σ] [DirectoryService δ γ]
  [DirectoryConnection γ] {mechanism : ScramMechanism} {x : ScramExchange}

/-- Passing a message on can only be late. If it is not, the message is
answered, and a session that is over then lets go of its link. -/
theorem evaluate_inTime {message : Bytes} {d : Desk κ (ScramRelay σ)}
    {t : List Event} {r : Run Event (Desk κ (ScramRelay σ)) AuthError Bytes}
    {ok : Bytes → Desk κ (ScramRelay σ) → List Event → Prop}
    (h : Ends t (dispatch config message) d ok
      fun _ _ => Late config.negotiationTimeout)
    (unfinished : d.session.stage.outcome = none)
    (evaluated : (evaluate config message).run d = r)
    (inTime : SocketEvent.InTime config.negotiationTimeout
      (calls (t ++ r.events))) :
    ∃ reply d₁ t₁, r.result = .ok reply ∧ ok reply d₁ (t ++ t₁)
      ∧ (d₁.session.stage.outcome = none ∧ r.state.session = d₁.session
          ∧ r.events = t₁
        ∨ d₁.session.stage.outcome.isSome = true
          ∧ r.state.session = { d₁.session with link := none }
          ∧ r.events = t₁ ++ Link.farewell d₁.session.link) := by
  obtain ⟨answer, d', u⟩ := r
  rcases evaluate_cases evaluated with ⟨hdone, -⟩
    | ⟨-, d₁, t₁, hdispatch, hend⟩
  · rw [unfinished] at hdone
    cases hdone
  cases answer with
  | ok reply => exact ⟨reply, d₁, t₁, rfl, h.of_ok hdispatch, hend⟩
  | error e =>
    -- an error is lateness, which the release behind it does not undo
    have hlate := h.of_error hdispatch
    rcases hend with ⟨hgoes, -⟩ | ⟨-, -, rfl⟩
    · cases hgoes
    · rw [← List.append_assoc] at inTime
      exact absurd inTime (Late.append _ _ hlate)

/-- The answer to the first message. -/
theorem evaluate_fresh {clientFirst : ClientFirst} {opener : κ}
    {r : Run Event (Desk κ (ScramRelay σ)) AuthError Bytes}
    (parsed : ClientFirst.parse x.clientFirst = .ok clientFirst)
    (offered : mechanism.name ∈ x.offer)
    (answers : Answers config x.socket (x.said config mechanism) x.heard
      opener)
    (evaluated : (evaluate config x.clientFirst).run
      ⟨opener, .fresh mechanism⟩ = r)
    (inTime : SocketEvent.InTime config.negotiationTimeout (calls r.events)) :
    ∃ (plays : Part → σ → Prop) (k : Link Client σ), LockStep plays
      ∧ Halfway plays config mechanism x k r.events
      ∧ r.result = .ok x.challenge
      ∧ r.state.session = ⟨mechanism, some k, .awaitingProof,
          some clientFirst.username, none⟩ := by
  obtain ⟨plays, hlock, hends⟩ :=
    ends_dispatch_fresh parsed offered answers
  obtain ⟨reply, d₁, t₁, hresult, ⟨rfl, k, hhalfway, hsession⟩, hend⟩ :=
    evaluate_inTime hends rfl evaluated inTime
  rw [hsession] at hend
  rcases hend with ⟨-, hkept, hevents⟩ | ⟨hdone, -⟩
  · rw [hevents]
    exact ⟨plays, k, hlock, hhalfway, hresult, hkept⟩
  · cases hdone

/-- The answer to the proof. -/
theorem evaluate_halfway {plays : Part → σ → Prop} {k : Link Client σ}
    {t : List Event} {username : String} {opener : κ}
    {r : Run Event (Desk κ (ScramRelay σ)) AuthError Bytes}
    (lockStep : LockStep plays) (h : Halfway plays config mechanism x k t)
    (announced : ∀ f, x.early = some f → isServerFinal f = true)
    (signed : isServerFinal x.verdict = true)
    (evaluated : (evaluate config x.proof).run ⟨opener,
      ⟨mechanism, some k, .awaitingProof, some username, none⟩⟩ = r)
    (inTime : SocketEvent.InTime config.negotiationTimeout
      (calls (t ++ r.events))) :
    r.result = .ok x.verdict
      ∧ r.state.session = ⟨mechanism, none, .done .success, none,
          some username⟩
      ∧ Link.Record config x.socket (x.said config mechanism)
          (t ++ r.events) := by
  have hends := ends_dispatch_halfway (d := ⟨opener,
    ⟨mechanism, some k, .awaitingProof, some username, none⟩⟩) lockStep h rfl
    rfl announced signed
  obtain ⟨reply, d₁, t₁, hresult, ⟨rfl, k', hsettled, hsession⟩, hend⟩ :=
    evaluate_inTime hends rfl evaluated inTime
  rw [hsession] at hend
  rcases hend with ⟨hgoes, -⟩ | ⟨-, hreleased, hevents⟩
  · cases hgoes
  · rw [hevents, ← List.append_assoc]
    exact ⟨hresult, hreleased, hsettled.record⟩

end Sessions

end ScramRelay

-- ============================================================= a rehearsal

namespace Rehearsal

open ScramRelay

/-- An exchange whose server-final message is `v=`, a challenge, and whose
outcome has no data. -/
def relayed : ScramExchange :=
  ⟨0, ["PLAIN", ScramMechanism.sha256.name], scramMessage, [1], [2],
    some [118, 61], none⟩

/-- The server's part in it. The greeting is cut inside the header and inside
the offer, the server-final message before its last byte, and reads are
interrupted before, between and behind. -/
def relayedCues : List Cue :=
  let greeting := Header.sasl.encode ++ frames [.mechanisms relayed.offer]
  let final := frames [.challenge [118, 61]]
  [⟨Header.sasl.encode, [.error .interrupted, .ok (greeting.take 5),
      .ok ((greeting.take 20).drop 5), .ok (greeting.drop 20)]⟩,
    ⟨frames [.init ScramMechanism.sha256.name (some scramMessage)
      (some "broker")], [.ok (frames [.challenge [1]]), .error .interrupted]⟩,
    ⟨frames [.response [2]], [.ok (final.take (final.length - 1)),
      .error .interrupted, .ok (final.drop (final.length - 1))]⟩,
    ⟨frames [.response []], [.ok (frames [.outcome .ok none])]⟩]

/-- The reads of the rehearsal bring its frames. -/
theorem relayed_script :
    Script (relayed.said { host := "broker" } .sha256) relayed.heard
      relayedCues := by
  have offer : Spells [.mechanisms relayed.offer]
      (frames [.mechanisms relayed.offer]) :=
    spells_frames (by decide +kernel) (by decide +kernel)
  have challenge : Spells [.challenge [1]] (frames [.challenge [1]]) :=
    spells_frames (by decide +kernel) (by decide +kernel)
  have final : Spells [.challenge [118, 61]]
      (frames [.challenge [118, 61]]) :=
    spells_frames (by decide +kernel) (by decide +kernel)
  have outcome : Spells [.outcome .ok none] (frames [.outcome .ok none]) :=
    spells_frames (by decide +kernel) (by decide +kernel)
  refine .intro (.interrupted (.chunk ?_ (.chunk ?_ (.chunk ?_ .nil)))) ?_
    offer (.cons (sized_frames ?_) (.chunk ?_ (.interrupted .nil)) challenge
    (.cons (sized_frames ?_) (.chunk ?_ (.interrupted (.chunk ?_ .nil)))
    (spells_cut _ final) (.cons (sized_frames ?_) (.chunk ?_ .nil) outcome
    .nil)))
  all_goals decide +kernel

/-- What comes of the first message. -/
def relayedFirst : Run Event (Desk (World Remote Directory) Actor) AuthError
    Bytes :=
  (Session.evaluate scramMessage).run
    ⟨worldPlaying relayedCues, .scram { host := "broker" } (.fresh .sha256)⟩

/-- What comes of the proof. -/
def relayedSecond : Run Event (Desk (World Remote Directory) Actor) AuthError
    Bytes :=
  (Session.evaluate [2]).run relayedFirst.state

end Rehearsal

end SaslGate
