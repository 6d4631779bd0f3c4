/-
What a relayed SCRAM session proves. The client is authorized only if the
server said so twice over one connection: by the outcome, and by a
server-final message with its signature. Everything that was relayed was
relayed as it came.

# One session

A session between two calls is fresh, waits for the proof, or is over
(`Stands`). Only the call that brings the proof can end it with success, and
only by way of `conclude`, where the challenge with the server-final message
and the outcome meet. Whatever fails on the way ends the session without
success, because `evaluate` overwrites the stage.
-/
import SaslGate.Proofs.Course
import SaslGate.Proofs.Transcript
import SaslGate.Rehearsal.Scene

namespace SaslGate

open SocketEvent (chunks received sent Flows)
open Event (calls)

/-- The server-final message that a client is told: the data of the outcome
if there is any, else the challenge that came before it. -/
def serverFinal (early data : Option Bytes) : Bytes :=
  if data.getD [] = [] then early.getD [] else data.getD []

namespace ScramRelay

variable {κ σ : Type}

-- ======================================================== single actions

/-- An input that moves the exchange on. -/
theorem run_advance {input : ScramInput} {stage : ScramStage}
    {effect : ScramEffect} {d : Desk κ (ScramRelay σ)}
    (moves : d.session.stage.advance input = .ok (stage, effect)) :
    (advance input).run d =
      ⟨.ok effect, { d with session := { d.session with stage } }, []⟩ := by
  simp [advance, Desk.current, Desk.change, Act.run_bind, moves, Run.after]

/-- Moving on changes the stage, as the table says, and nothing else. -/
theorem advance_inv {input : ScramInput} {effect : ScramEffect}
    {d d' : Desk κ (ScramRelay σ)} {t : List Event}
    (h : (advance input).run d = ⟨.ok effect, d', t⟩) :
    ∃ stage, d.session.stage.advance input = .ok (stage, effect)
      ∧ d' = { d with session := { d.session with stage } } ∧ t = [] := by
  cases ha : d.session.stage.advance input with
  | error e =>
    simp [advance, Desk.current, Act.run_bind, ha, Run.after] at h
  | ok next =>
    obtain ⟨stage, effect'⟩ := next
    simp only [advance, Desk.current, Desk.change, Act.run_bind, ha,
      Act.run_ofExcept, Act.run_update, Act.run_pure, Run.after] at h
    cases h
    exact ⟨stage, rfl, rfl, rfl⟩

/-- A reply that moved the exchange on. -/
theorem react_inv [Wire σ] {effect : ScramEffect}
    {d d' : Desk κ (ScramRelay σ)} {t : List Event} {k : Link Client σ}
    (h : react.run d = ⟨.ok effect, d', t⟩)
    (held : d.session.link = some k) :
    ∃ reply k' stage, Reply.await.run k = ⟨.ok reply, k', t⟩
      ∧ d.session.stage.advance (.reply reply) = .ok (stage, effect)
      ∧ d' = { d with session :=
          { d.session with link := some k', stage } } := by
  obtain ⟨reply, d₁, t₁, t₂, hawait, hadvance, rfl⟩ := Act.bind_ok h
  obtain ⟨k', hk, rfl⟩ := Desk.onHeld_cases hawait held
  obtain ⟨stage, hstage, rfl, rfl⟩ := advance_inv hadvance
  rw [List.append_nil]
  exact ⟨reply, k', stage, hk, hstage, rfl⟩

section Transcripts

variable {id : Nat} {timeout : Option Duration} {k : Link Client σ}
  {c : Client} {fs : List Frame} {output : Bytes} {t u : List Event}
  {b : Option Instant} {d d' : Desk κ (ScramRelay σ)}

/-- Taking the data of a reply. -/
theorem run_replyData [Wire σ] {k' : Link Client σ} {pending : Option Bytes}
    (held : d.session.link = some k)
    (h : Link.takePending.run k = ⟨.ok pending, k', []⟩) :
    replyData.run d = ⟨.ok (pending.getD []),
      { d with session := { d.session with link := some k' } }, []⟩ := by
  have hheld : (Desk.onHeld slot Link.takePending).run d = ⟨.ok pending,
      { d with session := { d.session with link := some k' } }, []⟩ := by
    simp [Desk.onHeld, slot, held, h]
  rw [replyData, Act.run_bind_ok _ hheld]
  rfl

/-- What is told to the client at the end, and that it is told only after
success. -/
theorem settle_inv [Wire σ] {acknowledged : Option Bytes}
    {effect : ScramEffect} {reply : Bytes}
    (h : Transcript id timeout k c fs output t b)
    (held : d.session.link = some k)
    (hr : (settle acknowledged effect).run d = ⟨.ok reply, d', u⟩) :
    effect = .returnServerFinal ∧ u = [] ∧ isServerFinal reply = true
      ∧ reply = serverFinal acknowledged c.pending
      ∧ ∃ k', d'.session = { d.session with
            link := some k', username := none
            authorizationId := d.session.username }
        ∧ Transcript id timeout k' { c with pending := none } fs output t b := by
  obtain ⟨k', htake, htrans⟩ := h.takePending
  have hdata := run_replyData held htake
  cases effect with
  | returnServerFinal =>
    simp only [settle, Act.run_bind_ok _ hdata] at hr
    rw [← serverFinal] at hr
    generalize serverFinal acknowledged c.pending = data at hr ⊢
    by_cases hfinal : isServerFinal data = true
    · rw [if_pos hfinal] at hr
      cases hr
      exact ⟨rfl, rfl, hfinal, rfl, k', rfl, htrans⟩
    · rw [if_neg hfinal] at hr
      cases hr
  | reject =>
    simp only [settle, Act.run_bind_ok _ hdata] at hr
    split at hr
    · simp [outcomeCode, Desk.current, Act.run_bind, Run.after] at hr
    · cases hr
  | _ =>
    simp [settle, refuse, Desk.current, Act.run_bind, Run.after] at hr

/-- A session that ended with success: how it is left. -/
def succeeded (s : ScramRelay σ) (k : Link Client σ) : ScramRelay σ :=
  { s with
    link := some k
    stage := .done .success
    username := none
    authorizationId := s.username }

/-- The outcome, and what is made of it. -/
theorem settled [Wire σ] {d₁ : Desk κ (ScramRelay σ)} {u₁ u₂ : List Event}
    {acknowledged : Option Bytes} {effect : ScramEffect} {reply : Bytes}
    (h : Transcript id timeout k c fs output t none) (ready : c.Ready)
    (held : d.session.link = some k)
    (stage : d.session.stage = .evaluatingProof)
    (hreact : react.run d = ⟨.ok effect, d₁, u₁⟩)
    (hsettle : (settle acknowledged effect).run d₁ = ⟨.ok reply, d', u₂⟩) :
    ∃ data k' c' b', isServerFinal reply = true
      ∧ reply = serverFinal acknowledged data
      ∧ d'.session = succeeded d.session k'
      ∧ Transcript id timeout k' c' (fs ++ [.outcome .ok data]) output
          (t ++ (u₁ ++ u₂)) b' := by
  obtain ⟨r, k₁, stage₁, hawait, hadvance, rfl⟩ := react_inv hreact held
  obtain ⟨f, e, c₁, b₁, hbrings, hc, htrans⟩ := h.await ready hawait
  obtain ⟨rfl, rfl, hfinal, hreply, k₂, hsession, htrans₂⟩ :=
    settle_inv htrans rfl hsettle
  -- of the replies, only an outcome that passed leads on to success
  rw [stage] at hadvance
  cases hbrings with
  | challenge data => cases hadvance
  | failed code data hcode => cases hadvance
  | passed data =>
    cases hadvance
    have hpending : c₁.pending = data := by
      rw [hc]
      rfl
    rw [hpending] at hreply
    rw [List.append_nil]
    exact ⟨data, k₂, _, b₁, hfinal, hreply, hsession, htrans₂⟩

/-- What has been heard and said by the end of a session that succeeds,
once the proof is with the server: a server-final message at most, answered
with nothing, and the outcome. -/
theorem conclude_inv [Wire σ] {reply : Bytes}
    (h : Transcript id timeout k c fs output t none) (ready : c.Ready)
    (held : d.session.link = some k)
    (stage : d.session.stage = .evaluatingProof)
    (hr : conclude.run d = ⟨.ok reply, d', u⟩) :
    ∃ (early data : Option Bytes) (bytes : Bytes) (k' : Link Client σ)
        (c' : Client) (b' : Option Instant),
      isServerFinal reply = true ∧ reply = serverFinal early data
      ∧ (∀ f, early = some f → isServerFinal f = true)
      ∧ d'.session = succeeded d.session k'
      ∧ Utters (early.toList.map fun _ => .response []) bytes
      ∧ Transcript id timeout k' c'
          (fs ++ (early.toList.map .challenge ++ [.outcome .ok data]))
          (output ++ bytes) (t ++ u) b' := by
  obtain ⟨effect, d₁, u₁, u₂, hreact, hrest, rfl⟩ := Act.bind_ok hr
  -- a server-final message ahead of the outcome, or the outcome at once
  by_cases heffect : effect = .acknowledgeServerFinal
  · subst heffect
    obtain ⟨r, k₁, stage₁, hawait, hadvance, rfl⟩ := react_inv hreact held
    obtain ⟨f, e, c₁, b₁, hbrings, hc, htrans⟩ := h.await ready hawait
    rw [stage] at hadvance
    cases hbrings with
    | passed data => cases hadvance
    | failed code data hcode => cases hadvance
    | challenge ack =>
      cases hadvance
      have hpending : c₁.pending = some ack := by
        rw [hc]
        rfl
      obtain ⟨k₂, htake, htrans₂⟩ := htrans.takePending
      have hdata := run_replyData (d := ⟨d.opener, { d.session with
        link := some k₁, stage := .evaluatingProof }⟩) rfl htake
      rw [hpending, Option.getD_some] at hdata
      simp only [Act.run_bind_ok _ hdata] at hrest
      by_cases hfinal : isServerFinal ack = true
      · rw [if_pos hfinal] at hrest
        obtain ⟨_, d₂, v₁, v₂, hheld, hafter, rfl⟩ := Act.bind_ok hrest
        obtain ⟨k₃, hsend, rfl⟩ := Desk.onHeld_cases hheld rfl
        obtain ⟨-, bytes, hsized, htrans₃⟩ := htrans₂.sendResponse hsend
        obtain ⟨effect, d₃, w₁, w₂, hreact₂, hsettle, rfl⟩ :=
          Act.bind_ok hafter
        have hsettle₂ : (settle (some ack) effect).run d₃ =
            ⟨.ok reply, d', w₂⟩ := by
          cases effect with
          | acknowledgeServerFinal => cases hsettle
          | _ => exact hsettle
        have ready₃ : Client.Ready { c₁ with pending := none } := by
          rw [hc]
          exact ⟨ready.offered, ready.stepping, rfl⟩
        obtain ⟨data, k', c', b', hfin, hreply, hsession, htrans₄⟩ :=
          settled htrans₃ ready₃ rfl rfl hreact₂ hsettle₂
        refine ⟨some ack, data, bytes, k', c', b', hfin, hreply, ?_, hsession,
          .snoc .nil hsized, ?_⟩
        · intro f hf
          cases hf
          exact hfinal
        · simpa using htrans₄
      · rw [if_neg hfinal] at hrest
        cases hrest
  · have hsettle : (settle none effect).run d₁ = ⟨.ok reply, d', u₂⟩ := by
      cases effect with
      | acknowledgeServerFinal => exact absurd rfl heffect
      | _ => exact hrest
    obtain ⟨data, k', c', b', hfin, hreply, hsession, htrans⟩ :=
      settled h ready held stage hreact hsettle
    refine ⟨none, data, [], k', c', b', hfin, hreply, nofun, hsession, .nil,
      ?_⟩
    simpa using htrans

end Transcripts

-- =========================================================== two messages

/-- What has passed over the link of a session that waits for the proof: the
offer and one challenge, for the header and the client's first message. -/
def Opened (config : RemoteConfig) (mechanism : ScramMechanism)
    (message challenge : Bytes) (t : List Event) (k : Link Client σ) : Prop :=
  ∃ id names bytes u c b, mechanism.name ∈ names
    ∧ t = .connect config.host config.portNumber config.connectTimeout
        (.ok id) :: u
    ∧ Client.sized (.init mechanism.name (some message)
        (some config.effectiveHostname)) = .ok bytes
    ∧ c.Ready
    ∧ Transcript id config.negotiationTimeout k c
        [.mechanisms names, .challenge challenge]
        (Header.sasl.encode ++ bytes) u b

/-- The first message was answered only if it could be read, and a link was
opened for it that is ready for the proof. -/
theorem forwardClientFirst_inv [Connector κ σ] [Wire σ]
    {config : RemoteConfig} {message reply : Bytes}
    {d d' : Desk κ (ScramRelay σ)} {t : List Event}
    (stage : d.session.stage = .awaitingChallenge)
    (h : (forwardClientFirst config message).run d = ⟨.ok reply, d', t⟩) :
    ∃ clientFirst k, ClientFirst.parse message = .ok clientFirst
      ∧ Opened config d.session.mechanism message reply t k
      ∧ d'.session = { d.session with
          link := some k
          stage := .awaitingProof
          username := some clientFirst.username } := by
  obtain ⟨clientFirst, d₁, t₁, t₂, hparse, hrest, rfl⟩ := Act.bind_ok h
  have hclientFirst : ClientFirst.parse message = .ok clientFirst :=
    congrArg Run.result hparse
  cases congrArg Run.state hparse
  cases congrArg Run.events hparse
  have hcurrent : (Desk.current : Working κ (ScramRelay σ) _).run d =
      ⟨.ok d.session, d, []⟩ := rfl
  rw [Act.run_bind_ok _ hcurrent] at hrest
  obtain ⟨k, d₂, u₁, u₂, hboot, hlinked, rfl⟩ := Act.bind_ok hrest
  obtain ⟨opener, hlink, rfl⟩ := Desk.ofOpener_inv hboot
  obtain ⟨id, names, c, v, b, rfl, hmem, hc, htrans⟩ :=
    Link.bootstrap_transcript hlink
  have hhold : (Desk.hold slot k).run ⟨opener, d.session⟩ =
      (⟨.ok (), ⟨opener, { d.session with link := some k }⟩, []⟩ :
        Run Event (Desk κ (ScramRelay σ)) AuthError Unit) := rfl
  rw [Act.run_bind_ok _ hhold] at hlinked
  obtain ⟨_, d₃, v₁, v₂, hheld, hreply, rfl⟩ := Act.bind_ok hlinked
  obtain ⟨k₁, hinit, rfl⟩ := Desk.onHeld_cases hheld rfl
  obtain ⟨hoffered, bytes, hsized, htrans₁⟩ := htrans.sendInit hinit
  have ready : Client.Ready { c with progress := .step } := by
    refine ⟨hoffered, rfl, ?_⟩
    rw [hc]
    rfl
  obtain ⟨effect, d₄, w₁, w₂, hreact, hend, rfl⟩ := Act.bind_ok hreply
  -- the reply of the server decides what is made of it
  obtain ⟨r, k₂, stage₂, hawait, hadvance, rfl⟩ := react_inv hreact rfl
  obtain ⟨f, e, c₂, b₂, hbrings, hc₂, htrans₂⟩ := htrans₁.await ready hawait
  rw [show (slot.put (some k₁) { d.session with link := some k }).stage =
    .awaitingChallenge from stage] at hadvance
  cases hbrings with
  | passed data =>
    cases hadvance
    cases hend
  | failed code data hcode =>
    cases hadvance
    cases hend
  | challenge data =>
    cases hadvance
    obtain ⟨k₃, htake, htrans₃⟩ := htrans₂.takePending
    have hdata := run_replyData (d := ⟨opener, { d.session with
      link := some k₂
      stage := .awaitingProof
      username := some clientFirst.username }⟩) rfl htake
    have hend₃ : (⟨.ok (c₂.pending.getD []), ⟨opener, { d.session with
        link := some k₃
        stage := .awaitingProof
        username := some clientFirst.username }⟩, []⟩ :
          Run Event (Desk κ (ScramRelay σ)) AuthError Bytes) =
            ⟨.ok reply, d', w₂⟩ := by
      rw [← hdata]
      exact hend
    cases hend₃
    have hpending : c₂.pending.getD [] = data := by
      rw [hc₂]
      rfl
    have ready₃ : Client.Ready { c₂ with pending := none } := by
      rw [hc₂]
      exact ⟨ready.offered, ready.stepping, rfl⟩
    refine ⟨clientFirst, k₃, hclientFirst, ⟨id, names, bytes, _, _, b₂, hmem,
      rfl, hsized, ready₃, ?_⟩, rfl⟩
    rw [hpending]
    simpa using htrans₃

/-- How a message is answered, by the stage of the session that gets it. -/
theorem evaluate_cases [Connector κ σ] [Wire σ] {config : RemoteConfig}
    {message : Bytes} {d d' : Desk κ (ScramRelay σ)}
    {answer : Except AuthError Bytes} {t : List Event}
    (h : (evaluate config message).run d = ⟨answer, d', t⟩) :
    (d.session.stage.outcome.isSome = true ∧ answer = .error .notYetComplete
        ∧ d' = d ∧ t = [])
    ∨ (d.session.stage.outcome = none ∧ ∃ d₁ t₁,
        (dispatch config message).run d = ⟨answer, d₁, t₁⟩
        ∧ ((fallIf answer d₁.session).stage.outcome = none
            ∧ d'.session = fallIf answer d₁.session ∧ t = t₁
          ∨ ((fallIf answer d₁.session).stage.outcome.isSome = true
            ∧ d'.session = { fallIf answer d₁.session with link := none }
            ∧ t = t₁ ++ Link.farewell d₁.session.link))) := by
  have hcurrent : (Desk.current : Working κ (ScramRelay σ) _).run d =
      ⟨.ok d.session, d, []⟩ := rfl
  unfold evaluate at h
  rw [Act.run_bind_ok _ hcurrent] at h
  cases ho : d.session.stage.outcome with
  | some outcome =>
    simp only [ScramStage.isDone_eq, ho, Option.isSome_some, if_true] at h
    cases h
    exact .inl ⟨rfl, rfl, rfl, rfl⟩
  | none =>
    simp only [ScramStage.isDone_eq, ho, Option.isSome_none,
      Bool.false_eq_true, if_false] at h
    rcases hd : (dispatch config message).run d with ⟨result, d₁, t₁⟩
    have hattempt : ((dispatch config message).attempt :
        Working κ (ScramRelay σ) _).run d = ⟨.ok result, d₁, t₁⟩ := by
      simp [Act.attempt, hd]
    rw [Act.run_bind_ok _ hattempt] at h
    have hlink : (fallIf result d₁.session).link = d₁.session.link := by
      cases result <;> rfl
    cases hs : (fallIf result d₁.session).stage.outcome with
    | none =>
      simp only [Act.run_bind, Desk.change, Desk.current, Act.run_update, hs,
        Option.isSome_none, Bool.false_eq_true, if_false, Act.run_ofExcept,
        Run.after, List.nil_append, List.append_nil] at h
      cases h
      exact .inr ⟨rfl, d₁, _, rfl, .inl ⟨hs, rfl, rfl⟩⟩
    | some outcome =>
      simp only [Act.run_bind, Desk.change, Desk.current, Act.run_update, hs,
        Option.isSome_some, if_true, run_release, Act.run_ofExcept,
        Run.after, List.nil_append, List.append_nil, hlink] at h
      cases h
      exact .inr ⟨rfl, d₁, t₁, rfl, .inr ⟨by rw [hs]; rfl, rfl, rfl⟩⟩

end ScramRelay

-- ========================================================== one exchange

/-- What passed between a session and a server that accepted the client. -/
structure ScramExchange where
  socket : Nat
  offer : List String
  clientFirst : Bytes
  challenge : Bytes
  proof : Bytes
  /-- The server-final message, if it came as a challenge. -/
  early : Option Bytes
  /-- The data that came with the outcome. -/
  data : Option Bytes

namespace ScramExchange

/-- The frames of the server. -/
def heard (x : ScramExchange) : List Frame :=
  .mechanisms x.offer :: .challenge x.challenge ::
    (x.early.toList.map .challenge ++ [.outcome .ok x.data])

/-- The frames of the session: both messages of the client as they came,
and nothing in answer to a server-final message. -/
def said (x : ScramExchange) (config : RemoteConfig)
    (mechanism : ScramMechanism) : List Frame :=
  .init mechanism.name (some x.clientFirst)
      (some config.effectiveHostname) :: .response x.proof ::
    x.early.toList.map fun _ => .response []

/-- What the client is told in the end. -/
def verdict (x : ScramExchange) : Bytes := serverFinal x.early x.data

/-- A trace shows the exchange and nothing else: one connection, over which
the server offered the mechanism, and all of the exchange passed, without a
call that failed or came too late. The server's signature is there. -/
structure Shows (config : RemoteConfig) (mechanism : ScramMechanism)
    (t : List Event) (x : ScramExchange) : Prop where
  offered : mechanism.name ∈ x.offer
  announced : ∀ f, x.early = some f → isServerFinal f = true
  signed : isServerFinal x.verdict = true
  passed : ∃ output u, t = .connect config.host config.portNumber
        config.connectTimeout (.ok x.socket) :: u
    ∧ Utters (x.said config mechanism) output
    ∧ Conversation x.socket config.negotiationTimeout x.heard
        (Header.sasl.encode ++ output) u

end ScramExchange

namespace ScramRelay

variable {κ σ : Type}

/-- The proof, passed on over a link that waits for it. -/
theorem forwardProof_inv [Wire σ] {config : RemoteConfig}
    {mechanism : ScramMechanism} {clientFirst challenge proof reply : Bytes}
    {t u : List Event} {k : Link Client σ} {d d' : Desk κ (ScramRelay σ)}
    (opened : Opened config mechanism clientFirst challenge t k)
    (held : d.session.link = some k)
    (stage : d.session.stage = .evaluatingProof)
    (h : (forwardProof proof).run d = ⟨.ok reply, d', u⟩) :
    ∃ x k', x.clientFirst = clientFirst ∧ x.challenge = challenge
      ∧ x.proof = proof ∧ x.verdict = reply
      ∧ d'.session = succeeded d.session k'
      ∧ ScramExchange.Shows config mechanism
          (t ++ (u ++ Link.farewell (some k'))) x := by
  obtain ⟨id, names, bytes, v, c, b, hmem, rfl, hsized, ready, htrans⟩ :=
    opened
  obtain ⟨_, d₁, u₁, u₂, hheld, hend, rfl⟩ := Act.bind_ok h
  obtain ⟨k₁, hsend, rfl⟩ := Desk.onHeld_cases hheld held
  obtain ⟨-, bytes₁, hsized₁, htrans₁⟩ := htrans.sendResponse hsend
  have ready₁ : Client.Ready { c with pending := none } :=
    ⟨ready.offered, ready.stepping, rfl⟩
  obtain ⟨early, data, bytes₂, k', c', b', hfinal, hreply, hearly, hsession,
    hutters, htrans₂⟩ := conclude_inv
      (d := ⟨d.opener, slot.put (some k₁) d.session⟩) htrans₁ ready₁ rfl stage
      hend
  have hsigned : isServerFinal (serverFinal early data) = true := by
    rw [← hreply]
    exact hfinal
  refine ⟨⟨id, names, clientFirst, challenge, proof, early, data⟩, k', rfl,
    rfl, rfl, hreply.symm, hsession, hmem, hearly, hsigned,
    bytes ++ (bytes₁ ++ bytes₂), v ++ (u₁ ++ u₂ ++ Link.farewell (some k')),
    rfl, .cons hsized (.cons hsized₁ hutters), ?_⟩
  have hclose := htrans₂.close (by simp)
  simpa [ScramExchange.heard, Link.farewell] using hclose

-- ========================================================= whole sessions

/-- Where a session stands between two calls: it is fresh, it waits for the
proof, the server has accepted the client, or all is over without success.
The link of a waiting session may have been disposed of. -/
inductive Stands (config : RemoteConfig) (mechanism : ScramMechanism) :
    List (Bytes × Except AuthError Bytes) → List Event → ScramRelay σ → Prop
  | fresh : Stands config mechanism [] [] (.fresh mechanism)
  | waiting {message challenge : Bytes} {t : List Event}
      {link : Option (Link Client σ)} {clientFirst : ClientFirst}
      (parsed : ClientFirst.parse message = .ok clientFirst)
      (opened : ∀ k, link = some k →
        Opened config mechanism message challenge t k) :
      Stands config mechanism [(message, .ok challenge)] t
        ⟨mechanism, link, .awaitingProof, some clientFirst.username, none⟩
  | accepted {x : ScramExchange} {t : List Event} {clientFirst : ClientFirst}
      {later : List (Bytes × Except AuthError Bytes)}
      (parsed : ClientFirst.parse x.clientFirst = .ok clientFirst)
      (shows : x.Shows config mechanism t)
      (late : ∀ e ∈ later, e.2 = .error .notYetComplete) :
      Stands config mechanism
        ((x.clientFirst, .ok x.challenge) :: (x.proof, .ok x.verdict)
          :: later) t
        ⟨mechanism, none, .done .success, none, some clientFirst.username⟩
  | lost {es : List (Bytes × Except AuthError Bytes)} {t : List Event}
      {relay : ScramRelay σ} (failed : relay.stage = .done .failure) :
      Stands config mechanism es t relay

section Sessions

variable {δ γ : Type} [Connector κ σ] [Wire σ] [DirectoryService δ γ]
  [DirectoryConnection γ] {config : RemoteConfig}
  {mechanism : ScramMechanism} {t : List Event}

/-- A message that fails ends the session. -/
theorem Stands.failed {es : List (Bytes × Except AuthError Bytes)}
    {u : List Event} {d d' : Desk κ (ScramRelay σ)} {message : Bytes}
    {e : AuthError}
    (h : (evaluate config message).run d = ⟨.error e, d', u⟩)
    (unfinished : d.session.stage.outcome = none) :
    Stands config mechanism es t d'.session := by
  rcases evaluate_cases h with ⟨hdone, -⟩
    | ⟨-, d₁, t₁, -, ⟨hgoes, -⟩ | ⟨-, hsession, -⟩⟩
  · rw [unfinished] at hdone
    cases hdone
  · cases hgoes
  · rw [hsession]
    exact .lost rfl

/-- The answer to the client's first message. -/
theorem Stands.first {message : Bytes} {answer : Except AuthError Bytes}
    {u : List Event} {opener : κ} {d' : Desk κ (ScramRelay σ)}
    (h : (evaluate config message).run ⟨opener, .fresh mechanism⟩ =
      ⟨answer, d', u⟩) :
    Stands config mechanism [(message, answer)] u d'.session := by
  cases answer with
  | error e => exact .failed h rfl
  | ok reply =>
    rcases evaluate_cases h with ⟨hdone, -⟩
      | ⟨-, d₁, t₁, hdispatch, hend⟩
    · cases hdone
    · obtain ⟨effect, d₂, v₁, v₂, hadvance, hrest, rfl⟩ :=
        Act.bind_ok hdispatch
      obtain ⟨stage, hstage, rfl, rfl⟩ := advance_inv hadvance
      cases hstage
      obtain ⟨clientFirst, k, hparse, hopened, hsession⟩ :=
        forwardClientFirst_inv rfl hrest
      rw [fallIf, hsession] at hend
      rcases hend with ⟨-, hsession', rfl⟩ | ⟨hdone, -⟩
      · rw [hsession']
        refine .waiting hparse fun k' hk' => ?_
        cases hk'
        exact hopened
      · cases hdone

/-- The answer to the proof. -/
theorem Stands.second {message challenge proof : Bytes}
    {answer : Except AuthError Bytes} {u : List Event} {opener : κ}
    {link : Option (Link Client σ)} {clientFirst : ClientFirst}
    {d' : Desk κ (ScramRelay σ)}
    (parsed : ClientFirst.parse message = .ok clientFirst)
    (opened : ∀ k, link = some k →
      Opened config mechanism message challenge t k)
    (h : (evaluate config proof).run ⟨opener, ⟨mechanism, link,
      .awaitingProof, some clientFirst.username, none⟩⟩ = ⟨answer, d', u⟩) :
    Stands config mechanism [(message, .ok challenge), (proof, answer)]
      (t ++ u) d'.session := by
  cases answer with
  | error e => exact .failed h rfl
  | ok reply =>
    rcases evaluate_cases h with ⟨hdone, -⟩
      | ⟨-, d₁, t₁, hdispatch, hend⟩
    · cases hdone
    · obtain ⟨effect, d₂, v₁, v₂, hadvance, hrest, rfl⟩ :=
        Act.bind_ok hdispatch
      obtain ⟨stage, hstage, rfl, rfl⟩ := advance_inv hadvance
      cases hstage
      -- a link that was disposed of meanwhile cannot carry the proof
      cases hlink : link with
      | none =>
        obtain ⟨_, _, _, _, hheld, -, -⟩ := Act.bind_ok hrest
        obtain ⟨k, hk⟩ := Desk.held_of_ok hheld
        rw [show slot.get _ = link from rfl, hlink] at hk
        cases hk
      | some k =>
        obtain ⟨x, k', rfl, rfl, rfl, rfl, hsession, hshows⟩ :=
          forwardProof_inv (opened k hlink) hlink rfl hrest
        rw [fallIf, hsession] at hend
        rcases hend with ⟨hgoes, -⟩ | ⟨-, hsession', rfl⟩
        · cases hgoes
        · rw [hsession']
          exact .accepted parsed hshows nofun

/-- One call leaves a session in good standing. -/
theorem Stands.served {es : List (Bytes × Except AuthError Bytes)}
    {u : List Event} {relay : ScramRelay σ} {c : HostCall}
    {s : Session σ γ} (h : Stands config mechanism es t relay)
    (hs : Served κ δ (.scram config relay) c u s) :
    ∃ relay', s = .scram config relay'
      ∧ Stands config mechanism (es ++ c.evaluated?.toList) (t ++ u)
          relay' := by
  rcases hs.scram with ⟨message, opener, r, hr, hc, rfl, rfl⟩
    | ⟨opener, r, hr, hc, rfl, rfl⟩ | ⟨hc, rfl, rfl⟩
  · refine ⟨_, rfl, ?_⟩
    rw [hc]
    obtain ⟨answer, d', v⟩ := r
    cases h with
    | fresh => exact .first hr.symm
    | waiting parsed opened => exact .second parsed opened hr.symm
    | accepted parsed shows late =>
      rcases evaluate_cases hr.symm with ⟨-, rfl, rfl, rfl⟩ | ⟨hnone, -⟩
      · rw [List.append_nil]
        -- a late message is turned away, and joins those that were
        refine .accepted parsed shows fun e he => ?_
        rcases List.mem_append.1 he with hmem | hmem
        · exact late e hmem
        · cases List.mem_singleton.1 hmem
          rfl
      · cases hnone
    | lost failed =>
      rcases evaluate_cases hr.symm with ⟨-, rfl, rfl, rfl⟩ | ⟨hnone, -⟩
      · exact .lost failed
      · rw [failed] at hnone
        cases hnone
  · refine ⟨_, rfl, ?_⟩
    rw [hc, hr, run_release, Option.toList_none, List.append_nil]
    cases h with
    | fresh => exact .fresh
    | waiting parsed opened =>
      refine .waiting parsed fun k' hk' => ?_
      cases hk'
    | accepted parsed shows late =>
      simp only [Link.farewell, List.append_nil]
      exact .accepted parsed shows late
    | lost failed => exact .lost failed
  · refine ⟨relay, rfl, ?_⟩
    rw [hc]
    simpa using h

/-- Every session that began afresh stands somewhere. -/
theorem stands_of_course {calls : List HostCall} {s : Session σ γ}
    (course : Course κ δ (.scram config (.fresh mechanism)) calls t s) :
    ∃ relay, s = .scram config relay
      ∧ Stands config mechanism (evaluations calls) t relay := by
  induction course with
  | start => exact ⟨.fresh mechanism, rfl, .fresh⟩
  | @call calls t u s s' c before served ih =>
    obtain ⟨relay, rfl, hstands⟩ := ih
    obtain ⟨relay', hs', hstands'⟩ := hstands.served served
    refine ⟨relay', hs', ?_⟩
    rw [evaluations_append, evaluations_singleton]
    exact hstands'

/-- Whatever a host asks of a session and whatever its peers do: a session
that succeeds has relayed one exchange with a server that accepted the
client, and it has taken the client for the user of the first message. -/
theorem authentication_sound {calls : List HostCall} {s : Session σ γ}
    (course : Course κ δ (.scram config (.fresh mechanism)) calls t s)
    (success : s.outcome = some .success) :
    ∃ x clientFirst later,
      evaluations calls = (x.clientFirst, .ok x.challenge) ::
        (x.proof, .ok x.verdict) :: later
      ∧ (∀ e ∈ later, e.2 = .error .notYetComplete)
      ∧ ClientFirst.parse x.clientFirst = .ok clientFirst
      ∧ s.authorizationId = .ok clientFirst.username
      ∧ ScramExchange.Shows config mechanism t x := by
  obtain ⟨relay, rfl, hstands⟩ := stands_of_course course
  generalize evaluations calls = es at hstands ⊢
  cases hstands with
  | fresh => cases success
  | waiting parsed opened => cases success
  | lost failed =>
    have hfailure : (Session.scram config relay : Session σ γ).outcome =
        some .failure := congrArg ScramStage.outcome failed
    rw [hfailure] at success
    cases success
  | accepted parsed shows late =>
    exact ⟨_, _, _, rfl, late, parsed, rfl, shows⟩

end Sessions

end ScramRelay

-- ============================================================= a rehearsal

namespace Rehearsal

open ScramRelay

/-- The first message of the user `u`, with the nonce `x`. -/
def scramMessage : Bytes := [110, 44, 44, 110, 61, 117, 44, 114, 61, 120]

/-- A session, and a server that answers the proof `[2]` with frames, each in
a read of its own. -/
def scramDesk (answer : List Frame) : Desk (World Remote Directory) Actor :=
  ⟨worldOf (.ok (Header.sasl.encode ++
        frames [.mechanisms [ScramMechanism.sha256.name]]) ::
      .ok (frames [.challenge [1]]) ::
        answer.map fun f => .ok (frames [f])),
    .scram { host := "broker" } (.fresh .sha256)⟩

/-- What comes of the first message. -/
def scramFirst (answer : List Frame) :
    Run Event (Desk (World Remote Directory) Actor) AuthError Bytes :=
  (Session.evaluate scramMessage).run (scramDesk answer)

/-- What comes of the proof. -/
def scramSecond (answer : List Frame) :
    Run Event (Desk (World Remote Directory) Actor) AuthError Bytes :=
  (Session.evaluate [2]).run (scramFirst answer).state

/-- The first message, as a course. -/
theorem scramOpening (answer : List Frame) :
    Course Remote Directory (.scram { host := "broker" } (.fresh .sha256))
      [.evaluate scramMessage (scramFirst answer).result]
      (scramFirst answer).events (scramFirst answer).state.session :=
  .call .start (.evaluate scramMessage (scramDesk answer))

/-- Both messages, as a course. -/
theorem scramCourse (answer : List Frame) :
    Course Remote Directory (.scram { host := "broker" } (.fresh .sha256))
      [.evaluate scramMessage (scramFirst answer).result,
        .evaluate [2] (scramSecond answer).result]
      ((scramFirst answer).events ++ (scramSecond answer).events)
      (scramSecond answer).state.session :=
  .call (scramOpening answer) (.evaluate [2] (scramFirst answer).state)

/-- The server-final message `v=` as a challenge, and then an outcome without
data. -/
def verifierThen (code : SaslCode) : List Frame :=
  [.challenge [118, 61], .outcome code none]

/-- The rehearsal is a sound authentication. -/
theorem authentication_sound_rehearsal :
    (scramSecond (verifierThen .ok)).state.session.outcome = some .success
    ∧ ∃ x clientFirst later,
      evaluations [.evaluate scramMessage (scramFirst (verifierThen .ok)).result,
          .evaluate [2] (scramSecond (verifierThen .ok)).result] =
        (x.clientFirst, .ok x.challenge) :: (x.proof, .ok x.verdict) :: later
      ∧ (∀ e ∈ later, e.2 = .error .notYetComplete)
      ∧ ClientFirst.parse x.clientFirst = .ok clientFirst
      ∧ (scramSecond (verifierThen .ok)).state.session.authorizationId =
        .ok clientFirst.username
      ∧ ScramExchange.Shows { host := "broker" } .sha256
          ((scramFirst (verifierThen .ok)).events
            ++ (scramSecond (verifierThen .ok)).events) x := by
  have success : (scramSecond (verifierThen .ok)).state.session.outcome =
      some .success := by
    decide +kernel
  exact ⟨success, authentication_sound (scramCourse (verifierThen .ok)) success⟩

end Rehearsal

end SaslGate
