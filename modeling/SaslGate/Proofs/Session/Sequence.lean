/-
A relayed SCRAM exchange never comes out of step, whatever the peers do. The
stages are a table (`ScramStage.advance`) that refuses what comes at the
wrong time; that nothing ever does is a matter of who asks it. A session asks
after a message only where one is due, and after a reply only once it has
heard one (`Reply.avoids_await`), and at the two stages in which it waits for
the server, any reply is in turn (`ends_react`).

Between two calls a session is at its beginning, waits for the proof, or is
done (`Poised`), because every failure ends it.
-/
import SaslGate.Proofs.Ends
import SaslGate.Proofs.Session.Scram

namespace SaslGate

open Act (Ends)

/-- The errors of an exchange that is out of step: something that came at the
wrong stage, and a reply that is missing. -/
inductive AuthError.OutOfTurn : AuthError → Prop
  | stage (name : String) : OutOfTurn (.illegalSequencing name)
  | unreplied :
      OutOfTurn (.protocolViolation (.illegalState "upstream has not replied"))

theorem AuthError.OutOfTurn.ofSession {e : AuthError} (h : e.OutOfTurn) :
    e.OfSession := by
  cases h with
  | stage name => exact .outOfTurn name
  | unreplied => exact .unreplied

/-- An action that avoids the errors of a session is not out of step. -/
theorem AuthError.inTurn_of_avoids {ς : Type} {x : Act τ ς AuthError α}
    {s s' : ς} {e : AuthError} {t : List τ}
    (h : ∀ e : AuthError, e.OfSession → x.Avoids e)
    (hr : x.run s = ⟨.error e, s', t⟩) : ¬ e.OutOfTurn := by
  intro he
  refine h e he.ofSession s ?_
  rw [hr]

-- =========================================================== bad messages

/-- A check of a client's message complains of that message, if of
anything. -/
def Complains (r : Except AuthError α) : Prop :=
  ∀ e, r = .error e → e.kind = .clientInput

/-- Checks in a row complain of the message, if of anything. -/
theorem Complains.bind {r : Except AuthError α} {f : α → Except AuthError β}
    (h : Complains r) (hf : ∀ a, Complains (f a)) : Complains (r >>= f) := by
  intro e he
  cases r with
  | error d => exact h e (congrArg Except.error (Except.error.inj he))
  | ok a => exact hf a e he

theorem complains_ok (a : α) : Complains (.ok a : Except AuthError α) := nofun

theorem complains_error {e : AuthError} (h : e.kind = .clientInput) :
    Complains (.error e : Except AuthError α) := by
  intro d hd
  cases hd
  exact h

namespace ClientFirst

theorem complains_decodeName (name : List Char) :
    Complains (decodeName name) := by
  unfold decodeName malformed
  split
  · exact complains_ok _
  · exact complains_error rfl

/-- The fields are checked one by one, and the comparison of the names at the
end is about the message too. -/
theorem complains_readFields (flag : List Char) (id : Option String)
    (fields : List (List Char)) : Complains (readFields flag id fields) := by
  have husername : Complains (readUsername (fields.headD [])) := by
    unfold readUsername malformed
    split
    · exact complains_error rfl
    · split
      · exact complains_error rfl
      · split
        · exact complains_error rfl
        · exact (complains_decodeName _).bind fun _ => complains_ok _
  have hnonce : Complains (readNonce ((fields.drop 1).headD [])) := by
    unfold readNonce malformed
    split
    · split
      · exact complains_ok _
      · exact complains_error rfl
    · exact complains_error rfl
  refine husername.bind fun user => hnonce.bind fun nonce => ?_
  split
  · exact (complains_error rfl).bind fun _ => complains_ok _
  · exact complains_ok _

/-- A client-first message that is refused is to blame for it. -/
theorem complains_parse (message : Bytes) : Complains (parse message) := by
  unfold parse malformed
  split
  · exact complains_error rfl
  · split
    · exact complains_error rfl
    · refine Complains.bind ?_ fun _ => ?_
      · unfold checkFlag malformed
        split
        · exact complains_ok _
        · split <;> exact complains_error rfl
      · split
        · exact complains_error rfl
        · refine Complains.bind ?_ fun id => complains_readFields _ id _
          unfold readAuthorizationId malformed
          split
          · exact complains_ok _
          · split
            · exact complains_error rfl
            · refine (complains_decodeName _).bind fun id => ?_
              split <;> exact complains_ok _

end ClientFirst

namespace ScramRelay

variable {κ σ : Type} {d : Desk κ (ScramRelay σ)} {t : List Event}

-- ======================================================== single actions

/-- An action of the link changes the link alone. -/
theorem ends_onHeld_link {x : Linked Client σ α}
    (h : ∀ e : AuthError, e.OfSession → x.Avoids e) :
    Ends t (Desk.onHeld slot x) d
      (fun _ d' _ => ∃ link, d'.session = { d.session with link })
      fun e _ _ => ¬ e.OutOfTurn := by
  cases held : d.session.link with
  | none => exact Desk.ends_onHeld_none held nofun
  | some k =>
    refine Desk.ends_onHeld held ?_
    rcases hr : x.run k with ⟨r, k', u⟩
    refine .of_run hr ?_ ?_
    · rintro a rfl
      exact ⟨some k', rfl⟩
    · rintro e rfl
      exact AuthError.inTurn_of_avoids h hr

/-- Taking the data of a reply touches the link only. It cannot fail once a
link is held, and without one the error is that the link is closed. -/
theorem ends_replyData [Wire σ] :
    Ends t replyData d
      (fun _ d' _ => ∃ link, d'.session = { d.session with link })
      fun e _ _ => ¬ e.OutOfTurn := by
  refine (ends_onHeld_link fun e _ => Link.avoids_takePending).andThen ?_
  · intro _ d' _ hlink
    exact .pure hlink

/-- At a stage at which any reply is in turn, a reply moves the exchange on. -/
theorem ends_react [Wire σ]
    (due : ∀ reply, ∃ next, d.session.stage.advance (.reply reply) = .ok next) :
    Ends t react d
      (fun effect d' _ => ∃ reply link stage,
        d.session.stage.advance (.reply reply) = .ok (stage, effect)
        ∧ d'.session = { d.session with link, stage })
      fun e _ _ => ¬ e.OutOfTurn := by
  refine (ends_onHeld_link fun e he => Reply.avoids_await he).andThen ?_
  rintro reply d' t' ⟨link, hsession⟩
  obtain ⟨⟨stage, effect⟩, hmoves⟩ := due reply
  have hstage : d'.session.stage.advance (.reply reply) =
      .ok (stage, effect) := by
    rw [hsession]
    exact hmoves
  refine .of_run_ok (run_advance hstage) ?_
  exact ⟨reply, link, stage, hmoves, by rw [hsession]⟩

-- ======================================================= the first message

/-- The first message leaves the session waiting for the proof of a user. -/
theorem ends_forwardClientFirst [Connector κ σ] [Wire σ]
    {config : RemoteConfig} {message : Bytes}
    (stage : d.session.stage = .awaitingChallenge) :
    Ends t (forwardClientFirst config message) d
      (fun _ d' _ => d'.session.stage = .awaitingProof
        ∧ ∃ name, d'.session.username = some name)
      fun e _ _ => ¬ e.OutOfTurn := by
  refine .bind (.ofExcept ?_ ?_)
  · intro clientFirst _
    refine Desk.ends_current_bind (.bind (Desk.ends_ofOpener ?_))
    rcases hboot : (Link.bootstrap Client.fresh config
      d.session.mechanism.name).run d.opener with ⟨r, opener, u⟩
    refine .of_run hboot ?_ ?_
    · rintro link rfl
      refine .bind (.update ((ends_onHeld_link fun e he =>
        Link.avoids_send he (.sendInit _ _ message)).andThen ?_))
      rintro _ d₁ t₁ ⟨link₁, hsession₁⟩
      have hstage₁ : d₁.session.stage = .awaitingChallenge := by
        rw [hsession₁]
        exact stage
      refine (ends_react ?_).andThen ?_
      · intro reply
        rw [hstage₁]
        cases reply <;> exact ⟨_, rfl⟩
      · rintro effect d₂ t₂ ⟨reply, link₂, stage₂, hmoves, hsession₂⟩
        rw [hstage₁] at hmoves
        -- only a challenge leads on; an outcome this early is an error, but
        -- none of turn
        cases reply with
        | challenge =>
          cases hmoves
          refine .bind (.update (ends_replyData.imp_ok ?_))
          rintro _ d₃ t₃ ⟨link₃, hsession₃⟩
          rw [hsession₃, hsession₂]
          exact ⟨rfl, _, rfl⟩
        | passed =>
          cases hmoves
          exact .fails nofun
        | failed =>
          cases hmoves
          exact .fails nofun
    · rintro e rfl
      exact AuthError.inTurn_of_avoids
        (fun e he => Link.avoids_bootstrap he config _) hboot
  · rintro e he hturn
    have hkind := ClientFirst.complains_parse message e he
    cases hturn <;> cases hkind

-- ============================================================== the proof

/-- The outcome: only one of the two can end the exchange well. -/
theorem ends_settle [Wire σ] {acknowledged : Option Bytes}
    {effect : ScramEffect}
    (outcome : effect = .returnServerFinal ∨ effect = .reject) :
    Ends t (settle acknowledged effect) d
      (fun _ d' _ => effect = .returnServerFinal
        ∧ d'.session.stage = d.session.stage)
      fun e _ _ => ¬ e.OutOfTurn := by
  rcases outcome with rfl | rfl
  · refine ends_replyData.andThen ?_
    rintro data d₁ t₁ ⟨link, hsession⟩
    dsimp only
    generalize (if data = [] then acknowledged.getD [] else data) = final
    split
    · refine .bind (.update (.pure ⟨rfl, ?_⟩))
      show d₁.session.stage = d.session.stage
      rw [hsession]
    · exact .fails nofun
  · refine ends_replyData.andThen ?_
    rintro data d₁ t₁ -
    split
    · refine .bind (Desk.ends_current_bind (.pure ?_))
      exact .fails nofun
    · exact .fails nofun

/-- Whoever waits for the outcome gets it, or a challenge. -/
theorem advance_evaluatingProof {reply : Reply} {stage : ScramStage}
    {effect : ScramEffect}
    (h : ScramStage.evaluatingProof.advance (.reply reply) =
      .ok (stage, effect)) :
    (effect = .acknowledgeServerFinal ∧ stage = .evaluatingProof)
    ∨ (effect = .returnServerFinal ∧ stage = .done .success)
    ∨ (effect = .reject ∧ stage = .done .failure) := by
  cases reply <;> cases h
  · exact .inl ⟨rfl, rfl⟩
  · exact .inr (.inl ⟨rfl, rfl⟩)
  · exact .inr (.inr ⟨rfl, rfl⟩)

/-- Once the proof is with the server, every reply is in turn. -/
theorem due_evaluatingProof (reply : Reply) :
    ∃ next, ScramStage.evaluatingProof.advance (.reply reply) = .ok next := by
  cases reply <;> exact ⟨_, rfl⟩

/-- Behind a server-final message only the outcome is in turn, and a second
challenge is the server's fault. -/
theorem ends_concludeAfter [Wire σ] {serverFinal : Bytes}
    (stage : d.session.stage = .evaluatingProof) :
    Ends t (concludeAfter serverFinal) d
      (fun _ d' _ => d'.session.stage = .done .success)
      fun e _ _ => ¬ e.OutOfTurn := by
  refine (ends_react (stage ▸ due_evaluatingProof)).andThen ?_
  rintro effect d₁ t₁ ⟨reply, link, stage₁, hmoves, hsession⟩
  rw [stage] at hmoves
  rcases advance_evaluatingProof hmoves with ⟨rfl, -⟩ | ⟨rfl, rfl⟩ | ⟨rfl, rfl⟩
  · exact .fails nofun
  · refine (ends_settle (.inl rfl)).imp_ok ?_
    rintro _ d₂ _ ⟨-, hstage⟩
    rw [hstage, hsession]
  · refine (ends_settle (.inr rfl)).imp_ok ?_
    rintro _ _ _ ⟨h, -⟩
    cases h

/-- The outcome comes at once or behind one server-final message, and every
reply in between is in turn. -/
theorem ends_conclude [Wire σ] (stage : d.session.stage = .evaluatingProof) :
    Ends t conclude d (fun _ d' _ => d'.session.stage = .done .success)
      fun e _ _ => ¬ e.OutOfTurn := by
  refine (ends_react (stage ▸ due_evaluatingProof)).andThen ?_
  rintro effect d₁ t₁ ⟨reply, link, stage₁, hmoves, hsession⟩
  rw [stage] at hmoves
  rcases advance_evaluatingProof hmoves with ⟨rfl, rfl⟩ | ⟨rfl, rfl⟩
    | ⟨rfl, rfl⟩
  · refine ends_replyData.andThen ?_
    rintro data d₂ t₂ ⟨link₂, hsession₂⟩
    split
    · refine (ends_onHeld_link fun e he =>
        Link.avoids_send he (.sendResponse [])).andThen ?_
      rintro _ d₃ t₃ ⟨link₃, hsession₃⟩
      refine ends_concludeAfter ?_
      rw [hsession₃, hsession₂, hsession]
    · exact .fails nofun
  · refine (ends_settle (.inl rfl)).imp_ok ?_
    rintro _ d₂ _ ⟨-, hstage⟩
    rw [hstage, hsession]
  · refine (ends_settle (.inr rfl)).imp_ok ?_
    rintro _ _ _ ⟨h, -⟩
    cases h

-- ============================================================ one message

/-- A message that is due moves the session on to the next stage at which a
host may find it, and no other message gets that far. -/
theorem ends_dispatch [Connector κ σ] [Wire σ] {config : RemoteConfig}
    {message : Bytes} (due : d.session.stage = .initial
      ∨ d.session.stage = .awaitingProof) :
    Ends t (dispatch config message) d
      (fun _ d' _ => (d.session.stage = .initial
          ∧ d'.session.stage = .awaitingProof
          ∧ ∃ name, d'.session.username = some name)
        ∨ (d.session.stage = .awaitingProof
          ∧ d'.session.stage = .done .success))
      fun e _ _ => ¬ e.OutOfTurn := by
  rcases due with hstage | hstage
  · have hmoves : d.session.stage.advance .clientMessage =
        .ok (.awaitingChallenge, .forwardClientFirst) := by
      rw [hstage]
      rfl
    refine .bind (.of_run (run_advance hmoves) ?_ nofun)
    rintro _ ⟨⟩
    exact (ends_forwardClientFirst rfl).imp
      (fun _ _ _ h => .inl ⟨hstage, h⟩) fun _ _ _ h => h
  · have hmoves : d.session.stage.advance .clientMessage =
        .ok (.evaluatingProof, .forwardProof) := by
      rw [hstage]
      rfl
    refine .bind (.of_run (run_advance hmoves) ?_ nofun)
    rintro _ ⟨⟩
    refine (ends_onHeld_link fun e he =>
      Link.avoids_send he (.sendResponse message)).andThen ?_
    rintro _ d₁ t₁ ⟨link, hsession⟩
    refine (ends_conclude ?_).imp (fun _ _ _ h => .inr ⟨hstage, h⟩)
      fun _ _ _ h => h
    rw [hsession]

/-- Where a session stands between two calls: at its beginning, or waiting
for the proof of a user, or done. The number counts the messages that have
been answered. -/
inductive Poised : Nat → ScramRelay σ → Prop
  | initial {relay : ScramRelay σ} (stage : relay.stage = .initial) :
      Poised 0 relay
  | waiting {relay : ScramRelay σ} {name : String}
      (stage : relay.stage = .awaitingProof)
      (user : relay.username = some name) : Poised 1 relay
  | done {n : Nat} {relay : ScramRelay σ} {outcome : Outcome}
      (stage : relay.stage = .done outcome) (few : n ≤ 2) : Poised n relay

/-- How a message leaves a session. -/
theorem Poised.evaluated [Connector κ σ] [Wire σ] {config : RemoteConfig}
    {message : Bytes} {n : Nat} {answer : Except AuthError Bytes}
    {d' : Desk κ (ScramRelay σ)} (h : Poised n d.session)
    (hr : (evaluate config message).run d = ⟨answer, d', t⟩) :
    Poised (n + if answer.isOk then 1 else 0) d'.session
      ∧ ∀ e, answer = .error e → ¬ e.OutOfTurn := by
  rcases evaluate_cases hr with ⟨-, rfl, rfl, rfl⟩
    | ⟨hopen, d₁, t₁, hdispatch, hend⟩
  · refine ⟨h, ?_⟩
    intro e he
    cases he
    intro hout
    cases hout
  -- an open session is where a message is due
  have due : d.session.stage = .initial ∨ d.session.stage = .awaitingProof := by
    cases h with
    | initial stage => exact .inl stage
    | waiting stage user => exact .inr stage
    | done stage few =>
      rw [stage] at hopen
      cases hopen
  have hspec : Ends [] (dispatch config message) d _ _ := ends_dispatch due
  cases answer with
  | error e =>
    -- whatever failed, the session is over and its count stands
    have hsession : d'.session.stage = .done .failure := by
      rcases hend with ⟨hgoes, -⟩ | ⟨-, hsession, -⟩
      · cases hgoes
      · rw [hsession]
        rfl
    refine ⟨.done hsession ?_, ?_⟩
    · cases h <;> simp [Except.isOk, Except.toBool]
      assumption
    · rintro _ ⟨⟩
      exact hspec.of_error hdispatch
  | ok reply =>
    rcases hspec.of_ok hdispatch with ⟨hstage, hstage₁, name, hname⟩
      | ⟨hstage, hstage₁⟩
    · have hsession : d'.session = d₁.session := by
        rcases hend with ⟨-, hsession, -⟩ | ⟨hdone, -⟩
        · exact hsession
        · rw [fallIf, hstage₁] at hdone
          cases hdone
      refine ⟨?_, by simp⟩
      cases h with
      | initial _ => exact .waiting (hsession ▸ hstage₁) (hsession ▸ hname)
      | waiting stage user =>
        rw [stage] at hstage
        cases hstage
      | done stage few =>
        rw [stage] at hstage
        cases hstage
    · have hsession : d'.session.stage = .done .success := by
        rcases hend with ⟨hgoes, -⟩ | ⟨-, hsession, -⟩
        · rw [fallIf, hstage₁] at hgoes
          cases hgoes
        · rw [hsession]
          exact hstage₁
      refine ⟨.done hsession ?_, by simp⟩
      cases h with
      | initial stage =>
        rw [stage] at hstage
        cases hstage
      | waiting stage user => exact Nat.le_refl 2
      | done stage few =>
        rw [stage] at hstage
        cases hstage

-- ========================================================= whole sessions

section Sessions

variable {δ γ : Type} [Connector κ σ] [Wire σ] [DirectoryService δ γ]
  [DirectoryConnection γ] {config : RemoteConfig}
  {mechanism : ScramMechanism} {u : List Event} {s : Session σ γ}

/-- The number of messages among calls that were answered. -/
def answered (calls : List HostCall) : Nat :=
  (evaluations calls).countP fun e => e.2.isOk

/-- One call leaves a session where the next call may find it. -/
theorem Poised.served {n : Nat} {relay : ScramRelay σ} {c : HostCall}
    (h : Poised n relay) (hs : Served κ δ (.scram config relay) c u s) :
    ∃ relay', s = .scram config relay'
      ∧ Poised (n + answered [c]) relay'
      ∧ ∀ message e, c.evaluated? = some (message, .error e) →
        ¬ e.OutOfTurn := by
  rcases hs.scram with ⟨message, opener, r, hr, hc, rfl, rfl⟩
    | ⟨opener, r, hr, hc, rfl, rfl⟩ | ⟨hc, rfl, rfl⟩
  · obtain ⟨answer, d', v⟩ := r
    obtain ⟨hpoised, hturn⟩ := h.evaluated hr.symm
    refine ⟨_, rfl, ?_, ?_⟩
    · rw [answered, evaluations_singleton, hc]
      simpa using hpoised
    · intro message' e he
      rw [hc] at he
      cases he
      exact hturn e rfl
  · refine ⟨_, rfl, ?_, ?_⟩
    · rw [answered, evaluations_singleton, hc, hr, run_release]
      cases h with
      | initial stage => exact .initial stage
      | waiting stage user => exact .waiting stage user
      | done stage few => exact .done stage few
    · intro message' e he
      rw [hc] at he
      cases he
  · refine ⟨relay, rfl, ?_, ?_⟩
    · rw [answered, evaluations_singleton, hc]
      exact h
    · intro message' e he
      rw [hc] at he
      cases he

/-- Whatever a host asks of a session and whatever its peers do: between two
calls the session is at its beginning, waits for the proof of a user whom it
remembers, or is done. No more than two messages are answered, and no
message ever finds the exchange out of step. -/
theorem exchange_in_step {calls : List HostCall}
    (course : Course κ δ (.scram config (.fresh mechanism)) calls t s) :
    ∃ relay, s = .scram config relay
      ∧ (relay.stage = .initial ∨ relay.stage = .awaitingProof
        ∨ ∃ outcome, relay.stage = .done outcome)
      ∧ (relay.stage = .awaitingProof → ∃ name, relay.username = some name)
      ∧ answered calls ≤ 2
      ∧ ∀ message e, (message, .error e) ∈ evaluations calls →
        ¬ e.OutOfTurn := by
  -- by induction on the calls, with the answers counted along
  have key : ∃ relay, s = .scram config relay
      ∧ Poised (answered calls) relay
      ∧ ∀ message e, (message, .error e) ∈ evaluations calls →
        ¬ e.OutOfTurn := by
    induction course with
    | start => exact ⟨.fresh mechanism, rfl, .initial rfl, nofun⟩
    | @call calls t u s s' c before served ih =>
      obtain ⟨relay, rfl, hpoised, hturns⟩ := ih
      obtain ⟨relay', rfl, hpoised', hturn⟩ := hpoised.served served
      refine ⟨relay', rfl, ?_, ?_⟩
      · rw [answered, evaluations_append, List.countP_append]
        exact hpoised'
      · intro message e he
        rw [evaluations_append, evaluations_singleton] at he
        rcases List.mem_append.1 he with hmem | hmem
        · exact hturns message e hmem
        · exact hturn message e (Option.mem_toList.1 hmem)
  obtain ⟨relay, rfl, hpoised, hturns⟩ := key
  generalize answered calls = n at hpoised ⊢
  refine ⟨relay, rfl, ?_, ?_, ?_, hturns⟩
  · cases hpoised with
    | initial stage => exact .inl stage
    | waiting stage user => exact .inr (.inl stage)
    | done stage few => exact .inr (.inr ⟨_, stage⟩)
  · intro hstage
    cases hpoised with
    | initial stage =>
      rw [stage] at hstage
      cases hstage
    | waiting stage user => exact ⟨_, user⟩
    | done stage few =>
      rw [stage] at hstage
      cases hstage
  · cases hpoised with
    | initial stage => exact Nat.zero_le 2
    | waiting stage user => exact Nat.le_succ 1
    | done stage few => exact few

end Sessions

end ScramRelay

-- ============================================================= a rehearsal

namespace Rehearsal

open ScramRelay

/-- Both messages of a client that a server lets in. -/
theorem exchange_in_step_rehearsal :
    answered [.evaluate scramMessage (scramFirst (verifierThen .ok)).result,
      .evaluate [2] (scramSecond (verifierThen .ok)).result] = 2
    ∧ ∃ relay, (scramSecond (verifierThen .ok)).state.session
        = .scram { host := "broker" } relay
      ∧ (relay.stage = .initial ∨ relay.stage = .awaitingProof
        ∨ ∃ outcome, relay.stage = .done outcome) := by
  obtain ⟨relay, hsession, hstage, -⟩ :=
    exchange_in_step (scramCourse (verifierThen .ok))
  exact ⟨by decide +kernel, relay, hsession, hstage⟩

end Rehearsal

end SaslGate
