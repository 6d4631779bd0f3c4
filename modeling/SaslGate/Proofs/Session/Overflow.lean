/-
What a timeout comes to that is too long for the clock. Nothing checks a
timeout when it is configured, so it may be one that can be added to no time
that the clock shows. A session then gets as far as to the first thing it has
to wait for, which is the offer: it has connected and sent the header, and it
goes no further. This is the one way in which a relayed session comes to
nothing by its own doing while the remote server keeps to its part.
-/
import SaslGate.Proofs.Cues
import SaslGate.Proofs.Session.Plain
import SaslGate.Proofs.Session.Scram

namespace SaslGate

open Act (Ends)
open SocketEvent (sent)

/-- The timeout of negotiating leads past the last time that the clock can show,
whenever it is. -/
def RemoteConfig.Overlong (c : RemoteConfig) : Prop :=
  ∃ timeout, c.negotiationTimeout = some timeout ∧ Instant.latest < timeout

/-- Such a timeout leads past the last time from the first time on. -/
theorem Instant.after?_of_overlong {timeout : Duration}
    (overlong : latest < timeout) (time : Instant) :
    after? timeout time = none :=
  after?_eq_none_iff.2 (Nat.lt_of_lt_of_le overlong (Nat.le_add_left ..))

-- ================================================================= links

namespace Link

variable {κ σ : Type} [Wire σ] {config : RemoteConfig} {id : Nat}
  {mechanism : String} {said heard : List Frame}

/-- The greeting ends behind the header. -/
theorem ends_greet_overflow {plays : Part → σ → Prop} {cues : List Cue}
    {wire : σ} (lockStep : LockStep plays) (script : Script said heard cues)
    (part : plays ⟨[], cues⟩ wire) (overlong : config.Overlong) :
    Ends (opened config id []) (greet mechanism)
      (ofLine id config.negotiationTimeout ⟨Client.fresh, wire⟩)
      (fun _ _ _ => False)
      fun e k t => e = .deadlineOverflow ∧ Has config id
        (fun _ u => sent u = Header.sasl.encode ∧ ∀ a, .shutdown a ∉ u) k t := by
  obtain ⟨timeout, hbound, hlong⟩ := overlong
  cases script with
  | intro =>
    refine .bind ((ends_sendHeader lockStep part).imp ?_ fun _ _ _ => False.elim)
    intro _ k t h
    obtain ⟨l, u, rfl, hstep, rfl⟩ := h
    have hnow : now.run (ofLine id config.negotiationTimeout l) =
        ⟨.ok (Wire.now l.wire).1, _,
          [.clock (Wire.now l.wire).1].map (.socket id)⟩ := run_now rfl
    -- the header is out, and the deadline of the first read is what fails
    have hpump := run_pumpUntil_overflow (hasOffer (ε := Client)) hbound hnow
      (Instant.after?_of_overlong hlong _)
    refine .of_run_error (Act.run_bind_error _ hpump) ⟨rfl, ?_⟩
    rw [opened_append]
    refine ⟨_, _, rfl, ⟨?_, ?_⟩, rfl⟩
    · rw [SocketEvent.sent_append, hstep.passes.written]
      exact List.append_nil _
    · intro a hmem
      rcases List.mem_append.1 hmem with hmem | hmem
      · exact hstep.passes.unshut a hmem
      · cases List.mem_singleton.1 hmem

/-- No link is set up, although the server answers. The header is all that was
written, and the socket was shut down. -/
theorem ends_bootstrap_overflow [Connector κ σ] {opener : κ}
    (answers : Answers config id said heard opener)
    (overlong : config.Overlong) :
    Ends [] (bootstrap Client.fresh config mechanism) opener
      (fun (_ : Link Client σ) _ _ => False)
      fun e _ t => e = .deadlineOverflow ∧ Record config id [] t := by
  obtain ⟨plays, cues, wire, opener', hlock, hconnect, hscript, hpart⟩ :=
    answers
  have hdial : (dial config : Act Event κ AuthError (Nat × σ)).run opener =
      ⟨.ok (id, wire), opener', opened config id []⟩ := by
    simp [dial, Act.orElse, Act.ask, hconnect, opened, Except.map]
  refine .bind (.of_run_ok hdial ?_)
  rw [List.nil_append]
  refine .bind (.inside ((ends_greet_overflow hlock hscript hpart
    overlong).imp (fun _ _ _ => False.elim) ?_))
  intro e k t h
  obtain ⟨rfl, l, u, rfl, ⟨hsent, hunshut⟩, rfl⟩ := h
  have hrecord : Record config id [] (opened config id u
      ++ [.socket id (.shutdown (Wire.shutdown l.wire).1),
        .engineClosed id]) := by
    refine ⟨⟨[], .nil, ?_⟩, u, _, hunshut, rfl⟩
    rw [Event.calls_append, calls_opened, SocketEvent.sent_append, hsent]
    rfl
  refine .bind (.inside (.of_run (run_close rfl) ?_ ?_))
  · intro _ _
    exact .fails ⟨rfl, hrecord⟩
  · intro _ _
    exact .fails ⟨rfl, hrecord⟩

end Link

-- ============================================================== sessions

section Sessions

variable {κ δ σ γ : Type} [Connector κ σ] [Wire σ] [DirectoryService δ γ]
  [DirectoryConnection γ] {config : RemoteConfig} {id : Nat}
  {said heard : List Frame} {world : World κ δ}

/-- A PLAIN session whose timeout is too long for the clock passes nothing on,
even to a server in lock-step. -/
theorem PlainRelay.evaluate_overflow {message : Bytes}
    {credentials : PlainCredentials}
    {run : Run Event (Desk (World κ δ) (Session σ γ)) AuthError Bytes}
    (parsed : PlainCredentials.parse message = .ok credentials)
    (answers : Answers config id said heard world.connector)
    (overlong : config.Overlong)
    (evaluated : (Session.evaluate message).run
      ⟨world, .plain config .fresh⟩ = run) :
    run.result = .error .deadlineOverflow
      ∧ Link.Record config id [] run.events := by
  have hends : Ends [] (delegate config message) ⟨world.connector, .fresh⟩
      (fun _ _ _ => False) fun e d t => e = .deadlineOverflow
        ∧ d.session.link = none ∧ Link.Record config id [] t := by
    unfold delegate
    rw [parsed]
    refine .bind (.ofExcept ?_ nofun)
    rintro _ -
    refine .bind (Desk.ends_ofOpener
      ((Link.ends_bootstrap_overflow answers overlong).imp
        (fun _ _ _ => False.elim) ?_))
    exact fun e _ t h => ⟨h.1, rfl, h.2⟩
  subst evaluated
  rcases hr : (evaluate config message).run ⟨world.connector, .fresh⟩
    with ⟨answer, d', t⟩
  rw [Session.run_evaluate_plain, hr]
  rcases evaluate_cases hr with ⟨hdone, -⟩ | ⟨-, d₁, t₁, hdelegate, rfl, -⟩
  · cases hdone
  · cases answer with
    | ok a => exact (hends.of_ok hdelegate).elim
    | error e =>
      obtain ⟨rfl, hlink, hrecord⟩ := hends.of_error hdelegate
      rw [hlink]
      exact ⟨rfl, by simpa [Link.farewell] using hrecord⟩

-- The longest of all timeouts, and a server that offers PLAIN at once.
example : ((Session.evaluate [0, 117, 0, 112]).run
    (⟨Rehearsal.worldOf [.ok (Header.sasl.encode
        ++ Rehearsal.frames [.mechanisms ["PLAIN"]])],
      .plain { host := "broker"
               negotiationTimeout := some (2 ^ 64 * 1000000000 - 1) } .fresh⟩ :
      Desk _ (Session Rehearsal.Socket Rehearsal.Directory))).result
      matches .error .deadlineOverflow := by
  decide +kernel

/-- Nor does a SCRAM session pass on its first message. -/
theorem ScramRelay.evaluate_overflow {mechanism : ScramMechanism}
    {message : Bytes} {clientFirst : ClientFirst}
    {run : Run Event (Desk (World κ δ) (Session σ γ)) AuthError Bytes}
    (parsed : ClientFirst.parse message = .ok clientFirst)
    (answers : Answers config id said heard world.connector)
    (overlong : config.Overlong)
    (evaluated : (Session.evaluate message).run
      ⟨world, .scram config (.fresh mechanism)⟩ = run) :
    run.result = .error .deadlineOverflow
      ∧ Link.Record config id [] run.events := by
  have hends : Ends [] (dispatch config message)
      ⟨world.connector, .fresh mechanism⟩
      (fun _ _ _ => False) fun e d t => e = .deadlineOverflow
        ∧ d.session.link = none ∧ Link.Record config id [] t := by
    refine .bind (.of_run_ok (run_advance rfl) ?_)
    dsimp only [forwardClientFirst]
    rw [parsed, List.append_nil]
    refine .bind (.ofExcept ?_ nofun)
    rintro _ -
    refine Desk.ends_current_bind (.bind (Desk.ends_ofOpener
      ((Link.ends_bootstrap_overflow answers overlong).imp
        (fun _ _ _ => False.elim) ?_)))
    exact fun e _ t h => ⟨h.1, rfl, h.2⟩
  subst evaluated
  rcases hr : (evaluate config message).run
    ⟨world.connector, .fresh mechanism⟩ with ⟨answer, d', t⟩
  rw [Session.run_evaluate_scram, hr]
  rcases evaluate_cases hr with ⟨hdone, -⟩ | ⟨-, d₁, t₁, hdispatch, hend⟩
  · cases hdone
  · cases answer with
    | ok a => exact (hends.of_ok hdispatch).elim
    | error e =>
      obtain ⟨rfl, hlink, hrecord⟩ := hends.of_error hdispatch
      rcases hend with ⟨hgoes, -⟩ | ⟨-, -, rfl⟩
      · cases hgoes
      · rw [hlink]
        exact ⟨rfl, by simpa [Link.farewell] using hrecord⟩

end Sessions

end SaslGate
