/-
What the actions of an open link come to. Each of them can be read in two
directions. From its end: an action that ended well had no call that failed
or came too late, and the client took in all that was read
(`pumpUntil_inv`). From its trace: if no call failed or came too late,
sending ends well (`send_cases`), and so does waiting for chunks of which
the engine has to hear (`pumpUntil_follows`). Setting up has three outcomes
(`bootstrap_cases`).
-/
import SaslGate.Proofs.Client.Calls
import SaslGate.Proofs.Pump
import SaslGate.Proofs.Sending

namespace SaslGate

open SocketEvent (chunks received sent Flows)
open Event (calls)

-- ================================================================ clients

namespace Client

/-- Frames may be accepted in two parts. -/
theorem acceptAll_append {c d e : Client} {fs gs : List Frame}
    (h : c.acceptAll fs = .ok d) (h' : d.acceptAll gs = .ok e) :
    c.acceptAll (fs ++ gs) = .ok e := by
  induction fs generalizing c with
  | nil =>
    cases h
    exact h'
  | cons f fs ih =>
    obtain ⟨c₁, ha, hrest⟩ := acceptAll_cons_inv h
    rw [List.cons_append, acceptAll_cons ha]
    exact ih hrest

/-- A client that is fed chunk by chunk extends its account by all of
them. -/
theorem Heard.hears {enough : Client → Bool} {c c' : Client}
    {fs : List Frame} {input : Bytes} {cs : List Bytes}
    (hh : c.Heard fs input) (he : c.connection ≠ .ended)
    (h : Line.Hears enough c cs c') :
    ∃ gs d, c'.Heard (fs ++ gs) (input ++ cs.flatten)
      ∧ c.acceptAll gs = .ok d ∧ c' = d.placed c'.connection c'.reader
      ∧ c'.connection ≠ .ended := by
  induction h generalizing fs input with
  | done _ =>
    refine ⟨[], _, ?_, rfl, rfl, he⟩
    simpa using hh
  | @chunk c c₁ c' bytes cs _ _ fed _ ih =>
    obtain ⟨gs, d, hh₁, haccept, hd⟩ := hh.feed he fed
    have he₁ : c₁.connection ≠ .ended := connection_feed_ne_ended he fed
    obtain ⟨gs', d', hh', haccept', hd', he'⟩ := ih hh₁ he₁
    rw [hd] at haccept'
    have hback := acceptAll_placed haccept' d.connection d.reader
    rw [placed_placed] at hback
    refine ⟨gs ++ gs', d'.placed d.connection d.reader, ?_,
      acceptAll_append haccept hback, ?_, he'⟩
    · simpa using hh'
    · rw [placed_placed]
      exact hd'

end Client

/-- The errors that no link reports, whatever passes over it. Only a session
does. -/
inductive AuthError.OfSession : AuthError → Prop
  | rejected : OfSession .rejected
  | unreplied :
      OfSession (.protocolViolation (.illegalState "upstream has not replied"))
  | outOfTurn (state : String) : OfSession (.illegalSequencing state)

namespace AuthError.OfSession

theorem ne_closed {e : AuthError} (h : e.OfSession) :
    e ≠ .protocolViolation .closed := by
  rintro rfl
  cases h

theorem ne_overflow {e : AuthError} (h : e.OfSession) :
    e ≠ .deadlineOverflow := by
  rintro rfl
  cases h

/-- The one violation of the protocol among them. -/
theorem eq_illegalState {cause : TransportError}
    (h : (AuthError.protocolViolation cause).OfSession) :
    cause = .illegalState "upstream has not replied" := by
  cases h
  rfl

end AuthError.OfSession

namespace Link

variable {ε σ κ : Type}

-- ======================================================== single actions

/-- An action of the line, on an open link. -/
theorem run_onLine {toError : δ → AuthError}
    {x : Act SocketEvent (Line ε σ) δ α} {k : Link ε σ} {l : Line ε σ}
    (hl : k.line = some l) :
    (onLine toError x).run k = ⟨(x.run l).result.mapError toError,
      k.put (x.run l).state, (x.run l).events.map (.socket k.id)⟩ := by
  simp [onLine, hl, Act.orElse, Act.label]

/-- On a closed link it is not even begun. -/
theorem run_onLine_closed {toError : δ → AuthError} {k : Link ε σ}
    (x : Act SocketEvent (Line ε σ) δ α) (hk : k.line = none) :
    (onLine toError x).run k =
      ⟨.error (.protocolViolation .closed), k, []⟩ := by
  simp [onLine, hk]

/-- Sending ends well only on an open link whose engine took the step. -/
theorem send_inv [Engine ε] [Wire σ]
    {f : ε → Except TransportError Unit × ε} {k k' : Link ε σ}
    {t : List Event} (h : (send f).run k = ⟨.ok (), k', t⟩) :
    ∃ l e, k.line = some l ∧ f l.engine = (.ok (), e) := by
  obtain ⟨_, k₁, t₁, _, h₁, -, -⟩ := Act.bind_ok h
  obtain ⟨l, l₁, _, hl, hx, -, -⟩ := onLine_inv h₁
  refine ⟨l, (f l.engine).2, hl, Prod.ext ?_ rfl⟩
  exact congrArg Run.result hx

/-- What sending does once the engine has taken its step: it gets rid of
all that is queued, or the trace shows why not. -/
theorem send_cases [Wire σ] {f : Client → Except TransportError Unit × Client}
    {k k' : Link Client σ} {l : Line Client σ} {c : Client}
    {r : Except AuthError Unit} {t : List Event} (hl : k.line = some l)
    (hf : f l.engine = (.ok (), c)) (h : (send f).run k = ⟨r, k', t⟩) :
    ∃ l' u, k' = k.put l' ∧ t = u.map (.socket k.id)
      ∧ chunks u = []
      ∧ ((r = .ok () ∧ l'.engine = { c with outbound := [] }
          ∧ sent u = c.outbound ∧ ∀ timeout b, Flows timeout b u none)
        ∨ ((∃ e, r = .error e)
          ∧ ∀ timeout b b', ¬ Flows timeout b u b')) := by
  have hstep : (onLine .protocolViolation (Line.engineStep f)).run k =
      ⟨.ok (), k.put { l with engine := c }, []⟩ := by
    rw [run_onLine hl]
    simp [Line.engineStep, Act.step, Act.focus, hf]
  rw [send, Act.run_bind_ok _ hstep, run_onLine rfl] at h
  obtain ⟨⟨account, silent, fault⟩, hdone⟩ :=
    Line.flush_spec (σ := σ) { l with engine := c }
  have hview := Line.flush_preserves (σ := σ)
    (fun c : Client => { c with outbound := [] }) (fun _ _ => rfl)
    { l with engine := c }
  rcases hr : Line.flush.run { l with engine := c } with ⟨r₀, l', u⟩
  rw [hr] at h account silent fault hdone hview
  cases h
  refine ⟨l', u, rfl, by simp, silent, ?_⟩
  cases r₀ with
  | error e => exact .inr ⟨⟨_, rfl⟩, fault e rfl⟩
  | ok u' =>
    obtain ⟨hempty, hflow⟩ := hdone rfl
    refine .inl ⟨rfl, ?_, ?_, hflow⟩
    · -- sending has changed the queue only, and that is empty now
      have heta : l'.engine = { l'.engine with outbound := [] } := by
        rw [← show l'.engine.outbound = [] from hempty]
      rw [heta]
      exact hview
    · have : sent u ++ l'.queued = c.outbound := account
      rwa [show l'.queued = [] from hempty, List.append_nil] at this

/-- A deadline is set by a look at the clock, if there is a timeout at all. The
clock may be unable to show it, and the trace tells that too. -/
theorem deadline_cases [Wire σ] {k : Link ε σ} {l : Line ε σ}
    (hl : k.line = some l) :
    ∃ r l₀ u, deadline.run k = ⟨r, k.put l₀, u.map (.socket k.id)⟩
      ∧ l₀.engine = l.engine ∧ (∀ e ∈ u, e.Aside)
      ∧ ((∃ limit b, r = .ok limit ∧ Flows k.timeout none u b
          ∧ Line.Due k.timeout b limit)
        ∨ r = .error .deadlineOverflow
          ∧ ∀ b, ¬ Flows k.timeout none u b) := by
  cases ht : k.timeout with
  | none =>
    refine ⟨.ok none, l, [], ?_, rfl, nofun,
      .inl ⟨none, none, rfl, Flows.nil _ _, rfl⟩⟩
    rw [run_deadline_none ht, put_eq_self hl]
    rfl
  | some timeout =>
    have haside : ∀ e ∈ [SocketEvent.clock (Wire.now l.wire).1], e.Aside := by
      simp [SocketEvent.Aside]
    cases ha : Instant.after? timeout (Wire.now l.wire).1 with
    | none =>
      refine ⟨_, _, [.clock _], run_deadline_overflow ht (run_now hl) ha, rfl,
        haside, .inr ⟨rfl, ?_⟩⟩
      simp [Flows, SocketEvent.watch, SocketEvent.works, ha]
    | some limit =>
      refine ⟨_, _, [.clock _], run_deadline_some ht (run_now hl) ha, rfl,
        haside, .inl ⟨_, some (Wire.now l.wire).1, rfl, ?_, ?_⟩⟩
      · simp [Flows, SocketEvent.watch, SocketEvent.works, ha]
      · exact ⟨_, rfl, congrArg some (Instant.after?_eq_some_iff.1 ha).2⟩

/-- Waiting ends well only on an open link, in time, and with the engine fed
all that was read. Nothing is written meanwhile. -/
theorem pumpUntil_inv [Engine ε] [Wire σ] {enough : ε → Bool}
    {k k' : Link ε σ} {t : List Event}
    (h : (pumpUntil enough).run k = ⟨.ok (), k', t⟩) :
    ∃ l l' u b, k.line = some l ∧ k' = k.put l'
      ∧ t = u.map (.socket k.id)
      ∧ Line.Hears enough l.engine (chunks u) l'.engine
      ∧ Flows k.timeout none u b ∧ sent u = [] := by
  cases hl : k.line with
  | none => exact absurd (congrArg Run.result h) (pumpUntil_ne_ok _ hl)
  | some l =>
    obtain ⟨r, l₀, u, hd, he, haside, ⟨limit, b, rfl, hflow, hdue⟩
      | ⟨rfl, -⟩⟩ := deadline_cases hl
    · rw [pumpUntil, Act.run_bind_ok _ hd] at h
      rcases hp : (Line.pumpUntil enough limit).run l₀ with ⟨r, l', v⟩
      rw [run_onLine rfl, hp] at h
      cases r with
      | error e => cases h
      | ok a =>
        cases h
        obtain ⟨hhears, hflow', hsent⟩ := Line.pumpUntil_hears hdue hp
        refine ⟨l, l', u ++ v, b, rfl, rfl, by simp, ?_,
          hflow.append hflow', ?_⟩
        · rw [SocketEvent.chunks_append, SocketEvent.chunks_asides haside,
            ← he]
          exact hhears
        · rw [SocketEvent.sent_append, SocketEvent.sent_asides haside, hsent]
          rfl
    · rw [pumpUntil, Act.run_bind_error _ hd] at h
      cases h

/-- Waiting ends well if what the engine has to hear arrives, and no call
fails or comes too late. -/
theorem pumpUntil_follows [Engine ε] [Wire σ] {enough : ε → Bool}
    {k k' : Link ε σ} {l : Line ε σ} {r : Except AuthError Unit}
    {t : List Event} {xs : List Bytes} {e' : ε} {b' : Option Instant}
    (hl : k.line = some l) (hears : Line.Hears enough l.engine xs e')
    (h : (pumpUntil enough).run k = ⟨r, k', t⟩)
    (flow : Flows k.timeout none (calls t) b')
    (agree : Line.Agrees (chunks (calls t)) xs) :
    r = .ok () ∧ chunks (calls t) = xs
      ∧ ∃ l', k' = k.put l' ∧ l'.engine = e' := by
  obtain ⟨r, l₀, u, hd, he, haside, ⟨limit, b, rfl, hflow, hdue⟩
    | ⟨rfl, hstuck⟩⟩ := deadline_cases hl
  · rw [pumpUntil, Act.run_bind_ok _ hd] at h
    rcases hp : (Line.pumpUntil enough limit).run l₀ with ⟨r₀, l', v⟩
    rw [run_onLine rfl, hp] at h
    cases h
    have hcalls : calls (u.map (.socket k.id) ++ v.map (.socket k.id))
        = u ++ v := by
      rw [Event.calls_append, Event.calls_socket, Event.calls_socket]
    have hchunks : chunks (u ++ v) = chunks v := by
      rw [SocketEvent.chunks_append, SocketEvent.chunks_asides haside]
      rfl
    simp only [id_put] at flow agree ⊢
    rw [hcalls] at flow agree ⊢
    rw [hchunks] at agree ⊢
    obtain ⟨rfl, hcs, hengine⟩ := Line.pumpUntil_follows hdue
      (he.symm ▸ hears) hp (flow.rest hflow) agree
    exact ⟨rfl, hcs, l', rfl, hengine⟩
  · rw [pumpUntil, Act.run_bind_error _ hd] at h
    cases h
    rw [Event.calls_socket] at flow
    -- the clock could not show the deadline, and the trace would tell
    exact absurd flow (hstuck b')

-- ============================================================ setting up

/-- The ways in which a link is set up or not: no socket, a greeting that ended
well, or one that failed, after which the link is closed. -/
theorem bootstrap_cases [Connector κ σ] [Engine ε] [Wire σ] {engine : ε}
    {config : RemoteConfig} {mechanism : String} {s s' : κ}
    {r : Except AuthError (Link ε σ)} {t : List Event}
    (h : (bootstrap engine config mechanism).run s = ⟨r, s', t⟩) :
    (∃ kind : IoKind, r = .error (if kind.isTimeout then .remoteTimeout
          else .connectFailure config.host config.portNumber kind)
        ∧ t = [.connect config.host config.portNumber config.connectTimeout
          (.error kind)])
    ∨ ∃ (id : Nat) (wire : σ) (result : Except AuthError Unit) (k : Link ε σ)
        (u : List Event),
      Connector.connect config.host config.portNumber config.connectTimeout s
        = (.ok (id, wire), s')
      ∧ (greet mechanism).run
        (ofLine id config.negotiationTimeout ⟨engine, wire⟩)
          = ⟨result, k, u⟩
      ∧ ((result = .ok () ∧ r = .ok k
          ∧ t = .connect config.host config.portNumber config.connectTimeout
            (.ok id) :: u)
        ∨ ∃ e, result = .error e ∧ r = .error e
          ∧ t = .connect config.host config.portNumber config.connectTimeout
            (.ok id) :: u ++ (close.run k).events) := by
  rcases hc : Connector.connect config.host config.portNumber
    config.connectTimeout s with ⟨answer, s₁⟩
  have hdial : (dial config).run s = ⟨answer.mapError fun kind =>
      if kind.isTimeout then AuthError.remoteTimeout
      else .connectFailure config.host config.portNumber kind, s₁,
      [.connect config.host config.portNumber config.connectTimeout
        (answer.map Prod.fst)]⟩ := by
    simp [dial, Act.ask, Act.orElse, hc]
  cases answer with
  | error kind =>
    rw [bootstrap, Act.run_bind_error _ hdial] at h
    cases h
    exact .inl ⟨kind, rfl, rfl⟩
  | ok socket =>
    obtain ⟨id, wire⟩ := socket
    -- with a socket, the greeting decides
    rcases hg : (greet mechanism).run
      (ofLine id config.negotiationTimeout ⟨engine, wire⟩)
      with ⟨result, k, u⟩
    rw [bootstrap, Act.run_bind_ok _ hdial] at h
    cases result with
    | ok done =>
      simp [Act.run_bind, Act.inside, hg, Run.after, Except.map] at h
      obtain ⟨hr, hs, ht⟩ := h
      exact .inr ⟨id, wire, _, k, u, by rw [hs], hg,
        .inl ⟨rfl, hr.symm, ht.symm⟩⟩
    | error e =>
      simp [Act.run_bind, Act.inside, hg, Run.after, Except.map] at h
      obtain ⟨hr, hs, ht⟩ := h
      exact .inr ⟨id, wire, _, k, u, by rw [hs], hg,
        .inr ⟨e, rfl, hr.symm, by simpa using ht.symm⟩⟩

-- ==================================================== failures ruled out

section Failures

variable {e : AuthError} {requested : String} {offered : List String}

/-- An action of the line adds one failure, that the link is closed, to those
of the line. -/
theorem avoids_onLine {toError : δ → AuthError}
    {x : Act SocketEvent (Line ε σ) δ α}
    (hclosed : e ≠ .protocolViolation .closed)
    (h : ∀ d, toError d = e → x.Avoids d) :
    (onLine toError x).Avoids e := by
  intro k hk
  cases hl : k.line with
  | none =>
    simp only [onLine, hl] at hk
    exact hclosed (Except.error.inj hk).symm
  | some l =>
    rw [run_onLine hl] at hk
    cases hr : (x.run l).result with
    | error d =>
      rw [hr] at hk
      exact h d (Except.error.inj hk) l hr
    | ok a =>
      rw [hr] at hk
      cases hk

/-- What the pump reports as an error of a session is a violation of the
protocol, or no error that only a session reports. -/
theorem ofPump_inv {p : PumpError} (h : .ofPump p = e) (he : e.OfSession) :
    ∃ cause, p = .protocolViolation cause ∧ e = .protocolViolation cause := by
  cases p with
  | protocolViolation cause => exact ⟨cause, rfl, h.symm⟩
  | endOfStream => subst h; cases he
  | timeout => subst h; cases he
  | io kind => subst h; cases he

/-- Sending reports what the engine or the socket reports. -/
theorem avoids_send [Wire σ] (he : e.OfSession) (k : ClientCall) :
    (send k.step : Linked Client σ Unit).Avoids e := by
  refine (avoids_onLine he.ne_closed ?_).bind fun _ =>
    avoids_onLine he.ne_closed ?_
  · rintro cause rfl l hl
    rw [he.eq_illegalState] at hl
    exact k.step_ne_unreplied l.engine hl
  · intro p hp
    obtain ⟨cause, rfl, -⟩ := ofPump_inv hp he
    exact Line.avoids_flush cause

/-- Setting a deadline fails in one way only. -/
theorem avoids_deadline [Wire σ] (hoverflow : e ≠ .deadlineOverflow) :
    (deadline : Linked ε σ (Option Instant)).Avoids e := by
  refine Act.avoids_state.bind fun k => ?_
  split
  · exact Act.avoids_pure _
  · have hnow : (now : Linked ε σ Instant).Avoids e := fun _ => nofun
    refine hnow.bind fun time => ?_
    split
    · exact Act.avoids_pure _
    · exact Act.avoids_fail hoverflow.symm

/-- Taking what waits cannot fail, not even on a closed link. -/
theorem avoids_takePending [Engine ε] :
    (takePending : Linked ε σ (Option Bytes)).Avoids e := by
  intro ⟨id, timeout, socket, engine⟩
  cases engine with
  | live engine => exact nofun
  | spent rest => exact nofun

/-- Neither the deadline nor the pump reports what only a session does. -/
theorem avoids_pumpUntil [Wire σ] (he : e.OfSession)
    (enough : Client → Bool) :
    (pumpUntil enough : Linked Client σ Unit).Avoids e := by
  refine (avoids_deadline he.ne_overflow).bind fun limit =>
    avoids_onLine he.ne_closed ?_
  intro p hp
  obtain ⟨cause, rfl, rfl⟩ := ofPump_inv hp he
  refine Line.avoids_pumpUntil (fun bytes c => ?_) limit
  rw [he.eq_illegalState]
  exact c.feed_ne_illegalState bytes _

/-- A mechanism that was not offered is no failure of a line, so neither
sending nor waiting reports one. -/
theorem send_ne_notOffered [Engine ε] [Wire σ]
    (f : ε → Except TransportError Unit × ε)
    (he : e = .mechanismNotOffered requested offered) :
    (send f : Linked ε σ Unit).Avoids e := by
  have hclosed : e ≠ .protocolViolation .closed := by
    rw [he]
    exact nofun
  refine (avoids_onLine hclosed fun d hd => ?_).bind fun _ =>
    avoids_onLine hclosed fun p hp => ?_
  · rw [he] at hd
    cases hd
  · rw [he] at hp
    cases p <;> cases hp

/-- Waiting adds the deadline to what a line may report, which is no offer
either. -/
theorem pumpUntil_ne_notOffered [Engine ε] [Wire σ] (enough : ε → Bool)
    (he : e = .mechanismNotOffered requested offered) :
    (pumpUntil enough : Linked ε σ Unit).Avoids e := by
  have hclosed : e ≠ .protocolViolation .closed := by
    rw [he]
    exact nofun
  have hoverflow : e ≠ .deadlineOverflow := by
    rw [he]
    exact nofun
  refine (avoids_deadline hoverflow).bind fun limit =>
    avoids_onLine hclosed fun p hp => ?_
  rw [he] at hp
  cases p <;> cases hp

/-- The greeting may report an offer without the mechanism, and all that a
link reports. -/
theorem avoids_greet [Wire σ] (he : e.OfSession) (mechanism : String) :
    (greet mechanism : Linked Client σ Unit).Avoids e := by
  refine (avoids_send he .sendHeader).bind fun _ =>
    (avoids_pumpUntil he _).bind fun _ => Act.avoids_state.bind fun k => ?_
  dsimp only
  split
  · exact Act.avoids_pure _
  · refine Act.avoids_fail ?_
    rintro rfl
    cases he

/-- Setting up may also fail to connect. -/
theorem avoids_bootstrap [Connector κ σ] [Wire σ] (he : e.OfSession)
    (config : RemoteConfig) (mechanism : String) :
    (bootstrap Client.fresh config mechanism :
      Act Event κ AuthError (Link Client σ)).Avoids e := by
  intro s hs
  rcases hr : (bootstrap Client.fresh config mechanism :
    Act Event κ AuthError (Link Client σ)).run s with ⟨r, s', t⟩
  rw [hr] at hs
  rcases bootstrap_cases hr with ⟨kind, rfl, -⟩
    | ⟨id, wire, _, k, u, -, hg, ⟨-, rfl, -⟩ | ⟨d, rfl, rfl, -⟩⟩
  · have hkind := Except.error.inj hs
    split at hkind <;> subst hkind <;> cases he
  · cases hs
  · cases hs
    exact avoids_greet he mechanism _ (congrArg Run.result hg)

end Failures

end Link

end SaslGate
