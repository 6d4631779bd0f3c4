/-
What a session that is checked by a directory makes of its first message. The
message is taken apart, a connection is looked for, and the password is tried
on it (`BindStrategy.trial`). A trial has two answers, one to the password and
one to the demand to forget the user, and `Trial.verdict` is what both of them
come to.

The four ways of a first message are the constructors of `Checked`, and
`checked` says that there is no other. Whatever is said of a verification is
read off these four.
-/
import SaslGate.Proofs.Directory.Failover
import SaslGate.Proofs.Session.Directory
import SaslGate.Proofs.Session.Plain

namespace SaslGate

-- ================================================================ trials

/-- A password tried on a connection: what the directory said to it, and to
the demand to forget the user, with the connection and the operations. -/
structure Trial (γ : Type) where
  answer : Except DirectoryError Unit
  reset : Except DirectoryError Unit
  connection : γ
  events : List DirectoryEvent

namespace Trial

variable {γ : Type} {r : Trial γ} {e : DirectoryError}

/-- Whether the password was taken. A fault of the bind goes before a fault of
the reset. -/
def taken (r : Trial γ) : Except DirectoryError Bool := do
  let taken ← Binder.accepted r.answer
  r.reset
  return taken

/-- What the session makes of a trial. -/
def verdict (r : Trial γ) : Except AuthError Unit :=
  match r.taken with
  | .ok true => .ok ()
  | .ok false => .error .rejected
  | .error e => .error (.directory e)

/-- A bind that failed otherwise than over the credentials is reported,
whatever came of the reset. -/
theorem taken_of_fault (h : r.answer = .error e)
    (other : e ≠ .invalidCredentials) : r.taken = .error e := by
  unfold taken
  rw [h]
  cases e with
  | invalidCredentials => exact absurd rfl other
  | _ => rfl

/-- Once the bind is answered either way, a reset that failed is reported. -/
theorem taken_of_unreset
    (h : r.answer = .ok () ∨ r.answer = .error .invalidCredentials)
    (failed : r.reset = .error e) : r.taken = .error e := by
  unfold taken
  rcases h with h | h
  · rw [h, failed]
    rfl
  · rw [h, failed]
    rfl

/-- With the user forgotten, the answer to the bind decides. -/
theorem taken_of_reset (h : r.reset = .ok ()) :
    r.taken = Binder.accepted r.answer := by
  unfold taken
  rw [h]
  cases Binder.accepted r.answer with
  | ok taken => rfl
  | error e => rfl

/-- The three things that can come of a trial, with the answers that lead
there. -/
theorem taken_cases (r : Trial γ) :
    (r.answer = .ok () ∧ r.reset = .ok () ∧ r.taken = .ok true)
    ∨ (r.answer = .error .invalidCredentials ∧ r.reset = .ok ()
        ∧ r.taken = .ok false)
    ∨ ∃ e, r.taken = .error e := by
  by_cases other : ∃ e, r.answer = .error e ∧ e ≠ .invalidCredentials
  · obtain ⟨e, he, hne⟩ := other
    exact .inr (.inr ⟨e, taken_of_fault he hne⟩)
  have settled : r.answer = .ok () ∨ r.answer = .error .invalidCredentials := by
    rcases ha : r.answer with e | u
    · refine .inr ?_
      by_cases he : e = .invalidCredentials
      · rw [he]
      · exact absurd ⟨e, ha, he⟩ other
    · exact .inl rfl
  rcases hreset : r.reset with e | u
  · exact .inr (.inr ⟨e, taken_of_unreset settled hreset⟩)
  · have htaken := taken_of_reset hreset
    rcases settled with ha | ha
    · rw [ha] at htaken
      exact .inl ⟨ha, rfl, htaken⟩
    · rw [ha] at htaken
      exact .inr (.inl ⟨ha, rfl, htaken⟩)

/-- A password counts only if both binds succeed. -/
theorem verdict_eq_ok :
    r.verdict = .ok () ↔ r.answer = .ok () ∧ r.reset = .ok () := by
  unfold verdict
  rcases taken_cases r with ⟨ha, hr, ht⟩ | ⟨ha, hr, ht⟩ | ⟨e, ht⟩
  · simp [ha, hr, ht]
  · simp [ha, ht]
  · constructor
    · intro h
      rw [ht] at h
      cases h
    · intro h
      rw [taken_of_reset h.2, h.1] at ht
      cases ht

/-- It is refused only if the directory refused it, and forgot the user. -/
theorem verdict_eq_rejected :
    r.verdict = .error .rejected
      ↔ r.answer = .error .invalidCredentials ∧ r.reset = .ok () := by
  unfold verdict
  rcases taken_cases r with ⟨ha, hr, ht⟩ | ⟨ha, hr, ht⟩ | ⟨e, ht⟩
  · simp [ha, ht]
  · simp [ha, hr, ht]
  · constructor
    · intro h
      rw [ht] at h
      cases h
    · intro h
      rw [taken_of_reset h.2, h.1] at ht
      cases ht

/-- A fault of the directory is reported as such. -/
theorem verdict_of_taken_error (h : r.taken = .error e) :
    r.verdict = .error (.directory e) := by
  unfold verdict
  rw [h]

end Trial

section Trials

variable {γ : Type} [DirectoryConnection γ]

/-- A user's password tried on a connection. A simple bind is as the name that
the template makes of the user's, and a reset follows it. A SASL bind is as the
user, on nobody else's behalf, and leaves nothing to reset. -/
def BindStrategy.trial (username password : String) (c : γ) :
    BindStrategy → Trial γ
  | .simple template =>
    let dn := template.format username
    let bound := DirectoryConnection.simpleBind dn password c
    let reset := DirectoryConnection.anonymousBind bound.2
    ⟨bound.1, reset.1, reset.2,
      [.simpleBind dn password bound.1, .anonymousBind reset.1]⟩
  | .sasl mechanism realm =>
    let request : SaslBindRequest :=
      { mechanism, username, authorizationId := username
        credentials := password
        realm := if mechanism = .digestMd5 then realm else none }
    let bound := DirectoryConnection.saslBind request c
    ⟨bound.1, .ok (), bound.2, [.saslBind request bound.1]⟩

/-- A bind on an open connection is a trial. -/
theorem Binder.run_bind (strategy : BindStrategy) (username password : String)
    (c : γ) :
    (Binder.bind username password).run ⟨strategy, some c⟩ =
      ⟨(strategy.trial username password c).taken,
        ⟨strategy, some (strategy.trial username password c).connection⟩,
        (strategy.trial username password c).events⟩ := by
  cases strategy with
  | simple template =>
    -- Both calls are made before either answer is looked at.
    generalize htrial :
      BindStrategy.trial username password c (.simple template) = r
    have hrun : (Binder.bind username password).run
        ⟨.simple template, some c⟩ =
        Run.after r.events ((do
          let taken ← Act.ofExcept (accepted r.answer)
          Act.ofExcept r.reset
          return taken : Binding γ Bool).run
            ⟨.simple template, some r.connection⟩) := by
      rw [← htrial]
      rfl
    rw [hrun, Trial.taken]
    cases accepted r.answer with
    | error e =>
      simp [Act.run_bind, Run.after]
      rfl
    | ok taken =>
      cases r.reset with
      | error e =>
        simp [Act.run_bind, Run.after]
        rfl
      | ok u =>
        simp [Act.run_bind, Run.after]
        rfl
  | sasl mechanism realm =>
    rw [Trial.taken_of_reset rfl]
    simp [Binder.bind, BindStrategy.trial, Act.run_bind, Binder.call,
      Binder.request, Act.attempt, Run.after]

end Trials

-- ======================================================= first messages

namespace DirectoryCheck

variable {δ γ : Type} [DirectoryService δ γ] [DirectoryConnection γ]
  {config : DirectoryConfig} {message : Bytes} {service service' : δ}
  {credentials : PlainCredentials} {c : γ} {t : List DirectoryEvent}

/-- The credentials of a client tried on a connection, as the session is
configured. -/
def tried (config : DirectoryConfig) (credentials : PlainCredentials) (c : γ) :
    Trial γ :=
  config.strategy.trial credentials.username credentials.password c

/-- What a first message comes to: the answer, the session afterwards, and
the operations. -/
inductive Checked (config : DirectoryConfig) (message : Bytes) (service : δ) :
    Except AuthError Bytes → DirectoryCheck γ → List DirectoryEvent → Prop
  | malformed {e : AuthError}
      (parsed : PlainCredentials.parse message = .error e) :
      Checked config message service (.error e) ⟨none, some .failure, none⟩ []
  | unreached {credentials : PlainCredentials} {service' : δ}
      {t : List DirectoryEvent}
      (parsed : PlainCredentials.parse message = .ok credentials)
      (searched : config.endpoints.Tried config.failover service
        (none : Option γ) service' t) :
      Checked config message service
        (.error (.noReachableDirectory config.endpoints.size))
        ⟨none, some .failure, none⟩ t
  | refused {credentials : PlainCredentials} {c : γ} {service' : δ}
      {t : List DirectoryEvent} {e : AuthError}
      (parsed : PlainCredentials.parse message = .ok credentials)
      (searched : config.endpoints.Tried config.failover service (some c)
        service' t)
      (verdict : (tried config credentials c).verdict = .error e) :
      Checked config message service (.error e) ⟨none, some .failure, none⟩
        (t ++ (tried config credentials c).events
          ++ [.close (DirectoryConnection.close
            (tried config credentials c).connection).1])
  | accepted {credentials : PlainCredentials} {c : γ} {service' : δ}
      {t : List DirectoryEvent}
      (parsed : PlainCredentials.parse message = .ok credentials)
      (searched : config.endpoints.Tried config.failover service (some c)
        service' t)
      (verdict : (tried config credentials c).verdict = .ok ()) :
      Checked config message service (.ok [])
        ⟨some ⟨config.strategy, some (tried config credentials c).connection⟩,
          some .success, some credentials.username⟩
        (t ++ (tried config credentials c).events)

/-- A message that does not parse is not looked into any further. -/
theorem run_verify_malformed {e : AuthError}
    (parsed : PlainCredentials.parse message = .error e) :
    (verify config message).run (⟨service, .fresh⟩ : Desk δ (DirectoryCheck γ))
      = ⟨.error e, ⟨service, .fresh⟩, []⟩ := by
  unfold verify
  rw [parsed]
  rfl

/-- What is left to do once the credentials are known. -/
theorem run_verify_parsed
    (parsed : PlainCredentials.parse message = .ok credentials)
    {found : Option γ}
    (searched : config.endpoints.Tried config.failover service found service'
      t) :
    (verify config message).run ⟨service, .fresh⟩ =
      match found with
      | none => ⟨.error (.noReachableDirectory config.endpoints.size),
          ⟨service', .fresh⟩, t.map .directory⟩
      | some c =>
        ⟨(tried config credentials c).verdict.map fun _ => [],
          ⟨service', ⟨some ⟨config.strategy,
              some (tried config credentials c).connection⟩, none,
            (tried config credentials c).verdict.toOption.map fun _ =>
              credentials.username⟩⟩,
          (t ++ (tried config credentials c).events).map .directory⟩ := by
  have hconnect : (Desk.ofOpener
      (seen (connectAny config.endpoints config.failover)) :
        Working δ (DirectoryCheck γ) γ).run ⟨service, .fresh⟩ =
      ⟨found.elim (.error (.noReachableDirectory config.endpoints.size)) .ok,
        ⟨service', .fresh⟩, t.map .directory⟩ := by
    simp [Desk.ofOpener, Act.focus, seen, Act.label, searched.run]
  unfold verify
  rw [parsed, Act.run_bind_ok _ (Act.run_ofExcept _ _)]
  cases found with
  | none =>
    rw [Act.run_bind_error _ hconnect]
    simp [Run.after]
  | some c =>
    have hhold : (Desk.hold slot ⟨config.strategy, some c⟩ :
        Working δ (DirectoryCheck γ) Unit).run ⟨service', .fresh⟩ =
        ⟨.ok (), ⟨service', ⟨some ⟨config.strategy, some c⟩, none, none⟩⟩,
          []⟩ := rfl
    -- the trial, seen from the session that holds the connection
    have hbind : (Desk.onHeld slot ((seen (Binder.bind credentials.username
          credentials.password)).orElse .directory) :
        Working δ (DirectoryCheck γ) Bool).run
          ⟨service', ⟨some ⟨config.strategy, some c⟩, none, none⟩⟩ =
        ⟨(tried config credentials c).taken.mapError .directory,
          ⟨service', ⟨some ⟨config.strategy,
            some (tried config credentials c).connection⟩, none, none⟩⟩,
          (tried config credentials c).events.map .directory⟩ := by
      simp [Desk.onHeld, slot, seen, Act.orElse, Act.label, Binder.run_bind,
        tried]
    rw [Act.run_bind_ok _ hconnect]
    rcases htaken : (tried config credentials c).taken with e | taken
    · rw [htaken] at hbind
      rw [Act.run_bind_ok _ hhold, Act.run_bind_error _ hbind]
      simp [Trial.verdict, htaken, Run.after, Except.map, Except.toOption]
    · rw [htaken] at hbind
      rw [Act.run_bind_ok _ hhold, Act.run_bind_ok _ hbind]
      cases taken with
      | true =>
        simp [Trial.verdict, htaken, Act.run_bind, Desk.change, Run.after,
          Except.map, Except.toOption]
      | false =>
        simp [Trial.verdict, htaken, Run.after, Except.map, Except.toOption]

/-- There are four ways of a first message. -/
theorem checked {answer : Except AuthError Bytes}
    {d' : Desk δ (DirectoryCheck γ)} {u : List Event}
    (h : (evaluate config message).run ⟨service, .fresh⟩ = ⟨answer, d', u⟩) :
    ∃ ops, u = ops.map .directory
      ∧ Checked config message service answer d'.session ops := by
  obtain ⟨service', session'⟩ := d'
  rcases evaluate_cases h with ⟨hdone, -⟩ | ⟨-, d₁, t₁, hverify, hend⟩
  · cases hdone
  rcases parsed : PlainCredentials.parse message with e | credentials
  · rw [run_verify_malformed parsed] at hverify
    cases hverify
    rcases hend with ⟨⟨_, ⟨⟩⟩, -⟩ | ⟨-, rfl, rfl⟩
    exact ⟨[], rfl, .malformed parsed⟩
  -- the search ends with a connection or without one
  obtain ⟨found, service'', t, searched⟩ :=
    exists_search (config.endpoints.arranged config.failover service).1
      (config.endpoints.arranged config.failover service).2
  rw [run_verify_parsed parsed searched] at hverify
  cases found with
  | none =>
    cases hverify
    rcases hend with ⟨⟨_, ⟨⟩⟩, -⟩ | ⟨-, rfl, rfl⟩
    exact ⟨t, List.append_nil _, .unreached parsed searched⟩
  | some c =>
    rcases verdict : (tried config credentials c).verdict with e | u
    · simp only [verdict] at hverify
      cases hverify
      rcases hend with ⟨⟨_, ⟨⟩⟩, -⟩ | ⟨-, rfl, rfl⟩
      exact ⟨_, List.map_append.symm, .refused parsed searched verdict⟩
    · simp only [verdict] at hverify
      cases hverify
      rcases hend with ⟨-, rfl, rfl⟩ | ⟨⟨_, ⟨⟩⟩, -⟩
      exact ⟨_, rfl, .accepted parsed searched verdict⟩

/-- A message gets as far as a password tried on a connection: it holds
credentials, and an endpoint connects. -/
structure Reaches (config : DirectoryConfig) (message : Bytes) (service : δ)
    (credentials : PlainCredentials) (c : γ) : Prop where
  parsed : PlainCredentials.parse message = .ok credentials
  searched : ∃ service' t,
    config.endpoints.Tried config.failover service (some c) service' t

namespace Checked

variable {answer : Except AuthError Bytes} {s : DirectoryCheck γ}
  {ops : List DirectoryEvent}

/-- Once a password was tried, the trial decides. -/
theorem of_reaches (h : Checked config message service answer s ops)
    (reaches : Reaches config message service credentials c) :
    answer = (tried config credentials c).verdict.map fun _ => [] := by
  obtain ⟨hparsed, service₁, t₁, hsearched⟩ := reaches
  cases h with
  | malformed parsed =>
    rw [hparsed] at parsed
    cases parsed
  | unreached parsed searched =>
    cases (Search.unique searched hsearched).1
  | refused parsed searched verdict =>
    cases hparsed.symm.trans parsed
    cases (Search.unique searched hsearched).1
    rw [verdict]
    rfl
  | accepted parsed searched verdict =>
    cases hparsed.symm.trans parsed
    cases (Search.unique searched hsearched).1
    rw [verdict]
    rfl

/-- A client is let in only over a trial that went well. -/
theorem eq_ok_iff (h : Checked config message service answer s ops)
    (reply : Bytes) :
    answer = .ok reply ↔ reply = [] ∧ ∃ credentials c,
      Reaches config message service credentials c
        ∧ (tried config credentials c).verdict = .ok () := by
  constructor
  · rintro rfl
    cases h with
    | accepted parsed searched verdict =>
      exact ⟨rfl, _, _, ⟨parsed, _, _, searched⟩, verdict⟩
  · rintro ⟨rfl, credentials, c, reaches, verdict⟩
    rw [h.of_reaches reaches, verdict]
    rfl

/-- A client is refused only over a trial that says so. -/
theorem eq_rejected_iff (h : Checked config message service answer s ops) :
    answer = .error .rejected ↔ ∃ credentials c,
      Reaches config message service credentials c
        ∧ (tried config credentials c).verdict = .error .rejected := by
  constructor
  · rintro rfl
    cases h with
    | malformed parsed =>
      exact absurd parsed (PlainRelay.parse_ne_rejected message)
    | refused parsed searched verdict =>
      exact ⟨_, _, ⟨parsed, _, _, searched⟩, verdict⟩
  · rintro ⟨credentials, c, reaches, verdict⟩
    rw [h.of_reaches reaches, verdict]
    rfl

/-- After the search come the binds of the trial, and at most a close. -/
theorem ops_eq (h : Checked config message service answer s ops)
    (parsed : PlainCredentials.parse message = .ok credentials)
    (searched : config.endpoints.Tried config.failover service (some c)
      service' t) :
    ∃ closing, ops = t ++ (tried config credentials c).events ++ closing
      ∧ ∀ x ∈ closing, ∃ answer, x = .close answer := by
  cases h with
  | malformed parsed' =>
    rw [parsed] at parsed'
    cases parsed'
  | unreached parsed' searched' =>
    cases (Search.unique searched' searched).1
  | refused parsed' searched' verdict =>
    cases parsed.symm.trans parsed'
    obtain ⟨⟨⟩, rfl⟩ := Search.unique searched' searched
    refine ⟨_, rfl, fun x hx => ?_⟩
    exact ⟨_, List.mem_singleton.1 hx⟩
  | accepted parsed' searched' verdict =>
    cases parsed.symm.trans parsed'
    obtain ⟨⟨⟩, rfl⟩ := Search.unique searched' searched
    exact ⟨[], (List.append_nil _).symm, nofun⟩

end Checked

end DirectoryCheck

-- ======================================================= whole sessions

section Sessions

open DirectoryCheck (Reaches tried)

variable {κ δ σ γ : Type} [Connector κ σ] [Wire σ] [DirectoryService δ γ]
  [DirectoryConnection γ]

/-- The first message of a session that a directory checks. -/
theorem Session.checked (config : DirectoryConfig) (message : Bytes)
    (world : World κ δ) :
    ∃ answer service' check ops,
      (Session.evaluate message).run
          ⟨world, (.directory config .fresh : Session σ γ)⟩ =
        ⟨answer, ⟨{ world with directory := service' },
          .directory config check⟩, ops.map .directory⟩
      ∧ DirectoryCheck.Checked config message world.directory answer check
        ops := by
  rcases hr : (DirectoryCheck.evaluate config message).run
    (⟨world.directory, .fresh⟩ : Desk δ (DirectoryCheck γ))
    with ⟨answer, ⟨service', check⟩, u⟩
  obtain ⟨ops, rfl, hchecked⟩ := DirectoryCheck.checked hr
  refine ⟨answer, service', check, ops, ?_, hchecked⟩
  rw [run_evaluate_directory, hr]

/-- Whom a session lets in that a directory checks: exactly those whose message
holds credentials, on whose behalf an endpoint connects, and whose password
stands the trial on that connection, the reset included. The client is refused
exactly if the directory said that the credentials are invalid and then forgot
the user; every fault is reported as what it is, that of the bind before that
of the reset. Nothing is asked of a directory over a message that holds no
credentials, and nothing but the search and the trial over one that does. -/
theorem DirectoryCheck.verification_exact (config : DirectoryConfig)
    (message : Bytes) (world : World κ δ) :
    let run := (Session.evaluate message).run
      ⟨world, (.directory config .fresh : Session σ γ)⟩
    (∀ reply, run.result = .ok reply ↔ reply = [] ∧ ∃ credentials c,
      Reaches config message world.directory credentials c
        ∧ (tried config credentials c).answer = .ok ()
        ∧ (tried config credentials c).reset = .ok ())
    ∧ (∀ reply, run.result = .ok reply →
        run.state.session.outcome = some .success
        ∧ ∃ credentials, PlainCredentials.parse message = .ok credentials
          ∧ run.state.session.authorizationId = .ok credentials.username)
    ∧ (∀ e, run.result = .error e →
        run.state.session.outcome = some .failure)
    ∧ (run.result = .error .rejected ↔ ∃ credentials c,
        Reaches config message world.directory credentials c
          ∧ (tried config credentials c).answer = .error .invalidCredentials
          ∧ (tried config credentials c).reset = .ok ())
    ∧ (∀ credentials c e,
        Reaches config message world.directory credentials c →
        (tried config credentials c).answer = .error e →
        e ≠ .invalidCredentials → run.result = .error (.directory e))
    ∧ (∀ credentials c e,
        Reaches config message world.directory credentials c →
        (tried config credentials c).answer = .ok ()
          ∨ (tried config credentials c).answer
            = .error .invalidCredentials →
        (tried config credentials c).reset = .error e →
        run.result = .error (.directory e))
    ∧ (∀ e, PlainCredentials.parse message = .error e →
        run.result = .error e ∧ run.events = [])
    ∧ ∀ credentials (c : γ) service' t,
        PlainCredentials.parse message = .ok credentials →
        config.endpoints.Tried config.failover world.directory (some c)
          service' t →
        ∃ closing, run.events =
            (t ++ (tried config credentials c).events ++ closing).map
              .directory
          ∧ ∀ x ∈ closing, ∃ answer, x = .close answer := by
  intro run
  obtain ⟨answer, service', check, ops, hrun, hchecked⟩ :=
    Session.checked (σ := σ) config message world
  have hresult : run.result = answer := congrArg Run.result hrun
  have hevents : run.events = ops.map .directory := congrArg Run.events hrun
  have hsession : run.state.session = .directory config check :=
    congrArg (fun r => r.state.session) hrun
  -- all that is asked about the run is known from its four ways
  rw [hresult, hevents, hsession]
  refine ⟨?_, ?_, ?_, ?_, ?_, ?_, ?_, ?_⟩
  · intro reply
    simp only [hchecked.eq_ok_iff, Trial.verdict_eq_ok]
  · rintro reply rfl
    cases hchecked with
    | accepted parsed => exact ⟨rfl, _, parsed, rfl⟩
  · rintro e rfl
    cases hchecked with
    | malformed | unreached | refused => rfl
  · simp only [hchecked.eq_rejected_iff, Trial.verdict_eq_rejected]
  · intro credentials c e reaches hanswer other
    rw [hchecked.of_reaches reaches, Trial.verdict_of_taken_error
      (Trial.taken_of_fault hanswer other)]
    rfl
  · intro credentials c e reaches hanswer hreset
    rw [hchecked.of_reaches reaches, Trial.verdict_of_taken_error
      (Trial.taken_of_unreset hanswer hreset)]
    rfl
  · intro e hparsed
    cases hchecked with
    | malformed parsed =>
      cases hparsed.symm.trans parsed
      exact ⟨rfl, rfl⟩
    | unreached parsed | refused parsed | accepted parsed =>
      rw [hparsed] at parsed
      cases parsed
  · intro credentials c service₁ t parsed searched
    obtain ⟨closing, rfl, hclosing⟩ := hchecked.ops_eq parsed searched
    exact ⟨closing, rfl, hclosing⟩

end Sessions

-- ============================================================= a rehearsal

namespace Rehearsal

open DirectoryCheck (Reaches tried)

/-- A directory of two servers, of which only the second can be reached. It
knows the user `u` with the password `p`. -/
def directoryWith
    (bindError anonymousError closeError : Option DirectoryError) :
    Directory where
  reachable := ["ldap://b:389"]
  failures := []
  entries := [("uid=u,dc=x", "p")]
  bindError
  anonymousError
  closeError
  mechanisms := []

/-- The servers, to be tried one after the other. -/
def directoryConfig : DirectoryConfig where
  endpoints := ⟨[.onHost .ldap "a", .onHost .ldap "b"], nofun⟩
  mode := .simple ⟨"uid=".toList, ",dc=x".toList⟩
  failover := .sequential

/-- What comes of the message of the user `u` with the password `p`. -/
def directoryRun (d : Directory) :
    Run Event (Desk (World Remote Directory) Actor) AuthError Bytes :=
  (Session.evaluate plainMessage).run
    ⟨⟨⟨[], 0⟩, d⟩, .directory directoryConfig .fresh⟩

/-- The message gets as far as a trial on the second server. -/
theorem reaches_second {d : Directory}
    (reachable : d.reachable = ["ldap://b:389"]) (failures : d.failures = []) :
    Reaches directoryConfig plainMessage d ⟨"", "u", "p"⟩ d := by
  have hfirst : (Endpoint.onHost .ldap "a").url = "ldap://a:389" := by
    decide +kernel
  have hsecond : (Endpoint.onHost .ldap "b").url = "ldap://b:389" := by
    decide +kernel
  have hrefused : DirectoryService.connect (Endpoint.onHost .ldap "a") d =
      (.error (.io .connectionRefused), d) := by
    simp [DirectoryService.connect, Directory.connect, hfirst, reachable,
      failures]
  have hreached : DirectoryService.connect (Endpoint.onHost .ldap "b") d =
      (.ok d, d) := by
    simp [DirectoryService.connect, Directory.connect, hsecond, reachable]
  exact ⟨Act.eq_ok_of_toOption (by decide +kernel), d, _,
    .refused hrefused (.reached hreached)⟩

/-- The user is let in over the second server. A bind that fails there is
reported as it failed, although the reset that follows it fails as well. -/
theorem verification_exact_rehearsal :
    (directoryRun (directoryWith none none none)).result = .ok []
    ∧ (directoryRun (directoryWith none none none)).state.session.outcome
      = some .success
    ∧ (directoryRun (directoryWith (some (.resultCode 52 "busy"))
        (some .closed) none)).result
      = .error (.directory (.resultCode 52 "busy")) := by
  obtain ⟨hexact, hsuccess, -⟩ :=
    DirectoryCheck.verification_exact (σ := Socket) directoryConfig
      plainMessage (κ := Remote) ⟨⟨[], 0⟩, directoryWith none none none⟩
  have haccepted :=
    (hexact []).2 ⟨rfl, _, _, reaches_second rfl rfl,
      Act.eq_ok_of_toOption (by decide +kernel),
      Act.eq_ok_of_toOption (by decide +kernel)⟩
  obtain ⟨-, -, -, -, hfault, -⟩ :=
    DirectoryCheck.verification_exact (σ := Socket) directoryConfig
      plainMessage (κ := Remote) ⟨⟨[], 0⟩,
        directoryWith (some (.resultCode 52 "busy")) (some .closed) none⟩
  refine ⟨haccepted, (hsuccess [] haccepted).1, ?_⟩
  exact hfault _ _ _ (reaches_second rfl rfl) rfl nofun

end Rehearsal

end SaslGate
