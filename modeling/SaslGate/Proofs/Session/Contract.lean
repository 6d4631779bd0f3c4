/-
What a host may rely on, whichever of the three kinds of session it drives.
A message either finds its session complete, and then nothing happens, or it
completes the session if it fails (`evaluate_cases`). No other call touches
the outcome or the identity, so both stay as they are once a session is
complete (`Course.settled`). A session that succeeded knows whom it let in,
because every way to success takes note of an identity (`founded_of_course`).
-/
import SaslGate.Proofs.Session.Directory
import SaslGate.Proofs.Session.Plain
import SaslGate.Proofs.Session.Scram

namespace SaslGate

namespace Session

variable {κ δ σ γ : Type}

-- ====================================================== the vocabulary

/-- A session of any kind that has not been asked anything. -/
inductive IsFresh : Session σ γ → Prop
  | plain (config : RemoteConfig) : IsFresh (.plain config .fresh)
  | scram (config : RemoteConfig) (mechanism : ScramMechanism) :
      IsFresh (.scram config (.fresh mechanism))
  | directory (config : DirectoryConfig) :
      IsFresh (.directory config .fresh)

/-- A success has an identity to it. -/
def Founded (s : Session σ γ) : Prop :=
  s.outcome = some .success → ∃ id, s.noted = some id

/-- An identity is handed out on success, and only then. -/
theorem Founded.authorized_iff {s : Session σ γ} (h : s.Founded) :
    (∃ id, s.authorizationId = .ok id) ↔ s.outcome = some .success := by
  unfold authorizationId authorized
  constructor
  · rintro ⟨id, hid⟩
    split at hid
    · assumption
    · cases hid
  · intro hsuccess
    obtain ⟨id, hid⟩ := h hsuccess
    rw [hsuccess, hid]
    exact ⟨id, rfl⟩

/-- A session is complete exactly if it has an outcome. -/
theorem isComplete_iff {s : Session σ γ} :
    s.isComplete = true ↔ s.outcome ≠ none := by
  rw [isComplete_eq]
  exact Option.isSome_iff_ne_none

/-- What a session keeps to itself, a complete one hands out as it is. -/
theorem ifComplete_eq_ok {s : Session σ γ} {a b : α} :
    s.ifComplete a = .ok b ↔ s.isComplete = true ∧ a = b := by
  unfold ifComplete
  cases s.isComplete with
  | true => simp
  | false => simp

/-- An incomplete session refuses with one error. -/
theorem ifComplete_eq_error {s : Session σ γ} {a : α} {e : AuthError} :
    s.ifComplete a = .error e ↔ s.isComplete = false ∧ e = .notYetComplete := by
  unfold ifComplete
  cases s.isComplete with
  | true => simp
  | false => simp [eq_comm]

-- ========================================================== single calls

/-- Letting go of a connection touches neither outcome nor identity. -/
theorem run_dispose_keeps [Wire σ] [DirectoryConnection γ]
    (d : Desk (World κ δ) (Session σ γ)) :
    (dispose.run d).state.session.outcome = d.session.outcome
      ∧ (dispose.run d).state.session.noted = d.session.noted := by
  obtain ⟨⟨connector, directory⟩, session⟩ := d
  cases session with
  | plain config relay =>
    simp [dispose, serve, PlainRelay.run_release, outcome, noted]
  | scram config relay =>
    simp [dispose, serve, ScramRelay.run_release, outcome, noted]
  | directory config check =>
    simp [dispose, serve, DirectoryCheck.run_dispose, outcome, noted]

section Calls

variable [Connector κ σ] [Wire σ] [DirectoryService δ γ]
  [DirectoryConnection γ] {d d' : Desk (World κ δ) (Session σ γ)}
  {message : Bytes} {answer : Except AuthError Bytes} {t : List Event}

/-- The two ways of a message: it comes too late, and nothing happens, or the
session is over without success if it fails. -/
theorem evaluate_cases
    (h : (evaluate message).run d = ⟨answer, d', t⟩) :
    (d.session.outcome ≠ none ∧ answer = .error .notYetComplete
        ∧ d' = d ∧ t = [])
    ∨ (d.session.outcome = none
        ∧ ∀ e, answer = .error e → d'.session.outcome = some .failure) := by
  obtain ⟨⟨connector, directory⟩, session⟩ := d
  cases session with
  | plain config relay =>
    rcases hr : (PlainRelay.evaluate config message).run ⟨connector, relay⟩
      with ⟨answer₁, d₁, t₁⟩
    rw [run_evaluate_plain, hr] at h
    cases h
    rcases PlainRelay.evaluate_cases hr with ⟨hdone, rfl, rfl, rfl⟩
      | ⟨hopen, d₂, t₂, -, -, hsession⟩
    · exact .inl ⟨Option.isSome_iff_ne_none.1 hdone, rfl, rfl, rfl⟩
    · refine .inr ⟨hopen, ?_⟩
      rintro e rfl
      rw [hsession]
      rfl
  | scram config relay =>
    rcases hr : (ScramRelay.evaluate config message).run ⟨connector, relay⟩
      with ⟨answer₁, d₁, t₁⟩
    rw [run_evaluate_scram, hr] at h
    cases h
    rcases ScramRelay.evaluate_cases hr with ⟨hdone, rfl, rfl, rfl⟩
      | ⟨hopen, d₂, t₂, -, hend⟩
    · exact .inl ⟨Option.isSome_iff_ne_none.1 hdone, rfl, rfl, rfl⟩
    · refine .inr ⟨hopen, ?_⟩
      rintro e rfl
      rcases hend with ⟨hgoes, -⟩ | ⟨-, hsession, -⟩
      · cases hgoes
      · rw [hsession]
        rfl
  | directory config check =>
    rcases hr : (DirectoryCheck.evaluate config message).run ⟨directory, check⟩
      with ⟨answer₁, d₁, t₁⟩
    rw [run_evaluate_directory, hr] at h
    cases h
    rcases DirectoryCheck.evaluate_cases hr with ⟨hdone, rfl, rfl, rfl⟩
      | ⟨hopen, d₂, t₂, -, hend⟩
    · exact .inl ⟨Option.isSome_iff_ne_none.1 hdone, rfl, rfl, rfl⟩
    · refine .inr ⟨hopen, ?_⟩
      rintro e rfl
      rcases hend with ⟨⟨reply, hreply⟩, -⟩ | ⟨-, -, hsession⟩
      · cases hreply
      · rw [hsession]
        rfl

/-- A message that comes too late is turned away, and nothing happens. -/
theorem run_evaluate_complete (message : Bytes)
    (complete : d.session.outcome ≠ none) :
    (evaluate message).run d = ⟨.error .notYetComplete, d, []⟩ := by
  rcases hr : (evaluate message).run d with ⟨answer, d', t⟩
  rcases evaluate_cases hr with ⟨-, rfl, rfl, rfl⟩ | ⟨hopen, -⟩
  · rfl
  · exact absurd hopen complete

/-- A message that fails ends the session without success. -/
theorem outcome_of_failed {e : AuthError} (incomplete : d.session.outcome = none)
    (failed : ((evaluate message).run d).result = .error e) :
    ((evaluate message).run d).state.session.outcome = some .failure := by
  rcases hr : (evaluate message).run d with ⟨answer, d', t⟩
  rw [hr] at failed
  rcases evaluate_cases hr with ⟨hdone, -⟩ | ⟨-, hfailure⟩
  · exact absurd incomplete hdone
  · exact hfailure e failed

end Calls

end Session

-- =========================================================== whole sessions

section Courses

variable {κ δ σ γ : Type} [Connector κ σ] [Wire σ] [DirectoryService δ γ]
  [DirectoryConnection γ] {start s s' : Session σ γ} {c : HostCall}
  {calls : List HostCall} {t u : List Event}

/-- No call touches the outcome or the identity of a complete session. -/
theorem Served.settled (h : Served κ δ s c u s')
    (complete : s.outcome ≠ none) :
    s'.outcome = s.outcome ∧ s'.noted = s.noted := by
  cases h with
  | evaluate message d =>
    rw [Session.run_evaluate_complete message complete]
    exact ⟨rfl, rfl⟩
  | dispose d => exact Session.run_dispose_keeps d
  | wrap | unwrap | property | authorizationId => exact ⟨rfl, rfl⟩

/-- Nor does any number of calls. -/
theorem Course.settled (h : Course κ δ s calls t s')
    (complete : s.outcome ≠ none) :
    s'.outcome = s.outcome ∧ s'.noted = s.noted := by
  induction h with
  | start => exact ⟨rfl, rfl⟩
  | @call calls t u s₁ s₂ c before served ih =>
    obtain ⟨houtcome, hnoted⟩ := ih
    obtain ⟨houtcome', hnoted'⟩ := served.settled (houtcome ▸ complete)
    exact ⟨houtcome'.trans houtcome, hnoted'.trans hnoted⟩

/-- One call leaves a session that a directory checks with an identity, if
with success. -/
theorem DirectoryCheck.founded_served {config : DirectoryConfig}
    {check : DirectoryCheck γ}
    (h : (Session.directory config check : Session σ γ).Founded)
    (served : Served κ δ (.directory config check) c u s) :
    ∃ check', s = .directory config check' ∧ s.Founded := by
  rcases served.directory with ⟨message, service, r, hr, -, -, rfl⟩
    | ⟨service, r, rfl, -, -, rfl⟩ | ⟨-, -, rfl⟩
  · refine ⟨_, rfl, ?_⟩
    obtain ⟨answer, d', v⟩ := r
    rcases DirectoryCheck.evaluate_cases hr.symm with ⟨-, -, rfl, -⟩
      | ⟨-, d₁, t₁, hverify, ⟨⟨reply, rfl⟩, -, hsession⟩ | ⟨-, -, hsession⟩⟩
    · exact h
    · intro _
      obtain ⟨-, credentials, -, hid⟩ := DirectoryCheck.verify_inv hverify
      refine ⟨credentials.username, ?_⟩
      show d'.session.authorizationId = some credentials.username
      rw [hsession]
      exact hid
    · intro hsuccess
      change d'.session.outcome = some .success at hsuccess
      rw [hsession] at hsuccess
      cases hsuccess
  · refine ⟨_, rfl, ?_⟩
    rw [DirectoryCheck.run_dispose]
    exact h
  · exact ⟨check, rfl, h⟩

/-- Every session that began afresh has an identity, if it succeeded. -/
theorem Session.founded_of_course (fresh : start.IsFresh)
    (course : Course κ δ start calls t s) : s.Founded := by
  cases fresh with
  | plain config =>
    obtain ⟨relay, rfl, hstands⟩ := PlainRelay.stands_of_course course
    intro hsuccess
    generalize evaluations calls = es at hstands
    cases hstands with
    | fresh => cases hsuccess
    | @answered message answer later t identity verdict =>
      cases answer with
      | error e => cases hsuccess
      | ok reply =>
        obtain ⟨-, credentials, x, -, hid, -⟩ := verdict
        exact ⟨credentials.username, hid⟩
  | scram config mechanism =>
    obtain ⟨relay, rfl, hstands⟩ := ScramRelay.stands_of_course course
    intro hsuccess
    change relay.stage.outcome = some .success at hsuccess
    generalize evaluations calls = es at hstands
    cases hstands with
    | fresh => cases hsuccess
    | waiting => cases hsuccess
    | accepted => exact ⟨_, rfl⟩
    | lost failed =>
      rw [failed] at hsuccess
      cases hsuccess
  | directory config =>
    -- relays are founded by what they stand for, a check by induction
    have key : ∃ check, s = .directory config check ∧ s.Founded := by
      induction course with
      | start => exact ⟨.fresh, rfl, nofun⟩
      | @call calls t u s s' c before served ih =>
        obtain ⟨check, rfl, hfounded⟩ := ih
        exact DirectoryCheck.founded_served hfounded served
    obtain ⟨-, -, hfounded⟩ := key
    exact hfounded

/-- The contract of all three kinds of session, whatever a host asks of them
and whatever their peers do. A message that fails on an incomplete session
ends it without success. A complete session stays as it is, through any
further calls, and turns every message away without an effect. There is an
identity exactly after success, and bytes pass, unchanged, exactly if the
session is complete. -/
theorem Session.verifier_contract (fresh : start.IsFresh)
    (course : Course κ δ start calls t s) :
    s.isComplete = s.outcome.isSome
    ∧ (∀ (world : World κ δ) message e, s.isComplete = false →
        ((Session.evaluate message).run ⟨world, s⟩).result = .error e →
        ((Session.evaluate message).run ⟨world, s⟩).state.session.outcome
          = some .failure)
    ∧ (s.isComplete = true → ∀ later u s', Course κ δ s later u s' →
        s'.outcome = s.outcome ∧ s'.authorizationId = s.authorizationId
        ∧ ∀ (world : World κ δ) message,
          (Session.evaluate message).run ⟨world, s'⟩
            = ⟨.error .notYetComplete, ⟨world, s'⟩, []⟩)
    ∧ ((∃ id, s.authorizationId = .ok id) ↔ s.outcome = some .success)
    ∧ ∀ bytes out e,
      ((s.wrap bytes = .ok out ↔ s.isComplete = true ∧ bytes = out)
        ∧ (s.wrap bytes = .error e
          ↔ s.isComplete = false ∧ e = .notYetComplete))
      ∧ (s.unwrap bytes = .ok out ↔ s.isComplete = true ∧ bytes = out)
        ∧ (s.unwrap bytes = .error e
          ↔ s.isComplete = false ∧ e = .notYetComplete) := by
  refine ⟨s.isComplete_eq, ?_, ?_,
    (Session.founded_of_course fresh course).authorized_iff, ?_⟩
  · intro world message e hopen hfailed
    have hnone : s.outcome = none := by
      simpa [Session.isComplete_eq] using hopen
    exact Session.outcome_of_failed (d := ⟨world, s⟩) hnone hfailed
  · intro hcomplete later u s' hlater
    -- a complete session is settled, and settled sessions stay so
    have hdone := Session.isComplete_iff.1 hcomplete
    obtain ⟨houtcome, hnoted⟩ := hlater.settled hdone
    refine ⟨houtcome, ?_, ?_⟩
    · rw [Session.authorizationId, houtcome, hnoted]
      rfl
    · intro world message
      exact Session.run_evaluate_complete message (houtcome ▸ hdone)
  · intro bytes out e
    exact ⟨⟨Session.ifComplete_eq_ok, Session.ifComplete_eq_error⟩,
      Session.ifComplete_eq_ok, Session.ifComplete_eq_error⟩

end Courses

-- ============================================================= a rehearsal

namespace Rehearsal

/-- A session that let the user `u` in, and what it makes of a second
message and of bytes on their way out. -/
theorem verifier_contract_rehearsal :
    plainRun.state.session.outcome = some .success
    ∧ (∃ id, plainRun.state.session.authorizationId = .ok id)
    ∧ (Session.evaluate plainMessage).run plainRun.state
      = ⟨.error .notYetComplete, plainRun.state, []⟩
    ∧ plainRun.state.session.wrap [1] = .ok [1] := by
  have hsuccess : plainRun.state.session.outcome = some .success := by
    decide +kernel
  have hcomplete : plainRun.state.session.isComplete = true := by
    rw [Session.isComplete_eq, hsuccess]
    rfl
  obtain ⟨-, -, hstays, hidentity, hbytes⟩ :=
    Session.verifier_contract (.plain _) plainCourse
  refine ⟨hsuccess, hidentity.2 hsuccess, ?_, ?_⟩
  · exact (hstays hcomplete _ _ _ .start).2.2 _ _
  · exact (hbytes [1] [1] .notYetComplete).1.1.2 ⟨hcomplete, rfl⟩

end Rehearsal

end SaslGate
