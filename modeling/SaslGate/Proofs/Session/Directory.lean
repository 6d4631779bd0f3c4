/-
What a call does to a session that is checked by a directory. Its first
message completes it, with success exactly if the message was verified, and
a verified message leaves an identity behind. Every later message is turned
away.
-/
import SaslGate.Proofs.Course

namespace SaslGate.DirectoryCheck

variable {δ γ : Type} [DirectoryConnection γ]

-- ======================================================== single actions

/-- The trace of letting go of a connection, if there is one. -/
def farewell : Option (Binder γ) → List Event
  | none => []
  | some b => ((seen Binder.dispose).run b).events

/-- How closing the connection ends; without one it ends well. -/
def closing : Option (Binder γ) → Except DirectoryError Unit
  | none => .ok ()
  | some b => (Binder.dispose.run b).result

/-- Letting go of the connection closes it and keeps the answer. -/
theorem run_release (d : Desk δ (DirectoryCheck γ)) :
    release.run d = ⟨.ok (closing d.session.binder),
      { d with session := { d.session with binder := none } },
      farewell d.session.binder⟩ := by
  obtain ⟨opener, binder, outcome, authorizationId⟩ := d
  cases binder with
  | none => rfl
  | some b => rfl

/-- Disposing reports what closing came to. -/
theorem run_dispose (d : Desk δ (DirectoryCheck γ)) :
    dispose.run d = ⟨(closing d.session.binder).mapError .directory,
      { d with session := { d.session with binder := none } },
      farewell d.session.binder⟩ := by
  rw [dispose, Act.run_bind_ok _ (run_release d), Act.run_ofExcept]
  simp [Run.after]

variable [DirectoryService δ γ] {config : DirectoryConfig} {message : Bytes}
  {d d' : Desk δ (DirectoryCheck γ)} {t : List Event}

/-- A message that is verified holds credentials, and the session takes note
of the user. -/
theorem verify_inv {reply : Bytes}
    (h : (verify config message).run d = ⟨.ok reply, d', t⟩) :
    reply = [] ∧ ∃ credentials, PlainCredentials.parse message = .ok credentials
      ∧ d'.session.authorizationId = some credentials.username := by
  obtain ⟨credentials, d₁, t₁, t₂, hparse, hrest, -⟩ := Act.bind_ok h
  have hcredentials : PlainCredentials.parse message = .ok credentials :=
    congrArg Run.result hparse
  obtain ⟨_, d₂, _, u₂, -, hrest, -⟩ := Act.bind_ok hrest
  obtain ⟨_, d₃, _, v₂, -, hrest, -⟩ := Act.bind_ok hrest
  obtain ⟨taken, d₄, _, w₂, -, hend, -⟩ := Act.bind_ok hrest
  cases taken with
  | false => cases hend
  | true =>
    cases hend
    exact ⟨rfl, credentials, hcredentials, rfl⟩

/-- A message is checked once. Every later one is turned away. -/
theorem evaluate_cases {answer : Except AuthError Bytes}
    (h : (evaluate config message).run d = ⟨answer, d', t⟩) :
    (d.session.outcome.isSome = true ∧ answer = .error .notYetComplete
        ∧ d' = d ∧ t = [])
    ∨ (d.session.outcome = none ∧ ∃ d₁ t₁,
        (verify config message).run d = ⟨answer, d₁, t₁⟩
        ∧ ((∃ reply, answer = .ok reply) ∧ t = t₁
            ∧ d'.session = { d₁.session with outcome := some .success }
          ∨ (∃ e, answer = .error e) ∧ t = t₁ ++ farewell d₁.session.binder
            ∧ d'.session = { d₁.session with
                binder := none, outcome := some .failure })) := by
  have hcurrent : (Desk.current : Working δ (DirectoryCheck γ) _).run d =
      ⟨.ok d.session, d, []⟩ := rfl
  unfold evaluate at h
  rw [Act.run_bind_ok _ hcurrent] at h
  cases ho : d.session.outcome with
  | some outcome =>
    simp only [ho, Option.isSome_some, if_true] at h
    cases h
    exact .inl ⟨rfl, rfl, rfl, rfl⟩
  | none =>
    simp only [ho, Option.isSome_none, Bool.false_eq_true, if_false] at h
    rcases hd : (verify config message).run d with ⟨result, d₁, t₁⟩
    have hattempt : ((verify config message).attempt :
        Working δ (DirectoryCheck γ) _).run d = ⟨.ok result, d₁, t₁⟩ := by
      simp [Act.attempt, hd]
    rw [Act.run_bind_ok _ hattempt] at h
    cases result with
    | ok reply =>
      simp only [Act.run_bind, Desk.change, Act.run_update, Act.run_pure,
        Run.after, List.nil_append, List.append_nil] at h
      cases h
      exact .inr ⟨rfl, d₁, _, rfl, .inl ⟨⟨reply, rfl⟩, rfl, rfl⟩⟩
    | error e =>
      simp only [Act.run_bind, Desk.change, Act.run_update, run_release,
        Act.run_fail, Run.after, List.nil_append, List.append_nil] at h
      cases h
      exact .inr ⟨rfl, d₁, t₁, rfl, .inr ⟨⟨e, rfl⟩, rfl, rfl⟩⟩

end SaslGate.DirectoryCheck
