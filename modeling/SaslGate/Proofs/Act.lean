/-
What can be told from a run that is over. A sequence that ended well went
through both of its parts, and its trace is theirs, one after the other. A
repetition is a chain of turns that asked for another, and a last one that
did not.
-/
import SaslGate.Act

namespace SaslGate.Act

/-- A result is known by its value. -/
theorem eq_ok_of_toOption {r : Except ε α} {a : α}
    (h : r.toOption = some a) : r = .ok a := by
  cases r with
  | error e => cases h
  | ok b =>
    cases h
    rfl

-- ============================================================= sequences

/-- The two ways a sequence ends: with the failure of its first part, or
with the end of its second. -/
theorem bind_cases {x : Act τ σ ε α} {f : α → Act τ σ ε β} {s s' : σ}
    {r : Except ε β} {t : List τ} (h : (x >>= f).run s = ⟨r, s', t⟩) :
    (∃ e, r = .error e ∧ x.run s = ⟨.error e, s', t⟩)
    ∨ ∃ a s₁ t₁ t₂, x.run s = ⟨.ok a, s₁, t₁⟩
        ∧ (f a).run s₁ = ⟨r, s', t₂⟩ ∧ t = t₁ ++ t₂ := by
  rcases hx : x.run s with ⟨answer, s₁, t₁⟩
  cases answer with
  | error e =>
    rw [run_bind_error f hx] at h
    cases h
    exact .inl ⟨e, rfl, rfl⟩
  | ok a =>
    rw [run_bind_ok f hx] at h
    rcases hf : (f a).run s₁ with ⟨r₂, s₂, t₂⟩
    rw [hf] at h
    cases h
    exact .inr ⟨a, s₁, t₁, t₂, rfl, hf, rfl⟩

/-- A sequence that ended well went through both of its parts. -/
theorem bind_ok {x : Act τ σ ε α} {f : α → Act τ σ ε β} {s s' : σ} {b : β}
    {t : List τ} (h : (x >>= f).run s = ⟨.ok b, s', t⟩) :
    ∃ a s₁ t₁ t₂, x.run s = ⟨.ok a, s₁, t₁⟩
      ∧ (f a).run s₁ = ⟨.ok b, s', t₂⟩ ∧ t = t₁ ++ t₂ := by
  rcases bind_cases h with ⟨e, he, -⟩ | hparts
  · cases he
  · exact hparts

/-- Looking at the state leaves no trace. -/
theorem run_state_bind (f : σ → Act τ σ ε β) (s : σ) :
    (state >>= f).run s = (f s).run s := rfl

-- =========================================================== repetitions

section Turns

variable {turn : Act τ σ ε Bool} {m : σ → Nat}
  {w : ∀ s, (turn.run s).result = .ok true →
    m (turn.run s).state < m s}

/-- A repetition that is over after one turn is that turn. -/
theorem run_iterate_done {s : σ} (h : (turn.run s).result = .ok false) :
    (iterate turn m w).run s =
      ⟨.ok (), (turn.run s).state, (turn.run s).events⟩ := by
  simp only [iterate]
  rw [iterateFrom]
  split <;> simp_all

/-- What holds of a last turn, and of a turn and the rest of the
repetition, holds of the repetition. -/
theorem iterate_rec {P : σ → Run τ σ ε Unit → Prop}
    (again : ∀ s s' t r, turn.run s = ⟨.ok true, s', t⟩ → P s' r →
      P s (r.after t))
    (done : ∀ s s' t, turn.run s = ⟨.ok false, s', t⟩ → P s ⟨.ok (), s', t⟩)
    (failed : ∀ s e s' t, turn.run s = ⟨.error e, s', t⟩ →
      P s ⟨.error e, s', t⟩) (s : σ) :
    P s ((iterate turn m w).run s) := by
  show P s (iterateFrom turn m w s)
  -- along the turns, as the repetition takes them
  fun_induction iterateFrom turn m w s with
  | case1 s h ih =>
    refine again s (turn.run s).state (turn.run s).events _ ?_ ih
    rw [← h]
  | case2 s h =>
    refine done s (turn.run s).state (turn.run s).events ?_
    rw [← h]
  | case3 s e h =>
    refine failed s e (turn.run s).state (turn.run s).events ?_
    rw [← h]

end Turns

-- =================================================== failures ruled out

/-- An action never fails with one particular error. -/
def Avoids (e : ε) (x : Act τ σ ε α) : Prop :=
  ∀ s, (x.run s).result ≠ .error e

section Failures

variable {e : ε}

theorem avoids_pure (a : α) : (pure a : Act τ σ ε α).Avoids e :=
  fun _ => nofun

theorem avoids_state : (state : Act τ σ ε σ).Avoids e := fun _ => nofun

theorem avoids_fail {d : ε} (h : d ≠ e) :
    (fail d : Act τ σ ε α).Avoids e := by
  intro s hs
  cases hs
  exact h rfl

/-- A sequence fails with the failure of one of its parts. -/
theorem Avoids.bind {x : Act τ σ ε α} {f : α → Act τ σ ε β}
    (hx : x.Avoids e) (hf : ∀ a, (f a).Avoids e) : (x >>= f).Avoids e := by
  intro s hs
  rcases hr : (x >>= f).run s with ⟨r, s', t⟩
  rw [hr] at hs
  rcases bind_cases hr with ⟨d, hd, hx'⟩ | ⟨a, s₁, _, _, -, hf', -⟩
  · subst hd
    refine hx s ?_
    rw [hx', Except.error.inj hs]
  · exact hf a s₁ (by rw [hf']; exact hs)

/-- Acting on a part of the state brings no failure of its own. -/
theorem Avoids.focus {part : σ → ρ} {put : ρ → σ → σ} {x : Act τ ρ ε α}
    (hx : x.Avoids e) : (x.focus part put).Avoids e :=
  fun s => hx (part s)

end Failures

-- ================================================= what actions go along

/-- A relation between a state, what is done in it, and the state behind that.
Doing nothing obeys it, and so does doing one thing after the other. -/
structure Chain (R : σ → List τ → σ → Prop) : Prop where
  nil : ∀ s, R s [] s
  append : ∀ {s s' s'' t u}, R s t s' → R s' u s'' → R s (t ++ u) s''

/-- Whatever an action does goes along a relation, whether it fails or not. -/
def Along (R : σ → List τ → σ → Prop) (x : Act τ σ ε α) : Prop :=
  ∀ s, R s (x.run s).events (x.run s).state

section Chains

variable {R : σ → List τ → σ → Prop}

/-- What an action goes along is seen in each of its runs. -/
theorem Along.of_run {x : Act τ σ ε α} {s s' : σ} {r : Except ε α}
    {t : List τ} (h : x.Along R) (hr : x.run s = ⟨r, s', t⟩) : R s t s' := by
  have := h s
  rwa [hr] at this

/-- An action that leaves the state alone and no trace goes along any chain,
and so does one that only fails. -/
theorem Chain.pure (c : Chain R) (a : α) :
    (Pure.pure a : Act τ σ ε α).Along R := c.nil

theorem Chain.fail (c : Chain R) (e : ε) :
    (Act.fail e : Act τ σ ε α).Along R := c.nil

theorem Chain.state (c : Chain R) : (Act.state : Act τ σ ε σ).Along R := c.nil

theorem Chain.ofExcept (c : Chain R) (r : Except ε α) :
    (Act.ofExcept r : Act τ σ ε α).Along R := c.nil

/-- The relation looks at the state and the trace, so a failure may be caught
or renamed. -/
theorem Along.attempt {x : Act τ σ ε α} (h : x.Along R) :
    (x.attempt : Act τ σ δ (Except ε α)).Along R := h

theorem Along.orElse {x : Act τ σ ε α} {f : ε → δ} (h : x.Along R) :
    (x.orElse f).Along R := h

/-- A sequence goes along what both of its parts go along. -/
theorem Chain.bind (c : Chain R) {x : Act τ σ ε α} {f : α → Act τ σ ε β}
    (hx : x.Along R) (hf : ∀ a, (f a).Along R) : (x >>= f).Along R := by
  intro s
  rcases hr : (x >>= f).run s with ⟨r, s', t⟩
  rcases bind_cases hr with ⟨_, -, hx'⟩ | ⟨a, s₁, t₁, t₂, hx', hf', rfl⟩
  · exact hx.of_run hx'
  · exact c.append (hx.of_run hx') ((hf a).of_run hf')

/-- A repetition goes along what each of its turns goes along. -/
theorem Chain.iterate (c : Chain R) {turn : Act τ σ ε Bool} {m : σ → Nat}
    {w : ∀ s, (turn.run s).result = .ok true →
      m (turn.run s).state < m s} (h : turn.Along R) :
    (Act.iterate turn m w).Along R := by
  refine iterate_rec (P := fun s r => R s r.events r.state) ?_ ?_ ?_
  · exact fun s s' t r hturn hrest => c.append (h.of_run hturn) hrest
  · exact fun s s' t hturn => h.of_run hturn
  · exact fun s e s' t hturn => h.of_run hturn

end Chains

end SaslGate.Act
