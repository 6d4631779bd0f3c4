/-
Actions: computations over a state that may fail and that leave a trace of
what they did to the outside world. An action that fails still leaves its
state and its trace behind, because a peer does not take back what was
sent to it. All input and output of the library is written as actions over
the state of the peers, so a run is an ordinary value: what a session did,
in which order, and what came of it.
-/

namespace SaslGate

/-- What an action comes to: its result, the state it leaves, and the
events it caused, in order. -/
structure Run (τ σ ε α : Type) where
  result : Except ε α
  state : σ
  events : List τ

/-- The same run, after the events of an earlier one. -/
def Run.after (events : List τ) (r : Run τ σ ε α) : Run τ σ ε α :=
  { r with events := events ++ r.events }

@[simp] theorem Run.result_after (t : List τ) (r : Run τ σ ε α) :
    (r.after t).result = r.result := rfl

@[simp] theorem Run.state_after (t : List τ) (r : Run τ σ ε α) :
    (r.after t).state = r.state := rfl

@[simp] theorem Run.events_after (t : List τ) (r : Run τ σ ε α) :
    (r.after t).events = t ++ r.events := rfl

/-- An action over a state `σ`: it yields an `α` or fails with an `ε`, and
its events are of type `τ`. -/
structure Act (τ σ ε α : Type) where
  run : σ → Run τ σ ε α

namespace Act

-- ============================================================ sequencing

/-- Stops with an error. -/
def fail (e : ε) : Act τ σ ε α := ⟨fun s => ⟨.error e, s, []⟩⟩

/-- One action and, if it succeeds, another. -/
protected def bind (x : Act τ σ ε α) (f : α → Act τ σ ε β) : Act τ σ ε β :=
  ⟨fun s =>
    match x.run s with
    | ⟨.ok a, s', events⟩ => ((f a).run s').after events
    | ⟨.error e, s', events⟩ => ⟨.error e, s', events⟩⟩

instance : Monad (Act τ σ ε) where
  pure a := ⟨fun s => ⟨.ok a, s, []⟩⟩
  bind := Act.bind

@[simp] theorem run_pure (a : α) (s : σ) :
    (pure a : Act τ σ ε α).run s = ⟨.ok a, s, []⟩ := rfl

@[simp] theorem run_fail (e : ε) (s : σ) :
    (fail e : Act τ σ ε α).run s = ⟨.error e, s, []⟩ := rfl

theorem run_bind (x : Act τ σ ε α) (f : α → Act τ σ ε β) (s : σ) :
    (x >>= f).run s =
      match x.run s with
      | ⟨.ok a, s', events⟩ => ((f a).run s').after events
      | ⟨.error e, s', events⟩ => ⟨.error e, s', events⟩ := rfl

/-- A sequence goes on with its second part, behind the events of the first.
-/
theorem run_bind_ok {x : Act τ σ ε α} {s s' : σ} {a : α} {t : List τ}
    (f : α → Act τ σ ε β) (h : x.run s = ⟨.ok a, s', t⟩) :
    (x >>= f).run s = ((f a).run s').after t := by
  rw [run_bind, h]

/-- A first part that fails is all of the sequence. -/
theorem run_bind_error {x : Act τ σ ε α} {s s' : σ} {e : ε} {t : List τ}
    (f : α → Act τ σ ε β) (h : x.run s = ⟨.error e, s', t⟩) :
    (x >>= f).run s = ⟨.error e, s', t⟩ := by
  rw [run_bind, h]

/-- A sequence succeeds only through its first action. -/
theorem run_bind_inv {x : Act τ σ ε α} {f : α → Act τ σ ε β} {s : σ} {b : β}
    (h : ((x >>= f).run s).result = .ok b) :
    ∃ a s' t, x.run s = ⟨.ok a, s', t⟩ ∧ ((f a).run s').result = .ok b
      ∧ (x >>= f).run s = ((f a).run s').after t := by
  rcases hr : x.run s with ⟨r, s', t⟩
  cases r with
  | error e =>
    rw [run_bind_error f hr] at h
    cases h
  | ok a =>
    rw [run_bind_ok f hr] at h
    exact ⟨a, s', t, rfl, h, run_bind_ok f hr⟩

-- ============================================================ primitives

/-- The state. -/
def state : Act τ σ ε σ := ⟨fun s => ⟨.ok s, s, []⟩⟩

/-- Replaces the state by a function of it. -/
def update (f : σ → σ) : Act τ σ ε Unit := ⟨fun s => ⟨.ok (), f s, []⟩⟩

/-- A step of the state that may fail, without an event. -/
def step (f : σ → Except ε α × σ) : Act τ σ ε α :=
  ⟨fun s => ⟨(f s).1, (f s).2, []⟩⟩

/-- A step of the state whose answer, good or bad, is an event. -/
def ask (event : Except ε α → τ) (f : σ → Except ε α × σ) : Act τ σ ε α :=
  ⟨fun s => ⟨(f s).1, (f s).2, [event (f s).1]⟩⟩

/-- A result that is already known. -/
def ofExcept (r : Except ε α) : Act τ σ ε α := ⟨fun s => ⟨r, s, []⟩⟩

/-- Runs an action and hands on its result, be it a failure. -/
def attempt (x : Act τ σ ε α) : Act τ σ δ (Except ε α) :=
  ⟨fun s => ⟨.ok (x.run s).result, (x.run s).state, (x.run s).events⟩⟩

/-- Fails with another error. -/
def orElse (f : ε → δ) (x : Act τ σ ε α) : Act τ σ δ α :=
  ⟨fun s =>
    ⟨(x.run s).result.mapError f, (x.run s).state, (x.run s).events⟩⟩

@[simp] theorem mapError_ok (f : ε → δ) (a : α) :
    (.ok a : Except ε α).mapError f = .ok a := rfl

@[simp] theorem mapError_error (f : ε → δ) (e : ε) :
    (.error e : Except ε α).mapError f = .error (f e) := rfl

/-- Names the events of an action anew. -/
def label (f : τ → υ) (x : Act τ σ ε α) : Act υ σ ε α :=
  ⟨fun s => ⟨(x.run s).result, (x.run s).state, (x.run s).events.map f⟩⟩

/-- Runs an action on a part of the state. -/
def focus (part : σ → ρ) (put : ρ → σ → σ) (x : Act τ ρ ε α) :
    Act τ σ ε α :=
  ⟨fun s =>
    let r := x.run (part s)
    ⟨r.result, put r.state s, r.events⟩⟩

/-- Runs an action on a state of its own and hands on what it left. -/
def inside (own : ρ) (x : Act τ ρ ε α) : Act τ σ δ (Except ε α × ρ) :=
  ⟨fun s =>
    let r := x.run own
    ⟨.ok (r.result, r.state), s, r.events⟩⟩

@[simp] theorem run_state (s : σ) :
    (state : Act τ σ ε σ).run s = ⟨.ok s, s, []⟩ := rfl

@[simp] theorem run_update (f : σ → σ) (s : σ) :
    (update f : Act τ σ ε Unit).run s = ⟨.ok (), f s, []⟩ := rfl

@[simp] theorem run_ofExcept (r : Except ε α) (s : σ) :
    (ofExcept r : Act τ σ ε α).run s = ⟨r, s, []⟩ := rfl

-- ============================================================ repetition

/-- Repeats an action from a state, as long as it asks for another turn. -/
def iterateFrom (turn : Act τ σ ε Bool) (measure : σ → Nat)
    (lowers : ∀ s, (turn.run s).result = .ok true →
      measure (turn.run s).state < measure s) (s : σ) : Run τ σ ε Unit :=
  match _h : (turn.run s).result with
  | .ok true =>
    (iterateFrom turn measure lowers (turn.run s).state).after
      (turn.run s).events
  | .ok false => ⟨.ok (), (turn.run s).state, (turn.run s).events⟩
  | .error e => ⟨.error e, (turn.run s).state, (turn.run s).events⟩
termination_by measure s
decreasing_by exact lowers s _h

/-- Repeats an action as long as it asks for another turn. It has to lower
a measure of the state whenever it does, so the repetition ends. -/
def iterate (turn : Act τ σ ε Bool) (measure : σ → Nat)
    (lowers : ∀ s, (turn.run s).result = .ok true →
      measure (turn.run s).state < measure s) : Act τ σ ε Unit :=
  ⟨iterateFrom turn measure lowers⟩

section Turns

variable {turn : Act τ σ ε Bool} {m : σ → Nat} {s : σ}
  {w : ∀ s, (turn.run s).result = .ok true →
    m (turn.run s).state < m s}

/-- A turn that asks for another is followed by the whole repetition. -/
theorem run_iterate_again (h : (turn.run s).result = .ok true) :
    (iterate turn m w).run s =
      ((iterate turn m w).run (turn.run s).state).after
        (turn.run s).events := by
  simp only [iterate]
  rw [iterateFrom]
  split <;> simp_all

/-- A turn that fails ends the repetition, with its error. -/
theorem run_iterate_error {e : ε} (h : (turn.run s).result = .error e) :
    (iterate turn m w).run s =
      ⟨.error e, (turn.run s).state, (turn.run s).events⟩ := by
  simp only [iterate]
  rw [iterateFrom]
  split <;> simp_all

end Turns

-- ============================================== measures along an action

/-- An action never raises a measure, whether it fails or not. -/
def Keeps (measure : σ → Nat) (x : Act τ σ ε α) : Prop :=
  ∀ s, measure (x.run s).state ≤ measure s

section Measures

variable {measure : σ → Nat}

theorem keeps_pure (a : α) : (pure a : Act τ σ ε α).Keeps measure :=
  fun _ => Nat.le_refl _

theorem keeps_fail (e : ε) : (fail e : Act τ σ ε α).Keeps measure :=
  fun _ => Nat.le_refl _

theorem keeps_state : (state : Act τ σ ε σ).Keeps measure :=
  fun _ => Nat.le_refl _

theorem keeps_ofExcept (r : Except ε α) :
    (ofExcept r : Act τ σ ε α).Keeps measure := fun _ => Nat.le_refl _

theorem Keeps.attempt {x : Act τ σ ε α} (h : x.Keeps measure) :
    (x.attempt : Act τ σ δ (Except ε α)).Keeps measure := h

theorem Keeps.orElse {x : Act τ σ ε α} {f : ε → δ} (h : x.Keeps measure) :
    (x.orElse f).Keeps measure := h

/-- A measure that neither part adds to is not added to by the sequence. -/
theorem Keeps.bind {x : Act τ σ ε α} {f : α → Act τ σ ε β}
    (hx : x.Keeps measure) (hf : ∀ a, (f a).Keeps measure) :
    (x >>= f).Keeps measure := by
  intro s
  have h := hx s
  rw [run_bind]
  rcases hr : x.run s with ⟨r, s', t⟩
  rw [hr] at h
  cases r with
  | error e => exact h
  | ok a => exact Nat.le_trans (hf a s') h

variable {turn : Act τ σ ε Bool} {m : σ → Nat}
  {w : ∀ s, (turn.run s).result = .ok true →
    m (turn.run s).state < m s}

/-- A measure that no turn adds to is not added to by a repetition. -/
theorem keeps_iterate (h : turn.Keeps measure) :
    (iterate turn m w).Keeps measure := by
  intro s
  show measure (iterateFrom turn m w s).state ≤ measure s
  fun_induction iterateFrom turn m w s with
  | case1 s _ ih => exact Nat.le_trans ih (h s)
  | case2 s => exact h s
  | case3 s => exact h s

/-- A repetition that took more than one turn has lowered the measure that
bounds it, if no turn ever raises it. -/
theorem iterate_lowers (keeps : turn.Keeps m) {s : σ}
    (more : (turn.run s).result ≠ .ok false)
    (done : ((iterate turn m w).run s).result = .ok ()) :
    m ((iterate turn m w).run s).state < m s := by
  match hr : (turn.run s).result with
  | .ok true =>
    rw [run_iterate_again hr]
    exact Nat.lt_of_le_of_lt
      (keeps_iterate (w := w) keeps _) (w s hr)
  | .ok false => exact absurd hr more
  | .error e =>
    rw [run_iterate_error hr] at done
    cases done

/-- What no turn changes, no repetition changes. -/
theorem iterate_preserves {β : Type} (view : σ → β)
    (h : ∀ s, view (turn.run s).state = view s) (s : σ) :
    view ((iterate turn m w).run s).state = view s := by
  show view (iterateFrom turn m w s).state = view s
  fun_induction iterateFrom turn m w s with
  | case1 s _ ih => exact ih.trans (h s)
  | case2 s => exact h s
  | case3 s => exact h s

end Measures

end Act

end SaslGate
