/-
Two actions side by side. They are in tandem if, begun in states that match,
they fail alike or yield values that match, leave states that match, and cause
as many events, each like its counterpart. What matches is a matter of choice:
of everything that a secret may not touch it is equality, and of what it may
touch only so much as others can see of it.

# Rules

There is a rule for each way of putting actions together, so a proof follows the
text of the program, or of two programs of one shape. A repetition takes as many
turns as its counterpart, because both ask for another turn at once
(`Tandem.iterate`).
-/
import Mathlib.Data.List.Forall2
import SaslGate.Proofs.Act

namespace SaslGate

/-- The same failure, or values that match. -/
inductive Alike (V : α → α → Prop) : Except ε α → Except ε α → Prop
  | ok {a b : α} (h : V a b) : Alike V (.ok a) (.ok b)
  | error (e : ε) : Alike V (.error e) (.error e)

/-- Alike with equal values is equal. -/
theorem Alike.eq {r r' : Except ε α} (h : Alike Eq r r') : r = r' := by
  cases h with
  | ok h => exact congrArg Except.ok h
  | error e => rfl

theorem alike_refl (r : Except ε α) : Alike Eq r r := by
  cases r with
  | ok a => exact .ok rfl
  | error e => exact .error e

/-- Two steps of the state that are answered alike. -/
def Agreeing (R : σ → σ → Prop) (f g : σ → α × σ) : Prop :=
  ∀ s s', R s s' → (f s).1 = (g s').1 ∧ R (f s).2 (g s').2

/-- A step agrees with itself if nothing is kept secret. -/
theorem agreeing_refl (f : σ → α × σ) : Agreeing Eq f f := by
  intro s s' hs
  cases hs
  exact ⟨rfl, rfl⟩

/-- Two runs that look the same. -/
structure Run.Tandem (E : τ → τ → Prop) (R : σ → σ → Prop) (V : α → α → Prop)
    (r r' : Run τ σ ε α) : Prop where
  result : Alike V r.result r'.result
  state : R r.state r'.state
  events : List.Forall₂ E r.events r'.events

namespace Act

/-- Two actions whose runs look the same. -/
def Tandem (E : τ → τ → Prop) (R : σ → σ → Prop) (V : α → α → Prop)
    (x y : Act τ σ ε α) : Prop :=
  ∀ s s', R s s' → (x.run s).Tandem E R V (y.run s')

namespace Tandem

variable {E : τ → τ → Prop} {R : σ → σ → Prop} {V : α → α → Prop}
  {W : β → β → Prop} {x y : Act τ σ ε α}

-- =============================================================== primitives

theorem pure {a b : α} (h : V a b) :
    Tandem E R V (Pure.pure a : Act τ σ ε α) (Pure.pure b) :=
  fun _ _ hs => ⟨.ok h, hs, .nil⟩

theorem fail (e : ε) :
    Tandem E R V (Act.fail e : Act τ σ ε α) (Act.fail e) :=
  fun _ _ hs => ⟨.error e, hs, .nil⟩

theorem state : Tandem E R R (Act.state : Act τ σ ε σ) Act.state :=
  fun _ _ hs => ⟨.ok hs, hs, .nil⟩

theorem update {f g : σ → σ} (h : ∀ s s', R s s' → R (f s) (g s')) :
    Tandem E R Eq (Act.update f : Act τ σ ε Unit) (Act.update g) :=
  fun s s' hs => ⟨.ok rfl, h s s' hs, .nil⟩

theorem ofExcept {r r' : Except ε α} (h : Alike V r r') :
    Tandem E R V (Act.ofExcept r) (Act.ofExcept r') :=
  fun _ _ hs => ⟨h, hs, .nil⟩

/-- Two steps that agree, as actions. -/
theorem step {f g : σ → Except ε α × σ} (h : Agreeing R f g) :
    Tandem E R Eq (Act.step f) (Act.step g) := by
  intro s s' hs
  obtain ⟨hanswer, hstate⟩ := h s s' hs
  refine ⟨?_, hstate, .nil⟩
  show Alike Eq (f s).1 (g s').1
  rw [hanswer]
  exact alike_refl _

/-- A step whose answer is an event. -/
theorem ask {event : Except ε α → τ} {f g : σ → Except ε α × σ}
    (same : ∀ e, E e e) (h : Agreeing R f g) :
    Tandem E R Eq (Act.ask event f) (Act.ask event g) := by
  intro s s' hs
  obtain ⟨hanswer, hstate⟩ := h s s' hs
  refine ⟨?_, hstate, ?_⟩
  · show Alike Eq (f s).1 (g s').1
    rw [hanswer]
    exact alike_refl _
  · show List.Forall₂ E [event (f s).1] [event (g s').1]
    rw [hanswer]
    exact .cons (same _) .nil

/-- An action beside itself. -/
theorem refl (same : ∀ e, E e e) (x : Act τ σ ε α) : Tandem E Eq Eq x x := by
  intro s s' hs
  cases hs
  exact ⟨alike_refl _, rfl, List.forall₂_same.2 fun e _ => same e⟩

-- ============================================================== sequences

/-- The second parts have to match for all values that the first may yield. -/
theorem bind {f g : α → Act τ σ ε β} (first : Tandem E R V x y)
    (second : ∀ a b, V a b → Tandem E R W (f a) (g b)) :
    Tandem E R W (x >>= f) (y >>= g) := by
  intro s s' hs
  have hfirst := first s s' hs
  rcases hx : x.run s with ⟨r, s₁, t⟩
  rcases hy : y.run s' with ⟨r', s₁', t'⟩
  rw [hx, hy] at hfirst
  obtain ⟨hresult, hstate, hevents⟩ := hfirst
  cases hresult with
  | @ok a b hab =>
    rw [run_bind_ok f hx, run_bind_ok g hy]
    -- values that match lead to second parts that do
    obtain ⟨hresult₂, hstate₂, hevents₂⟩ := second a b hab s₁ s₁' hstate
    exact ⟨hresult₂, hstate₂, List.rel_append hevents hevents₂⟩
  | error e =>
    rw [run_bind_error f hx, run_bind_error g hy]
    exact ⟨.error e, hstate, hevents⟩

/-- A first part whose values are equal. -/
theorem andThen {f g : α → Act τ σ ε β} (first : Tandem E R Eq x y)
    (second : ∀ a, Tandem E R W (f a) (g a)) :
    Tandem E R W (x >>= f) (y >>= g) := by
  refine first.bind ?_
  intro a b hab
  cases hab
  exact second a

/-- A choice that falls alike on both sides. -/
theorem ite_iff {c c' : Prop} [Decidable c] [Decidable c']
    {x' y' : Act τ σ ε α} (same : c ↔ c') (pos : Tandem E R V x y)
    (neg : Tandem E R V x' y') :
    Tandem E R V (if c then x else x') (if c' then y else y') := by
  by_cases hc : c
  · rw [if_pos hc, if_pos (same.1 hc)]
    exact pos
  · rw [if_neg hc, if_neg fun hc' => hc (same.2 hc')]
    exact neg

theorem ite {c : Prop} [Decidable c] {x' y' : Act τ σ ε α}
    (pos : Tandem E R V x y) (neg : Tandem E R V x' y') :
    Tandem E R V (if c then x else x') (if c then y else y') :=
  ite_iff Iff.rfl pos neg

/-- A failure that is handed on is a value like any other. -/
theorem attempt (h : Tandem E R V x y) :
    Tandem E R (Alike V) (x.attempt : Act τ σ δ _) y.attempt := by
  intro s s' hs
  obtain ⟨hresult, hstate, hevents⟩ := h s s' hs
  exact ⟨.ok hresult, hstate, hevents⟩

/-- A failure under another name, the same for both. -/
theorem orElse (f : ε → δ) (h : Tandem E R V x y) :
    Tandem E R V (x.orElse f) (y.orElse f) := by
  intro s s' hs
  obtain ⟨hresult, hstate, hevents⟩ := h s s' hs
  refine ⟨?_, hstate, hevents⟩
  show Alike V ((x.run s).result.mapError f) ((y.run s').result.mapError f)
  generalize (x.run s).result = r at hresult
  generalize (y.run s').result = r' at hresult
  cases hresult with
  | ok hab => exact .ok hab
  | error e => exact .error (f e)

/-- Events under new names. -/
theorem label {F : υ → υ → Prop} {f : τ → υ} (h : Tandem E R V x y)
    (names : ∀ e e', E e e' → F (f e) (f e')) :
    Tandem F R V (x.label f) (y.label f) := by
  intro s s' hs
  obtain ⟨hresult, hstate, hevents⟩ := h s s' hs
  refine ⟨hresult, hstate, ?_⟩
  show List.Forall₂ F ((x.run s).events.map f) ((y.run s').events.map f)
  rw [List.forall₂_map_left_iff, List.forall₂_map_right_iff]
  exact hevents.imp names

/-- Actions on a part of the state. -/
theorem focus {P : ρ → ρ → Prop} {part : σ → ρ} {put : ρ → σ → σ}
    {x y : Act τ ρ ε α} (h : Tandem E P V x y)
    (parts : ∀ s s', R s s' → P (part s) (part s'))
    (puts : ∀ p p' s s', P p p' → R s s' → R (put p s) (put p' s')) :
    Tandem E R V (x.focus part put) (y.focus part put) := by
  intro s s' hs
  obtain ⟨hresult, hstate, hevents⟩ := h _ _ (parts s s' hs)
  exact ⟨hresult, puts _ _ s s' hstate hs, hevents⟩

/-- Actions on a state of their own. -/
theorem inside {P : ρ → ρ → Prop} {own own' : ρ} {x y : Act τ ρ ε α}
    (h : Tandem E P V x y) (owned : P own own') :
    Tandem E R (fun p q => Alike V p.1 q.1 ∧ P p.2 q.2)
      (Act.inside own x : Act τ σ δ _) (Act.inside own' y) := by
  intro s s' hs
  obtain ⟨hresult, hstate, hevents⟩ := h own own' owned
  exact ⟨.ok ⟨hresult, hstate⟩, hs, hevents⟩

-- ============================================================ repetitions

section Turns

variable {turn turn' : Act τ σ ε Bool} {m m' : σ → Nat}
  {w : ∀ s, (turn.run s).result = .ok true → m (turn.run s).state < m s}
  {w' : ∀ s, (turn'.run s).result = .ok true →
    m' (turn'.run s).state < m' s}

/-- Repetitions whose turns are in tandem take as many of them. -/
theorem iterate (turns : Tandem E R Eq turn turn') :
    Tandem E R Eq (Act.iterate turn m w) (Act.iterate turn' m' w') := by
  intro s
  refine Act.iterate_rec (P := fun s r => ∀ s', R s s' →
    r.Tandem E R Eq ((Act.iterate turn' m' w').run s')) ?_ ?_ ?_ s
  · -- the result says whether there is another turn, on both sides alike
    intro s s₁ t r hturn ih s' hs
    obtain ⟨hresult, hstate, hevents⟩ := turns s s' hs
    rw [hturn] at hresult hstate hevents
    rw [run_iterate_again hresult.eq.symm]
    obtain ⟨hresult₁, hstate₁, hevents₁⟩ := ih _ hstate
    exact ⟨hresult₁, hstate₁, List.rel_append hevents hevents₁⟩
  · intro s s₁ t hturn s' hs
    obtain ⟨hresult, hstate, hevents⟩ := turns s s' hs
    rw [hturn] at hresult hstate hevents
    rw [run_iterate_done hresult.eq.symm]
    exact ⟨.ok rfl, hstate, hevents⟩
  · intro s e s₁ t hturn s' hs
    obtain ⟨hresult, hstate, hevents⟩ := turns s s' hs
    rw [hturn] at hresult hstate hevents
    rw [run_iterate_error hresult.eq.symm]
    exact ⟨.error e, hstate, hevents⟩

end Turns

end Tandem

end Act

end SaslGate
