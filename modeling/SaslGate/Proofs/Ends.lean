/-
How actions end, well or badly. An action that fails has done something all
the same, so a claim about everything that ever happens has to follow both
ends of every action. `Ends` does: it is given what has happened so far, and
says what has to hold of the whole, in one way for a success and in another
for a failure.

# Rules

There is a rule for each way of putting actions together, and so a proof
follows the text of the program. `Ends.bind` hands the trace so far to the
rest of a sequence, and `Ends.iterate` needs to know what a turn keeps.
-/
import SaslGate.Proofs.Course

namespace SaslGate

/-- A run with the trace `t` behind it ends as `ok` says if it succeeds, and
as `fail` says if it does not. -/
def Run.Ends (t : List τ) (ok : α → σ → List τ → Prop)
    (fail : ε → σ → List τ → Prop) : Run τ σ ε α → Prop
  | ⟨.ok a, s, u⟩ => ok a s (t ++ u)
  | ⟨.error e, s, u⟩ => fail e s (t ++ u)

/-- A run behind another one. -/
theorem Run.ends_after {t u : List τ} {ok : α → σ → List τ → Prop}
    {fail : ε → σ → List τ → Prop} {r : Run τ σ ε α} :
    (r.after u).Ends t ok fail ↔ r.Ends (t ++ u) ok fail := by
  obtain ⟨r, s, v⟩ := r
  cases r <;> simp [Run.after, Run.Ends]

namespace Act

/-- An action that is begun in the state `s`, with the trace `t` behind it,
ends as `ok` says if it succeeds, and as `fail` says if it does not. -/
def Ends (t : List τ) (x : Act τ σ ε α) (s : σ)
    (ok : α → σ → List τ → Prop) (fail : ε → σ → List τ → Prop) : Prop :=
  (x.run s).Ends t ok fail

namespace Ends

variable {t u : List τ} {s s' : σ} {ok : α → σ → List τ → Prop}
  {fail : ε → σ → List τ → Prop}

-- ============================================================== reading

/-- What is claimed of a success holds of a run that succeeded. -/
theorem of_ok {x : Act τ σ ε α} {a : α} (h : Ends t x s ok fail)
    (hr : x.run s = ⟨.ok a, s', u⟩) : ok a s' (t ++ u) := by
  unfold Ends at h
  rw [hr] at h
  exact h

/-- What is claimed of a failure holds of a run that failed. -/
theorem of_error {x : Act τ σ ε α} {e : ε} (h : Ends t x s ok fail)
    (hr : x.run s = ⟨.error e, s', u⟩) : fail e s' (t ++ u) := by
  unfold Ends at h
  rw [hr] at h
  exact h

/-- An action that is known to succeed. -/
theorem of_run_ok {x : Act τ σ ε α} {a : α} (hr : x.run s = ⟨.ok a, s', u⟩)
    (h : ok a s' (t ++ u)) : Ends t x s ok fail := by
  unfold Ends
  rw [hr]
  exact h

/-- An action that is known to fail. -/
theorem of_run_error {x : Act τ σ ε α} {e : ε}
    (hr : x.run s = ⟨.error e, s', u⟩) (h : fail e s' (t ++ u)) :
    Ends t x s ok fail := by
  unfold Ends
  rw [hr]
  exact h

/-- An action whose run is known. -/
theorem of_run {x : Act τ σ ε α} {r : Except ε α}
    (hr : x.run s = ⟨r, s', u⟩) (hok : ∀ a, r = .ok a → ok a s' (t ++ u))
    (hfail : ∀ e, r = .error e → fail e s' (t ++ u)) :
    Ends t x s ok fail := by
  cases r with
  | ok a => exact of_run_ok hr (hok a rfl)
  | error e => exact of_run_error hr (hfail e rfl)

/-- Actions with one run end in one way. -/
theorem of_run_eq {x y : Act τ σ ε α} (hr : x.run s = y.run s)
    (h : Ends t y s ok fail) : Ends t x s ok fail := by
  unfold Ends at h ⊢
  rwa [hr]

/-- Ends may be weakened, success and failure each by itself. -/
theorem imp {x : Act τ σ ε α} {ok' : α → σ → List τ → Prop}
    {fail' : ε → σ → List τ → Prop} (h : Ends t x s ok fail)
    (hok : ∀ a s' t', ok a s' t' → ok' a s' t')
    (hfail : ∀ e s' t', fail e s' t' → fail' e s' t') :
    Ends t x s ok' fail' := by
  rcases hr : x.run s with ⟨r, s', u⟩
  cases r with
  | ok a => exact of_run_ok hr (hok _ _ _ (h.of_ok hr))
  | error e => exact of_run_error hr (hfail _ _ _ (h.of_error hr))

theorem imp_ok {x : Act τ σ ε α} {ok' : α → σ → List τ → Prop}
    (h : Ends t x s ok fail)
    (hok : ∀ a s' t', ok a s' t' → ok' a s' t') : Ends t x s ok' fail :=
  h.imp hok fun _ _ _ hfail => hfail

-- ================================================================= rules

theorem pure {a : α} (h : ok a s t) :
    Ends t (Pure.pure a : Act τ σ ε α) s ok fail := by
  show ok a s (t ++ [])
  rwa [List.append_nil]

theorem fails {e : ε} (h : fail e s t) :
    Ends t (Act.fail e : Act τ σ ε α) s ok fail := by
  show fail e s (t ++ [])
  rwa [List.append_nil]

/-- What is known already ends a sequence or begins the rest of it. -/
theorem ofExcept {r : Except ε α} (hok : ∀ a, r = .ok a → ok a s t)
    (hfail : ∀ e, r = .error e → fail e s t) :
    Ends t (Act.ofExcept r) s ok fail := by
  refine of_run (Act.run_ofExcept r s) ?_ ?_
  · rw [List.append_nil]
    exact hok
  · rw [List.append_nil]
    exact hfail

/-- A change of the state. -/
theorem update {f : σ → σ} {ok : Unit → σ → List τ → Prop}
    (h : ok () (f s) t) : Ends t (Act.update f) s ok fail := by
  show ok () (f s) (t ++ [])
  rwa [List.append_nil]

/-- The rest of a sequence goes on where its first part stopped. -/
theorem bind {x : Act τ σ ε α} {f : α → Act τ σ ε β}
    {ok : β → σ → List τ → Prop}
    (h : Ends t x s (fun a s' t' => Ends t' (f a) s' ok fail) fail) :
    Ends t (x >>= f) s ok fail := by
  rcases hx : x.run s with ⟨r, s₁, t₁⟩
  unfold Ends
  cases r with
  | error e =>
    rw [Act.run_bind_error f hx]
    exact h.of_error hx
  | ok a =>
    rw [Act.run_bind_ok f hx, Run.ends_after]
    exact h.of_ok hx

/-- A sequence whose first part fails as the whole may fail. -/
theorem andThen {x : Act τ σ ε α} {f : α → Act τ σ ε β}
    {ok' : β → σ → List τ → Prop} (h : Ends t x s ok fail)
    (hf : ∀ a s' t', ok a s' t' → Ends t' (f a) s' ok' fail) :
    Ends t (x >>= f) s ok' fail := .bind (h.imp_ok hf)

/-- A look at the state. -/
theorem state_bind {f : σ → Act τ σ ε β} {ok : β → σ → List τ → Prop}
    (h : Ends t (f s) s ok fail) : Ends t (Act.state >>= f) s ok fail := by
  refine .bind (of_run_ok (Act.run_state s) ?_)
  rwa [List.append_nil]

/-- A failure that is handed on is a result like any other. -/
theorem attempt {x : Act τ σ δ α} {ok : Except δ α → σ → List τ → Prop}
    (h : Ends t x s (fun a s' t' => ok (.ok a) s' t')
      fun e s' t' => ok (.error e) s' t') :
    Ends t (x.attempt : Act τ σ ε _) s ok fail := by
  rcases hr : x.run s with ⟨r, s', v⟩
  have hrun : (x.attempt : Act τ σ ε _).run s = ⟨.ok r, s', v⟩ := by
    simp [Act.attempt, hr]
  refine of_run_ok hrun ?_
  cases r with
  | ok a => exact h.of_ok hr
  | error e => exact h.of_error hr

/-- A failure under another name. -/
theorem orElse {x : Act τ σ δ α} {f : δ → ε}
    (h : Ends t x s ok fun e s' t' => fail (f e) s' t') :
    Ends t (x.orElse f) s ok fail := by
  rcases hr : x.run s with ⟨r, s', v⟩
  have hrun : (x.orElse f).run s = ⟨r.mapError f, s', v⟩ := by
    simp [Act.orElse, hr]
  cases r with
  | ok a => exact of_run_ok hrun (h.of_ok hr)
  | error e => exact of_run_error hrun (h.of_error hr)

/-- An action on a state of its own, which is handed on. -/
theorem inside {own : ρ} {x : Act τ ρ δ α}
    {ok : Except δ α × ρ → σ → List τ → Prop}
    (h : Ends t x own (fun a k t' => ok (.ok a, k) s t')
      fun e k t' => ok (.error e, k) s t') :
    Ends t (Act.inside own x : Act τ σ ε _) s ok fail := by
  rcases hr : x.run own with ⟨r, k, v⟩
  have hrun : (Act.inside own x : Act τ σ ε _).run s =
      ⟨.ok (r, k), s, v⟩ := by
    simp [Act.inside, hr]
  refine of_run_ok hrun ?_
  cases r with
  | ok a => exact h.of_ok hr
  | error e => exact h.of_error hr

/-- What a turn keeps, a repetition keeps. -/
theorem iterate {turn : Act τ σ ε Bool} {m : σ → Nat}
    {w : ∀ s, (turn.run s).result = .ok true →
      m (turn.run s).state < m s} {inv : σ → List τ → Prop}
    {ok : Unit → σ → List τ → Prop}
    (keeps : ∀ s t, inv s t → Ends t turn s
      (fun again s' t' => if again then inv s' t' else ok () s' t') fail)
    (h : inv s t) : Ends t (Act.iterate turn m w) s ok fail := by
  -- for every trace so far, since each turn adds to it
  have key : ∀ t, inv s t → Ends t (Act.iterate turn m w) s ok fail := by
    refine Act.iterate_rec (P := fun s r => ∀ t, inv s t → r.Ends t ok fail)
      ?_ ?_ ?_ s
    · intro s s₁ t₁ r hturn ih t hinv
      rw [Run.ends_after]
      exact ih (t ++ t₁) ((keeps s t hinv).of_ok hturn)
    · intro s s₁ t₁ hturn t hinv
      exact (keeps s t hinv).of_ok hturn
    · intro s e s₁ t₁ hturn t hinv
      exact (keeps s t hinv).of_error hturn
  exact key t h

end Ends

end Act

-- ================================================================= desks

namespace Desk

open Act (Ends)

variable {κ ς ρ : Type} {slot : Slot ς ρ} {d : Desk κ ς} {t : List Event}
  {ok : α → Desk κ ς → List Event → Prop}
  {fail : AuthError → Desk κ ς → List Event → Prop}

/-- A look at the session. -/
theorem ends_current_bind {f : ς → Working κ ς α}
    (h : Ends t (f d.session) d ok fail) :
    Ends t (current >>= f) d ok fail := by
  have hrun : (current : Working κ ς ς).run d = ⟨.ok d.session, d, []⟩ := rfl
  refine .bind (.of_run_ok hrun ?_)
  rwa [List.append_nil]

/-- An action of the connection that is held. -/
theorem ends_onHeld {x : Act Event ρ AuthError α} {k : ρ}
    (held : slot.get d.session = some k)
    (h : Ends t x k
      (fun a k' => ok a { d with session := slot.put (some k') d.session })
      fun e k' => fail e { d with session := slot.put (some k') d.session }) :
    Ends t (onHeld slot x) d ok fail := by
  rcases hr : x.run k with ⟨r, k', u⟩
  have hrun : (onHeld slot x).run d =
      ⟨r, { d with session := slot.put (some k') d.session }, u⟩ := by
    simp [onHeld, held, hr]
  cases r with
  | ok a => exact .of_run_ok hrun (h.of_ok hr)
  | error e => exact .of_run_error hrun (h.of_error hr)

/-- Without a connection nothing is done. -/
theorem ends_onHeld_none {x : Act Event ρ AuthError α}
    (free : slot.get d.session = none)
    (h : fail (.protocolViolation .closed) d t) :
    Ends t (onHeld slot x) d ok fail := by
  have hrun : (onHeld slot x).run d =
      ⟨.error (.protocolViolation .closed), d, []⟩ := by
    simp [onHeld, free]
  refine .of_run_error hrun ?_
  rwa [List.append_nil]

/-- An action of the opener. -/
theorem ends_ofOpener {x : Act Event κ AuthError α}
    (h : Ends t x d.opener
      (fun a opener => ok a { d with opener })
      fun e opener => fail e { d with opener }) :
    Ends t (ofOpener x) d ok fail := by
  rcases hr : x.run d.opener with ⟨r, opener, u⟩
  have hrun : (ofOpener x : Working κ ς α).run d =
      ⟨r, { d with opener }, u⟩ := by
    simp [ofOpener, Act.focus, hr]
  cases r with
  | ok a => exact .of_run_ok hrun (h.of_ok hr)
  | error e => exact .of_run_error hrun (h.of_error hr)

end Desk

end SaslGate
