/-
Waiting, seen call by call: what has to come before a call and behind it, what
waiting comes to, and what the engine has been handed until then.

# At each call

All that there is to say of the calls is said of one at a time, in view of
those before it and those behind it (`AtEach`). The calls that bound a read are
of no concern to the engine, so with them a read is what it would be alone
(`atEach_read`). Behind it comes another wait, of the engine that the read left
(`Waits.waited`).
-/
import SaslGate.Proofs.Pump

namespace SaslGate.Line

open SocketEvent

variable {ε : Type} [Engine ε]

-- ========================================================= call after call

/-- What holds at each call of a trace, with the calls before it and those
behind it. -/
def AtEach
    (P : List SocketEvent → SocketEvent → List SocketEvent → Prop)
    (t : List SocketEvent) : Prop :=
  ∀ before call behind, t = before ++ call :: behind → P before call behind

section AtEach

variable {P Q : List SocketEvent → SocketEvent → List SocketEvent → Prop}
  {c : SocketEvent} {t : List SocketEvent}

theorem atEach_nil : AtEach P [] := by
  intro before call behind h
  cases before <;> cases h

/-- What holds at each call holds at the first, and at each of the others with
the first among those before it. -/
theorem atEach_cons :
    AtEach P (c :: t) ↔
      P [] c t ∧ AtEach (fun before => P (c :: before)) t := by
  constructor
  · intro h
    exact ⟨h [] c t rfl, fun before call behind ht =>
      h (c :: before) call behind (congrArg (c :: ·) ht)⟩
  · intro h before call behind ht
    obtain ⟨hfirst, hrest⟩ := h
    cases before with
    | nil =>
      cases ht
      exact hfirst
    | cons c' before =>
      cases ht
      exact hrest before call behind rfl

/-- What is said of each call may be weakened. -/
theorem AtEach.imp (h : AtEach P t)
    (himp : ∀ before call behind, P before call behind →
      Q before call behind) : AtEach Q t :=
  fun before call behind ht => himp _ _ _ (h before call behind ht)

end AtEach

-- =========================================================== what it says

/-- An engine once it has been handed what arrived, chunk by chunk. The empty
chunk, with which a stream ends, is not handed to it. -/
def handed (e : ε) (t : List SocketEvent) : ε :=
  ((chunks t).filter (· ≠ [])).foldl (fun e bytes => (Engine.feed bytes e).2) e

/-- The calls that are left begin with another try to read: with a deadline,
the clock is looked at first. -/
def Tries : Option Instant → List SocketEvent → Prop
  | none, t => ∃ answer behind, t = .read answer :: behind
  | some _, t => ∃ time behind, t = .clock time :: behind

/-- No call is left, and this is the error that waiting ends with. -/
def Stops (x : PumpError) (behind : List SocketEvent)
    (r : Except PumpError Unit) : Prop := behind = [] ∧ r = .error x

/-- What is left to do for an engine: nothing if it has heard enough, else to
read. -/
def Proceeds (enough : ε → Bool) (limit : Option Instant) (e : ε)
    (behind : List SocketEvent) (r : Except PumpError Unit) : Prop :=
  if enough e then behind = [] ∧ r = .ok () else Tries limit behind

/-- What has to come of a call, for an engine that has been handed what arrived
before it: the calls behind it, and the end of the wait. -/
def Ensues (enough : ε → Bool) (limit : Option Instant) (e : ε) :
    SocketEvent → List SocketEvent → Except PumpError Unit → Prop
  | .read (.ok []), behind, r => Stops .endOfStream behind r
  | .read (.ok (byte :: rest)), behind, r =>
    match Engine.feed (byte :: rest) e with
    | (.error cause, _) => Stops (.protocolViolation cause) behind r
    | (.ok (), e') => Proceeds enough limit e' behind r
  | .read (.error kind), behind, r =>
    if kind = .interrupted then Tries limit behind
    else if kind = .timedOut ∨ kind = .wouldBlock then Stops .timeout behind r
    else Stops (.io kind) behind r
  | .clock time, behind, r =>
    ∀ deadline ∈ limit,
      if deadline ≤ time then Stops .timeout behind r
      else ∃ answer rest,
        behind = .setReadTimeout (some (deadline - time)) answer :: rest
  | .setReadTimeout _ (.error kind), behind, r => Stops (.io kind) behind r
  | .setReadTimeout _ (.ok ()), behind, _ =>
    ∃ answer rest, behind = .read answer :: rest
  | _, _, _ => False

/-- What has to come before a call. Without a deadline there are reads only;
with one, the time that remains bounds each of them. -/
def Bounded (limit : Option Instant) (before : List SocketEvent)
    (call : SocketEvent) : Prop :=
  match limit, call with
  | none, .read _ => True
  | none, _ => False
  | some deadline, .read _ => ∃ front time, time < deadline
      ∧ before = front ++
        [.clock time, .setReadTimeout (some (deadline - time)) (.ok ())]
  | some _, _ => True

/-- A call in a wait, with what was handed to the engine before it: the engine
had not heard enough, and the calls around it are as they have to be. -/
def Fits (enough : ε → Bool) (limit : Option Instant)
    (r : Except PumpError Unit) (e : ε) (before : List SocketEvent)
    (call : SocketEvent) (behind : List SocketEvent) : Prop :=
  enough (handed e before) = false
    ∧ Ensues enough limit (handed e before) call behind r
    ∧ Bounded limit before call

/-- What a wait makes of the engine, how it begins and ends, and what there is
to say of each call. -/
structure Waited (enough : ε → Bool) (limit : Option Instant) (e : ε)
    (t : List SocketEvent) (r : Except PumpError Unit) (e' : ε) : Prop where
  engine : e' = handed e t
  heard : r = .ok () → enough e' = true
  begins : Proceeds enough limit e t r
  each : AtEach (Fits enough limit r e) t

-- ============================================================= turn by turn

section Proof

variable {enough : ε → Bool} {limit : Option Instant} {e e' : ε}
  {t u : List SocketEvent} {r : Except PumpError Unit}
  {answer : Except IoKind Bytes}

/-- What is handed over in two traces is handed over in one. -/
theorem handed_append (e : ε) (t u : List SocketEvent) :
    handed e (t ++ u) = handed (handed e t) u := by
  simp [handed]

/-- The engine that a turn leaves is the one that was handed what arrived in
it. -/
theorem handed_listens (h : Listens limit e t r e') : handed e t = e' := by
  have aside {t : List SocketEvent} {r : Except PumpError Unit}
      (bounds : Bounds limit t r) : handed e t = e := by
    rw [handed, chunks_asides bounds.aside]
    rfl
  cases h with
  | barred bounds => exact aside bounds
  | @read _ answer _ _ bounds takes =>
    rw [handed_append, aside bounds]
    cases takes with
    | fed some feed => simp [handed, chunks, chunk?, some, feed]
    | refused some feed => simp [handed, chunks, chunk?, some, feed]
    | _ => rfl

/-- A turn begins with its calls, so the first tells that it was made. -/
theorem Listens.tries (h : Listens limit e t r e') (u : List SocketEvent) :
    Tries limit (t ++ u) := by
  cases h with
  | barred bounds => cases bounds <;> exact ⟨_, _, rfl⟩
  | read bounds _ => cases bounds <;> exact ⟨_, _, rfl⟩

/-- A call fits in as it did when the engine had been handed a part of what
arrived. -/
theorem Fits.behind {before behind : List SocketEvent} {call : SocketEvent}
    (h : Fits enough limit r (handed e t) before call behind) :
    Fits enough limit r e (t ++ before) call behind := by
  obtain ⟨unheard, ensues, bounded⟩ := h
  rw [← handed_append] at unheard ensues
  refine ⟨unheard, ensues, ?_⟩
  unfold Bounded at bounded ⊢
  split at bounded
  · trivial
  · exact bounded
  · obtain ⟨front, time, early, rfl⟩ := bounded
    exact ⟨t ++ front, time, early, (List.append_assoc _ _ _).symm⟩
  · trivial

/-- With time left, the bound on the read is set next. -/
theorem ensues_early {deadline time : Instant} (early : time < deadline)
    (answer : Except IoKind Unit) (u : List SocketEvent)
    (r : Except PumpError Unit) :
    Ensues enough (some deadline) e (.clock time)
      (.setReadTimeout (some (deadline - time)) answer :: u) r := by
  intro _ hdeadline
  cases hdeadline
  rw [if_neg (Nat.not_le.2 early)]
  exact ⟨answer, u, rfl⟩

/-- A read fits in with the calls that bound it, and what is said of the calls
behind it can be said after the read. -/
theorem atEach_read (unheard : enough e = false)
    (bounds : Bounds limit t (.ok ()))
    (reads : Ensues enough limit e (.read answer) u r)
    (rest : AtEach (Fits enough limit r (handed e (t ++ [.read answer]))) u) :
    AtEach (Fits enough limit r e) (t ++ [.read answer] ++ u) := by
  have hrest := rest.imp fun _ _ _ h => Fits.behind h
  cases bounds with
  | free => exact atEach_cons.2 ⟨⟨unheard, reads, trivial⟩, hrest⟩
  | @set deadline time early =>
    have clock : Ensues enough (some deadline) e (.clock time) _ r :=
      ensues_early early (.ok ()) (.read answer :: u) r
    refine atEach_cons.2 ⟨⟨unheard, clock, trivial⟩, ?_⟩
    refine atEach_cons.2 ⟨⟨unheard, ⟨_, _, rfl⟩, trivial⟩, ?_⟩
    exact atEach_cons.2 ⟨⟨unheard, reads, [], time, early, rfl⟩, hrest⟩

/-- A failure to bound a read is the end. -/
theorem atEach_barred {x : PumpError} (unheard : enough e = false)
    (bounds : Bounds limit t (.error x)) :
    AtEach (Fits enough limit (.error x) e) t := by
  cases bounds with
  | late late =>
    refine atEach_cons.2 ⟨⟨unheard, ?_, trivial⟩, atEach_nil⟩
    intro _ hdeadline
    cases hdeadline
    rw [if_pos late]
    exact ⟨rfl, rfl⟩
  | @unset deadline time early kind =>
    have clock : Ensues enough (some deadline) e (.clock time) _ _ :=
      ensues_early early (.error kind) [] (.error (.io kind))
    refine atEach_cons.2 ⟨⟨unheard, clock, trivial⟩, ?_⟩
    exact atEach_cons.2 ⟨⟨unheard, ⟨rfl, rfl⟩, trivial⟩, atEach_nil⟩

/-- What comes of an answer that another turn follows. -/
theorem Takes.again (h : Takes e answer (.ok ()) e')
    (unheard : enough e = false) (begins : Proceeds enough limit e' u r) :
    Ensues enough limit e (.read answer) u r := by
  cases h with
  | @fed bytes _ some feed =>
    match bytes, some with
    | byte :: rest, _ =>
      simp only [Ensues, feed]
      exact begins
  | interrupted =>
    rw [Proceeds, if_neg (Bool.eq_false_iff.1 unheard)] at begins
    exact begins

/-- What comes of an answer with which waiting ends. -/
theorem Takes.stops {x : PumpError} (h : Takes e answer (.error x) e') :
    Ensues enough limit e (.read answer) [] (.error x) := by
  cases h with
  | ended => exact ⟨rfl, rfl⟩
  | @refused bytes cause _ some feed =>
    match bytes, some with
    | byte :: rest, _ =>
      simp only [Ensues, feed]
      exact ⟨rfl, rfl⟩
  | @late kind late =>
    have hkind := kind.isTimeout_iff.1 late
    have hother := IoKind.ne_interrupted_of_isTimeout late
    simp only [Ensues, if_neg hother, if_pos hkind]
    exact ⟨rfl, rfl⟩
  | @failed kind other early =>
    have hkind := mt kind.isTimeout_iff.2 (Bool.eq_false_iff.1 early)
    simp only [Ensues, if_neg other, if_neg hkind]
    exact ⟨rfl, rfl⟩

/-- A wait is what it is described as. The induction is on its turns, and
behind the first of them another wait is described already. -/
theorem Waits.waited (h : Waits enough limit e t r e') :
    Waited enough limit e t r e' := by
  induction h with
  | heard heard =>
    refine ⟨rfl, fun _ => heard, ?_, atEach_nil⟩
    rw [Proceeds, if_pos heard]
    exact ⟨rfl, rfl⟩
  | @failed e _ t _ unheard turn =>
    have hnot := Bool.eq_false_iff.1 unheard
    refine ⟨(handed_listens turn).symm, nofun, ?_, ?_⟩
    · rw [Proceeds, if_neg hnot]
      simpa using turn.tries []
    · cases turn with
      | barred bounds => exact atEach_barred unheard bounds
      | @read _ answer _ _ bounds takes =>
        have hreads : Ensues enough limit e (.read answer) [] _ := takes.stops
        simpa using atEach_read unheard bounds hreads atEach_nil
  | @again e e₁ e' t u r unheard turn _ ih =>
    have hnot := Bool.eq_false_iff.1 unheard
    have hhanded := handed_listens turn
    refine ⟨?_, ih.heard, ?_, ?_⟩
    · rw [handed_append, hhanded]
      exact ih.engine
    · rw [Proceeds, if_neg hnot]
      exact turn.tries u
    · cases turn with
      | read bounds takes =>
        -- the calls of this turn come in front of those of the wait behind it
        refine atEach_read unheard bounds (takes.again unheard ih.begins) ?_
        rw [hhanded]
        exact ih.each

end Proof

-- ==================================================== with the bound on reads

/-- Waiting ends well only if the engine has heard enough, whether or not a
bound on reads had to be restored. -/
theorem Restores.heard {enough : ε → Bool} {limit : Option Instant} {e e' : ε}
    {t : List SocketEvent} {r : Except PumpError Unit}
    (h : Restores (Waited enough) limit e t r e') (done : r = .ok ()) :
    enough e' = true := by
  cases h with
  | free waited => exact waited.heard done
  | unknown kind => cases done
  | @bounded _ _ _ _ r waited before restored =>
    cases r with
    | error x => cases done
    | ok u => exact waited.heard rfl

/-- Waiting until an engine has heard enough, whatever the engine, the wire and
the clock do: what arrives is what the engine is handed, every call is one that
has to be there, and what it ends with is what the last call says. A bound on
reads that was changed is restored at the end. -/
theorem pumpUntil_exact {σ : Type} [Wire σ] (enough : ε → Bool)
    (limit : Option Instant) (l : Line ε σ) :
    let r := (pumpUntil enough limit).run l
    Restores (Waited enough) limit l.engine r.events r.result r.state.engine
      ∧ (r.result = .ok () → enough r.state.engine = true) := by
  have hrestores := (pumpUntil_restores enough limit l).imp
    fun _ _ _ _ _ h => h.waited
  exact ⟨hrestores, hrestores.heard⟩

end SaslGate.Line
