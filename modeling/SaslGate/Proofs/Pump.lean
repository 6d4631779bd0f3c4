/-
Reading until an engine has heard enough, and what that does to the engine and
shows in the trace.

# Turns

A turn bounds one read and takes in its answer. `Bounds` and `Takes` say what
comes of the two, with a constructor for each way it can go, and a turn is one
after the other (`Listens`).

# Waiting

Waiting is turns that ask for another, and a last one, or nothing at all once
the engine has heard enough (`Waits`). So the engine is handed every chunk that
arrived, one at a time (`Waits.hears`), and waiting ends well whenever the
chunks that it has to hear arrive and no call fails or comes too late
(`Waits.follows`). A deadline adds a look at the bound on reads before, and its
restoration after (`Restores`).
-/
import SaslGate.Proofs.Act
import SaslGate.Proofs.Traffic

namespace SaslGate.Line

open SocketEvent

variable {ε σ : Type}

-- ================================================================= turns

/-- The calls that bound a read, and what they come to. -/
inductive Bounds :
    Option Instant → List SocketEvent → Except PumpError Unit → Prop
  | free : Bounds none [] (.ok ())
  | late {deadline time : Instant} (late : deadline ≤ time) :
      Bounds (some deadline) [.clock time] (.error .timeout)
  | set {deadline time : Instant} (early : time < deadline) :
      Bounds (some deadline)
        [.clock time, .setReadTimeout (some (deadline - time)) (.ok ())]
        (.ok ())
  | unset {deadline time : Instant} (early : time < deadline)
      (kind : IoKind) :
      Bounds (some deadline)
        [.clock time, .setReadTimeout (some (deadline - time)) (.error kind)]
        (.error (.io kind))

/-- The answer to a read, what it comes to, and the engine it leaves. -/
inductive Takes [Engine ε] (e : ε) :
    Except IoKind Bytes → Except PumpError Unit → ε → Prop
  | ended : Takes e (.ok []) (.error .endOfStream) e
  | fed {bytes : Bytes} {e' : ε} (some : bytes ≠ [])
      (feed : Engine.feed bytes e = (.ok (), e')) :
      Takes e (.ok bytes) (.ok ()) e'
  | refused {bytes : Bytes} {cause : TransportError} {e' : ε}
      (some : bytes ≠ []) (feed : Engine.feed bytes e = (.error cause, e')) :
      Takes e (.ok bytes) (.error (.protocolViolation cause)) e'
  | interrupted : Takes e (.error .interrupted) (.ok ()) e
  | late {kind : IoKind} (late : kind.isTimeout = true) :
      Takes e (.error kind) (.error .timeout) e
  | failed {kind : IoKind} (other : kind ≠ .interrupted)
      (early : kind.isTimeout = false) :
      Takes e (.error kind) (.error (.io kind)) e

/-- One turn: the calls that bound a read, and the read unless one of them
failed. -/
inductive Listens [Engine ε] (limit : Option Instant) (e : ε) :
    List SocketEvent → Except PumpError Unit → ε → Prop
  | barred {t : List SocketEvent} {x : PumpError}
      (bounds : Bounds limit t (.error x)) : Listens limit e t (.error x) e
  | read {t : List SocketEvent} {answer : Except IoKind Bytes}
      {r : Except PumpError Unit} {e' : ε}
      (bounds : Bounds limit t (.ok ())) (takes : Takes e answer r e') :
      Listens limit e (t ++ [.read answer]) r e'

/-- Bounding a read does one of the four things, and none of them touches the
engine. -/
theorem bound_bounds [Wire σ] {limit : Option Instant} {l l' : Line ε σ}
    {r : Except PumpError Unit} {t : List SocketEvent}
    (h : (bound limit).run l = ⟨r, l', t⟩) :
    Bounds limit t r ∧ l'.engine = l.engine := by
  cases limit with
  | none =>
    cases h
    exact ⟨.free, rfl⟩
  | some deadline =>
    rcases hn : Wire.now l.wire with ⟨time, wire⟩
    by_cases hlate : deadline ≤ time
    · have hrun : (bound (some deadline)).run l =
          ⟨.error .timeout, { l with wire }, [.clock time]⟩ := by
        simp [bound, now, Act.run_bind, hn, hlate, Run.after]
      rw [hrun] at h
      cases h
      exact ⟨.late hlate, rfl⟩
    · have hearly : time < deadline := Nat.lt_of_not_le hlate
      rcases hs : Wire.setReadTimeout (some (deadline - time)) wire
        with ⟨answer, wire'⟩
      have hrun : (bound (some deadline)).run l =
          ⟨answer.mapError .io, { l with wire := wire' }, [.clock time,
            .setReadTimeout (some (deadline - time)) answer]⟩ := by
        simp [bound, now, Act.run_bind, hn, hlate, setReadTimeout, Act.orElse,
          call, Act.ask, Act.focus, hs, Run.after]
      rw [hrun] at h
      cases answer with
      | error kind =>
        cases h
        exact ⟨.unset hearly kind, rfl⟩
      | ok u =>
        cases h
        exact ⟨.set hearly, rfl⟩

/-- Taking in an answer makes no call, and asks for another turn unless it
fails. -/
theorem take_takes [Engine ε] {answer : Except IoKind Bytes}
    {l l' : Line ε σ} {r : Except PumpError Bool} {t : List SocketEvent}
    (h : (take answer).run l = ⟨r, l', t⟩) :
    t = [] ∧ ∃ r', r = r'.map (fun _ => true)
      ∧ Takes l.engine answer r' l'.engine := by
  match answer with
  | .ok [] =>
    cases h
    exact ⟨rfl, _, rfl, .ended⟩
  | .ok (byte :: rest) =>
    have hsome := List.cons_ne_nil byte rest
    rcases hf : Engine.feed (byte :: rest) l.engine with ⟨fed, e⟩
    have hrun : (take (.ok (byte :: rest))).run l =
        ⟨(fed.mapError .protocolViolation).map fun _ => true,
          { l with engine := e }, []⟩ := by
      cases fed <;>
        simp [take, Act.run_bind, Act.orElse, feed, Act.step, Act.focus, hf,
          Except.map, Run.after]
    rw [hrun] at h
    cases h
    cases fed with
    | error cause => exact ⟨rfl, _, rfl, .refused hsome hf⟩
    | ok u => exact ⟨rfl, _, rfl, .fed hsome hf⟩
  | .error kind =>
    simp only [take] at h
    split at h
    · rename_i hkind
      cases h
      rw [hkind]
      exact ⟨rfl, .ok (), rfl, .interrupted⟩
    · rename_i hother
      split at h
      · rename_i hlate
        cases h
        exact ⟨rfl, _, rfl, .late hlate⟩
      · rename_i hearly
        cases h
        exact ⟨rfl, _, rfl, .failed hother (Bool.eq_false_iff.2 hearly)⟩

/-- One turn inwards: nothing if the engine has heard enough, else a turn
after which another is asked for unless it failed. -/
theorem listen_cases [Engine ε] [Wire σ] {enough : ε → Bool}
    {limit : Option Instant} {l l' : Line ε σ} {r : Except PumpError Bool}
    {t : List SocketEvent} (h : (listen enough limit).run l = ⟨r, l', t⟩) :
    (enough l.engine = true ∧ r = .ok false ∧ l' = l ∧ t = [])
    ∨ (enough l.engine = false ∧ ∃ r', r = r'.map (fun _ => true)
        ∧ Listens limit l.engine t r' l'.engine) := by
  unfold listen at h
  rw [Act.run_state_bind] at h
  cases he : enough l.engine with
  | true =>
    rw [he] at h
    cases h
    exact .inl ⟨rfl, rfl, rfl, rfl⟩
  | false =>
    rw [he, if_neg Bool.false_ne_true] at h
    refine .inr ⟨rfl, ?_⟩
    -- the bound of the read fails, or the read is made and its answer taken
    rcases Act.bind_cases h with ⟨e, rfl, hx⟩ | ⟨_, l₁, t₁, t₂, hx, h₂, rfl⟩
    · obtain ⟨hbounds, hengine⟩ := bound_bounds hx
      rw [hengine]
      exact ⟨_, rfl, .barred hbounds⟩
    · obtain ⟨hbounds, hengine⟩ := bound_bounds hx
      rcases hread : Wire.read readSize l₁.wire with ⟨answer, wire⟩
      have hattempt : (read.attempt : Pumping ε σ _).run l₁ =
          ⟨.ok answer, { l₁ with wire }, [.read answer]⟩ := by
        simp [read, call, Act.attempt, Act.ask, Act.focus, hread]
      rw [Act.run_bind_ok _ hattempt] at h₂
      rcases htake : (take answer).run { l₁ with wire } with ⟨r', l₂, u⟩
      obtain ⟨rfl, r'', rfl, htakes⟩ := take_takes htake
      rw [htake] at h₂
      cases h₂
      rw [show ({ l₁ with wire } : Line ε σ).engine = l.engine from hengine]
        at htakes
      exact ⟨r'', rfl, .read hbounds htakes⟩

-- =============================================================== waiting

section Waiting

variable [Engine ε] {enough : ε → Bool} {limit : Option Instant}

/-- Waiting until an engine has heard enough: the calls, what they come to,
and the engine they leave. -/
inductive Waits (enough : ε → Bool) (limit : Option Instant) :
    ε → List SocketEvent → Except PumpError Unit → ε → Prop
  | heard {e : ε} (heard : enough e = true) :
      Waits enough limit e [] (.ok ()) e
  | failed {e e' : ε} {t : List SocketEvent} {x : PumpError}
      (unheard : enough e = false) (turn : Listens limit e t (.error x) e') :
      Waits enough limit e t (.error x) e'
  | again {e e₁ e' : ε} {t u : List SocketEvent} {r : Except PumpError Unit}
      (unheard : enough e = false) (turn : Listens limit e t (.ok ()) e₁)
      (rest : Waits enough limit e₁ u r e') :
      Waits enough limit e (t ++ u) r e'

/-- Listening is waiting: its turns are those of `Waits`. -/
theorem listenUntil_waits [Wire σ] (enough : ε → Bool)
    (limit : Option Instant) (l : Line ε σ) :
    let r := (listenUntil enough limit).run l
    Waits enough limit l.engine r.events r.result r.state.engine := by
  -- a turn asks for another, is the last, or fails
  refine Act.iterate_rec (P := fun l r =>
    Waits enough limit l.engine r.events r.result r.state.engine)
    ?_ ?_ ?_ l
  · intro l l' t r hrun ih
    rcases listen_cases hrun with ⟨-, hr, -⟩ | ⟨hunheard, r', hr, hturn⟩
    · cases hr
    · cases r' with
      | error x => cases hr
      | ok u => exact .again hunheard hturn ih
  · intro l l' t hrun
    rcases listen_cases hrun with ⟨heard, -, rfl, rfl⟩ | ⟨-, r', hr, -⟩
    · exact .heard heard
    · cases r' <;> cases hr
  · intro l x l' t hrun
    rcases listen_cases hrun with ⟨-, hr, -⟩ | ⟨hunheard, r', hr, hturn⟩
    · cases hr
    · cases r' with
      | error x' =>
        cases hr
        exact .failed hunheard hturn
      | ok u => cases hr

end Waiting

-- =============================================================== in time

/-- The deadline of an exchange, if there is a timeout, is that much later
than its beginning. -/
def Due (timeout : Option Duration) (began limit : Option Instant) : Prop :=
  match timeout with
  | none => limit = none
  | some d => ∃ first, began = some first ∧ limit = some (first + d)

section Due

variable {timeout : Option Duration} {b limit : Option Instant}
  {t : List SocketEvent} {r : Except PumpError Unit}

/-- The calls that bound a read move no bytes. -/
theorem Bounds.aside (h : Bounds limit t r) : ∀ e ∈ t, e.Aside := by
  cases h <;> simp [Aside]

/-- The calls that bound a read go well exactly if there is time left and no
call failed. -/
theorem Bounds.flows (due : Due timeout b limit)
    (h : Bounds limit t (.ok ())) : Flows timeout b t b := by
  cases h with
  | free => exact Flows.nil timeout b
  | set early =>
    cases timeout with
    | none => cases due
    | some d =>
      obtain ⟨first, rfl, hlimit⟩ := due
      cases hlimit
      simp [Flows, watch, works, early, Except.isOk, Except.toBool]

/-- Bounding a read fails for lack of time or because a call failed, and the
trace shows either. -/
theorem Bounds.fault {x : PumpError} {b' : Option Instant}
    (due : Due timeout b limit) (h : Bounds limit t (.error x)) :
    ¬ Flows timeout b t b' := by
  cases h with
  | @late deadline time late =>
    cases timeout with
    | none => cases due
    | some d =>
      obtain ⟨first, rfl, hlimit⟩ := due
      cases hlimit
      have hno : ¬ time < first + d := Nat.not_lt.2 late
      simp [Flows, watch, works, hno]
  | @unset deadline time early kind =>
    refine not_flows (e := .setReadTimeout (some (deadline - time))
      (.error kind)) ?_ rfl
    simp

variable [Engine ε] {e e' : ε}

/-- A read after calls on the side, in a trace. -/
theorem chunks_read (aside : ∀ e ∈ t, e.Aside)
    (answer : Except IoKind Bytes) :
    chunks (t ++ [.read answer]) = answer.toOption.toList
      ∧ sent (t ++ [.read answer]) = [] := by
  rw [chunks_append, sent_append, chunks_asides aside, sent_asides aside]
  cases answer <;> exact ⟨rfl, rfl⟩

/-- A turn that asks for another was interrupted, or had a chunk that the
engine took. -/
theorem Listens.again (due : Due timeout b limit)
    (h : Listens limit e t (.ok ()) e') :
    Flows timeout b t b ∧ sent t = []
      ∧ ((chunks t = [] ∧ e' = e)
        ∨ ∃ bytes, bytes ≠ [] ∧ chunks t = [bytes]
          ∧ Engine.feed bytes e = (.ok (), e')) := by
  cases h with
  | @read t answer _ _ bounds takes =>
    obtain ⟨hchunks, hsent⟩ := chunks_read bounds.aside answer
    cases takes with
    | @fed bytes _ hsome hfeed =>
      refine ⟨(bounds.flows due).append ?_, hsent,
        .inr ⟨bytes, hsome, hchunks, hfeed⟩⟩
      simp [Flows, watch, works, hsome]
    | interrupted =>
      exact ⟨(bounds.flows due).append rfl, hsent, .inl ⟨hchunks, rfl⟩⟩

/-- A turn that failed had a call that failed or came too late, or a chunk
that the engine refused. -/
theorem Listens.failed {x : PumpError} (due : Due timeout b limit)
    (h : Listens limit e t (.error x) e') :
    (∀ b', ¬ Flows timeout b t b')
      ∨ ∃ bytes cause, bytes ≠ [] ∧ chunks t = [bytes]
        ∧ Engine.feed bytes e = (.error cause, e')
        ∧ x = .protocolViolation cause := by
  cases h with
  | barred bounds => exact .inl fun b' => bounds.fault due
  | @read t answer _ _ bounds takes =>
    have broken (hw : works (.read answer) = false) (b' : Option Instant) :
        ¬ Flows timeout b (t ++ [.read answer]) b' :=
      not_flows List.mem_concat_self hw
    cases takes with
    | ended => exact .inl (broken rfl)
    | @refused bytes cause _ hsome hfeed =>
      exact .inr ⟨bytes, cause, hsome, (chunks_read bounds.aside _).1, hfeed,
        rfl⟩
    | late late =>
      have other := IoKind.ne_interrupted_of_isTimeout late
      exact .inl (broken (by simp [works, other]))
    | failed other _ => exact .inl (broken (by simp [works, other]))

end Due

-- ========================================================= until enough

/-- An engine that is fed chunk by chunk, each when it has not heard enough
yet, until it has. -/
inductive Hears [Engine ε] (enough : ε → Bool) : ε → List Bytes → ε → Prop
  | done {e : ε} (heard : enough e = true) : Hears enough e [] e
  | chunk {e e₁ e' : ε} {bytes : Bytes} {cs : List Bytes}
      (unheard : enough e = false) (some : bytes ≠ [])
      (fed : Engine.feed bytes e = (.ok (), e₁))
      (rest : Hears enough e₁ cs e') : Hears enough e (bytes :: cs) e'

/-- Whoever has heard to the end has heard enough. -/
theorem Hears.heard [Engine ε] {enough : ε → Bool} {e e' : ε}
    {cs : List Bytes} (h : Hears enough e cs e') : enough e' = true := by
  induction h with
  | done heard => exact heard
  | chunk _ _ _ _ ih => exact ih

/-- Chunks that arrived, as far as they go, where a script says which. -/
def Agrees (cs script : List Bytes) : Prop := cs <+: script ∨ script <+: cs

/-- Of chunks that agree, the first are the same, and the others agree. -/
theorem Agrees.cons {a x : Bytes} {cs xs : List Bytes}
    (h : Agrees (a :: cs) (x :: xs)) : a = x ∧ Agrees cs xs := by
  rcases h with h | h
  · obtain ⟨rfl, hcs⟩ := List.cons_prefix_cons.1 h
    exact ⟨rfl, .inl hcs⟩
  · obtain ⟨rfl, hxs⟩ := List.cons_prefix_cons.1 h
    exact ⟨rfl, .inr hxs⟩

/-- A beginning of what arrives agrees with the whole script. -/
theorem Agrees.of_append_left {cs ds xs : List Bytes}
    (h : Agrees (cs ++ ds) xs) : Agrees cs xs := by
  rcases h with h | h
  · exact .inl ((List.prefix_append cs ds).trans h)
  · exact List.prefix_or_prefix_of_prefix (List.prefix_append cs ds) h

/-- What arrives agrees with a beginning of the script. -/
theorem Agrees.of_append_right {cs xs ys : List Bytes}
    (h : Agrees cs (xs ++ ys)) : Agrees cs xs :=
  (Or.symm (of_append_left (Or.symm h)))

/-- What follows the same chunks agrees by itself. -/
theorem Agrees.back {cs ds ys : List Bytes}
    (h : Agrees (cs ++ ds) (cs ++ ys)) : Agrees ds ys := by
  rcases h with h | h
  · exact .inl ((List.prefix_append_right_inj cs).1 h)
  · exact .inr ((List.prefix_append_right_inj cs).1 h)

section Until

variable [Engine ε] {enough : ε → Bool} {timeout : Option Duration}
  {b limit : Option Instant} {t : List SocketEvent}
  {r : Except PumpError Unit} {e e' : ε}

/-- Waiting ends well only when the engine has heard enough, and then no
call failed or came too late. -/
theorem Waits.hears (due : Due timeout b limit)
    (h : Waits enough limit e t (.ok ()) e') :
    Hears enough e (chunks t) e' ∧ Flows timeout b t b ∧ sent t = [] := by
  generalize hr : (Except.ok () : Except PumpError Unit) = r at h
  induction h with
  | heard heard => exact ⟨.done heard, Flows.nil timeout b, rfl⟩
  | failed => cases hr
  | again unheard turn _ ih =>
    obtain ⟨hflow, hsent, hread⟩ := turn.again due
    obtain ⟨hrest, hflow', hsent'⟩ := ih hr
    refine ⟨?_, hflow.append hflow', by rw [sent_append, hsent, hsent']; rfl⟩
    rw [chunks_append]
    rcases hread with ⟨hnone, hstay⟩ | ⟨bytes, hsome, hone, hfeed⟩
    · rw [hnone, ← hstay]
      exact hrest
    · rw [hone]
      exact .chunk unheard hsome hfeed hrest

/-- Waiting ends well if the chunks that the engine has to hear are those
that arrive, and no call fails or comes too late. -/
theorem Waits.follows {xs : List Bytes} {e'' : ε} {b' : Option Instant}
    (due : Due timeout b limit) (hears : Hears enough e xs e'')
    (h : Waits enough limit e t r e') (flow : Flows timeout b t b')
    (agree : Agrees (chunks t) xs) :
    r = .ok () ∧ chunks t = xs ∧ e' = e'' := by
  induction h generalizing xs with
  | heard heard =>
    cases hears with
    | done _ => exact ⟨rfl, rfl, rfl⟩
    | chunk unheard _ _ _ =>
      rw [heard] at unheard
      cases unheard
  | failed unheard turn =>
    rcases turn.failed due with hfault | ⟨bytes, cause, hsome, hone, hfeed, -⟩
    · exact absurd flow (hfault b')
    · cases hears with
      | done heard =>
        rw [unheard] at heard
        cases heard
      | chunk _ _ fed _ =>
        rw [hone] at agree
        obtain ⟨rfl, -⟩ := agree.cons
        rw [hfeed] at fed
        cases fed
  | again unheard turn _ ih =>
    obtain ⟨hflow, -, hread⟩ := turn.again due
    rw [chunks_append] at agree ⊢
    rcases hread with ⟨hnone, hstay⟩ | ⟨bytes, hsome, hone, hfeed⟩
    · rw [hnone] at agree ⊢
      exact ih (hstay.symm ▸ hears) (flow.rest hflow) agree
    · cases hears with
      | done heard =>
        rw [unheard] at heard
        cases heard
      | chunk _ _ fed rest =>
        rw [hone] at agree ⊢
        obtain ⟨rfl, agree'⟩ := agree.cons
        rw [hfeed] at fed
        cases fed
        obtain ⟨hr, hcs, he⟩ := ih rest (flow.rest hflow) agree'
        exact ⟨hr, congrArg _ hcs, he⟩

end Until

-- ======================================================= the bound on reads

/-- Waiting as it is without a deadline. With one there is a look at the old
bound on reads before, and its restoration after, which does not hide how the
waiting ended. -/
inductive Restores
    (W : Option Instant → ε → List SocketEvent → Except PumpError Unit → ε →
      Prop) :
    Option Instant → ε → List SocketEvent → Except PumpError Unit → ε → Prop
  | free {e e' : ε} {t : List SocketEvent} {r : Except PumpError Unit}
      (waits : W none e t r e') : Restores W none e t r e'
  | unknown {deadline : Instant} {e : ε} (kind : IoKind) :
      Restores W (some deadline) e [.readTimeout (.error kind)]
        (.error (.io kind)) e
  | bounded {deadline : Instant} {e e' : ε} {t : List SocketEvent}
      {r : Except PumpError Unit} (waits : W (some deadline) e t r e')
      (before : Option Duration) (restored : Except IoKind Unit) :
      Restores W (some deadline) e
        (.readTimeout (.ok before) :: t ++ [.setReadTimeout before restored])
        (r.bind fun _ => restored.mapError .io) e'

/-- Whatever can be said of a wait can be said of it between a look at the
bound and its restoration. -/
theorem Restores.imp {W W' : Option Instant → ε → List SocketEvent →
      Except PumpError Unit → ε → Prop}
    (himp : ∀ limit e t r e', W limit e t r e' → W' limit e t r e')
    {limit : Option Instant} {e e' : ε} {t : List SocketEvent}
    {r : Except PumpError Unit} (h : Restores W limit e t r e') :
    Restores W' limit e t r e' := by
  cases h with
  | free waits => exact .free (himp _ _ _ _ _ waits)
  | unknown kind => exact .unknown kind
  | bounded waits before restored =>
    exact .bounded (himp _ _ _ _ _ waits) before restored

section Restoring

variable [Engine ε] {enough : ε → Bool}

/-- Waiting with a deadline is listening between a look at the bound on reads
and its restoration. -/
theorem pumpUntil_restores [Wire σ] (enough : ε → Bool)
    (limit : Option Instant) (l : Line ε σ) :
    let r := (pumpUntil enough limit).run l
    Restores (Waits enough) limit l.engine r.events r.result
      r.state.engine := by
  cases limit with
  | none => exact .free (listenUntil_waits enough none l)
  | some deadline =>
    rcases hlook : Wire.readTimeout l.wire with ⟨answer, wire⟩
    cases answer with
    | error kind =>
      have hrun : (pumpUntil enough (some deadline)).run l =
          ⟨.error (.io kind), { l with wire },
            [.readTimeout (.error kind)]⟩ := by
        simp [pumpUntil, call, Act.run_bind, Act.orElse, Act.ask, Act.focus,
          hlook]
      rw [hrun]
      exact .unknown kind
    | ok before =>
      -- whatever comes of the wait, the bound found before it is put back
      have hwaits := listenUntil_waits enough (some deadline) { l with wire }
      rcases hlisten : (listenUntil enough (some deadline)).run { l with wire }
        with ⟨result, l₂, t⟩
      rcases hset : Wire.setReadTimeout before l₂.wire with ⟨restored, wire₂⟩
      have hrun : (pumpUntil enough (some deadline)).run l =
          ⟨result.bind fun _ => restored.mapError .io,
            { l₂ with wire := wire₂ }, .readTimeout (.ok before)
              :: t ++ [.setReadTimeout before restored]⟩ := by
        cases result <;>
          simp [pumpUntil, call, setReadTimeout, Act.run_bind, Act.attempt,
            Act.orElse, Act.ask, Act.focus, hlook, hlisten, hset, Run.after,
            Except.bind]
      rw [hlisten] at hwaits
      rw [hrun]
      exact .bounded hwaits before restored

variable {timeout : Option Duration} {b limit : Option Instant}
  {t : List SocketEvent} {r : Except PumpError Unit} {e e' : ε}

/-- What a bound on reads adds, in a trace. -/
theorem chunks_bounded (before : Option Duration)
    (restored : Except IoKind Unit) (t : List SocketEvent) :
    let u := .readTimeout (.ok before)
      :: t ++ [.setReadTimeout before restored]
    chunks u = chunks t ∧ sent u = sent t := by
  have hchunks : chunks (t ++ [.setReadTimeout before restored])
      = chunks t := by
    rw [chunks_append]
    exact List.append_nil _
  have hsent : sent (t ++ [.setReadTimeout before restored]) = sent t := by
    rw [sent_append]
    exact List.append_nil _
  exact ⟨hchunks, hsent⟩

/-- The two calls around a wait are no concern of the clock. -/
theorem flows_bounded (before : Option Duration) (h : Flows timeout b t b') :
    Flows timeout b (.readTimeout (.ok before)
      :: t ++ [.setReadTimeout before (.ok ())]) b' := by
  have hlook : Flows timeout b [.readTimeout (.ok before)] b := by
    simp [Flows, watch, works, Except.isOk, Except.toBool]
  have hset : Flows timeout b' [.setReadTimeout before (.ok ())] b' := by
    simp [Flows, watch, works, Except.isOk, Except.toBool]
  exact hlook.append (h.append hset)

/-- A wait that ended well handed the engine every chunk, in time. -/
theorem Restores.hears (due : Due timeout b limit)
    (h : Restores (Waits enough) limit e t (.ok ()) e') :
    Hears enough e (chunks t) e' ∧ Flows timeout b t b ∧ sent t = [] := by
  generalize hr : (Except.ok () : Except PumpError Unit) = r at h
  cases h with
  | free waits => exact (hr ▸ waits).hears due
  | unknown => cases hr
  | @bounded _ _ _ t r waits before restored =>
    obtain ⟨hchunks, hsent⟩ := chunks_bounded before restored t
    cases r with
    | error x => cases hr
    | ok u =>
      cases restored with
      | error kind => cases hr
      | ok u =>
        obtain ⟨hhears, hflow, hnone⟩ := waits.hears due
        rw [hchunks, hsent]
        exact ⟨hhears, flows_bounded before hflow, hnone⟩

/-- A wait with nothing wrong in its trace comes to the end that the chunks
lead to. -/
theorem Restores.follows {xs : List Bytes} {e'' : ε} {b' : Option Instant}
    (due : Due timeout b limit) (hears : Hears enough e xs e'')
    (h : Restores (Waits enough) limit e t r e') (flow : Flows timeout b t b')
    (agree : Agrees (chunks t) xs) :
    r = .ok () ∧ chunks t = xs ∧ e' = e'' := by
  cases h with
  | free waits => exact waits.follows due hears flow agree
  | unknown kind =>
    exact absurd flow (not_flows (List.mem_singleton_self _) rfl)
  | @bounded _ _ _ t r waits before restored =>
    rw [(chunks_bounded before restored t).1] at agree ⊢
    cases restored with
    | error kind =>
      refine absurd flow (not_flows (e := .setReadTimeout before (.error kind))
        List.mem_concat_self rfl)
    | ok u =>
      obtain ⟨b₁, hlook, hflow⟩ :=
        Flows.split (t := [.readTimeout (.ok before)]) flow
      obtain ⟨b₂, hflow, -⟩ := hflow.split
      cases hlook
      obtain ⟨rfl, hcs, he⟩ := waits.follows due hears hflow agree
      exact ⟨rfl, hcs, he⟩

variable [Wire σ] {l l' : Line ε σ}

/-- Waiting read from its end: it ended well. -/
theorem pumpUntil_hears (due : Due timeout b limit)
    (h : (pumpUntil enough limit).run l = ⟨.ok (), l', t⟩) :
    Hears enough l.engine (chunks t) l'.engine
      ∧ Flows timeout b t b ∧ sent t = [] := by
  have hrestores := pumpUntil_restores enough limit l
  rw [h] at hrestores
  exact hrestores.hears due

/-- Waiting read from its trace: no call failed or came too late, and the
chunks are those that the engine has to hear. -/
theorem pumpUntil_follows {xs : List Bytes} {e' : ε} {b' : Option Instant}
    (due : Due timeout b limit) (hears : Hears enough l.engine xs e')
    (h : (pumpUntil enough limit).run l = ⟨r, l', t⟩)
    (flow : Flows timeout b t b') (agree : Agrees (chunks t) xs) :
    r = .ok () ∧ chunks t = xs ∧ l'.engine = e' := by
  have hrestores := pumpUntil_restores enough limit l
  rw [h] at hrestores
  exact hrestores.follows due hears flow agree

end Restoring

-- ==================================================== violations ruled out

-- Waiting reports those violations of the protocol that the engine found in
-- what it was fed, and no other.

section Violations

variable [Engine ε] {cause : TransportError} {enough : ε → Bool}

/-- An engine that never reports a cause lets nobody wait for it. -/
theorem Waits.avoids {limit : Option Instant} {e e' : ε}
    {t : List SocketEvent} {r : Except PumpError Unit}
    (fed : ∀ bytes (e : ε), (Engine.feed bytes e).1 ≠ .error cause)
    (h : Waits enough limit e t r e') :
    r ≠ .error (.protocolViolation cause) := by
  induction h with
  | heard => exact nofun
  | again _ _ _ ih => exact ih
  | failed _ turn =>
    cases turn with
    | barred bounds => cases bounds <;> exact nofun
    | read _ takes =>
      cases takes with
      | @refused bytes _ _ _ hfeed =>
        intro hx
        cases hx
        exact fed bytes _ (congrArg Prod.fst hfeed)
      | _ => exact nofun

/-- The calls around a wait report no violation of the protocol. -/
theorem Restores.avoids {limit : Option Instant} {e e' : ε}
    {t : List SocketEvent} {r : Except PumpError Unit}
    (fed : ∀ bytes (e : ε), (Engine.feed bytes e).1 ≠ .error cause)
    (h : Restores (Waits enough) limit e t r e') :
    r ≠ .error (.protocolViolation cause) := by
  cases h with
  | free waits => exact waits.avoids fed
  | unknown => exact nofun
  | @bounded _ _ _ _ r waits before restored =>
    have havoids := waits.avoids fed
    cases r with
    | error x => exact havoids
    | ok u => cases restored <;> exact nofun

/-- So waiting reports violations of the engine only. -/
theorem avoids_pumpUntil [Wire σ]
    (fed : ∀ bytes (e : ε), (Engine.feed bytes e).1 ≠ .error cause)
    (limit : Option Instant) :
    (pumpUntil enough limit : Pumping ε σ Unit).Avoids
      (.protocolViolation cause) :=
  fun l => (pumpUntil_restores enough limit l).avoids fed

end Violations

end SaslGate.Line
