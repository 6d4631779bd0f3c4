/-
A server in lock-step, and what it is like to deal with one. Such a server
waits for its cue, byte for byte, and answers only then; it takes what is
written to it, in as many writes as it likes, and what it says comes in as
many reads as it likes, with interruptions in between. It is asked for
nothing else, so whatever a client does that is not its turn is done at its
own risk.

# Rules

`Line.InStep` says how far client and server have come. Sending cannot fail
if the server waits for exactly what is queued (`InStep.flush`). Waiting can
fail in one way only, when time runs out, and otherwise it takes all that the
server has said, and nothing more (`InStep.listenUntil`).
-/
import SaslGate.Proofs.Ends
import SaslGate.Proofs.Pump

namespace SaslGate

open Act (Ends)
open SocketEvent (sent)

-- =============================================================== the server

/-- Answers to reads that bring some chunks, one by one. None of these is
empty, and any read may be interrupted. -/
inductive Comes : List (Except IoKind Bytes) → List Bytes → Prop
  | nil : Comes [] []
  | chunk {x : Bytes} {answers : List (Except IoKind Bytes)} {xs : List Bytes}
      (filled : x ≠ []) (rest : Comes answers xs) :
      Comes (.ok x :: answers) (x :: xs)
  | interrupted {answers : List (Except IoKind Bytes)} {xs : List Bytes}
      (rest : Comes answers xs) : Comes (.error .interrupted :: answers) xs

/-- Chunks that come one after the other come in one list of answers. -/
theorem Comes.append {answers more : List (Except IoKind Bytes)}
    {xs ys : List Bytes} (h : Comes answers xs) (h' : Comes more ys) :
    Comes (answers ++ more) (xs ++ ys) := by
  induction h with
  | nil => exact h'
  | chunk filled _ ih => exact .chunk filled ih
  | interrupted _ ih => exact .interrupted ih

/-- An empty chunk would be the end of the stream, which never comes. -/
theorem Comes.filled {answers : List (Except IoKind Bytes)}
    {xs : List Bytes} (h : Comes answers xs) : ∀ x ∈ xs, x ≠ [] := by
  induction h with
  | nil => exact List.forall_mem_nil _
  | chunk filled _ ih => exact List.forall_mem_cons.2 ⟨filled, ih⟩
  | interrupted _ ih => exact ih

/-- What a server waits for, and what it says then. -/
structure Cue where
  hears : Bytes
  reply : List (Except IoKind Bytes)

/-- What is left of a server's part: what it has said and nobody has read,
and the cues for all that it is going to say. -/
structure Part where
  coming : List (Except IoKind Bytes)
  cues : List Cue

/-- A server that keeps to its part, step by step; `plays` says of which
wires it is at the other end, and how far it has come. Of bytes that it waits
for it takes at least one. -/
structure LockStep {σ : Type} [Wire σ] (plays : Part → σ → Prop) : Prop where
  write : ∀ {coming reply cues bytes wire},
    plays ⟨coming, ⟨bytes, reply⟩ :: cues⟩ wire → bytes ≠ [] →
    ∃ n wire', Wire.write bytes wire = (.ok n, wire') ∧ 0 < n
      ∧ plays ⟨coming, ⟨bytes.drop n, reply⟩ :: cues⟩ wire'
  flush : ∀ {coming reply cues wire},
    plays ⟨coming, ⟨[], reply⟩ :: cues⟩ wire →
    ∃ wire', Wire.flush wire = (.ok (), wire')
      ∧ plays ⟨coming ++ reply, cues⟩ wire'
  read : ∀ {answer coming cues wire},
    plays ⟨answer :: coming, cues⟩ wire →
    ∃ wire', Wire.read readSize wire = (answer, wire')
      ∧ plays ⟨coming, cues⟩ wire'
  readTimeout : ∀ {part wire}, plays part wire →
    ∃ bound wire', Wire.readTimeout wire = (.ok bound, wire')
      ∧ bound ≠ some 0 ∧ plays part wire'
  setReadTimeout : ∀ {part wire bound}, plays part wire → bound ≠ some 0 →
    ∃ wire', Wire.setReadTimeout bound wire = (.ok (), wire')
      ∧ plays part wire'
  now : ∀ {part wire}, plays part wire → plays part (Wire.now wire).2

-- ===================================================================== time

/-- What no more events can change about a trace, no action changes. -/
theorem Act.Ends.of_persistent {P : List τ → Prop} {x : Act τ σ ε α} {s : σ}
    {t : List τ} (persists : ∀ t u, P t → P (t ++ u)) (h : P t) :
    Ends t x s (fun _ _ => P) fun _ _ => P := by
  rcases hr : x.run s with ⟨r, s', u⟩
  exact .of_run hr (fun _ _ => persists t u h) fun _ _ => persists t u h

namespace SocketEvent

/-- The beginning of the exchange at hand after one more call, unless its
time has run out. An exchange has no time at all if its deadline is one that
the clock cannot show. Calls that fail are no concern of the clock. -/
def tick (timeout : Option Duration) (began : Option Instant) :
    SocketEvent → Option (Option Instant)
  | flush _ => some none
  | clock time =>
    match timeout, began with
    | none, _ => some began
    | some limit, none =>
      if (Instant.after? limit time).isSome then some (some time) else none
    | some limit, some first =>
      if time < first + limit then some began else none
  | _ => some began

/-- A trace in which every exchange had a deadline that the clock can show, if
it had one at all, and none came to it. -/
def InTime (timeout : Option Duration) (u : List SocketEvent) : Prop :=
  (u.foldlM (tick timeout) none).isSome

instance (timeout : Option Duration) (u : List SocketEvent) :
    Decidable (InTime timeout u) := inferInstanceAs (Decidable (_ = true))

/-- A trace that is in time was so at every point. -/
theorem InTime.of_append {timeout : Option Duration} {u v : List SocketEvent}
    (h : InTime timeout (u ++ v)) : InTime timeout u := by
  unfold InTime at *
  rw [List.foldlM_append] at h
  cases hu : u.foldlM (tick timeout) none with
  | none =>
    rw [hu] at h
    cases h
  | some b => rfl

/-- What has passed over an open socket: `out` is all that was written, and
the exchange at hand, which is in time, began as `b` says. -/
structure Passes (timeout : Option Duration) (out : Bytes)
    (b : Option Instant) (u : List SocketEvent) : Prop where
  ticks : u.foldlM (tick timeout) none = some b
  written : sent u = out
  unshut : ∀ answer, .shutdown answer ∉ u

theorem passes_nil (timeout : Option Duration) : Passes timeout [] none [] :=
  ⟨rfl, rfl, fun _ => List.not_mem_nil⟩

section Passing

variable {timeout : Option Duration} {out : Bytes} {b b' : Option Instant}
  {u : List SocketEvent} {e : SocketEvent}

/-- One more call. -/
theorem Passes.snoc (h : Passes timeout out b u)
    (ticks : tick timeout b e = some b') (stays : ∀ a, e ≠ .shutdown a) :
    Passes timeout (out ++ e.written) b' (u ++ [e]) := by
  refine ⟨?_, ?_, ?_⟩
  · rw [List.foldlM_append, h.ticks]
    show [e].foldlM (tick timeout) b = some b'
    rw [List.foldlM_cons, ticks]
    rfl
  · rw [sent_append, h.written]
    simp [sent]
  · intro a hmem
    rcases List.mem_append.1 hmem with hmem | hmem
    · exact h.unshut a hmem
    · exact stays a (List.mem_singleton.1 hmem).symm

/-- One more call that writes nothing. -/
theorem Passes.quiet (h : Passes timeout out b u)
    (ticks : tick timeout b e = some b') (stays : ∀ a, e ≠ .shutdown a)
    (silent : e.written = []) : Passes timeout out b' (u ++ [e]) := by
  have hsnoc := h.snoc ticks stays
  rwa [silent, List.append_nil] at hsnoc

/-- One more call, when there is no time for it. -/
theorem Passes.late (h : Passes timeout out b u)
    (stops : tick timeout b e = none) : ¬ InTime timeout (u ++ [e]) := by
  unfold InTime
  rw [List.foldlM_append, h.ticks]
  show ¬ ([e].foldlM (tick timeout) b).isSome = true
  rw [List.foldlM_cons, stops]
  exact Bool.false_ne_true

/-- The clock has come to the deadline. -/
theorem tick_late {first time : Instant} {limit : Duration}
    (late : first + limit ≤ time) :
    tick (some limit) (some first) (.clock time) = none :=
  if_neg (Nat.not_lt.2 late)

/-- The clock shows the time at which an exchange begins. -/
theorem tick_begin (limit : Duration) (time : Instant) :
    tick (some limit) none (.clock time)
      = (Instant.after? limit time).map fun _ => some time := by
  cases ha : Instant.after? limit time <;> simp [tick, ha]

end Passing

end SocketEvent

-- ================================================================= the line

namespace Line

open SocketEvent (Passes InTime tick)

/-- A line to a server in lock-step: its client is `c`, the server has come
to the part `p`, and the trace shows what has passed so far. -/
structure InStep {σ : Type} (plays : Part → σ → Prop)
    (timeout : Option Duration) (c : Client) (p : Part) (out : Bytes)
    (b : Option Instant) (l : Line Client σ) (u : List SocketEvent) :
    Prop where
  engine : l.engine = c
  part : plays p l.wire
  passes : Passes timeout out b u

namespace InStep

variable {σ : Type} {plays : Part → σ → Prop} {timeout : Option Duration}
  {c c' : Client} {p p' : Part} {out : Bytes} {b b' : Option Instant}
  {l : Line Client σ} {u : List SocketEvent}

/-- A call that is answered well and writes nothing. -/
theorem call {f : σ → Except IoKind α × σ} {a : α} {wire : σ}
    {fail : IoKind → Line Client σ → List SocketEvent → Prop}
    (h : InStep plays timeout c p out b l u)
    (event : Except IoKind α → SocketEvent)
    (answers : f l.wire = (.ok a, wire)) (part : plays p' wire)
    (ticks : tick timeout b (event (.ok a)) = some b')
    (stays : ∀ r, event (.ok a) ≠ .shutdown r)
    (silent : (event (.ok a)).written = []) :
    Ends u (Line.call event f) l
      (fun a' l' u' => a' = a ∧ InStep plays timeout c p' out b' l' u')
      fail := by
  have hrun : (Line.call event f).run l =
      ⟨.ok a, { l with wire }, [event (.ok a)]⟩ := by
    simp [Line.call, Act.ask, Act.focus, answers]
  refine .of_run_ok hrun ?_
  exact ⟨rfl, h.engine, part, h.passes.quiet ticks stays silent⟩

variable [Wire σ]

-- ================================================================ outwards

section Outwards

variable {coming reply : List (Except IoKind Bytes)} {cues : List Cue}
  {q : Bytes}

/-- A client that has sent some of what the server waits for, and has the
rest of it in its queue. -/
def Sending (plays : Part → σ → Prop) (timeout : Option Duration)
    (c : Client) (coming reply : List (Except IoKind Bytes))
    (cues : List Cue) (out : Bytes) (b : Option Instant)
    (l : Line Client σ) (u : List SocketEvent) : Prop :=
  ∃ done rest, c.outbound = done ++ rest
    ∧ InStep plays timeout { c with outbound := rest }
      ⟨coming, ⟨rest, reply⟩ :: cues⟩ (out ++ done) b l u

/-- One turn outwards. -/
theorem offer
    {fail : PumpError → Line Client σ → List SocketEvent → Prop}
    (lockStep : LockStep plays)
    (h : Sending plays timeout c coming reply cues out b l u) :
    Ends u Line.offer l
      (fun again l' u' =>
        if again then Sending plays timeout c coming reply cues out b l' u'
        else InStep plays timeout { c with outbound := [] }
          ⟨coming, ⟨[], reply⟩ :: cues⟩ (out ++ c.outbound) b l' u')
      fail := by
  obtain ⟨done, rest, hcut, hstep⟩ := h
  have hqueued : l.queued = rest := by
    rw [queued, hstep.engine]
    rfl
  apply Ends.state_bind
  split
  · rename_i hempty
    obtain rfl : rest = [] := hqueued.symm.trans hempty
    rw [List.append_nil] at hcut
    refine .pure ?_
    rw [hcut]
    exact hstep
  · rename_i hsome
    rw [hqueued] at hsome
    obtain ⟨n, wire, hwrite, hn, hpart⟩ := lockStep.write hstep.part hsome
    have hrun : Line.write.run l = ⟨.ok (rest.take n),
        ⟨l.engine.consume n, wire⟩, [.write (.ok (rest.take n))]⟩ := by
      simp [Line.write, hqueued, hwrite, Engine.consume]
    refine .bind (.orElse (.of_run_ok hrun ?_))
    -- the server takes something at each write, so the loop does not stop
    have hsent : rest.take n ≠ [] := by
      rw [ne_eq, List.take_eq_nil_iff]
      rintro (hzero | hnil)
      · omega
      · exact hsome hnil
    rw [if_neg hsent]
    refine .pure ⟨done ++ rest.take n, rest.drop n, ?_, ?_, hpart, ?_⟩
    · rw [List.append_assoc, List.take_append_drop, hcut]
    · show l.engine.consume n = _
      rw [hstep.engine]
      rfl
    · rw [← List.append_assoc]
      exact hstep.passes.snoc (e := .write (.ok (rest.take n))) rfl
        fun _ => SocketEvent.noConfusion

/-- Sending succeeds if the server waits for all that is queued, and then
what it says is on its way. -/
theorem flush
    {fail : PumpError → Line Client σ → List SocketEvent → Prop}
    (lockStep : LockStep plays)
    (h : InStep plays timeout c ⟨coming, ⟨c.outbound, reply⟩ :: cues⟩ out b
      l u) :
    Ends u Line.flush l
      (fun _ => InStep plays timeout { c with outbound := [] }
        ⟨coming ++ reply, cues⟩ (out ++ c.outbound) none)
      fail := by
  have hstart : Sending plays timeout c coming reply cues out b l u := by
    refine ⟨[], c.outbound, rfl, ?_⟩
    rw [List.append_nil]
    exact h
  have hloop : Ends u (Act.iterate Line.offer (fun l => l.queued.length)
      Line.offer_lowers) l
      (fun _ => InStep plays timeout { c with outbound := [] }
        ⟨coming, ⟨[], reply⟩ :: cues⟩ (out ++ c.outbound) b)
      fail := .iterate (fun l u => offer lockStep) hstart
  apply hloop.andThen
  intro _ l' u' hsent
  obtain ⟨wire, hflush, hpart⟩ := lockStep.flush hsent.part
  refine .orElse ((hsent.call .flush hflush hpart rfl nofun rfl).imp_ok ?_)
  intro _ l'' u'' hflushed
  exact hflushed.2

end Outwards

-- ================================================================= inwards

section Inwards

variable {enough : Client → Bool} {limit : Option Instant}
  {coming : List (Except IoKind Bytes)} {cues : List Cue} {cs : List Bytes}

/-- A look at the clock. -/
theorem now {fail : δ → Line Client σ → List SocketEvent → Prop}
    (lockStep : LockStep plays) (h : InStep plays timeout c p out b l u) :
    Ends u (Line.now : Act SocketEvent (Line Client σ) δ Instant) l
      (fun time l' u' => u' = u ++ [.clock time] ∧ l'.engine = c
        ∧ plays p l'.wire)
      fail := by
  rcases hn : Wire.now l.wire with ⟨time, wire⟩
  have hrun : (Line.now : Act SocketEvent (Line Client σ) δ Instant).run l =
      ⟨.ok time, { l with wire }, [.clock time]⟩ := by
    simp [Line.now, hn]
  have hpart : plays p wire := by
    have := lockStep.now h.part
    rwa [hn] at this
  refine .of_run_ok hrun ?_
  exact ⟨rfl, h.engine, hpart⟩

/-- Bounding the next read fails only when time has run out. -/
theorem bound (lockStep : LockStep plays) (due : Due timeout b limit)
    (h : InStep plays timeout c p out b l u) :
    Ends u (Line.bound limit) l
      (fun _ => InStep plays timeout c p out b)
      fun _ _ u' => ¬ InTime timeout u' := by
  cases timeout with
  | none =>
    cases due
    exact .pure h
  | some d =>
    obtain ⟨first, rfl, rfl⟩ := due
    apply (h.now lockStep).andThen
    intro time l' u' hnow
    obtain ⟨rfl, hengine, hpart⟩ := hnow
    by_cases hlate : first + d ≤ time
    · rw [if_pos hlate]
      exact .bind (.fails (h.passes.late (SocketEvent.tick_late hlate)))
    · rw [if_neg hlate]
      have htick : tick (some d) (some first) (.clock time)
          = some (some first) := if_pos (Nat.lt_of_not_le hlate)
      have hin : InStep plays (some d) c p out (some first) l'
          (u ++ [.clock time]) :=
        ⟨hengine, hpart, h.passes.quiet htick nofun rfl⟩
      -- time is left, so the bound is one that the socket accepts
      have hleft : some (first + d - time) ≠ some 0 := by
        intro hzero
        exact Nat.sub_ne_zero_of_lt (Nat.lt_of_not_le hlate)
          (Option.some.inj hzero)
      obtain ⟨wire, hset, hpart'⟩ := lockStep.setReadTimeout hpart hleft
      refine .orElse ((hin.call (.setReadTimeout _) hset hpart' rfl nofun
        rfl).imp_ok ?_)
      intro _ l'' u'' hset
      exact hset.2

/-- A read brings what comes next. -/
theorem read {answer : Except IoKind Bytes}
    {fail : PumpError → Line Client σ → List SocketEvent → Prop}
    (lockStep : LockStep plays)
    (h : InStep plays timeout c ⟨answer :: coming, cues⟩ out b l u) :
    Ends u (Line.read.attempt : Pumping Client σ (Except IoKind Bytes)) l
      (fun answer' l' u' => answer' = answer
        ∧ InStep plays timeout c ⟨coming, cues⟩ out b l' u')
      fail := by
  obtain ⟨wire, hread, hpart⟩ := lockStep.read h.part
  have hrun : (Line.read.attempt : Pumping Client σ _).run l =
      ⟨.ok answer, { l with wire }, [.read answer]⟩ := by
    simp [Line.read, Line.call, Act.attempt, Act.ask, Act.focus, hread]
  refine .of_run_ok hrun ?_
  exact ⟨rfl, h.engine, hpart,
    h.passes.quiet rfl (fun _ => SocketEvent.noConfusion) rfl⟩

/-- The client hears what the server has said, and no more than is to be
heard. -/
def Hearing (plays : Part → σ → Prop) (timeout : Option Duration)
    (enough : Client → Bool) (c' : Client) (cues : List Cue) (out : Bytes)
    (b : Option Instant) (l : Line Client σ) (u : List SocketEvent) : Prop :=
  ∃ c cs coming, Hears enough c cs c' ∧ Comes coming cs
    ∧ InStep plays timeout c ⟨coming, cues⟩ out b l u

/-- All that the server has said has been heard, but for interruptions. -/
def Quiet (plays : Part → σ → Prop) (timeout : Option Duration)
    (c : Client) (cues : List Cue) (out : Bytes) (b : Option Instant)
    (l : Line Client σ) (u : List SocketEvent) : Prop :=
  ∃ coming, Comes coming []
    ∧ InStep plays timeout c ⟨coming, cues⟩ out b l u

/-- One turn inwards, as long as not enough has been heard. -/
theorem listen (lockStep : LockStep plays) (due : Due timeout b limit)
    (h : Hearing plays timeout enough c' cues out b l u) :
    Ends u (Line.listen enough limit) l
      (fun again => if again then
          Hearing plays timeout enough c' cues out b
        else Quiet plays timeout c' cues out b)
      fun _ _ u' => ¬ InTime timeout u' := by
  obtain ⟨c, cs, coming, hears, comes, hstep⟩ := h
  apply Ends.state_bind
  rw [hstep.engine]
  cases hears with
  | done heard =>
    rw [if_pos heard]
    exact .pure ⟨coming, comes, hstep⟩
  | @chunk _ c₁ _ bytes cs unheard some fed rest =>
    rw [unheard, if_neg Bool.false_ne_true]
    apply (hstep.bound lockStep due).andThen
    intro _ l₁ u₁ hbound
    cases comes with
    | chunk filled comes =>
      refine .bind ((hbound.read lockStep).imp_ok ?_)
      intro _ l₂ u₂ hread
      obtain ⟨rfl, hread⟩ := hread
      have hfeed : (Line.feed bytes).run l₂ =
          ⟨.ok (), { l₂ with engine := c₁ }, []⟩ := by
        simp [Line.feed, Act.step, Act.focus, hread.engine, fed]
      obtain ⟨x, xs, rfl⟩ := List.exists_cons_of_ne_nil some
      refine .bind (.orElse (.of_run_ok hfeed ?_))
      rw [List.append_nil]
      exact .pure ⟨c₁, cs, _, rest, comes, rfl, hread.part, hread.passes⟩
    | interrupted comes =>
      refine .bind ((hbound.read lockStep).imp_ok ?_)
      intro _ l₂ u₂ hread
      obtain ⟨rfl, hread⟩ := hread
      exact .pure ⟨c, _, _, .chunk unheard some fed rest, comes, hread⟩

/-- Reading until enough has been heard. -/
theorem listenUntil (lockStep : LockStep plays) (due : Due timeout b limit)
    (h : Hearing plays timeout enough c' cues out b l u) :
    Ends u (Line.listenUntil enough limit) l
      (fun _ => Quiet plays timeout c' cues out b)
      fun _ _ u' => ¬ InTime timeout u' := by
  refine .iterate ?_ h
  intro l u hhears
  apply (listen lockStep due hhears).imp_ok
  intro again l' u' hturn
  cases again with
  | true => exact hturn
  | false => exact hturn

/-- Reading within a deadline, which is taken back at the end. -/
theorem pumpUntil (lockStep : LockStep plays) (due : Due timeout b limit)
    (h : Hearing plays timeout enough c' cues out b l u) :
    Ends u (Line.pumpUntil enough limit) l
      (fun _ => Quiet plays timeout c' cues out b)
      fun _ _ u' => ¬ InTime timeout u' := by
  cases limit with
  | none => exact listenUntil lockStep due h
  | some deadline =>
    obtain ⟨c, cs, coming, hears, comes, hstep⟩ := h
    obtain ⟨_, wire, hlook, hbefore, hpart⟩ :=
      lockStep.readTimeout hstep.part
    refine .bind (.orElse ((hstep.call .readTimeout hlook hpart rfl nofun
      rfl).imp_ok ?_))
    intro before l₁ u₁ hlooked
    obtain ⟨rfl, hstep₁⟩ := hlooked
    have hhears : Hearing plays timeout enough c' cues out b l₁ u₁ :=
      ⟨c, cs, coming, hears, comes, hstep₁⟩
    refine .bind (.attempt ((listenUntil lockStep due hhears).imp ?_ ?_))
    · intro _ l₂ u₂ hquiet
      obtain ⟨left, hleft, hstep₂⟩ := hquiet
      obtain ⟨wire₂, hset, hpart₂⟩ :=
        lockStep.setReadTimeout hstep₂.part hbefore
      refine .bind (.attempt (.orElse ((hstep₂.call (.setReadTimeout _) hset
        hpart₂ rfl nofun rfl).imp ?_ fun _ _ _ hfail => hfail)))
      · intro _ l₃ u₃ hdone
        exact .bind (.ofExcept (fun _ _ => .ofExcept
          (fun _ _ => ⟨left, hleft, hdone.2⟩) nofun) nofun)
    · intro _ l₂ u₂ hlate
      -- late once is late for good, so restoring the bound changes nothing
      have persists : ∀ u v, ¬ InTime timeout u → ¬ InTime timeout (u ++ v) :=
        fun u v hu hin => hu hin.of_append
      have hset := Act.Ends.of_persistent (s := l₂)
        (x := (setReadTimeout before).orElse PumpError.io) persists hlate
      refine .bind (.attempt (hset.imp ?_ ?_))
      · intro _ l₃ u₃ hlate₃
        exact .bind (.ofExcept nofun fun _ _ => hlate₃)
      · intro _ l₃ u₃ hlate₃
        exact .bind (.ofExcept nofun fun _ _ => hlate₃)

end Inwards

end InStep

end Line

end SaslGate
