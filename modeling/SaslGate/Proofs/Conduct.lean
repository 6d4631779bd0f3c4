/-
How an open link goes about its work. Each of its actions keeps to the rules
of `AtWork`, whether it ends well or not, and this is shown action by action,
along the text of the program, with the rules of `Ends`.

# What is known

`Known P` says that the client of a line, or of a link, is at work, and that
`P` holds of it and of its turns. A specification takes what is known before
an action to what is known after it. Two of them carry the rest. Sending
(`Line.Known.flush`) empties the queue and touches nothing else; if it fails,
only the turns are known. Reading (`Line.Known.listenUntil`) asks for a `P`
that every chunk keeps, and that allows to read as long as not enough has been
heard (`Line.Attends`).

# What becomes of a connection

A session that lost its link, or never had one, still has to answer for it.
`Custody` is what may have become of the one connection of a session, with the
trace that it leaves in each case. Letting go of a link that is held keeps to
it (`Custody.farewell`), so no session needs to look at how its link ended.
-/
import SaslGate.Proofs.AtWork

namespace SaslGate

open Act (Ends)
open Turn (frames challenges responses)

-- =============================================================== the line

namespace Line

variable {σ : Type} {l : Line Client σ} {u : List SocketEvent}
  {P Q : Client → List Turn → Prop}

/-- The client of a line is at work, and `P` holds of it and of its turns. -/
def Known (P : Client → List Turn → Prop) (l : Line Client σ)
    (u : List SocketEvent) : Prop :=
  ∃ us, AtWork l.engine us u ∧ P l.engine us

/-- Whoever waits until enough has been heard has a right to read before,
and nothing that is read changes that. -/
structure Attends (enough : Client → Bool)
    (P : Client → List Turn → Prop) : Prop where
  listens : ∀ c us, P c us → enough c = false → c.Listens us
  keeps : ∀ c us bytes, P c us → enough c = false →
    P (c.feed bytes).2 (us ++ (c.noted bytes).map .heard)

/-- A client that has sent some of what was queued, and done nothing else. -/
def SomeSent (P : Client → List Turn → Prop) (c' : Client)
    (us : List Turn) : Prop :=
  ∃ c, P c us ∧ { c' with outbound := [] } = { c with outbound := [] }

/-- A client that has sent all that was queued, and done nothing else. -/
def AllSent (P : Client → List Turn → Prop) (c' : Client)
    (us : List Turn) : Prop :=
  ∃ c, P c us ∧ c' = { c with outbound := [] }

theorem SomeSent.all {c : Client} {us : List Turn} (h : SomeSent P c us)
    (hempty : c.outbound = []) : AllSent P c us := by
  obtain ⟨c₀, hp, hsame⟩ := h
  rw [← hempty] at hsame
  exact ⟨c₀, hp, by rw [← hempty]; exact hsame⟩

namespace Known

theorem imp (h : Known P l u) (himp : ∀ c us, P c us → Q c us) :
    Known Q l u := by
  obtain ⟨us, hwork, hp⟩ := h
  exact ⟨us, hwork, himp _ _ hp⟩

/-- A call that moves no byte. -/
theorem call {event : Except IoKind α → SocketEvent}
    {f : σ → Except IoKind α × σ} (h : Known P l u)
    (still : ∀ answer, (event answer).Still) :
    Ends u (Line.call event f) l (fun _ => Known P) fun _ => Known P := by
  obtain ⟨us, hwork, hp⟩ := h
  have hrun : (Line.call event f).run l =
      ⟨(f l.wire).1, { l with wire := (f l.wire).2 }, [event (f l.wire).1]⟩ :=
    rfl
  have hafter : Known P { l with wire := (f l.wire).2 }
      (u ++ [event (f l.wire).1]) := ⟨us, hwork.still (still _), hp⟩
  exact .of_run hrun (fun _ _ => hafter) fun _ _ => hafter

-- ============================================================== outwards

section Outwards

variable [Wire σ]

/-- One turn outwards gets rid of the front of the queue, or of nothing. -/
theorem offer (h : Known (SomeSent P) l u) :
    Ends u Line.offer l
      (fun again l' u' => Known (SomeSent P) l' u'
        ∧ (again = false → l'.engine.outbound = []))
      fun _ => Known (SomeSent P) := by
  refine .state_bind ?_
  split
  · rename_i hempty
    exact .pure ⟨h, fun _ => hempty⟩
  · obtain ⟨us, hwork, hsome⟩ := h
    refine .bind (.orElse ?_)
    rcases hw : Wire.write l.queued l.wire with ⟨answer, wire⟩
    cases answer with
    | error kind =>
      have hrun : Line.write.run l =
          ⟨.error kind, { l with wire }, [.write (.error kind)]⟩ := by
        simp [Line.write, hw]
      exact .of_run_error hrun ⟨us, hwork.still trivial, hsome⟩
    | ok n =>
      have hrun : Line.write.run l = ⟨.ok (l.queued.take n),
          ⟨l.engine.consume n, wire⟩, [.write (.ok (l.queued.take n))]⟩ := by
        simp [Line.write, hw, Engine.consume]
      -- what the engine drops is counted by the bytes that were written
      have hdrop : l.queued.drop (l.queued.take n).length
          = l.queued.drop n := by
        rw [List.drop_eq_drop_iff, List.length_take]
        omega
      have hcut : l.engine.consume (l.queued.take n).length
          = l.engine.consume n :=
        congrArg (fun queue => { l.engine with outbound := queue }) hdrop
      have hwrites := hwork.writes (List.take_prefix n l.engine.outbound)
      have hafter : Known (SomeSent P) ⟨l.engine.consume n, wire⟩
          (u ++ [.write (.ok (l.queued.take n))]) :=
        ⟨us, hcut ▸ hwrites, hsome⟩
      refine .of_run_ok hrun ?_
      split
      · exact .bind (.fails hafter)
      · exact .pure ⟨hafter, Bool.noConfusion⟩

/-- Sending empties the queue, and touches nothing else. -/
theorem flush (h : Known P l u) :
    Ends u Line.flush l (fun _ => Known (AllSent P))
      fun _ => Known (SomeSent P) := by
  have hsome : Known (SomeSent P) l u := h.imp fun c us hp => ⟨c, hp, rfl⟩
  have hloop : Ends u (Act.iterate Line.offer (fun l => l.queued.length)
      Line.offer_lowers) l (fun _ => Known (AllSent P))
      fun _ => Known (SomeSent P) := by
    refine .iterate ?_ hsome
    intro l u hsome
    refine hsome.offer.imp_ok ?_
    intro again l' u' h'
    cases again with
    | true => exact h'.1
    | false =>
      obtain ⟨⟨us, hwork, hsome'⟩, hempty⟩ := h'
      exact ⟨us, hwork, hsome'.all (hempty rfl)⟩
  have hstill : ∀ answer, (SocketEvent.flush answer).Still :=
    fun _ => trivial
  refine hloop.andThen ?_
  intro _ l' u' hall
  refine .orElse ((hall.call hstill).imp (fun _ _ _ h => h) ?_)
  intro _ l'' u'' hall'
  refine hall'.imp ?_
  intro c us hc
  obtain ⟨c₀, hp, rfl⟩ := hc
  exact ⟨c₀, hp, rfl⟩

end Outwards

-- =============================================================== inwards

section Inwards

variable {enough : Client → Bool}

/-- What a read brought is fed to the client, if it is a chunk. -/
theorem take (attends : Attends enough P) {answer : Except IoKind Bytes}
    {us : List Turn} (work : AtWork l.engine us u) (hp : P l.engine us)
    (more : enough l.engine = false) :
    Ends (u ++ [.read answer]) (Line.take answer) l
      (fun again l' u' => Known P l' u' ∧ again = true)
      fun _ => Known P := by
  -- the read was made by a client that was due to read
  have listens := attends.listens _ _ hp more
  match answer with
  | .ok [] =>
    refine .fails ⟨us, work.misses listens ?_, hp⟩
    intro bytes hbytes
    exact (Except.ok.inj hbytes).symm
  | .ok (byte :: rest) =>
    have hfed : Known P { l with engine := (l.engine.feed (byte :: rest)).2 }
        (u ++ [.read (.ok (byte :: rest))]) :=
      ⟨_, work.reads listens, attends.keeps _ _ _ hp more⟩
    have hrun : (Line.feed (byte :: rest)).run l =
        ⟨(l.engine.feed (byte :: rest)).1,
          { l with engine := (l.engine.feed (byte :: rest)).2 }, []⟩ := rfl
    refine .bind (.orElse (.of_run hrun ?_ ?_))
    · intro _ _
      rw [List.append_nil]
      exact .pure ⟨hfed, rfl⟩
    · intro _ _
      rw [List.append_nil]
      exact hfed
  | .error kind =>
    have hmissed : Known P l (u ++ [.read (.error kind)]) :=
      ⟨us, work.misses listens nofun, hp⟩
    simp only [Line.take]
    split
    · exact .pure ⟨hmissed, rfl⟩
    · split
      · exact .fails hmissed
      · exact .fails hmissed

variable [Wire σ]

/-- A look at the clock. -/
theorem now (h : Known P l u) :
    Ends u (Line.now : Act SocketEvent (Line Client σ) δ Instant) l
      (fun _ => Known P) fun _ => Known Q := by
  obtain ⟨us, hwork, hp⟩ := h
  rcases hn : Wire.now l.wire with ⟨time, wire⟩
  have hrun : (Line.now : Act SocketEvent (Line Client σ) δ Instant).run l =
      ⟨.ok time, { l with wire }, [.clock time]⟩ := by
    simp [Line.now, hn]
  exact .of_run_ok hrun ⟨us, hwork.still trivial, hp⟩

/-- Bounding a read moves no byte. -/
theorem bound (h : Known P l u) (deadline : Option Instant) :
    Ends u (Line.bound deadline) l (fun _ => Known P) fun _ => Known P := by
  cases deadline with
  | none => exact .pure h
  | some deadline =>
    refine h.now.andThen ?_
    intro time l' u' h'
    split
    · exact .bind (.fails h')
    · exact .orElse (h'.call fun _ => trivial)

/-- One turn inwards. -/
theorem listen (attends : Attends enough P) (h : Known P l u)
    (deadline : Option Instant) :
    Ends u (Line.listen enough deadline) l
      (fun again l' u' => Known P l' u'
        ∧ (again = false → enough l'.engine = true))
      fun _ => Known P := by
  refine .state_bind ?_
  split
  · rename_i henough
    exact .pure ⟨h, fun _ => henough⟩
  · rename_i hmore
    -- not enough has been heard, and bounding the read leaves it so
    have hdeaf : Known (fun c us => P c us ∧ enough c = false) l u := by
      obtain ⟨us, hwork, hp⟩ := h
      exact ⟨us, hwork, hp, by simpa using hmore⟩
    refine .bind ((hdeaf.bound deadline).imp ?_ fun _ l' u' h' =>
      h'.imp fun _ _ hp => hp.1)
    intro _ l₁ u₁ hbound
    obtain ⟨us, hwork, hp, hdeaf₁⟩ := hbound
    rcases hread : Wire.read readSize l₁.wire with ⟨answer, wire⟩
    have hattempt : (Line.read.attempt : Pumping Client σ _).run l₁ =
        ⟨.ok answer, { l₁ with wire }, [.read answer]⟩ := by
      simp [Line.read, Line.call, Act.attempt, Act.ask, Act.focus, hread]
    refine .bind (.of_run_ok hattempt ?_)
    refine (take attends (l := { l₁ with wire }) hwork hp hdeaf₁).imp_ok ?_
    intro again l' u' hagain
    exact ⟨hagain.1, fun hfalse =>
      absurd (hfalse.symm.trans hagain.2) Bool.false_ne_true⟩

/-- Reading until enough has been heard. -/
theorem listenUntil (attends : Attends enough P) (h : Known P l u)
    (deadline : Option Instant) :
    Ends u (Line.listenUntil enough deadline) l
      (fun _ => Known fun c us => P c us ∧ enough c = true)
      fun _ => Known P := by
  refine .iterate ?_ h
  intro l u hknown
  refine (hknown.listen attends deadline).imp_ok ?_
  intro again l' u' h'
  cases again with
  | true => exact h'.1
  | false =>
    obtain ⟨⟨us, hwork, hp⟩, henough⟩ := h'
    exact ⟨us, hwork, hp, henough rfl⟩

/-- Reading within a deadline, which is taken back at the end. -/
theorem pumpUntil (attends : Attends enough P) (h : Known P l u)
    (deadline : Option Instant) :
    Ends u (Line.pumpUntil enough deadline) l
      (fun _ => Known fun c us => P c us ∧ enough c = true)
      fun _ => Known P := by
  cases deadline with
  | none => exact h.listenUntil attends none
  | some deadline =>
    have hlook : ∀ answer, (SocketEvent.readTimeout answer).Still :=
      fun _ => trivial
    have hset : ∀ before answer,
        (SocketEvent.setReadTimeout before answer).Still :=
      fun _ _ => trivial
    refine .bind (.orElse ((h.call hlook).imp_ok ?_))
    intro before l₁ u₁ h₁
    refine .bind (.attempt ((h₁.listenUntil attends (some deadline)).imp
      ?_ ?_))
    · intro _ l₂ u₂ h₂
      refine .bind (.attempt (.orElse ((h₂.call (hset before)).imp ?_ ?_)))
      · intro _ l₃ u₃ h₃
        exact .bind (.ofExcept (fun _ _ => .ofExcept (fun _ _ => h₃) nofun)
          nofun)
      · intro _ l₃ u₃ h₃
        refine .bind (.ofExcept (fun _ _ => .ofExcept nofun fun _ _ => ?_)
          nofun)
        exact h₃.imp fun _ _ hp => hp.1
    · intro _ l₂ u₂ h₂
      refine .bind (.attempt (.orElse ((h₂.call (hset before)).imp ?_ ?_)))
      · intro _ l₃ u₃ h₃
        exact .bind (.ofExcept nofun fun _ _ => h₃)
      · intro _ l₃ u₃ h₃
        exact .bind (.ofExcept nofun fun _ _ => h₃)

end Inwards

end Known

end Line

-- ============================================================== the link

namespace Link

variable {σ : Type} {config : RemoteConfig} {k : Link Client σ}
  {t : List Event} {P Q : Client → List Turn → Prop} {R : List Turn → Prop}

/-- The trace of opening a link, and of what passed over it since. -/
def opened (config : RemoteConfig) (id : Nat) (u : List SocketEvent) :
    List Event :=
  .connect config.host config.portNumber config.connectTimeout (.ok id)
    :: u.map (.socket id)

/-- What is done on an open socket follows the connecting. -/
@[simp] theorem opened_append (config : RemoteConfig) (id : Nat)
    (u v : List SocketEvent) :
    opened config id u ++ v.map (.socket id) = opened config id (u ++ v) := by
  simp [opened]

/-- Connecting is a call of the connector and none of the socket. -/
@[simp] theorem calls_opened (config : RemoteConfig) (id : Nat)
    (u : List SocketEvent) : Event.calls (opened config id u) = u :=
  Event.calls_socket id u

/-- A link is open, its client is at work, and `P` holds of the client and of
its turns. The trace shows the opening and the work, and nothing else. -/
def Known (config : RemoteConfig) (P : Client → List Turn → Prop)
    (k : Link Client σ) (t : List Event) : Prop :=
  ∃ l u, k.line = some l ∧ Line.Known P l u ∧ t = opened config k.id u

namespace Known

theorem imp (h : Known config P k t) (himp : ∀ c us, P c us → Q c us) :
    Known config Q k t := by
  obtain ⟨l, u, hl, hknown, ht⟩ := h
  exact ⟨l, u, hl, hknown.imp himp, ht⟩

/-- An action of the line. -/
theorem onLine {toError : δ → AuthError}
    {x : Act SocketEvent (Line Client σ) δ α}
    {ok : α → Client → List Turn → Prop} (h : Known config P k t)
    (hx : ∀ l u, Line.Known P l u → Ends u x l
      (fun a => Line.Known (ok a)) fun _ => Line.Known Q) :
    Ends t (Link.onLine toError x) k (fun a => Known config (ok a))
      fun _ => Known config Q := by
  obtain ⟨l, u, hl, hknown, rfl⟩ := h
  rcases hr : x.run l with ⟨r, l', v⟩
  have hrun : (Link.onLine toError x).run k = ⟨r.mapError toError,
      k.put l', v.map (.socket k.id)⟩ := by
    rw [run_onLine hl, hr]
  cases r with
  | ok a =>
    refine .of_run_ok hrun ?_
    exact ⟨l', u ++ v, rfl, (hx l u hknown).of_ok hr,
      opened_append config k.id u v⟩
  | error d =>
    refine .of_run_error hrun ?_
    exact ⟨l', u ++ v, rfl, (hx l u hknown).of_error hr,
      opened_append config k.id u v⟩

/-- Taking what waits. -/
theorem takePending (h : Known config P k t)
    (taken : ∀ c us, P c us → Q { c with pending := none } us) :
    Ends t (Link.takePending : Linked Client σ _) k
      (fun _ => Known config Q) fun _ => Known config Q := by
  obtain ⟨l, u, hl, ⟨us, hwork, hp⟩, rfl⟩ := h
  refine .of_run_ok (run_takePending hl) ?_
  rw [List.append_nil]
  have htake := hwork.own (k := .takePending) trivial
  rw [show ClientCall.takePending.turns l.engine = [] from rfl,
    List.append_nil] at htake
  exact ⟨_, u, rfl, ⟨us, htake, taken _ _ hp⟩, rfl⟩

variable [Wire σ]

/-- A look at the clock. -/
theorem now (h : Known config P k t) :
    Ends t (Link.now : Linked Client σ Instant) k
      (fun _ => Known config P) fun _ => Known config P := by
  have hline : Ends t (Link.onLine .ofPump Line.now : Linked Client σ Instant)
      k (fun _ => Known config P) fun _ => Known config P :=
    h.onLine fun l u hknown => hknown.now
  obtain ⟨l, u, hl, -⟩ := h
  exact .of_run_eq (run_now_onLine .ofPump hl) hline

/-- Sending what is queued. -/
theorem flush (h : Known config P k t) (tells : ∀ c us, P c us → R us) :
    Ends t (Link.onLine .ofPump Line.flush) k
      (fun _ => Known config (Line.AllSent P))
      fun _ => Known config fun _ us => R us := by
  refine h.onLine fun l u hknown => hknown.flush.imp (fun _ _ _ h => h) ?_
  intro _ l' u' hsome
  refine hsome.imp ?_
  intro _ us hc
  obtain ⟨c, hp, -⟩ := hc
  exact tells c us hp

/-- A call of the client that is due, and the sending of what it queued. -/
theorem send (call : ClientCall) (h : Known config P k t)
    (due : ∀ c us, P c us → call.Due us)
    (sent : ∀ c us, P c us → (call.step c).1 = .ok () →
      Q { (call.step c).2 with outbound := [] } (us ++ call.turns c))
    (tells : ∀ c us, P c us → R (us ++ call.turns c)) :
    Ends t (Link.send call.step) k (fun _ => Known config Q)
      fun _ => Known config fun _ us => R us := by
  have hstep : Ends t (Link.onLine .protocolViolation
      (Line.engineStep call.step) : Linked Client σ Unit) k
      (fun _ => Known config fun c us =>
        Q { c with outbound := [] } us ∧ R us)
      fun _ => Known config fun _ us => R us := by
    refine h.onLine fun l u hknown => ?_
    obtain ⟨us, hwork, hp⟩ := hknown
    have hrun : (Line.engineStep call.step).run l = ⟨(call.step l.engine).1,
        { l with engine := (call.step l.engine).2 }, []⟩ := rfl
    have hown := hwork.own (due _ _ hp)
    refine .of_run hrun ?_ ?_
    · intro _ hok
      rw [List.append_nil]
      exact ⟨_, hown, sent _ _ hp hok, tells _ _ hp⟩
    · intro _ _
      rw [List.append_nil]
      exact ⟨_, hown, tells _ _ hp⟩
  refine hstep.andThen ?_
  intro _ k' t' h'
  refine (h'.flush fun c us hc => hc.2).imp_ok ?_
  intro _ k'' t'' hall
  refine hall.imp ?_
  intro c' us hc
  obtain ⟨c, ⟨hq, -⟩, rfl⟩ := hc
  exact hq

/-- Reading until enough has been heard, within the time that is given. -/
theorem pumpUntil {enough : Client → Bool} (attends : Line.Attends enough P)
    (h : Known config P k t) :
    Ends t (Link.pumpUntil enough) k
      (fun _ => Known config fun c us => P c us ∧ enough c = true)
      fun _ => Known config P := by
  have hlimit : Ends t (Link.deadline : Linked Client σ _) k
      (fun _ => Known config P) fun _ => Known config P := by
    refine .state_bind ?_
    split
    · exact .pure h
    · refine h.now.andThen fun time k' t' h' => ?_
      split
      · exact .pure h'
      · exact .fails h'
  refine hlimit.andThen ?_
  intro limit k' t' h'
  exact h'.onLine fun l u hknown => hknown.pumpUntil attends limit

end Known

end Link

-- ============================================================== custody

/-- What has become of the one connection of a session, and the trace of it:
it was never asked for, or refused, it is held, or it was closed. `R` holds of
the turns of its client. -/
inductive Custody {σ : Type} (config : RemoteConfig)
    (R : List Turn → Prop) : Option (Link Client σ) → List Event → Prop
  | unopened : Custody config R none []
  | refused (kind : IoKind) : Custody config R none
      [.connect config.host config.portNumber config.connectTimeout
        (.error kind)]
  | held {k : Link Client σ} {t : List Event}
      (known : Link.Known config (fun _ us => R us) k t) :
      Custody config R (some k) t
  | closed {id : Nat} {c : Client} {us : List Turn} {u : List SocketEvent}
      (work : AtWork c us u) (told : R us) (answer : Except IoKind Unit) :
      Custody config R none (Link.opened config id u
        ++ [.socket id (.shutdown answer), .engineClosed id])

namespace Custody

variable {σ : Type} {config : RemoteConfig} {R R' : List Turn → Prop}
  {link : Option (Link Client σ)} {t : List Event}

theorem imp (h : Custody config R link t) (himp : ∀ us, R us → R' us) :
    Custody config R' link t := by
  cases h with
  | unopened => exact .unopened
  | refused kind => exact .refused kind
  | held known => exact .held (known.imp fun _ => himp)
  | closed work told answer => exact .closed work (himp _ told) answer

/-- Without a trace, no connection is held. -/
theorem eq_none (h : Custody config R link []) : link = none := by
  cases h with
  | unopened => rfl
  | held known =>
    obtain ⟨l, u, -, -, htrace⟩ := known
    cases htrace

/-- Letting go of the connection closes it, if it is held. -/
theorem farewell [Wire σ] (h : Custody config R link t) :
    Custody (σ := σ) config R none (t ++ Link.farewell link) := by
  cases h with
  | unopened => exact .unopened
  | refused kind => exact .refused kind
  | @held k t known =>
    obtain ⟨l, u, hl, ⟨us, hwork, htold⟩, rfl⟩ := known
    have hclose : Link.farewell (some k) =
        [.socket k.id (.shutdown (Wire.shutdown l.wire).1),
          .engineClosed k.id] := by
      rw [Link.farewell, Link.run_close hl]
    rw [hclose]
    exact .closed hwork htold _
  | closed work told answer =>
    rw [Link.farewell, List.append_nil]
    exact .closed work told answer

end Custody

end SaslGate
