/-
What becomes of an engine and its socket as long as nobody closes them, and
what becomes of them afterwards. `Engine.Step` and `Wire.Step` list what may be
asked of the two, closing apart, and the actions of a line ask for nothing else
(`Line.Serves`). On a link there are two sides to it (`Link.Serves`): a link
that is open stays open and is put to use, and a link that is closed stays
closed, with its engine and its socket as they were left.

All of it follows the text of the actions, one lemma for each of them, because
`Serves` is closed under doing one thing after the other (`Act.Chain`).
-/
import Mathlib.Logic.Relation
import SaslGate.Proofs.Link

namespace SaslGate

open Relation (ReflTransGen)

-- ======================================================= engines and wires

/-- One call of an engine that does not close it. -/
inductive Engine.Step {ε : Type} [Engine ε] : ε → ε → Prop
  | sendHeader (e : ε) : Step e (Engine.sendHeader e).2
  | sendInit (mechanism : String) (hostname : Option String)
      (initialResponse : Bytes) (e : ε) :
      Step e (Engine.sendInit mechanism hostname initialResponse e).2
  | sendResponse (response : Bytes) (e : ε) :
      Step e (Engine.sendResponse response e).2
  | consume (n : Nat) (e : ε) : Step e (Engine.consume n e)
  | feed (bytes : Bytes) (e : ε) : Step e (Engine.feed bytes e).2
  | takePending (e : ε) : Step e (Engine.takePending e).2

/-- One call of a socket that does not shut it down. -/
inductive Wire.Step {σ : Type} [Wire σ] : σ → σ → Prop
  | read (n : Nat) (s : σ) : Step s (Wire.read n s).2
  | write (bytes : Bytes) (s : σ) : Step s (Wire.write bytes s).2
  | flush (s : σ) : Step s (Wire.flush s).2
  | readTimeout (s : σ) : Step s (Wire.readTimeout s).2
  | setReadTimeout (timeout : Option Duration) (s : σ) :
      Step s (Wire.setReadTimeout timeout s).2
  | now (s : σ) : Step s (Wire.now s).2

/-- A look at the clock beside a socket. -/
inductive Wire.Tick {σ : Type} [Wire σ] : σ → σ → Prop
  | now (s : σ) : Tick s (Wire.now s).2

/-- A count of the closings of an engine: closing adds one to it, and no other
call changes it. -/
structure Engine.Counts {ε : Type} [Engine ε] (closings : ε → Nat) : Prop where
  step : ∀ e e', Step e e' → closings e' = closings e
  close : ∀ e, closings (Engine.close e) = closings e + 1

/-- A count of the shutdowns of a socket. -/
structure Wire.Counts {σ : Type} [Wire σ] (shutdowns : σ → Nat) : Prop where
  step : ∀ s s', Step s s' → shutdowns s' = shutdowns s
  shutdown : ∀ s, shutdowns (Wire.shutdown s).2 = shutdowns s + 1

/-- What no step changes is the same after any number of them. -/
theorem eq_of_steps {α β : Type} {step : α → α → Prop} (view : α → β)
    (same : ∀ a b, step a b → view b = view a) {a b : α}
    (h : ReflTransGen step a b) : view b = view a := by
  induction h with
  | refl => rfl
  | tail _ last ih => exact (same _ _ last).trans ih

/-- A look at the clock is a call that leaves the socket open. -/
theorem Wire.Tick.step {σ : Type} [Wire σ] {s s' : σ} (h : Tick s s') :
    Step s s' := by
  cases h
  exact .now s

-- ================================================================= lines

/-- A call that leaves the socket open. -/
def SocketEvent.LeavesOpen : SocketEvent → Prop
  | shutdown _ => False
  | _ => True

namespace Line

variable {ε σ : Type} [Engine ε] [Wire σ]

/-- A line is put to use: nobody closes its engine or shuts its socket down,
and the trace shows no shutdown. -/
structure Serves (l : Line ε σ) (u : List SocketEvent) (l' : Line ε σ) :
    Prop where
  engine : ReflTransGen Engine.Step l.engine l'.engine
  wire : ReflTransGen Wire.Step l.wire l'.wire
  leavesOpen : ∀ e ∈ u, e.LeavesOpen

/-- Putting to use is closed under doing one thing after the other. -/
theorem chain_serves : Act.Chain (Serves (ε := ε) (σ := σ)) where
  nil _ := ⟨.refl, .refl, nofun⟩
  append h h' := ⟨h.engine.trans h'.engine, h.wire.trans h'.wire,
    List.forall_mem_append.2 ⟨h.leavesOpen, h'.leavesOpen⟩⟩

/-- A single call of the socket. -/
theorem along_call {event : Except IoKind α → SocketEvent}
    {f : σ → Except IoKind α × σ} (step : ∀ s, Wire.Step s (f s).2)
    (leavesOpen : ∀ answer, (event answer).LeavesOpen) :
    (call event f : Act _ (Line ε σ) _ _).Along Serves := by
  intro l
  refine ⟨.refl, .single (step l.wire), ?_⟩
  intro e he
  rw [List.mem_singleton.1 he]
  exact leavesOpen _

/-- A single call of the engine, as part of an action of the line. -/
theorem along_engineStep {f : ε → Except TransportError α × ε}
    (step : ∀ e, Engine.Step e (f e).2) :
    (engineStep f : Act _ (Line ε σ) _ _).Along Serves :=
  fun l => ⟨.single (step l.engine), .refl, nofun⟩

/-- The time is asked for beside the socket, and closes nothing. -/
theorem along_now :
    (now : Act SocketEvent (Line ε σ) δ Instant).Along Serves := by
  intro l
  refine ⟨.refl, .single (.now l.wire), ?_⟩
  intro e he
  rw [List.mem_singleton.1 he]
  trivial

/-- A write is a call of the socket, and if it got rid of bytes, one of the
engine too, which then counts them as sent. -/
theorem along_write : (write : Act _ (Line ε σ) _ _).Along Serves := by
  intro l
  have hstep := Wire.Step.write l.queued l.wire
  rcases hw : Wire.write l.queued l.wire with ⟨answer, wire⟩
  rw [hw] at hstep
  cases answer with
  | ok n =>
    have hrun : write.run l = ⟨.ok (l.queued.take n),
        ⟨Engine.consume n l.engine, wire⟩,
        [.write (.ok (l.queued.take n))]⟩ := by
      simp [write, hw]
    rw [hrun]
    -- a step on either side, and nothing that closes
    refine ⟨.single (.consume n l.engine), .single hstep, ?_⟩
    exact List.forall_mem_singleton.2 trivial
  | error kind =>
    have hrun : write.run l =
        ⟨.error kind, { l with wire }, [.write (.error kind)]⟩ := by
      simp [write, hw]
    rw [hrun]
    exact ⟨.refl, .single hstep, List.forall_mem_singleton.2 trivial⟩

theorem along_setReadTimeout (timeout : Option Duration) :
    (setReadTimeout timeout : Act _ (Line ε σ) _ _).Along Serves :=
  along_call (.setReadTimeout timeout) fun _ => trivial

/-- Flushing offers what is queued until the queue is empty. The empty write
that it refuses has left the socket open as well. -/
theorem along_flush : (flush : Pumping ε σ Unit).Along Serves := by
  have hoffer : (offer : Pumping ε σ Bool).Along Serves := by
    refine chain_serves.bind chain_serves.state fun l => ?_
    split
    · exact chain_serves.pure _
    · refine chain_serves.bind along_write.orElse fun bytes => ?_
      split
      · exact chain_serves.bind (chain_serves.fail _) fun _ =>
          chain_serves.pure _
      · exact chain_serves.pure _
  have hflush : (call .flush Wire.flush :
      Act _ (Line ε σ) _ _).Along Serves := along_call .flush fun _ => trivial
  exact chain_serves.bind (chain_serves.iterate hoffer) fun _ => hflush.orElse

/-- Bounding a read only sets a timeout. -/
theorem along_bound (limit : Option Instant) :
    (bound limit : Pumping ε σ Unit).Along Serves := by
  cases limit with
  | none => exact chain_serves.pure ()
  | some deadline =>
    refine chain_serves.bind along_now fun time => ?_
    split
    · exact chain_serves.bind (chain_serves.fail _) fun _ =>
        (along_setReadTimeout _).orElse
    · exact (along_setReadTimeout _).orElse

/-- What was read goes to the engine. -/
theorem along_take (answer : Except IoKind Bytes) :
    (take answer : Pumping ε σ Bool).Along Serves := by
  match answer with
  | .ok [] => exact chain_serves.fail _
  | .ok (b :: bs) =>
    have hfeed : (feed (b :: bs) : Act _ (Line ε σ) _ _).Along Serves :=
      along_engineStep (.feed (b :: bs))
    exact chain_serves.bind hfeed.orElse fun _ => chain_serves.pure _
  | .error kind =>
    simp only [take]
    split
    · exact chain_serves.pure _
    · split
      · exact chain_serves.fail _
      · exact chain_serves.fail _

/-- Listening is a repetition of reads, each of them bounded and handed to the
engine. -/
theorem along_listenUntil (enough : ε → Bool) (limit : Option Instant) :
    (listenUntil enough limit : Pumping ε σ Unit).Along Serves := by
  have hread : (read : Act _ (Line ε σ) _ _).Along Serves :=
    along_call (.read readSize) fun _ => trivial
  refine chain_serves.iterate
    (chain_serves.bind chain_serves.state fun l => ?_)
  split
  · exact chain_serves.pure _
  · exact chain_serves.bind (along_bound limit) fun _ =>
      chain_serves.bind hread.attempt along_take

/-- The timeout that was set before is asked for and put back, which are calls
like any other. -/
theorem along_pumpUntil (enough : ε → Bool) (limit : Option Instant) :
    (pumpUntil enough limit : Pumping ε σ Unit).Along Serves := by
  cases limit with
  | none => exact along_listenUntil enough none
  | some deadline =>
    have hask : (call .readTimeout Wire.readTimeout :
        Act _ (Line ε σ) _ _).Along Serves :=
      along_call .readTimeout fun _ => trivial
    refine chain_serves.bind hask.orElse fun before => ?_
    refine chain_serves.bind (along_listenUntil enough _).attempt fun _ => ?_
    -- put back whatever the listening came to
    refine chain_serves.bind (along_setReadTimeout before).orElse.attempt
      fun _ => ?_
    exact chain_serves.bind (chain_serves.ofExcept _) fun _ =>
      chain_serves.ofExcept _

end Line

-- ================================================================= links

namespace Link

variable {ε σ : Type}

/-- Nothing is done on a closed link. Its engine is as it was left, and so is
its socket, but that somebody may have looked at the clock. -/
structure Rests [Wire σ] (k : Link ε σ) (t : List Event) (k' : Link ε σ) :
    Prop where
  id : k'.id = k.id
  timeout : k'.timeout = k.timeout
  engine : k'.engine = k.engine
  socket : ∃ w w', k.socket = .spent w ∧ k'.socket = .spent w'
    ∧ ReflTransGen Wire.Tick w w'
  looks : ∀ e ∈ t, ∃ time, e = .socket k.id (.clock time)

/-- Both parts of a link have been closed. -/
def Spent (k : Link ε σ) : Prop :=
  ∃ e w, k.engine = .spent e ∧ k.socket = .spent w

/-- A closed link has no line. -/
theorem Spent.line {k : Link ε σ} (h : k.Spent) : k.line = none := by
  obtain ⟨e, w, -, hsocket⟩ := h
  simp [Link.line, hsocket]

variable [Engine ε] [Wire σ]

/-- What calls that do not close do to a link. An open one is put to use and
stays open, and a closed one rests. -/
structure Serves (k : Link ε σ) (t : List Event) (k' : Link ε σ) : Prop where
  used : ∀ l, k.line = some l → ∃ l' u, k' = k.put l'
    ∧ t = u.map (.socket k.id) ∧ l.Serves u l'
  rested : k.Spent → k.Rests t k'

omit [Engine ε] in
theorem rests_self {k : Link ε σ} (h : k.Spent) : k.Rests [] k := by
  obtain ⟨e, w, hengine, hsocket⟩ := h
  exact ⟨rfl, rfl, rfl, ⟨w, w, hsocket, hsocket, .refl⟩, nofun⟩

omit [Engine ε] in
theorem Rests.spent {k k' : Link ε σ} {t : List Event} (h : k.Rests t k')
    (hk : k.Spent) : k'.Spent := by
  obtain ⟨e, -, hengine, -⟩ := hk
  obtain ⟨-, w', -, hsocket, -⟩ := h.socket
  exact ⟨e, w', h.engine.trans hengine, hsocket⟩

omit [Engine ε] in
/-- Rest goes on. The looks at the clock add up. -/
theorem Rests.append {k k' k'' : Link ε σ} {t u : List Event}
    (h : k.Rests t k') (h' : k'.Rests u k'') : k.Rests (t ++ u) k'' := by
  obtain ⟨w, w₁, hw, hw₁, hticks⟩ := h.socket
  obtain ⟨w₁', w₂, hw₁', hw₂, hticks'⟩ := h'.socket
  cases hw₁.symm.trans hw₁'
  refine ⟨h'.id.trans h.id, h'.timeout.trans h.timeout,
    h'.engine.trans h.engine, ⟨w, w₂, hw, hw₂, hticks.trans hticks'⟩,
    List.forall_mem_append.2 ⟨h.looks, ?_⟩⟩
  rw [← h.id]
  exact h'.looks

/-- The two sides of a link do not mix: no call that does not close leads from
one to the other. -/
theorem chain_serves : Act.Chain (Serves (ε := ε) (σ := σ)) where
  nil k := ⟨fun l hl => ⟨l, [], (put_eq_self hl).symm, rfl,
    Line.chain_serves.nil l⟩, rests_self⟩
  append := by
    intro k k' k'' t u h h'
    refine ⟨?_, fun hk =>
      (h.rested hk).append (h'.rested ((h.rested hk).spent hk))⟩
    intro l hl
    obtain ⟨l₁, v, rfl, rfl, hv⟩ := h.used l hl
    obtain ⟨l₂, w, rfl, rfl, hw⟩ := h'.used l₁ line_put
    exact ⟨l₂, v ++ w, rfl, by simp, Line.chain_serves.append hv hw⟩

/-- What a line does for an open link, a closed link has no line for. -/
theorem along_onLine {toError : δ → AuthError}
    {x : Act SocketEvent (Line ε σ) δ α} (h : x.Along Line.Serves) :
    (onLine toError x).Along Serves := by
  intro k
  refine ⟨?_, ?_⟩
  · intro l hl
    rw [run_onLine hl]
    exact ⟨(x.run l).state, (x.run l).events, rfl, rfl, h l⟩
  · intro hk
    rw [run_onLine_closed x hk.line]
    exact rests_self hk

/-- The clock is looked at on either side. This is the one thing that is still
done on a closed link. -/
theorem along_now : (now : Linked ε σ Instant).Along Serves := by
  intro k
  refine ⟨?_, ?_⟩
  · intro l hl
    rw [run_now_onLine .ofPump hl]
    exact (along_onLine Line.along_now k).used l hl
  · rintro ⟨e, w, hengine, hsocket⟩
    refine ⟨rfl, rfl, rfl, ⟨w, (Wire.now w).2, hsocket, ?_,
      .single (.now w)⟩, ?_⟩
    · simp [now, hsocket]
    · intro ev hev
      exact ⟨_, List.mem_singleton.1 hev⟩

/-- Sending is a step of the engine and the flushing behind it. -/
theorem along_send {f : ε → Except TransportError Unit × ε}
    (step : ∀ e, Engine.Step e (f e).2) :
    (send f : Linked ε σ Unit).Along Serves :=
  chain_serves.bind (along_onLine (Line.along_engineStep step)) fun _ =>
    along_onLine Line.along_flush

/-- Waiting sets a deadline by the clock of the link and then listens on its
line. -/
theorem along_pumpUntil (enough : ε → Bool) :
    (pumpUntil enough : Linked ε σ Unit).Along Serves := by
  have hdeadline : (deadline : Linked ε σ (Option Instant)).Along Serves := by
    refine chain_serves.bind chain_serves.state fun k => ?_
    split
    · exact chain_serves.pure _
    · refine chain_serves.bind along_now fun time => ?_
      split
      · exact chain_serves.pure _
      · exact chain_serves.fail _
  exact chain_serves.bind hdeadline fun limit =>
    along_onLine (Line.along_pumpUntil enough limit)

/-- Taking what waits is a step of the engine, or finds nothing. -/
theorem along_takePending :
    (takePending : Linked ε σ (Option Bytes)).Along Serves := by
  intro k
  refine ⟨?_, ?_⟩
  · intro l hl
    rw [run_takePending hl]
    exact ⟨_, [], rfl, rfl, .single (.takePending l.engine), .refl, nofun⟩
  · rintro ⟨e, w, hengine, hsocket⟩
    have hrun : takePending.run k = ⟨.ok none, k, []⟩ := by
      simp [takePending, hengine]
    rw [hrun]
    exact rests_self ⟨e, w, hengine, hsocket⟩

/-- The greeting sends the header and waits for the offer. -/
theorem along_greet (mechanism : String) :
    (greet mechanism : Linked ε σ Unit).Along Serves := by
  refine chain_serves.bind (along_send .sendHeader) fun _ =>
    chain_serves.bind (along_pumpUntil _) fun _ => ?_
  refine chain_serves.bind chain_serves.state fun k => ?_
  dsimp only
  split
  · exact chain_serves.pure _
  · exact chain_serves.fail _

end Link

end SaslGate
