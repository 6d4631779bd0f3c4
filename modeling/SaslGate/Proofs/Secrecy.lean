/-
What an onlooker can tell from the traffic of a session. A wire that answers
without a look at the bytes that are written to it (`Wire.Blind`) is the same to
two clients that differ only in what waits to be sent: every action of a line or
a link is in tandem with itself on two such clients. Each call then meets its
counterpart, with the same answer, but for the bytes that a write got rid of
(`Event.Counterpart`).

All this follows the text of the actions, one lemma for each of them. The step
that a secret enters by is a parameter (`Link.tandem_send`).
-/
import SaslGate.Proofs.Client.Secrecy
import SaslGate.Session.Reply

namespace SaslGate

open Act (Tandem)

-- ================================================================= wires

/-- A wire whose answers hang on how many bytes are written to it, and not on
what they are. Its states may remember the bytes: states that tell the same to
everybody who asks are alike. -/
structure Wire.Blind {σ : Type} [Wire σ] (R : σ → σ → Prop) : Prop where
  same : ∀ s, R s s
  read : ∀ n, Agreeing R (Wire.read n) (Wire.read n)
  write : ∀ a b, SameLength a b → Agreeing R (Wire.write a) (Wire.write b)
  flush : Agreeing R Wire.flush Wire.flush
  readTimeout : Agreeing R Wire.readTimeout Wire.readTimeout
  setReadTimeout : ∀ t,
    Agreeing R (Wire.setReadTimeout t) (Wire.setReadTimeout t)
  shutdown : Agreeing R Wire.shutdown Wire.shutdown
  now : Agreeing R Wire.now Wire.now

/-- A call and its counterpart: the same call with the same answer, but that a
write may have got rid of other bytes, as many of them. -/
inductive SocketEvent.Counterpart : SocketEvent → SocketEvent → Prop
  | same (e : SocketEvent) : Counterpart e e
  | write {a b : Bytes} (h : SameLength a b) :
      Counterpart (.write (.ok a)) (.write (.ok b))

/-- An event and its counterpart. -/
inductive Event.Counterpart : Event → Event → Prop
  | same (e : Event) : Counterpart e e
  | socket (id : Nat) {e e' : SocketEvent} (h : e.Counterpart e') :
      Counterpart (.socket id e) (.socket id e')

-- ================================================================= lines

namespace Line

variable {σ : Type} {R : σ → σ → Prop}

/-- Lines whose clients differ only in what waits to be sent, on wires that tell
the same. -/
structure Twin (R : σ → σ → Prop) (l l' : Line Client σ) : Prop where
  engine : l.engine.Twin l'.engine
  wire : R l.wire l'.wire

theorem Twin.queued {l l' : Line Client σ} (h : l.Twin R l') :
    SameLength l.queued l'.queued := by
  obtain ⟨queue, hsame, hengine⟩ := h.engine
  show SameLength l.engine.outbound l'.engine.outbound
  rw [hengine]
  exact hsame

/-- Two actions of a line. -/
abbrev InTandem (R : σ → σ → Prop) (V : α → α → Prop)
    (x y : Act SocketEvent (Line Client σ) ε α) : Prop :=
  Tandem SocketEvent.Counterpart (Twin R) V x y

/-- A call of the wire meets its counterpart. -/
theorem tandem_call {event : Except IoKind α → SocketEvent}
    {f : σ → Except IoKind α × σ} (h : Agreeing R f f) :
    InTandem R Eq (call event f) (call event f) := by
  refine (Tandem.ask .same h).focus ?_ ?_
  · intro l l' hl
    exact hl.wire
  · intro w w' l l' hw hl
    exact ⟨hl.engine, hw⟩

/-- A step of the engine, in which the clients may differ. -/
theorem tandem_engineStep {f g : Client → Except TransportError α × Client}
    (h : Agreeing Client.Twin f g) :
    InTandem R Eq (engineStep f) (engineStep g) := by
  refine (Tandem.step h).focus ?_ ?_
  · intro l l' hl
    exact hl.engine
  · intro c c' l l' hc hl
    exact ⟨hc, hl.wire⟩

variable [Wire σ] (blind : Wire.Blind R)
include blind

/-- The clock shows both the same time. -/
theorem tandem_now :
    InTandem R Eq (now : Act SocketEvent (Line Client σ) ε Instant) now := by
  intro l l' hl
  obtain ⟨hanswer, hwire⟩ := blind.now _ _ hl.wire
  refine ⟨.ok hanswer, ⟨hl.engine, hwire⟩, .cons ?_ .nil⟩
  show SocketEvent.Counterpart (.clock (Wire.now l.wire).1)
    (.clock (Wire.now l'.wire).1)
  rw [hanswer]
  exact .same _

theorem tandem_setReadTimeout (timeout : Option Duration) :
    InTandem R Eq
      (setReadTimeout timeout : Act SocketEvent (Line Client σ) IoKind Unit)
      (setReadTimeout timeout) :=
  tandem_call (blind.setReadTimeout timeout)

/-- Queues of one length are taken alike. -/
theorem tandem_write :
    InTandem R SameLength (write : Act SocketEvent (Line Client σ) _ _)
      write := by
  intro l l' hl
  have hqueued := hl.queued
  obtain ⟨hanswer, hwire⟩ := blind.write _ _ hqueued _ _ hl.wire
  unfold write
  dsimp only
  rcases hw : Wire.write l.queued l.wire with ⟨answer, wire⟩
  rcases hw' : Wire.write l'.queued l'.wire with ⟨answer', wire'⟩
  rw [hw, hw'] at hanswer hwire
  cases hanswer
  cases answer with
  | error kind =>
    exact ⟨.error kind, ⟨hl.engine, hwire⟩, .cons (.same _) .nil⟩
  | ok n =>
    -- the wire took as many bytes of either queue
    have htaken : SameLength (l.queued.take n) (l'.queued.take n) := by
      unfold SameLength at *
      rw [List.length_take, List.length_take, hqueued]
    exact ⟨.ok htaken, ⟨hl.engine.consume n, hwire⟩,
      .cons (.write htaken) .nil⟩

-- -------------------------------------------------------------- outwards

/-- Both offer their queues until these are empty, which they are at once,
being of one length. -/
theorem tandem_offer :
    InTandem R Eq (offer : Pumping Client σ Bool) offer := by
  refine Tandem.state.bind ?_
  intro l l' hl
  refine .ite_iff hl.queued.eq_nil_iff (.pure rfl) ?_
  refine ((tandem_write blind).orElse PumpError.io).bind ?_
  intro taken taken' htaken
  refine .ite_iff htaken.eq_nil_iff ?_ (.pure rfl)
  exact Tandem.andThen (.fail _) fun _ => .pure rfl

theorem tandem_flush :
    InTandem R Eq (flush : Pumping Client σ Unit) flush := by
  refine Tandem.andThen (.iterate (tandem_offer blind)) fun _ => ?_
  exact (tandem_call blind.flush).orElse PumpError.io

-- --------------------------------------------------------------- inwards

/-- Time runs out for both or for neither. -/
theorem tandem_bound (deadline : Option Instant) :
    InTandem R Eq (bound deadline : Pumping Client σ Unit)
      (bound deadline) := by
  cases deadline with
  | none => exact .pure rfl
  | some deadline =>
    refine (tandem_now blind).andThen fun time => ?_
    have hset := (tandem_setReadTimeout blind
      (some (deadline - time))).orElse PumpError.io
    exact .ite (Tandem.andThen (.fail _) fun _ => hset) hset

omit blind [Wire σ] in
/-- An answer to a read is taken in by both clients, and a client that is fed
shows nothing of what it has queued. -/
theorem tandem_take (answer : Except IoKind Bytes) :
    InTandem R Eq (take answer : Pumping Client σ Bool) (take answer) := by
  unfold take
  split
  · exact .fail _
  next bytes _ =>
    have hfeed := tandem_engineStep (R := R) (Client.agreeing_feed bytes)
    exact (hfeed.orElse PumpError.protocolViolation).andThen fun _ => .pure rfl
  · exact .ite (.pure rfl) (.ite (.fail _) (.fail _))

section Listening

variable {enough : Client → Bool}
  (unseeing : ∀ c c', Client.Twin c c' → enough c = enough c')
include unseeing

/-- Both listen, or both have heard enough. This is where it matters that
`enough` does not see the queue. -/
theorem tandem_listen (deadline : Option Instant) :
    InTandem R Eq (listen enough deadline : Pumping Client σ Bool)
      (listen enough deadline) := by
  refine Tandem.state.bind ?_
  intro l l' hl
  rw [unseeing _ _ hl.engine]
  refine .ite (.pure rfl) ?_
  refine (tandem_bound blind deadline).andThen fun _ => ?_
  refine (tandem_call (blind.read readSize)).attempt.bind ?_
  intro answer answer' hanswer
  rw [hanswer.eq]
  exact tandem_take answer'

theorem tandem_listenUntil (deadline : Option Instant) :
    InTandem R Eq (listenUntil enough deadline : Pumping Client σ Unit)
      (listenUntil enough deadline) :=
  .iterate (tandem_listen blind unseeing deadline)

/-- The bound on reads that is restored was the same for both. -/
theorem tandem_pumpUntil (deadline : Option Instant) :
    InTandem R Eq (pumpUntil enough deadline : Pumping Client σ Unit)
      (pumpUntil enough deadline) := by
  have hlisten := tandem_listenUntil blind unseeing deadline
  cases deadline with
  | none => exact hlisten
  | some deadline =>
    refine ((tandem_call blind.readTimeout).orElse PumpError.io).andThen ?_
    intro before
    refine hlisten.attempt.bind ?_
    intro result result' hresult
    have hset := (tandem_setReadTimeout blind before).orElse PumpError.io
    refine hset.attempt.bind ?_
    intro restored restored' hrestored
    exact (Tandem.ofExcept hresult).andThen fun _ => .ofExcept hrestored

end Listening

end Line

-- ================================================================= links

/-- Two things that are both there and related, or both closed, with related
rests. -/
inductive Held.Twin {α : Type} (R : α → α → Prop) : Held α → Held α → Prop
  | live {a b : α} (h : R a b) : Twin R (.live a) (.live b)
  | spent {a b : α} (h : R a b) : Twin R (.spent a) (.spent b)

namespace Link

variable {σ κ : Type} {R : σ → σ → Prop}

/-- Links whose parts are twins. -/
structure Twin (R : σ → σ → Prop) (k k' : Link Client σ) : Prop where
  id : k.id = k'.id
  timeout : k.timeout = k'.timeout
  socket : k.socket.Twin R k'.socket
  engine : k.engine.Twin Client.Twin k'.engine

/-- Twins are open together, with twin lines, or closed together. -/
theorem Twin.lines {k k' : Link Client σ} (h : k.Twin R k') :
    (∃ l l', k.line = some l ∧ k'.line = some l' ∧ l.Twin R l')
      ∨ k.line = none ∧ k'.line = none := by
  obtain ⟨id, timeout, socket, engine⟩ := k
  obtain ⟨id', timeout', socket', engine'⟩ := k'
  obtain ⟨-, -, hsocket, hengine⟩ := h
  cases hsocket with
  | spent _ => exact .inr ⟨rfl, rfl⟩
  | live hwire =>
    cases hengine with
    | spent _ => exact .inr ⟨rfl, rfl⟩
    | live hclient => exact .inl ⟨_, _, rfl, rfl, hclient, hwire⟩

/-- Twins stay twins as their lines go on. -/
theorem Twin.put {k k' : Link Client σ} {l l' : Line Client σ}
    (h : k.Twin R k') (hl : l.Twin R l') : (k.put l).Twin R (k'.put l') :=
  ⟨h.id, h.timeout, .live hl.wire, .live hl.engine⟩

/-- Two actions of a link. -/
abbrev InTandem (R : σ → σ → Prop) (V : α → α → Prop)
    (x y : Act Event (Link Client σ) ε α) : Prop :=
  Tandem Event.Counterpart (Twin R) V x y

/-- Actions of open lines; closed links refuse them alike. -/
theorem tandem_onLine {V : α → α → Prop} {toError : δ → AuthError}
    {x y : Act SocketEvent (Line Client σ) δ α}
    (h : Line.InTandem R V x y) :
    InTandem R V (onLine toError x) (onLine toError y) := by
  intro k k' hk
  rcases hk.lines with ⟨l, l', hline, hline', hl⟩ | ⟨hline, hline'⟩
  · have hlabelled : Tandem Event.Counterpart (Line.Twin R) V
        (x.label (Event.socket k.id)) (y.label (Event.socket k.id)) :=
      h.label fun e e' he => .socket k.id he
    obtain ⟨hresult, hstate, hevents⟩ := hlabelled.orElse toError l l' hl
    simp only [onLine, hline, hline', ← hk.id]
    exact ⟨hresult, hk.put hstate, hevents⟩
  · simp only [onLine, hline, hline']
    exact ⟨.error _, hk, .nil⟩

/-- What waits is taken alike. -/
theorem tandem_takePending :
    InTandem R Eq (takePending : Linked Client σ (Option Bytes))
      takePending := by
  intro ⟨id, timeout, socket, engine⟩ ⟨id', timeout', socket', engine'⟩ hk
  obtain ⟨hid, htimeout, hsocket, hengine⟩ := hk
  cases hengine with
  | spent h => exact ⟨.ok rfl, ⟨hid, htimeout, hsocket, .spent h⟩, .nil⟩
  | live h =>
    obtain ⟨queue, hsame, rfl⟩ := h
    exact ⟨.ok rfl, ⟨hid, htimeout, hsocket, .live ⟨queue, hsame, rfl⟩⟩, .nil⟩

variable [Wire σ] (blind : Wire.Blind R)
include blind

/-- A step of the client, in which the two may differ, and the sending that
follows it. -/
theorem tandem_send {f g : Client → Except TransportError Unit × Client}
    (h : Agreeing Client.Twin f g) :
    InTandem R Eq (send f) (send g) :=
  (tandem_onLine (Line.tandem_engineStep h)).andThen fun _ =>
    tandem_onLine (Line.tandem_flush blind)

/-- The clock shows both the same time. -/
theorem tandem_now : InTandem R Eq (now : Linked Client σ Instant) now := by
  intro ⟨id, timeout, socket, engine⟩ ⟨id', timeout', socket', engine'⟩ hk
  obtain ⟨rfl, htimeout, hsocket, hengine⟩ := hk
  have hshown : ∀ {w w' : σ}, R w w' → List.Forall₂ Event.Counterpart
      [.socket id (.clock (Wire.now w).1)]
      [.socket id (.clock (Wire.now w').1)] := by
    intro w w' h
    rw [(blind.now _ _ h).1]
    exact .cons (.same _) .nil
  -- the clock may be asked of a socket that was shut down
  cases hsocket with
  | live h =>
    obtain ⟨htime, hwire⟩ := blind.now _ _ h
    exact ⟨.ok htime, ⟨rfl, htimeout, .live hwire, hengine⟩, hshown h⟩
  | spent h =>
    obtain ⟨htime, hwire⟩ := blind.now _ _ h
    exact ⟨.ok htime, ⟨rfl, htimeout, .spent hwire, hengine⟩, hshown h⟩

/-- Both set the same deadline, or both cannot. -/
theorem tandem_deadline :
    InTandem R Eq (deadline : Linked Client σ (Option Instant)) deadline := by
  refine Tandem.state.bind ?_
  intro k k' hk
  rw [hk.timeout]
  cases k'.timeout with
  | none => exact .pure rfl
  | some timeout =>
    refine (tandem_now blind).andThen fun time => ?_
    cases Instant.after? timeout time with
    | some limit => exact .pure rfl
    | none => exact .fail _

/-- Waiting shows nothing of the queue. -/
theorem tandem_pumpUntil {enough : Client → Bool}
    (unseeing : ∀ c c', Client.Twin c c' → enough c = enough c') :
    InTandem R Eq (pumpUntil enough : Linked Client σ Unit)
      (pumpUntil enough) :=
  (tandem_deadline blind).andThen fun limit =>
    tandem_onLine (Line.tandem_pumpUntil blind unseeing limit)

/-- A socket is shut down alike, and stays shut. -/
theorem tandem_shutSocket :
    InTandem R Eq (shutSocket : Act Event (Link Client σ) IoKind Unit)
      shutSocket := by
  intro ⟨id, timeout, socket, engine⟩ ⟨id', timeout', socket', engine'⟩ hk
  obtain ⟨rfl, htimeout, hsocket, hengine⟩ := hk
  cases hsocket with
  | spent h => exact ⟨.ok rfl, ⟨rfl, htimeout, .spent h, hengine⟩, .nil⟩
  | live h =>
    obtain ⟨hanswer, hwire⟩ := blind.shutdown _ _ h
    simp only [shutSocket, hanswer]
    exact ⟨alike_refl _, ⟨rfl, htimeout, .spent hwire, hengine⟩,
      .cons (.same _) .nil⟩

omit blind [Wire σ] in
/-- Closing the engine leaves one mark in either trace. -/
theorem tandem_closeEngine :
    InTandem R Eq (closeEngine : Act Event (Link Client σ) δ Unit)
      closeEngine := by
  intro ⟨id, timeout, socket, engine⟩ ⟨id', timeout', socket', engine'⟩ hk
  obtain ⟨rfl, htimeout, hsocket, hengine⟩ := hk
  cases hengine with
  | spent h => exact ⟨.ok rfl, ⟨rfl, htimeout, hsocket, .spent h⟩, .nil⟩
  | live h =>
    exact ⟨.ok rfl, ⟨rfl, htimeout, hsocket, .spent h.close⟩,
      .cons (.same _) .nil⟩

/-- Both parts are closed alike, whatever the shutdown came to. -/
theorem tandem_close :
    InTandem R Eq (close : Act Event (Link Client σ) IoKind Unit) close := by
  refine (tandem_shutSocket blind).attempt.bind fun result result' h => ?_
  exact tandem_closeEngine.andThen fun _ => .ofExcept h

-- ------------------------------------------------------------- setting up

omit blind [Wire σ] in
/-- The offer is no secret. -/
theorem Twin.offered {k k' : Link Client σ} (hk : k.Twin R k') :
    k.offered = k'.offered := by
  obtain ⟨id, timeout, socket, engine⟩ := k
  obtain ⟨id', timeout', socket', engine'⟩ := k'
  cases hk.engine with
  | spent _ => rfl
  | live h =>
    obtain ⟨queue, -, rfl⟩ := h
    rfl

/-- The greeting comes before the secret, so it is the same. -/
theorem tandem_greet (mechanism : String) :
    InTandem R Eq (greet mechanism : Linked Client σ Unit)
      (greet mechanism) := by
  refine (tandem_send blind Client.agreeing_sendHeader).andThen fun _ => ?_
  refine (tandem_pumpUntil blind ?_).andThen fun _ => ?_
  · intro c c' h
    obtain ⟨queue, -, rfl⟩ := h
    rfl
  refine Tandem.state.bind ?_
  intro k k' hk
  rw [hk.offered]
  exact .ite (.pure rfl) (.fail _)

/-- Setting a link up twice gives twins, of whatever becomes of it. -/
theorem tandem_bootstrap [Connector κ σ] (c : RemoteConfig)
    (mechanism : String) :
    Tandem Event.Counterpart Eq (Twin R)
      (bootstrap Client.fresh c mechanism : Act Event κ AuthError _)
      (bootstrap Client.fresh c mechanism) := by
  refine (Tandem.refl .same (dial c)).andThen fun opened => ?_
  obtain ⟨id, wire⟩ := opened
  -- one and the same link is its own twin
  have hstart : Twin R
      (ofLine id c.negotiationTimeout ⟨Client.fresh, wire⟩)
      (ofLine id c.negotiationTimeout ⟨Client.fresh, wire⟩) :=
    ⟨rfl, rfl, .live (blind.same wire), .live (Client.twin_refl _)⟩
  refine (Tandem.inside (tandem_greet blind mechanism) hstart).bind ?_
  intro p q hpq
  obtain ⟨result, k⟩ := p
  obtain ⟨result', k'⟩ := q
  obtain ⟨hresult, hk⟩ := hpq
  cases hresult.eq
  cases result with
  | ok done => exact .pure hk
  | error e =>
    exact (Tandem.inside (tandem_close blind) hk).bind fun _ _ _ => .fail e

end Link

-- =============================================================== replies

/-- Twins have heard the same reply, if any. -/
theorem Client.Twin.reply {c c' : Client} (h : c.Twin c') :
    Reply.of? c = Reply.of? c' := by
  obtain ⟨queue, -, rfl⟩ := h
  rfl

/-- The reply that was heard is no secret either. -/
theorem Link.Twin.heard {σ : Type} {R : σ → σ → Prop} {k k' : Link Client σ}
    (hk : k.Twin R k') : Reply.heard k = Reply.heard k' := by
  obtain ⟨id, timeout, socket, engine⟩ := k
  obtain ⟨id', timeout', socket', engine'⟩ := k'
  cases hk.engine with
  | spent _ => rfl
  | live h => simp only [Reply.heard, Held.live?_live, h.reply]

/-- Nor is waiting for it. -/
theorem Reply.tandem_await {σ : Type} [Wire σ] {R : σ → σ → Prop}
    (blind : Wire.Blind R) :
    Link.InTandem R Eq (await : Linked Client σ Reply) await := by
  refine (Link.tandem_pumpUntil blind ?_).andThen fun _ => ?_
  · intro c c' h
    rw [isHeard_eq, isHeard_eq, h.reply]
  refine Tandem.state.bind ?_
  intro k k' hk
  rw [hk.heard]
  exact .ofExcept (alike_refl _)

end SaslGate
