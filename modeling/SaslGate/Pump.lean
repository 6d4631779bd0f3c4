/-
Moves bytes between an engine and a wire: out, until nothing is queued, and
in, until the engine has heard what its owner waits for. Both are
repetitions of a single turn. A turn outwards shortens the queue, a turn
inwards uses up a read of a finite conversation.

A deadline bounds every read by the time that remains. The bound that the
wire had before is put back at the end, whatever happened.
-/
import SaslGate.Engine
import SaslGate.Wire

namespace SaslGate

/-- Why moving bytes stopped. -/
inductive PumpError
  /-- The wire ended before the engine had heard enough. -/
  | endOfStream
  /-- The engine refused what was read. -/
  | protocolViolation (cause : TransportError)
  /-- The deadline passed, or a read ran out of time. -/
  | timeout
  | io (kind : IoKind)
  deriving DecidableEq, Repr

def PumpError.message : PumpError → String
  | .endOfStream => "Unexpected end of stream"
  | .protocolViolation cause => "Protocol violation: " ++ cause.message
  | .timeout => "Timed out"
  | .io kind => kind.message

/-- The names of a failure and its causes, outermost first. -/
def PumpError.path : PumpError → List String
  | .endOfStream => ["UnexpectedEndOfStream"]
  | .protocolViolation cause => "ProtocolViolation" :: cause.path
  | .timeout => ["Timeout"]
  | .io _ => ["Io"]

/-- The kind of io failure at the bottom, if there is one. -/
def PumpError.ioKind? : PumpError → Option IoKind
  | .protocolViolation cause => cause.ioKind?
  | .io kind => some kind
  | _ => none

/-- The number of bytes asked for in one read. -/
def readSize : Nat := 512

/-- An action on a line. -/
abbrev Pumping (ε σ α : Type) := Act SocketEvent (Line ε σ) PumpError α

namespace Line

variable {ε σ : Type}

/-- The bytes that wait to be sent. -/
def queued [Engine ε] (l : Line ε σ) : Bytes := Engine.outbound l.engine

/-- How many reads may still bring something. -/
def talk [Wire σ] (l : Line ε σ) : Nat := Wire.talk l.wire

-- ======================================================== single calls

/-- A call on the wire. -/
def call (event : Except IoKind α → SocketEvent)
    (f : σ → Except IoKind α × σ) : Act SocketEvent (Line ε σ) IoKind α :=
  (Act.ask event f).focus Line.wire fun w l => { l with wire := w }

/-- A look at the clock. -/
def now [Wire σ] : Act SocketEvent (Line ε σ) δ Instant :=
  ⟨fun l =>
    let (time, wire) := Wire.now l.wire
    ⟨.ok time, { l with wire }, [.clock time]⟩⟩

/-- One read. -/
def read [Wire σ] : Act SocketEvent (Line ε σ) IoKind Bytes :=
  call .read (Wire.read readSize)

/-- Offers all queued bytes and counts those as sent that were taken. -/
def write [Engine ε] [Wire σ] : Act SocketEvent (Line ε σ) IoKind Bytes :=
  ⟨fun l =>
    let (answer, wire) := Wire.write l.queued l.wire
    match answer with
    | .ok n =>
      ⟨.ok (l.queued.take n), ⟨Engine.consume n l.engine, wire⟩,
        [.write (.ok (l.queued.take n))]⟩
    | .error kind => ⟨.error kind, { l with wire }, [.write (.error kind)]⟩⟩

/-- Bounds the reads to come. -/
def setReadTimeout [Wire σ] (timeout : Option Duration) :
    Act SocketEvent (Line ε σ) IoKind Unit :=
  call (.setReadTimeout timeout) (Wire.setReadTimeout timeout)

/-- Hands bytes to the engine. -/
def feed [Engine ε] (bytes : Bytes) :
    Act SocketEvent (Line ε σ) TransportError Unit :=
  (Act.step (Engine.feed bytes)).focus Line.engine
    fun e l => { l with engine := e }

/-- A step of the engine. -/
def engineStep (f : ε → Except TransportError α × ε) :
    Act SocketEvent (Line ε σ) TransportError α :=
  (Act.step f).focus Line.engine fun e l => { l with engine := e }

-- ============================================================ outwards

/-- One turn outwards: offers the queue, unless it is empty. -/
def offer [Engine ε] [Wire σ] : Pumping ε σ Bool := do
  if (← Act.state).queued = [] then return false
  if (← write.orElse .io) = [] then Act.fail (.io .writeZero)
  return true

/-- A turn that asks for another has taken something off the queue, which is
why writing comes to an end. -/
theorem offer_lowers [Engine ε] [Wire σ] (l : Line ε σ)
    (h : (offer.run l).result = .ok true) :
    (offer.run l).state.queued.length < l.queued.length := by
  by_cases hq : l.queued = []
  · simp [offer, Act.run_bind, hq] at h
  · rcases hw : Wire.write l.queued l.wire with ⟨answer, wire⟩
    cases answer with
    | error kind =>
      simp [offer, Act.run_bind, hq, Act.orElse, write, hw] at h
    | ok n =>
      by_cases ht : l.queued.take n = []
      · simp [offer, Act.run_bind, hq, Act.orElse, write, hw, ht] at h
      · -- a write that took something took at least a byte
        have hn : 0 < n := by
          rcases Nat.eq_zero_or_pos n with h0 | h0
          · simp [h0] at ht
          · exact h0
        have hl : 0 < l.queued.length := List.length_pos_iff.2 hq
        have hs :
            (offer.run l).state = ⟨Engine.consume n l.engine, wire⟩ := by
          simp [offer, Act.run_bind, hq, Act.orElse, write, hw, ht]
        simp only [hs, queued, Engine.outbound_consume,
          List.length_drop] at hl ⊢
        omega

/-- A turn outwards changes no view of the engine that sending does not
change. -/
theorem offer_preserves [Engine ε] [Wire σ] {β : Type} (view : ε → β)
    (h : ∀ n e, view (Engine.consume n e) = view e) (l : Line ε σ) :
    view (offer.run l).state.engine = view l.engine := by
  by_cases hq : l.queued = []
  · simp [offer, Act.run_bind, hq]
  · rcases hw : Wire.write l.queued l.wire with ⟨answer, wire⟩
    cases answer with
    | error kind =>
      simp [offer, Act.run_bind, hq, Act.orElse, write, hw]
    | ok n =>
      by_cases ht : l.queued.take n = []
      · simp [offer, Act.run_bind, hq, Act.orElse, write, hw, ht, h]
      · simp [offer, Act.run_bind, hq, Act.orElse, write, hw, ht, h]

/-- Sends every queued byte. -/
def flush [Engine ε] [Wire σ] : Pumping ε σ Unit := do
  Act.iterate offer (fun l => l.queued.length) offer_lowers
  (call .flush Wire.flush).orElse .io

/-- Writing changes nothing of an engine but its queue. -/
theorem flush_preserves [Engine ε] [Wire σ] {β : Type} (view : ε → β)
    (h : ∀ n e, view (Engine.consume n e) = view e) (l : Line ε σ) :
    view (flush.run l).state.engine = view l.engine := by
  have hi := Act.iterate_preserves
    (m := fun l : Line ε σ => l.queued.length) (w := offer_lowers)
    (fun l : Line ε σ => view l.engine) (offer_preserves view h) l
  rcases hr : (Act.iterate offer
    (fun l : Line ε σ => l.queued.length) offer_lowers).run l with ⟨r, l', t⟩
  rw [hr] at hi
  cases r with
  | error e => rw [flush, Act.run_bind_error _ hr]; exact hi
  | ok u => rw [flush, Act.run_bind_ok _ hr]; exact hi

-- ============================================================= inwards

/-- Bounds the next read by the time that remains, if there is a
deadline. -/
def bound [Wire σ] : Option Instant → Pumping ε σ Unit
  | none => pure ()
  | some deadline => do
    let time ← now
    if deadline ≤ time then Act.fail .timeout
    (setReadTimeout (some (deadline - time))).orElse .io

/-- Takes in the answer to a read. -/
def take [Engine ε] : Except IoKind Bytes → Pumping ε σ Bool
  | .ok [] => Act.fail .endOfStream
  | .ok bytes => do
    (feed bytes).orElse .protocolViolation
    return true
  | .error kind =>
    if kind = .interrupted then return true
    else if kind.isTimeout then Act.fail .timeout
    else Act.fail (.io kind)

/-- One turn inwards: reads once and feeds the engine, unless it has heard
enough. -/
def listen [Engine ε] [Wire σ] (enough : ε → Bool)
    (deadline : Option Instant) : Pumping ε σ Bool := do
  if enough (← Act.state).engine then return false
  bound deadline
  take (← read.attempt)

/-- Bounding a read does not make a server talk. -/
theorem keeps_bound [Wire σ] (deadline : Option Instant) :
    (bound deadline : Pumping ε σ Unit).Keeps talk := by
  cases deadline with
  | none => exact Act.keeps_pure ()
  | some deadline =>
    refine Act.Keeps.bind (fun l => Wire.talk_now l.wire) fun time => ?_
    split
    · exact Act.Keeps.bind (Act.keeps_fail _) fun _ l =>
        Wire.talk_setReadTimeout _ l.wire
    · exact fun l => Wire.talk_setReadTimeout _ l.wire

/-- Only bytes and interruptions ask for another read. -/
theorem take_true [Engine ε] {answer : Except IoKind Bytes}
    {l : Line ε σ} (h : ((take answer).run l).result = .ok true) :
    ReadAgain answer := by
  match answer with
  | .ok [] => simp [take] at h
  | .ok (b :: bs) => simp [ReadAgain]
  | .error kind =>
    simp only [take] at h
    split at h
    · assumption
    · split at h <;> simp at h

/-- What was read has been paid for already. -/
theorem keeps_take [Engine ε] [Wire σ] (answer : Except IoKind Bytes) :
    (take answer : Pumping ε σ Bool).Keeps talk := by
  match answer with
  | .ok [] => exact Act.keeps_fail _
  | .ok (b :: bs) =>
    exact Act.Keeps.bind (fun l => Nat.le_refl _) fun _ => Act.keeps_pure _
  | .error kind =>
    simp only [take]
    split
    · exact Act.keeps_pure _
    · split <;> exact Act.keeps_fail _

/-- A turn inwards leaves the server no more to say than it had. -/
theorem keeps_listen [Engine ε] [Wire σ] (enough : ε → Bool)
    (deadline : Option Instant) :
    (listen enough deadline : Pumping ε σ Bool).Keeps talk := by
  refine Act.keeps_state.bind fun l => ?_
  split
  · exact Act.keeps_pure _
  · exact (keeps_bound deadline).bind fun _ =>
      Act.Keeps.bind (fun l => Wire.talk_read_le _ _) keeps_take

/-- A turn that asks for another has used up some of what the server has to
say, which is why reading comes to an end. -/
theorem listen_lowers [Engine ε] [Wire σ] (enough : ε → Bool)
    (deadline : Option Instant) (l : Line ε σ)
    (h : ((listen enough deadline).run l).result = .ok true) :
    ((listen enough deadline).run l).state.talk < l.talk := by
  by_cases he : enough l.engine
  · simp [listen, Act.run_bind, he] at h
  · have hb := keeps_bound deadline l
    rcases hr : (bound deadline).run l with ⟨r, l', t⟩
    rw [hr] at hb
    cases r with
    | error e => simp [listen, Act.run_bind, he, hr] at h
    | ok u =>
      have hl : (listen enough deadline).run l =
          (((take (Wire.read readSize l'.wire).1).run
            { l' with wire := (Wire.read readSize l'.wire).2 }).after
              [.read (Wire.read readSize l'.wire).1]).after t := by
        simp [listen, Act.run_bind, he, hr, read, call, Act.ask,
          Act.focus, Act.attempt, Run.after]
      rw [hl] at h ⊢
      -- a chunk or an interruption asks for another turn, and costs talk
      have hagain := take_true h
      have h1 := Wire.talk_read readSize l'.wire hagain
      have h2 := keeps_take (Wire.read readSize l'.wire).1
        { l' with wire := (Wire.read readSize l'.wire).2 }
      simp only [Run.state_after, talk] at *
      omega

/-- Reads until the engine has heard enough. -/
def listenUntil [Engine ε] [Wire σ] (enough : ε → Bool)
    (deadline : Option Instant) : Pumping ε σ Unit :=
  Act.iterate (listen enough deadline) talk (listen_lowers enough deadline)

/-- Reads until the engine has heard enough, and leaves the wire with the
bound on reads it had before. -/
def pumpUntil [Engine ε] [Wire σ] (enough : ε → Bool) :
    Option Instant → Pumping ε σ Unit
  | none => listenUntil enough none
  | some deadline => do
    let before ← (call .readTimeout Wire.readTimeout).orElse .io
    let result ← (listenUntil enough (some deadline)).attempt
    let restored ← ((setReadTimeout before).orElse .io).attempt
    Act.ofExcept result
    Act.ofExcept restored

-- ============================================ the bound on conversation

theorem keeps_offer [Engine ε] [Wire σ] :
    (offer : Pumping ε σ Bool).Keeps talk := by
  refine Act.keeps_state.bind fun l => ?_
  split
  · exact Act.keeps_pure _
  · refine Act.Keeps.bind (Act.Keeps.orElse fun l => ?_) fun bytes => ?_
    · have h := Wire.talk_write l.queued l.wire
      rcases hw : Wire.write l.queued l.wire with ⟨answer, wire⟩
      rw [hw] at h
      cases answer <;> simpa [write, hw, talk] using h
    · split
      · exact (Act.keeps_fail _).bind fun _ => Act.keeps_pure _
      · exact Act.keeps_pure _

/-- Writing does not make a server talk. -/
theorem keeps_flush [Engine ε] [Wire σ] :
    (flush : Pumping ε σ Unit).Keeps talk :=
  (Act.keeps_iterate keeps_offer).bind fun _ l => Wire.talk_flush l.wire

/-- Nor does waiting for it, or putting the bound on reads back. -/
theorem keeps_pumpUntil [Engine ε] [Wire σ] (enough : ε → Bool)
    (deadline : Option Instant) :
    (pumpUntil enough deadline : Pumping ε σ Unit).Keeps talk := by
  cases deadline with
  | none => exact Act.keeps_iterate (keeps_listen enough none)
  | some deadline =>
    refine Act.Keeps.bind (fun l => Wire.talk_readTimeout l.wire) fun _ => ?_
    refine (Act.keeps_iterate (keeps_listen enough _)).attempt.bind
      fun _ => ?_
    refine Act.Keeps.bind (fun l => Wire.talk_setReadTimeout _ l.wire)
      fun _ => ?_
    exact (Act.keeps_ofExcept _).bind fun _ => Act.keeps_ofExcept _

/-- A turn inwards is the last one only if the engine has heard enough. -/
theorem listen_ne_false [Engine ε] [Wire σ] {enough : ε → Bool}
    {deadline : Option Instant} {l : Line ε σ} (h : enough l.engine = false) :
    ((listen enough deadline).run l).result ≠ .ok false := by
  intro hr
  obtain ⟨_, _, _, hs, hr, -⟩ := Act.run_bind_inv hr
  cases hs
  simp only [h, Bool.false_eq_true, if_false] at hr
  obtain ⟨_, l', _, -, hr, -⟩ := Act.run_bind_inv hr
  obtain ⟨answer, l', _, -, hr, -⟩ := Act.run_bind_inv hr
  -- once the read was made, the turn fails or asks for another
  match answer with
  | .ok [] => cases hr
  | .ok (b :: bs) =>
    obtain ⟨_, _, _, -, hr, -⟩ := Act.run_bind_inv hr
    cases hr
  | .error kind =>
    simp only [take] at hr
    split at hr
    · cases hr
    · split at hr <;> cases hr

/-- An engine that has to hear more before it has heard enough costs a
read. -/
theorem listenUntil_lowers [Engine ε] [Wire σ] {enough : ε → Bool}
    {deadline : Option Instant} {l : Line ε σ} (h : enough l.engine = false)
    (hr : ((listenUntil enough deadline).run l).result = .ok ()) :
    ((listenUntil enough deadline).run l).state.talk < l.talk :=
  Act.iterate_lowers (keeps_listen enough deadline) (listen_ne_false h) hr

/-- Waiting that had to hear something used up some of what the server has to
say. -/
theorem pumpUntil_lowers [Engine ε] [Wire σ] {enough : ε → Bool}
    {deadline : Option Instant} {l : Line ε σ} (h : enough l.engine = false)
    (hr : ((pumpUntil enough deadline).run l).result = .ok ()) :
    ((pumpUntil enough deadline).run l).state.talk < l.talk := by
  cases deadline with
  | none => exact listenUntil_lowers h hr
  | some deadline =>
    obtain ⟨before, l₁, _, h₁, hr, he⟩ := Act.run_bind_inv hr
    obtain ⟨result, l₂, _, h₂, hr, he₂⟩ := Act.run_bind_inv hr
    obtain ⟨restored, l₃, _, h₃, hr, he₃⟩ := Act.run_bind_inv hr
    obtain ⟨_, l₄, _, h₄, hr, he₄⟩ := Act.run_bind_inv hr
    have e₁ : l₁ = { l with wire := (Wire.readTimeout l.wire).2 } :=
      (congrArg Run.state h₁).symm
    have k₁ : l₁.talk ≤ l.talk := e₁ ▸ Wire.talk_readTimeout l.wire
    have r₂ :
        ((listenUntil enough (some deadline)).run l₁).result = .ok () := by
      have hresult := congrArg Run.result h₂
      have hdone := congrArg Run.result h₄
      simp only [Act.attempt, Except.ok.injEq, Act.run_ofExcept]
        at hresult hdone
      rw [hresult, hdone]
    -- only the listening costs talk, the calls around it do not add to it
    have k₂ : l₂.talk < l₁.talk := by
      have := listenUntil_lowers (by rw [e₁]; exact h) r₂
      rwa [show l₂ = _ from (congrArg Run.state h₂).symm]
    have k₃ : l₃.talk ≤ l₂.talk := by
      rw [show l₃ = _ from (congrArg Run.state h₃).symm]
      exact Wire.talk_setReadTimeout _ _
    have e₄ : l₄ = l₃ := (congrArg Run.state h₄).symm
    show ((pumpUntil enough (some deadline)).run l).state.talk < l.talk
    unfold pumpUntil
    rw [he, Run.state_after, he₂, Run.state_after, he₃, Run.state_after, he₄,
      Run.state_after, Act.run_ofExcept, e₄]
    show l₃.talk < l.talk
    omega

end Line

end SaslGate
