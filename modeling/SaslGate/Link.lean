/-
The connection of one session to the remote server: an engine at work on a
socket, from the exchange of headers until both are closed. The two are held
side by side, and each is closed once, whoever asks for it first; nothing
reaches them afterwards. A link that cannot be set up is closed before anybody
gets hold of it.

# Deadlines

Every wait has a deadline that is set when it begins, before anything else is
looked at. A timeout may be so long that the clock cannot show the deadline;
then there is no wait, and `AuthError.deadlineOverflow` is what comes of it.
-/
import SaslGate.Config
import SaslGate.Error

namespace SaslGate

/-- Opens sockets to remote servers, each under a number of its own. -/
class Connector (κ : Type) (σ : outParam Type) where
  /-- Connects to a host and port number within a time, if one is given. -/
  connect : String → UInt16 → Option Duration → κ →
    Except IoKind (Nat × σ) × κ

/-- What sessions do to the outside world. -/
inductive Event
  /-- An attempt to connect, with the number of the socket it gave. -/
  | connect (host : String) (portNumber : UInt16) (timeout : Option Duration)
      (answer : Except IoKind Nat)
  /-- A call on a socket. -/
  | socket (id : Nat) (call : SocketEvent)
  /-- The engine at work on a socket is closed. -/
  | engineClosed (id : Nat)
  | directory (call : DirectoryEvent)

-- ================================================================ holding

/-- Something that is held until it is closed. What closing leaves of it is
kept, where nobody but the clock gets at it. -/
inductive Held (α : Type)
  | live (thing : α)
  | spent (rest : α)

namespace Held

/-- The thing, unless it has been closed. -/
def live? : Held α → Option α
  | live thing => some thing
  | spent _ => none

/-- The thing, or what is left of it. -/
def thing : Held α → α
  | live thing => thing
  | spent rest => rest

/-- The thing, or what is left of it, made into another. -/
def set (thing : α) : Held α → Held α
  | live _ => live thing
  | spent _ => spent thing

@[simp] theorem live?_live (a : α) : (live a).live? = some a := rfl

@[simp] theorem live?_spent (a : α) : (spent a).live? = none := rfl

@[simp] theorem thing_live (a : α) : (live a).thing = a := rfl

@[simp] theorem thing_spent (a : α) : (spent a).thing = a := rfl

@[simp] theorem set_live (a b : α) : (live a).set b = live b := rfl

@[simp] theorem set_spent (a b : α) : (spent a).set b = spent b := rfl

end Held

/-- A connection to the remote server: a socket and the engine at work on
it. -/
structure Link (ε σ : Type) where
  /-- The number of the socket. -/
  id : Nat
  /-- The bound on each exchange, if there is one. -/
  timeout : Option Duration
  socket : Held σ
  engine : Held ε

/-- An action on a link. -/
abbrev Linked (ε σ α : Type) := Act Event (Link ε σ) AuthError α

namespace Link

variable {ε σ κ : Type}

/-- Whether the link has been closed. -/
def isClosed (k : Link ε σ) : Bool :=
  k.socket.live?.isNone && k.engine.live?.isNone

-- ================================================================ the line

/-- Engine and socket together, as long as neither has been closed. -/
def line (k : Link ε σ) : Option (Line ε σ) :=
  match k.socket, k.engine with
  | .live wire, .live engine => some ⟨engine, wire⟩
  | _, _ => none

/-- The open link with a line. -/
def ofLine (id : Nat) (timeout : Option Duration) (l : Line ε σ) : Link ε σ :=
  ⟨id, timeout, .live l.wire, .live l.engine⟩

/-- The link when its line has come to another state. -/
def put (k : Link ε σ) (l : Line ε σ) : Link ε σ :=
  ofLine k.id k.timeout l

section Put

variable {k : Link ε σ} {l l' : Line ε σ}

@[simp] theorem line_put : (k.put l).line = some l := rfl

@[simp] theorem engine_put : (k.put l).engine = .live l.engine := rfl

@[simp] theorem id_put : (k.put l).id = k.id := rfl

@[simp] theorem timeout_put : (k.put l).timeout = k.timeout := rfl

@[simp] theorem put_put : (k.put l).put l' = k.put l' := rfl

/-- A link is open when neither of its two parts has been closed. -/
theorem line_eq_some_iff :
    k.line = some l ↔ k.socket = .live l.wire ∧ k.engine = .live l.engine := by
  obtain ⟨id, timeout, socket, engine⟩ := k
  obtain ⟨e, w⟩ := l
  cases socket with
  | spent rest => simp [line]
  | live wire =>
    cases engine with
    | spent rest => simp [line]
    | live engine => simp [line, and_comm]

/-- The engine of an open link is the live one. -/
theorem live?_engine (hl : k.line = some l) :
    k.engine.live? = some l.engine := by
  rw [(line_eq_some_iff.1 hl).2, Held.live?_live]

/-- Putting back what is there changes nothing. -/
theorem put_eq_self (hl : k.line = some l) : k.put l = k := by
  obtain ⟨hsocket, hengine⟩ := line_eq_some_iff.1 hl
  rw [put, ofLine, ← hsocket, ← hengine]

end Put

/-- How many reads may still bring something. -/
def talk [Wire σ] (k : Link ε σ) : Nat := (k.line.map Line.talk).getD 0

-- ================================================================= actions

/-- An action on the open line; a closed link refuses it. -/
def onLine (toError : δ → AuthError) (x : Act SocketEvent (Line ε σ) δ α) :
    Linked ε σ α :=
  ⟨fun k =>
    match k.line with
    | none => ⟨.error (.protocolViolation .closed), k, []⟩
    | some l =>
      let r := ((x.label (Event.socket k.id)).orElse toError).run l
      ⟨r.result, k.put r.state, r.events⟩⟩

/-- What an action of the open line amounts to when it ends well. -/
theorem onLine_inv {toError : δ → AuthError}
    {x : Act SocketEvent (Line ε σ) δ α} {k k' : Link ε σ} {a : α}
    {t : List Event} (h : (onLine toError x).run k = ⟨.ok a, k', t⟩) :
    ∃ l l' u, k.line = some l ∧ x.run l = ⟨.ok a, l', u⟩
      ∧ k' = k.put l' ∧ t = u.map (.socket k.id) := by
  cases hl : k.line with
  | none => simp [onLine, hl] at h
  | some l =>
    rcases hx : x.run l with ⟨r, l', u⟩
    simp only [onLine, hl, Act.orElse, Act.label, hx, Run.mk.injEq] at h
    obtain ⟨hr, hs, ht⟩ := h
    cases r with
    | error e => cases hr
    | ok b =>
      cases hr
      exact ⟨l, l', u, rfl, hx, hs.symm, ht.symm⟩

/-- A step of the engine, after which all it queued is sent. -/
def send [Engine ε] [Wire σ] (f : ε → Except TransportError Unit × ε) :
    Linked ε σ Unit := do
  onLine .protocolViolation (Line.engineStep f)
  onLine .ofPump Line.flush

/-- Picks a mechanism, with the client's first message. -/
def sendInit [Engine ε] [Wire σ] (mechanism : String)
    (hostname : Option String) (initialResponse : Bytes) : Linked ε σ Unit :=
  send (Engine.sendInit mechanism hostname initialResponse)

/-- Answers a challenge. -/
def sendResponse [Engine ε] [Wire σ] (response : Bytes) : Linked ε σ Unit :=
  send (Engine.sendResponse response)

/-- A look at the clock, which goes on whether or not the socket is closed. -/
def now [Wire σ] : Linked ε σ Instant :=
  ⟨fun k =>
    let (time, wire) := Wire.now k.socket.thing
    ⟨.ok time, { k with socket := k.socket.set wire },
      [.socket k.id (.clock time)]⟩⟩

/-- The time by which an exchange that begins now has to be over. -/
def deadline [Wire σ] : Linked ε σ (Option Instant) := do
  match (← Act.state).timeout with
  | none => return none
  | some timeout =>
    match Instant.after? timeout (← now) with
    | some limit => return some limit
    | none => Act.fail .deadlineOverflow

/-- Reads until the engine has heard enough. The deadline is set before it
shows whether there is a line to read from. -/
def pumpUntil [Engine ε] [Wire σ] (enough : ε → Bool) : Linked ε σ Unit := do
  let deadline ← deadline
  onLine .ofPump (Line.pumpUntil enough deadline)

/-- Takes the challenge, or the data of the outcome, that waits. -/
def takePending [Engine ε] : Linked ε σ (Option Bytes) :=
  ⟨fun k =>
    match k.engine with
    | .spent _ => ⟨.ok none, k, []⟩
    | .live engine =>
      let (pending, engine) := Engine.takePending engine
      ⟨.ok pending, { k with engine := .live engine }, []⟩⟩

-- ================================================================= closing

/-- Shuts the socket down, unless that has been done. -/
def shutSocket [Wire σ] : Act Event (Link ε σ) IoKind Unit :=
  ⟨fun k =>
    match k.socket with
    | .spent _ => ⟨.ok (), k, []⟩
    | .live wire =>
      let (answer, rest) := Wire.shutdown wire
      ⟨answer, { k with socket := .spent rest },
        [.socket k.id (.shutdown answer)]⟩⟩

/-- Closes the engine, unless that has been done. -/
def closeEngine [Engine ε] : Act Event (Link ε σ) δ Unit :=
  ⟨fun k =>
    match k.engine with
    | .spent _ => ⟨.ok (), k, []⟩
    | .live engine =>
      ⟨.ok (), { k with engine := .spent (Engine.close engine) },
        [.engineClosed k.id]⟩⟩

/-- Shuts the socket down and closes the engine, whether or not shutting down
fails. Later calls do nothing. -/
def close [Engine ε] [Wire σ] : Act Event (Link ε σ) IoKind Unit := do
  let result ← shutSocket.attempt
  closeEngine
  Act.ofExcept result

/-- The end of a link: if it is still open it is closed, and nobody hears of
a failure. -/
def drop [Engine ε] [Wire σ] : Linked ε σ Unit := do
  let _ ← close.attempt

section Open

variable [Engine ε] {k : Link ε σ} {l : Line ε σ}

/-- Taking what waits is a step of the engine alone. -/
theorem run_takePending (hl : k.line = some l) :
    takePending.run k = ⟨.ok (Engine.takePending l.engine).1,
      k.put { l with engine := (Engine.takePending l.engine).2 }, []⟩ := by
  obtain ⟨hsocket, hengine⟩ := line_eq_some_iff.1 hl
  simp [takePending, put, ofLine, hsocket, hengine]

/-- Closing an open link reaches both of its parts, and what shutting the socket
down came to is all that is told of it. -/
theorem run_close [Wire σ] (hl : k.line = some l) :
    close.run k = ⟨(Wire.shutdown l.wire).1,
      { k with
        socket := .spent (Wire.shutdown l.wire).2
        engine := .spent (Engine.close l.engine) },
      [.socket k.id (.shutdown (Wire.shutdown l.wire).1),
        .engineClosed k.id]⟩ := by
  obtain ⟨hsocket, hengine⟩ := line_eq_some_iff.1 hl
  simp [close, shutSocket, closeEngine, Act.attempt, Act.run_bind, hsocket,
    hengine, Run.after]

end Open

-- ============================================================ setting up

/-- A socket to the remote server, with its number. -/
def dial [Connector κ σ] (c : RemoteConfig) :
    Act Event κ AuthError (Nat × σ) :=
  (Act.ask
    (fun answer =>
      .connect c.host c.portNumber c.connectTimeout (answer.map Prod.fst))
    (Connector.connect c.host c.portNumber c.connectTimeout)).orElse
      fun kind =>
        if kind.isTimeout then .remoteTimeout
        else .connectFailure c.host c.portNumber kind

/-- Whether the server has offered at least one mechanism. -/
def hasOffer [Engine ε] (e : ε) : Bool :=
  match Engine.announced e with
  | none | some [] => false
  | some _ => true

/-- The mechanisms the server offers. -/
def offered [Engine ε] (k : Link ε σ) : List String :=
  (k.engine.live?.bind Engine.announced).getD []

/-- The offer is looked up in the engine of the open link. -/
theorem offered_eq [Engine ε] {k : Link ε σ} {l : Line ε σ}
    (hl : k.line = some l) :
    k.offered = (Engine.announced l.engine).getD [] := by
  rw [offered, live?_engine hl, Option.bind_some]

/-- Exchanges headers and waits for the offer, which has to contain the
mechanism. -/
def greet [Engine ε] [Wire σ] (mechanism : String) : Linked ε σ Unit := do
  send Engine.sendHeader
  pumpUntil hasOffer
  let offered := (← Act.state).offered
  if mechanism ∈ offered then return ()
  else Act.fail (.mechanismNotOffered mechanism offered)

/-- A link over which the server has offered the mechanism. -/
def bootstrap [Connector κ σ] [Engine ε] [Wire σ] (engine : ε)
    (c : RemoteConfig) (mechanism : String) :
    Act Event κ AuthError (Link ε σ) := do
  let (id, wire) ← dial c
  let start := ofLine id c.negotiationTimeout ⟨engine, wire⟩
  let (result, link) ← Act.inside start (greet mechanism)
  match result with
  | .ok () => return link
  | .error e => do
    let _ ← Act.inside link close
    Act.fail e

-- ============================================ the bound on conversation

/-- What an open link has its server say is what its line does. -/
theorem keeps_onLine [Wire σ] {toError : δ → AuthError}
    {x : Act SocketEvent (Line ε σ) δ α} (h : x.Keeps Line.talk) :
    (onLine toError x).Keeps talk := by
  intro k
  cases hk : k.line with
  | none => simp [onLine, hk]
  | some l => simpa [onLine, hk, talk, Act.orElse, Act.label] using h l

/-- Sending over a link does not make its server talk. -/
theorem keeps_send [Engine ε] [Wire σ]
    (f : ε → Except TransportError Unit × ε) :
    (send f : Linked ε σ Unit).Keeps talk :=
  (keeps_onLine fun _ => Nat.le_refl _).bind fun _ =>
    keeps_onLine Line.keeps_flush

/-- A look at the clock brings nobody to speak. -/
theorem keeps_now [Wire σ] : (now : Linked ε σ Instant).Keeps talk := by
  intro ⟨id, timeout, socket, engine⟩
  cases socket with
  | spent rest => exact Nat.le_refl _
  | live wire =>
    cases engine with
    | spent rest => exact Nat.le_refl _
    | live engine => exact Wire.talk_now wire

/-- A look at the clock says nothing to a server. -/
theorem keeps_deadline [Wire σ] :
    (deadline : Linked ε σ (Option Instant)).Keeps talk := by
  refine Act.keeps_state.bind fun k => ?_
  split
  · exact Act.keeps_pure _
  · refine keeps_now.bind fun time => ?_
    split
    · exact Act.keeps_pure _
    · exact Act.keeps_fail _

/-- Waiting leaves the server no more to say than it had. -/
theorem keeps_pumpUntil [Engine ε] [Wire σ] (enough : ε → Bool) :
    (pumpUntil enough : Linked ε σ Unit).Keeps talk :=
  keeps_deadline.bind fun _ => keeps_onLine (Line.keeps_pumpUntil enough _)

/-- What is taken off an engine was said before. -/
theorem keeps_takePending [Engine ε] [Wire σ] :
    (takePending : Linked ε σ (Option Bytes)).Keeps talk := by
  intro ⟨id, timeout, socket, engine⟩
  cases engine with
  | spent rest => exact Nat.le_refl _
  | live engine =>
    cases socket with
    | spent rest => exact Nat.le_refl _
    | live wire => exact Nat.le_refl _

-- =========================================================== the deadline

section Deadline

variable [Wire σ] {k k' : Link ε σ} {timeout : Duration} {time : Instant}
  {t : List Event}

/-- On an open link the clock is the one beside its socket. -/
theorem run_now {l : Line ε σ} (hl : k.line = some l) :
    now.run k = ⟨.ok (Wire.now l.wire).1,
      k.put { l with wire := (Wire.now l.wire).2 },
      [.socket k.id (.clock (Wire.now l.wire).1)]⟩ := by
  obtain ⟨hsocket, hengine⟩ := line_eq_some_iff.1 hl
  simp [now, put, ofLine, hsocket, hengine]

/-- There, a look at it is an action of the line. -/
theorem run_now_onLine {l : Line ε σ} (toError : δ → AuthError)
    (hl : k.line = some l) :
    now.run k = (onLine toError Line.now).run k := by
  rw [run_now hl]
  simp [onLine, hl, Line.now, Act.label, Act.orElse]

/-- Without a timeout nobody looks at the clock. -/
theorem run_deadline_none (ht : k.timeout = none) :
    deadline.run k = ⟨.ok none, k, []⟩ := by
  simp [deadline, Act.run_bind, ht, Run.after]

/-- A deadline that the clock can show. -/
theorem run_deadline_some {limit : Instant} (ht : k.timeout = some timeout)
    (hn : now.run k = ⟨.ok time, k', t⟩)
    (ha : Instant.after? timeout time = some limit) :
    deadline.run k = ⟨.ok (some limit), k', t⟩ := by
  simp [deadline, Act.run_bind, ht, hn, ha, Run.after]

/-- A deadline that the clock cannot show. -/
theorem run_deadline_overflow (ht : k.timeout = some timeout)
    (hn : now.run k = ⟨.ok time, k', t⟩)
    (ha : Instant.after? timeout time = none) :
    deadline.run k = ⟨.error .deadlineOverflow, k', t⟩ := by
  simp [deadline, Act.run_bind, ht, hn, ha, Run.after]

/-- Whoever has to wait gets no further then, be the link open or closed, than
to look at the clock. -/
theorem run_pumpUntil_overflow [Engine ε] (enough : ε → Bool)
    (ht : k.timeout = some timeout) (hn : now.run k = ⟨.ok time, k', t⟩)
    (ha : Instant.after? timeout time = none) :
    (pumpUntil enough).run k = ⟨.error .deadlineOverflow, k', t⟩ :=
  Act.run_bind_error _ (run_deadline_overflow ht hn ha)

/-- The clock opens nothing. -/
theorem line_now_of_closed (hl : k.line = none) :
    (now.run k).state.line = none := by
  obtain ⟨id, timeout, socket, engine⟩ := k
  cases socket with
  | spent rest => rfl
  | live wire =>
    cases engine with
    | spent rest => rfl
    | live engine => cases hl

/-- Setting a deadline opens nothing. -/
theorem line_deadline_of_closed (hl : k.line = none) :
    (deadline.run k).state.line = none := by
  cases ht : k.timeout with
  | none => rwa [run_deadline_none ht]
  | some timeout =>
    have hnow := line_now_of_closed hl
    cases ha : Instant.after? timeout (Wire.now k.socket.thing).1 with
    | none => rwa [run_deadline_overflow ht rfl ha]
    | some limit => rwa [run_deadline_some ht rfl ha]

/-- Nobody waits on a closed link. -/
theorem pumpUntil_ne_ok [Engine ε] (enough : ε → Bool)
    (hl : k.line = none) : ((pumpUntil enough).run k).result ≠ .ok () := by
  intro h
  obtain ⟨limit, k₁, _, h₁, h, -⟩ := Act.run_bind_inv h
  have hclosed := line_deadline_of_closed hl
  rw [h₁] at hclosed
  simp [onLine, show k₁.line = none from hclosed] at h

/-- Setting a deadline leaves an open link open, and its engine alone. -/
theorem deadline_inv {l : Line ε σ} {limit : Option Instant}
    (hl : k.line = some l) (h : deadline.run k = ⟨.ok limit, k', t⟩) :
    ∃ l', k' = k.put l' ∧ l'.engine = l.engine := by
  cases ht : k.timeout with
  | none =>
    rw [run_deadline_none ht] at h
    cases h
    exact ⟨l, (put_eq_self hl).symm, rfl⟩
  | some timeout =>
    cases ha : Instant.after? timeout (Wire.now l.wire).1 with
    | none =>
      rw [run_deadline_overflow ht (run_now hl) ha] at h
      cases h
    | some limit =>
      rw [run_deadline_some ht (run_now hl) ha] at h
      cases h
      exact ⟨_, rfl, rfl⟩

end Deadline

/-- An engine that has to hear more before it has heard enough costs a
read. -/
theorem pumpUntil_lowers [Engine ε] [Wire σ] {enough : ε → Bool}
    {k : Link ε σ} {l : Line ε σ} (hl : k.line = some l)
    (h : enough l.engine = false)
    (hr : ((pumpUntil enough).run k).result = .ok ()) :
    ((pumpUntil enough).run k).state.talk < k.talk := by
  obtain ⟨limit, k₁, _, h₁, hr, he⟩ := Act.run_bind_inv hr
  obtain ⟨l₁, rfl, hen⟩ := deadline_inv hl h₁
  have htalk : (k.put l₁).talk ≤ k.talk := by
    have := keeps_deadline k
    rwa [h₁] at this
  -- the deadline was set, so the line is what ended well
  have hp : ((Line.pumpUntil enough limit).run l₁).result = .ok () := by
    simp only [onLine, line_put, Act.orElse, Act.label] at hr
    cases hq : ((Line.pumpUntil enough limit).run l₁).result with
    | ok u => rfl
    | error e => rw [hq] at hr; cases hr
  have hlow := Line.pumpUntil_lowers (by rw [hen]; exact h) hp
  have hst : ((onLine AuthError.ofPump (Line.pumpUntil enough limit)).run
      (k.put l₁)).state.talk
        = ((Line.pumpUntil enough limit).run l₁).state.talk := by
    simp [onLine, Act.orElse, Act.label, talk]
  have hk : (k.put l₁).talk = l₁.talk := by simp [talk]
  unfold pumpUntil
  rw [he, Run.state_after, hst]
  omega

end Link

end SaslGate
