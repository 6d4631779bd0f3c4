/-
A whole exchange with a server in lock-step, frame by frame. The server is
told the client's header and then one frame after the other; it answers the
header with its own and an offer, and each frame with one frame.

# Turns

After setting up it is the session's turn (`Link.Idle`), and after each frame
that it sends, the server's (`Link.Owed`). Either turn names what was told so
far and what is left to be told and to be heard, so an exchange is followed
through by handing the turn back and forth: `Idle.send` and `Owed.await`. All
that can go wrong is that time runs out (`Late`).
-/
import SaslGate.Proofs.Client.Offer
import SaslGate.Proofs.Conduct
import SaslGate.Proofs.LockStep
import SaslGate.Rehearsal.Scene

namespace SaslGate

open Act (Ends)
open SocketEvent (InTime)
open Event (calls)

-- =============================================================== the script

/-- The cues for frames that a server is told, and for what it says to each
of them, which is one frame. -/
inductive Cued : List Frame → List Frame → List Cue → Prop
  | nil : Cued [] [] []
  | cons {f g : Frame} {fs gs : List Frame} {hears : Bytes}
      {reply : List (Except IoKind Bytes)} {xs : List Bytes}
      {cues : List Cue} (sized : Client.sized f = .ok hears)
      (comes : Comes reply xs) (spells : Spells [g] xs.flatten)
      (rest : Cued fs gs cues) :
      Cued (f :: fs) (g :: gs) (⟨hears, reply⟩ :: cues)

/-- The part of a server from the beginning on: it says its header and an
offer to the client's header, and then goes from frame to frame. -/
inductive Script (said : List Frame) : List Frame → List Cue → Prop
  | intro {names : List String} {raw : Bytes} {heard : List Frame}
      {reply : List (Except IoKind Bytes)} {xs : List Bytes}
      {cues : List Cue} (comes : Comes reply xs)
      (flat : xs.flatten = Header.sasl.encode ++ raw)
      (spells : Spells [.mechanisms names] raw)
      (cued : Cued said heard cues) :
      Script said (.mechanisms names :: heard)
        (⟨Header.sasl.encode, reply⟩ :: cues)

/-- Whoever connects gets the socket `id`, and at its other end is a server
in lock-step. It is told the frames `said`, and its own frames are `heard`. -/
def Answers {κ σ : Type} [Connector κ σ] [Wire σ] (config : RemoteConfig)
    (id : Nat) (said heard : List Frame) (opener : κ) : Prop :=
  ∃ (plays : Part → σ → Prop) (cues : List Cue) (wire : σ) (opener' : κ),
    LockStep plays
    ∧ Connector.connect config.host config.portNumber config.connectTimeout
      opener = (.ok (id, wire), opener')
    ∧ Script said heard cues ∧ plays ⟨[], cues⟩ wire

/-- A trace in which some exchange came to its deadline, or could have none. -/
def Late (timeout : Option Duration) (t : List Event) : Prop :=
  ¬ InTime timeout (calls t)

/-- What is late stays late. -/
theorem Late.append {timeout : Option Duration} (t u : List Event)
    (h : Late timeout t) : Late timeout (t ++ u) := by
  intro hin
  rw [Event.calls_append] at hin
  exact h hin.of_append

-- ================================================================= the link

namespace Link

open Line (InStep)
open Line.InStep (Quiet)

variable {κ σ : Type} {config : RemoteConfig} {id : Nat}
  {plays : Part → σ → Prop} {k : Link Client σ} {t : List Event}

/-- A link is open, and `P` holds of its line and of what has passed over its
socket. The trace shows the opening and nothing else. -/
def Has (config : RemoteConfig) (id : Nat)
    (P : Line Client σ → List SocketEvent → Prop) (k : Link Client σ)
    (t : List Event) : Prop :=
  ∃ l u, k = ofLine id config.negotiationTimeout l ∧ P l u
    ∧ t = opened config id u

/-- An action of the line, which may fail in one way. -/
theorem Has.onLine {P : Line Client σ → List SocketEvent → Prop}
    {ok : α → Line Client σ → List SocketEvent → Prop}
    {fail : List Event → Prop} {toError : δ → AuthError}
    {x : Act SocketEvent (Line Client σ) δ α} (h : Has config id P k t)
    (hx : ∀ l u, P l u →
      Ends u x l ok fun _ _ u' => fail (opened config id u')) :
    Ends t (Link.onLine toError x) k (fun a => Has config id (ok a))
      fun _ _ => fail := by
  obtain ⟨l, u, rfl, hp, rfl⟩ := h
  rcases hr : x.run l with ⟨r, l', v⟩
  have hrun : (Link.onLine toError x).run
      (ofLine id config.negotiationTimeout l) =
      ⟨r.mapError toError, ofLine id config.negotiationTimeout l',
        v.map (.socket id)⟩ := by
    rw [run_onLine rfl, hr]
    rfl
  cases r with
  | ok a =>
    refine .of_run_ok hrun ?_
    exact ⟨l', u ++ v, rfl, (hx l u hp).of_ok hr, opened_append config id u v⟩
  | error d =>
    refine .of_run_error hrun ?_
    rw [opened_append]
    exact (hx l u hp).of_error hr

variable [Wire σ]

section Steps

variable {c c' : Client} {out : Bytes} {b : Option Instant}
  {coming reply : List (Except IoKind Bytes)} {cues : List Cue}
  {cs : List Bytes} {enough : Client → Bool}

/-- A step of the client that queues what the server waits for, and the
sending of it, which cannot fail. -/
theorem ends_send {f : Client → Except TransportError Unit × Client}
    {fail : List Event → Prop} (lockStep : LockStep plays)
    (takes : f c = (.ok (), c'))
    (h : Has config id (InStep plays config.negotiationTimeout c
      ⟨coming, ⟨c'.outbound, reply⟩ :: cues⟩ out b) k t) :
    Ends t (send f) k
      (fun _ => Has config id (InStep plays config.negotiationTimeout
        { c' with outbound := [] } ⟨coming ++ reply, cues⟩
        (out ++ c'.outbound) none))
      fun _ _ => fail := by
  have hstep : Ends t (Link.onLine .protocolViolation (Line.engineStep f)) k
      (fun _ => Has config id (InStep plays config.negotiationTimeout c'
        ⟨coming, ⟨c'.outbound, reply⟩ :: cues⟩ out b))
      fun _ _ => fail := by
    apply h.onLine
    intro l u hl
    have hrun : (Line.engineStep f).run l =
        ⟨.ok (), { l with engine := c' }, []⟩ := by
      simp [Line.engineStep, Act.step, Act.focus, hl.engine, takes]
    refine .of_run_ok hrun ?_
    rw [List.append_nil]
    exact ⟨rfl, hl.part, hl.passes⟩
  apply hstep.andThen
  intro _ k' t' hqueued
  exact hqueued.onLine fun l u hl => hl.flush lockStep

/-- A look at the clock begins an exchange, unless there is no time for it. -/
theorem ends_now {timeout : Duration} (lockStep : LockStep plays)
    (bounded : config.negotiationTimeout = some timeout)
    (h : Has config id (InStep plays config.negotiationTimeout c
      ⟨coming, cues⟩ out none) k t) :
    Ends t now k
      (fun time k' t' => if (Instant.after? timeout time).isSome
        then Has config id (InStep plays config.negotiationTimeout c
          ⟨coming, cues⟩ out (some time)) k' t'
        else Late config.negotiationTimeout t')
      fun _ _ => Late config.negotiationTimeout := by
  obtain ⟨l, u, rfl, hl, rfl⟩ := h
  rcases hn : Wire.now l.wire with ⟨time, wire⟩
  have hpart : plays ⟨coming, cues⟩ wire := by
    have := lockStep.now hl.part
    rwa [hn] at this
  have hrun : now.run (ofLine id config.negotiationTimeout l) =
      ⟨.ok time, ofLine id config.negotiationTimeout { l with wire },
        [.clock time].map (.socket id)⟩ := by
    rw [run_now rfl, hn]
    rfl
  have htick := SocketEvent.tick_begin timeout time
  rw [← bounded] at htick
  refine .of_run_ok hrun ?_
  rw [opened_append]
  cases ha : Instant.after? timeout time with
  | some limit =>
    rw [ha] at htick
    exact ⟨_, _, rfl, ⟨hl.engine, hpart, hl.passes.quiet htick nofun rfl⟩, rfl⟩
  | none =>
    rw [ha] at htick
    -- too long a timeout, and this look at the clock is where it shows
    show Late _ _
    rw [Late, calls_opened]
    exact hl.passes.late htick

/-- The time by which the client has to be answered. -/
theorem ends_deadline (lockStep : LockStep plays)
    (h : Has config id (InStep plays config.negotiationTimeout c
      ⟨coming, cues⟩ out none) k t) :
    Ends t deadline k
      (fun limit k' t' => ∃ b, Line.Due config.negotiationTimeout b limit
        ∧ Has config id (InStep plays config.negotiationTimeout c
          ⟨coming, cues⟩ out b) k' t')
      fun _ _ => Late config.negotiationTimeout := by
  have htimeout : k.timeout = config.negotiationTimeout := by
    obtain ⟨l, u, rfl, -, -⟩ := h
    rfl
  apply Ends.state_bind
  rw [htimeout]
  split
  · rename_i hnone
    have hdue : Line.Due config.negotiationTimeout none none := by
      rw [hnone]
      rfl
    exact .pure ⟨none, hdue, h⟩
  · rename_i timeout hsome
    apply (ends_now lockStep hsome h).andThen
    intro time k' t' hk'
    cases ha : Instant.after? timeout time with
    | none =>
      rw [ha] at hk'
      exact .fails hk'
    | some limit =>
      rw [ha] at hk'
      have hdue : Line.Due config.negotiationTimeout (some time)
          (some limit) := by
        rw [hsome, (Instant.after?_eq_some_iff.1 ha).2]
        exact ⟨time, rfl, rfl⟩
      exact .pure ⟨some time, hdue, hk'⟩

/-- Reading what the server has said, if it is enough. -/
theorem ends_pumpUntil (lockStep : LockStep plays)
    (hears : Line.Hears enough c cs c') (comes : Comes coming cs)
    (h : Has config id (InStep plays config.negotiationTimeout c
      ⟨coming, cues⟩ out none) k t) :
    Ends t (pumpUntil enough) k
      (fun _ k' t' => ∃ b, Has config id
        (Quiet plays config.negotiationTimeout c' cues out b) k' t')
      fun _ _ => Late config.negotiationTimeout := by
  apply (ends_deadline lockStep h).andThen
  intro limit k₁ t₁ h₁
  obtain ⟨b, hdue, hk₁⟩ := h₁
  have hpump : Ends t₁ (Link.onLine .ofPump (Line.pumpUntil enough limit)) k₁
      (fun _ => Has config id (Quiet plays config.negotiationTimeout c' cues
        out b))
      fun _ _ => Late config.negotiationTimeout := by
    apply hk₁.onLine
    intro l u hl
    refine (InStep.pumpUntil lockStep hdue
      ⟨c, cs, coming, hears, comes, hl⟩).imp (fun _ _ _ h => h) ?_
    intro _ _ u' hlate
    rwa [Late, calls_opened]
  apply hpump.imp_ok
  intro _ k₂ t₂ h₂
  exact ⟨b, h₂⟩

end Steps

-- ==================================================================== turns

section Turns

variable {told said heard : List Frame} {c d : Client} {f g : Frame}
  {names : List String}

/-- It is the session's turn: the server has been told the frames `told`, and
all that it said has been heard. It waits for `said`, and `heard` is what it
is going to say. -/
def Idle (plays : Part → σ → Prop) (config : RemoteConfig) (id : Nat)
    (told said heard : List Frame) (c : Client) (k : Link Client σ)
    (t : List Event) : Prop :=
  ∃ cues output b, Utters told output ∧ Cued said heard cues
    ∧ Has config id (Quiet plays config.negotiationTimeout c cues
      (Header.sasl.encode ++ output) b) k t

/-- It is the server's turn: the first of the frames `heard` is on its way. -/
def Owed (plays : Part → σ → Prop) (config : RemoteConfig) (id : Nat)
    (told said heard : List Frame) (c : Client) (k : Link Client σ)
    (t : List Event) : Prop :=
  ∃ g rest coming xs cues output, heard = g :: rest ∧ Utters told output
    ∧ Comes coming xs ∧ Spells [g] xs.flatten ∧ Cued said rest cues
    ∧ Has config id (InStep plays config.negotiationTimeout c
      ⟨coming, cues⟩ (Header.sasl.encode ++ output) none) k t

/-- Telling the server what it waits for. -/
theorem Idle.send {step : Client → Except TransportError Unit × Client}
    (lockStep : LockStep plays)
    (h : Idle plays config id told (f :: said) heard c k t)
    (takes : ∀ bytes, Client.sized f = .ok bytes →
      step c = (.ok (), { d with outbound := bytes })) :
    Ends t (Link.send step) k
      (fun _ => Owed plays config id (told ++ [f]) said heard
        { d with outbound := [] })
      fun _ _ => Late config.negotiationTimeout := by
  obtain ⟨_, output, b, hutters, hcued, l, u, rfl, hquiet, rfl⟩ := h
  cases hcued with
  | @cons _ g _ gs hears reply xs cues sized comes spells rest =>
    obtain ⟨coming, hcoming, hstep⟩ := hquiet
    have hhas : Has config id (InStep plays config.negotiationTimeout c
        ⟨coming, ⟨hears, reply⟩ :: cues⟩ (Header.sasl.encode ++ output) b)
        (ofLine id config.negotiationTimeout l) (opened config id u) :=
      ⟨l, u, rfl, hstep, rfl⟩
    apply (ends_send lockStep (takes hears sized) hhas).imp_ok
    intro _ k' t' hsent
    rw [List.append_assoc] at hsent
    exact ⟨g, gs, coming ++ reply, xs, cues, output ++ hears, rfl,
      hutters.snoc sized, hcoming.append comes, spells, rest, hsent⟩

/-- Waiting for a reply of the server. -/
theorem Owed.await {reply : Reply} (lockStep : LockStep plays)
    (h : Owed plays config id told said (g :: heard) c k t)
    (listening : c.Listening) (unread : c.reader.unread = [])
    (brings : Reply.Brings c reply g d) :
    Ends t Reply.await k
      (fun r k' t' => r = reply ∧ Idle plays config id told said heard
        (d.placed c.connection .empty) k' t')
      fun _ _ => Late config.negotiationTimeout := by
  obtain ⟨_, _, coming, xs, cues, output, hheard, hutters, comes, spells,
    cued, hhas⟩ := h
  cases hheard
  have hspells : Spells [g] (c.reader.unread ++ xs.flatten) := by
    rw [unread]
    exact spells
  -- what the server says next is just what the client waits for
  have hhears := listening.hears brings hspells comes.filled
  refine .bind ((ends_pumpUntil lockStep hhears comes hhas).imp_ok ?_)
  intro _ k' t' hquiet
  obtain ⟨b, l, u, rfl, hl, rfl⟩ := hquiet
  obtain ⟨left, hleft, hstep⟩ := hl
  have hof : Reply.heard (ofLine id config.negotiationTimeout l)
      = .ok reply := by
    have hreply := listening.ready.of?_brings brings c.connection .empty
    rw [← hstep.engine] at hreply
    exact (Reply.heard_eq_ok_iff rfl).2 hreply
  apply Ends.state_bind
  rw [hof]
  exact .pure ⟨rfl, cues, output, b, hutters, cued, l, u, rfl,
    ⟨left, hleft, hstep⟩, rfl⟩

omit [Wire σ] in
/-- Taking what waits. -/
theorem Idle.takePending
    {fail : AuthError → Link Client σ → List Event → Prop}
    (h : Idle plays config id told said heard c k t) :
    Ends t Link.takePending k
      (fun data k' t' => data = c.pending
        ∧ Idle plays config id told said heard { c with pending := none }
          k' t')
      fail := by
  obtain ⟨cues, output, b, hutters, hcued, l, u, rfl, hquiet, rfl⟩ := h
  obtain ⟨left, hleft, hstep⟩ := hquiet
  refine .of_run_ok (run_takePending rfl) ?_
  rw [List.append_nil, hstep.engine]
  exact ⟨rfl, cues, output, b, hutters, hcued, _, u, rfl,
    ⟨left, hleft, rfl, hstep.part, hstep.passes⟩, rfl⟩

-- =============================================================== setting up

/-- Sending the header, which is the first that the server waits for. -/
theorem ends_sendHeader {reply : List (Except IoKind Bytes)} {cues : List Cue}
    {wire : σ} {fail : List Event → Prop} (lockStep : LockStep plays)
    (part : plays ⟨[], ⟨Header.sasl.encode, reply⟩ :: cues⟩ wire) :
    Ends (opened config id []) (Link.send Engine.sendHeader)
      (ofLine id config.negotiationTimeout ⟨Client.fresh, wire⟩)
      (fun _ => Has config id (InStep plays config.negotiationTimeout
        Client.greeting ⟨reply, cues⟩ Header.sasl.encode none))
      fun _ _ => fail := by
  have hstart : Has config id (InStep plays config.negotiationTimeout
      Client.fresh ⟨[], ⟨Header.sasl.encode, reply⟩ :: cues⟩ [] none)
      (ofLine id config.negotiationTimeout ⟨Client.fresh, wire⟩)
      (opened config id []) :=
    ⟨_, [], rfl, ⟨rfl, part, SocketEvent.passes_nil _⟩, rfl⟩
  have hgreets : Engine.sendHeader Client.fresh = (.ok (),
      { Client.greeting with outbound := Header.sasl.encode }) := rfl
  exact ends_send lockStep hgreets hstart

/-- Exchanging headers, and waiting for an offer that has the mechanism in
it. -/
theorem ends_greet_script {mechanism : String} {cues : List Cue} {wire : σ}
    (lockStep : LockStep plays)
    (script : Script said (.mechanisms names :: heard) cues)
    (part : plays ⟨[], cues⟩ wire) (offers : mechanism ∈ names) :
    Ends (opened config id []) (greet mechanism)
      (ofLine id config.negotiationTimeout ⟨Client.fresh, wire⟩)
      (fun _ => Idle plays config id [] said heard (Client.offered names))
      fun _ _ => Late config.negotiationTimeout := by
  cases script with
  | @intro _ raw _ reply xs cues comes flat spells cued =>
    have hsome : names ≠ [] := List.ne_nil_of_mem offers
    -- the offer comes behind the header of the server, in any pieces
    have hhears := Client.hears_offer hsome spells flat comes.filled
    apply (ends_sendHeader lockStep part).andThen
    intro _ k₁ t₁ h₁
    apply (ends_pumpUntil lockStep hhears comes h₁).andThen
    intro _ k₂ t₂ h₂
    obtain ⟨b, l, u, rfl, hquiet, rfl⟩ := h₂
    have hoffered :
        (ofLine id config.negotiationTimeout l).offered = names := by
      obtain ⟨left, -, hstep⟩ := hquiet
      rw [offered_eq rfl, hstep.engine]
      rfl
    apply Ends.state_bind
    dsimp only
    rw [hoffered, if_pos offers]
    exact .pure ⟨cues, [], b, .nil, cued, l, u, rfl, hquiet, rfl⟩

/-- Setting up a link to a server that offers the mechanism. -/
theorem ends_bootstrap_answers [Connector κ σ] {mechanism : String}
    {opener : κ}
    (answers : Answers config id said (.mechanisms names :: heard) opener)
    (offers : mechanism ∈ names) :
    ∃ plays : Part → σ → Prop, LockStep plays
      ∧ Ends [] (bootstrap Client.fresh config mechanism) opener
        (fun k _ => Idle plays config id [] said heard
          (Client.offered names) k)
        fun _ _ => Late config.negotiationTimeout := by
  obtain ⟨plays, cues, wire, opener', hlock, hconnect, hscript, hpart⟩ :=
    answers
  refine ⟨plays, hlock, ?_⟩
  have hdial : (dial config : Act Event κ AuthError (Nat × σ)).run opener =
      ⟨.ok (id, wire), opener', opened config id []⟩ := by
    simp [dial, Act.orElse, Act.ask, hconnect, opened, Except.map]
  refine .bind (.of_run_ok hdial ?_)
  rw [List.nil_append]
  refine .bind (.inside ((ends_greet_script hlock hscript hpart offers).imp
    ?_ ?_))
  · intro _ k t hk
    exact .pure hk
  · intro e k t hlate
    have hclose := Act.Ends.of_persistent (x := (close :
      Act Event (Link Client σ) IoKind Unit)) (s := k) Late.append hlate
    refine .bind (.inside (hclose.imp ?_ ?_))
    · intro _ k' t' hlate'
      exact .fails hlate'
    · intro _ k' t' hlate'
      exact .fails hlate'

end Turns

-- ================================================================== the end

/-- Nothing is left to be told or heard. -/
def Settled (plays : Part → σ → Prop) (config : RemoteConfig) (id : Nat)
    (told : List Frame) (k : Link Client σ) (t : List Event) : Prop :=
  ∃ c, Idle plays config id told [] [] c k t

/-- The trace of one connection from its opening to its end. The header and
the frames `said` were written, whole and in order, and nothing else, and the
socket was shut down once, behind everything. -/
structure Record (config : RemoteConfig) (id : Nat) (said : List Frame)
    (t : List Event) : Prop where
  written : ∃ output, Utters said output
    ∧ SocketEvent.sent (calls t) = Header.sasl.encode ++ output
  closed : ∃ u answer, (∀ a, .shutdown a ∉ u)
    ∧ t = opened config id u
      ++ [.socket id (.shutdown answer), .engineClosed id]

/-- Letting go of a link whose exchange is over. -/
theorem Settled.record {told : List Frame}
    (h : Settled plays config id told k t) :
    Record config id told (t ++ farewell (some k)) := by
  obtain ⟨c, cues, output, b, hutters, -, l, u, rfl, hquiet, rfl⟩ := h
  obtain ⟨left, -, hstep⟩ := hquiet
  rw [farewell, run_close rfl]
  refine ⟨⟨output, hutters, ?_⟩, u, _, hstep.passes.unshut, rfl⟩
  rw [Event.calls_append, calls_opened, SocketEvent.sent_append,
    hstep.passes.written]
  exact List.append_nil _

end Link

-- ============================================================= a rehearsal

namespace Rehearsal

/-- A scripted socket whose reads are those of a server's part. Its writes may
be short, but they get rid of something. -/
structure Plays (p : Part) (s : Socket) : Prop where
  reads : s.reads = p.coming ++ p.cues.flatMap Cue.reply
  small : ∀ answer ∈ s.reads, (answer.toOption.getD []).length ≤ readSize
  writes : ∀ answer ∈ s.writes, ∃ limit, answer = .ok limit ∧ limit ≠ some 0
  flushes : s.flushes = []
  tells : s.tellsTimeout = .ok ()
  sets : s.setReadTimeouts = []
  timeout : s.timeout ≠ some 0

/-- Scripted sockets are as good as a server in lock-step. -/
theorem lockStep_plays : LockStep Plays where
  write := by
    intro coming reply cues bytes s h hsome
    have hlength : 0 < bytes.length := List.length_pos_iff.2 hsome
    cases hw : s.writes with
    | nil =>
      refine ⟨bytes.length, s, ?_, hlength, ?_⟩
      · simp [Wire.write, Socket.write, hw]
      · exact ⟨h.reads, h.small, h.writes, h.flushes, h.tells, h.sets,
          h.timeout⟩
    | cons answer rest =>
      have hfirst : answer ∈ s.writes := by
        rw [hw]
        exact List.mem_cons_self ..
      -- a write takes something, if not all of it
      obtain ⟨limit, rfl, hlimit⟩ := h.writes answer hfirst
      refine ⟨min (limit.getD bytes.length) bytes.length,
        { s with writes := rest }, ?_, ?_, ?_⟩
      · simp [Wire.write, Socket.write, hw]
      · cases limit with
        | none => simpa using hlength
        | some n =>
          have hn : n ≠ 0 := fun hzero => hlimit (congrArg some hzero)
          simp only [Option.getD_some]
          omega
      · refine ⟨h.reads, h.small, ?_, h.flushes, h.tells, h.sets, h.timeout⟩
        intro answer' hmem
        apply h.writes answer'
        rw [hw]
        exact List.mem_cons_of_mem _ hmem
  flush := by
    intro coming reply cues s h
    refine ⟨s, ?_, ?_⟩
    · simp [Wire.flush, Socket.flush, h.flushes]
    · refine ⟨?_, h.small, h.writes, h.flushes, h.tells, h.sets, h.timeout⟩
      rw [h.reads]
      simp
  read := by
    intro answer coming cues s h
    have hreads : s.reads = answer :: (coming ++ cues.flatMap Cue.reply) :=
      h.reads
    have hrest : Plays ⟨coming, cues⟩
        { s with reads := coming ++ cues.flatMap Cue.reply } := by
      refine ⟨rfl, ?_, h.writes, h.flushes, h.tells, h.sets, h.timeout⟩
      intro answer' hmem
      apply h.small answer'
      rw [hreads]
      exact List.mem_cons_of_mem _ hmem
    refine ⟨_, ?_, hrest⟩
    cases answer with
    | error kind => simp [Wire.read, Socket.read, hreads]
    | ok x =>
      have hsmall : x.length ≤ readSize := by
        apply h.small (.ok x)
        rw [hreads]
        exact List.mem_cons_self ..
      simp [Wire.read, Socket.read, hreads, hsmall]
  readTimeout := by
    intro p s h
    refine ⟨s.timeout, s, ?_, h.timeout, h⟩
    simp [Wire.readTimeout, Socket.readTimeout, h.tells, Except.map]
  setReadTimeout := by
    intro p s bound h hbound
    refine ⟨{ s with timeout := bound }, ?_, ?_⟩
    · simp [Wire.setReadTimeout, Socket.setReadTimeout, h.sets]
    · exact ⟨h.reads, h.small, h.writes, h.flushes, h.tells, h.sets, hbound⟩
  now := by
    intro p s h
    exact ⟨h.reads, h.small, h.writes, h.flushes, h.tells, h.sets, h.timeout⟩

/-- A world with one socket in it, which plays a script and takes what is
written to it a few bytes at a time to begin with. -/
def worldPlaying (cues : List Cue) : World Remote Directory :=
  { worldOf [] with
    connector := ⟨[.ok ⟨cues.flatMap Cue.reply,
      [.ok (some 3), .ok (some 1)], [], .ok (), [], .ok (), none, 0⟩], 0⟩ }

/-- Whoever connects in such a world is answered by the script. -/
theorem answers_worldPlaying {config : RemoteConfig}
    {said heard : List Frame} {cues : List Cue}
    (script : Script said heard cues)
    (small : ∀ answer ∈ cues.flatMap Cue.reply,
      (answer.toOption.getD []).length ≤ readSize) :
    Answers config 0 said heard (worldPlaying cues).connector := by
  refine ⟨Plays, cues, _, _, lockStep_plays, rfl, script, ?_⟩
  refine ⟨rfl, small, ?_, rfl, rfl, rfl, nofun⟩
  intro answer hanswer
  simp only [List.mem_cons, List.not_mem_nil, or_false] at hanswer
  rcases hanswer with rfl | rfl
  · exact ⟨some 3, rfl, by decide⟩
  · exact ⟨some 1, rfl, by decide⟩

/-- A frame as a scripted server expects it. -/
theorem sized_frames {f : Frame}
    (fits : (Client.sized f).toOption.isSome = true) :
    Client.sized f = .ok (frames [f]) := by
  obtain ⟨bytes, hbytes⟩ := Option.isSome_iff_exists.1 fits
  apply Act.eq_ok_of_toOption
  simp [frames, hbytes]

/-- A frame as a scripted server sends it. -/
theorem spells_frames {f : Frame}
    (sized : (Sized.encode Client.maxFrameSize
      (f.encode.toOption.getD [])).toOption = some (frames [f]))
    (decodes : (Frame.decode (f.encode.toOption.getD [])).toOption = some f) :
    Spells [f] (frames [f]) :=
  Client.spells_of_payload _ sized decodes

/-- It may be sent in two parts. -/
theorem spells_cut {f : Frame} (n : Nat) (h : Spells [f] (frames [f])) :
    Spells [f] [(frames [f]).take n, (frames [f]).drop n].flatten := by
  simpa using h

end Rehearsal

end SaslGate
