/-
What a client hears of a frame that is on its way. Wherever the reads cut
the frame, and however much of it has arrived before, the client takes note
of it with the last of its bytes and not earlier, and then its buffer is
empty (`Listening.hears`).
-/
import SaslGate.Proofs.Transcript

namespace SaslGate

-- ============================================================== the client

/-- A reply has nothing to do with the connection or the buffer. -/
theorem Reply.Brings.placed {reply : Reply} {f : Frame} {c d : Client}
    (h : Brings c reply f d) (k : ConnectionState) (r : Sized.Reader) :
    Brings (c.placed k r) reply f (d.placed k r) := by
  cases h with
  | challenge data => exact .challenge data
  | passed data => exact .passed data
  | failed code data refused => exact .failed code data refused

namespace Client

/-- The exchange has room for a reply, and no frame is complete. -/
structure Listening (c : Client) : Prop where
  done : c.headerDone = true
  bounded : c.reader.Bounded maxFrameSize
  dry : c.reader.next maxFrameSize = (.ok none, c.reader)
  ready : c.Ready

/-- A client that has heard a frame and has room for a reply listens. -/
theorem Heard.listening {c : Client} {fs : List Frame} {input : Bytes}
    (h : c.Heard fs input) (hne : fs ≠ []) (ready : c.Ready) :
    c.Listening := by
  cases h with
  | header undone reader => exact absurd rfl hne
  | frames done bounded dry spells => exact ⟨done, bounded, dry, ready⟩

/-- A client whose frames have all been worked off listens on. -/
theorem Listening.emptied {c : Client} (h : c.Listening) :
    Listening { c.placed c.connection .empty with pending := none } :=
  ⟨h.done, nofun, Sized.Reader.next_short (Nat.zero_lt_succ 3),
    h.ready.offered, h.ready.stepping, rfl⟩

/-- Bytes that are one frame. -/
theorem spells_of_payload {f : Frame} (payload : Bytes) {bytes : Bytes}
    (sized : (Sized.encode maxFrameSize payload).toOption = some bytes)
    (decodes : (Frame.decode payload).toOption = some f) :
    Spells [f] bytes := by
  rw [← List.append_nil bytes]
  exact .cons (Act.eq_ok_of_toOption sized) (Act.eq_ok_of_toOption decodes)
    .nil

/-- A frame and nothing else, in bytes. -/
theorem spells_one {f : Frame} {bytes : Bytes} (h : Spells [f] bytes) :
    ∃ payload, Sized.encode maxFrameSize payload = .ok bytes
      ∧ Frame.decode payload = .ok f := by
  generalize hfs : [f] = fs at h
  cases h with
  | nil => cases hfs
  | cons sized decodes tail =>
    cases hfs
    cases tail
    rw [List.append_nil]
    exact ⟨_, sized, decodes⟩

variable {reply : Reply} {f : Frame} {c d : Client} {bytes : Bytes}

/-- A client with room for a reply takes note of any. -/
theorem Ready.accept (h : c.Ready) (brings : Reply.Brings c reply f d) :
    c.accept f = .ok d := by
  have hawaits : c.awaitsServer = true := by
    simp [awaitsServer, h.stepping, h.settled]
  cases brings with
  | challenge data => simp [Client.accept, hawaits]
  | passed data => simp [Client.accept, hawaits]
  | failed code data refused => simp [Client.accept, hawaits, refused]

/-- What a client has heard after a reply is that reply. -/
theorem Ready.of?_brings (h : c.Ready) (brings : Reply.Brings c reply f d)
    (k : ConnectionState) (r : Sized.Reader) :
    Reply.of? (d.placed k r) = some reply := by
  cases brings with
  | challenge data =>
    simp [Reply.of?, Engine.progress, Engine.hasPending, placed, h.stepping]
  | passed data => rfl
  | failed code data refused => rfl

/-- A client that has one whole frame before it, and nothing else, takes note
of it and has nothing left to read. -/
theorem drain_of_whole (bounded : c.reader.Bounded maxFrameSize)
    (spells : Spells [f] c.reader.unread) (accepts : c.accept f = .ok d) :
    c.drain = (.ok (), d.placed c.connection .empty) := by
  obtain ⟨payload, hsized, hdecode⟩ := spells_one spells
  have hnext := Sized.Reader.next_of_whole bounded (by decide) hsized
  have hreceive : (c.placed c.connection .empty).receive payload
      = .ok (d.placed c.connection .empty) := by
    unfold receive
    rw [hdecode]
    show (c.placed c.connection .empty).accept f = _
    rw [accept_placed, accepts]
    rfl
  have hempty : Sized.Reader.empty.next maxFrameSize =
      (.ok none, .empty) := Sized.Reader.next_short (Nat.zero_lt_succ 3)
  have hdrain : c.drain = (d.placed c.connection .empty).drain :=
    drain_of_received hnext hreceive
  rw [hdrain, drain_of_waiting hempty]
  rfl

/-- The last bytes of a frame that brings a reply. -/
theorem Listening.feed_last (h : c.Listening)
    (brings : Reply.Brings c reply f d)
    (spells : Spells [f] (c.reader.unread ++ bytes)) :
    c.feed bytes = (.ok (), d.placed c.connection .empty) := by
  rw [← Sized.Reader.unread_append] at spells
  rw [feed_of_headerDone h.done]
  have haccepts : (c.append bytes).accept f
      = .ok (d.placed c.connection (c.reader.append bytes)) := by
    show (c.placed c.connection (c.reader.append bytes)).accept f = _
    rw [accept_placed, h.ready.accept brings]
    rfl
  have hdrain := drain_of_whole (c := c.append bytes) h.bounded spells haccepts
  exact hdrain

/-- Bytes of a frame that are not its last. -/
theorem Listening.feed_more {more : Bytes} (h : c.Listening)
    (spells : Spells [f] (c.reader.unread ++ (bytes ++ more)))
    (hne : more ≠ []) :
    ∃ r, c.feed bytes = (.ok (), c.placed c.connection r)
      ∧ (c.placed c.connection r).Listening
      ∧ r.unread = c.reader.unread ++ bytes := by
  obtain ⟨payload, hsized, -⟩ := spells_one spells
  have hwhole : ((c.reader.append bytes).append more).unread
      = c.reader.unread ++ (bytes ++ more) := by
    rw [Sized.Reader.append_append, Sized.Reader.unread_append]
  rw [← hwhole] at hsized
  have hnext := Sized.Reader.next_of_whole
    (r := (c.reader.append bytes).append more) h.bounded (by decide) hsized
  obtain ⟨r, hwaits⟩ := Sized.Reader.waits_of_more hne hnext
  obtain ⟨hbounded, hunread, hdry⟩ := Sized.Reader.unread_of_waiting
    (r := c.reader.append bytes) h.bounded hwaits
  refine ⟨r, ?_, ⟨h.done, hbounded, hdry, ?_⟩, ?_⟩
  · rw [feed_of_headerDone h.done]
    exact drain_of_waiting (c := c.append bytes) hwaits
  · exact ⟨h.ready.offered, h.ready.stepping, h.ready.settled⟩
  · rw [hunread, Sized.Reader.unread_append]

/-- A frame that brings a reply, in any number of reads. -/
theorem Listening.hears {cs : List Bytes} (h : c.Listening)
    (brings : Reply.Brings c reply f d)
    (spells : Spells [f] (c.reader.unread ++ cs.flatten))
    (some : ∀ x ∈ cs, x ≠ []) :
    Line.Hears Reply.isHeard c cs (d.placed c.connection .empty) := by
  induction cs generalizing c d with
  | nil =>
    -- The frame would be complete already.
    obtain ⟨payload, hsized, -⟩ := spells_one spells
    rw [List.flatten_nil, List.append_nil] at hsized
    have hnext := Sized.Reader.next_of_whole h.bounded (by decide) hsized
    rw [h.dry] at hnext
    cases hnext
  | cons x cs ih =>
    have hx : x ≠ [] := some x (List.mem_cons_self ..)
    have hcs : ∀ y ∈ cs, y ≠ [] := fun y hy =>
      some y (List.mem_cons_of_mem x hy)
    rw [List.flatten_cons] at spells
    -- the last piece completes the frame, any other leaves it open
    by_cases hmore : cs.flatten = []
    · have hnil : cs = [] := by
        cases cs with
        | nil => rfl
        | cons y cs =>
          rw [List.flatten_cons] at hmore
          exact absurd (List.append_eq_nil_iff.1 hmore).1
            (hcs y (List.mem_cons_self ..))
      subst hnil
      rw [List.flatten_nil, List.append_nil] at spells
      refine .chunk h.ready.unheard hx (h.feed_last brings spells) (.done ?_)
      simp [Reply.isHeard_eq, h.ready.of?_brings brings]
    · obtain ⟨r, hfeed, hlistening, hunread⟩ := h.feed_more spells hmore
      refine .chunk h.ready.unheard hx hfeed ?_
      have hrest : Spells [f] (r.unread ++ cs.flatten) := by
        rw [hunread, List.append_assoc]
        exact spells
      have hhears := ih hlistening (brings.placed c.connection r) hrest hcs
      rw [placed_placed] at hhears
      exact hhears

end Client

end SaslGate
