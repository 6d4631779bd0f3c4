/-
What of a client's first message can be told from outside. The frame that
carries it is the same bytes around it for every message of a length
(`Body.write_init`), so messages of one length make frames of one length, and
are refused alike if they are too long.

A client looks at what waits to be sent only to send it. Two clients that differ
in nothing else (`Client.Twin`) take the same steps with everything they are
asked and everything they hear, and stay so.
-/
import SaslGate.Proofs.Amqp.RoundTrip
import SaslGate.Proofs.Client.Segments
import SaslGate.Proofs.Tandem

namespace SaslGate

/-- Bytes of one length. -/
def SameLength (a b : Bytes) : Prop := a.length = b.length

/-- Of two byte strings of one length, both are empty or none. -/
theorem SameLength.eq_nil_iff {a b : Bytes} (h : SameLength a b) :
    a = [] ↔ b = [] := by
  unfold SameLength at h
  rw [← List.length_eq_zero_iff, ← List.length_eq_zero_iff, h]

-- ==================================================== the first message

namespace Value

/-- What is written in front of the bytes of a value of variable length. -/
def sizedHead (short long : UInt8) (length : Nat) : Bytes :=
  if length ≤ 254 then [short, UInt8.ofNat length]
  else long :: bigEndian32 length

/-- What stands in front of data depends on its length only. -/
theorem writeSized_eq (short long : UInt8) (data : Bytes) :
    writeSized short long data = sizedHead short long data.length ++ data := by
  unfold writeSized sizedHead
  split <;> rfl

/-- So does the head of a list, on the lengths of its fields. -/
theorem listHead_congr {fields fields' : List (Option Bytes)}
    (size : (listContent fields).length = (listContent fields').length)
    (count : (withoutTail fields).length = (withoutTail fields').length) :
    listHead fields = listHead fields' := by
  unfold listHead
  rw [size, count]

end Value

namespace Body

open Value

/-- What a sasl-init frame holds in front of a first message of a length. -/
def initFront (mechanism hostname : String) (length : Nat) : Bytes :=
  let sample := List.replicate length (0 : UInt8)
  [0x00, 0x53, 0x41]
    ++ listHead (fieldsOf (.init mechanism (some sample) (some hostname)))
    ++ (writeSymbol mechanism ++ sizedHead 0xa0 0xb0 length)

/-- A first message stands in its frame as it is, and only its length shows in
the bytes around it. -/
theorem write_init (mechanism hostname : String) (message : Bytes) :
    write (.init mechanism (some message) (some hostname))
      = initFront mechanism hostname message.length ++ message
        ++ writeString hostname := by
  have hcontent (data : Bytes) :
      listContent (fieldsOf (.init mechanism (some data) (some hostname)))
        = writeSymbol mechanism ++ sizedHead 0xa0 0xb0 data.length ++ data
          ++ writeString hostname := by
    show writeSymbol mechanism ++ (writeBinary data
      ++ (writeString hostname ++ [])) = _
    rw [writeBinary, writeSized_eq, List.append_nil]
    simp only [List.append_assoc]
  have hhead : listHead (fieldsOf (.init mechanism (some message)
        (some hostname)))
      = listHead (fieldsOf (.init mechanism
          (some (List.replicate message.length 0)) (some hostname))) := by
    apply listHead_congr
    · rw [hcontent, hcontent]
      simp only [List.length_append, List.length_replicate]
    · rfl
  rw [write_eq, hcontent, hhead]
  show [0x00, 0x53, 0x41] ++ _ ++ _ = _
  simp only [initFront, List.append_assoc]

end Body

/-- A first message stands in its frame as it is. -/
def Frame.Holds (mechanism hostname : String) (front message back : Bytes) :
    Prop :=
  (Frame.init mechanism (some message) (some hostname)).encode
    = .ok (front ++ message ++ back)

/-- All messages of a length have the same bytes around them. -/
theorem Frame.exists_holds (mechanism hostname : String) (length : Nat) :
    ∃ front back, ∀ message : Bytes, message.length = length →
      Frame.Holds mechanism hostname front message back := by
  refine ⟨[dataOffset, saslType, 0, 0] ++ Body.initFront mechanism hostname
    length, Value.writeString hostname, ?_⟩
  intro message hlength
  rw [Holds, encode_eq_ok Frame.noConfusion, Body.write_init, hlength]
  simp only [List.append_assoc]

namespace Client

variable {message message' : Bytes}

/-- A frame behind its size, if it is not too long. -/
theorem sized_of_encode {f : Frame} {body : Bytes} (h : f.encode = .ok body) :
    sized f =
      if body.length + 4 ≤ maxFrameSize then
        .ok (bigEndian32 (body.length + 4) ++ body)
      else .error (.frame (.size .payloadTooLong)) := by
  unfold sized
  rw [h]
  by_cases hfits : body.length + 4 ≤ maxFrameSize
  · simp only [Sized.encode, if_pos hfits]
  · simp only [Sized.encode, if_neg hfits]

theorem alike_sameLength (r : Except ε Bytes) : Alike SameLength r r := by
  cases r with
  | ok bytes => exact .ok rfl
  | error e => exact .error e

/-- First messages of one length make frames of one length, or none. -/
theorem alike_sized_init (mechanism hostname : String)
    (same : SameLength message message') :
    Alike SameLength
      (sized (.init mechanism (some message) (some hostname)))
      (sized (.init mechanism (some message') (some hostname))) := by
  obtain ⟨front, back, hholds⟩ :=
    Frame.exists_holds mechanism hostname message.length
  have hlength : (front ++ message ++ back).length
      = (front ++ message' ++ back).length := by
    unfold SameLength at same
    simp only [List.length_append, same]
  rw [sized_of_encode (hholds message rfl),
    sized_of_encode (hholds message' same.symm), hlength]
  split
  · refine .ok ?_
    unfold SameLength
    rw [List.length_append, hlength, ← List.length_append]
  · exact .error _

-- ================================================================ clients

/-- The client with other bytes that wait to be sent. -/
def requeued (queue : Bytes) (c : Client) : Client :=
  { c with outbound := queue }

/-- Clients that differ in nothing but the bytes that wait to be sent, and not
in their number. -/
def Twin (c c' : Client) : Prop :=
  ∃ queue, SameLength c.outbound queue ∧ c' = c.requeued queue

theorem twin_refl (c : Client) : Twin c c := ⟨c.outbound, rfl, rfl⟩

section Sending

variable {c c' : Client} {waiting : Bytes}

/-- As much is sent of either queue. -/
theorem Twin.consume (h : Twin c c') (n : Nat) :
    Twin (c.consume n) (c'.consume n) := by
  obtain ⟨waiting, hsame, rfl⟩ := h
  refine ⟨waiting.drop n, ?_, rfl⟩
  unfold SameLength at hsame
  simp only [SameLength, Client.consume, List.length_drop, hsame]

/-- What is queued behind as many bytes makes as many again. -/
theorem sameLength_append {bytes bytes' : Bytes}
    (front : SameLength c.outbound waiting) (more : SameLength bytes bytes') :
    SameLength (c.outbound ++ bytes) (waiting ++ bytes') := by
  unfold SameLength at *
  rw [List.length_append, List.length_append, front, more]

/-- Closing drops what waits to be sent, so nothing is left to differ. -/
theorem Twin.close (h : Twin c c') : Twin c.close c'.close := by
  obtain ⟨waiting, hsame, rfl⟩ := h
  by_cases hended : c.connection = .ended
  · refine ⟨waiting, ?_, ?_⟩
    · rwa [Client.close, if_pos hended]
    · simp [Client.close, requeued, hended]
  · refine ⟨[], ?_, ?_⟩
    · simp [Client.close, hended, SameLength]
    · simp [Client.close, requeued, hended]

/-- The header is queued in the same states, behind either queue. -/
theorem agreeing_sendHeader : Agreeing Twin sendHeader sendHeader := by
  intro c c' h
  obtain ⟨waiting, hsame, rfl⟩ := h
  obtain ⟨connection, outbound, reader, mechanisms, progress, pending,
    outcome⟩ := c
  cases connection with
  | start | headerReceived => exact ⟨rfl, _, sameLength_append hsame rfl, rfl⟩
  | headerSent | headerExchange | ended => exact ⟨rfl, _, hsame, rfl⟩

/-- Frames of one length keep twins twins. -/
theorem agreeing_queue {f f' : Frame}
    (same : Alike SameLength (sized f) (sized f')) :
    Agreeing Twin (queue f) (queue f') := by
  intro c c' h
  obtain ⟨waiting, hsame, rfl⟩ := h
  unfold queue
  generalize sized f = answer at same
  generalize sized f' = answer' at same
  cases same with
  | ok hbytes => exact ⟨rfl, _, sameLength_append hsame hbytes, rfl⟩
  | error e => exact ⟨rfl, _, hsame, rfl⟩

/-- Whether the frame may be sent does not hang on what waits to be sent, and
what is sent is of one length. -/
theorem agreeing_sendInit (mechanism hostname : String)
    (same : SameLength message message') :
    Agreeing Twin (sendInit mechanism (some hostname) message)
      (sendInit mechanism (some hostname) message') := by
  intro c c' h
  have hqueue := agreeing_queue (alike_sized_init mechanism hostname same)
    c c' h
  obtain ⟨waiting, hsame, rfl⟩ := h
  have hblocked : (c.requeued waiting).sendingBlocked = c.sendingBlocked := rfl
  have hmechanisms : (c.requeued waiting).mechanisms = c.mechanisms := rfl
  have hprogress : (c.requeued waiting).progress = c.progress := rfl
  simp only [sendInit, hblocked, hmechanisms, hprogress]
  cases c.sendingBlocked with
  | some e => exact ⟨rfl, _, hsame, rfl⟩
  | none =>
    by_cases hoffer : c.mechanisms.isNone = true
    · simp only [if_pos hoffer]
      exact ⟨trivial, _, hsame, rfl⟩
    by_cases hidle : c.progress ≠ .idle
    · simp only [if_neg hoffer, if_pos hidle]
      exact ⟨trivial, _, hsame, rfl⟩
    simp only [if_neg hoffer, if_neg hidle]
    rcases hq : c.queue (.init mechanism (some message) (some hostname))
      with ⟨answer, d⟩
    rcases hq' : (c.requeued waiting).queue
      (.init mechanism (some message') (some hostname)) with ⟨answer', d'⟩
    rw [hq, hq'] at hqueue
    obtain ⟨hanswer, queue, hlength, hd⟩ := hqueue
    cases hanswer
    cases hd
    cases answer with
    | ok done => exact ⟨rfl, queue, hlength, rfl⟩
    | error e => exact ⟨rfl, queue, hlength, rfl⟩

/-- A response is no secret, and whether it may be sent is none. -/
theorem agreeing_sendResponse (response : Bytes) :
    Agreeing Twin (sendResponse response) (sendResponse response) := by
  intro c c' h
  obtain ⟨waiting, hsame, rfl⟩ := h
  have hblocked : (c.requeued waiting).sendingBlocked = c.sendingBlocked := rfl
  have hprogress : (c.requeued waiting).progress = c.progress := rfl
  simp only [sendResponse, hblocked, hprogress]
  cases c.sendingBlocked with
  | some e => exact ⟨rfl, _, hsame, rfl⟩
  | none =>
    by_cases hstep : c.progress ≠ .step
    · simp only [if_pos hstep]
      exact ⟨trivial, _, hsame, rfl⟩
    simp only [if_neg hstep]
    have hframe : Alike SameLength (sized (.response response))
        (sized (.response response)) := alike_sameLength _
    exact agreeing_queue hframe { c with pending := none } _
      ⟨waiting, hsame, rfl⟩

end Sending

-- ---------------------------------------------------------------- hearing

section Hearing

variable {r : Sized.Reader} {payload : Bytes}

/-- Taking note of a frame does not look at the queue. -/
theorem accept_requeued (f : Frame) (queue : Bytes) (c : Client) :
    (c.requeued queue).accept f = (c.accept f).map (requeued queue) := by
  have hname : (c.requeued queue).stateName = c.stateName := rfl
  have hawaits : (c.requeued queue).awaitsServer = c.awaitsServer := rfl
  have hmechanisms : (c.requeued queue).mechanisms = c.mechanisms := rfl
  cases f <;> simp only [accept, hname, hawaits, hmechanisms] <;>
    (try split) <;> rfl

/-- Nor does decoding it. -/
theorem receive_requeued (payload queue : Bytes) (c : Client) :
    (c.requeued queue).receive payload
      = (c.receive payload).map (requeued queue) := by
  unfold receive
  cases Frame.decode payload with
  | error e => rfl
  | ok f => exact accept_requeued f queue c

/-- Frames are worked off without a look at what waits to be sent. -/
theorem drain_requeued (queue : Bytes) (c : Client) :
    (c.requeued queue).drain = (c.drain.1, c.drain.2.requeued queue) := by
  fun_induction drain c with
  | case1 c e r hn => exact drain_of_badSize (c := c.requeued queue) hn
  | case2 c r hn => exact drain_of_waiting (c := c.requeued queue) hn
  | case3 c payload r hn e hr =>
    have hrec := receive_requeued payload queue { c with reader := r }
    rw [hr] at hrec
    exact drain_of_refused (c := c.requeued queue) hn hrec
  | case4 c payload r hn c' hr ih =>
    have hrec := receive_requeued payload queue { c with reader := r }
    rw [hr] at hrec
    rw [drain_of_received (c := c.requeued queue) hn hrec]
    exact ih

/-- Nor does the server's header. -/
theorem receiveHeader_requeued (queue : Bytes) (c : Client) :
    (c.requeued queue).receiveHeader
      = (c.receiveHeader.1, c.receiveHeader.2.requeued queue) := by
  have hreader : (c.requeued queue).reader = c.reader := rfl
  simp only [receiveHeader, hreader]
  rcases Header.scan c.reader.buffer with ⟨found, rest⟩
  cases found with
  | incomplete | mismatch bytes => rfl
  | header h =>
    by_cases hsupported : h.isSupported = true
    · simp only [if_pos hsupported]
      rfl
    · simp only [if_neg hsupported]
      rfl

/-- So what is heard is heard alike, whatever waits to be sent. -/
theorem feed_requeued (bytes queue : Bytes) (c : Client) :
    (c.requeued queue).feed bytes
      = ((c.feed bytes).1, (c.feed bytes).2.requeued queue) := by
  by_cases hended : c.connection = .ended
  · have hended' : (c.requeued queue).connection = .ended := hended
    rw [feed, if_pos hended', feed, if_pos hended]
  cases hdone : c.headerDone with
  | true =>
    have hdone' : (c.requeued queue).headerDone = true := hdone
    rw [feed_of_headerDone hdone, feed_of_headerDone hdone']
    exact drain_requeued queue (c.append bytes)
  | false =>
    have hdone' : (c.requeued queue).headerDone = false := hdone
    rw [feed_of_not_headerDone hended hdone,
      feed_of_not_headerDone (c := c.requeued queue) hended hdone']
    have hheader := receiveHeader_requeued queue (c.append bytes)
    rcases hrec : (c.append bytes).receiveHeader with ⟨answer, d⟩
    rw [hrec] at hheader
    rw [show (c.requeued queue).append bytes = (c.append bytes).requeued queue
      from rfl, hheader]
    cases answer with
    | error e => rfl
    | ok more =>
      cases more with
      | false => rfl
      | true => exact drain_requeued queue d

/-- Twins that hear the same stay twins. -/
theorem agreeing_feed (bytes : Bytes) :
    Agreeing Twin (Client.feed bytes) (Client.feed bytes) := by
  intro c c' h
  obtain ⟨queue, hsame, rfl⟩ := h
  rw [feed_requeued]
  have hkept : (c.feed bytes).2.outbound = c.outbound :=
    congrArg (fun fed => fed.2.outbound) (feed_requeued bytes c.outbound c)
  refine ⟨rfl, queue, ?_, rfl⟩
  rw [hkept]
  exact hsame

end Hearing

end Client

end SaslGate
