/-
What a client is asked to say, it says in one whole frame or not at all. A
request that the state of the exchange allows is queued behind all that waits
already if its frame fits, and else nothing is queued; a request that the state
does not allow leaves the client as it is (`requests_faithful`).

# How long a frame becomes

Values and lists write their lengths in one byte or in four, so the length of a
frame jumps where its parts outgrow one byte (`Value.span`, `Value.listSpan`).
It depends on the lengths of the parts alone, and a limit on frames is a limit
on these.
-/
import SaslGate.Proofs.Client.Exchange
import SaslGate.Proofs.Client.Secrecy

namespace SaslGate

-- ================================================================== lengths

namespace Value

/-- The length of a written value of `n` bytes. -/
def span (n : Nat) : Nat := if n ≤ 254 then n + 2 else n + 5

/-- The length of a written list of values that take `n` bytes. -/
def listSpan (n : Nat) : Nat := if n ≤ 254 then n + 3 else n + 9

/-- How long a value becomes is told by its length alone. -/
theorem length_writeSized (short long : UInt8) (data : Bytes) :
    (writeSized short long data).length = span data.length := by
  unfold writeSized span
  by_cases h : data.length ≤ 254
  · simp only [if_pos h, List.length_cons]
  · simp only [if_neg h, List.length_cons, List.length_append,
      length_bigEndian32]
    omega

/-- The same for a list, by the length of its fields. -/
theorem length_writeList (fields : List (Option Bytes)) :
    (writeList fields).length = listSpan (listContent fields).length := by
  rw [writeList_eq, List.length_append]
  unfold listHead listSpan
  by_cases h : (listContent fields).length ≤ 254
  · simp only [if_pos h, List.length_cons, List.length_nil]
    omega
  · simp only [if_neg h, List.length_cons, List.length_append,
      length_bigEndian32]
    omega

end Value

open Value

/-- The length of a sasl-init frame, with its size, by the lengths of the
mechanism, the first message and the host. -/
def initSpan (mechanism message : Nat) (hostname : Option Nat) : Nat :=
  11 + listSpan (span mechanism + span message + hostname.elim 0 span)

/-- The length of a sasl-response frame, with its size. -/
def responseSpan (response : Nat) : Nat := 11 + listSpan (span response)

namespace Frame

/-- The length of a frame with its size. -/
def span (f : Frame) : Nat := 8 + (Body.write f).length

/-- A frame adds eleven bytes: its size and header, and the descriptor. -/
theorem span_eq (f : Frame) :
    f.span = 11 + listSpan (listContent (Body.fieldsOf f)).length := by
  rw [span, Body.write, List.length_cons, List.length_cons, List.length_cons,
    length_writeList]
  omega

/-- The four bytes of the size are counted with the frame. -/
theorem length_of_encode {f : Frame} {bytes : Bytes}
    (h : f.encode = .ok bytes) : bytes.length + 4 = f.span := by
  unfold encode at h
  split at h
  · cases h
  · cases h
    simp only [span, List.length_cons]
    omega

/-- The length of an init by the lengths of what it says. -/
theorem span_init (mechanism : String) (message : Bytes)
    (hostname : Option String) :
    (Frame.init mechanism (some message) hostname).span
      = initSpan (Utf8.encode mechanism).length message.length
        (hostname.map fun s => (Utf8.encode s).length) := by
  have hcontent : (listContent (Body.fieldsOf
      (.init mechanism (some message) hostname))).length
        = (writeSymbol mechanism).length + (writeBinary message).length
          + ((hostname.map writeString).elim 0 List.length) := by
    -- a missing host ends the list, so no null is written for it
    cases hostname with
    | none =>
      show (writeSymbol mechanism ++ (writeBinary message ++ [])).length = _
      simp only [List.length_append, List.length_nil, Option.map_none,
        Option.elim_none]
      omega
    | some s =>
      show (writeSymbol mechanism ++ (writeBinary message
        ++ (writeString s ++ []))).length = _
      simp only [List.length_append, List.length_nil, Option.map_some,
        Option.elim_some]
      omega
  rw [span_eq, hcontent, initSpan, writeSymbol, writeBinary,
    length_writeSized, length_writeSized]
  cases hostname with
  | none => rfl
  | some s =>
    simp only [Option.map_some, Option.elim_some, writeString,
      length_writeSized]

/-- The length of a response by the length of its data. -/
theorem span_response (response : Bytes) :
    (Frame.response response).span = responseSpan response.length := by
  have hcontent : listContent (Body.fieldsOf (.response response))
      = writeBinary response := List.append_nil _
  rw [span_eq, hcontent, writeBinary, length_writeSized, responseSpan]

end Frame

-- ================================================================= requests

namespace Client

/-- A mechanism may be chosen once: when the header has been sent, and the
server has made its offer. -/
def MayChoose (c : Client) : Prop :=
  c.connection ≠ .start ∧ c.connection ≠ .ended ∧ c.mechanisms ≠ none
    ∧ c.progress = .idle

/-- Answers belong between the choice and the outcome. -/
def MayAnswer (c : Client) : Prop :=
  c.connection ≠ .start ∧ c.connection ≠ .ended ∧ c.progress = .step

/-- What comes of asking a client for a frame of a length: how it stands once
the frame is queued, apart from the queue, and how if the frame is too long. -/
structure Faithful (c : Client) (allowed : Prop) (f : Frame) (length : Nat)
    (said missed : Client) (result : Except TransportError Unit × Client) :
    Prop where
  queued : allowed → length ≤ 512 → ∃ bytes, bytes.length = length
    ∧ Spells [f] bytes
    ∧ result = (.ok (), { said with outbound := c.outbound ++ bytes })
  tooLong : allowed → 512 < length →
    result = (.error (.frame (.size .payloadTooLong)), missed)
  refused : ¬allowed → ∃ e : TransportError,
    (e = .closed ∨ ∃ reason, e = .illegalState reason)
      ∧ result = (.error e, c)

section Requests

variable {c said missed : Client} {allowed : Prop} {f : Frame} {length : Nat}
  {result : Except TransportError Unit × Client}

/-- The fault is the codec's exactly if the frame alone is in the way. -/
theorem Faithful.codec_iff
    (h : c.Faithful allowed f length said missed result) :
    (∃ cause, result.1 = .error (.frame cause)) ↔ allowed ∧ 512 < length := by
  constructor
  · intro hcodec
    obtain ⟨cause, hcause⟩ := hcodec
    by_cases hallowed : allowed
    · refine ⟨hallowed, ?_⟩
      by_contra hlong
      have hshort : length ≤ 512 := Nat.le_of_not_lt hlong
      obtain ⟨bytes, -, -, hresult⟩ := h.queued hallowed hshort
      rw [hresult] at hcause
      cases hcause
    · obtain ⟨e, he, hresult⟩ := h.refused hallowed
      rw [hresult] at hcause
      cases hcause
      simp at he
  · intro hlong
    rw [h.tooLong hlong.1 hlong.2]
    exact ⟨_, rfl⟩

/-- A frame that is short enough is queued as it is spelled. -/
theorem queue_of_short (offers : f ≠ .mechanisms []) (short : f.span ≤ 512)
    (c : Client) :
    ∃ bytes, bytes.length = f.span ∧ Spells [f] bytes
      ∧ c.queue f = (.ok (), { c with outbound := c.outbound ++ bytes }) := by
  obtain ⟨body, hbody⟩ : ∃ body, f.encode = .ok body :=
    ⟨_, Frame.encode_eq_ok offers⟩
  have hspan := Frame.length_of_encode hbody
  have hfits : body.length + 4 ≤ maxFrameSize := hspan ▸ short
  have hcounted : (Body.write f).length < 4294967296 := by
    unfold Frame.span at short
    omega
  -- what fits in 512 bytes fits in the count of a list
  have hdecode := Frame.decode_encode hbody hcounted []
  rw [List.append_nil] at hdecode
  refine ⟨_, ?_, ?_, by rw [queue, sized_of_encode hbody, if_pos hfits]⟩
  · rw [List.length_append, length_bigEndian32]
    omega
  · rw [← List.append_nil (bigEndian32 _ ++ _)]
    exact .cons (Sized.encode_eq_ok.2 ⟨hfits, rfl⟩) hdecode .nil

/-- A frame that is too long leaves nothing in the queue. -/
theorem queue_of_long (offers : f ≠ .mechanisms []) (long : 512 < f.span)
    (c : Client) :
    c.queue f = (.error (.frame (.size .payloadTooLong)), c) := by
  have hbody := Frame.encode_eq_ok offers
  have hlong : ¬([Frame.dataOffset, Frame.saslType, 0, 0]
      ++ Body.write f).length + 4 ≤ maxFrameSize := by
    rw [Frame.length_of_encode hbody]
    exact Nat.not_le_of_lt long
  rw [queue, sized_of_encode hbody, if_neg hlong]

/-- Frames may be queued between the start and the end. -/
theorem free_of_open (started : c.connection ≠ .start)
    (unended : c.connection ≠ .ended) : c.sendingBlocked = none := by
  unfold sendingBlocked
  split
  · exact absurd ‹_› unended
  · exact absurd ‹_› started
  · rfl

/-- A client that may not send says whether it is closed or has not begun. -/
theorem refusal_of_blocked {e : TransportError}
    (h : c.sendingBlocked = some e) :
    e = .closed ∨ ∃ reason, e = .illegalState reason := by
  unfold sendingBlocked at h
  split at h
  · exact .inl (Option.some.inj h).symm
  · exact .inr ⟨_, (Option.some.inj h).symm⟩
  · cases h

/-- A client that may choose a mechanism does as well as its queue does. -/
theorem sendInit_of_mayChoose {mechanism : String} {hostname : Option String}
    {message : Bytes} (h : c.MayChoose) {d : Client}
    {answer : Except TransportError Unit}
    (hqueue : c.queue (.init mechanism (some message) hostname)
      = (answer, d)) :
    c.sendInit mechanism hostname message
      = (answer, if answer.isOk then { d with progress := .step } else d) := by
  obtain ⟨hstarted, hunended, hoffered, hidle⟩ := h
  have hsome : ¬c.mechanisms.isNone = true := by
    rwa [Option.isNone_iff_eq_none]
  simp only [sendInit, free_of_open hstarted hunended]
  refine (if_neg hsome).trans ((if_neg (not_not_intro hidle)).trans ?_)
  rw [hqueue]
  cases answer <;> rfl

/-- Choosing is done in one whole frame or not at all. -/
theorem sendInit_faithful (mechanism : String) (hostname : Option String)
    (message : Bytes) (c : Client) :
    c.Faithful c.MayChoose (.init mechanism (some message) hostname)
      (initSpan (Utf8.encode mechanism).length message.length
        (hostname.map fun s => (Utf8.encode s).length))
      { c with progress := .step } c
      (c.sendInit mechanism hostname message) := by
  rw [← Frame.span_init]
  refine ⟨fun h hshort => ?_, fun h hlong => ?_, fun hdenied => ?_⟩
  · obtain ⟨bytes, hlength, hspells, hqueue⟩ :=
      queue_of_short Frame.noConfusion hshort c
    exact ⟨bytes, hlength, hspells, sendInit_of_mayChoose h hqueue⟩
  · exact sendInit_of_mayChoose h (queue_of_long Frame.noConfusion hlong c)
  · unfold sendInit
    cases hfree : c.sendingBlocked with
    | some e => exact ⟨e, refusal_of_blocked hfree, rfl⟩
    | none =>
      by_cases hnone : c.mechanisms.isNone = true
      · exact ⟨_, .inr ⟨_, rfl⟩, if_pos hnone⟩
      · by_cases hidle : c.progress = .idle
        · obtain ⟨hstarted, hunended⟩ := open_of_free hfree
          rw [Option.isNone_iff_eq_none] at hnone
          exact absurd ⟨hstarted, hunended, hnone, hidle⟩ hdenied
        · exact ⟨_, .inr ⟨_, rfl⟩, (if_neg hnone).trans (if_pos hidle)⟩

/-- Answering is done so too, but a challenge whose answer does not fit is
given up, since it is forgotten before the frame is made. -/
theorem sendResponse_faithful (response : Bytes) (c : Client) :
    c.Faithful c.MayAnswer (.response response) (responseSpan response.length)
      { c with pending := none } { c with pending := none }
      (c.sendResponse response) := by
  -- the challenge is forgotten before the frame is made
  have hgranted (h : c.MayAnswer) : c.sendResponse response
      = { c with pending := none }.queue (.response response) := by
    obtain ⟨hstarted, hunended, hstep⟩ := h
    simp only [sendResponse, free_of_open hstarted hunended]
    exact if_neg (not_not_intro hstep)
  rw [← Frame.span_response]
  refine ⟨fun h hshort => ?_, fun h hlong => ?_, fun hdenied => ?_⟩
  · rw [hgranted h]
    exact queue_of_short Frame.noConfusion hshort _
  · rw [hgranted h, queue_of_long Frame.noConfusion hlong]
  · unfold sendResponse
    cases hfree : c.sendingBlocked with
    | some e => exact ⟨e, refusal_of_blocked hfree, rfl⟩
    | none =>
      by_cases hstep : c.progress = .step
      · obtain ⟨hstarted, hunended⟩ := open_of_free hfree
        exact absurd ⟨hstarted, hunended, hstep⟩ hdenied
      · exact ⟨_, .inr ⟨_, rfl⟩, if_pos hstep⟩

end Requests

/-- A client that is asked to choose a mechanism or to answer a challenge does
so in one whole frame or not at all. If the state of the exchange allows it and
the frame has at most 512 bytes, these are queued behind everything that waits
already, they are that very frame, and the exchange moves on. If the frame is
longer, the codec's error says so, and of the client nothing has changed, but
that an answer has used up its challenge. If the state does not allow it,
nothing has changed at all, and the fault is not the codec's. -/
theorem requests_faithful (c : Client) :
    (∀ (mechanism : String) (hostname : Option String) (message : Bytes),
      let length := initSpan (Utf8.encode mechanism).length message.length
        (hostname.map fun s => (Utf8.encode s).length)
      let result := c.sendInit mechanism hostname message
      c.Faithful c.MayChoose (.init mechanism (some message) hostname) length
          { c with progress := .step } c result
        ∧ ((∃ cause, result.1 = .error (.frame cause))
          ↔ c.MayChoose ∧ 512 < length))
    ∧ ∀ response : Bytes,
      let length := responseSpan response.length
      let result := c.sendResponse response
      c.Faithful c.MayAnswer (.response response) length
          { c with pending := none } { c with pending := none } result
        ∧ ((∃ cause, result.1 = .error (.frame cause))
          ↔ c.MayAnswer ∧ 512 < length) := by
  refine ⟨fun mechanism hostname message => ?_, fun response => ?_⟩
  · have hinit := sendInit_faithful mechanism hostname message c
    exact ⟨hinit, hinit.codec_iff⟩
  · have hresponse := sendResponse_faithful response c
    exact ⟨hresponse, hresponse.codec_iff⟩

end Client

end SaslGate
