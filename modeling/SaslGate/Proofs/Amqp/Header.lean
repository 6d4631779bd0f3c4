/-
Protocol headers, written and read. Reading takes eight bytes or none: what
was written is read back in front of anything, what was read is what stood
there, and eight bytes that are no header are handed on in the error and used
up all the same. The client adds one demand, that the header be its own, and
tells the eight bytes of any other in the same way.
-/
import SaslGate.Client
import SaslGate.Text.Utf8

namespace SaslGate

/-- A protocol is known by its number. -/
theorem ProtocolId.ofCode?_code (id : ProtocolId) :
    ofCode? id.code = some id := by
  cases id <;> rfl

namespace Header

variable {buffer front : Bytes}

-- ============================================================= eight bytes

/-- Bytes that begin with the letters of a header and go on with the byte of a
protocol. -/
structure Announces (bytes : Bytes) : Prop where
  letters : Utf8.encode "AMQP" <+: bytes
  protocol : bytes[4]? = some 0 ∨ bytes[4]? = some 2 ∨ bytes[4]? = some 3

/-- A header is read back from its eight bytes. -/
theorem ofBytes?_encode (h : Header) : ofBytes? h.encode = some h := by
  show (if magic = magic then _ else none) = some h
  rw [if_pos rfl, ProtocolId.ofCode?_code]
  rfl

/-- The bytes of a header announce it. -/
theorem announces_encode (h : Header) : Announces h.encode := by
  refine ⟨⟨[h.id.code, h.major, h.minor, h.revision], rfl⟩, ?_⟩
  show some h.id.code = some 0 ∨ some h.id.code = some 2
    ∨ some h.id.code = some 3
  cases h.id with
  | amqp => exact .inl rfl
  | tls => exact .inr (.inl rfl)
  | sasl => exact .inr (.inr rfl)

/-- Eight bytes that announce a protocol are written for some header. -/
theorem exists_of_announces (length : front.length = size)
    (h : Announces front) : ∃ header : Header, header.encode = front := by
  obtain ⟨letters, hprotocol⟩ := h
  obtain ⟨rest, rfl⟩ := letters
  have hlength : rest.length = 4 := by
    have hletters : (Utf8.encode "AMQP").length = 4 := rfl
    rw [List.length_append, hletters] at length
    exact Nat.add_left_cancel length
  -- four letters are known, and four bytes are left of eight
  obtain ⟨id, major, minor, revision, rfl⟩ :
      ∃ id major minor revision, rest = [id, major, minor, revision] := by
    match rest, hlength with
    | [id, major, minor, revision], _ =>
      exact ⟨id, major, minor, revision, rfl⟩
  rcases hprotocol with hid | hid | hid
  · cases hid
    exact ⟨⟨.amqp, major, minor, revision⟩, rfl⟩
  · cases hid
    exact ⟨⟨.tls, major, minor, revision⟩, rfl⟩
  · cases hid
    exact ⟨⟨.sasl, major, minor, revision⟩, rfl⟩

/-- Exactly the headers announce a protocol, each its own. -/
theorem ofBytes?_eq_none_iff (length : front.length = size) :
    ofBytes? front = none ↔ ¬ Announces front := by
  constructor
  · intro hnone hfront
    obtain ⟨h, rfl⟩ := exists_of_announces length hfront
    rw [ofBytes?_encode] at hnone
    cases hnone
  · intro hfront
    cases hb : ofBytes? front with
    | none => rfl
    | some h =>
      rw [eq_encode_of_ofBytes? hb] at hfront
      exact absurd (announces_encode h) hfront

-- ================================================================= buffers

/-- Too few bytes are left where they are. -/
theorem scan_of_short (h : buffer.length < size) :
    scan buffer = (.incomplete, buffer) := if_pos h

/-- Enough bytes are taken off, whatever they say. -/
theorem scan_of_long (h : size ≤ buffer.length) :
    scan buffer
      = (match ofBytes? (buffer.take size) with
          | some h => .header h
          | none => .mismatch (buffer.take size), buffer.drop size) := by
  rw [scan, if_neg (Nat.not_lt.2 h)]
  cases ofBytes? (buffer.take size) <;> rfl

/-- Eight bytes that are no header are taken off too, and handed on. -/
theorem scan_of_mismatch (h : size ≤ buffer.length)
    (hb : ofBytes? (buffer.take size) = none) :
    scan buffer = (.mismatch (buffer.take size), buffer.drop size) := by
  rw [scan_of_long h, hb]

/-- A header is read off the front, whatever follows it. -/
theorem scan_append (h : size ≤ buffer.length) (more : Bytes) :
    scan (buffer ++ more) = ((scan buffer).1, (scan buffer).2 ++ more) := by
  have hlong : size ≤ (buffer ++ more).length := by
    rw [List.length_append]
    exact Nat.le_add_right_of_le h
  rw [scan_of_long hlong, scan_of_long h, List.take_append_of_le_length h,
    List.drop_append_of_le_length h]

/-- What was written is read back, whatever follows it. -/
theorem scan_encode_append (h : Header) (rest : Bytes) :
    scan (h.encode ++ rest) = (.header h, rest) := by
  have hlong : size ≤ (h.encode ++ rest).length := by
    rw [List.length_append]
    exact Nat.le_add_right size rest.length
  have htake : (h.encode ++ rest).take size = h.encode := List.take_left' rfl
  have hdrop : (h.encode ++ rest).drop size = rest := List.drop_left' rfl
  rw [scan_of_long hlong, htake, hdrop, ofBytes?_encode]

-- ============================================================== the client

/-- A client that finds eight bytes other than its own header tells them, even
if they are a header, and uses them up. -/
theorem receiveHeader_of_other {c : Client}
    (long : size ≤ c.reader.buffer.length)
    (other : c.reader.buffer.take size ≠ Header.sasl.encode) :
    c.receiveHeader = (.error (.headerMismatch (c.reader.buffer.take size)),
      { c with reader :=
        { c.reader with buffer := c.reader.buffer.drop size } }) := by
  rw [Client.receiveHeader, scan_of_long long]
  cases hb : ofBytes? (c.reader.buffer.take size) with
  | none => rfl
  | some h =>
    have hbytes := eq_encode_of_ofBytes? hb
    -- one header only is supported, and these bytes are not it
    have hunsupported : h.isSupported = false := by
      rw [isSupported, decide_eq_false_iff_not]
      rintro rfl
      exact other hbytes
    rw [hbytes]
    simp only [hunsupported]
    rfl

/-- A header that was written is read back in front of any bytes, which are
left. Fewer than eight bytes are left alone. Of more bytes the first eight are
taken: if they begin with `AMQP` and the byte of a protocol, they are what is
written for the header that is read, and if not, they are handed on as they
are. A client that waits for the header fails with them then, and with any
other header than its own. -/
theorem scan_exact :
    (∀ (h : Header) (rest : Bytes),
      scan (h.encode ++ rest) = (.header h, rest))
    ∧ (∀ buffer : Bytes, buffer.length < 8 →
      scan buffer = (.incomplete, buffer))
    ∧ (∀ buffer : Bytes, 8 ≤ buffer.length →
      (Announces (buffer.take 8) → ∃ h : Header,
        h.encode = buffer.take 8 ∧ scan buffer = (.header h, buffer.drop 8))
      ∧ (¬ Announces (buffer.take 8) →
        scan buffer = (.mismatch (buffer.take 8), buffer.drop 8)))
    ∧ ∀ c : Client, 8 ≤ c.reader.buffer.length →
      c.reader.buffer.take 8 ≠ Header.sasl.encode →
      c.receiveHeader = (.error (.headerMismatch (c.reader.buffer.take 8)),
        { c with reader :=
          { c.reader with buffer := c.reader.buffer.drop 8 } }) := by
  refine ⟨scan_encode_append, fun buffer => scan_of_short,
    fun buffer hlong => ⟨fun hfront => ?_, fun hfront => ?_⟩,
    fun c => receiveHeader_of_other⟩
  · have hlength : (buffer.take 8).length = size :=
      List.length_take_of_le hlong
    obtain ⟨h, hencode⟩ := exists_of_announces hlength hfront
    refine ⟨h, hencode, ?_⟩
    have hscan := scan_encode_append h (buffer.drop 8)
    rwa [hencode, List.take_append_drop] at hscan
  · have hlength : (buffer.take 8).length = size :=
      List.length_take_of_le hlong
    exact scan_of_mismatch hlong ((ofBytes?_eq_none_iff hlength).2 hfront)

end Header

namespace Rehearsal

/-- What a web server says is used up like a header, seven bytes of one are
kept, and a client that is offered a header without authentication tells it
and keeps what is behind. -/
theorem scan_exact_rehearsal :
    let unsecured : Header := ⟨.amqp, 1, 0, 0⟩
    let c : Client := { Client.fresh with
      reader := ⟨none, unsecured.encode ++ [0]⟩ }
    Header.scan (Utf8.encode "HTTP/1.1 400")
      = (.mismatch (Utf8.encode "HTTP/1.1"), Utf8.encode " 400")
    ∧ Header.scan (Header.sasl.encode.take 7)
      = (.incomplete, Header.sasl.encode.take 7)
    ∧ Header.scan c.reader.buffer = (.header unsecured, [0])
    ∧ c.receiveHeader = (.error (.headerMismatch unsecured.encode),
      { c with reader := ⟨none, [0]⟩ }) := by
  intro unsecured c
  obtain ⟨hwritten, hshort, hlong, hclient⟩ := Header.scan_exact
  refine ⟨?_, hshort _ (by decide), hwritten unsecured [0], ?_⟩
  · exact (hlong _ (by decide)).2 fun h => absurd h.letters (by decide)
  · exact hclient c (by decide) (by decide)

end Rehearsal

end SaslGate
