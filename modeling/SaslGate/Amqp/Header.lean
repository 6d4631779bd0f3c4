/-
The protocol header: eight bytes that each peer sends before any frame,
`AMQP`, a protocol id and three version numbers. A header is read from the
front of a buffer; fewer than eight bytes are left alone until the rest
arrives, and eight bytes that are no header are used up all the same.
-/
import SaslGate.Bytes

namespace SaslGate

/-- The protocol that a header announces. -/
inductive ProtocolId
  | amqp
  | tls
  | sasl
  deriving DecidableEq, Repr

namespace ProtocolId

/-- The name of a protocol. -/
def name : ProtocolId → String
  | amqp => "Amqp"
  | tls => "Tls"
  | sasl => "Sasl"

/-- The byte that stands for a protocol. -/
def code : ProtocolId → UInt8
  | amqp => 0
  | tls => 2
  | sasl => 3

/-- The protocol that a byte stands for. -/
def ofCode? (b : UInt8) : Option ProtocolId :=
  if b = 0 then some amqp
  else if b = 2 then some tls
  else if b = 3 then some sasl
  else none

/-- A protocol that was known by a byte has that byte. -/
theorem code_of_ofCode? {b : UInt8} {id : ProtocolId}
    (h : ofCode? b = some id) : id.code = b := by
  unfold ofCode? at h
  split at h
  · cases h
    exact Eq.symm ‹_›
  · split at h
    · cases h
      exact Eq.symm ‹_›
    · split at h
      · cases h
        exact Eq.symm ‹_›
      · cases h

end ProtocolId

/-- A protocol header. -/
structure Header where
  id : ProtocolId
  major : UInt8
  minor : UInt8
  revision : UInt8
  deriving DecidableEq, Repr

namespace Header

/-- The four bytes `AMQP` that begin every header. -/
def magic : Bytes := [0x41, 0x4d, 0x51, 0x50]

/-- Length of a header in bytes. -/
def size : Nat := 8

/-- The header of the SASL layer of AMQP 1.0.0. -/
def sasl : Header := ⟨.sasl, 1, 0, 0⟩

/-- Whether this is the one header the SASL client speaks. -/
def isSupported (h : Header) : Bool := h = sasl

/-- The eight bytes of a header. -/
def encode (h : Header) : Bytes :=
  magic ++ [h.id.code, h.major, h.minor, h.revision]

/-- The header that exactly these bytes spell. -/
def ofBytes? : Bytes → Option Header
  | [a, m, q, p, id, major, minor, revision] =>
    if [a, m, q, p] = magic then
      (ProtocolId.ofCode? id).map fun id => ⟨id, major, minor, revision⟩
    else none
  | _ => none

/-- A header spells the bytes it was read from. -/
theorem eq_encode_of_ofBytes? {bytes : Bytes} {h : Header}
    (hb : ofBytes? bytes = some h) : bytes = h.encode := by
  unfold ofBytes? at hb
  split at hb
  · split at hb
    · rename_i hmagic
      obtain ⟨id, hid, rfl⟩ := Option.map_eq_some_iff.1 hb
      rw [encode, ← hmagic, ProtocolId.code_of_ofCode? hid]
      rfl
    · cases hb
  · cases hb

/-- What stands at the front of a buffer. -/
inductive Scan
  /-- Fewer than eight bytes. -/
  | incomplete
  | header (h : Header)
  /-- Eight bytes that are no header. -/
  | mismatch (bytes : Bytes)
  deriving DecidableEq, Repr

/-- Reads a header off the front of a buffer, and what is left of it. -/
def scan (buffer : Bytes) : Scan × Bytes :=
  if buffer.length < size then (.incomplete, buffer)
  else
    match ofBytes? (buffer.take size) with
    | some h => (.header h, buffer.drop size)
    | none => (.mismatch (buffer.take size), buffer.drop size)

/-- A header that is found is taken off the front. -/
theorem eq_append_of_scan {buffer rest : Bytes} {h : Header}
    (hs : scan buffer = (.header h, rest)) : buffer = h.encode ++ rest := by
  unfold scan at hs
  split at hs
  · cases hs
  · split at hs
    · rename_i hb
      cases hs
      rw [← eq_encode_of_ofBytes? hb, List.take_append_drop]
    · cases hs

end Header

end SaslGate
