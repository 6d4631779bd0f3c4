/-
Length-delimited payloads: four bytes of size, which count themselves, and
then the payload. The reader remembers between calls whether it has passed
a size field, because a payload may arrive in any number of parts. A size
that is refused stays in the buffer, so the reader is stuck there for good.
-/
import SaslGate.IoKind
import SaslGate.Bytes

namespace SaslGate

/-- Why a size is refused. -/
inductive SizeError
  /-- The size field exceeds the maximum. -/
  | aboveMaximum
  /-- The size field does not even count itself. -/
  | belowMinimum
  /-- The payload to be written does not fit in the maximum. -/
  | payloadTooLong
  deriving DecidableEq, Repr

/-- The kind of failure a refused size counts as. -/
def SizeError.kind : SizeError → IoKind
  | .aboveMaximum => .invalidData
  | .belowMinimum => .invalidInput
  | .payloadTooLong => .invalidInput

namespace Sized

/-- A payload behind its size, if both fit in `max` bytes. -/
def encode (max : Nat) (payload : Bytes) : Except SizeError Bytes :=
  if payload.length + 4 ≤ max then
    .ok (bigEndian32 (payload.length + 4) ++ payload)
  else .error .payloadTooLong

/-- A reader between two calls: the bytes not yet used up, and the length
of the payload it waits for once the size field is used up. -/
structure Reader where
  awaiting : Option Nat
  buffer : Bytes
  deriving DecidableEq, Repr

namespace Reader

/-- A reader that has seen nothing. -/
def empty : Reader := ⟨none, []⟩

/-- Bytes that arrive. -/
def append (r : Reader) (bytes : Bytes) : Reader :=
  { r with buffer := r.buffer ++ bytes }

/-- The payload of `n` bytes once it is complete. -/
def payload (n : Nat) (buffer : Bytes) : Option Bytes × Reader :=
  if buffer.length < n then (none, ⟨some n, buffer⟩)
  else (some (buffer.take n), ⟨none, buffer.drop n⟩)

/-- The next payload, if it is complete. -/
def next (max : Nat) (r : Reader) :
    Except SizeError (Option Bytes) × Reader :=
  match r.awaiting with
  | some n => let (p, r') := payload n r.buffer; (.ok p, r')
  | none =>
    if r.buffer.length < 4 then (.ok none, r)
    else
      let size := bigEndian (r.buffer.take 4)
      if max < size then (.error .aboveMaximum, r)
      else if size < 4 then (.error .belowMinimum, r)
      else let (p, r') := payload (size - 4) (r.buffer.drop 4); (.ok p, r')

/-- What a reader has still to work off. Each payload it yields lowers it. -/
def weight (r : Reader) : Nat :=
  r.buffer.length + if r.awaiting.isSome then 1 else 0

/-- A payload leaves no more than the bytes it was taken from. -/
theorem weight_payload_lt {n : Nat} {buffer p : Bytes} {r : Reader}
    (h : payload n buffer = (some p, r)) : r.weight ≤ buffer.length := by
  unfold payload at h
  split at h
  · cases h
  · cases h
    simp [weight]

/-- A payload costs its reader at least a size field or the memory of one. -/
theorem weight_next_lt {max : Nat} {r r' : Reader} {p : Bytes}
    (h : r.next max = (.ok (some p), r')) : r'.weight < r.weight := by
  unfold next at h
  cases hw : r.awaiting with
  | some n =>
    simp only [hw] at h
    have hp : payload n r.buffer = (some p, r') := by
      cases hq : payload n r.buffer with
      | mk a b => simp_all
    -- the size field is given up for the memory of it, which weighs less
    have := weight_payload_lt hp
    simp only [weight, hw, Option.isSome_some, if_true] at *
    omega
  | none =>
    simp only [hw] at h
    split at h
    · cases h
    · split at h
      · cases h
      · split at h
        · cases h
        · rename_i hlen _ _
          have hp : payload (bigEndian (r.buffer.take 4) - 4)
              (r.buffer.drop 4) = (some p, r') := by
            cases hq : payload (bigEndian (r.buffer.take 4) - 4)
              (r.buffer.drop 4) with
            | mk a b => simp_all
          have := weight_payload_lt hp
          simp only [List.length_drop] at this
          simp only [weight, hw] at *
          omega

/-- Every payload that is complete, in order, and the error that stops the
reader if one does. -/
def drain (max : Nat) (r : Reader) : List Bytes × Option SizeError × Reader :=
  match _h : r.next max with
  | (.ok (some p), r') =>
    let (ps, e, r'') := drain max r'
    (p :: ps, e, r'')
  | (.ok none, r') => ([], none, r')
  | (.error e, r') => ([], some e, r')
termination_by r.weight
decreasing_by exact weight_next_lt _h

end Reader

end Sized

end SaslGate
