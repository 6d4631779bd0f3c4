/-
SASL frames without their size: four header bytes (data offset, frame
type, two that are ignored), then the body. Bytes after the body are
ignored. An offer of no mechanism at all has no written form.
-/
import SaslGate.Amqp.Body

namespace SaslGate.Frame

/-- The data offset of a frame without extended header, in words. -/
def dataOffset : UInt8 := 2

/-- The frame type of the SASL layer. -/
def saslType : UInt8 := 1

/-- The frame that the bytes begin with. -/
def decode (bytes : Bytes) : Except FrameError Frame :=
  match bytes with
  | offset :: type :: _ :: _ :: body =>
    if type ≠ saslType then .error (.unexpectedFrameType type)
    else if offset ≠ dataOffset then .error (.unsupportedDataOffset offset)
    else
      match Body.frame body with
      | .ok (f, _) => .ok f
      | .error e => .error (.body e)
  | short => .error (.truncated short.length)

/-- The bytes of a frame. -/
def encode (f : Frame) : Except FrameError Bytes :=
  match f with
  | .mechanisms [] => .error (.body .malformed)
  | f => .ok (dataOffset :: saslType :: 0 :: 0 :: Body.write f)

end SaslGate.Frame
