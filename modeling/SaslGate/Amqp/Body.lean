/-
The body of a frame: a described list. Its label says which performative it
is, and the list holds the fields of that performative in order. Fields at
the end of the list may be missing, and bytes after it are left alone.
-/
import SaslGate.Amqp.Label

namespace SaslGate.Body

open Value

-- ============================================================== reading

/-- The fields of a performative. -/
def fields : Performative → Nat → Reader Frame
  | .mechanisms, n => do return .mechanisms (← mandatory n symbolOrArray)
  | .init, n => do
    let mechanism ← mandatory n symbol
    let initialResponse ← optional (n - 1) binary
    let hostname ← optional (n - 2) string
    return .init mechanism initialResponse hostname
  | .challenge, n => do return .challenge (← mandatory n binary)
  | .response, n => do return .response (← mandatory n binary)
  | .outcome, n => do
    let c ← mandatory n code
    let additionalData ← optional (n - 1) binary
    return .outcome c additionalData

/-- The number of fields in the described list of a performative. -/
def listOf (p : Performative) : Reader Nat := do
  let label ← Label.descriptor
  let count ← listCount
  if label.performative? = some p then pure count else throw .malformed

/-- A whole body: what announces it, its list, the fields. -/
def frame : Reader Frame := do
  let p ← Label.announced
  fields p (← listOf p)

-- ============================================================== writing

/-- The fields of a frame, in order. -/
def fieldsOf : Frame → List (Option Bytes)
  | .mechanisms names => [some (writeSymbols names)]
  | .init mechanism initialResponse hostname =>
    [some (writeSymbol mechanism), initialResponse.map writeBinary,
      hostname.map writeString]
  | .challenge data => [some (writeBinary data)]
  | .response data => [some (writeBinary data)]
  | .outcome c additionalData =>
    [some (writeCode c), additionalData.map writeBinary]

/-- A whole body: descriptor, list, fields. -/
def write (f : Frame) : Bytes :=
  0x00 :: 0x53 :: f.performative.code :: writeList (fieldsOf f)

end SaslGate.Body
