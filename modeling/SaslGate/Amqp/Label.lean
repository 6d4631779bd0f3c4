/-
Labels of performatives, and where a body carries them. The list of a body
is described: a label stands in front of it as its descriptor. A body may
say its label once more, as a plain number or text before the list, and all
of this may stand in a list or map. However it is announced, the list has
its own descriptor, and the two have to name one performative.
-/
import SaslGate.Amqp.Value

namespace SaslGate

/-- What names a performative: its number or its symbol. -/
inductive Label
  | number (n : Nat)
  | symbol (s : String)
  deriving DecidableEq, Repr

namespace Label

open Value

/-- The performative that a label names. -/
def performative? : Label → Option Performative
  | number n => Performative.ofCode? n
  | symbol s => Performative.ofSymbol? s

/-- The performative that a label names, which has to be one. -/
def performative : Label → Except BodyError Performative
  | number n =>
    match Performative.ofCode? n with
    | some p => .ok p
    | none => .error .unknownCode
  | symbol s =>
    match Performative.ofSymbol? s with
    | some p => .ok p
    | none => .error .unknownSymbol

-- =========================================================== descriptors

/-- A label behind the constructor of a long number or of a symbol. -/
def ofConstructor (c : UInt8) : Reader Label :=
  if c = 0x44 then pure (.number 0)
  else if c = 0x53 then .number <$> Value.number 1
  else if c = 0x80 then .number <$> Value.number 8
  else if c = 0xa3 then do return .symbol (← text (← counted 1))
  else if c = 0xb3 then do return .symbol (← text (← counted 4))
  else throw .malformed

/-- The descriptor in front of a described value. -/
def descriptor : Reader Label := do
  if (← byte) = 0x00 then ofConstructor (← byte) else throw .malformed

-- ========================================================= announcements

/-- The constructors a plain label may have: of numbers and of text. -/
def plainConstructors : List UInt8 :=
  [0x43, 0x44, 0x52, 0x53, 0x70, 0x80, 0xa1, 0xa3, 0xb1, 0xb3]

/-- The constructors of all other values: of null, truth values, the other
numbers, characters, times and identifiers, binaries, lists, maps and
arrays. -/
def otherConstructors : List UInt8 :=
  [0x40, 0x41, 0x42, 0x45, 0x50, 0x51, 0x54, 0x55, 0x56, 0x60, 0x61, 0x71,
    0x72, 0x73, 0x74, 0x81, 0x82, 0x83, 0x84, 0x94, 0x98, 0xa0, 0xb0, 0xc0,
    0xc1, 0xd0, 0xd1, 0xe0, 0xf0]

/-- A plain label behind its constructor. Where a descriptor has a long
number or a symbol, it may also have a short number or a string. -/
def plain (c : UInt8) : Reader Label :=
  if c = 0x43 then pure (.number 0)
  else if c = 0x52 then .number <$> Value.number 1
  else if c = 0x70 then .number <$> Value.number 4
  else if c = 0xa1 then do return .symbol (← text (← counted 1))
  else if c = 0xb1 then do return .symbol (← text (← counted 4))
  else ofConstructor c

/-- The header of a list or map around the body, if there is one. Neither
its size nor its count is checked. -/
def wrapping : Reader Unit := fun bytes =>
  match bytes with
  | 0xc0 :: _ | 0xc1 :: _ => (discard (take 3)) bytes
  | 0xd0 :: _ | 0xd1 :: _ => (discard (take 9)) bytes
  | _ => .ok ((), bytes)

/-- The label that a body begins with. A descriptor stays where it is, since
it belongs to the list; a plain label is taken off. Any other value counts
as a label by the number of its constructor, and stays too. -/
def first : Reader Label := fun bytes =>
  match bytes with
  | [] => .error .cutOff
  | c :: rest =>
    if c = 0x00 then ahead descriptor bytes
    else if c ∈ plainConstructors then plain c rest
    else if c ∈ otherConstructors then .ok (.number c.toNat, bytes)
    else .error .malformed

/-- The performative that a body announces. -/
def announced : Reader Performative := do
  wrapping
  (← first).performative

end Label

end SaslGate
