/-
Values inside a frame body. Each value begins with a constructor byte that
tells its type and how its length is written. Readers take a value off the
front of the bytes and leave the rest; writers give the bytes of a value.

Reading tells two faults apart: bytes that end too soon, and a constructor
that is not one of those the wanted type allows.
-/
import SaslGate.Amqp.Error
import SaslGate.Text.Utf8

namespace SaslGate.Value

/-- A reader of values from the front of the bytes. -/
abbrev Reader (α : Type) := StateT Bytes (Except BodyError) α

-- ============================================================== reading

/-- What a reader gives, with the bytes left where they are. -/
def ahead (value : Reader α) : Reader α := fun bytes =>
  (value bytes).map fun (a, _) => (a, bytes)

/-- The next `n` bytes. -/
def take (n : Nat) : Reader Bytes := fun bytes =>
  if bytes.length < n then .error .cutOff
  else .ok (bytes.take n, bytes.drop n)

/-- The next byte. -/
def byte : Reader UInt8 := fun bytes =>
  match bytes with
  | [] => .error .cutOff
  | b :: rest => .ok (b, rest)

/-- A number in `n` bytes. -/
def number (n : Nat) : Reader Nat := bigEndian <$> take n

/-- Bytes behind a length in `n` bytes. -/
def counted (n : Nat) : Reader Bytes := do take (← number n)

/-- Bytes as text. -/
def text (bytes : Bytes) : Reader String :=
  match Utf8.decode? bytes with
  | some s => pure s
  | none => throw .malformed

/-- A value of variable length, with the constructors of its two forms. -/
def sized (short long : UInt8) : Reader Bytes := do
  let c ← byte
  if c = short then counted 1
  else if c = long then counted 4
  else throw .malformed

/-- A binary value. -/
def binary : Reader Bytes := sized 0xa0 0xb0

/-- A string. -/
def string : Reader String := do text (← sized 0xa1 0xb1)

/-- A symbol. -/
def symbol : Reader String := do text (← sized 0xa3 0xb3)

/-- A result code. -/
def code : Reader SaslCode := do
  if (← byte) = 0x50 then
    match SaslCode.ofByte? (← byte) with
    | some c => pure c
    | none => throw .malformed
  else throw .malformed

/-- `n` symbols without constructors, their lengths in `width` bytes. -/
def symbols (width : Nat) : Nat → Reader (List String)
  | 0 => pure []
  | n + 1 => do
    let s ← text (← counted width)
    return s :: (← symbols width n)

/-- The elements of an array of symbols behind its size, which is not
checked, and its count. -/
def symbolArray (width : Nat) : Reader (List String) := do
  let _size ← number width
  let count ← number width
  if count = 0 then throw .malformed
  let c ← byte
  if c = 0xa3 then symbols 1 count
  else if c = 0xb3 then symbols 4 count
  else throw .malformed

/-- One symbol, or an array of at least one. -/
def symbolOrArray : Reader (List String) := do
  let c ← byte
  if c = 0xa3 then return [← text (← counted 1)]
  else if c = 0xb3 then return [← text (← counted 4)]
  else if c = 0xe0 then symbolArray 1
  else if c = 0xf0 then symbolArray 4
  else throw .malformed

/-- A value, or the constructor that stands for no value. -/
def nullable (value : Reader α) : Reader (Option α) := fun bytes =>
  match bytes with
  | 0x40 :: rest => .ok (none, rest)
  | _ => (some <$> value) bytes

/-- The next field of a list with `left` fields to come. A list also ends
where the bytes do. -/
def field (left : Nat) (value : Reader α) : Reader (Option α) := fun bytes =>
  if left = 0 ∨ bytes = [] then .ok (none, bytes) else (some <$> value) bytes

/-- A field that has to be there. -/
def mandatory (left : Nat) (value : Reader α) : Reader α := do
  match ← field left value with
  | some a => pure a
  | none => throw .malformed

/-- A field that may be missing or null. -/
def optional (left : Nat) (value : Reader α) : Reader (Option α) := do
  return (← field left (nullable value)).join

/-- The number of fields of the list that begins here. Its size is not
checked. -/
def listCount : Reader Nat := do
  let c ← byte
  if c = 0x45 then pure 0
  else if c = 0xc0 then do let _size ← number 1; number 1
  else if c = 0xd0 then do let _size ← number 4; number 4
  else throw .malformed

-- ============================================================== writing

/-- A value of variable length: its length takes one byte up to 254. -/
def writeSized (short long : UInt8) (data : Bytes) : Bytes :=
  if data.length ≤ 254 then short :: UInt8.ofNat data.length :: data
  else long :: (bigEndian32 data.length ++ data)

/-- A binary value. -/
def writeBinary (data : Bytes) : Bytes := writeSized 0xa0 0xb0 data

/-- A string. -/
def writeString (s : String) : Bytes := writeSized 0xa1 0xb1 (Utf8.encode s)

/-- A symbol. -/
def writeSymbol (s : String) : Bytes := writeSized 0xa3 0xb3 (Utf8.encode s)

/-- A result code. -/
def writeCode (c : SaslCode) : Bytes := [0x50, c.toByte]

/-- An array of symbols. Its elements always have four-byte lengths. -/
def writeSymbols (names : List String) : Bytes :=
  let elements : Bytes := names.flatMap fun s =>
    let data := Utf8.encode s
    bigEndian32 data.length ++ data
  let content : Bytes := 0xb3 :: elements
  if content.length ≤ 254 then
    0xe0 :: UInt8.ofNat (content.length + 1)
      :: UInt8.ofNat names.length :: content
  else
    0xf0 :: (bigEndian32 (content.length + 4)
      ++ bigEndian32 names.length ++ content)

/-- The fields of a list without the missing ones at its end. -/
def withoutTail : List (Option Bytes) → List (Option Bytes)
  | [] => []
  | f :: rest =>
    match f, withoutTail rest with
    | none, [] => []
    | f, rest => f :: rest

/-- A list. A missing field that others follow is written as null. -/
def writeList (fields : List (Option Bytes)) : Bytes :=
  let present := withoutTail fields
  let content : Bytes := present.flatMap fun f => f.getD [0x40]
  if content.length ≤ 254 then
    0xc0 :: UInt8.ofNat (content.length + 1)
      :: UInt8.ofNat present.length :: content
  else
    0xd0 :: (bigEndian32 (content.length + 4)
      ++ bigEndian32 present.length ++ content)

end SaslGate.Value
