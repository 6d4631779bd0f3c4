/-
Bytes as text: two hexadecimal digits each, in lower case.
-/
import SaslGate.Bytes

namespace SaslGate.Text

/-- The digit of a number below 16. -/
def hexDigit (n : Nat) : Char :=
  if n < 10 then Char.ofNat (0x30 + n) else Char.ofNat (0x57 + n)

/-- The number of a digit. -/
def hexValue? (c : Char) : Option Nat :=
  if '0' ≤ c ∧ c ≤ '9' then some (c.toNat - 0x30)
  else if 'a' ≤ c ∧ c ≤ 'f' then some (c.toNat - 0x57)
  else none

/-- The digits of a byte string. -/
def hexDigits : Bytes → List Char
  | [] => []
  | b :: rest =>
    hexDigit (b.toNat / 16) :: hexDigit (b.toNat % 16) :: hexDigits rest

/-- The byte string of digits. -/
def ofHexDigits? : List Char → Option Bytes
  | [] => some []
  | [_] => none
  | high :: low :: rest => do
    let a ← hexValue? high
    let b ← hexValue? low
    return UInt8.ofNat (a * 16 + b) :: (← ofHexDigits? rest)

/-- A byte string in text. -/
def hex (bytes : Bytes) : String := String.ofList (hexDigits bytes)

/-- The byte string in a text, if it is one. -/
def ofHex? (text : String) : Option Bytes := ofHexDigits? text.toList

end SaslGate.Text
