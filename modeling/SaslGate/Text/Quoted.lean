/-
Text as diagnostics show it: between double quotes, with everything that
a reader could not see, or that would end the quotation, escaped. The same
rule gives lists of texts, lists of bytes and optional texts their forms.
-/
import SaslGate.Bytes
import SaslGate.Text.Hidden

namespace SaslGate.Text

-- ==================================================== single characters

/-- The escape that names a character by its code point, in lower-case
hexadecimal without leading zeros. -/
def codePointEscape (c : Char) : List Char :=
  '\\' :: 'u' :: '\x7b' :: Nat.toDigits 16 c.toNat ++ ['\x7d']

/-- How one character stands in quoted text. -/
def quotedChar (c : Char) : List Char :=
  if c = '"' then ['\\', '"']
  else if c = '\\' then ['\\', '\\']
  else if c = '\n' then ['\\', 'n']
  else if c = '\r' then ['\\', 'r']
  else if c = '\t' then ['\\', 't']
  else if c = '\x00' then ['\\', '0']
  else if c.toNat < 0x20 || c.toNat = 0x7f || isHidden c then
    codePointEscape c
  else [c]

-- ======================================================== whole values

/-- A text in quotes. -/
def quoted (s : String) : String :=
  String.ofList ('"' :: s.toList.flatMap quotedChar ++ ['"'])

/-- Items between brackets, separated by a comma and a blank. -/
def bracketed (items : List String) : String :=
  "[" ++ ", ".intercalate items ++ "]"

/-- A list of texts, each in quotes. -/
def quotedList (items : List String) : String := bracketed (items.map quoted)

/-- A byte string as a list of decimal numbers. -/
def byteList (bytes : Bytes) : String :=
  bracketed (bytes.map fun b => toString b.toNat)

/-- An optional value, given the form of the value itself. -/
def optional (form : α → String) : Option α → String
  | none => "None"
  | some a => "Some(" ++ form a ++ ")"

/-- A byte in two hexadecimal digits after `0x`. -/
def hexByte (b : UInt8) : String :=
  let digits := Nat.toDigits 16 b.toNat
  "0x" ++ String.ofList (if digits.length < 2 then '0' :: digits else digits)

end SaslGate.Text
