/-
Decimal numerals in option values: an optional plus sign, then ASCII
digits only, leading zeros allowed. The first character at which the
numeral goes wrong decides the complaint, so a numeral that outgrows its
range is too large even if nonsense follows.
-/

namespace SaslGate.Text

/-- Why a text is not a numeral of the wanted range. -/
inductive NumeralError
  | empty
  | invalidDigit
  | tooLarge
  deriving DecidableEq, Repr

/-- The complaint in words. -/
def NumeralError.message : NumeralError → String
  | .empty => "cannot parse integer from empty string"
  | .invalidDigit => "invalid digit found in string"
  | .tooLarge => "number too large to fit in target type"

/-- The value of an ASCII digit. -/
def digit? (c : Char) : Option Nat :=
  if '0' ≤ c ∧ c ≤ '9' then some (c.toNat - '0'.toNat) else none

/-- Reads digits on from the value read so far, up to `max`. -/
def numeralFrom (max : Nat) : Nat → List Char → Except NumeralError Nat
  | value, [] => .ok value
  | value, c :: cs =>
    match digit? c with
    | none => .error .invalidDigit
    | some d =>
      if value * 10 + d ≤ max then numeralFrom max (value * 10 + d) cs
      else .error .tooLarge

/-- The number that a numeral of at most `max` spells. -/
def numeral (max : Nat) (cs : List Char) : Except NumeralError Nat :=
  match cs with
  | [] => .error .empty
  | ['+'] => .error .invalidDigit
  | '+' :: digits => numeralFrom max 0 digits
  | digits => numeralFrom max 0 digits

end SaslGate.Text
