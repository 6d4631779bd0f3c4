/-
IPv6 addresses as hosts of URLs. An address is eight groups of 16 bits. It
may be written with one `::` for one or more groups of zeros, and with the
last two groups as a dotted IPv4 address. It is printed in one way only:
lower-case hexadecimal, and `::` for the first longest run of at least two
zero groups.
-/
import SaslGate.Text.Cut
import SaslGate.Text.Numeral

namespace SaslGate.Ipv6

/-- The value of a hexadecimal digit. -/
def hexDigit? (c : Char) : Option Nat :=
  if '0' ≤ c ∧ c ≤ '9' then some (c.toNat - '0'.toNat)
  else if 'a' ≤ c ∧ c ≤ 'f' then some (c.toNat - 'a'.toNat + 10)
  else if 'A' ≤ c ∧ c ≤ 'F' then some (c.toNat - 'A'.toNat + 10)
  else none

-- ============================================================== reading

/-- The number that digits spell, to a given base. -/
def number? (base : Nat) (digit : Char → Option Nat) (cs : List Char) :
    Option Nat :=
  cs.foldlM (fun n c => (digit c).map (n * base + ·)) 0

/-- A group: one to four hexadecimal digits. -/
def group? (cs : List Char) : Option Nat :=
  if cs.isEmpty ∨ 4 < cs.length then none else number? 16 hexDigit? cs

/-- A number of a dotted address: at most 255, without leading zeros. -/
def octet? (cs : List Char) : Option Nat :=
  if cs.isEmpty ∨ (1 < cs.length ∧ cs.head? = some '0') then none
  else (number? 10 Text.digit? cs).filter (· ≤ 255)

/-- The two groups of a dotted IPv4 address. -/
def dotted? (cs : List Char) : Option (List Nat) :=
  match (Text.pieces '.' cs).mapM octet? with
  | some [a, b, c, d] => some [a * 256 + b, c * 256 + d]
  | _ => none

/-- Groups between colons, of which the last may be a dotted address. -/
def groups? : List (List Char) → Option (List Nat)
  | [] => some []
  | [last] => (group? last).map (fun g => [g]) <|> dotted? last
  | piece :: rest => do
    let g ← group? piece
    let gs ← groups? rest
    return g :: gs

/-- The text before the first `::` and after it, if there is one. -/
def cutAtGap : List Char → Option (List Char × List Char)
  | ':' :: ':' :: rest => some ([], rest)
  | c :: rest => (cutAtGap rest).map fun (head, tail) => (c :: head, tail)
  | [] => none

/-- The groups on one side of a `::`, which may be none. -/
def side? (read : List (List Char) → Option (List Nat)) (cs : List Char) :
    Option (List Nat) :=
  if cs.isEmpty then some [] else read (Text.pieces ':' cs)

/-- The eight groups of an address. -/
def parse? (cs : List Char) : Option (List Nat) :=
  match cutAtGap cs with
  | none => (groups? (Text.pieces ':' cs)).filter (·.length = 8)
  | some (head, tail) => do
    let before ← side? (List.mapM group?) head
    let behind ← side? groups? tail
    let given := before.length + behind.length
    if given ≤ 7 then
      some (before ++ List.replicate (8 - given) 0 ++ behind)
    else none

-- ============================================================= printing

/-- How many groups of zeros stand at the front. -/
def zeros (gs : List Nat) : Nat := (gs.takeWhile (· = 0)).length

/-- Where the first longest run of zero groups begins, and its length. -/
def longestZeros : List Nat → Nat × Nat
  | [] => (0, 0)
  | g :: gs =>
    let (start, length) := longestZeros gs
    if length ≤ zeros (g :: gs) then (0, zeros (g :: gs))
    else (start + 1, length)

/-- Groups between colons. -/
def printGroups (gs : List Nat) : List Char :=
  List.intercalate [':'] (gs.map (Nat.toDigits 16))

/-- The text of an address. -/
def print (gs : List Nat) : List Char :=
  let (start, length) := longestZeros gs
  if length < 2 then printGroups gs
  else
    printGroups (gs.take start) ++ [':', ':']
      ++ printGroups (gs.drop (start + length))

end SaslGate.Ipv6
