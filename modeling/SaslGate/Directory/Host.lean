/-
Hosts of URLs. The host of a scheme that is not a web scheme is opaque: it
keeps its case, IPv4 addresses are not told from names, and what is not
printable ASCII is percent-encoded. An IPv6 address in brackets is printed
in its one form. Hosts of web schemes are only checked, never used: a URL
with such a scheme has to be well formed before its scheme is complained
about. Names beyond ASCII are taken as they are in that check.
-/
import SaslGate.Directory.Ipv6
import SaslGate.Text.Utf8

namespace SaslGate

/-- Why a text is not a URL. -/
inductive UrlError
  | relativeWithoutBase
  | emptyHost
  | invalidPortNumber
  | invalidIpv4Address
  | invalidIpv6Address
  | invalidDomainCharacter
  | invalidDomainName
  deriving DecidableEq, Repr

def UrlError.message : UrlError → String
  | .relativeWithoutBase => "relative URL without a base"
  | .emptyHost => "empty host"
  | .invalidPortNumber => "invalid port number"
  | .invalidIpv4Address => "invalid IPv4 address"
  | .invalidIpv6Address => "invalid IPv6 address"
  | .invalidDomainCharacter => "invalid domain character"
  | .invalidDomainName => "invalid international domain name"

namespace Host

-- ========================================================= opaque hosts

/-- Characters that no host may contain. -/
def isForbidden (c : Char) : Bool :=
  c ∈ ['\x00', '\t', '\n', '\r', ' ', '#', '/', ':', '<', '>', '?', '@', '[',
    '\\', ']', '^', '|']

/-- A hexadecimal digit in upper case. -/
def upperHex (n : Nat) : Char := (Nat.digitChar n).toUpper

/-- A byte as `%` and two digits. -/
def percentEncodeByte (b : UInt8) : List Char :=
  ['%', upperHex (b.toNat / 16), upperHex (b.toNat % 16)]

/-- A character, percent-encoded unless it is printable ASCII. -/
def percentEncode (c : Char) : List Char :=
  if 0x20 ≤ c.toNat ∧ c.toNat ≤ 0x7e then [c]
  else (Utf8.encode (String.singleton c)).flatMap percentEncodeByte

/-- The address between brackets, in its one form. -/
def bracketed (cs : List Char) : Except UrlError (List Char) :=
  match cs.getLast? with
  | some ']' =>
    match Ipv6.parse? cs.dropLast with
    | some gs => .ok ('[' :: Ipv6.print gs ++ [']'])
    | none => .error .invalidIpv6Address
  | _ => .error .invalidIpv6Address

/-- An opaque host. -/
def parseOpaque (cs : List Char) : Except UrlError (List Char) :=
  match cs with
  | '[' :: rest => bracketed rest
  | cs =>
    if cs.any isForbidden then .error .invalidDomainCharacter
    else .ok (cs.flatMap percentEncode)

-- ================================================= hosts of web schemes

/-- Undoes percent-encoding. -/
def percentDecode : Bytes → Bytes
  | 0x25 :: a :: b :: rest =>
    match Ipv6.hexDigit? (Char.ofNat a.toNat),
      Ipv6.hexDigit? (Char.ofNat b.toNat) with
    | some x, some y => UInt8.ofNat (x * 16 + y) :: percentDecode rest
    | _, _ => 0x25 :: percentDecode (a :: b :: rest)
  | c :: rest => c :: percentDecode rest
  | [] => []
termination_by bytes => bytes.length

/-- Bytes that stand in no domain name. -/
def isForbiddenInDomain (b : UInt8) : Bool :=
  b < 0x20 || b = 0x7f || b = 0x25 || isForbidden (Char.ofNat b.toNat)

/-- A number of an IPv4 address in decimal, octal or hexadecimal. -/
def ipv4Number? (cs : List Char) : Option Nat :=
  match cs with
  | [] => none
  | '0' :: 'x' :: rest | '0' :: 'X' :: rest =>
    Ipv6.number? 16 Ipv6.hexDigit? rest
  | '0' :: c :: rest =>
    Ipv6.number? 8 (fun d => (Text.digit? d).filter (· < 8)) (c :: rest)
  | cs => Ipv6.number? 10 Text.digit? cs

/-- The parts between the dots, without an empty one at the end. -/
def labels (cs : List Char) : List (List Char) :=
  let parts := Text.pieces '.' cs
  if parts.getLast? = some [] ∧ 1 < parts.length then parts.dropLast
  else parts

/-- Whether a domain is meant as an IPv4 address. -/
def endsInNumber (cs : List Char) : Bool :=
  match (labels cs).getLast? with
  | none | some [] => false
  | some last => last.all Char.isDigit || (ipv4Number? last).isSome

/-- Whether a domain is an IPv4 address of at most four numbers, the last
of which fills the bytes that the others leave. -/
def isIpv4 (cs : List Char) : Bool :=
  match ((labels cs).mapM ipv4Number?).map List.reverse with
  | some (last :: others) =>
    others.length ≤ 3 && last < Nat.pow 256 (4 - others.length)
      && others.all (· ≤ 255)
  | _ => false

/-- Checks the host of a web scheme. -/
def checkWeb (cs : List Char) : Except UrlError Unit :=
  match cs with
  | '[' :: rest => (bracketed rest).map fun _ => ()
  | cs =>
    let bytes := percentDecode (Utf8.encode (String.ofList cs))
    let domain := bytes.map fun b => Char.ofNat b.toNat
    if bytes.any isForbiddenInDomain then .error .invalidDomainName
    else if domain.isEmpty then .error .emptyHost
    else if endsInNumber domain && !isIpv4 domain then
      .error .invalidIpv4Address
    else .ok ()

end Host

end SaslGate
