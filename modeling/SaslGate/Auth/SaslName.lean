/-
User names inside a SCRAM message: a comma is written `=2C` and an equals
sign `=3D`, and an equals sign has no other use. Reading a name that uses
one otherwise fails at that sign, counted in bytes from the start.
-/

namespace SaslGate.SaslName

/-- How a user name is written. -/
def escape : List Char → List Char
  | [] => []
  | c :: rest =>
    if c = ',' then '=' :: '2' :: 'C' :: escape rest
    else if c = '=' then '=' :: '3' :: 'D' :: escape rest
    else c :: escape rest

/-- The user name that is written, or the offset of the first equals sign
that is no escape; `offset` bytes come before. -/
def decodeFrom (offset : Nat) : List Char → Except Nat (List Char)
  | [] => .ok []
  | '=' :: '2' :: 'C' :: rest => (decodeFrom (offset + 3) rest).map (',' :: ·)
  | '=' :: '3' :: 'D' :: rest => (decodeFrom (offset + 3) rest).map ('=' :: ·)
  | c :: rest =>
    if c = '=' then .error offset
    else (decodeFrom (offset + c.utf8Size) rest).map (c :: ·)

/-- The user name that is written. -/
def decode (name : List Char) : Except Nat (List Char) := decodeFrom 0 name

end SaslGate.SaslName
