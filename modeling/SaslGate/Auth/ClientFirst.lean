/-
The first message of a SCRAM client (RFC 5802):

    flag "," [ "a=" saslname ] "," "n=" saslname "," "r=" nonce *( "," ext )

It is checked from left to right; last of all, an authorization id has to
name the same user as the user name does.
-/
import SaslGate.Auth.SaslName
import SaslGate.Error
import SaslGate.Text.Cut
import SaslGate.Text.Utf8

namespace SaslGate

/-- What a client-first message says. -/
structure ClientFirst where
  /-- Whether the client would support channel binding: `n` or `y`. -/
  flag : String
  /-- The decoded authorization id, unless it is empty. -/
  authorizationId : Option String
  /-- The user name as written. -/
  saslName : String
  username : String
  nonce : String
  extensions : List String
  deriving DecidableEq, Repr

namespace ClientFirst

/-- A complaint about the message. -/
def malformed (reason : String) : Except AuthError α :=
  .error (.malformedRequest reason)

/-- Checks the channel binding flag. Binding itself is not supported. -/
def checkFlag (flag : List Char) : Except AuthError Unit :=
  if flag = ['n'] ∨ flag = ['y'] then .ok ()
  else if ['p', '='].isPrefixOf flag then
    malformed "SCRAM channel binding is not supported"
  else malformed "Invalid SCRAM channel binding flag"

/-- A decoded user name. -/
def decodeName (name : List Char) : Except AuthError String :=
  match SaslName.decode name with
  | .ok cs => .ok (String.ofList cs)
  | .error offset =>
    malformed ("Invalid escape in SCRAM saslname at offset "
      ++ toString offset)

/-- The authorization id, which may be missing. -/
def readAuthorizationId (field : List Char) :
    Except AuthError (Option String) :=
  if field.isEmpty then .ok none
  else
    match Text.after? ['a', '='] field with
    | none => malformed "Invalid SCRAM authorization id"
    | some name => do
      let id ← decodeName name
      return if id = "" then none else some id

/-- The user name as written and decoded. -/
def readUsername (field : List Char) : Except AuthError (String × String) :=
  if ['m', '='].isPrefixOf field then
    malformed "SCRAM mandatory extensions are not supported"
  else
    match Text.after? ['n', '='] field with
    | none => malformed "SCRAM client-first message has no username"
    | some name =>
      if name.isEmpty then .error .emptyIdentity
      else do return (String.ofList name, ← decodeName name)

/-- Characters of a nonce: printable ASCII but the blank. -/
def isNonceChar (c : Char) : Bool := 0x21 ≤ c.toNat && c.toNat ≤ 0x7e

/-- The nonce. -/
def readNonce (field : List Char) : Except AuthError String :=
  match Text.after? ['r', '='] field with
  | some nonce =>
    if !nonce.isEmpty && nonce.all isNonceChar then .ok (String.ofList nonce)
    else malformed "SCRAM client-first message has no valid nonce"
  | none => malformed "SCRAM client-first message has no valid nonce"

/-- The fields behind the header. -/
def readFields (flag : List Char) (authorizationId : Option String)
    (fields : List (List Char)) : Except AuthError ClientFirst := do
  let (saslName, username) ← readUsername (fields.headD [])
  let nonce ← readNonce ((fields.drop 1).headD [])
  if authorizationId.any (· ≠ username) then
    .error .impersonationNotSupported
  return {
    flag := String.ofList flag
    authorizationId
    saslName
    username
    nonce
    extensions := (fields.drop 2).map String.ofList }

/-- The client-first message in the bytes of a client. -/
def parse (message : Bytes) : Except AuthError ClientFirst :=
  match Utf8.decode? message with
  | none => malformed "SCRAM client-first message is not valid UTF-8"
  | some text =>
    match Text.cutAt ',' text.toList with
    | none => malformed "SCRAM client-first message has no GS2 header"
    | some (flag, rest) => do
      checkFlag flag
      match Text.cutAt ',' rest with
      | none => malformed "SCRAM client-first message has no GS2 header"
      | some (field, bare) => do
        let authorizationId ← readAuthorizationId field
        readFields flag authorizationId (Text.pieces ',' bare)

end ClientFirst

end SaslGate
