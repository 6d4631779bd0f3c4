/-
The one message of the PLAIN mechanism (RFC 4616): authorization id, user
name and password, with a NUL between them. Nobody may act as somebody
else, so the authorization id is empty or repeats the user name.
-/
import SaslGate.Error
import SaslGate.Text.Cut
import SaslGate.Text.Utf8

namespace SaslGate

/-- The registered name of the mechanism. -/
def plainName : String := "PLAIN"

/-- What a PLAIN message carries. -/
structure PlainCredentials where
  /-- As sent: empty, or the user name again. -/
  authorizationId : String
  username : String
  password : String
  deriving DecidableEq, Repr

namespace PlainCredentials

/-- Checks the three fields. Of several faults the first in this order is
reported: no user name, another identity, no password. -/
def check (authorizationId username password : String) :
    Except AuthError PlainCredentials :=
  if username = "" then .error .emptyIdentity
  else if authorizationId ≠ "" ∧ authorizationId ≠ username then
    .error .impersonationNotSupported
  else if password = "" then .error .emptySecret
  else .ok ⟨authorizationId, username, password⟩

/-- The credentials in a client's message. -/
def parse (message : Bytes) : Except AuthError PlainCredentials :=
  match Utf8.decode? message with
  | none => .error (.malformedRequest "PLAIN request is not valid UTF-8")
  | some text =>
    match Text.pieces '\x00' text.toList with
    | [authorizationId, username, password] =>
      check (String.ofList authorizationId) (String.ofList username)
        (String.ofList password)
    | _ =>
      .error (.malformedRequest
        "Invalid SASL/PLAIN response: expected 3 tokens")

/-- The credentials in diagnostics, the password withheld. -/
def summary (c : PlainCredentials) : String :=
  "PlainCredentials \x7b authorization_id: " ++ Text.quoted c.authorizationId
    ++ ", username: " ++ Text.quoted c.username
    ++ ", password: " ++ Text.quoted "<redacted>" ++ " \x7d"

end PlainCredentials

end SaslGate
