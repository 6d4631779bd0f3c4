/-
The SASL mechanisms that a directory bind may use, and what is sent with
one. The request shows everything but the password.
-/
import SaslGate.Text.Quoted

namespace SaslGate

/-- A SASL mechanism of a directory bind. -/
inductive BindMechanism
  | cramMd5
  /-- Also carries a realm. -/
  | digestMd5
  deriving DecidableEq, Repr

namespace BindMechanism

/-- The registered name of a mechanism. -/
def name : BindMechanism → String
  | cramMd5 => "CRAM-MD5"
  | digestMd5 => "DIGEST-MD5"

/-- The label of a mechanism in diagnostics. -/
def label : BindMechanism → String
  | cramMd5 => "CramMd5"
  | digestMd5 => "DigestMd5"

/-- The mechanism of a name in any case; ASCII letters only have two. -/
def ofName (text : String) : Except String BindMechanism :=
  let upper := String.ofList (text.toList.map Char.toUpper)
  if upper = "CRAM-MD5" then .ok cramMd5
  else if upper = "DIGEST-MD5" then .ok digestMd5
  else .error ("unsupported SASL bind mechanism " ++ Text.quoted upper)

end BindMechanism

/-- The parameters of a SASL bind. -/
structure SaslBindRequest where
  mechanism : BindMechanism
  username : String
  authorizationId : String
  credentials : String
  realm : Option String
  deriving DecidableEq, Repr

/-- A request in diagnostics, its credentials withheld. -/
def SaslBindRequest.summary (r : SaslBindRequest) : String :=
  "SaslBindRequest \x7b mechanism: " ++ r.mechanism.label
    ++ ", username: " ++ Text.quoted r.username
    ++ ", authorization_id: " ++ Text.quoted r.authorizationId
    ++ ", credentials: " ++ Text.quoted "<redacted>"
    ++ ", realm: " ++ Text.optional Text.quoted r.realm ++ " \x7d"

end SaslGate
