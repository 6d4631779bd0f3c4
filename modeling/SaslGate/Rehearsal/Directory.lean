/-
A directory that follows a script. It knows some identities with their
passwords, and it answers each kind of call the same way every time. Asked
to arrange endpoints at random, it leaves them as they are.
-/
import SaslGate.Directory.Service

namespace SaslGate.Rehearsal

/-- What a directory answers. -/
structure Directory where
  /-- The URLs of the endpoints that can be reached. -/
  reachable : List String
  /-- How endpoints fail that cannot; refusal goes without saying. -/
  failures : List (String × DirectoryError)
  /-- Names with their passwords. -/
  entries : List (String × String)
  bindError : Option DirectoryError
  anonymousError : Option DirectoryError
  closeError : Option DirectoryError
  /-- The names of the mechanisms that a bind may use. -/
  mechanisms : List String
  deriving DecidableEq, Repr

namespace Directory

def connect (e : Endpoint) (d : Directory) :
    Except DirectoryError Directory :=
  if e.url ∈ d.reachable then .ok d
  else .error ((d.failures.lookup e.url).getD (.io .connectionRefused))

/-- A failure, if there is one. -/
def failing : Option DirectoryError → Except DirectoryError Unit
  | none => .ok ()
  | some e => .error e

/-- The answer to a name with a password. -/
def check (name password : String) (d : Directory) :
    Except DirectoryError Unit :=
  match d.bindError with
  | some e => .error e
  | none =>
    if (name, password) ∈ d.entries then .ok ()
    else .error .invalidCredentials

def saslBind (r : SaslBindRequest) (d : Directory) :
    Except DirectoryError Unit :=
  if r.mechanism.name ∈ d.mechanisms then d.check r.username r.credentials
  else .error (.unsupportedMechanism r.mechanism.name)

instance : DirectoryConnection Directory where
  simpleBind dn password d := (d.check dn password, d)
  saslBind r d := (d.saslBind r, d)
  anonymousBind d := (failing d.anonymousError, d)
  close d := (failing d.closeError, d)

instance : DirectoryService Directory Directory where
  connect e d := (d.connect e, d)
  supports m d := d.mechanisms.contains m.name
  arrange es d := (es, d)
  arrange_perm es _ := .refl es

end Directory

end SaslGate.Rehearsal
