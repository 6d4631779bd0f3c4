/-
Checking a password by binding to a directory. A simple bind is always
followed by an anonymous one, so that the connection never stays bound as
the user. A refused password is an answer, every other failure an error;
if both binds fail, the first is the one reported.
-/
import SaslGate.Directory.Dn
import SaslGate.Directory.Service

namespace SaslGate

/-- How a password is checked. -/
inductive BindStrategy
  | simple (template : DnTemplate)
  | sasl (mechanism : BindMechanism) (realm : Option String)
  deriving DecidableEq, Repr

/-- A connection with a way to check passwords on it, until it is closed. -/
structure Binder (γ : Type) where
  strategy : BindStrategy
  connection : Option γ

namespace Binder

variable {γ : Type}

/-- An action of a binder. -/
abbrev Binding (γ α : Type) := Act DirectoryEvent (Binder γ) DirectoryError α

/-- A call on the connection, which has to be open. -/
def call (event : Except DirectoryError α → DirectoryEvent)
    (f : γ → Except DirectoryError α × γ) : Binding γ α :=
  ⟨fun b =>
    match b.connection with
    | none => ⟨.error .closed, b, []⟩
    | some c =>
      ⟨(f c).1, { b with connection := some (f c).2 }, [event (f c).1]⟩⟩

/-- Whether the directory took the credentials. -/
def accepted : Except DirectoryError Unit → Except DirectoryError Bool
  | .ok () => .ok true
  | .error .invalidCredentials => .ok false
  | .error e => .error e

/-- The request for a user, with the realm only where it belongs. -/
def request (mechanism : BindMechanism) (realm : Option String)
    (username password : String) : SaslBindRequest where
  mechanism
  username
  authorizationId := username
  credentials := password
  realm := if mechanism = .digestMd5 then realm else none

/-- Whether the directory takes a user's password. -/
def bind [DirectoryConnection γ] (username password : String) :
    Binding γ Bool := do
  match (← Act.state).strategy with
  | .simple template => do
    if (← Act.state).connection.isNone then Act.fail .closed
    let dn := template.format username
    let result ← (call (.simpleBind dn password)
      (DirectoryConnection.simpleBind dn password)).attempt
    let reset ← (call .anonymousBind
      DirectoryConnection.anonymousBind).attempt
    let taken ← Act.ofExcept (accepted result)
    Act.ofExcept reset
    return taken
  | .sasl mechanism realm => do
    if (← Act.state).connection.isNone then Act.fail .closed
    let r := request mechanism realm username password
    let result ← (call (.saslBind r) (DirectoryConnection.saslBind r)).attempt
    Act.ofExcept (accepted result)

/-- Closes the connection. Later calls do nothing. -/
def dispose [DirectoryConnection γ] : Binding γ Unit :=
  ⟨fun b =>
    match b.connection with
    | none => ⟨.ok (), b, []⟩
    | some c =>
      let answer := (DirectoryConnection.close c).1
      ⟨answer, { b with connection := none }, [.close answer]⟩⟩

end Binder

end SaslGate
