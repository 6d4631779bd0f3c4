/-
How an exchange ends, and who the client is then.
-/
import SaslGate.Error

namespace SaslGate

/-- How an exchange ended. -/
inductive Outcome
  | success
  | failure
  deriving DecidableEq, Repr

def Outcome.label : Outcome → String
  | .success => "Success"
  | .failure => "Failure"

/-- The outcome that a result amounts to. -/
def Outcome.of : Except ε α → Outcome
  | .ok _ => .success
  | .error _ => .failure

/-- The identity of a successful exchange. -/
def authorized (outcome : Option Outcome) (id : Option String) :
    Except AuthError String :=
  match outcome, id with
  | some .success, some id => .ok id
  | _, _ => .error .notYetComplete

end SaslGate
