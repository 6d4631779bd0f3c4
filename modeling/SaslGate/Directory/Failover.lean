/-
Connecting to the first directory server that can be reached.
-/
import SaslGate.Error

namespace SaslGate

/-- Tries endpoints one by one, up to the first that answers. -/
def connectFirst [DirectoryService δ γ] :
    List Endpoint → Act DirectoryEvent δ ε (Option γ)
  | [] => pure none
  | e :: rest => do
    match ← (dialDirectory e).attempt with
    | .ok connection => return some connection
    | .error _ => connectFirst rest

/-- The endpoints in the order in which one attempt tries them. -/
def Endpoints.ordered [DirectoryService δ γ] (es : Endpoints)
    (order : FailoverOrder) : Act DirectoryEvent δ ε (List Endpoint) :=
  match order with
  | .sequential => pure es.list
  | .shuffled =>
    ⟨fun d =>
      let (list, d) := DirectoryService.arrange es.list d
      ⟨.ok list, d, []⟩⟩

/-- A connection to the first endpoint that can be reached. -/
def connectAny [DirectoryService δ γ] (es : Endpoints)
    (order : FailoverOrder) : Act DirectoryEvent δ AuthError γ := do
  match ← connectFirst (← es.ordered order) with
  | some connection => return connection
  | none => Act.fail (.noReachableDirectory es.size)

end SaslGate
