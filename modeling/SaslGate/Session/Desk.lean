/-
A session at work. It holds at most one connection at a time, and whoever
opened that connection outlives the session. Letting go of a connection and
closing it are one step, so a session can close none twice and forget none.
-/
import SaslGate.Link

namespace SaslGate

/-- A session at work, and who opens connections for it. -/
structure Desk (κ ς : Type) where
  opener : κ
  session : ς

/-- An action of a session. -/
abbrev Working (κ ς α : Type) := Act Event (Desk κ ς) AuthError α

/-- Where a session keeps the connection it holds, if it holds one. -/
structure Slot (ς ρ : Type) where
  get : ς → Option ρ
  put : Option ρ → ς → ς

namespace Desk

variable {κ ς ρ : Type}

/-- An action of the opener. -/
def ofOpener (x : Act Event κ AuthError α) : Working κ ς α :=
  x.focus Desk.opener fun opener d => { d with opener }

/-- The session. -/
def current : Working κ ς ς :=
  ⟨fun d => ⟨.ok d.session, d, []⟩⟩

/-- Changes the session. -/
def change (f : ς → ς) : Working κ ς Unit :=
  Act.update fun d => { d with session := f d.session }

/-- Takes hold of a connection. -/
def hold (slot : Slot ς ρ) (connection : ρ) : Working κ ς Unit :=
  change (slot.put (some connection))

/-- An action of the connection that is held. -/
def onHeld (slot : Slot ς ρ) (x : Act Event ρ AuthError α) : Working κ ς α :=
  ⟨fun d =>
    match slot.get d.session with
    | none => ⟨.error (.protocolViolation .closed), d, []⟩
    | some connection =>
      let r := x.run connection
      ⟨r.result, { d with session := slot.put (some r.state) d.session },
        r.events⟩⟩

/-- Lets go of the connection and closes it; without one there is nothing
to do. A failure to close it is handed on, and changes nothing. -/
def release (slot : Slot ς ρ) (close : Act Event ρ δ Unit) :
    Working κ ς (Except δ Unit) :=
  ⟨fun d =>
    match slot.get d.session with
    | none => ⟨.ok (.ok ()), d, []⟩
    | some connection =>
      let r := close.run connection
      ⟨.ok r.result, { d with session := slot.put none d.session }, r.events⟩⟩

end Desk

end SaslGate
