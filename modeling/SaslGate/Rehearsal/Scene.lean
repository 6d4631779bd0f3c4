/-
A rehearsal of several sessions with the same peers. The sessions have
seats, numbered in the order in which they came; a seat stays where it is
when its session is gone.
-/
import SaslGate.Registry
import SaslGate.Rehearsal.Log

namespace SaslGate.Rehearsal

/-- A session with scripted peers. -/
abbrev Actor := Session Socket Directory

/-- What a session with scripted peers does. -/
abbrev Acting (α : Type) := Serving Remote Directory Socket Directory α

/-- Frames as a scripted server sends them. -/
def frames (fs : List Frame) : Bytes :=
  fs.flatMap fun f => (Client.sized f).toOption.getD []

/-- A world with one socket in it, whose reads are scripted. All else goes
well, and there is no directory. -/
def worldOf (reads : List (Except IoKind Bytes)) : World Remote Directory :=
  ⟨⟨[.ok ⟨reads, [], [], .ok (), [], .ok (), none, 0⟩], 0⟩,
    ⟨[], [], [], none, none, none, []⟩⟩

/-- The peers, and the sessions that deal with them. -/
structure Scene where
  world : World Remote Directory
  props : Props
  seats : List (Option Actor)

namespace Scene

/-- A scene before any session has come. -/
def fresh (remote : Remote) (directory : Directory) : Scene :=
  ⟨⟨remote, directory⟩, .ofRemote remote, []⟩

/-- Gives the next seat to a session, or leaves it empty. -/
def seat (actor : Option Actor) (s : Scene) : Scene :=
  { s with seats := s.seats ++ [actor] }

/-- The session on a seat. -/
def actor? (i : Nat) (s : Scene) : Option Actor := (s.seats[i]?).join

/-- Lets the session on a seat act, if there is one: the result, the log
and the scene afterwards. -/
def act (i : Nat) (x : Acting α) (s : Scene) :
    Option (Except AuthError α × List Entry × Scene) := do
  let actor ← s.actor? i
  let r := x.run ⟨s.world, actor⟩
  let (log, props) := Log.ofEvents s.props r.events
  let seats := s.seats.set i (some r.state.session)
  return (r.result, log, ⟨r.state.opener, props, seats⟩)

/-- The end of the session on a seat: the log and the scene without it. -/
def leave (i : Nat) (s : Scene) : List Entry × Scene :=
  match s.act i Session.drop with
  | none => ([], s)
  | some (_, log, s) => (log, { s with seats := s.seats.set i none })

end Scene

end SaslGate.Rehearsal
