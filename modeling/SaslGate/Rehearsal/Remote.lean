/-
A remote server that follows a script: each attempt to connect is answered
in turn, by a scripted socket or a failure, and refused past the end. The
sockets are numbered as they are handed out.
-/
import SaslGate.Link
import SaslGate.Rehearsal.Socket

namespace SaslGate.Rehearsal

/-- What a remote server has still to answer. -/
structure Remote where
  answers : List (Except IoKind Socket)
  /-- How many sockets it has handed out. -/
  given : Nat

namespace Remote

/-- The answer to an attempt to connect, whatever the address. -/
def connect (r : Remote) : Except IoKind (Nat × Socket) × Remote :=
  match r.answers with
  | [] => (.error .connectionRefused, r)
  | .error kind :: rest => (.error kind, { r with answers := rest })
  | .ok socket :: rest => (.ok (r.given, socket), ⟨rest, r.given + 1⟩)

instance : Connector Remote Socket where
  connect _ _ _ := connect

end Remote

end SaslGate.Rehearsal
