/-
The log of a rehearsal: an entry for every call that reached a peer, in
order, as a list of words. Sockets are named `s0`, `s1` and so on as they
were handed out. Of the bounds on reads the log tells only whether one is
in force and whether it is the one that the socket began with, because any
other depends on the clock. A failed call ends with the kind of its
failure behind an exclamation mark.
-/
import SaslGate.Rehearsal.Directory
import SaslGate.Rehearsal.Remote
import SaslGate.Text.Hex

namespace SaslGate.Rehearsal

/-- An entry of a log: words, or gaps where there is nothing to tell. -/
abbrev Entry := List (Option String)

/-- The sockets of a remote server in the order in which it hands them
out, without the reads that are in the log. -/
abbrev Props := List Socket

/-- The sockets before anything happened. -/
def Props.ofRemote (r : Remote) : Props := r.answers.filterMap Except.toOption

namespace Log

def words (ws : List String) : Entry := ws.map some

/-- The words of a call and, if it failed, the kind of its failure. -/
def noting (answer : Except IoKind α) (ws : List String) : Entry :=
  words <|
    match answer with
    | .ok _ => ws
    | .error kind => ws ++ ["!" ++ kind.name]

/-- A bound on reads, next to the one that the socket began with. -/
def bound (initial : Option Duration) : Option Duration → String
  | none => "none"
  | some t => if some t = initial then "initial" else "bounded"

/-- The entry of a call on a socket, if it is one. -/
def ofSocket (s : Socket) (name : String) : SocketEvent → Option Entry
  | .read (.ok bytes) =>
    some <| words [name, "read",
      if s.reads.isEmpty then "eof" else toString bytes.length]
  | .read answer => some <| noting answer [name, "read"]
  | .write (.ok bytes) => some <| words [name, "write", Text.hex bytes]
  | .write answer => some <| noting answer [name, "write"]
  | .flush answer => some <| noting answer [name, "flush"]
  | .readTimeout (.ok t) =>
    some <| words [name, "get_timeout", bound s.timeout t]
  | .readTimeout answer => some <| noting answer [name, "get_timeout"]
  | .setReadTimeout t answer =>
    some <| noting answer [name, "set_timeout", bound s.timeout t]
  | .shutdown answer => some <| noting answer [name, "shutdown"]
  | .clock _ => none

/-- The socket without the read that a call was. -/
def afterCall (s : Socket) : SocketEvent → Socket
  | .read _ => (s.read readSize).2
  | _ => s

/-- The entry of a call on a directory. -/
def ofDirectory : DirectoryEvent → Entry
  | .connect e (.ok ()) => words ["dir", "connect", e.url]
  | .connect e (.error _) => words ["dir", "connect_failed", e.url]
  | .simpleBind dn password _ => words ["dir", "simple_bind", dn, password]
  | .saslBind r _ =>
    words ["dir", "sasl_bind", r.mechanism.name, r.username,
      r.authorizationId, r.credentials] ++ [r.realm]
  | .anonymousBind _ => words ["dir", "anonymous_bind"]
  | .close _ => words ["dir", "close"]

/-- A bound on connecting, in milliseconds. -/
def limit : Option Duration → String
  | none => "none"
  | some t => toString (t / millis 1)

/-- The entry of an attempt to connect. -/
def ofConnect (host : String) (portNumber : UInt16)
    (timeout : Option Duration) (answer : Except IoKind Nat) : Entry :=
  words ["connect", host ++ ":" ++ toString portNumber.toNat, limit timeout,
    match answer with
    | .ok id => "s" ++ toString id
    | .error kind => "!" ++ kind.name]

/-- The log of events, and what is left of the sockets after it. -/
def ofEvents (props : Props) : List Event → List Entry × Props
  | [] => ([], props)
  | .connect host portNumber timeout answer :: rest =>
    let (log, props) := ofEvents props rest
    (ofConnect host portNumber timeout answer :: log, props)
  | .socket id call :: rest =>
    match props[id]? with
    | none => ofEvents props rest
    | some s =>
      let (log, props) := ofEvents (props.set id (afterCall s call)) rest
      ((ofSocket s ("s" ++ toString id) call).toList ++ log, props)
  | .engineClosed _ :: rest => ofEvents props rest
  | .directory call :: rest =>
    let (log, props) := ofEvents props rest
    (ofDirectory call :: log, props)

end Log

end SaslGate.Rehearsal
