/-
URLs, as far as an endpoint needs them: scheme, host and TCP port number.
User information, path, query and fragment have to be well formed and are
dropped. Blanks and controls around a URL do not count, and neither do
tabs and line ends inside it.
-/
import SaslGate.Directory.Host
import SaslGate.Text.Blank

namespace SaslGate

/-- The parts of a URL that say where to connect. -/
structure Url where
  scheme : String
  /-- Never empty. -/
  host : Option String
  portNumber : Option UInt16
  deriving DecidableEq, Repr

namespace Url

/-- Removes what a URL may be surrounded with and broken up by. -/
def clean (cs : List Char) : List Char :=
  (Text.strip (fun c => c.toNat ≤ 0x20) cs).filter
    fun c => c ≠ '\t' ∧ c ≠ '\n' ∧ c ≠ '\r'

/-- How a scheme is to be followed. -/
inductive SchemeKind
  | file
  | web
  | other
  deriving DecidableEq, Repr

/-- The kind of a scheme. -/
def SchemeKind.of (scheme : String) : SchemeKind :=
  if scheme = "file" then .file
  else if scheme ∈ ["http", "https", "ws", "wss", "ftp"] then .web
  else .other

/-- Characters of a scheme behind its first. -/
def isSchemeChar (c : Char) : Bool :=
  c.isAlphanum || c = '+' || c = '-' || c = '.'

/-- The scheme in lower case, and what follows its colon. -/
def scheme? (cs : List Char) : Option (String × List Char) :=
  match cs with
  | [] => none
  | first :: _ =>
    if first.isAlpha then
      match cs.dropWhile isSchemeChar with
      | ':' :: rest =>
        let name := (cs.takeWhile isSchemeChar).map Char.toLower
        some (String.ofList name, rest)
      | _ => none
    else none

/-- Whether a character ends the part that names user, host and port. -/
def endsAuthority (kind : SchemeKind) (c : Char) : Bool :=
  c = '/' || c = '?' || c = '#' || (c = '\\' && kind ≠ .other)

/-- The text before the last `@`, if there is one, and after it. -/
def cutUser (cs : List Char) : Option (List Char) × List Char :=
  match Text.cutAt '@' cs.reverse with
  | some (host, user) => (some user.reverse, host.reverse)
  | none => (none, cs)

/-- The host in front of the colon that begins the port number. Colons in
brackets belong to the host. -/
def hostSpan (inside : Bool) : List Char → List Char × List Char
  | [] => ([], [])
  | c :: rest =>
    if c = ':' ∧ ¬ inside then ([], c :: rest)
    else
      let still := if c = '[' then true else if c = ']' then false else inside
      let (host, tail) := hostSpan still rest
      (c :: host, tail)

/-- The port number behind the colon, if there is one. A backslash ends it
as a slash does. -/
def portNumber? (cs : List Char) : Except UrlError (Option UInt16) :=
  let digits := cs.takeWhile Char.isDigit
  match cs.dropWhile Char.isDigit with
  | [] | '\\' :: _ =>
    if digits.isEmpty then .ok none
    else
      match Text.numeral 65535 digits with
      | .ok n => .ok (some (UInt16.ofNat n))
      | .error _ => .error .invalidPortNumber
  | _ => .error .invalidPortNumber

/-- A host as the URL keeps it. -/
def readHost (kind : SchemeKind) (cs : List Char) :
    Except UrlError (List Char) :=
  if kind = .other then Host.parseOpaque cs
  else if cs.isEmpty then .error .emptyHost
  else do
    Host.checkWeb cs
    return cs

/-- Host and port number behind the two slashes. -/
def authority (kind : SchemeKind) (cs : List Char) :
    Except UrlError (Option String × Option UInt16) := do
  let (user, place) := cutUser (cs.takeWhile fun c => !endsAuthority kind c)
  let behind := cs.dropWhile fun c => !endsAuthority kind c
  if user = some [] ∧ place = [] ∧ behind ≠ [] then .error .emptyHost
  let (span, tail) := hostSpan false place
  let host ← readHost kind span
  if host.isEmpty ∧ tail ≠ [] then .error .emptyHost
  let port ← portNumber? (tail.drop 1)
  if host.isEmpty then
    if user.isNone ∨ user = some [] ∨ user = some [':'] then
      return (none, port)
    else .error .emptyHost
  return (some (String.ofList host), port)

/-- Checks what follows `file:`. -/
def checkFile (cs : List Char) : Except UrlError Unit :=
  match cs with
  | a :: b :: rest =>
    if (a = '/' ∨ a = '\\') ∧ (b = '/' ∨ b = '\\') then
      let host := rest.takeWhile fun c => !endsAuthority .file c
      match host with
      | [] => .ok ()
      | [drive, mark] =>
        if drive.isAlpha ∧ (mark = ':' ∨ mark = '|') then .ok ()
        else Host.checkWeb host
      | host => Host.checkWeb host
    else .ok ()
  | _ => .ok ()

/-- The URL that a text spells. -/
def parse (text : String) : Except UrlError Url :=
  match scheme? (clean text.toList) with
  | none => .error .relativeWithoutBase
  | some (scheme, rest) =>
    match SchemeKind.of scheme with
    | .file => do
      checkFile rest
      return ⟨scheme, none, none⟩
    | .web => do
      let (host, port) ←
        authority .web (rest.dropWhile fun c => c = '/' ∨ c = '\\')
      return ⟨scheme, host, port⟩
    | .other =>
      match rest with
      | '/' :: '/' :: rest => do
        let (host, port) ← authority .other rest
        return ⟨scheme, host, port⟩
      | _ => .ok ⟨scheme, none, none⟩

end Url

end SaslGate
