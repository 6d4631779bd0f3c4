/-
Distinguished names formed from a user name. A template has exactly one
place for the name. The name is escaped as an attribute value, so whatever
it contains, it adds no attribute and no name component of its own.
-/
import SaslGate.Text.Quoted

namespace SaslGate

-- ========================================================= the template

/-- The text before the first `%s` and after it, if there is one. -/
def cutAtMark : List Char → Option (List Char × List Char)
  | '%' :: 's' :: rest => some ([], rest)
  | c :: rest => (cutAtMark rest).map fun (head, tail) => (c :: head, tail)
  | [] => none

/-- A distinguished name with a place for the user name. -/
structure DnTemplate where
  /-- The text before the place. -/
  head : List Char
  /-- The text after it. -/
  tail : List Char
  deriving DecidableEq, Repr

/-- The template does not have exactly one place. -/
structure DnTemplateError where
  template : String
  deriving DecidableEq, Repr

def DnTemplateError.message (e : DnTemplateError) : String :=
  "DN template " ++ Text.quoted e.template ++ " must contain exactly one %s"

/-- The name of a template error. -/
def DnTemplateError.path (_ : DnTemplateError) : List String := ["DnTemplate"]

-- ============================================================= escaping

/-- Characters that would end an attribute value, or that escape others. -/
def isDnSpecial (c : Char) : Bool :=
  c = '"' || c = '+' || c = ',' || c = ';' || c = '<' || c = '>' || c = '\\'
    || c = '='

/-- How one character of a value is written; `first` and `last` tell
whether it stands at an end of the value. -/
def dnEscapeChar (first last : Bool) (c : Char) : List Char :=
  if isDnSpecial c then ['\\', c]
  else if c = '#' ∧ first then ['\\', '#']
  else if c = ' ' ∧ (first ∨ last) then ['\\', ' ']
  else if c = '\x00' then ['\\', '0', '0']
  else [c]

/-- The rest of a value, whose next character is the first one or not. -/
def dnEscapeFrom (first : Bool) : List Char → List Char
  | [] => []
  | c :: rest => dnEscapeChar first rest.isEmpty c ++ dnEscapeFrom false rest

/-- An attribute value in a distinguished name (RFC 4514, section 2.4). -/
def dnEscape (value : List Char) : List Char := dnEscapeFrom true value

namespace DnTemplate

/-- The template of a text with exactly one `%s`. -/
def ofString (text : String) : Except DnTemplateError DnTemplate :=
  match cutAtMark text.toList with
  | some (head, tail) =>
    if (cutAtMark tail).isNone then .ok ⟨head, tail⟩ else .error ⟨text⟩
  | none => .error ⟨text⟩

/-- The text of a template. -/
def text (t : DnTemplate) : String :=
  String.ofList (t.head ++ ['%', 's'] ++ t.tail)

/-- The name of a user. -/
def format (t : DnTemplate) (username : String) : String :=
  String.ofList (t.head ++ dnEscape username.toList ++ t.tail)

end DnTemplate

end SaslGate
