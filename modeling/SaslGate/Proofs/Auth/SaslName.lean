/-
User names as a SCRAM message writes them. Reading a name and writing one are
inverse to each other on texts without a comma, and a name can be read if and
only if every equals sign in it begins an escape.

An escape holds no second equals sign, so an equals sign is either the first
character of an escape or the fault that stops the reader. This is why
`WellEscaped` may speak of every equals sign, and not only of those that the
reader comes to.
-/
import SaslGate.Auth.SaslName

namespace SaslGate.SaslName

variable {name user : List Char}

-- =============================================================== escapes

/-- Text that may follow an equals sign: the rest of an escape comes first. -/
def EndsEscape (rest : List Char) : Prop :=
  ['2', 'C'] <+: rest ∨ ['3', 'D'] <+: rest

/-- Every equals sign begins an escape. -/
def WellEscaped (name : List Char) : Prop :=
  ∀ before rest, name = before ++ '=' :: rest → EndsEscape rest

theorem wellEscaped_nil : WellEscaped [] := by
  intro before rest h
  cases before <;> cases h

/-- Only an equals sign in front adds to what has to be checked. -/
theorem wellEscaped_cons {c : Char} {cs : List Char} :
    WellEscaped (c :: cs) ↔ (c = '=' → EndsEscape cs) ∧ WellEscaped cs := by
  constructor
  · intro h
    refine ⟨?_, fun before rest hcs => h (c :: before) rest (by rw [hcs]; rfl)⟩
    rintro rfl
    exact h [] cs rfl
  · rintro ⟨hfirst, hrest⟩ before rest h
    cases before with
    | nil =>
      obtain ⟨rfl, rfl⟩ := List.cons.inj h
      exact hfirst rfl
    | cons b before =>
      obtain ⟨rfl, rfl⟩ := List.cons.inj h
      exact hrest before rest rfl

/-- The character that is written with these two behind an equals sign. -/
def meant? : List Char → Option Char
  | ['2', 'C'] => some ','
  | ['3', 'D'] => some '='
  | _ => none

/-- There are two escapes. -/
theorem meant?_inv {code : List Char} {c : Char} (h : meant? code = some c) :
    code = ['2', 'C'] ∧ c = ',' ∨ code = ['3', 'D'] ∧ c = '=' := by
  unfold meant? at h
  split at h
  · cases h
    exact .inl ⟨rfl, rfl⟩
  · cases h
    exact .inr ⟨rfl, rfl⟩
  · cases h

/-- Whatever ends an escape says which character is meant. -/
theorem endsEscape_iff {rest : List Char} :
    EndsEscape rest ↔ ∃ code c more, meant? code = some c
      ∧ rest = code ++ more := by
  constructor
  · rintro (⟨more, rfl⟩ | ⟨more, rfl⟩)
    · exact ⟨['2', 'C'], ',', more, rfl, rfl⟩
    · exact ⟨['3', 'D'], '=', more, rfl, rfl⟩
  · rintro ⟨code, c, more, hcode, rfl⟩
    rcases meant?_inv hcode with ⟨rfl, -⟩ | ⟨rfl, -⟩
    · exact .inl ⟨more, rfl⟩
    · exact .inr ⟨more, rfl⟩

/-- A well-escaped text is empty, or an escape or another character than an
equals sign stands in front of such a text. -/
@[elab_as_elim]
theorem WellEscaped.induct {motive : List Char → Prop} (nil : motive [])
    (escape : ∀ {code more c}, meant? code = some c → motive more →
      motive ('=' :: (code ++ more)))
    (plain : ∀ {c more}, c ≠ '=' → motive more → motive (c :: more))
    {name : List Char} (h : WellEscaped name) : motive name := by
  match name with
  | [] => exact nil
  | c :: cs =>
    obtain ⟨hfirst, hcs⟩ := wellEscaped_cons.1 h
    by_cases hc : c = '='
    · subst hc
      obtain ⟨code, c, more, hcode, rfl⟩ := endsEscape_iff.1 (hfirst rfl)
      -- what stands behind an escape is checked as it was in the whole name
      have hmore : WellEscaped more := by
        intro before rest heq
        exact hcs (code ++ before) rest (by rw [heq, List.append_assoc])
      exact escape hcode (hmore.induct nil escape plain)
    · exact plain hc (hcs.induct nil escape plain)
termination_by name.length

-- =============================================================== writing

/-- What is written is in order, because every equals sign is written as an
escape. -/
theorem wellEscaped_escape (user : List Char) : WellEscaped (escape user) := by
  induction user with
  | nil => exact wellEscaped_nil
  | cons c rest ih =>
    unfold escape
    split
    · simp [wellEscaped_cons, EndsEscape, ih]
    · split
      · simp [wellEscaped_cons, EndsEscape, ih]
      · rename_i hequals
        exact wellEscaped_cons.2 ⟨fun h => absurd h hequals, ih⟩

/-- Nothing is written for nobody only. -/
theorem escape_eq_nil_iff : escape user = [] ↔ user = [] := by
  cases user with
  | nil => simp [escape]
  | cons c rest =>
    unfold escape
    split
    · simp
    · split <;> simp

-- =============================================================== reading

/-- What was written is read back. -/
theorem decodeFrom_escape (offset : Nat) (user : List Char) :
    decodeFrom offset (escape user) = .ok user := by
  induction user generalizing offset with
  | nil => rfl
  | cons c rest ih =>
    unfold escape
    split
    · rename_i hcomma
      simp [decodeFrom, ih, hcomma, Except.map]
    · split
      · rename_i hequals
        simp [decodeFrom, ih, hequals, Except.map]
      · rename_i hequals
        simp [decodeFrom, ih, hequals, Except.map]

/-- Whoever is written down is read back. -/
theorem decode_escape (user : List Char) : decode (escape user) = .ok user :=
  decodeFrom_escape 0 user

/-- What can be read behind a first character. -/
theorem map_cons_eq_ok {r : Except Nat (List Char)} {c : Char}
    (h : r.map (c :: ·) = .ok user) :
    ∃ rest, r = .ok rest ∧ user = c :: rest := by
  cases r with
  | error offset => cases h
  | ok rest =>
    cases h
    exact ⟨rest, rfl, rfl⟩

/-- What can be read and has no comma is how the user is written. -/
theorem escape_of_decodeFrom {offset : Nat}
    (h : decodeFrom offset name = .ok user) (free : ',' ∉ name) :
    escape user = name := by
  fun_induction decodeFrom offset name generalizing user with
  | case1 offset =>
    cases h
    rfl
  | case2 offset rest ih =>
    obtain ⟨user, hrest, rfl⟩ := map_cons_eq_ok h
    rw [escape, if_pos rfl, ih hrest (by simp_all)]
  | case3 offset rest ih =>
    obtain ⟨user, hrest, rfl⟩ := map_cons_eq_ok h
    rw [escape, if_neg (by decide), if_pos rfl, ih hrest (by simp_all)]
  | case4 offset rest => cases h
  | case5 offset c rest _ _ hequals ih =>
    obtain ⟨hcomma, hfree⟩ := not_or.1 (mt List.mem_cons.2 free)
    obtain ⟨user, hrest, rfl⟩ := map_cons_eq_ok h
    rw [escape, if_neg (Ne.symm hcomma), if_neg hequals, ih hrest hfree]

/-- Reading undoes writing, and nothing else. -/
theorem decode_eq_ok_iff (free : ',' ∉ name) :
    decode name = .ok user ↔ escape user = name := by
  constructor
  · intro h
    exact escape_of_decodeFrom h free
  · rintro rfl
    exact decode_escape user

/-- The names that can be written are those in which every equals sign begins
an escape. -/
theorem wellEscaped_iff (free : ',' ∉ name) :
    WellEscaped name ↔ ∃ user, escape user = name := by
  constructor
  · intro h
    -- without commas all the way down, which the induction has to carry
    revert free
    refine h.induct ?_ ?_ ?_
    · exact fun _ => ⟨[], rfl⟩
    · intro code more c hcode ih free
      obtain ⟨user, rfl⟩ := ih (by simp_all)
      refine ⟨c :: user, ?_⟩
      rcases meant?_inv hcode with ⟨rfl, rfl⟩ | ⟨rfl, rfl⟩ <;> rfl
    · intro c more hequals ih free
      obtain ⟨hcomma, hfree⟩ := not_or.1 (mt List.mem_cons.2 free)
      obtain ⟨user, rfl⟩ := ih hfree
      refine ⟨c :: user, ?_⟩
      rw [escape, if_neg (Ne.symm hcomma), if_neg hequals]
  · rintro ⟨user, rfl⟩
    exact wellEscaped_escape user

end SaslGate.SaslName
