/-
How far a name can be read. A name is well escaped or has a first fault
(`wellEscaped_or_firstFault`). In front of the fault all is in order, so the
reader gets there (`WellEscaped.decodeFrom_append`), and by then it has counted
the bytes in front. Both ways to say which names can be read come out the
same: at every equals sign, or at those that the reader comes to.
-/
import SaslGate.Proofs.Auth.SaslName
import SaslGate.Proofs.Text

namespace SaslGate.SaslName

open Utf8 (width)

variable {name before rest code : List Char} {c : Char}

-- =========================================================== the first fault

/-- The first equals sign that begins no escape, with `before` in front of it
and `rest` behind it. -/
structure FirstFault (name before rest : List Char) : Prop where
  here : name = before ++ '=' :: rest
  broken : ¬ EndsEscape rest
  first : ∀ front back, name = front ++ '=' :: back →
    front.length < before.length → EndsEscape back

/-- What is put in front moves the first fault, unless it is one itself. -/
theorem FirstFault.cons (h : FirstFault name before rest)
    (hc : c = '=' → EndsEscape name) :
    FirstFault (c :: name) (c :: before) rest := by
  refine ⟨by rw [h.here]; rfl, h.broken, ?_⟩
  intro front back heq hlt
  cases front with
  | nil =>
    obtain ⟨hequals, rfl⟩ := List.cons.inj heq
    exact hc hequals
  | cons b front =>
    obtain ⟨-, htail⟩ := List.cons.inj heq
    exact h.first front back htail (Nat.lt_of_succ_lt_succ hlt)

/-- A name is in order or has a first equals sign that is not. -/
theorem wellEscaped_or_firstFault (name : List Char) :
    WellEscaped name ∨ ∃ before rest, FirstFault name before rest := by
  induction name with
  | nil => exact .inl wellEscaped_nil
  | cons c cs ih =>
    by_cases hc : c = '=' → EndsEscape cs
    · rcases ih with hcs | ⟨before, rest, hcs⟩
      · exact .inl (wellEscaped_cons.2 ⟨hc, hcs⟩)
      · exact .inr ⟨c :: before, rest, hcs.cons hc⟩
    · obtain ⟨rfl, hbroken⟩ := Classical.not_imp.1 hc
      exact .inr ⟨[], cs, rfl, hbroken, nofun⟩

/-- An escape does not reach over an equals sign. -/
theorem endsEscape_of_append_equals {front : List Char}
    (h : EndsEscape (front ++ '=' :: rest)) : EndsEscape front := by
  match front, h with
  | [], h => simp [EndsEscape] at h
  | [a], h => simp [EndsEscape] at h
  | a :: b :: front, h => simpa [EndsEscape] using h

/-- In front of the first fault all is in order. The escape before it cannot
have borrowed from what follows. -/
theorem FirstFault.wellEscaped (h : FirstFault name before rest) :
    WellEscaped before := by
  rintro front back rfl
  have hname : name = front ++ '=' :: (back ++ '=' :: rest) := by
    rw [h.here, List.append_assoc]
    rfl
  have hends := h.first front _ hname (by simp)
  exact endsEscape_of_append_equals hends

-- ================================================================= the scan

/-- What is left of a name where the reader comes to: it passes single
characters one by one, and an escape as a whole. -/
inductive Reached (name : List Char) : List Char → Prop
  | start : Reached name name
  | plain {c : Char} {rest : List Char} (here : Reached name (c :: rest))
      (other : c ≠ '=') : Reached name rest
  | escape {code rest : List Char}
      (here : Reached name ('=' :: (code ++ rest)))
      (valid : code = ['2', 'C'] ∨ code = ['3', 'D']) : Reached name rest

/-- What is left of a name is its end. -/
theorem Reached.suffix (h : Reached name rest) : rest <:+ name := by
  induction h with
  | start => exact List.suffix_rfl
  | plain _ _ ih => exact (List.suffix_cons _ _).trans ih
  | @escape code rest _ _ ih =>
    have hrest : rest <:+ '=' :: (code ++ rest) :=
      (List.suffix_append code rest).trans (List.suffix_cons _ _)
    exact hrest.trans ih

/-- A reader that has come somewhere goes on from there. -/
theorem Reached.trans {mid : List Char} (h : Reached name mid)
    (hrest : Reached mid rest) : Reached name rest := by
  induction hrest with
  | start => exact h
  | plain _ hc ih => exact ih.plain hc
  | escape _ hcode ih => exact ih.escape hcode

/-- The reader gets through a text in which all is in order. -/
theorem WellEscaped.reached (h : WellEscaped before) (rest : List Char) :
    Reached (before ++ rest) rest := by
  refine h.induct ?_ ?_ ?_
  · exact .start
  · intro code more c hcode ih
    have hvalid := (meant?_inv hcode).imp And.left And.left
    rw [List.cons_append, List.append_assoc]
    exact (Reached.start.escape hvalid).trans ih
  · intro c more hc ih
    exact (Reached.start.plain hc).trans ih

/-- It is the same to ask for an escape at every equals sign and at those that
the reader comes to. -/
theorem wellEscaped_iff_reached :
    WellEscaped name ↔
      ∀ rest, Reached name ('=' :: rest) → EndsEscape rest := by
  constructor
  · intro h rest hreached
    obtain ⟨before, rfl⟩ := hreached.suffix
    exact h before rest rfl
  · intro h
    refine (wellEscaped_or_firstFault name).resolve_right ?_
    rintro ⟨before, rest, hfault⟩
    have hreached := hfault.wellEscaped.reached ('=' :: rest)
    rw [← hfault.here] at hreached
    exact hfault.broken (h rest hreached)

-- =============================================================== the reader

/-- An escape has two characters of one byte behind its equals sign. -/
theorem width_of_meant? (h : meant? code = some c) : width code = 2 := by
  rcases meant?_inv h with ⟨rfl, -⟩ | ⟨rfl, -⟩ <;> rfl

/-- An escape takes three bytes. -/
theorem width_escape (h : meant? code = some c) (more : List Char) :
    width ('=' :: (code ++ more)) = 3 + width more := by
  have hequals : '='.utf8Size = 1 := rfl
  rw [Utf8.width_cons, Utf8.width_append, width_of_meant? h, hequals]
  omega

/-- An escape is passed as a whole. -/
theorem decodeFrom_escaped (h : meant? code = some c) (offset : Nat)
    (more : List Char) :
    decodeFrom offset ('=' :: (code ++ more))
      = (decodeFrom (offset + 3) more).map (c :: ·) := by
  rcases meant?_inv h with ⟨rfl, rfl⟩ | ⟨rfl, rfl⟩ <;> rfl

/-- Anything else behind an equals sign ends the reading. -/
theorem decodeFrom_fault (h : ¬ EndsEscape rest) (offset : Nat) :
    decodeFrom offset ('=' :: rest) = .error offset := by
  rw [decodeFrom.eq_def]
  split
  · contradiction
  · rename_i heq
    cases heq
    exact absurd (.inl ⟨_, rfl⟩) h
  · rename_i heq
    cases heq
    exact absurd (.inr ⟨_, rfl⟩) h
  · rename_i heq
    cases heq
    rfl

theorem map_nil_append (r : Except Nat (List Char)) :
    r.map ([] ++ ·) = r := by
  cases r <;> rfl

/-- Characters are put in front of what is read behind them. -/
theorem map_append_map_cons (r : Except Nat (List Char)) (user : List Char)
    (c : Char) :
    (r.map (user ++ ·)).map (c :: ·) = r.map (c :: user ++ ·) := by
  cases r <;> rfl

/-- A well-escaped text is read by itself, and the rest is read on from the
offset behind it. -/
theorem WellEscaped.decodeFrom_append (h : WellEscaped before) :
    ∃ user, ∀ offset rest, decodeFrom offset (before ++ rest)
      = (decodeFrom (offset + width before) rest).map (user ++ ·) := by
  refine h.induct ?_ ?_ ?_
  · exact ⟨[], fun offset rest => (map_nil_append _).symm⟩
  · rintro code more c hcode ⟨user, ih⟩
    refine ⟨c :: user, fun offset rest => ?_⟩
    rw [List.cons_append, List.append_assoc, decodeFrom_escaped hcode, ih,
      map_append_map_cons, width_escape hcode, ← Nat.add_assoc]
  · rintro c more hc ⟨user, ih⟩
    refine ⟨c :: user, fun offset rest => ?_⟩
    rw [Utf8.width_cons, ← Nat.add_assoc, ← map_append_map_cons, ← ih]
    simp [decodeFrom, hc]

/-- A name that is in order is read to its end. -/
theorem WellEscaped.decode (h : WellEscaped name) :
    ∃ user, decode name = .ok user := by
  obtain ⟨user, hread⟩ := h.decodeFrom_append
  have hwhole := hread 0 []
  rw [List.append_nil] at hwhole
  exact ⟨user ++ [], hwhole⟩

/-- A name with a fault is read up to it, and its offset counts the bytes
before. -/
theorem FirstFault.decode (h : FirstFault name before rest) :
    decode name = .error (width before) := by
  obtain ⟨user, hread⟩ := h.wellEscaped.decodeFrom_append
  rw [SaslName.decode, h.here, hread, decodeFrom_fault h.broken, Nat.zero_add]
  rfl

/-- Exactly the well-escaped names can be read. -/
theorem exists_decode_iff :
    (∃ user, decode name = .ok user) ↔ WellEscaped name := by
  constructor
  · rintro ⟨user, hread⟩
    refine (wellEscaped_or_firstFault name).resolve_right ?_
    rintro ⟨before, rest, hfault⟩
    rw [hfault.decode] at hread
    cases hread
  · exact WellEscaped.decode

/-- Reading fails at the first fault. -/
theorem decode_eq_error_iff {offset : Nat} :
    decode name = .error offset ↔
      ∃ before rest, FirstFault name before rest ∧ offset = width before := by
  constructor
  · intro h
    rcases wellEscaped_or_firstFault name with hname | ⟨before, rest, hfault⟩
    · obtain ⟨user, hread⟩ := hname.decode
      rw [h] at hread
      cases hread
    · rw [hfault.decode] at h
      exact ⟨before, rest, hfault, (Except.error.inj h).symm⟩
  · rintro ⟨before, rest, hfault, rfl⟩
    exact hfault.decode

end SaslGate.SaslName
