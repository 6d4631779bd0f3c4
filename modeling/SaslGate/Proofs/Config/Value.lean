/-
The values of options: what the white space around them does, and which
numbers they spell. A text and what is left of it without white space at its
ends are told apart by nothing inside (`strip_pad`). A numeral is digits of a
value, and leading zeros and a plus sign are all that its spelling is free in
(`numeral_eq_ok_iff`).
-/
import Mathlib.Data.List.DropRight
import SaslGate.Text.Blank
import SaslGate.Text.Numeral

namespace SaslGate.Text

-- ============================================================== white space

/-- A text of white space alone, or of nothing. -/
def Blank (s : String) : Prop := ∀ c ∈ s.toList, isBlank c = true

section Strip

variable {p : Char → Bool} {left cs right : List Char}

/-- Stripping drops from either end, here as the library has it. -/
theorem strip_eq (p : Char → Bool) (cs : List Char) :
    strip p cs = (cs.dropWhile p).rdropWhile p := rfl

/-- Nothing is left of a text that was all to be stripped off. -/
theorem strip_eq_nil_iff : strip p cs = [] ↔ ∀ c ∈ cs, p c = true := by
  rw [strip_eq, List.rdropWhile_eq_nil_iff]
  constructor
  · intro h c hc
    rw [← List.takeWhile_append_dropWhile (p := p) (l := cs)] at hc
    obtain hfront | hback := List.mem_append.1 hc
    · exact List.mem_takeWhile_imp hfront
    · exact h c hback
  · intro h
    rw [List.dropWhile_eq_nil_iff.2 h]
    exact fun c hc => absurd hc List.not_mem_nil

/-- What is stripped off anyway may be put on. -/
theorem strip_pad (hleft : ∀ c ∈ left, p c = true)
    (hright : ∀ c ∈ right, p c = true) :
    strip p (left ++ cs ++ right) = strip p cs := by
  rw [List.append_assoc, strip_eq, List.dropWhile_append_of_pos hleft,
    List.dropWhile_append]
  split
  · rename_i hempty
    have hnil : cs.dropWhile p = [] := List.isEmpty_iff.1 hempty
    rw [strip_eq, hnil, List.dropWhile_eq_nil_iff.2 hright]
  · rw [strip_eq, List.rdropWhile, List.reverse_append,
      List.dropWhile_append_of_pos]
    · rfl
    · intro c hc
      exact hright c (List.mem_reverse.1 hc)

/-- Where nothing is to be stripped off at the ends, everything stays. -/
theorem strip_eq_self (hfront : ∀ c, cs.head? = some c → p c = false)
    (hback : ∀ c, cs.getLast? = some c → p c = false) : strip p cs = cs := by
  have hkeep (ds : List Char) (hds : ∀ c, ds.head? = some c → p c = false) :
      ds.dropWhile p = ds := by
    cases ds with
    | nil => rfl
    | cons d ds => simp [hds d rfl]
  rw [strip, hkeep cs hfront, hkeep cs.reverse (by simpa using hback),
    List.reverse_reverse]

/-- What is stripped off, and where that stops. -/
theorem exists_strip (p : Char → Bool) (cs : List Char) :
    ∃ left right, cs = left ++ strip p cs ++ right
      ∧ (∀ c ∈ left, p c = true) ∧ (∀ c ∈ right, p c = true)
      ∧ (∀ c, (strip p cs).head? = some c → p c = false)
      ∧ ∀ c, (strip p cs).getLast? = some c → p c = false := by
  refine ⟨cs.takeWhile p, (cs.dropWhile p).rtakeWhile p, ?_,
    fun c => List.mem_takeWhile_imp, fun c => List.mem_rtakeWhile_imp, ?_, ?_⟩
  · rw [strip_eq, List.append_assoc, List.rdropWhile_append_rtakeWhile,
      List.takeWhile_append_dropWhile]
  · intro c hc
    obtain ⟨behind, hbehind⟩ := List.rdropWhile_prefix p (l := cs.dropWhile p)
    obtain ⟨tail, htail⟩ := List.head?_eq_some_iff.1 hc
    have hhead := List.head?_dropWhile_not p cs
    rw [← strip_eq, htail] at hbehind
    rw [← hbehind] at hhead
    exact hhead
  · intro c hc
    rw [strip_eq] at hc
    have hsome := List.ne_nil_of_mem (List.mem_of_getLast? hc)
    have hlast := List.rdropWhile_last_not p (cs.dropWhile p) hsome
    rw [List.getLast?_eq_some_getLast hsome, Option.some_inj] at hc
    rw [← hc]
    exact Bool.not_eq_true _ ▸ hlast

end Strip

/-- What is trimmed to nothing was blank. -/
theorem trim_eq_empty_iff {s : String} : trim s = "" ↔ Blank s := by
  rw [trim, ← String.toList_inj, String.toList_ofList]
  exact strip_eq_nil_iff

/-- White space around a value makes no difference. -/
theorem trim_pad {left right : String} (hleft : Blank left)
    (hright : Blank right) (s : String) :
    trim (left ++ s ++ right) = trim s := by
  rw [trim, String.toList_append, String.toList_append,
    strip_pad hleft hright]
  rfl

-- ================================================================= numerals

/-- The number that digits spell, behind a number that was spelled before. -/
def spelledFrom (start : Nat) (digits : List Char) : Nat :=
  digits.foldl (fun n c => n * 10 + (c.toNat - '0'.toNat)) start

/-- A numeral of a number: digits, leading zeros allowed, and a plus sign if it
likes. -/
def Numeral (n : Nat) (cs : List Char) : Prop :=
  ∃ digits : List Char, (cs = digits ∨ cs = '+' :: digits) ∧ digits ≠ []
    ∧ (∀ c ∈ digits, '0' ≤ c ∧ c ≤ '9') ∧ n = spelledFrom 0 digits

/-- Another digit never makes a number smaller. -/
theorem le_spelledFrom (start : Nat) (digits : List Char) :
    start ≤ spelledFrom start digits := by
  induction digits generalizing start with
  | nil => exact Nat.le_refl start
  | cons c digits ih =>
    have hrest := ih (start * 10 + (c.toNat - '0'.toNat))
    rw [spelledFrom, List.foldl_cons]
    unfold spelledFrom at hrest
    omega

/-- A number that is outgrown once is outgrown for good, so looking at the end
is enough. -/
theorem numeralFrom_eq_ok_iff {max start n : Nat} {cs : List Char} :
    numeralFrom max start cs = .ok n ↔ (∀ c ∈ cs, '0' ≤ c ∧ c ≤ '9')
      ∧ n = spelledFrom start cs ∧ (cs = [] ∨ n ≤ max) := by
  induction cs generalizing start with
  | nil => simp [numeralFrom, spelledFrom, eq_comm]
  | cons c cs ih =>
    unfold numeralFrom digit?
    by_cases hdigit : '0' ≤ c ∧ c ≤ '9'
    · have hstep : spelledFrom start (c :: cs)
          = spelledFrom (start * 10 + (c.toNat - '0'.toNat)) cs := rfl
      have hgrows := le_spelledFrom (start * 10 + (c.toNat - '0'.toNat)) cs
      rw [if_pos hdigit]
      simp only
      by_cases hfits : start * 10 + (c.toNat - '0'.toNat) ≤ max
      · rw [if_pos hfits, ih, hstep]
        constructor
        · intro h
          obtain ⟨hdigits, hn, hmax⟩ := h
          refine ⟨List.forall_mem_cons.2 ⟨hdigit, hdigits⟩, hn, .inr ?_⟩
          obtain rfl | hmax := hmax
          · exact hn ▸ hfits
          · exact hmax
        · intro h
          obtain ⟨hdigits, hn, hmax⟩ := h
          refine ⟨(List.forall_mem_cons.1 hdigits).2, hn, .inr ?_⟩
          exact hmax.resolve_left (List.cons_ne_nil c cs)
      · rw [if_neg hfits, hstep]
        constructor
        · nofun
        · intro h
          obtain ⟨-, hn, hmax⟩ := h
          have := hmax.resolve_left (List.cons_ne_nil c cs)
          omega
    · rw [if_neg hdigit]
      constructor
      · nofun
      · intro h
        exact absurd (h.1 c List.mem_cons_self) hdigit

/-- A plus sign is no digit, so it is read as a sign or not at all. -/
theorem plus_not_digit {digits : List Char}
    (h : ∀ c ∈ '+' :: digits, '0' ≤ c ∧ c ≤ '9') : False := by
  have hplus := h '+' List.mem_cons_self
  revert hplus
  decide

/-- A number is read from its numerals, and from nothing else. -/
theorem numeral_eq_ok_iff {max n : Nat} {cs : List Char} :
    numeral max cs = .ok n ↔ Numeral n cs ∧ n ≤ max := by
  -- behind the sign there is the same reader
  have hread (digits : List Char) (hne : digits ≠ []) :
      numeralFrom max 0 digits = .ok n
        ↔ (∀ c ∈ digits, '0' ≤ c ∧ c ≤ '9') ∧ n = spelledFrom 0 digits
          ∧ n ≤ max := by
    rw [numeralFrom_eq_ok_iff]
    simp only [hne, false_or]
  unfold numeral Numeral
  split
  next => simp
  next =>
    constructor
    · nofun
    · intro h
      obtain ⟨⟨digits, hcs, hne, hdigits, -⟩, -⟩ := h
      obtain rfl | hcs := hcs
      · exact (plus_not_digit hdigits).elim
      · exact absurd (List.cons.inj hcs).2.symm hne
  next digits hnil =>
    rw [hread digits (by simpa using hnil)]
    constructor
    · intro h
      exact ⟨⟨digits, .inr rfl, by simpa using hnil, h.1, h.2.1⟩, h.2.2⟩
    · intro h
      obtain ⟨⟨digits', hcs, -, hdigits, hn⟩, hmax⟩ := h
      obtain rfl | hcs := hcs
      · exact (plus_not_digit hdigits).elim
      · cases hcs
        exact ⟨hdigits, hn, hmax⟩
  next hnil hplus hsigned =>
    rw [hread cs hnil]
    constructor
    · intro h
      exact ⟨⟨cs, .inl rfl, hnil, h.1, h.2.1⟩, h.2.2⟩
    · intro h
      obtain ⟨⟨digits, hcs, -, hdigits, hn⟩, hmax⟩ := h
      obtain rfl | hcs := hcs
      · exact ⟨hdigits, hn, hmax⟩
      · exact absurd hcs (hsigned digits)

end SaslGate.Text
