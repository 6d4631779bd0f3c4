/-
An address is read back as it was printed. Printing writes each group in
hexadecimal and stands `::` for the first longest run of zero groups, and
reading finds that one `::`, because no group is ever empty in print
(`cutAtGap_printGroups`). What stands on either side of it are the groups in
front of the run and behind it (`eq_of_longestZeros`), so the zeros that
reading puts in between are the ones that printing left out.
-/
import Mathlib.Algebra.Group.Nat.Defs
import Mathlib.Data.List.Induction
import SaslGate.Directory.Ipv6
import SaslGate.Proofs.Text

namespace SaslGate.Ipv6

/-- Eight groups of 16 bits. -/
structure IsAddress (gs : List Nat) : Prop where
  eight : gs.length = 8
  short : ∀ g ∈ gs, g < 65536

-- ================================================================ numbers

section Numbers

variable {base n : Nat} {digit : Char → Option Nat} {cs : List Char}

/-- The last digit is read on top of all before it. -/
theorem number?_concat (base : Nat) (digit : Char → Option Nat)
    (cs : List Char) (c : Char) :
    number? base digit (cs ++ [c]) =
      (number? base digit cs).bind fun n =>
        (digit c).map (n * base + ·) := by
  simp [number?, List.foldlM_append]

/-- Digits below the base spell a number that needs no more of them. -/
theorem number?_lt (hdigit : ∀ c d, digit c = some d → d < base)
    (h : number? base digit cs = some n) : n < base ^ cs.length := by
  induction cs using List.reverseRecOn generalizing n with
  | nil =>
    cases h
    simp
  | append_singleton cs c ih =>
    rw [number?_concat] at h
    obtain ⟨m, hm, h⟩ := Option.bind_eq_some_iff.1 h
    obtain ⟨d, hd, hn⟩ := Option.map_eq_some_iff.1 h
    have hfront : m + 1 ≤ base ^ cs.length := ih hm
    have hlast := hdigit c d hd
    have hscaled := Nat.mul_le_mul_right base hfront
    rw [List.length_append, List.length_singleton, Nat.pow_succ]
    rw [Nat.add_mul, Nat.one_mul] at hscaled
    omega

/-- A digit that is printed is read back. -/
theorem hexDigit?_digitChar {d : Nat} (h : d < 16) :
    hexDigit? d.digitChar = some d := by
  have key : ∀ d : Fin 16, hexDigit? (Nat.digitChar d) = some d.val := by
    decide
  exact key ⟨d, h⟩

/-- Every digit that is read is one of sixteen. -/
theorem hexDigit?_lt {c : Char} {d : Nat} (h : hexDigit? c = some d) :
    d < 16 := by
  unfold hexDigit? at h
  split at h
  · rename_i hc
    have hhigh : c.toNat ≤ 57 := hc.2
    cases h
    simp
    omega
  · split at h
    · rename_i hc
      have hhigh : c.toNat ≤ 102 := hc.2
      cases h
      simp
      omega
    · split at h
      · rename_i hc
        have hhigh : c.toNat ≤ 70 := hc.2
        cases h
        simp
        omega
      · cases h

/-- A number in hexadecimal is read back. -/
theorem number?_toDigits (n : Nat) :
    number? 16 hexDigit? (Nat.toDigits 16 n) = some n := by
  induction n using Nat.strongRecOn with
  | ind n ih =>
    rw [Nat.toDigits_eq_if (by decide)]
    split
    · rename_i hsmall
      simp [number?, hexDigit?_digitChar hsmall]
    · rename_i hlarge
      have hlast := hexDigit?_digitChar (Nat.mod_lt n (by decide : 0 < 16))
      rw [number?_concat, ih (n / 16) (by omega), Option.bind_some, hlast,
        Option.map_some]
      congr 1
      omega

/-- What is printed of a group are hexadecimal digits in lower case. -/
theorem exists_of_mem_toDigits {c : Char} (h : c ∈ Nat.toDigits 16 n) :
    ∃ d < 16, c = Nat.digitChar d := by
  induction n using Nat.strongRecOn with
  | ind n ih =>
    rw [Nat.toDigits_eq_if (by decide)] at h
    split at h
    · rename_i hsmall
      exact ⟨n, hsmall, List.mem_singleton.1 h⟩
    · rename_i hlarge
      rcases List.mem_append.1 h with hfront | hlast
      · exact ih (n / 16) (by omega) hfront
      · exact ⟨n % 16, Nat.mod_lt n (by decide), List.mem_singleton.1 hlast⟩

theorem colon_not_mem_toDigits (n : Nat) : ':' ∉ Nat.toDigits 16 n := by
  intro h
  obtain ⟨d, hd, hc⟩ := exists_of_mem_toDigits h
  have key : ∀ d : Fin 16, ':' ≠ Nat.digitChar d := by decide
  exact key ⟨d, hd⟩ hc

end Numbers

-- ================================================================== groups

/-- A group has four digits at most. -/
theorem group?_lt {cs : List Char} {g : Nat} (h : group? cs = some g) :
    g < 65536 := by
  unfold group? at h
  split at h
  · cases h
  · rename_i hlength
    have hbound := number?_lt (fun _ _ => hexDigit?_lt) h
    have hfour : cs.length ≤ 4 := by omega
    have hpow : 16 ^ cs.length ≤ 16 ^ 4 :=
      Nat.pow_le_pow_right (by decide) hfour
    omega

/-- A group that is printed is read back. -/
theorem group?_toDigits {g : Nat} (h : g < 65536) :
    group? (Nat.toDigits 16 g) = some g := by
  have hlength : (Nat.toDigits 16 g).length ≤ 4 :=
    (Nat.length_toDigits_le_iff (by decide) (by decide)).2 h
  have hsome : Nat.toDigits 16 g ≠ [] := Nat.toDigits_ne_nil
  unfold group?
  rw [if_neg (by simp [hsome]; omega), number?_toDigits]

/-- A decimal part of an address is at most 255. -/
theorem octet?_le {cs : List Char} {n : Nat} (h : octet? cs = some n) :
    n ≤ 255 := by
  unfold octet? at h
  split at h
  · cases h
  · simpa using (Option.filter_eq_some_iff.1 h).2

/-- The parts of a dotted address make groups of 16 bits. -/
theorem dotted?_short {cs : List Char} {gs : List Nat}
    (h : dotted? cs = some gs) : ∀ g ∈ gs, g < 65536 := by
  unfold dotted? at h
  split at h
  · rename_i a b c d hparts
    cases h
    have hoctets : ∀ n ∈ [a, b, c, d], n ≤ 255 := by
      intro n hn
      obtain ⟨piece, -, hpiece⟩ :=
        Text.exists_of_forall₂ (Text.mapM_eq_some_iff.1 hparts) hn
      exact octet?_le hpiece
    simp at hoctets ⊢
    omega
  · cases h

/-- Every group that is read fits in sixteen bits. -/
theorem groups?_short {pieces : List (List Char)} {gs : List Nat}
    (h : groups? pieces = some gs) : ∀ g ∈ gs, g < 65536 := by
  fun_induction groups? pieces generalizing gs with
  | case1 =>
    cases h
    simp
  | case2 last =>
    rw [Option.orElse_eq_orElse, Option.orElse_eq_or] at h
    rcases Option.or_eq_some_iff.1 h with hgroup | ⟨-, hdotted⟩
    · obtain ⟨g, hg, rfl⟩ := Option.map_eq_some_iff.1 hgroup
      simpa using group?_lt hg
    · exact dotted?_short hdotted
  | case3 piece rest _ ih =>
    obtain ⟨g, hg, h⟩ := Option.bind_eq_some_iff.1 h
    obtain ⟨gs', hgs, h⟩ := Option.bind_eq_some_iff.1 h
    cases h
    exact List.forall_mem_cons.2 ⟨group?_lt hg, ih hgs⟩

/-- So does every group on a side of the gap, empty or not. -/
theorem side?_short {read : List (List Char) → Option (List Nat)}
    {cs : List Char} {gs : List Nat}
    (hread : ∀ pieces gs, read pieces = some gs → ∀ g ∈ gs, g < 65536)
    (h : side? read cs = some gs) : ∀ g ∈ gs, g < 65536 := by
  unfold side? at h
  split at h
  · cases h
    simp
  · exact hread _ _ h

/-- Whatever is read as an address is one. -/
theorem isAddress_of_parse? {cs : List Char} {gs : List Nat}
    (h : parse? cs = some gs) : IsAddress gs := by
  unfold parse? at h
  split at h
  · obtain ⟨hgs, height⟩ := Option.filter_eq_some_iff.1 h
    exact ⟨by simpa using height, groups?_short hgs⟩
  · rename_i head tail _
    obtain ⟨before, hbefore, h⟩ := Option.bind_eq_some_iff.1 h
    obtain ⟨behind, hbehind, h⟩ := Option.bind_eq_some_iff.1 h
    dsimp only at h
    split at h
    · cases h
      have hfront : ∀ g ∈ before, g < 65536 := by
        refine side?_short (fun pieces gs hgs g hg => ?_) hbefore
        obtain ⟨piece, -, hpiece⟩ :=
          Text.exists_of_forall₂ (Text.mapM_eq_some_iff.1 hgs) hg
        exact group?_lt hpiece
      have hback := side?_short (fun _ _ => groups?_short) hbehind
      refine ⟨by simp; omega, fun g hg => ?_⟩
      simp only [List.mem_append, List.mem_replicate] at hg
      rcases hg with (hg | ⟨-, rfl⟩) | hg
      · exact hfront g hg
      · decide
      · exact hback g hg
    · cases h

-- =============================================================== printing

section Printing

variable {gs : List Nat}

theorem printGroups_cons (g h : Nat) (gs : List Nat) :
    printGroups (g :: h :: gs)
      = Nat.toDigits 16 g ++ ':' :: printGroups (h :: gs) := by
  simp [printGroups, List.intercalate]

theorem printGroups_singleton (g : Nat) :
    printGroups [g] = Nat.toDigits 16 g := by
  simp [printGroups, List.intercalate]

/-- Only no groups at all print as nothing. -/
theorem printGroups_eq_nil_iff : printGroups gs = [] ↔ gs = [] := by
  match gs with
  | [] => simp [printGroups, List.intercalate]
  | [g] => simp [printGroups_singleton, Nat.toDigits_ne_nil]
  | g :: h :: gs => simp [printGroups_cons]

/-- The groups stand between the colons. -/
theorem pieces_printGroups (h : gs ≠ []) :
    Text.pieces ':' (printGroups gs) = gs.map (Nat.toDigits 16) := by
  refine Text.pieces_eq_iff.2 ⟨by simpa using h, ?_, rfl⟩
  intro piece hpiece
  obtain ⟨g, -, rfl⟩ := List.mem_map.1 hpiece
  exact colon_not_mem_toDigits g

/-- Groups of 16 bits are read back one by one. -/
theorem mapM_group?_toDigits (h : ∀ g ∈ gs, g < 65536) :
    (gs.map (Nat.toDigits 16)).mapM group? = some gs := by
  induction gs with
  | nil => rfl
  | cons g gs ih =>
    obtain ⟨hg, hgs⟩ := List.forall_mem_cons.1 h
    simp [group?_toDigits hg, ih hgs]

/-- Groups are read back also where a dotted address might stand. -/
theorem groups?_toDigits (h : ∀ g ∈ gs, g < 65536) :
    groups? (gs.map (Nat.toDigits 16)) = some gs := by
  induction gs with
  | nil => rfl
  | cons g gs ih =>
    obtain ⟨hg, hgs⟩ := List.forall_mem_cons.1 h
    cases gs with
    | nil => simp [groups?, group?_toDigits hg]
    | cons g' gs =>
      have hrest := ih hgs
      rw [List.map_cons] at hrest
      rw [List.map_cons, List.map_cons, groups?, group?_toDigits hg, hrest]
      · rfl
      · exact List.cons_ne_nil _ _

/-- One side of the `::` is read back, be there groups on it or not. -/
theorem side?_printGroups {read : List (List Char) → Option (List Nat)}
    (hread : read (gs.map (Nat.toDigits 16)) = some gs) :
    side? read (printGroups gs) = some gs := by
  unfold side?
  by_cases hgs : gs = []
  · simp [hgs, printGroups, List.intercalate]
  · have hprinted : printGroups gs ≠ [] := mt printGroups_eq_nil_iff.1 hgs
    rw [if_neg (by simpa using hprinted), pieces_printGroups hgs, hread]

-- ============================================================== the gap

/-- What has no colon lies in front of the gap. -/
theorem cutAtGap_append {cs : List Char} (h : ':' ∉ cs) (tail : List Char) :
    cutAtGap (cs ++ tail)
      = (cutAtGap tail).map fun cut => (cs ++ cut.1, cut.2) := by
  induction cs with
  | nil => simp
  | cons c cs ih =>
    obtain ⟨hc, hcs⟩ := not_or.1 (mt List.mem_cons.2 h)
    rw [List.cons_append, cutAtGap, ih hcs, Option.map_map]
    · rfl
    · rintro rest rfl
      exact absurd rfl hc

/-- A colon with something else behind it is no gap. -/
theorem cutAtGap_colon {cs : List Char} (h : cs.head? ≠ some ':') :
    cutAtGap (':' :: cs)
      = (cutAtGap cs).map fun cut => (':' :: cut.1, cut.2) := by
  rw [cutAtGap]
  rintro rest ⟨⟩ rfl
  exact h rfl

/-- Groups in print have no gap. A gap behind them is the first. -/
theorem cutAtGap_printGroups (gs : List Nat) (tail : List Char) :
    cutAtGap (printGroups gs ++ tail)
      = (cutAtGap tail).map fun cut => (printGroups gs ++ cut.1, cut.2) := by
  induction gs with
  | nil => simp [printGroups, List.intercalate]
  | cons g gs ih =>
    cases gs with
    | nil =>
      rw [printGroups_singleton]
      exact cutAtGap_append (colon_not_mem_toDigits g) tail
    | cons g' gs =>
      -- no group begins with a colon, so one colon between two is no gap
      have hhead : (printGroups (g' :: gs) ++ tail).head? ≠ some ':' := by
        intro hcolon
        apply colon_not_mem_toDigits g'
        cases hdigits : Nat.toDigits 16 g' with
        | nil => exact absurd hdigits Nat.toDigits_ne_nil
        | cons c cs =>
          cases gs with
          | nil => simp_all [printGroups_singleton]
          | cons g'' gs => simp_all [printGroups_cons]
      rw [printGroups_cons, List.append_assoc, List.cons_append,
        cutAtGap_append (colon_not_mem_toDigits g), cutAtGap_colon hhead, ih,
        Option.map_map, Option.map_map]
      congr 1
      funext cut
      simp

end Printing

-- ========================================================== the longest run

/-- Groups begin with as many zeros as are counted. -/
theorem replicate_zeros (gs : List Nat) :
    gs = List.replicate (zeros gs) 0 ++ gs.drop (zeros gs) := by
  induction gs with
  | nil => rfl
  | cons g gs ih =>
    by_cases hg : g = 0
    · have hzeros : zeros (g :: gs) = zeros gs + 1 := by
        simp [zeros, hg]
      rw [hzeros, List.replicate_succ, List.drop_succ_cons, List.cons_append,
        ← ih, hg]
    · simp [zeros, hg]

/-- The longest run of zeros is one: an address is what stands in front of it,
the zeros, and what stands behind. -/
theorem eq_of_longestZeros {gs : List Nat} {start length : Nat}
    (h : longestZeros gs = (start, length)) :
    gs = gs.take start ++ List.replicate length 0
      ++ gs.drop (start + length) := by
  induction gs generalizing start length with
  | nil =>
    cases h
    rfl
  | cons g gs ih =>
    unfold longestZeros at h
    rcases hrest : longestZeros gs with ⟨start', length'⟩
    rw [hrest] at h
    dsimp only at h
    split at h
    · cases h
      rw [List.take_zero, List.nil_append, Nat.zero_add]
      exact replicate_zeros (g :: gs)
    · cases h
      have hbehind : start' + 1 + length = start' + length + 1 := by omega
      rw [hbehind, List.take_succ_cons, List.drop_succ_cons,
        List.cons_append, List.cons_append, ← ih hrest]

-- ================================================================ addresses

/-- An address is read back as it was printed. -/
theorem parse?_print {gs : List Nat} (h : IsAddress gs) :
    parse? (print gs) = some gs := by
  rcases hrun : longestZeros gs with ⟨start, length⟩
  have hgs := eq_of_longestZeros hrun
  have hlengths := congrArg List.length hgs
  simp only [List.length_append, List.length_take, List.length_replicate,
    List.length_drop, h.eight] at hlengths
  have hfront : ∀ g ∈ gs.take start, g < 65536 :=
    fun g hg => h.short g (List.mem_of_mem_take hg)
  have hback : ∀ g ∈ gs.drop (start + length), g < 65536 :=
    fun g hg => h.short g (List.mem_of_mem_drop hg)
  unfold print
  rw [hrun]
  dsimp only
  split
  · -- Nothing was left out, and there is no gap to be found.
    have hsome : gs ≠ [] := List.ne_nil_of_length_pos (by rw [h.eight]; decide)
    have hgap : cutAtGap (printGroups gs) = none := by
      have hnone := cutAtGap_printGroups gs []
      rwa [List.append_nil] at hnone
    rw [parse?, hgap]
    dsimp only
    rw [pieces_printGroups hsome, groups?_toDigits h.short]
    simp [h.eight]
  · rename_i hlong
    have hgap : cutAtGap (printGroups (gs.take start) ++ [':', ':']
          ++ printGroups (gs.drop (start + length)))
        = some (printGroups (gs.take start),
          printGroups (gs.drop (start + length))) := by
      rw [List.append_assoc, cutAtGap_printGroups]
      simp [cutAtGap]
    rw [parse?, hgap]
    dsimp only
    rw [side?_printGroups (mapM_group?_toDigits hfront),
      side?_printGroups (groups?_toDigits hback)]
    have hgiven : (gs.take start).length
        + (gs.drop (start + length)).length = 8 - length := by
      simp only [List.length_take, List.length_drop, h.eight]
      omega
    have hmissing : 8 - (8 - length) = length := by omega
    simp only [Option.bind_eq_bind, Option.bind_some, hgiven, hmissing]
    rw [if_pos (by omega), ← hgs]

/-- Colons and digits are all that an address prints as. -/
theorem exists_of_mem_print {gs : List Nat} {c : Char} (h : c ∈ print gs) :
    c = ':' ∨ ∃ d < 16, c = Nat.digitChar d := by
  have hgroups (gs : List Nat) (hc : c ∈ printGroups gs) :
      c = ':' ∨ ∃ d < 16, c = Nat.digitChar d := by
    induction gs with
    | nil => simp [printGroups, List.intercalate] at hc
    | cons g gs ih =>
      cases gs with
      | nil =>
        rw [printGroups_singleton] at hc
        exact .inr (exists_of_mem_toDigits hc)
      | cons g' gs =>
        rw [printGroups_cons] at hc
        rcases List.mem_append.1 hc with hc | hc
        · exact .inr (exists_of_mem_toDigits hc)
        · rcases List.mem_cons.1 hc with hc | hc
          · exact .inl hc
          · exact ih hc
  unfold print at h
  dsimp only at h
  split at h
  · exact hgroups gs h
  · simp only [List.mem_append] at h
    rcases h with (h | h) | h
    · exact hgroups _ h
    · simp at h
      exact .inl h
    · exact hgroups _ h

-- The first of two runs that are as long as each other is left out.
example : print [0x2001, 0xdb8, 0, 0, 1, 0, 0, 1]
    = "2001:db8::1:0:0:1".toList := by decide

end SaslGate.Ipv6
