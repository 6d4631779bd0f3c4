/-
Which texts are templates of a distinguished name, and what becomes of the
place for the name. A template is found by cutting the text at its first `%s`
and looking for another one behind it. `MarkAt` knows nothing of cutting: it
asks at every place of the text whether `%s` stands there. No two of these
overlap, so the first one and those behind it are all there are
(`markAt_of_cutAtMark`), and a text with one of them is put together again
from what was cut.
-/
import SaslGate.Proofs.Directory.Dn

namespace SaslGate

variable {cs head tail : List Char} {i : Nat}

-- ================================================================== places

/-- Here stands `%s`. -/
def MarkAt (cs : List Char) (i : Nat) : Prop := ['%', 's'] <+: cs.drop i

/-- The text with `value` for the two characters at a place. -/
def replaceAt (cs : List Char) (i : Nat) (value : List Char) : List Char :=
  cs.take i ++ value ++ cs.drop (i + 2)

theorem not_markAt_nil : ¬ MarkAt [] i := by simp [MarkAt]

/-- A placeholder at the front is two characters. -/
theorem markAt_zero {c : Char} :
    MarkAt (c :: cs) 0 ↔ c = '%' ∧ ∃ rest, cs = 's' :: rest := by
  constructor
  · rintro ⟨rest, hrest⟩
    cases hrest
    exact ⟨rfl, rest, rfl⟩
  · rintro ⟨rfl, rest, rfl⟩
    exact ⟨rest, rfl⟩

/-- Further on, a text has the placeholders of its tail. -/
theorem markAt_succ {c : Char} : MarkAt (c :: cs) (i + 1) ↔ MarkAt cs i := by
  rw [MarkAt, List.drop_succ_cons, MarkAt]

/-- `%s` does not overlap with itself. -/
theorem markAt_mark : MarkAt ('%' :: 's' :: cs) i ↔
    i = 0 ∨ ∃ j, i = j + 2 ∧ MarkAt cs j := by
  match i with
  | 0 => exact iff_of_true (markAt_zero.2 ⟨rfl, cs, rfl⟩) (.inl rfl)
  | 1 => simp [markAt_succ, markAt_zero]
  | i + 2 => simp [markAt_succ]

-- ================================================================= cutting

/-- The text is cut at the first place of `%s`, and the other places are those
behind the cut. -/
theorem markAt_of_cutAtMark (h : cutAtMark cs = some (head, tail)) (i : Nat) :
    MarkAt cs i ↔
      i = head.length ∨ ∃ j, i = j + 2 + head.length ∧ MarkAt tail j := by
  fun_induction cutAtMark cs generalizing head i with
  | case1 rest =>
    cases h
    exact markAt_mark
  | case2 c rest hother ih =>
    obtain ⟨⟨head', tail'⟩, hrest, heq⟩ := Option.map_eq_some_iff.1 h
    cases heq
    cases i with
    | zero =>
      have hnot : ¬ MarkAt (c :: rest) 0 := by
        rw [markAt_zero]
        rintro ⟨rfl, more, rfl⟩
        exact hother more rfl rfl
      simp [hnot]
    | succ i =>
      rw [markAt_succ, ih hrest, List.length_cons]
      simp only [← Nat.add_assoc, Nat.add_right_cancel_iff]
  | case3 => cases h

/-- A text is not cut if there is nowhere to cut it. -/
theorem cutAtMark_eq_none_iff : cutAtMark cs = none ↔ ∀ i, ¬ MarkAt cs i := by
  constructor
  · intro h i
    fun_induction cutAtMark cs generalizing i with
    | case1 rest => cases h
    | case2 c rest hother ih =>
      cases i with
      | zero =>
        rw [markAt_zero]
        rintro ⟨rfl, more, rfl⟩
        exact hother more rfl rfl
      | succ i =>
        rw [markAt_succ]
        exact ih (Option.map_eq_none_iff.1 h) i
    | case3 => exact not_markAt_nil
  · intro h
    cases hcut : cutAtMark cs with
    | none => rfl
    | some cut => exact absurd ((markAt_of_cutAtMark hcut _).2 (.inl rfl)) (h _)

/-- A text with one place for the name is cut there, and has no other place
behind it. -/
theorem existsUnique_markAt_iff :
    (∃! i, MarkAt cs i) ↔
      ∃ head tail, cutAtMark cs = some (head, tail) ∧ cutAtMark tail = none := by
  constructor
  · rintro ⟨i, hmark, hunique⟩
    cases hcut : cutAtMark cs with
    | none => exact absurd hmark (cutAtMark_eq_none_iff.1 hcut i)
    | some cut =>
      obtain ⟨head, tail⟩ := cut
      refine ⟨head, tail, rfl, cutAtMark_eq_none_iff.2 fun j hj => ?_⟩
      have hplaces := markAt_of_cutAtMark hcut
      have hfirst := hunique _ ((hplaces _).2 (.inl rfl))
      have hsecond := hunique _ ((hplaces _).2 (.inr ⟨j, rfl, hj⟩))
      omega
  · rintro ⟨head, tail, hcut, htail⟩
    have hplaces := markAt_of_cutAtMark hcut
    refine ⟨head.length, (hplaces _).2 (.inl rfl), fun i hi => ?_⟩
    rcases (hplaces i).1 hi with hfirst | ⟨j, -, hj⟩
    · exact hfirst
    · exact absurd hj (cutAtMark_eq_none_iff.1 htail j)

-- =============================================================== templates

namespace DnTemplate

variable {template : String} {t : DnTemplate}

/-- The error shows the template that was refused. -/
theorem eq_of_ofString_eq_error {e : DnTemplateError}
    (h : ofString template = .error e) : e = ⟨template⟩ := by
  unfold ofString at h
  split at h
  · split at h <;> cases h
    rfl
  · cases h
    rfl

/-- A text is a template exactly if `%s` stands at one place in it and at no
other. The template is then shown as that text, and the name of a user is that
text with the escaped user name at the place, whatever stands in the user
name. Any other text is refused, and told in the error as it was. -/
theorem substitution_exact (template : String) :
    ((∃ t, ofString template = .ok t) ↔ ∃! i, MarkAt template.toList i)
    ∧ (∀ t, ofString template = .ok t → t.text = template
      ∧ ∀ i, MarkAt template.toList i → ∀ username,
        (t.format username).toList
          = replaceAt template.toList i (dnEscape username.toList))
    ∧ ∀ e, ofString template = .error e → e = ⟨template⟩ := by
  refine ⟨?_, fun t h => ?_, fun e => eq_of_ofString_eq_error⟩
  · rw [existsUnique_markAt_iff]
    constructor
    · rintro ⟨t, h⟩
      obtain ⟨hcut, htail⟩ := ofString_eq_ok_iff.1 h
      exact ⟨t.head, t.tail, hcut, htail⟩
    · rintro ⟨head, tail, hcut, htail⟩
      exact ⟨⟨head, tail⟩, ofString_eq_ok_iff.2 ⟨hcut, htail⟩⟩
  · obtain ⟨hcut, htail⟩ := ofString_eq_ok_iff.1 h
    have htext := eq_text_of_ofString h
    refine ⟨?_, fun i hi username => ?_⟩
    · rw [text, ← htext, String.ofList_toList]
    · -- the mark is at no other place than where the template was cut
      have hplace : i = t.head.length := by
        rcases (markAt_of_cutAtMark hcut i).1 hi with hfirst | ⟨j, -, hj⟩
        · exact hfirst
        · exact absurd hj (cutAtMark_eq_none_iff.1 htail j)
      subst hplace
      rw [toList_format, replaceAt, htext]
      simp

end DnTemplate

namespace Rehearsal

/-- A second percent sign in front of the place, and a user whose name holds
the mark and a comma; and a text with two places. -/
theorem substitution_exact_rehearsal :
    (∃ t, DnTemplate.ofString "cn=%%s,o=x" = .ok t ∧ t.text = "cn=%%s,o=x"
      ∧ (t.format "%s,").toList = "cn=%%s\\,,o=x".toList)
    ∧ MarkAt "cn=%%s,o=x".toList 4
    ∧ DnTemplate.ofString "cn=%s,o=%s" = .error ⟨"cn=%s,o=%s"⟩ := by
  obtain ⟨-, hwritten, -⟩ := DnTemplate.substitution_exact "cn=%%s,o=x"
  obtain ⟨haccepted, -, hrefused⟩ := DnTemplate.substitution_exact "cn=%s,o=%s"
  have hmark : MarkAt "cn=%%s,o=x".toList 4 := ⟨",o=x".toList, rfl⟩
  obtain ⟨htext, hformat⟩ := hwritten ⟨"cn=%".toList, ",o=x".toList⟩ rfl
  refine ⟨⟨_, rfl, htext, hformat 4 hmark "%s,"⟩, hmark, ?_⟩
  cases hread : DnTemplate.ofString "cn=%s,o=%s" with
  | error e => rw [hrefused e hread]
  | ok t =>
    obtain ⟨i, -, hunique⟩ := haccepted.1 ⟨t, hread⟩
    have hfirst := hunique 3 ⟨",o=%s".toList, rfl⟩
    have hsecond := hunique 8 ⟨[], rfl⟩
    rw [← hfirst] at hsecond
    cases hsecond

end Rehearsal

end SaslGate
