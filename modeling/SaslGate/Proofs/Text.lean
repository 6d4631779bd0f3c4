/-
Cutting text up, seen from the other side: which texts come apart in a given
way. A cut at a separator can be undone, so each lemma is an equation on the
text, with the pieces free of the separator. What comes of pieces that are
read one by one. And what the UTF-8 bytes of a text tell of its characters.
-/
import Mathlib.Data.List.Forall2
import SaslGate.Text.Cut
import SaslGate.Text.Utf8

namespace SaslGate

-- =============================================================== cutting

namespace Text

variable {sep : Char} {cs head tail : List Char}

/-- A text with a separator in it is cut there, if none comes before. -/
theorem cutAt_append (h : sep ∉ head) (tail : List Char) :
    cutAt sep (head ++ sep :: tail) = some (head, tail) := by
  induction head with
  | nil => simp [cutAt]
  | cons c head ih =>
    obtain ⟨hc, hhead⟩ := not_or.1 (mt List.mem_cons.2 h)
    simp [cutAt, Ne.symm hc, ih hhead]

/-- A text is cut at its first separator. -/
theorem cutAt_eq_some_iff :
    cutAt sep cs = some (head, tail) ↔
      sep ∉ head ∧ cs = head ++ sep :: tail := by
  constructor
  · intro h
    induction cs generalizing head with
    | nil => cases h
    | cons c cs ih =>
      unfold cutAt at h
      split at h
      · rename_i hc
        cases h
        exact ⟨List.not_mem_nil, by rw [hc]; rfl⟩
      · rename_i hc
        obtain ⟨⟨head', tail'⟩, hcut, heq⟩ := Option.map_eq_some_iff.1 h
        cases heq
        obtain ⟨hhead, rfl⟩ := ih hcut
        exact ⟨List.not_mem_cons_of_ne_of_not_mem (Ne.symm hc) hhead, rfl⟩
  · rintro ⟨hhead, rfl⟩
    exact cutAt_append hhead tail

/-- A text without a separator is not cut, and no other. -/
theorem cutAt_eq_none_iff : cutAt sep cs = none ↔ sep ∉ cs := by
  induction cs with
  | nil => simp [cutAt]
  | cons c cs ih =>
    unfold cutAt
    split
    · rename_i hc
      simp [hc]
    · rename_i hc
      simp [ih, Ne.symm hc]

/-- A text without a separator is one piece. -/
theorem pieces_of_not_mem (h : sep ∉ cs) : pieces sep cs = [cs] := by
  induction cs with
  | nil => rfl
  | cons c cs ih =>
    obtain ⟨hc, hcs⟩ := not_or.1 (mt List.mem_cons.2 h)
    simp [pieces, Ne.symm hc, ih hcs]

/-- The first piece ends at the first separator. -/
theorem pieces_append (h : sep ∉ head) (tail : List Char) :
    pieces sep (head ++ sep :: tail) = head :: pieces sep tail := by
  induction head with
  | nil => simp [pieces]
  | cons c head ih =>
    obtain ⟨hc, hhead⟩ := not_or.1 (mt List.mem_cons.2 h)
    simp [pieces, Ne.symm hc, ih hhead]

/-- The pieces of a text are what stands before, between and behind its
separators. -/
theorem pieces_eq_cons_iff {first : List Char} {rest : List (List Char)} :
    pieces sep cs = first :: rest ↔
      (∀ piece ∈ first :: rest, sep ∉ piece)
      ∧ cs = first ++ rest.flatMap (sep :: ·) := by
  constructor
  · intro h
    induction cs generalizing first rest with
    | nil =>
      cases h
      exact ⟨by simp, rfl⟩
    | cons c cs ih =>
      unfold pieces at h
      cases hp : pieces sep cs with
      | nil => exact absurd hp (pieces_ne_nil sep cs)
      | cons piece more =>
        obtain ⟨hfree, rfl⟩ := ih hp
        split at h
        · rename_i hc
          cases h
          rw [hp] at *
          refine ⟨?_, by rw [hc]; rfl⟩
          exact List.forall_mem_cons.2 ⟨List.not_mem_nil, hfree⟩
        · rename_i hc
          rw [hp] at h
          cases h
          obtain ⟨hpiece, hmore⟩ := List.forall_mem_cons.1 hfree
          have hfirst := List.not_mem_cons_of_ne_of_not_mem (Ne.symm hc) hpiece
          exact ⟨List.forall_mem_cons.2 ⟨hfirst, hmore⟩, rfl⟩
  · rintro ⟨hfree, rfl⟩
    induction rest generalizing first with
    | nil =>
      rw [List.flatMap_nil, List.append_nil]
      exact pieces_of_not_mem (hfree first List.mem_cons_self)
    | cons piece rest ih =>
      obtain ⟨hfirst, hrest⟩ := List.forall_mem_cons.1 hfree
      rw [List.flatMap_cons, List.cons_append, pieces_append hfirst, ih hrest]

/-- Every piece but the first has a separator in front. -/
theorem intercalate_cons (sep : Char) (first : List Char)
    (rest : List (List Char)) :
    [sep].intercalate (first :: rest) = first ++ rest.flatMap (sep :: ·) := by
  induction rest generalizing first with
  | nil => simp [List.intercalate]
  | cons piece rest ih =>
    have hstep : [sep].intercalate (first :: piece :: rest)
        = first ++ sep :: [sep].intercalate (piece :: rest) := by
      simp [List.intercalate]
    rw [hstep, ih, List.flatMap_cons, List.cons_append]

/-- Pieces with separators between them are taken apart into the pieces. -/
theorem pieces_eq_iff {parts : List (List Char)} :
    pieces sep cs = parts ↔
      parts ≠ [] ∧ (∀ piece ∈ parts, sep ∉ piece)
      ∧ cs = [sep].intercalate parts := by
  cases parts with
  | nil => simp [pieces_ne_nil]
  | cons first rest =>
    rw [pieces_eq_cons_iff, intercalate_cons]
    simp

/-- Every separator makes one piece more. -/
theorem length_pieces (sep : Char) (cs : List Char) :
    (pieces sep cs).length = cs.count sep + 1 := by
  induction cs with
  | nil => rfl
  | cons c cs ih =>
    unfold pieces
    split
    · rename_i hc
      rw [hc, List.count_cons_self, List.length_cons, ih]
    · rename_i hc
      rw [List.count_cons_of_ne hc]
      cases hp : pieces sep cs with
      | nil => exact absurd hp (pieces_ne_nil sep cs)
      | cons piece rest =>
        rw [hp] at ih
        exact ih

/-- What is behind a front part is known by putting it back. -/
theorem after?_eq_some_iff :
    after? head cs = some tail ↔ cs = head ++ tail := by
  unfold after?
  constructor
  · intro h
    split at h
    · rename_i hprefix
      obtain ⟨rest, rfl⟩ := List.isPrefixOf_iff_prefix.1 hprefix
      cases h
      rw [List.drop_left]
    · cases h
  · rintro rfl
    rw [if_pos (List.isPrefixOf_iff_prefix.2 (List.prefix_append head tail)),
      List.drop_left]

-- ============================================================ one by one

section OneByOne

variable {α β ε : Type} {as : List α} {bs : List β} {f : α → Except ε β}

/-- Every member on one side has a partner on the other. -/
theorem exists_of_forall₂ {R : α → β → Prop} (h : List.Forall₂ R as bs)
    {b : β} (hb : b ∈ bs) : ∃ a ∈ as, R a b := by
  induction h with
  | nil => cases hb
  | @cons a b' as bs ha _ ih =>
    rcases List.mem_cons.1 hb with rfl | hb
    · exact ⟨a, List.mem_cons_self, ha⟩
    · obtain ⟨a', ha', hrelated⟩ := ih hb
      exact ⟨a', List.mem_cons_of_mem a ha', hrelated⟩

/-- All are read or none is, and each by itself. -/
theorem mapM_eq_some_iff {f : α → Option β} :
    as.mapM f = some bs ↔ List.Forall₂ (fun a b => f a = some b) as bs := by
  induction as generalizing bs with
  | nil => simp [eq_comm]
  | cons a as ih =>
    rw [List.mapM_cons, List.forall₂_cons_left_iff]
    constructor
    · intro h
      obtain ⟨b, hb, h⟩ := Option.bind_eq_some_iff.1 h
      obtain ⟨bs', hbs, h⟩ := Option.bind_eq_some_iff.1 h
      cases h
      exact ⟨b, bs', hb, ih.1 hbs, rfl⟩
    · intro h
      obtain ⟨b, bs', hb, hbs, rfl⟩ := h
      simp [hb, ih.2 hbs]

/-- The same with errors. -/
theorem mapM_eq_ok_iff :
    as.mapM f = .ok bs ↔ List.Forall₂ (fun a b => f a = .ok b) as bs := by
  induction as generalizing bs with
  | nil => simp [pure, Except.pure, eq_comm]
  | cons a as ih =>
    rw [List.mapM_cons, List.forall₂_cons_left_iff]
    simp only [bind, Except.bind, pure, Except.pure]
    cases hfirst : f a with
    | error e => simp
    | ok b =>
      cases hrest : as.mapM f with
      | error e => simp [← ih, hrest]
      | ok bs' => simp [← ih, hrest, eq_comm]

/-- The first error is the error of all. -/
theorem mapM_eq_error_iff {error : ε} :
    as.mapM f = .error error ↔ ∃ before a after, as = before ++ a :: after
      ∧ (∀ x ∈ before, ∃ b, f x = .ok b) ∧ f a = .error error := by
  induction as with
  | nil => simp [pure, Except.pure]
  | cons a as ih =>
    rw [List.mapM_cons]
    simp only [bind, Except.bind, pure, Except.pure]
    constructor
    · intro h
      cases hfirst : f a with
      | error e =>
        rw [hfirst] at h
        cases h
        exact ⟨[], a, as, rfl, List.forall_mem_nil _, hfirst⟩
      | ok b =>
        simp only [hfirst] at h
        cases hrest : as.mapM f with
        | ok bs =>
          rw [hrest] at h
          cases h
        | error e =>
          rw [hrest] at h
          cases h
          obtain ⟨before, a', after, rfl, hbefore, herror⟩ := ih.1 hrest
          exact ⟨a :: before, a', after, rfl,
            List.forall_mem_cons.2 ⟨⟨b, hfirst⟩, hbefore⟩, herror⟩
    · intro h
      obtain ⟨before, a', after, heq, hbefore, herror⟩ := h
      cases before with
      | nil =>
        cases heq
        rw [herror]
      | cons x before =>
        cases heq
        obtain ⟨⟨b, hfirst⟩, hbefore⟩ := List.forall_mem_cons.1 hbefore
        simp only [hfirst, ih.2 ⟨before, a', after, rfl, hbefore, herror⟩]

end OneByOne

end Text

-- ================================================================= UTF-8

namespace Utf8

/-- A text is encoded character by character. -/
theorem encode_ofList (cs : List Char) :
    encode (String.ofList cs) = cs.flatMap String.utf8EncodeChar := by
  simp [encode, List.utf8Encode]

theorem length_encode (s : String) : (encode s).length = s.utf8ByteSize := by
  rw [encode, Array.length_toList]
  rfl

theorem encode_append (s t : String) :
    encode (s ++ t) = encode s ++ encode t := by
  simp [encode]

/-- No two texts have the same bytes, since bytes are read back. -/
theorem encode_injective {s t : String} (h : encode s = encode t) : s = t := by
  have hs := decode?_encode s
  rw [h, decode?_encode] at hs
  exact (Option.some.inj hs).symm

/-- A character of one byte is its byte. -/
theorem utf8EncodeChar_ascii {c : Char} (h : c.toNat ≤ 0x7f) :
    String.utf8EncodeChar c = [UInt8.ofNat c.toNat] :=
  if_pos h

/-- The bytes of a character beyond ASCII all lie beyond it. -/
theorem utf8EncodeChar_beyond {c : Char} (h : 0x7f < c.toNat) :
    ∀ b ∈ String.utf8EncodeChar c, 0x7f < b.toNat := by
  have hnot : ¬ c.val.toNat ≤ 127 := Nat.not_le.2 h
  unfold String.utf8EncodeChar
  simp only [hnot, if_false]
  split
  · simp only [List.forall_mem_cons, UInt8.toNat_ofNat']
    exact ⟨by omega, by omega, List.forall_mem_nil _⟩
  · split
    · simp only [List.forall_mem_cons, UInt8.toNat_ofNat']
      exact ⟨by omega, by omega, by omega, List.forall_mem_nil _⟩
    · simp only [List.forall_mem_cons, UInt8.toNat_ofNat']
      exact ⟨by omega, by omega, by omega, by omega, List.forall_mem_nil _⟩

theorem utf8EncodeChar_ne_nil (c : Char) : String.utf8EncodeChar c ≠ [] := by
  intro hnil
  have hlength := String.length_utf8EncodeChar c
  rw [hnil] at hlength
  exact absurd hlength (Nat.ne_of_lt c.utf8Size_pos)

/-- An ASCII character occurs in a text as often as its byte occurs among the
bytes of the text. -/
theorem count_encode {a : Char} (ha : a.toNat ≤ 0x7f) (cs : List Char) :
    (encode (String.ofList cs)).count (UInt8.ofNat a.toNat) = cs.count a := by
  have hbyte : ∀ c : Char, c.toNat ≤ 0x7f →
      (UInt8.ofNat c.toNat).toNat = c.toNat := by
    intro c hc
    rw [UInt8.toNat_ofNat']
    omega
  rw [encode_ofList]
  induction cs with
  | nil => rfl
  | cons c cs ih =>
    rw [List.flatMap_cons, List.count_append, ih]
    by_cases hc : c = a
    · subst hc
      rw [utf8EncodeChar_ascii ha, List.count_cons_self, List.count_cons_self,
        List.count_nil]
      omega
    · have hnone : (String.utf8EncodeChar c).count (UInt8.ofNat a.toNat)
          = 0 := by
        -- another character has another byte, or only bytes beyond ASCII
        refine List.count_eq_zero.2 fun hmem => ?_
        by_cases hascii : c.toNat ≤ 0x7f
        · rw [utf8EncodeChar_ascii hascii, List.mem_singleton] at hmem
          have hsame := congrArg UInt8.toNat hmem
          rw [hbyte a ha, hbyte c hascii] at hsame
          exact hc (Char.toNat_inj.1 hsame.symm)
        · have hbeyond := utf8EncodeChar_beyond (Nat.not_le.1 hascii) _ hmem
          rw [hbyte a ha] at hbeyond
          omega
      rw [hnone, List.count_cons_of_ne hc, Nat.zero_add]

/-- Between two bounds inside ASCII it is the same to look at the bytes of a
text as at its characters. -/
theorem forall_mem_encode_iff {low high : Nat} (hhigh : high ≤ 0x7f)
    (cs : List Char) :
    (∀ b ∈ encode (String.ofList cs), low ≤ b.toNat ∧ b.toNat ≤ high) ↔
      ∀ c ∈ cs, low ≤ c.toNat ∧ c.toNat ≤ high := by
  rw [encode_ofList]
  have key : ∀ c : Char,
      (∀ b ∈ String.utf8EncodeChar c, low ≤ b.toNat ∧ b.toNat ≤ high) ↔
        low ≤ c.toNat ∧ c.toNat ≤ high := by
    intro c
    by_cases hc : c.toNat ≤ 0x7f
    · have hbyte : (UInt8.ofNat c.toNat).toNat = c.toNat := by
        rw [UInt8.toNat_ofNat']
        omega
      rw [utf8EncodeChar_ascii hc, List.forall_mem_singleton, hbyte]
    · obtain ⟨b, hb⟩ := List.exists_mem_of_ne_nil _ (utf8EncodeChar_ne_nil c)
      have hbeyond := utf8EncodeChar_beyond (Nat.not_le.1 hc) b hb
      constructor
      · intro hall
        have := (hall b hb).2
        omega
      · rintro ⟨-, hle⟩
        omega
  constructor
  · intro h c hc
    exact (key c).1 fun b hb => h b (List.mem_flatMap.2 ⟨c, hc, hb⟩)
  · intro h b hb
    obtain ⟨c, hc, hmem⟩ := List.mem_flatMap.1 hb
    exact (key c).2 (h c hc) b hmem

-- ================================================================ offsets

/-- The number of bytes that a text takes. -/
def width (cs : List Char) : Nat := (String.ofList cs).utf8ByteSize

@[simp] theorem width_nil : width [] = 0 := rfl

/-- Widths add up, which makes them offsets. -/
@[simp] theorem width_append (xs ys : List Char) :
    width (xs ++ ys) = width xs + width ys := by
  rw [width, String.ofList_append, String.utf8ByteSize_append]
  rfl

/-- The first character takes as many bytes as its size says. -/
@[simp] theorem width_cons (c : Char) (cs : List Char) :
    width (c :: cs) = c.utf8Size + width cs := by
  rw [width, ← length_encode, encode_ofList, List.flatMap_cons,
    List.length_append, String.length_utf8EncodeChar, ← encode_ofList,
    length_encode]
  rfl

/-- The bytes up to the offset of a front part are its bytes. -/
theorem take_encode_append (xs ys : List Char) :
    (encode (String.ofList (xs ++ ys))).take (width xs)
      = encode (String.ofList xs) := by
  rw [String.ofList_append, encode_append, width, ← length_encode,
    List.take_left]

/-- A text comes apart at an offset in at most one way. -/
theorem append_inj {front back front' back' : List Char}
    (h : front ++ back = front' ++ back') (hw : width front = width front') :
    front = front' ∧ back = back' := by
  have hbytes : encode (String.ofList front)
      = encode (String.ofList front') := by
    rw [← take_encode_append front back, h, hw, take_encode_append]
  obtain rfl := String.ofList_inj.1 (encode_injective hbytes)
  exact ⟨rfl, List.append_cancel_left h⟩

end Utf8

end SaslGate
