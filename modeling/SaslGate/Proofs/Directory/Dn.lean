/-
Names of users in a distinguished name. Whatever a name contains, it is read
back as it was, and it adds nothing to the structure of the distinguished
name around it.

# How a value is read

`DnPiece` is RFC 4514 seen from the reader: a written value is a row of
characters that stand for themselves and of escapes, and `DnPiece.ofText?`
takes a text apart into them. Every escape is complete in itself, so that the
pieces of a text follow one another in one way only, and what is written for
one character can be looked at without its neighbours.

# What separates

A reader of the whole name looks for separators first, and passes over one
that is escaped. Whether it is depends on the backslashes in front of it, and
these may reach back across the place of the name. `armed` is that dependence
in one bit: whether the next character is escaped. A row of pieces leaves the
bit as it found it at the front (`not_armed_pieces`), and this is all that
the text behind it can notice.
-/
import SaslGate.Directory.Dn
import SaslGate.Proofs.Text
import SaslGate.Text.Hex
import Mathlib.Data.List.Induction

namespace SaslGate

-- ================================================================ pieces

/-- A character of a value that is written in two, or stands for itself. -/
inductive DnPiece
  | plain (c : Char)
  /-- A backslash and the character that is meant. -/
  | escaped (c : Char)
  /-- A backslash and a byte in two hexadecimal digits. -/
  | octet (high low : Char)
  deriving DecidableEq, Repr

/-- Characters that may stand behind a backslash for themselves. -/
def isDnEscapable (c : Char) : Bool := isDnSpecial c || c = ' ' || c = '#'

/-- The value of a hexadecimal digit in either case. -/
def dnHexValue? (c : Char) : Option Nat := Text.hexValue? c.toLower

namespace DnPiece

/-- How a piece is written. -/
def text : DnPiece → List Char
  | plain c => [c]
  | escaped c => ['\\', c]
  | octet high low => ['\\', high, low]

/-- The bytes that a piece stands for. -/
def bytes : DnPiece → Bytes
  | plain c | escaped c => String.utf8EncodeChar c
  | octet high low =>
    [UInt8.ofNat ((dnHexValue? high).getD 0 * 16 + (dnHexValue? low).getD 0)]

/-- The pieces of a text, if every backslash in it begins an escape. -/
def ofText? : List Char → Option (List DnPiece)
  | [] => some []
  | c :: rest =>
    if c ≠ '\\' then (ofText? rest).map (plain c :: ·)
    else
      match rest with
      | [] => none
      | c :: rest =>
        if isDnEscapable c then (ofText? rest).map (escaped c :: ·)
        else
          match rest with
          | [] => none
          | d :: rest =>
            if (dnHexValue? c).isSome ∧ (dnHexValue? d).isSome then
              (ofText? rest).map (octet c d :: ·)
            else none

/-- A piece that is read as it is written. -/
def Proper : DnPiece → Prop
  | plain c => c ≠ '\\'
  | escaped c => isDnEscapable c = true
  | octet high low => isDnEscapable high = false
      ∧ (dnHexValue? high).isSome ∧ (dnHexValue? low).isSome

/-- A piece that is written is the first that is read. -/
theorem ofText?_text_append {p : DnPiece} (h : p.Proper) (rest : List Char) :
    ofText? (p.text ++ rest) = (ofText? rest).map (p :: ·) := by
  cases p with
  | plain c =>
    show ofText? (c :: rest) = _
    rw [ofText?.eq_def]
    exact if_pos h
  | escaped c =>
    show ofText? ('\\' :: c :: rest) = _
    rw [ofText?.eq_def]
    exact if_pos h
  | octet high low =>
    obtain ⟨hhigh, hdigits⟩ := h
    show ofText? ('\\' :: high :: low :: rest) = _
    rw [ofText?.eq_def]
    simp [hhigh, hdigits]

/-- Pieces are read as they are written, one after the other. -/
theorem ofText?_flatMap_text {ps : List DnPiece} (h : ∀ p ∈ ps, p.Proper) :
    ofText? (ps.flatMap text) = some ps := by
  induction ps with
  | nil => rfl
  | cons p ps ih =>
    obtain ⟨hp, hps⟩ := List.forall_mem_cons.1 h
    rw [List.flatMap_cons, ofText?_text_append hp, ih hps]
    rfl

/-- Pieces of one value, none of which a reader could take for something
else: only harmless characters stand for themselves, and no blank or hash at
an end of the value, where it would get lost or be a sign. -/
structure Contained (ps : List DnPiece) : Prop where
  plain : ∀ c, plain c ∈ ps → isDnSpecial c = false ∧ c ≠ '\x00'
  first : ∀ c, ps.head? = some (.plain c) → c ≠ ' ' ∧ c ≠ '#'
  last : ps.getLast? ≠ some (.plain ' ')

-- ============================================================= one value

/-- The piece that is written for a character. -/
def ofChar (first last : Bool) (c : Char) : DnPiece :=
  if isDnSpecial c then escaped c
  else if c = '#' ∧ first then escaped '#'
  else if c = ' ' ∧ (first ∨ last) then escaped ' '
  else if c = '\x00' then octet '0' '0'
  else plain c

/-- The pieces that are written for the rest of a value. -/
def ofChars (first : Bool) : List Char → List DnPiece
  | [] => []
  | c :: rest => ofChar first rest.isEmpty c :: ofChars false rest

section Characters

variable (first last : Bool) (c : Char)

/-- What is written for a character is the text of its piece. -/
theorem text_ofChar :
    (ofChar first last c).text = dnEscapeChar first last c := by
  unfold ofChar dnEscapeChar
  split
  · rfl
  · split
    · rfl
    · split
      · rfl
      · split <;> rfl

/-- The piece of a character stands for the bytes of the character. -/
theorem bytes_ofChar :
    (ofChar first last c).bytes = String.utf8EncodeChar c := by
  unfold ofChar
  split
  · rfl
  · split
    · rename_i hhash
      rw [hhash.1]
      rfl
    · split
      · rename_i hblank
        rw [hblank.1]
        rfl
      · split
        · rename_i hnul
          rw [hnul]
          decide
        · rfl

/-- The piece of a character is read as such. -/
theorem proper_ofChar : (ofChar first last c).Proper := by
  unfold ofChar
  split
  · rename_i hspecial
    simp [Proper, isDnEscapable, hspecial]
  · rename_i hspecial
    split
    · exact rfl
    · split
      · exact rfl
      · split
        · exact ⟨rfl, rfl, rfl⟩
        · rintro rfl
          exact hspecial (by decide)

variable {first last c}

/-- A character is written as it is only if it is harmless at its place. -/
theorem ofChar_eq_plain {d : Char} (h : ofChar first last c = plain d) :
    isDnSpecial d = false ∧ d ≠ '\x00' ∧ (first → d ≠ ' ' ∧ d ≠ '#')
      ∧ (last → d ≠ ' ') := by
  unfold ofChar at h
  split at h
  · cases h
  · split at h
    · cases h
    · split at h
      · cases h
      · split at h
        · cases h
        · rename_i hspecial hhash hblank hnul
          cases h
          refine ⟨by simpa using hspecial, hnul, ?_, ?_⟩
          · intro hfirst
            exact ⟨fun hc => hblank ⟨hc, .inl hfirst⟩,
              fun hc => hhash ⟨hc, hfirst⟩⟩
          · exact fun hlast hc => hblank ⟨hc, .inr hlast⟩

end Characters

section Values

variable {first : Bool} {cs : List Char}

/-- A value is written piece by piece. -/
theorem flatMap_text_ofChars (first : Bool) (cs : List Char) :
    (ofChars first cs).flatMap text = dnEscapeFrom first cs := by
  induction cs generalizing first with
  | nil => rfl
  | cons c cs ih =>
    rw [ofChars, List.flatMap_cons, text_ofChar, ih, dnEscapeFrom]

theorem flatMap_bytes_ofChars (first : Bool) (cs : List Char) :
    (ofChars first cs).flatMap bytes = cs.flatMap String.utf8EncodeChar := by
  induction cs generalizing first with
  | nil => rfl
  | cons c cs ih =>
    rw [ofChars, List.flatMap_cons, List.flatMap_cons, bytes_ofChar, ih]

/-- Each of them is read as such. -/
theorem proper_of_mem_ofChars {p : DnPiece} (h : p ∈ ofChars first cs) :
    p.Proper := by
  induction cs generalizing first with
  | nil => cases h
  | cons c cs ih =>
    rcases List.mem_cons.1 h with rfl | hmem
    · exact proper_ofChar _ _ _
    · exact ih hmem

/-- No special character and no NUL is written as it is. -/
theorem plain_of_mem_ofChars {d : Char} (h : plain d ∈ ofChars first cs) :
    isDnSpecial d = false ∧ d ≠ '\x00' := by
  induction cs generalizing first with
  | nil => cases h
  | cons c cs ih =>
    rcases List.mem_cons.1 h with heq | hmem
    · obtain ⟨hspecial, hnul, -⟩ := ofChar_eq_plain heq.symm
      exact ⟨hspecial, hnul⟩
    · exact ih hmem

/-- The last character of a value is known to be the last. -/
theorem getLast?_ofChars (first : Bool) (cs : List Char) :
    (ofChars first cs).getLast? ≠ some (plain ' ') := by
  induction cs generalizing first with
  | nil => nofun
  | cons c cs ih =>
    cases cs with
    | nil =>
      intro h
      exact (ofChar_eq_plain (Option.some.inj h)).2.2.2 rfl rfl
    | cons d cs => exact ih false

/-- So the pieces of a value stay within it. Its ends are looked at by the
first character and the last. -/
theorem contained_ofChars (cs : List Char) : Contained (ofChars true cs) := by
  refine ⟨fun d => plain_of_mem_ofChars, ?_, getLast?_ofChars true cs⟩
  intro d h
  cases cs with
  | nil => cases h
  | cons c cs => exact (ofChar_eq_plain (Option.some.inj h)).2.2.1 rfl

/-- A value in a distinguished name is taken apart into the pieces that were
written. -/
theorem ofText?_dnEscape (cs : List Char) :
    ofText? (dnEscape cs) = some (ofChars true cs) := by
  rw [dnEscape, ← flatMap_text_ofChars]
  exact ofText?_flatMap_text fun p => proper_of_mem_ofChars

end Values

end DnPiece

/-- The value that a text spells in a distinguished name. -/
def dnUnescape? (written : List Char) : Option String :=
  (DnPiece.ofText? written).bind fun ps =>
    Utf8.decode? (ps.flatMap DnPiece.bytes)

/-- A value is read back as it was written. -/
theorem dnUnescape?_dnEscape (value : String) :
    dnUnescape? (dnEscape value.toList) = some value := by
  rw [dnUnescape?, DnPiece.ofText?_dnEscape, Option.bind_some,
    DnPiece.flatMap_bytes_ofChars, ← Utf8.encode_ofList, String.ofList_toList,
    Utf8.decode?_encode]

-- ============================================================ separators

/-- The number of backslashes at the end of a text. -/
def trailingBackslashes (cs : List Char) : Nat :=
  (cs.reverse.takeWhile (· = '\\')).length

/-- Characters that begin or end a part of a distinguished name. -/
def isDnSeparator (c : Char) : Bool := c = ',' || c = '+' || c = ';' || c = '='

/-- A separator stands at this place, with an even number of backslashes in
front of it. -/
def SeparatesAt (cs : List Char) (i : Nat) : Prop :=
  ∃ c, cs[i]? = some c ∧ isDnSeparator c = true
    ∧ trailingBackslashes (cs.take i) % 2 = 0

/-- Whether a text leaves the character behind it escaped, if the character in
front of it left the first one so. -/
def armed (before : Bool) (cs : List Char) : Bool :=
  cs.foldl (fun b c => c = '\\' && !b) before

/-- Whether an escape is open is carried from one text to the next. -/
theorem armed_append (b : Bool) (xs ys : List Char) :
    armed b (xs ++ ys) = armed (armed b xs) ys := List.foldl_append

/-- A backslash makes one more at the end, and any other character makes none
of them. -/
theorem trailingBackslashes_concat (cs : List Char) (c : Char) :
    trailingBackslashes (cs ++ [c])
      = if c = '\\' then trailingBackslashes cs + 1 else 0 := by
  unfold trailingBackslashes
  rw [List.reverse_append, List.reverse_singleton, List.singleton_append,
    List.takeWhile_cons]
  by_cases hc : c = '\\' <;> simp [hc]

/-- The backslashes at the end come in pairs exactly if they escape nothing
behind them. -/
theorem trailingBackslashes_mod_two (cs : List Char) :
    trailingBackslashes cs % 2 = 0 ↔ armed false cs = false := by
  induction cs using List.reverseRecOn with
  | nil => simp [trailingBackslashes, armed]
  | append_singleton cs c ih =>
    -- one more backslash turns the parity and the escape around
    have hstep : armed false (cs ++ [c])
        = (decide (c = '\\') && !armed false cs) := by
      rw [armed_append]
      rfl
    rw [trailingBackslashes_concat, hstep]
    by_cases hc : c = '\\'
    · rw [if_pos hc, decide_eq_true hc, Bool.true_and, Bool.not_eq_false',
        ← Bool.not_eq_false, ← ih]
      omega
    · simp [hc]

/-- A separator is one unless an escape is open in front of it. -/
theorem separatesAt_iff {cs : List Char} {i : Nat} :
    SeparatesAt cs i ↔ ∃ c, cs[i]? = some c ∧ isDnSeparator c = true
      ∧ armed false (cs.take i) = false := by
  simp only [SeparatesAt, trailingBackslashes_mod_two]

/-- A text that escapes nothing behind it leaves the separators behind it as
they are. -/
theorem separatesAt_append {xs : List Char} (h : armed false xs = false)
    (ys : List Char) (i : Nat) :
    SeparatesAt (xs ++ ys) i ↔
      SeparatesAt xs i ∨ ∃ j, i = xs.length + j ∧ SeparatesAt ys j := by
  simp only [separatesAt_iff]
  -- in the front, or in the back, where nothing is armed at first
  by_cases hi : i < xs.length
  · rw [List.getElem?_append_left hi, List.take_append_of_le_length (by omega)]
    constructor
    · exact .inl
    · rintro (hleft | ⟨j, rfl, -⟩)
      · exact hleft
      · omega
  · obtain ⟨j, rfl⟩ := Nat.exists_eq_add_of_le (Nat.le_of_not_lt hi)
    rw [List.getElem?_append_right (by omega), List.take_length_add_append,
      armed_append, h, Nat.add_sub_cancel_left]
    constructor
    · intro hright
      exact .inr ⟨j, rfl, hright⟩
    · rintro (⟨c, hc, -⟩ | ⟨k, hk, hright⟩)
      · rw [List.getElem?_eq_none (by omega)] at hc
        cases hc
      · obtain rfl : j = k := by omega
        exact hright

namespace DnPiece

variable {p : DnPiece} {ps : List DnPiece}

/-- A digit of a byte neither escapes nor separates. -/
theorem digit_harmless {c : Char} (h : (dnHexValue? c).isSome = true) :
    c ≠ '\\' ∧ isDnSeparator c = false := by
  constructor
  · rintro rfl
    cases h
  · rw [Bool.eq_false_iff]
    intro hseparator
    simp only [isDnSeparator, Bool.or_eq_true, decide_eq_true_eq] at hseparator
    rcases hseparator with ((rfl | rfl) | rfl) | rfl <;> cases h

/-- Every separator is written as an escape. -/
theorem special_of_separator {c : Char} (h : isDnSeparator c = true) :
    isDnSpecial c = true := by
  simp only [isDnSeparator, Bool.or_eq_true, decide_eq_true_eq] at h
  rcases h with ((rfl | rfl) | rfl) | rfl <;> rfl

/-- A piece escapes nothing behind it. -/
theorem armed_text (proper : p.Proper) : armed false p.text = false := by
  cases p with
  | plain c =>
    have hc : c ≠ '\\' := proper
    simp [text, armed, hc]
  | escaped c => simp [text, armed]
  | octet high low =>
    have hlow := (digit_harmless proper.2.2).1
    simp [text, armed, hlow]

/-- No separator in a piece stands by itself. -/
theorem not_separatesAt_text (proper : p.Proper)
    (harmless : ∀ c, p = plain c → isDnSpecial c = false) (i : Nat) :
    ¬ SeparatesAt p.text i := by
  rw [separatesAt_iff]
  rintro ⟨c, hc, hseparator, hfree⟩
  cases p with
  | plain d =>
    match i, hc with
    | 0, rfl =>
      have hspecial := special_of_separator hseparator
      rw [harmless d rfl] at hspecial
      cases hspecial
  | escaped d =>
    match i, hc with
    | 0, rfl => cases hseparator
    | 1, rfl => cases hfree
  | octet high low =>
    match i, hc with
    | 0, rfl => cases hseparator
    | 1, rfl => cases hfree
    | 2, rfl =>
      rw [(digit_harmless proper.2.2).2] at hseparator
      cases hseparator

/-- A row of pieces escapes nothing behind it. -/
theorem armed_pieces (proper : ∀ p ∈ ps, p.Proper) :
    armed false (ps.flatMap text) = false := by
  induction ps with
  | nil => rfl
  | cons p ps ih =>
    obtain ⟨hp, hps⟩ := List.forall_mem_cons.1 proper
    rw [List.flatMap_cons, armed_append, armed_text hp, ih hps]

/-- No separator in a row of pieces stands by itself, if none of them is a
character that has to be escaped. -/
theorem not_separatesAt_pieces (proper : ∀ p ∈ ps, p.Proper)
    (harmless : ∀ c, plain c ∈ ps → isDnSpecial c = false) (i : Nat) :
    ¬ SeparatesAt (ps.flatMap text) i := by
  induction ps generalizing i with
  | nil =>
    rintro ⟨c, hc, -⟩
    cases hc
  | cons p ps ih =>
    obtain ⟨hp, hps⟩ := List.forall_mem_cons.1 proper
    rw [List.flatMap_cons, separatesAt_append (armed_text hp)]
    rintro (hhere | ⟨j, -, hthere⟩)
    · refine not_separatesAt_text hp ?_ i hhere
      rintro c rfl
      exact harmless c List.mem_cons_self
    · exact ih hps (fun c hc => harmless c (List.mem_cons_of_mem p hc)) j hthere

end DnPiece

-- ========================================================= whole names

/-- The place of the name is the first `%s`. -/
theorem eq_append_of_cutAtMark {cs head tail : List Char}
    (h : cutAtMark cs = some (head, tail)) :
    cs = head ++ ['%', 's'] ++ tail := by
  fun_induction cutAtMark cs generalizing head with
  | case1 rest =>
    cases h
    rfl
  | case2 c rest _ ih =>
    obtain ⟨⟨head', tail'⟩, hrest, heq⟩ := Option.map_eq_some_iff.1 h
    cases heq
    rw [ih hrest]
    rfl
  | case3 => cases h

namespace DnTemplate

variable {template : String} {t : DnTemplate}

/-- A template has a first placeholder and no second. -/
theorem ofString_eq_ok_iff :
    ofString template = .ok t ↔
      cutAtMark template.toList = some (t.head, t.tail)
      ∧ cutAtMark t.tail = none := by
  unfold ofString
  split
  · -- cut at the first placeholder, and the rest is asked for another
    rename_i head tail hcut
    rw [hcut]
    split
    · rename_i htail
      rw [Option.isNone_iff_eq_none] at htail
      constructor
      · rintro ⟨⟩
        exact ⟨rfl, htail⟩
      · rintro ⟨⟨⟩, -⟩
        rfl
    · rename_i htail
      rw [Option.isNone_iff_eq_none] at htail
      constructor
      · nofun
      · rintro ⟨⟨⟩, hnone⟩
        exact absurd hnone htail
  · rename_i hcut
    simp [hcut]

/-- The placeholder stands between the two halves. -/
theorem eq_text_of_ofString (h : ofString template = .ok t) :
    template.toList = t.head ++ ['%', 's'] ++ t.tail :=
  eq_append_of_cutAtMark (ofString_eq_ok_iff.1 h).1

/-- The name takes the place of the placeholder. -/
theorem toList_format (t : DnTemplate) (username : String) :
    (t.format username).toList
      = t.head ++ dnEscape username.toList ++ t.tail :=
  String.toList_ofList

/-- The halves are the same for everybody, so what is between them tells the
users apart. -/
theorem format_injective (t : DnTemplate) {u v : String}
    (h : t.format u = t.format v) : u = v := by
  have hlists := congrArg String.toList h
  rw [toList_format, toList_format, List.append_cancel_right_eq,
    List.append_cancel_left_eq] at hlists
  have hvalues := congrArg dnUnescape? hlists
  rw [dnUnescape?_dnEscape, dnUnescape?_dnEscape] at hvalues
  exact Option.some.inj hvalues

/-- What a name looks like in its place, and what it does to the separators
of the whole. -/
structure Holds (t : DnTemplate) (username : String) (written : List Char) :
    Prop where
  whole : (t.format username).toList = t.head ++ written ++ t.tail
  /-- The name is read back. -/
  value : dnUnescape? written = some username
  /-- Nothing in it stands for itself that could be taken for a sign. -/
  contained : ∃ ps, DnPiece.ofText? written = some ps
    ∧ written = ps.flatMap DnPiece.text ∧ DnPiece.Contained ps
  /-- The whole is separated where the template is, and nowhere else. -/
  separators : ∀ i, SeparatesAt (t.format username).toList i ↔
    SeparatesAt t.head i
    ∨ ∃ j, i = t.head.length + written.length + j ∧ SeparatesAt t.tail j

/-- A user name in a template whose text in front of the place ends in no half
of an escape: the name is read back as it was, whatever it contains, and the
name of the user is separated exactly where the template is. Different users
have different names. -/
theorem username_contained (accepted : ofString template = .ok t)
    (paired : trailingBackslashes t.head % 2 = 0) :
    template.toList = t.head ++ ['%', 's'] ++ t.tail
    ∧ (∀ username, ∃ written, t.Holds username written)
    ∧ ∀ u v, t.format u = t.format v → u = v := by
  refine ⟨eq_text_of_ofString accepted, fun username => ?_,
    fun u v => t.format_injective⟩
  let ps := DnPiece.ofChars true username.toList
  have hwritten : dnEscape username.toList = ps.flatMap DnPiece.text :=
    (DnPiece.flatMap_text_ofChars true _).symm
  have hcontained : DnPiece.Contained ps := DnPiece.contained_ofChars _
  have hproper : ∀ p ∈ ps, p.Proper := fun p => DnPiece.proper_of_mem_ofChars
  have hhead : armed false t.head = false :=
    (trailingBackslashes_mod_two _).1 paired
  -- neither the front nor the name ends in half an escape
  have hfront : armed false (t.head ++ dnEscape username.toList) = false := by
    rw [armed_append, hhead, hwritten, DnPiece.armed_pieces hproper]
  refine ⟨dnEscape username.toList, t.toList_format username,
    dnUnescape?_dnEscape username,
    ⟨ps, DnPiece.ofText?_dnEscape _, hwritten, hcontained⟩, fun i => ?_⟩
  rw [toList_format, separatesAt_append hfront, separatesAt_append hhead,
    List.length_append]
  constructor
  · rintro ((hinHead | ⟨j, -, hinName⟩) | hinTail)
    · exact .inl hinHead
    · rw [hwritten] at hinName
      exact absurd hinName (DnPiece.not_separatesAt_pieces hproper
        (fun c hc => (hcontained.plain c hc).1) j)
    · exact .inr hinTail
  · rintro (hinHead | hinTail)
    · exact .inl (.inl hinHead)
    · exact .inr hinTail

end DnTemplate

-- ============================================================= a rehearsal

namespace Rehearsal

/-- A template with an escaped backslash right in front of the place. -/
def backslashTemplate : DnTemplate :=
  ⟨"cn=\\\\".toList, "#,o=x".toList⟩

/-- A name that begins with a blank, tries to add an attribute, and ends in a
backslash. -/
def forwardName : String := " a,o=\x00\\"

/-- The name stays in its place. -/
theorem username_contained_rehearsal :
    DnTemplate.ofString "cn=\\\\%s#,o=x" = .ok backslashTemplate
    ∧ trailingBackslashes backslashTemplate.head % 2 = 0
    ∧ backslashTemplate.format forwardName = "cn=\\\\\\ a\\,o\\=\\00\\\\#,o=x"
    ∧ (∃ written, backslashTemplate.Holds forwardName written)
    ∧ backslashTemplate.format "" ≠ backslashTemplate.format forwardName := by
  have haccepted : DnTemplate.ofString "cn=\\\\%s#,o=x"
      = .ok backslashTemplate := rfl
  have hpaired : trailingBackslashes backslashTemplate.head % 2 = 0 := by
    decide
  obtain ⟨-, hholds, hinjective⟩ :=
    DnTemplate.username_contained haccepted hpaired
  refine ⟨haccepted, hpaired, rfl, hholds forwardName, ?_⟩
  exact fun h => absurd (hinjective _ _ h) (by decide)

end Rehearsal

end SaslGate
