/-
User names read in place, by the offsets of their bytes: look for the next
equals sign, take the text in front of it, look at the two bytes behind it,
and go on behind those. An offset may lie inside a character, where no text
can be cut. The reader in place never has to cut there, and it reads the same
as the reader that goes character by character (`readInPlace_eq`).

# Cuts

`IsCut` is the standard library's notion of an offset at which a text can be
cut, and a slice is refused if one of its ends is no cut. `slice?_eq_some_iff`
says which slices there are: the text in the middle of three.

# Where the offsets come from

An equals sign takes one byte, and so does each of the two characters of an
escape. So the offset of an equals sign, the one behind it and the one behind
an escape are cuts (`slices_at_equals`, `readFrom_escape`). Two bytes behind an
equals sign that begins no escape there may be none; but what is behind is
only looked at, and the name is at fault either way.
-/
import SaslGate.Proofs.Auth.ClientFirst
import SaslGate.Proofs.Auth.SaslFault

namespace SaslGate

open Utf8 (width)

-- ================================================================= slices

namespace Text

/-- Whether a text can be cut at an offset: it lies in the text, and inside no
character. -/
def IsCut (cs : List Char) (i : Nat) : Prop :=
  (String.Pos.Raw.mk i).IsValid (String.ofList cs)

instance (cs : List Char) (i : Nat) : Decidable (IsCut cs i) :=
  inferInstanceAs (Decidable ((String.Pos.Raw.mk i).IsValid _))

/-- The text between two offsets, if it can be cut at both. -/
def slice? (cs : List Char) (first last : Nat) : Option (List Char) :=
  if first ≤ last ∧ IsCut cs first ∧ IsCut cs last then
    let bytes := Utf8.encode (String.ofList cs)
    (Utf8.decode? ((bytes.take last).drop first)).map String.toList
  else none

/-- The offset of the first `c`. -/
def offset? (c : Char) (cs : List Char) : Option Nat :=
  (cutAt c cs).map fun cut => width cut.1

variable {cs mid : List Char} {i j : Nat} {c : Char}

/-- A text can be cut where a front part of it ends. -/
theorem isCut_iff :
    IsCut cs i ↔ ∃ front back, cs = front ++ back ∧ i = width front := by
  rw [IsCut, String.Pos.Raw.isValid_ofList]
  constructor
  · rintro ⟨n, hn⟩
    exact ⟨cs.take n, cs.drop n, (List.take_append_drop n cs).symm, hn⟩
  · rintro ⟨front, back, rfl, rfl⟩
    exact ⟨front.length, by rw [List.take_left]; rfl⟩

/-- The middle of three texts is the slice between its ends. -/
theorem slice?_append (front mid back : List Char) :
    slice? (front ++ mid ++ back) (width front) (width front + width mid)
      = some mid := by
  have hfirst : IsCut (front ++ mid ++ back) (width front) :=
    isCut_iff.2 ⟨front, mid ++ back, List.append_assoc .., rfl⟩
  have hlast : IsCut (front ++ mid ++ back) (width (front ++ mid)) :=
    isCut_iff.2 ⟨front ++ mid, back, rfl, rfl⟩
  have hle : width front ≤ width (front ++ mid) := by simp
  rw [← Utf8.width_append, slice?, if_pos ⟨hle, hfirst, hlast⟩]
  simp only [Utf8.take_encode_append]
  rw [String.ofList_append, Utf8.encode_append, width, ← Utf8.length_encode,
    List.drop_left, Utf8.decode?_encode, Option.map_some, String.toList_ofList]

/-- Between two offsets lies what stands between the text in front of the one
and the text behind the other. -/
theorem slice?_eq_some_iff :
    slice? cs i j = some mid ↔ ∃ front back, cs = front ++ mid ++ back
      ∧ i = width front ∧ j = width front + width mid := by
  constructor
  · intro h
    unfold slice? at h
    split at h
    · rename_i hcuts
      obtain ⟨hle, hfirst, hlast⟩ := hcuts
      obtain ⟨front, more, hcs, rfl⟩ := isCut_iff.1 hfirst
      obtain ⟨head, back, rfl, rfl⟩ := isCut_iff.1 hlast
      obtain ⟨s, hs, rfl⟩ := Option.map_eq_some_iff.1 h
      -- what was decoded lies behind `front`, byte for byte
      have hbytes := Utf8.eq_encode_of_decode? hs
      rw [Utf8.take_encode_append] at hbytes
      have hfront : (Utf8.encode (String.ofList head)).take (width front)
          = Utf8.encode (String.ofList front) := by
        rw [← Utf8.take_encode_append front more, ← hcs,
          ← Utf8.take_encode_append head back, List.take_take,
          Nat.min_eq_left hle]
      have hhead : String.ofList head = String.ofList front ++ s := by
        apply Utf8.encode_injective
        rw [Utf8.encode_append, ← hfront, ← hbytes, List.take_append_drop]
      have hlist : head = front ++ s.toList := by
        rw [← String.toList_ofList (l := head), hhead, String.toList_append,
          String.toList_ofList]
      subst hlist
      exact ⟨front, back, rfl, rfl, Utf8.width_append _ _⟩
    · cases h
  · rintro ⟨front, back, rfl, rfl, rfl⟩
    exact slice?_append front mid back

-- A character of three bytes is not taken apart.
example : slice? ['=', '€'] 1 3 = none := by decide

/-- The slices that begin where a text ends that stands in front. -/
theorem slice?_behind_iff (front : List Char) :
    slice? (front ++ cs) (width front) (width front + i) = some mid ↔
      ∃ back, cs = mid ++ back ∧ i = width mid := by
  rw [slice?_eq_some_iff]
  constructor
  · rintro ⟨front', back, hcs, hfront, hlast⟩
    rw [List.append_assoc] at hcs
    obtain ⟨rfl, rfl⟩ := Utf8.append_inj hcs hfront
    exact ⟨back, rfl, Nat.add_left_cancel hlast⟩
  · rintro ⟨back, rfl, rfl⟩
    exact ⟨front, back, (List.append_assoc ..).symm, rfl, rfl⟩

theorem offset?_of_not_mem (h : c ∉ cs) : offset? c cs = none := by
  rw [offset?, cutAt_eq_none_iff.2 h]
  rfl

/-- The first separator lies as many bytes on as the text in front of it
takes. -/
theorem offset?_append {front : List Char} (h : c ∉ front)
    (back : List Char) :
    offset? c (front ++ c :: back) = some (width front) := by
  rw [offset?, cutAt_append h]
  rfl

end Text

-- ========================================================== reading in place

namespace SaslName

open ClientFirst (decodeName decodeName_eq_ok_iff decodeName_eq_error_iff)

variable {name front back code : List Char} {c : Char}

/-- Reads on in a name of `size` bytes, `user` being what was read so far and
`rest` what is left of the name; `none` if it has to be cut where it cannot
be. -/
def readFrom (size : Nat) (user rest : List Char) :
    Option (Except Nat (List Char)) :=
  match Text.offset? '=' rest with
  | none => some (.ok (user ++ rest))
  | some i =>
    match Text.slice? rest 0 i with
    | none => none
    | some plain =>
      match (Text.slice? rest (i + 1) (i + 3)).bind meant? with
      | none => some (.error (size - width rest + i))
      | some c =>
        match _h : Text.slice? rest (i + 3) (width rest) with
        | none => none
        | some more => readFrom size (user ++ plain ++ [c]) more
termination_by width rest
decreasing_by
  obtain ⟨front, back, rfl, hi, -⟩ := Text.slice?_eq_some_iff.1 _h
  simp only [Utf8.width_append]
  omega

/-- Reads a name in place. -/
def readInPlace (name : List Char) : Option (Except Nat (List Char)) :=
  readFrom (width name) [] name

-- ================================================================= one step

/-- What is taken at an equals sign: the text in front of it, and whatever
fills the two bytes behind it. -/
theorem slices_at_equals (front back : List Char) :
    Text.slice? (front ++ '=' :: back) 0 (width front) = some front
    ∧ ∀ code, Text.slice? (front ++ '=' :: back) (width front + 1)
        (width front + 3) = some code ↔
      ∃ more, back = code ++ more ∧ 2 = width code := by
  constructor
  · have hslice := Text.slice?_append [] front ('=' :: back)
    rwa [Utf8.width_nil, Nat.zero_add] at hslice
  · intro code
    have hsplit : front ++ '=' :: back = (front ++ ['=']) ++ back := by simp
    have hfirst : width front + 1 = width (front ++ ['=']) := by
      rw [Utf8.width_append]
      rfl
    have hlast : width front + 3 = width (front ++ ['=']) + 2 := by
      rw [← hfirst]
    rw [hsplit, hlast, hfirst]
    exact Text.slice?_behind_iff (front ++ ['='])

/-- Without an equals sign the rest is taken as it is. -/
theorem readFrom_plain (size : Nat) (user : List Char) (h : '=' ∉ front) :
    readFrom size user front = some (.ok (user ++ front)) := by
  rw [readFrom, Text.offset?_of_not_mem h]

/-- At an escape the reader takes the text in front, the character that is
meant, and goes on behind three bytes. -/
theorem readFrom_escape (size : Nat) (user : List Char) (h : '=' ∉ front)
    (hcode : meant? code = some c) (more : List Char) :
    readFrom size user (front ++ '=' :: (code ++ more))
      = readFrom size (user ++ front ++ [c]) more := by
  obtain ⟨hplain, hcodes⟩ := slices_at_equals front (code ++ more)
  have hslice := (hcodes code).2 ⟨more, rfl, (width_of_meant? hcode).symm⟩
  have hmore : Text.slice? (front ++ '=' :: (code ++ more)) (width front + 3)
      (width (front ++ '=' :: (code ++ more))) = some more := by
    rw [Text.slice?_eq_some_iff]
    refine ⟨front ++ '=' :: code, [], by simp, ?_, ?_⟩
    · rw [Utf8.width_append, Utf8.width_cons, width_of_meant? hcode]
      rfl
    · simp [Nat.add_assoc]
  rw [readFrom, Text.offset?_append h]
  simp only [hplain, hslice, Option.bind_some, hcode]
  split
  · rename_i hnone
    rw [hmore] at hnone
    cases hnone
  · rename_i more' hsome
    rw [hmore] at hsome
    cases hsome
    rfl

/-- An equals sign that begins no escape is reported by its offset in the
whole name, which is what is in front of the rest and of the sign in it. -/
theorem readFrom_fault (size : Nat) (user : List Char) (h : '=' ∉ front)
    (hback : ¬ EndsEscape back) :
    readFrom size user (front ++ '=' :: back)
      = some (.error (size - width (front ++ '=' :: back) + width front)) := by
  obtain ⟨hplain, hcodes⟩ := slices_at_equals front back
  have hnone : (Text.slice? (front ++ '=' :: back) (width front + 1)
      (width front + 3)).bind meant? = none := by
    rw [Option.eq_none_iff_forall_not_mem]
    intro c hc
    obtain ⟨code, hslice, hcode⟩ := Option.bind_eq_some_iff.1 hc
    obtain ⟨more, rfl, -⟩ := (hcodes code).1 hslice
    exact hback (endsEscape_iff.2 ⟨code, c, more, hcode, rfl⟩)
  rw [readFrom, Text.offset?_append h]
  simp only [hplain, hnone]

-- ============================================================== whole names

/-- Text without an equals sign stands for itself. -/
theorem decodeFrom_plain_append (h : '=' ∉ front) (offset : Nat)
    (back : List Char) :
    decodeFrom offset (front ++ back)
      = (decodeFrom (offset + width front) back).map (front ++ ·) := by
  induction front generalizing offset with
  | nil => exact (map_nil_append _).symm
  | cons c front ih =>
    obtain ⟨hc, hfront⟩ := not_or.1 (mt List.mem_cons.2 h)
    rw [Utf8.width_cons, ← Nat.add_assoc, ← map_append_map_cons,
      ← ih hfront]
    simp [decodeFrom, Ne.symm hc]

/-- What is left of a name is read in place as it is character by character,
if the bytes in front of it were counted. -/
theorem readFrom_eq {size offset : Nat} (user rest : List Char)
    (hsize : size = offset + width rest) :
    readFrom size user rest
      = some ((decodeFrom offset rest).map (user ++ ·)) := by
  cases hcut : Text.cutAt '=' rest with
  | none =>
    have hfree := Text.cutAt_eq_none_iff.1 hcut
    have hread := decodeFrom_plain_append hfree offset []
    rw [List.append_nil] at hread
    rw [readFrom_plain size user hfree, hread]
    simp [decodeFrom, Except.map]
  | some cut =>
    obtain ⟨front, back⟩ := cut
    obtain ⟨hfree, rfl⟩ := Text.cutAt_eq_some_iff.1 hcut
    rw [decodeFrom_plain_append hfree]
    -- an escape is three bytes, and behind it the count starts anew
    by_cases hback : EndsEscape back
    · obtain ⟨code, c, more, hcode, rfl⟩ := endsEscape_iff.1 hback
      have hmore : size = offset + width front + 3 + width more := by
        rw [hsize, Utf8.width_append, width_escape hcode]
        omega
      rw [readFrom_escape size user hfree hcode, readFrom_eq _ more hmore,
        decodeFrom_escaped hcode]
      cases decodeFrom (offset + width front + 3) more with
      | error pos => rfl
      | ok read => simp [Except.map]
    · rw [readFrom_fault size user hfree hback, decodeFrom_fault hback, hsize,
        Nat.add_sub_cancel]
      rfl
termination_by rest.length
decreasing_by
  subst_vars
  simp only [List.length_append, List.length_cons]
  omega

/-- Reading in place never fails to cut, and comes to what reading by
characters comes to. -/
theorem readInPlace_eq (name : List Char) :
    readInPlace name = some (decode name) := by
  rw [readInPlace, readFrom_eq [] name (Nat.zero_add _).symm, map_nil_append,
    decode]

-- ========================================================= written and read

/-- Writing a user and reading what was written gives the user back. A name
can be read exactly if every equals sign that the reader comes to begins an
escape; without a comma it is then how the user is written, so no two such
names are read as one user. Any other name is refused at its first equals sign
that begins no escape, told by the number of bytes in front of it. Reading in
place comes to the same, and cuts no name inside a character. -/
theorem escaping_exact :
    (∀ user : String, decodeName (escape user.toList) = .ok user)
    ∧ (∀ name : List Char,
      ((∃ user, decodeName name = .ok user) ↔
        ∀ rest, Reached name ('=' :: rest) → EndsEscape rest)
      ∧ (∀ error, decodeName name = .error error ↔
        ∃ before rest, FirstFault name before rest
          ∧ error = .malformedRequest
            ("Invalid escape in SCRAM saslname at offset "
              ++ toString (String.ofList before).utf8ByteSize))
      ∧ readInPlace name = some (decode name))
    ∧ (∀ name user, ',' ∉ name → decodeName name = .ok user →
      escape user.toList = name)
    ∧ ∀ name other user, ',' ∉ name → ',' ∉ other →
      decodeName name = .ok user → decodeName other = .ok user →
      name = other := by
  -- proved first, for the last part needs it twice
  have hinverse : ∀ name user, ',' ∉ name → decodeName name = .ok user →
      escape user.toList = name := by
    intro name user hfree h
    obtain ⟨cs, hread, rfl⟩ := decodeName_eq_ok_iff.1 h
    rw [String.toList_ofList]
    exact (decode_eq_ok_iff hfree).1 hread
  refine ⟨fun user => ?_, fun name => ⟨?_, fun error => ?_, ?_⟩, hinverse, ?_⟩
  · rw [decodeName_eq_ok_iff]
    exact ⟨user.toList, decode_escape _, String.ofList_toList.symm⟩
  · rw [← wellEscaped_iff_reached, ← exists_decode_iff]
    simp only [decodeName_eq_ok_iff]
    constructor
    · rintro ⟨-, cs, hread, -⟩
      exact ⟨cs, hread⟩
    · rintro ⟨cs, hread⟩
      exact ⟨_, cs, hread, rfl⟩
  · rw [decodeName_eq_error_iff]
    constructor
    · rintro ⟨offset, hread, rfl⟩
      obtain ⟨before, rest, hfault, rfl⟩ := decode_eq_error_iff.1 hread
      exact ⟨before, rest, hfault, rfl⟩
    · rintro ⟨before, rest, hfault, rfl⟩
      exact ⟨width before, hfault.decode, rfl⟩
  · exact readInPlace_eq name
  · intro name other user hname hother hread hread'
    rw [← hinverse name user hname hread, hinverse other user hother hread']

end SaslName

namespace Rehearsal

/-- Reading breaks off at an equals sign with one character of three bytes
behind it: two bytes behind the sign the name cannot be cut. -/
theorem escaping_exact_rehearsal :
    ClientFirst.decodeName "us=2Cer=3D".toList = .ok "us,er="
    ∧ SaslName.escape "us,er=".toList = "us=2Cer=3D".toList
    ∧ ¬ Text.IsCut "x=€".toList 4
    ∧ SaslName.FirstFault "x=€".toList ['x'] ['€']
    ∧ ClientFirst.decodeName "x=€".toList = .error (.malformedRequest
      "Invalid escape in SCRAM saslname at offset 1")
    ∧ SaslName.readInPlace "x=€".toList = some (.error 1) := by
  obtain ⟨hwritten, hname, hinverse, -⟩ := SaslName.escaping_exact
  obtain ⟨-, hfaults, hinPlace⟩ := hname "x=€".toList
  have hread : ClientFirst.decodeName "us=2Cer=3D".toList = .ok "us,er=" :=
    hwritten "us,er="
  have hfault : SaslName.FirstFault "x=€".toList ['x'] ['€'] := by
    refine ⟨rfl, by simp [SaslName.EndsEscape], fun front back heq hlt => ?_⟩
    obtain rfl : front = [] := List.length_eq_zero_iff.1 (Nat.lt_one_iff.1 hlt)
    cases heq
  refine ⟨hread, hinverse _ _ (by decide) hread, by decide, hfault, ?_, ?_⟩
  · exact (hfaults _).2 ⟨['x'], ['€'], hfault, rfl⟩
  · rw [hinPlace]
    rfl

end Rehearsal

end SaslGate
