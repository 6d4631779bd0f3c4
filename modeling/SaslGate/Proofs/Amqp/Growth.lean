/-
How long a value becomes that is read and written again. A short form may
come back as a long one: an array may be read with lengths of one byte and
is always written with lengths of four. But each byte that is read pays for
at most four written ones (`Affords`), so what a body of bounded length says
always has a written form of bounded length.
-/
import SaslGate.Amqp.Body
import SaslGate.Proofs.Amqp.Value

namespace SaslGate.Value

variable {α β : Type}

/-- Each byte that the reader takes pays for four of the cost of what it
gives. -/
def Affords (r : Reader α) (cost : α → Nat) : Prop :=
  ∀ bytes a rest, r bytes = .ok (a, rest) →
    cost a + 4 * rest.length ≤ 4 * bytes.length

/-- A sequence that came to its end went through both of its parts. -/
theorem bind_eq_ok {r : Reader α} {k : α → Reader β} {bytes rest : Bytes}
    {b : β} (h : (r >>= k) bytes = .ok (b, rest)) :
    ∃ a mid, r bytes = .ok (a, mid) ∧ k a mid = .ok (b, rest) := by
  change (r bytes >>= fun p => k p.1 p.2) = .ok (b, rest) at h
  cases hr : r bytes with
  | error e =>
    rw [hr] at h
    cases h
  | ok p =>
    rw [hr] at h
    exact ⟨p.1, p.2, rfl, h⟩

namespace Affords

variable {r : Reader α} {k : α → Reader β} {cost less : α → Nat}
  {costs : β → Nat}

/-- A reader that can pay for more can pay for less. -/
theorem mono (h : Affords r cost) (le : ∀ a, less a ≤ cost a) :
    Affords r less := by
  intro bytes a rest hr
  have := h bytes a rest hr
  have := le a
  omega

/-- What the first part has paid for is taken off the cost of the second. -/
theorem bind (first : Affords r cost)
    (second : ∀ a, Affords (k a) fun b => costs b - cost a) :
    Affords (r >>= k) costs := by
  intro bytes b rest h
  obtain ⟨a, mid, hr, hk⟩ := bind_eq_ok h
  have hfirst := first bytes a mid hr
  have hsecond : costs b - cost a + 4 * rest.length ≤ 4 * mid.length :=
    second a mid b rest hk
  omega

/-- A value that is paid for. -/
theorem pure {a : α} (paid : cost a = 0) :
    Affords (Pure.pure a : Reader α) cost := by
  intro bytes b rest h
  cases h
  omega

theorem throw (e : BodyError) : Affords (throw e : Reader α) cost := by
  intro bytes a rest h
  cases h

/-- Both branches have to pay, since nothing is known of the condition. -/
theorem ite {c : Prop} [Decidable c] {s : Reader α} (pos : Affords r cost)
    (neg : Affords s cost) : Affords (if c then r else s) cost := by
  split
  · exact pos
  · exact neg

/-- The cost is paid after something has been done to the value. -/
theorem map (f : α → β) (h : Affords r fun a => costs (f a)) :
    Affords (f <$> r) costs := by
  intro bytes b rest hr
  obtain ⟨a, mid, hra, hpure⟩ :=
    bind_eq_ok (k := fun a => (Pure.pure (f a) : Reader β)) hr
  cases hpure
  exact h bytes a rest hra

/-- Reading makes no bytes. -/
theorem length_rest_le (h : Affords r cost) {bytes rest : Bytes} {a : α}
    (hr : r bytes = .ok (a, rest)) : rest.length ≤ bytes.length := by
  have := h bytes a rest hr
  omega

/-- What is left unpaid is no loss to whoever asks for no payment. -/
theorem free (h : Affords r cost) : Affords r fun _ => 0 :=
  h.mono fun _ => Nat.zero_le _

/-- A reader that costs nothing only has to make no bytes. -/
theorem of_length_rest_le (h : ∀ bytes a rest, r bytes = .ok (a, rest) →
    rest.length ≤ bytes.length) : Affords r fun _ => 0 := by
  intro bytes a rest hr
  have := h bytes a rest hr
  simp only
  omega

end Affords

/-- Whatever the reader gives has the property. -/
def Gives (r : Reader α) (P : α → Prop) : Prop :=
  ∀ bytes a rest, r bytes = .ok (a, rest) → P a

namespace Gives

variable {r : Reader α} {k : α → Reader β} {P Q : α → Prop} {R : β → Prop}

theorem any (r : Reader α) : Gives r fun _ => True := fun _ _ _ _ => trivial

theorem mono (h : Gives r P) (imp : ∀ a, P a → Q a) : Gives r Q :=
  fun bytes a rest hr => imp a (h bytes a rest hr)

/-- What the first part gives, the second may rely on. -/
theorem bind (first : Gives r P) (second : ∀ a, P a → Gives (k a) R) :
    Gives (r >>= k) R := by
  intro bytes b rest h
  obtain ⟨a, mid, hr, hk⟩ := bind_eq_ok h
  exact second a (first bytes a mid hr) mid b rest hk

theorem map (f : α → β) (h : Gives r fun a => R (f a)) : Gives (f <$> r) R := by
  intro bytes b rest hr
  obtain ⟨a, mid, hra, hpure⟩ :=
    bind_eq_ok (k := fun a => (Pure.pure (f a) : Reader β)) hr
  cases hpure
  exact h bytes a rest hra

theorem pure {a : α} (h : P a) : Gives (Pure.pure a) P := by
  intro bytes b rest hb
  cases hb
  exact h

theorem throw (e : BodyError) : Gives (throw e) P := by
  intro bytes a rest h
  cases h

/-- Each branch may use what the condition says, unlike in `Affords.ite`. -/
theorem ite {c : Prop} [Decidable c] {s : Reader α} (pos : c → Gives r P)
    (neg : ¬ c → Gives s P) : Gives (if c then r else s) P := by
  split
  next hc => exact pos hc
  next hc => exact neg hc

end Gives

-- ================================================================ values

/-- A single byte pays for four, whatever it says. -/
theorem affords_byte : Affords byte fun _ => 4 := by
  intro bytes a rest h
  cases bytes with
  | nil => cases h
  | cons b tail =>
    cases h
    simp only [List.length_cons]
    omega

/-- What was taken is the front, and it is as long as was asked for. -/
theorem take_eq_ok {n : Nat} {bytes data rest : Bytes}
    (h : take n bytes = .ok (data, rest)) :
    data.length = n ∧ bytes = data ++ rest := by
  unfold take at h
  split at h
  next => cases h
  next hlen =>
    cases h
    exact ⟨List.length_take_of_le (by omega), (List.take_append_drop n _).symm⟩

theorem affords_take (n : Nat) :
    Affords (take n) fun data => 4 * data.length := by
  intro bytes data rest h
  obtain ⟨-, rfl⟩ := take_eq_ok h
  simp only [List.length_append]
  omega

theorem affords_number (n : Nat) : Affords (number n) fun _ => 4 * n := by
  refine Affords.map bigEndian ?_
  intro bytes data rest h
  obtain ⟨hlen, rfl⟩ := take_eq_ok h
  simp only [List.length_append]
  omega

/-- The length in front of the data pays for four bytes more. -/
theorem affords_counted {width : Nat} (hw : 0 < width) :
    Affords (counted width) fun data => 4 * data.length + 4 := by
  refine (affords_number width).bind fun n => ?_
  exact (affords_take n).mono fun data => by omega

/-- Text costs what its data has paid for already: decoding neither adds nor
loses a byte. -/
theorem affords_text (data : Bytes) :
    Affords (text data) fun s =>
      4 * (Utf8.encode s).length - 4 * data.length := by
  unfold text
  split
  next s hs =>
    refine Affords.pure ?_
    rw [Utf8.eq_encode_of_decode? hs]
    omega
  next => exact Affords.throw _

/-- A constructor and at most four bytes of length. -/
theorem length_writeSized_le (short long : UInt8) (data : Bytes) :
    (writeSized short long data).length ≤ data.length + 5 := by
  unfold writeSized
  split
  · simp only [List.length_cons]
    omega
  · simp only [List.length_cons, List.length_append, length_bigEndian32]
    omega

/-- The constructor and the length pay for two times four bytes, three more
than the long form needs. -/
theorem affords_sized (short long : UInt8) :
    Affords (sized short long) fun data =>
      4 * data.length + 8 := by
  refine affords_byte.bind fun c => ?_
  refine .ite ?_ (.ite ?_ (.throw _))
  · exact (affords_counted Nat.one_pos).mono fun data => by omega
  · exact (affords_counted (by decide)).mono fun data => by omega

theorem affords_binary : Affords binary fun data => (writeBinary data).length :=
  (affords_sized _ _).mono fun data => by
    have := length_writeSized_le 0xa0 0xb0 data
    rw [writeBinary]
    omega

/-- Text behind its length may grow from the short form to the long one, and
has paid for it. -/
theorem affords_sized_text (short long : UInt8) :
    Affords (sized short long >>= text) fun s =>
      (writeSized short long (Utf8.encode s)).length := by
  refine (affords_sized short long).bind fun data => ?_
  refine (affords_text data).mono fun s => ?_
  have := length_writeSized_le short long (Utf8.encode s)
  omega

theorem affords_string : Affords string fun s => (writeString s).length :=
  affords_sized_text _ _

theorem affords_symbol : Affords symbol fun s => (writeSymbol s).length :=
  affords_sized_text _ _

theorem affords_code : Affords code fun c => (writeCode c).length := by
  refine affords_byte.bind fun b => .ite ?_ (.throw _)
  refine affords_byte.bind fun c => ?_
  split
  next => exact Affords.pure rfl
  next => exact Affords.throw _

/-- Each symbol pays for its own four bytes of length, even where it was read
with a length of one byte. -/
theorem affords_symbols {width : Nat} (hw : 0 < width) (n : Nat) :
    Affords (symbols width n) fun names => (elements names).length := by
  induction n with
  | zero => exact Affords.pure rfl
  | succ n ih =>
    refine (affords_counted hw).bind fun data => ?_
    refine (affords_text data).bind fun s => ?_
    refine ih.bind fun names => Affords.pure ?_
    rw [length_elements_cons]
    omega

/-- An array is written in the short form while its elements fit, so a little
less has to be paid for there. -/
theorem length_writeSymbols_le (names : List String) :
    (writeSymbols names).length ≤ (elements names).length + 10
    ∧ ((elements names).length ≤ 253 →
      (writeSymbols names).length ≤ (elements names).length + 4) := by
  rw [writeSymbols_eq]
  split
  · simp only [List.length_cons]
    omega
  · simp only [List.length_cons, List.length_append, length_bigEndian32]
    omega

/-- Two numbers and the constructor of the elements pay for the whole head of
an array. -/
theorem affords_symbolArray {width : Nat} (hw : 0 < width) :
    Affords (symbolArray width) fun names => (elements names).length + 12 := by
  refine (affords_number width).bind fun _ => ?_
  refine (affords_number width).bind fun count => ?_
  refine .ite (.throw _) (affords_byte.bind fun c => ?_)
  refine .ite ?_ (.ite ?_ (.throw _))
  · exact (affords_symbols Nat.one_pos _).mono fun names => by omega
  · exact (affords_symbols (by decide) _).mono fun names => by omega

/-- One symbol with its own constructor comes back as an array. -/
theorem affords_lone {width : Nat} (hw : 0 < width) :
    Affords (do return [← text (← counted width)]) fun names =>
      (writeSymbols names).length - 4 := by
  refine (affords_counted hw).bind fun data => ?_
  refine (affords_text data).bind fun s => Affords.pure ?_
  obtain ⟨hany, hshort⟩ := length_writeSymbols_le [s]
  rw [length_elements_cons] at hany hshort
  have hnil : (elements []).length = 0 := rfl
  omega

/-- Symbols come alone or as an array and are written as an array in either
case. -/
theorem affords_symbolOrArray :
    Affords symbolOrArray fun names => (writeSymbols names).length := by
  have harray {width : Nat} (hw : 0 < width) :
      Affords (symbolArray width) fun names =>
        (writeSymbols names).length - 4 := by
    refine (affords_symbolArray hw).mono fun names => ?_
    have := (length_writeSymbols_le names).1
    omega
  refine affords_byte.bind fun c => ?_
  refine .ite (affords_lone Nat.one_pos) (.ite (affords_lone (by decide)) ?_)
  exact .ite (harray Nat.one_pos) (.ite (harray (by decide)) (.throw _))

-- ================================================================ fields

section Fields

variable {value : Reader α} {cost : α → Nat}

/-- A field that is missing costs nothing. -/
def ofOption (cost : α → Nat) : Option α → Nat
  | none => 0
  | some a => cost a

theorem affords_some (h : Affords value cost) :
    Affords (some <$> value) (ofOption cost) := Affords.map some h

/-- A field behind the end of its list is free. -/
theorem affords_field (left : Nat) (h : Affords value cost) :
    Affords (field left value) (ofOption cost) := by
  intro bytes a rest hr
  unfold field at hr
  split at hr
  · cases hr
    simp only [ofOption]
    omega
  · exact affords_some h bytes a rest hr

/-- A mandatory field is read or nothing is. -/
theorem affords_mandatory (left : Nat) (h : Affords value cost) :
    Affords (mandatory left value) cost := by
  refine (affords_field left h).bind fun a => ?_
  split
  next a => exact Affords.pure (Nat.sub_self _)
  next => exact Affords.throw _

/-- A null is as free as a field that is missing. -/
theorem affords_nullable (h : Affords value cost) :
    Affords (nullable value) (ofOption cost) := by
  intro bytes a rest hr
  unfold nullable at hr
  split at hr
  · cases hr
    simp only [ofOption, List.length_cons]
    omega
  · exact affords_some h bytes a rest hr

theorem affords_optional (left : Nat) (h : Affords value cost) :
    Affords (optional left value) (ofOption cost) := by
  refine (affords_field left (affords_nullable h)).bind fun a => ?_
  refine Affords.pure ?_
  rcases a with _ | _ | a <;> simp [ofOption]

end Fields

/-- The head of a list pays for four bytes, whichever of its three forms it
has. -/
theorem affords_listCount : Affords listCount fun _ => 4 := by
  have hcounts (width : Nat) : Affords (do
      let _size ← number width
      number width) fun _ => 4 - 4 :=
    (affords_number width).bind fun _ =>
      (affords_number width).mono fun _ => by omega
  refine affords_byte.bind fun c => ?_
  exact .ite (.pure rfl) (.ite (hcounts 1) (.ite (hcounts 4) (.throw _)))

/-- The fields of a list take no more than each of them, where a missing one
may take the byte of a null. -/
theorem length_listContent_le (fields : List (Option Bytes)) :
    (listContent fields).length
      ≤ (fields.flatMap fun f => f.getD [0x40]).length := by
  unfold listContent
  induction fields with
  | nil => exact Nat.le_refl 0
  | cons f rest ih =>
    unfold withoutTail
    split
    · exact Nat.zero_le _
    · simp only [List.flatMap_cons, List.length_append]
      omega

/-- The long form of a head has nine bytes. -/
theorem length_listHead_le (fields : List (Option Bytes)) :
    (listHead fields).length ≤ 9 := by
  unfold listHead
  split <;> simp

end SaslGate.Value

namespace SaslGate.Label

open Value

theorem affords_symbol {width : Nat} (hw : 0 < width) :
    Affords (do return Label.symbol (← text (← counted width))) fun _ => 0 := by
  refine (affords_counted hw).free.bind fun data => ?_
  exact (affords_text data).free.bind fun s => .pure rfl

theorem affords_number (width : Nat) :
    Affords (Label.number <$> Value.number width) fun _ => 0 :=
  (Value.affords_number width).free.map Label.number

theorem affords_ofConstructor (c : UInt8) :
    Affords (ofConstructor c) fun _ => 0 := by
  refine .ite (.pure rfl) (.ite (affords_number 1) (.ite (affords_number 8) ?_))
  refine .ite (affords_symbol Nat.one_pos) ?_
  exact .ite (affords_symbol (by decide)) (.throw _)

/-- A descriptor has two bytes at least, and pays for the three that are
written and more. -/
theorem affords_descriptor : Affords descriptor fun _ => 8 := by
  refine affords_byte.bind fun b => .ite ?_ (.throw _)
  exact affords_byte.bind affords_ofConstructor

theorem affords_plain (c : UInt8) : Affords (plain c) fun _ => 0 := by
  refine .ite (.pure rfl) (.ite (affords_number 1) (.ite (affords_number 4) ?_))
  refine .ite (affords_symbol Nat.one_pos) ?_
  exact .ite (affords_symbol (by decide)) (affords_ofConstructor c)

/-- A wrapping is passed over and never written, so it has nothing to pay for.
-/
theorem affords_wrapping : Affords wrapping fun _ => 0 := by
  have hdiscard (n : Nat) : Affords (discard (take n)) fun _ => 0 :=
    (affords_take n).free.map (Function.const _ ())
  refine .of_length_rest_le fun bytes a rest h => ?_
  unfold wrapping at h
  split at h
  · exact (hdiscard 3).length_rest_le h
  · exact (hdiscard 3).length_rest_le h
  · exact (hdiscard 9).length_rest_le h
  · exact (hdiscard 9).length_rest_le h
  · cases h
    exact Nat.le_refl _

/-- Looking ahead takes nothing. -/
theorem ahead_eq_ok {r : Reader α} {bytes rest : Bytes} {a : α}
    (h : ahead r bytes = .ok (a, rest)) : rest = bytes := by
  unfold ahead at h
  cases hr : r bytes with
  | error e =>
    rw [hr] at h
    cases h
  | ok p =>
    rw [hr] at h
    cases h
    rfl

theorem affords_first : Affords first fun _ => 0 := by
  refine .of_length_rest_le fun bytes a rest h => ?_
  unfold first at h
  split at h
  next => cases h
  -- a label ahead is only looked at; a plain one is taken
  next c tail =>
    split at h
    · exact Nat.le_of_eq (congrArg List.length (ahead_eq_ok h))
    · split at h
      · exact Nat.le_succ_of_le ((affords_plain c).length_rest_le h)
      · split at h
        · cases h
          exact Nat.le_refl _
        · cases h

/-- Whatever announces a body is read for nothing. What the body has to pay
for is paid for by its own descriptor. -/
theorem affords_announced : Affords announced fun _ => 0 := by
  refine affords_wrapping.bind fun _ => affords_first.bind fun label => ?_
  refine .of_length_rest_le fun bytes p rest h => ?_
  cases hp : label.performative with
  | error e =>
    rw [hp] at h
    cases h
  | ok p =>
    rw [hp] at h
    cases h
    exact Nat.le_refl _

end SaslGate.Label
