/-
Labels and how they are spelled. A label is a form with a constructor in front
of it. Each form is read back (`reads_form`), and what is read as the name of a
performative was that form of it (`eq_bytes_of_read`), because a number below
256 has one spelling in any number of bytes (`eq_small_of_bigEndian`).
Constructors are then a table: one of descriptors, and a longer one of plain
labels.

A body need not begin with its descriptor. A list or map may be wrapped around
it, and its label may come once more before the list (`Ahead`). Neither can
bring in another performative than the descriptor names (`announced_eq_ok`).
-/
import Mathlib.Data.List.Induction
import SaslGate.Proofs.Amqp.Growth

namespace SaslGate

-- ============================================================ small numbers

/-- A number below 256, with zeros in front. -/
def small (zeros n : Nat) : Bytes := List.replicate zeros 0 ++ [UInt8.ofNat n]

@[simp] theorem length_small (zeros n : Nat) :
    (small zeros n).length = zeros + 1 := by
  simp [small]

/-- The last byte counts for itself. Numbers are read from this end, since
their zeros are at the other. -/
theorem bigEndian_concat (bytes : Bytes) (b : UInt8) :
    bigEndian (bytes ++ [b]) = bigEndian bytes * 256 + b.toNat := by
  simp [bigEndian]

theorem bigEndian_replicate_zero (zeros : Nat) :
    bigEndian (List.replicate zeros 0) = 0 := by
  induction zeros with
  | zero => rfl
  | succ zeros ih =>
    rw [List.replicate_succ', bigEndian_concat, ih]
    rfl

/-- The number zero has no spelling but zeros. -/
theorem eq_zeros_of_bigEndian {bytes : Bytes} (h : bigEndian bytes = 0) :
    bytes = List.replicate bytes.length 0 := by
  induction bytes using List.reverseRecOn with
  | nil => rfl
  | append_singleton bytes b ih =>
    rw [bigEndian_concat] at h
    have hzero : b = 0 := UInt8.toNat_inj.1 (show b.toNat = 0 by omega)
    have hfront := ih (by omega)
    rw [hzero, List.length_append, List.length_singleton,
      List.replicate_succ', ← hfront]

/-- Zeros in front do not count. -/
theorem bigEndian_small {n : Nat} (zeros : Nat) (h : n < 256) :
    bigEndian (small zeros n) = n := by
  rw [small, bigEndian_concat, bigEndian_replicate_zero, UInt8.toNat_ofNat']
  omega

/-- A small number has one spelling in a number of bytes. -/
theorem eq_small_of_bigEndian {bytes : Bytes} {zeros : Nat}
    (length : bytes.length = zeros + 1) (h : bigEndian bytes < 256) :
    bytes = small zeros (bigEndian bytes) := by
  obtain ⟨front, b, rfl⟩ : ∃ front b, bytes = front ++ [b] := by
    obtain rfl | ⟨front, b, hbytes⟩ := List.eq_nil_or_concat bytes
    · cases length
    · exact ⟨front, b, hbytes.trans List.concat_eq_append⟩
  rw [bigEndian_concat] at h ⊢
  have hfront : bigEndian front = 0 := by omega
  have hzeros : front.length = zeros := by simpa using length
  rw [small, hfront, Nat.zero_mul, Nat.zero_add, UInt8.ofNat_toNat,
    ← hzeros, ← eq_zeros_of_bigEndian hfront]

-- ================================================================== readers

namespace Value

variable {bytes rest : Bytes}

theorem bind_of_ok {α β : Type} {r : Reader α} {k : α → Reader β} {a : α}
    (h : r bytes = .ok (a, rest)) : (r >>= k) bytes = k a rest := by
  show (r bytes >>= fun q => k q.1 q.2) = k a rest
  rw [h]
  rfl

/-- What was read as a number is as wide as was asked for. -/
theorem number_eq_ok {width n : Nat}
    (h : number width bytes = .ok (n, rest)) :
    ∃ data : Bytes, data.length = width ∧ n = bigEndian data
      ∧ bytes = data ++ rest := by
  obtain ⟨data, mid, htake, hpure⟩ :=
    bind_eq_ok (k := fun data => (pure (bigEndian data) : Reader Nat)) h
  cases hpure
  obtain ⟨hlength, hbytes⟩ := take_eq_ok htake
  exact ⟨data, hlength, rfl, hbytes⟩

theorem eq_cons_of_byte {b : UInt8} (h : byte bytes = .ok (b, rest)) :
    bytes = b :: rest := by
  unfold byte at h
  split at h
  · cases h
  · cases h
    rfl

/-- What was read as text was its encoding. -/
theorem text_eq_ok {data : Bytes} {s : String}
    (h : text data bytes = .ok (s, rest)) :
    data = Utf8.encode s ∧ rest = bytes := by
  unfold text at h
  cases hdata : Utf8.decode? data with
  | none =>
    rw [hdata] at h
    cases h
  | some t =>
    rw [hdata] at h
    cases h
    exact ⟨Utf8.eq_encode_of_decode? hdata, rfl⟩

/-- A small number is read from any number of bytes. -/
theorem reads_number_small {n : Nat} (zeros : Nat) (h : n < 256) :
    Reads (number (zeros + 1)) (small zeros n) n := by
  have hread := (reads_take (small zeros n)).map bigEndian
  rwa [length_small, bigEndian_small zeros h] at hread

/-- A small number that was read had its one spelling. -/
theorem eq_small_of_number {zeros n : Nat} (small_n : n < 256)
    (h : number (zeros + 1) bytes = .ok (n, rest)) :
    bytes = small zeros n ++ rest := by
  obtain ⟨data, hlength, rfl, rfl⟩ := number_eq_ok h
  rw [← eq_small_of_bigEndian hlength small_n]

end Value

open Value

-- ==================================================================== forms

namespace Performative

variable {p : Performative}

theorem code_lt (p : Performative) : p.code.toNat < 256 := p.code.toNat_lt

/-- The name of every performative fits behind a length of one byte. -/
theorem length_symbol_lt (p : Performative) :
    (Utf8.encode p.symbol).length < 256 := by
  cases p <;> decide

/-- Performatives have different numbers. -/
@[simp] theorem ofCode?_code (p : Performative) :
    ofCode? p.code.toNat = some p := by
  cases p <;> rfl

/-- Performatives have different names. -/
@[simp] theorem ofSymbol?_symbol (p : Performative) :
    ofSymbol? p.symbol = some p := by
  cases p <;> decide

theorem eq_code_of_ofCode? {n : Nat} (h : ofCode? n = some p) :
    n = p.code.toNat := by
  have hfound := List.find?_some h
  exact (beq_iff_eq.1 hfound).symm

theorem eq_symbol_of_ofSymbol? {s : String} (h : ofSymbol? s = some p) :
    s = p.symbol := by
  have hfound := List.find?_some h
  exact (beq_iff_eq.1 hfound).symm

end Performative

/-- The forms of a label: a number, or a symbol behind its length. Of the bytes
of either number only the last is not zero. -/
inductive LabelForm
  | number (zeros : Nat)
  | symbol (zeros : Nat)

namespace LabelForm

/-- The label of a performative in a form. -/
def label (p : Performative) : LabelForm → Label
  | number _ => .number p.code.toNat
  | symbol _ => .symbol p.symbol

/-- The bytes of that label, without the constructor in front of them. -/
def bytes (p : Performative) : LabelForm → Bytes
  | number zeros => small zeros p.code.toNat
  | symbol zeros =>
    let text := Utf8.encode p.symbol
    small zeros text.length ++ text

/-- What reads a label of a form. -/
def reader : LabelForm → Reader Label
  | number zeros => .number <$> Value.number (zeros + 1)
  | symbol zeros => do return .symbol (← text (← counted (zeros + 1)))

variable {p : Performative}

@[simp] theorem performative?_label (p : Performative) (form : LabelForm) :
    (form.label p).performative? = some p := by
  cases form with
  | number => exact p.ofCode?_code
  | symbol => exact p.ofSymbol?_symbol

/-- A label is read back in each of its forms. -/
theorem reads_form (p : Performative) (form : LabelForm) :
    Reads form.reader (form.bytes p) (form.label p) := by
  cases form with
  | number zeros => exact (reads_number_small zeros p.code_lt).map Label.number
  | symbol zeros =>
    have hcounted := (reads_number_small zeros p.length_symbol_lt).bind
      (reads_take (Utf8.encode p.symbol))
    exact hcounted.andThen ((reads_text p.symbol).free (Reads.pure _))

/-- What was read as the name of a performative was that form of it. -/
theorem eq_bytes_of_read {form : LabelForm} {input rest : Bytes} {label : Label}
    (h : form.reader input = .ok (label, rest))
    (names : label.performative? = some p) : input = form.bytes p ++ rest := by
  cases form with
  | number zeros =>
    -- the number is small, so its leading bytes are the zeros of the form
    obtain ⟨n, mid, hnumber, hpure⟩ :=
      bind_eq_ok (k := fun n => (pure (Label.number n) : Reader Label)) h
    cases hpure
    cases Performative.eq_code_of_ofCode? names
    exact eq_small_of_number p.code_lt hnumber
  | symbol zeros =>
    obtain ⟨data, mid, hcounted, htext⟩ := bind_eq_ok h
    obtain ⟨n, tail, hnumber, htake⟩ := bind_eq_ok hcounted
    obtain ⟨s, tail', hs, hpure⟩ := bind_eq_ok htext
    cases hpure
    cases Performative.eq_symbol_of_ofSymbol? names
    obtain ⟨rfl, rfl⟩ := text_eq_ok hs
    obtain ⟨rfl, rfl⟩ := take_eq_ok htake
    rw [eq_small_of_number p.length_symbol_lt hnumber, bytes,
      List.append_assoc]

end LabelForm

-- ============================================================= constructors

namespace Label

/-- The constructors that a descriptor may have, each with the form of label
behind it. -/
def descriptorForms : List (UInt8 × LabelForm) :=
  [(0x53, .number 0), (0x80, .number 7), (0xa3, .symbol 0), (0xb3, .symbol 3)]

/-- The same for a plain label, which may also be a short number or a string. -/
def plainForms : List (UInt8 × LabelForm) :=
  [(0x52, .number 0), (0x70, .number 3), (0xa1, .symbol 0), (0xb1, .symbol 3)]
    ++ descriptorForms

/-- The spellings of a performative as a descriptor. -/
def descriptors (p : Performative) : List Bytes :=
  descriptorForms.map fun (c, form) => 0x00 :: c :: form.bytes p

/-- The spellings of a performative as a plain label. -/
def plainLabels (p : Performative) : List Bytes :=
  plainForms.map fun (c, form) => c :: form.bytes p

/-- Numbers of one byte and of eight, and symbols behind lengths of one byte and
of four. -/
example : descriptors .init = [[0x00, 0x53, 0x41],
    [0x00, 0x80, 0, 0, 0, 0, 0, 0, 0, 0x41],
    [0x00, 0xa3, 19] ++ Utf8.encode "amqp:sasl-init:list",
    [0x00, 0xb3, 0, 0, 0, 19] ++ Utf8.encode "amqp:sasl-init:list"] := by
  decide

variable {p : Performative} {c : UInt8} {form : LabelForm} {label : Label}
  {input rest : Bytes}

/-- The table of descriptors agrees with what reads them. -/
theorem ofConstructor_of_mem (h : (c, form) ∈ descriptorForms) :
    ofConstructor c = form.reader := by
  simp only [descriptorForms, List.mem_cons, Prod.mk.injEq,
    List.not_mem_nil, or_false] at h
  obtain ⟨rfl, rfl⟩ | ⟨rfl, rfl⟩ | ⟨rfl, rfl⟩ | ⟨rfl, rfl⟩ := h <;> rfl

/-- So does the table of plain labels. -/
theorem plain_of_mem (h : (c, form) ∈ plainForms) :
    plain c = form.reader := by
  simp only [plainForms, descriptorForms, List.cons_append, List.nil_append,
    List.mem_cons, Prod.mk.injEq, List.not_mem_nil, or_false] at h
  obtain ⟨rfl, rfl⟩ | ⟨rfl, rfl⟩ | ⟨rfl, rfl⟩ | ⟨rfl, rfl⟩ | ⟨rfl, rfl⟩
    | ⟨rfl, rfl⟩ | ⟨rfl, rfl⟩ | ⟨rfl, rfl⟩ := h <;> rfl

/-- A descriptor that named a performative stands in the table. The constructor
for the number zero does not, but zero names nothing. -/
theorem eq_bytes_of_ofConstructor
    (h : ofConstructor c input = .ok (label, rest))
    (names : label.performative? = some p) :
    ∃ form, (c, form) ∈ descriptorForms ∧ input = form.bytes p ++ rest := by
  have hform (form : LabelForm) (hc : (c, form) ∈ descriptorForms)
      (hread : form.reader input = .ok (label, rest)) :
      ∃ form, (c, form) ∈ descriptorForms ∧ input = form.bytes p ++ rest :=
    ⟨form, hc, LabelForm.eq_bytes_of_read hread names⟩
  unfold ofConstructor at h
  split_ifs at h with hzero hnumber hlong hsymbol hlongSymbol
  · cases h
    cases names
  · exact hform (.number 0) (by simp [descriptorForms, hnumber]) h
  · exact hform (.number 7) (by simp [descriptorForms, hlong]) h
  · exact hform (.symbol 0) (by simp [descriptorForms, hsymbol]) h
  · exact hform (.symbol 3) (by simp [descriptorForms, hlongSymbol]) h
  · cases h

/-- So does a plain label. What is not among the forms of its own is a form of
a descriptor. -/
theorem eq_bytes_of_plain (h : plain c input = .ok (label, rest))
    (names : label.performative? = some p) :
    ∃ form, (c, form) ∈ plainForms ∧ input = form.bytes p ++ rest := by
  have hform (form : LabelForm) (hc : (c, form) ∈ plainForms)
      (hread : form.reader input = .ok (label, rest)) :
      ∃ form, (c, form) ∈ plainForms ∧ input = form.bytes p ++ rest :=
    ⟨form, hc, LabelForm.eq_bytes_of_read hread names⟩
  unfold plain at h
  split_ifs at h with hzero hnumber hlong hstring hlongString
  · cases h
    cases names
  · exact hform (.number 0) (by simp [plainForms, hnumber]) h
  · exact hform (.number 3) (by simp [plainForms, hlong]) h
  · exact hform (.symbol 0) (by simp [plainForms, hstring]) h
  · exact hform (.symbol 3) (by simp [plainForms, hlongString]) h
  · obtain ⟨form, hmem, hinput⟩ := eq_bytes_of_ofConstructor h names
    exact ⟨form, List.mem_append_right _ hmem, hinput⟩

-- ============================================================== descriptors

/-- Each spelling of a descriptor is read as the name of its performative. -/
theorem reads_spelled {d : Bytes} (h : d ∈ descriptors p) :
    ∃ label, label.performative? = some p ∧ Reads descriptor d label := by
  obtain ⟨⟨c, form⟩, hmem, rfl⟩ := List.mem_map.1 h
  refine ⟨form.label p, LabelForm.performative?_label p form, ?_⟩
  show Reads descriptor ([0x00] ++ ([c] ++ form.bytes p)) _
  refine (reads_byte 0x00).bind ?_
  rw [if_pos rfl]
  refine (reads_byte c).bind ?_
  rw [ofConstructor_of_mem hmem]
  exact LabelForm.reads_form p form

/-- What was read as the descriptor of a performative is one of its
spellings. -/
theorem mem_descriptors_of_read (h : descriptor input = .ok (label, rest))
    (names : label.performative? = some p) :
    ∃ d ∈ descriptors p, input = d ++ rest := by
  obtain ⟨b, mid, hbyte, h⟩ := bind_eq_ok h
  split at h
  next hzero =>
    obtain ⟨c, tail, hc, h⟩ := bind_eq_ok h
    obtain ⟨form, hmem, rfl⟩ := eq_bytes_of_ofConstructor h names
    refine ⟨_, List.mem_map_of_mem hmem, ?_⟩
    rw [eq_cons_of_byte hbyte, eq_cons_of_byte hc, hzero]
    rfl
  next => cases h

-- ================================================== in front of descriptors

/-- The header of a list or map that is wrapped around a body, or nothing. -/
inductive Wrapping : Bytes → Prop
  | none : Wrapping []
  | short {w : Bytes} (length : w.length = 3)
      (begins : w.head? = some 0xc0 ∨ w.head? = some 0xc1) : Wrapping w
  | long {w : Bytes} (length : w.length = 9)
      (begins : w.head? = some 0xd0 ∨ w.head? = some 0xd1) : Wrapping w

/-- What may stand in front of the descriptor of a performative: a wrapping, and
the name of this performative as a plain label. -/
def Ahead (p : Performative) (lead : Bytes) : Prop :=
  ∃ w name, Wrapping w ∧ (name = [] ∨ name ∈ plainLabels p)
    ∧ lead = w ++ name

theorem discard_take (w rest : Bytes) :
    (discard (take w.length)) (w ++ rest) = .ok ((), rest) :=
  (reads_take w).map (Function.const Bytes PUnit.unit) rest

/-- What was taken begins with what it was taken from. -/
theorem taken_of_discard {n : Nat} {c : UInt8} (hn : n ≠ 0)
    (h : (discard (take n)) (c :: input) = .ok ((), rest)) :
    ∃ w : Bytes, w.length = n ∧ w.head? = some c ∧ c :: input = w ++ rest := by
  obtain ⟨w, mid, htake, hpure⟩ :=
    bind_eq_ok (k := fun _ => (pure () : Reader Unit)) h
  cases hpure
  obtain ⟨hlength, hinput⟩ := take_eq_ok htake
  refine ⟨w, hlength, ?_, hinput⟩
  cases w with
  | nil => exact absurd hlength.symm hn
  | cons b w =>
    cases hinput
    rfl

/-- A wrapping is passed over. -/
theorem wrapping_append {w : Bytes} (h : Wrapping w) (hne : w ≠ [])
    (rest : Bytes) : wrapping (w ++ rest) = .ok ((), rest) := by
  obtain _ | ⟨c, tail⟩ := w
  · exact absurd rfl hne
  · rw [← discard_take (c :: tail) rest]
    cases h with
    | short length begins =>
      rw [length]
      obtain hc | hc := begins <;> cases hc <;> rfl
    | long length begins =>
      rw [length]
      obtain hc | hc := begins <;> cases hc <;> rfl

/-- What was passed over was a wrapping. -/
theorem wrapping_eq_ok (h : wrapping input = .ok ((), rest)) :
    ∃ w, Wrapping w ∧ input = w ++ rest := by
  unfold wrapping at h
  split at h
  · obtain ⟨w, hlength, hhead, hinput⟩ := taken_of_discard (by decide) h
    exact ⟨w, .short hlength (.inl hhead), hinput⟩
  · obtain ⟨w, hlength, hhead, hinput⟩ := taken_of_discard (by decide) h
    exact ⟨w, .short hlength (.inr hhead), hinput⟩
  · obtain ⟨w, hlength, hhead, hinput⟩ := taken_of_discard (by decide) h
    exact ⟨w, .long hlength (.inl hhead), hinput⟩
  · obtain ⟨w, hlength, hhead, hinput⟩ := taken_of_discard (by decide) h
    exact ⟨w, .long hlength (.inr hhead), hinput⟩
  · cases h
    exact ⟨[], .none, rfl⟩

/-- A plain label is taken off. -/
theorem first_plain {name : Bytes} (h : name ∈ plainLabels p) (rest : Bytes) :
    ∃ label, label.performative? = some p
      ∧ first (name ++ rest) = .ok (label, rest)
      ∧ wrapping (name ++ rest) = .ok ((), name ++ rest) := by
  obtain ⟨⟨c, form⟩, hmem, rfl⟩ := List.mem_map.1 h
  refine ⟨form.label p, LabelForm.performative?_label p form, ?_⟩
  have hread : plain c (form.bytes p ++ rest) = .ok (form.label p, rest) := by
    rw [plain_of_mem hmem]
    exact LabelForm.reads_form p form rest
  simp only [plainForms, descriptorForms, List.cons_append, List.nil_append,
    List.mem_cons, Prod.mk.injEq, List.not_mem_nil, or_false] at hmem
  obtain ⟨rfl, rfl⟩ | ⟨rfl, rfl⟩ | ⟨rfl, rfl⟩ | ⟨rfl, rfl⟩ | ⟨rfl, rfl⟩
    | ⟨rfl, rfl⟩ | ⟨rfl, rfl⟩ | ⟨rfl, rfl⟩ := hmem <;> exact ⟨hread, rfl⟩

/-- A descriptor is looked at and stays. -/
theorem first_descriptor {d : Bytes} (h : d ∈ descriptors p) (rest : Bytes) :
    ∃ label, label.performative? = some p
      ∧ first (d ++ rest) = .ok (label, d ++ rest)
      ∧ wrapping (d ++ rest) = .ok ((), d ++ rest) := by
  obtain ⟨label, hnames, hread⟩ := reads_spelled h
  refine ⟨label, hnames, ?_⟩
  obtain ⟨⟨c, form⟩, -, rfl⟩ := List.mem_map.1 h
  have hahead : ahead descriptor (0x00 :: c :: form.bytes p ++ rest)
      = .ok (label, 0x00 :: c :: form.bytes p ++ rest) := by
    rw [ahead, hread rest]
    rfl
  exact ⟨hahead, rfl⟩

/-- In front of a descriptor there was a plain label of the same performative,
or nothing. -/
theorem first_eq_ok (h : first input = .ok (label, rest))
    (names : label.performative? = some p) :
    ∃ name, (name = [] ∨ name ∈ plainLabels p) ∧ input = name ++ rest := by
  unfold first at h
  split at h
  next => cases h
  next c tail =>
    split at h
    · exact ⟨[], .inl rfl, (ahead_eq_ok h).symm⟩
    · split at h
      · obtain ⟨form, hmem, rfl⟩ := eq_bytes_of_plain h names
        exact ⟨_, .inr (List.mem_map_of_mem hmem), rfl⟩
      · split at h
        · cases h
          exact ⟨[], .inl rfl, rfl⟩
        · cases h

/-- A label is refused for one reason: that it names nothing. -/
theorem performative_eq_ok :
    label.performative = .ok p ↔ label.performative? = some p := by
  cases label with
  | number n =>
    simp only [performative, performative?]
    split <;> simp_all
  | symbol s =>
    simp only [performative, performative?]
    split <;> simp_all

/-- Whatever announces a body is passed over up to its descriptor. -/
theorem announced_of_ahead {lead d : Bytes} (hlead : Ahead p lead)
    (hd : d ∈ descriptors p) (rest : Bytes) :
    announced (lead ++ (d ++ rest)) = .ok (p, d ++ rest) := by
  obtain ⟨w, name, hw, hname, rfl⟩ := hlead
  obtain ⟨label, hnames, hfirst, hbare⟩ : ∃ label : Label,
      label.performative? = some p
      ∧ first (name ++ (d ++ rest)) = .ok (label, d ++ rest)
      ∧ wrapping (name ++ (d ++ rest)) = .ok ((), name ++ (d ++ rest)) := by
    obtain rfl | hname := hname
    · exact first_descriptor hd rest
    · exact first_plain hname (d ++ rest)
  have hwrapping : wrapping (w ++ (name ++ (d ++ rest)))
      = .ok ((), name ++ (d ++ rest)) := by
    -- without a wrapping nothing may be taken for one
    by_cases hnil : w = []
    · rw [hnil]
      exact hbare
    · exact wrapping_append hw hnil _
  rw [List.append_assoc]
  unfold announced
  rw [bind_of_ok hwrapping, bind_of_ok hfirst, performative_eq_ok.2 hnames]
  rfl

/-- What was passed over announces the performative that was read. Nothing in
front of a descriptor can name another. -/
theorem announced_eq_ok (h : announced input = .ok (p, rest)) :
    ∃ lead, Ahead p lead ∧ input = lead ++ rest := by
  obtain ⟨u, mid, hwrapping, hlabel⟩ := bind_eq_ok h
  obtain ⟨label, tail, hfirst, hnamed⟩ := bind_eq_ok hlabel
  obtain ⟨w, hw, rfl⟩ := wrapping_eq_ok hwrapping
  -- a label that names nothing is an error, so this one names `q`
  cases hp : label.performative with
  | error e =>
    rw [hp] at hnamed
    cases hnamed
  | ok q =>
    rw [hp] at hnamed
    cases hnamed
    obtain ⟨name, hname, rfl⟩ := first_eq_ok hfirst (performative_eq_ok.1 hp)
    exact ⟨w ++ name, ⟨w, name, hw, hname, rfl⟩,
      (List.append_assoc w name rest).symm⟩

end Label

end SaslGate
