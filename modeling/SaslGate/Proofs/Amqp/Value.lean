/-
Written values are read back, and nothing behind them is touched (`Reads`).
Readers that take exactly their own bytes are put together from readers that
do, so there is one lemma for each way of writing and none of them looks at
the bytes that follow. A field that is absent is told from one that is empty
by its first byte (`NonNull`).
-/
import SaslGate.Amqp.Value

namespace SaslGate.Value

variable {α β : Type}

-- ============================================ what a reader takes off

/-- The reader takes exactly these bytes off the front, whatever follows
them, and gives the value. -/
def Reads (r : Reader α) (bytes : Bytes) (a : α) : Prop :=
  ∀ rest, r (bytes ++ rest) = .ok (a, rest)

namespace Reads

variable {r : Reader α} {k : α → Reader β} {bytes more : Bytes} {a : α} {b : β}

theorem pure (a : α) : Reads (Pure.pure a : Reader α) [] a := fun _ => rfl

/-- One reader after the other takes one's bytes after the other's. -/
theorem bind (first : Reads r bytes a) (second : Reads (k a) more b) :
    Reads (r >>= k) (bytes ++ more) b := by
  intro rest
  show (r (bytes ++ more ++ rest) >>= fun p => k p.1 p.2) = .ok (b, rest)
  rw [List.append_assoc, first (more ++ rest)]
  exact second rest

/-- A first reader that takes nothing. -/
theorem free (first : Reads r [] a) (second : Reads (k a) more b) :
    Reads (r >>= k) more b := first.bind second

/-- A last reader that takes nothing. -/
theorem andThen (first : Reads r bytes a) (second : Reads (k a) [] b) :
    Reads (r >>= k) bytes b := by
  have := first.bind second
  rwa [List.append_nil] at this

/-- A value is read no differently for what is made of it. -/
theorem map (f : α → β) (first : Reads r bytes a) :
    Reads (f <$> r) bytes (f a) := by
  intro rest
  show (r (bytes ++ rest) >>= fun p => .ok (f p.1, p.2)) = .ok (f a, rest)
  rw [first rest]
  rfl

end Reads

-- ------------------------------------------------------ bytes and numbers

theorem reads_byte (c : UInt8) : Reads byte [c] c := fun _ => rfl

theorem reads_take (data : Bytes) : Reads (take data.length) data data := by
  intro rest
  simp [take]

/-- A number below 256 is read from its one byte. -/
theorem reads_number_one {n : Nat} (h : n ≤ 255) :
    Reads (number 1) [UInt8.ofNat n] n := by
  have hn : bigEndian [UInt8.ofNat n] = n := by
    simp only [bigEndian, List.foldl_cons, List.foldl_nil,
      UInt8.toNat_ofNat']
    omega
  have := (reads_take [UInt8.ofNat n]).map bigEndian
  rwa [hn] at this

/-- A number is read back from four bytes if it fits in them. -/
theorem reads_number_four {n : Nat} (h : n < 4294967296) :
    Reads (number 4) (bigEndian32 n) n := by
  have := (reads_take (bigEndian32 n)).map bigEndian
  rwa [bigEndian_bigEndian32 h] at this

/-- A number that is not looked at may be any. -/
theorem reads_bigEndian32 (n : Nat) :
    Reads (number 4) (bigEndian32 n) (bigEndian (bigEndian32 n)) :=
  (reads_take (bigEndian32 n)).map bigEndian

-- --------------------------------------------- values of variable length

/-- Text is made of data that has been read, so it takes nothing more. -/
theorem reads_text (s : String) : Reads (text (Utf8.encode s)) [] s := by
  intro rest
  rw [text, Utf8.decode?_encode]
  rfl

/-- Bytes behind their length. -/
theorem reads_counted_four {data : Bytes} (h : data.length < 4294967296) :
    Reads (counted 4) (bigEndian32 data.length ++ data) data :=
  (reads_number_four h).bind (reads_take data)

/-- A value of variable length is read back, in whichever form it stands. -/
theorem reads_writeSized {short long : UInt8} (distinct : short ≠ long)
    {data : Bytes} (h : (writeSized short long data).length < 4294967296) :
    Reads (sized short long) (writeSized short long data) data := by
  unfold writeSized at h ⊢
  split at h
  next hshort =>
    rw [if_pos hshort]
    show Reads (sized short long) ([short] ++ UInt8.ofNat data.length :: data)
      data
    refine (reads_byte short).bind ?_
    rw [if_pos rfl]
    exact (reads_number_one (by omega)).bind (reads_take data)
  next hlong =>
    rw [if_neg hlong]
    simp only [List.length_cons, List.length_append] at h
    refine (reads_byte long).bind ?_
    rw [if_neg distinct.symm, if_pos rfl]
    exact reads_counted_four (by omega)

-- -------------------------------------------------------- symbol arrays

/-- The elements of a written array. -/
def elements (names : List String) : Bytes :=
  names.flatMap fun s => bigEndian32 (Utf8.encode s).length ++ Utf8.encode s

/-- Each element has its own length in front. -/
theorem elements_cons (s : String) (names : List String) :
    elements (s :: names)
      = bigEndian32 (Utf8.encode s).length ++ Utf8.encode s
        ++ elements names := by
  simp [elements]

/-- An element takes four bytes more than its text. -/
theorem length_elements_cons (s : String) (names : List String) :
    (elements (s :: names)).length
      = 4 + (Utf8.encode s).length + (elements names).length := by
  rw [elements_cons]
  simp only [List.length_append, length_bigEndian32]

/-- Every element has a length in front of it. -/
theorem length_le_length_elements (names : List String) :
    4 * names.length ≤ (elements names).length := by
  induction names with
  | nil => exact Nat.zero_le _
  | cons s names ih =>
    rw [length_elements_cons, List.length_cons]
    omega

/-- The elements of an array are read back one by one. -/
theorem reads_elements {names : List String}
    (h : (elements names).length < 4294967296) :
    Reads (symbols 4 names.length) (elements names) names := by
  induction names with
  | nil => exact Reads.pure []
  | cons s names ih =>
    rw [length_elements_cons] at h
    rw [elements_cons]
    refine (reads_counted_four (by omega)).bind ?_
    refine (reads_text s).free ?_
    exact (ih (by omega)).andThen (Reads.pure (s :: names))

/-- The two forms of an array, told apart by their elements. The element
constructor is counted with the head here, which moves the bound to 253. -/
theorem writeSymbols_eq (names : List String) :
    writeSymbols names =
      if (elements names).length ≤ 253 then
        0xe0 :: UInt8.ofNat ((elements names).length + 2)
          :: UInt8.ofNat names.length :: 0xb3 :: elements names
      else
        0xf0 :: (bigEndian32 ((elements names).length + 5)
          ++ bigEndian32 names.length ++ 0xb3 :: elements names) := by
  have hiff : (0xb3 :: elements names : Bytes).length ≤ 254
      ↔ (elements names).length ≤ 253 := by
    rw [List.length_cons]
    omega
  show (if (0xb3 :: elements names : Bytes).length ≤ 254 then _ else _) = _
  simp only [hiff]
  rfl

/-- An array of at least one symbol is read back. -/
theorem reads_writeSymbols {names : List String} (some_name : names ≠ [])
    (h : (writeSymbols names).length < 4294967296) :
    Reads symbolOrArray (writeSymbols names) names := by
  have hcount := length_le_length_elements names
  have hpos : names.length ≠ 0 := by simpa using some_name
  -- the forms differ in the width of their two numbers only
  have harray (width : Nat) {size count : Bytes} {n : Nat}
      (fits : (elements names).length < 4294967296)
      (hs : Reads (number width) size n)
      (hc : Reads (number width) count names.length) :
      Reads (symbolArray width) (size ++ (count ++ 0xb3 :: elements names))
        names := by
    refine hs.bind (hc.bind ?_)
    rw [if_neg hpos]
    exact (reads_byte 0xb3).bind (reads_elements fits)
  rw [writeSymbols_eq] at h ⊢
  split at h
  next hshort =>
    rw [if_pos hshort]
    have hsize := reads_number_one (n := (elements names).length + 2) (by omega)
    exact (reads_byte 0xe0).bind
      (harray 1 (by omega) hsize (reads_number_one (by omega)))
  next hlong =>
    rw [if_neg hlong, List.append_assoc]
    simp only [List.length_cons, List.length_append] at h
    exact (reads_byte 0xf0).bind
      (harray 4 (by omega) (reads_bigEndian32 _) (reads_number_four (by omega)))

-- ---------------------------------------------------- lists and fields

/-- Bytes that begin with a constructor other than the one for no value. -/
def NonNull (bytes : Bytes) : Prop := ∃ c rest, bytes = c :: rest ∧ c ≠ 0x40

/-- A field as it stands in a list: the bytes say that there is a value, and
the reader takes exactly them. -/
structure Spells (value : Reader α) (bytes : Bytes) (a : α) : Prop where
  proper : NonNull bytes
  reads : Reads value bytes a

/-- What has a constructor of its own is not taken for a null. -/
theorem nonNull_writeSized {short long : UInt8} (hshort : short ≠ 0x40)
    (hlong : long ≠ 0x40) (data : Bytes) :
    NonNull (writeSized short long data) := by
  unfold writeSized
  split
  · exact ⟨short, _, rfl, hshort⟩
  · exact ⟨long, _, rfl, hlong⟩

/-- Bytes are read back as they were written. -/
theorem spells_writeBinary {data : Bytes}
    (h : (writeBinary data).length < 4294967296) :
    Spells binary (writeBinary data) data where
  proper := nonNull_writeSized (by decide) (by decide) data
  reads := reads_writeSized (by decide) h

theorem spells_writeString {s : String}
    (h : (writeString s).length < 4294967296) :
    Spells string (writeString s) s where
  proper := nonNull_writeSized (by decide) (by decide) _
  reads := (reads_writeSized (by decide) h).andThen (reads_text s)

/-- Symbols are sized data too, with constructors of their own. -/
theorem spells_writeSymbol {s : String}
    (h : (writeSymbol s).length < 4294967296) :
    Spells symbol (writeSymbol s) s where
  proper := nonNull_writeSized (by decide) (by decide) _
  reads := (reads_writeSized (by decide) h).andThen (reads_text s)

theorem spells_writeCode (c : SaslCode) : Spells code (writeCode c) c where
  proper := ⟨0x50, _, rfl, by decide⟩
  reads rest := by cases c <;> rfl

/-- Symbols are always written as an array, in one of two forms. -/
theorem spells_writeSymbols {names : List String} (some_name : names ≠ [])
    (h : (writeSymbols names).length < 4294967296) :
    Spells symbolOrArray (writeSymbols names) names where
  proper := by
    rw [writeSymbols_eq]
    split
    · exact ⟨0xe0, _, rfl, by decide⟩
    · exact ⟨0xf0, _, rfl, by decide⟩
  reads := reads_writeSymbols some_name h

/-- What is written of the fields of a list. -/
def listContent (fields : List (Option Bytes)) : Bytes :=
  (withoutTail fields).flatMap fun f => f.getD [0x40]

/-- An absent field is left out if nothing is kept behind it. -/
theorem withoutTail_none (rest : List (Option Bytes)) :
    withoutTail (none :: rest) =
      if withoutTail rest = [] then [] else none :: withoutTail rest := by
  conv => lhs; unfold withoutTail
  split
  next heq => rw [if_pos heq]
  next hne => rw [if_neg fun heq => hne rfl heq]

/-- The fields to come after the first. -/
theorem length_withoutTail_sub_one (f : Option Bytes)
    (rest : List (Option Bytes)) :
    (withoutTail (f :: rest)).length - 1 = (withoutTail rest).length := by
  cases f with
  | some w => rfl
  | none =>
    rw [withoutTail_none]
    split
    next heq => rw [heq]; rfl
    next => rfl

/-- Fields are only ever left out. -/
theorem length_withoutTail_le (fields : List (Option Bytes)) :
    (withoutTail fields).length ≤ fields.length := by
  induction fields with
  | nil => exact Nat.le_refl 0
  | cons f rest ih =>
    rw [← length_withoutTail_sub_one f rest] at ih
    rw [List.length_cons]
    omega

theorem listContent_some (w : Bytes) (rest : List (Option Bytes)) :
    listContent (some w :: rest) = w ++ listContent rest := rfl

theorem listContent_of_withoutTail_eq_nil {fields : List (Option Bytes)}
    (h : withoutTail fields = []) : listContent fields = [] := by
  rw [listContent, h]
  rfl

/-- An absent field with nothing behind it is left out. -/
theorem withoutTail_none_last {rest : List (Option Bytes)}
    (h : withoutTail rest = []) : withoutTail (none :: rest) = [] := by
  rw [withoutTail_none, if_pos h]

/-- An absent field with something behind it is written as a null. -/
theorem listContent_none_inner {rest : List (Option Bytes)}
    (h : withoutTail rest ≠ []) :
    listContent (none :: rest) = [0x40] ++ listContent rest := by
  rw [listContent, withoutTail_none, if_neg h]
  rfl

/-- No field is longer than the list it stands in. -/
theorem length_le_length_listContent {fields : List (Option Bytes)} {w : Bytes}
    (h : some w ∈ fields) : w.length ≤ (listContent fields).length := by
  induction fields with
  | nil => cases h
  | cons f rest ih =>
    cases f with
    | some v =>
      rw [listContent_some, List.length_append]
      rcases List.mem_cons.1 h with hfirst | hrest
      · cases hfirst
        omega
      · have := ih hrest
        omega
    | none =>
      have hrest := ih (by simpa using h)
      -- a null is written only if a field stands behind it
      by_cases hlast : withoutTail rest = []
      · rw [listContent_of_withoutTail_eq_nil hlast] at hrest
        exact Nat.le_trans hrest (Nat.zero_le _)
      · rw [listContent_none_inner hlast, List.length_append]
        omega

section Fields

variable {value : Reader α} {left : Nat} {bytes : Bytes} {a : α}

/-- A mandatory field is read back while the list has fields left. -/
theorem reads_mandatory (more : left ≠ 0) (h : Spells value bytes a) :
    Reads (mandatory left value) bytes a := by
  obtain ⟨⟨c, tail, rfl, -⟩, hvalue⟩ := h
  have hfield : Reads (field left value) (c :: tail) (some a) := by
    intro rest
    unfold field
    rw [if_neg (by simpa using more)]
    exact hvalue.map some rest
  exact hfield.andThen (Reads.pure a)

/-- A field behind the end of the list is absent. -/
theorem reads_optional_absent : Reads (optional 0 value) [] none :=
  fun _ => rfl

/-- A null is read as an absent field. -/
theorem reads_optional_null (more : left ≠ 0) :
    Reads (optional left value) [0x40] none := by
  have hfield : Reads (field left (nullable value)) [0x40] (some none) := by
    intro rest
    unfold field
    rw [if_neg (by simpa using more)]
    rfl
  exact hfield.andThen (Reads.pure none)

/-- A field that is there is not taken for a null, by its first byte. -/
theorem reads_optional_some (more : left ≠ 0) (h : Spells value bytes a) :
    Reads (optional left value) bytes (some a) := by
  obtain ⟨⟨c, tail, rfl, hc⟩, hvalue⟩ := h
  have hnullable : Reads (nullable value) (c :: tail) (some a) := by
    intro rest
    unfold nullable
    split
    next heq => exact absurd (List.cons.inj heq).1 hc
    next => exact hvalue.map some rest
  have hfield : Reads (field left (nullable value)) (c :: tail)
      (some (some a)) := by
    intro rest
    unfold field
    rw [if_neg (by simpa using more)]
    exact hnullable.map some rest
  exact hfield.andThen (Reads.pure (some a))

/-- An optional field and what follows it: it is read back, be it present,
null because others follow, or left out. -/
theorem reads_optional_bind {write : α → Bytes} {v : Option α}
    {rest : List (Option Bytes)} {k : Option α → Reader β} {b : β}
    (h : ∀ a, v = some a → Spells value (write a) a)
    (hrest : Reads (k v) (listContent rest) b) :
    Reads (optional (withoutTail (v.map write :: rest)).length value >>= k)
      (listContent (v.map write :: rest)) b := by
  cases v with
  | some a =>
    exact (reads_optional_some (Nat.succ_ne_zero _) (h a rfl)).bind hrest
  | none =>
    -- left out together with all behind it, or written as a null
    by_cases hlast : withoutTail rest = []
    · have hnone := withoutTail_none_last hlast
      rw [listContent_of_withoutTail_eq_nil hlast] at hrest
      rw [Option.map_none, listContent_of_withoutTail_eq_nil hnone, hnone]
      exact reads_optional_absent.free hrest
    · rw [Option.map_none, listContent_none_inner hlast, withoutTail_none,
        if_neg hlast]
      exact (reads_optional_null (Nat.succ_ne_zero _)).bind hrest

end Fields

/-- What is written in front of the fields. -/
def listHead (fields : List (Option Bytes)) : Bytes :=
  if (listContent fields).length ≤ 254 then
    [0xc0, UInt8.ofNat ((listContent fields).length + 1),
      UInt8.ofNat (withoutTail fields).length]
  else
    0xd0 :: (bigEndian32 ((listContent fields).length + 4)
      ++ bigEndian32 (withoutTail fields).length)

theorem writeList_eq (fields : List (Option Bytes)) :
    writeList fields = listHead fields ++ listContent fields := by
  unfold listHead
  show (if (listContent fields).length ≤ 254 then _ else _) = _
  split <;> rfl

/-- The head tells how many fields are kept. It is read back in the short form
and in the long one. -/
theorem reads_listHead {fields : List (Option Bytes)}
    (few : fields.length ≤ 255) :
    Reads listCount (listHead fields) (withoutTail fields).length := by
  have hcount := length_withoutTail_le fields
  unfold listHead
  split
  next =>
    refine (reads_byte 0xc0).bind ?_
    exact (reads_number_one (by omega)).bind (reads_number_one (by omega))
  next =>
    refine (reads_byte 0xd0).bind ?_
    exact (reads_bigEndian32 _).bind (reads_number_four (by omega))

end SaslGate.Value
