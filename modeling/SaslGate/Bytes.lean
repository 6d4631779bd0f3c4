/-
Byte strings, and the one number format that the wire uses for sizes:
unsigned, most significant byte first. A byte string is a list, so that
every reader in the library is a recursion on what is left to read.
-/

namespace SaslGate

/-- A byte string. -/
abbrev Bytes := List UInt8

/-- The number that a byte string spells, most significant byte first. -/
def bigEndian (bytes : Bytes) : Nat :=
  bytes.foldl (fun n b => n * 256 + b.toNat) 0

/-- A number below 2^32 as four bytes, most significant first. -/
def bigEndian32 (n : Nat) : Bytes :=
  [UInt8.ofNat (n / 16777216), UInt8.ofNat (n / 65536), UInt8.ofNat (n / 256),
    UInt8.ofNat n]

@[simp] theorem length_bigEndian32 (n : Nat) : (bigEndian32 n).length = 4 :=
  rfl

/-- Four bytes hold a number below 2^32 without loss. -/
theorem bigEndian_bigEndian32 {n : Nat} (h : n < 4294967296) :
    bigEndian (bigEndian32 n) = n := by
  simp only [bigEndian, bigEndian32, List.foldl_cons, List.foldl_nil,
    UInt8.toNat_ofNat']
  omega

/-- Four bytes are the four bytes of the number they spell. -/
theorem bigEndian32_bigEndian {bytes : Bytes} (h : bytes.length = 4) :
    bigEndian32 (bigEndian bytes) = bytes := by
  obtain ⟨a, b, c, d, rfl⟩ : ∃ a b c d, bytes = [a, b, c, d] := by
    match bytes, h with
    | [a, b, c, d], _ => exact ⟨a, b, c, d, rfl⟩
  have ha := a.toNat_lt
  have hb := b.toNat_lt
  have hc := c.toNat_lt
  have hd := d.toNat_lt
  simp only [bigEndian, bigEndian32, List.foldl_cons, List.foldl_nil,
    List.cons.injEq, ← UInt8.toNat_inj, UInt8.toNat_ofNat', and_true]
  omega

end SaslGate
