/-
Hosts as they stand in the URLs of endpoints. A host that was read from a URL
is a name of printable ASCII, or an address in brackets (`Printed`), and either
is read again as it stands (`Printed.parseOpaque`): percent signs are not
encoded a second time, and an address has one form in print.

Such a host keeps to its place in a URL. It ends where the port number begins
(`Printed.hostSpan`), and there is nothing in it at which a URL is taken apart
(`Printed.isHostChar`).
-/
import SaslGate.Directory.Url
import SaslGate.Proofs.Directory.Ipv6

namespace SaslGate

namespace Host

/-- Printable ASCII, at which a URL is not taken apart. -/
def isHostChar (c : Char) : Bool :=
  0x21 ≤ c.toNat && c.toNat ≤ 0x7e && !(c ∈ ['#', '/', '?', '@', '\\'])

/-- The two forms of a host in a URL that was read. -/
inductive Printed : List Char → Prop
  | name {cs : List Char}
      (plain : ∀ c ∈ cs, isHostChar c = true ∧ isForbidden c = false) :
      Printed cs
  | address {gs : List Nat} (address : Ipv6.IsAddress gs) :
      Printed ('[' :: Ipv6.print gs ++ [']'])

variable {cs host : List Char} {c : Char}

-- ================================================================ reading

/-- What may stand in a host is printable ASCII, or is encoded by it. -/
theorem mem_percentEncode (hc : isForbidden c = false) {d : Char}
    (h : d ∈ percentEncode c) :
    isHostChar d = true ∧ isForbidden d = false ∧ (d = ',' → c = ',') := by
  unfold percentEncode at h
  split at h
  · rename_i hprintable
    obtain rfl := List.mem_singleton.1 h
    refine ⟨?_, hc, id⟩
    have hblank : d ≠ ' ' := by
      intro hd
      rw [hd] at hc
      cases hc
    have hcode : d.toNat ≠ 0x20 := fun hd => hblank (Char.toNat_inj.1 hd)
    simp only [isForbidden, decide_eq_false_iff_not, List.mem_cons,
      not_or] at hc
    simp only [isHostChar, Bool.and_eq_true, decide_eq_true_eq,
      Bool.not_eq_true', decide_eq_false_iff_not, List.mem_cons, not_or]
    refine ⟨⟨by omega, hprintable.2⟩, ?_⟩
    simp [hc]
  · obtain ⟨b, -, hb⟩ := List.mem_flatMap.1 h
    -- an encoded byte is a percent sign and two digits
    have hdigit : ∀ n : Fin 16, isHostChar (upperHex n) = true
        ∧ isForbidden (upperHex n) = false ∧ upperHex n ≠ ',' := by
      decide
    have hbyte := b.toNat_lt
    have hhigh := hdigit ⟨b.toNat / 16, by omega⟩
    have hlow := hdigit ⟨b.toNat % 16, by omega⟩
    simp only [percentEncodeByte, List.mem_cons, List.not_mem_nil,
      or_false] at hb
    rcases hb with rfl | rfl | rfl
    · exact ⟨by decide, by decide, fun hd => absurd hd (by decide)⟩
    · exact ⟨hhigh.1, hhigh.2.1, fun hd => absurd hd hhigh.2.2⟩
    · exact ⟨hlow.1, hlow.2.1, fun hd => absurd hd hlow.2.2⟩

/-- The hosts that are read: an address, or a name in which no character is
forbidden. -/
theorem parseOpaque_inv (h : parseOpaque cs = .ok host) :
    (∃ gs, Ipv6.IsAddress gs ∧ host = '[' :: Ipv6.print gs ++ [']'])
    ∨ (∀ c ∈ cs, isForbidden c = false) ∧ host = cs.flatMap percentEncode := by
  unfold parseOpaque at h
  split at h
  · refine .inl ?_
    unfold bracketed at h
    split at h
    · split at h
      · rename_i gs hgs
        cases h
        exact ⟨gs, Ipv6.isAddress_of_parse? hgs, rfl⟩
      · cases h
    · cases h
  · refine .inr ?_
    split at h
    · cases h
    · rename_i hallowed
      cases h
      refine ⟨fun c hc => ?_, rfl⟩
      rw [← Bool.not_eq_true]
      exact fun hforbidden => hallowed (List.any_eq_true.2 ⟨c, hc, hforbidden⟩)

/-- Whatever is read as a host is one in print. -/
theorem printed_of_parseOpaque (h : parseOpaque cs = .ok host) :
    Printed host := by
  rcases parseOpaque_inv h with ⟨gs, haddress, rfl⟩ | ⟨hallowed, rfl⟩
  · exact .address haddress
  · refine .name fun d hd => ?_
    obtain ⟨c, hc, hmem⟩ := List.mem_flatMap.1 hd
    obtain ⟨hhost, hforbidden, -⟩ := mem_percentEncode (hallowed c hc) hmem
    exact ⟨hhost, hforbidden⟩

/-- Reading a host puts no comma into it. -/
theorem comma_mem_of_parseOpaque (h : parseOpaque cs = .ok host)
    (hcomma : ',' ∈ host) : ',' ∈ cs := by
  rcases parseOpaque_inv h with ⟨gs, -, rfl⟩ | ⟨hallowed, rfl⟩
  · exfalso
    have hprint : ',' ∈ Ipv6.print gs := by simpa using hcomma
    rcases Ipv6.exists_of_mem_print hprint with hcolon | ⟨d, hd, hdigit⟩
    · cases hcolon
    · have key : ∀ d : Fin 16, ',' ≠ Nat.digitChar d := by decide
      exact key ⟨d, hd⟩ hdigit
  · obtain ⟨c, hc, hmem⟩ := List.mem_flatMap.1 hcomma
    obtain ⟨-, -, hsame⟩ := mem_percentEncode (hallowed c hc) hmem
    rwa [hsame rfl] at hc

-- ========================================================== hosts in print

/-- An address shows digits and colons between its brackets. -/
theorem mem_print {gs : List Nat} (h : c ∈ Ipv6.print gs) :
    isHostChar c = true ∧ c ≠ '[' ∧ c ≠ ']' := by
  rcases Ipv6.exists_of_mem_print h with rfl | ⟨d, hd, rfl⟩
  · decide
  · have key : ∀ d : Fin 16, isHostChar (Nat.digitChar d) = true
        ∧ Nat.digitChar d ≠ '[' ∧ Nat.digitChar d ≠ ']' := by
      decide
    exact key ⟨d, hd⟩

namespace Printed

/-- A host in print has no character at which a URL is taken apart. -/
theorem isHostChar (h : Printed host) :
    ∀ c ∈ host, Host.isHostChar c = true := by
  cases h with
  | name plain => exact fun c hc => (plain c hc).1
  | address address =>
    intro c hc
    rcases List.mem_append.1 hc with hc | hc
    · rcases List.mem_cons.1 hc with rfl | hc
      · decide
      · exact (mem_print hc).1
    · rw [List.mem_singleton.1 hc]
      decide

/-- A host in print is read as it stands. -/
theorem parseOpaque (h : Printed host) :
    Host.parseOpaque host = .ok host := by
  cases h with
  | name plain =>
    have hopen : ∀ rest, host ≠ '[' :: rest := by
      rintro rest rfl
      have hforbidden := (plain '[' List.mem_cons_self).2
      cases hforbidden
    have hany : host.any isForbidden = false := by
      rw [List.any_eq_false]
      intro c hc
      simp [(plain c hc).2]
    have hplain : host.flatMap percentEncode = host := by
      clear hopen hany
      induction host with
      | nil => rfl
      | cons c cs ih =>
        obtain ⟨⟨hc, -⟩, hcs⟩ := List.forall_mem_cons.1 plain
        simp only [Host.isHostChar, Bool.and_eq_true, decide_eq_true_eq] at hc
        rw [List.flatMap_cons, ih hcs, percentEncode, if_pos (by omega)]
        rfl
    unfold Host.parseOpaque
    split
    · exact absurd rfl (hopen _)
    · rw [hany, hplain]
      rfl
  | @address gs address =>
    have hlast : (Ipv6.print gs ++ [']']).getLast? = some ']' := by simp
    rw [List.cons_append, Host.parseOpaque, bracketed, hlast,
      List.dropLast_concat, Ipv6.parse?_print address]
    rfl

/-- A host in print ends at the colon behind it. -/
theorem hostSpan (h : Printed host) (tail : List Char) :
    Url.hostSpan false (host ++ ':' :: tail) = (host, ':' :: tail) := by
  cases h with
  | name plain =>
    induction host with
    | nil => simp [Url.hostSpan]
    | cons c cs ih =>
      obtain ⟨⟨-, hc⟩, hcs⟩ := List.forall_mem_cons.1 plain
      have hcolon : c ≠ ':' := by
        rintro rfl
        cases hc
      have hopen : c ≠ '[' := by
        rintro rfl
        cases hc
      have hclose : c ≠ ']' := by
        rintro rfl
        cases hc
      rw [List.cons_append, Url.hostSpan]
      simp [hcolon, hopen, hclose, ih hcs]
  | @address gs address =>
    -- between the brackets a colon ends nothing
    have hinside (cs : List Char) (hcs : ∀ c ∈ cs, c ≠ '[' ∧ c ≠ ']') :
        Url.hostSpan true (cs ++ ']' :: ':' :: tail)
          = (cs ++ [']'], ':' :: tail) := by
      induction cs with
      | nil => simp [Url.hostSpan]
      | cons c cs ih =>
        obtain ⟨⟨hopen, hclose⟩, hrest⟩ := List.forall_mem_cons.1 hcs
        rw [List.cons_append, Url.hostSpan]
        simp [hopen, hclose, ih hrest]
    have hrest := hinside (Ipv6.print gs) fun c hc => (mem_print hc).2
    rw [List.append_assoc, List.cons_append, Url.hostSpan]
    simp [hrest]

end Printed

end Host

end SaslGate
