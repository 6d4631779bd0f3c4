/-
Payloads behind their sizes: what a writer puts out and what a reader makes of
it. They agree on every stream, wherever the reads cut it (`codec_agrees`).

# One step of the reader

What more bytes at the end do to one step is one equation (`next_append`), and
everything about pieces rests on it. A payload that was complete stays what it
was, an error stays what it was, and a reader that waits goes on from where it
waits. So a reader hands out piece by piece what it hands out of the whole
stream at once (`rounds_of_drain`), whatever the stream is, and the agreement
with the writer has to be seen for streams that arrive at once only
(`drain_encodeAll`).

# What a reader holds

A reader that has passed a size field remembers the size and not its bytes. Put
in front of the buffer again they are its unread bytes (`Reader.unread`), and
these alone decide what is handed out next (`next_of_unread`).

# Bad sizes

A size that is refused stays in the buffer, so whatever comes later comes behind
it, and the reader stays where it is (`Reader.Stuck`).
-/
import SaslGate.Amqp.Sized

namespace SaslGate.Sized

-- =============================================================== the writer

/-- The bytes of a payload behind its size. -/
theorem encode_eq_ok {max : Nat} {payload bytes : Bytes} :
    encode max payload = .ok bytes
      ↔ payload.length + 4 ≤ max
        ∧ bytes = bigEndian32 (payload.length + 4) ++ payload := by
  unfold encode
  by_cases h : payload.length + 4 ≤ max
  · simp [h, eq_comm]
  · simp [h]

/-- A payload is refused for its length alone. -/
theorem encode_eq_error {max : Nat} {payload : Bytes} {e : SizeError} :
    encode max payload = .error e
      ↔ max < payload.length + 4 ∧ e = .payloadTooLong := by
  unfold encode
  by_cases h : payload.length + 4 ≤ max
  · simp [h, Nat.not_lt.2 h]
  · simp [h, Nat.lt_of_not_le h, eq_comm]

/-- What a writer puts out that is given payloads one after the other. A
payload that is refused leaves no byte behind. -/
def encodeAll (max : Nat) : List Bytes → Bytes
  | [] => []
  | payload :: payloads =>
    match encode max payload with
    | .ok bytes => bytes ++ encodeAll max payloads
    | .error _ => encodeAll max payloads

namespace Reader

-- ================================================= one step of the reader

@[simp] theorem append_nil (r : Reader) : r.append [] = r := by
  obtain ⟨awaiting, buffer⟩ := r
  simp [append]

/-- A reader does not notice where the bytes were cut. -/
theorem append_append (r : Reader) (a b : Bytes) :
    (r.append a).append b = r.append (a ++ b) := by
  simp [append]

/-- A reader past a size field takes the payload it waits for. -/
theorem next_awaiting (max n : Nat) (buffer : Bytes) :
    (⟨some n, buffer⟩ : Reader).next max
      = if buffer.length < n then (.ok none, ⟨some n, buffer⟩)
        else (.ok (some (buffer.take n)), ⟨none, buffer.drop n⟩) := by
  simp only [next, payload]
  split <;> rfl

/-- A reader before a size field that is not complete waits for it. -/
theorem next_short {max : Nat} {buffer : Bytes} (h : buffer.length < 4) :
    (⟨none, buffer⟩ : Reader).next max = (.ok none, ⟨none, buffer⟩) := by
  simp only [next]
  rw [if_pos h]

/-- A reader before a complete size field obeys it. -/
theorem next_sized {max : Nat} {buffer : Bytes} (h : 4 ≤ buffer.length) :
    (⟨none, buffer⟩ : Reader).next max
      = if max < bigEndian (buffer.take 4) then
          (.error .aboveMaximum, ⟨none, buffer⟩)
        else if bigEndian (buffer.take 4) < 4 then
          (.error .belowMinimum, ⟨none, buffer⟩)
        else
          (⟨some (bigEndian (buffer.take 4) - 4), buffer.drop 4⟩
            : Reader).next max := by
  simp only [next]
  rw [if_neg (by omega)]

/-- More bytes behind a payload that is waited for. -/
theorem next_append_awaiting (max n : Nat) (buffer more : Bytes) :
    (⟨some n, buffer ++ more⟩ : Reader).next max
      = match (⟨some n, buffer⟩ : Reader).next max with
        | (.ok (some p), r') => (.ok (some p), r'.append more)
        | (.ok none, r') => (r'.append more).next max
        | (.error e, r') => (.error e, r'.append more) := by
  by_cases hlen : buffer.length < n
  · rw [next_awaiting max n buffer, if_pos hlen]
    rfl
  · have hle : n ≤ buffer.length := by omega
    have hlong : ¬(buffer ++ more).length < n := by
      rw [List.length_append]
      omega
    rw [next_awaiting max n buffer, if_neg hlen, next_awaiting, if_neg hlong,
      List.take_append_of_le_length hle, List.drop_append_of_le_length hle]
    rfl

/-- More bytes at the end of the buffer: what was decided stays decided, and
a reader that waits goes on from where it waits. -/
theorem next_append (max : Nat) (r : Reader) (more : Bytes) :
    (r.append more).next max
      = match r.next max with
        | (.ok (some p), r') => (.ok (some p), r'.append more)
        | (.ok none, r') => (r'.append more).next max
        | (.error e, r') => (.error e, r'.append more) := by
  obtain ⟨awaiting, buffer⟩ := r
  cases awaiting with
  | some n => exact next_append_awaiting max n buffer more
  | none =>
    by_cases hlen : buffer.length < 4
    · rw [next_short hlen]
    · have hle : 4 ≤ buffer.length := by omega
      show (⟨none, buffer ++ more⟩ : Reader).next max = _
      rw [next_sized hle, next_sized (by rw [List.length_append]; omega),
        List.take_append_of_le_length hle, List.drop_append_of_le_length hle]
      by_cases hmax : max < bigEndian (buffer.take 4)
      · rw [if_pos hmax, if_pos hmax]
        rfl
      · by_cases hmin : bigEndian (buffer.take 4) < 4
        · rw [if_neg hmax, if_neg hmax, if_pos hmin, if_pos hmin]
          rfl
        · rw [if_neg hmax, if_neg hmax, if_neg hmin, if_neg hmin]
          exact next_append_awaiting max _ _ more

-- ======================================================= what a reader holds

/-- What a reader was given and has not handed out: the size it has passed,
if it waits for a payload, and its buffer. -/
def unread (r : Reader) : Bytes :=
  match r.awaiting with
  | none => r.buffer
  | some n => bigEndian32 (n + 4) ++ r.buffer

/-- A reader never waits for a payload above the maximum. -/
def Bounded (max : Nat) (r : Reader) : Prop :=
  ∀ n, r.awaiting = some n → n + 4 ≤ max

/-- A reader that awaits no payload exceeds nothing. -/
theorem bounded_of_eq_none {max : Nat} {r : Reader}
    (h : r.awaiting = none) : r.Bounded max := by
  intro n hn
  rw [h] at hn
  cases hn

/-- What was appended is behind what was there, with the size that has been
taken off counted in. -/
theorem unread_append (r : Reader) (more : Bytes) :
    (r.append more).unread = r.unread ++ more := by
  obtain ⟨awaiting, buffer⟩ := r
  cases awaiting with
  | none => rfl
  | some n => simp [unread, append]

/-- Passing a size field neither loses nor invents a byte. -/
theorem unread_passed {buffer : Bytes} (hlen : 4 ≤ buffer.length)
    (hmin : 4 ≤ bigEndian (buffer.take 4)) :
    (⟨some (bigEndian (buffer.take 4) - 4), buffer.drop 4⟩ : Reader).unread
      = buffer := by
  have htake : (buffer.take 4).length = 4 := by
    rw [List.length_take]
    omega
  simp only [unread]
  rw [Nat.sub_add_cancel hmin, bigEndian32_bigEndian htake,
    List.take_append_drop]

section Steps

variable {max : Nat} {r r' : Reader}

/-- A reader before a size field that it can obey is as good as the reader
behind it. -/
theorem next_passing {buffer : Bytes} (hlen : 4 ≤ buffer.length)
    {answer : Option Bytes}
    (h : (⟨none, buffer⟩ : Reader).next max = (.ok answer, r')) :
    ∃ n, n + 4 ≤ max ∧ (⟨some n, buffer.drop 4⟩ : Reader).unread = buffer
      ∧ (⟨some n, buffer.drop 4⟩ : Reader).next max = (.ok answer, r') := by
  rw [next_sized hlen] at h
  by_cases hmax : max < bigEndian (buffer.take 4)
  · rw [if_pos hmax] at h
    cases h
  · by_cases hmin : bigEndian (buffer.take 4) < 4
    · rw [if_neg hmax, if_pos hmin] at h
      cases h
    · rw [if_neg hmax, if_neg hmin] at h
      exact ⟨bigEndian (buffer.take 4) - 4, by omega,
        unread_passed hlen (by omega), h⟩

/-- A payload that a reader hands out stood at the front of its unread
bytes, behind its size. -/
theorem unread_of_payload {payload : Bytes} (hb : r.Bounded max)
    (h : r.next max = (.ok (some payload), r')) :
    r'.Bounded max ∧ ∃ head, encode max payload = .ok head
      ∧ r.unread = head ++ r'.unread := by
  -- the size is known, from before or from this call
  have past : ∀ (n : Nat) (buffer : Bytes), n + 4 ≤ max →
      (⟨some n, buffer⟩ : Reader).next max = (.ok (some payload), r') →
      r'.Bounded max ∧ ∃ head, encode max payload = .ok head
        ∧ (⟨some n, buffer⟩ : Reader).unread = head ++ r'.unread := by
    intro n buffer hn hnext
    rw [next_awaiting] at hnext
    by_cases hlen : buffer.length < n
    · rw [if_pos hlen] at hnext
      cases hnext
    · rw [if_neg hlen] at hnext
      cases hnext
      have htake : (buffer.take n).length = n := by
        rw [List.length_take]
        omega
      have hfits : (buffer.take n).length + 4 ≤ max := by omega
      refine ⟨nofun, _, encode_eq_ok.2 ⟨hfits, rfl⟩, ?_⟩
      simp only [unread]
      rw [htake, List.append_assoc, List.take_append_drop]
  obtain ⟨awaiting, buffer⟩ := r
  cases awaiting with
  | some n => exact past n buffer (hb n rfl) h
  | none =>
    by_cases hlen : buffer.length < 4
    · rw [next_short hlen] at h
      cases h
    · obtain ⟨n, hn, hunread, hnext⟩ := next_passing (by omega) h
      obtain ⟨hb', head, hhead, heq⟩ := past n _ hn hnext
      exact ⟨hb', head, hhead, hunread.symm.trans heq⟩

/-- A reader that waits has handed out nothing, and goes on waiting. -/
theorem unread_of_waiting (hb : r.Bounded max)
    (h : r.next max = (.ok none, r')) :
    r'.Bounded max ∧ r'.unread = r.unread
      ∧ r'.next max = (.ok none, r') := by
  -- as above, past the size
  have past : ∀ (n : Nat) (buffer : Bytes), n + 4 ≤ max →
      (⟨some n, buffer⟩ : Reader).next max = (.ok none, r') →
      r'.Bounded max ∧ r'.unread = (⟨some n, buffer⟩ : Reader).unread
        ∧ r'.next max = (.ok none, r') := by
    intro n buffer hn hnext
    have hstay := hnext
    rw [next_awaiting] at hnext
    by_cases hlen : buffer.length < n
    · rw [if_pos hlen] at hnext
      cases hnext
      refine ⟨?_, rfl, hstay⟩
      intro m hm
      cases hm
      exact hn
    · rw [if_neg hlen] at hnext
      cases hnext
  obtain ⟨awaiting, buffer⟩ := r
  cases awaiting with
  | some n => exact past n buffer (hb n rfl) h
  | none =>
    by_cases hlen : buffer.length < 4
    · have hstay := h
      rw [next_short hlen] at h
      cases h
      exact ⟨hb, rfl, hstay⟩
    · obtain ⟨n, hn, hunread, hnext⟩ := next_passing (by omega) h
      obtain ⟨hb', heq, hstay⟩ := past n _ hn hnext
      exact ⟨hb', heq.trans hunread, hstay⟩

end Steps

section Fronts

variable {max : Nat}

/-- A reader hands out a payload that is all it has not handed out. -/
theorem next_of_whole {r : Reader} {payload : Bytes} (hb : r.Bounded max)
    (hmax : max < 4294967296) (h : encode max payload = .ok r.unread) :
    r.next max = (.ok (some payload), .empty) := by
  obtain ⟨hfits, hunread⟩ := encode_eq_ok.1 h
  have hsize : bigEndian (bigEndian32 (payload.length + 4))
      = payload.length + 4 := bigEndian_bigEndian32 (by omega)
  have past : (⟨some payload.length, payload⟩ : Reader).next max
      = (.ok (some payload), .empty) := by
    rw [next_awaiting, if_neg (Nat.lt_irrefl _), List.take_length,
      List.drop_length]
    rfl
  obtain ⟨awaiting, buffer⟩ := r
  cases awaiting with
  | none =>
    have hbuffer : buffer = bigEndian32 (payload.length + 4) ++ payload :=
      hunread
    subst hbuffer
    rw [next_sized (by simp), List.take_left' (length_bigEndian32 _),
      List.drop_left' (length_bigEndian32 _), hsize, if_neg (by omega),
      if_neg (by omega), Nat.add_sub_cancel]
    exact past
  | some n =>
    have hn : n + 4 ≤ max := hb n rfl
    -- the size has been read already, and was that of this payload
    have hcut : bigEndian32 (n + 4) = bigEndian32 (payload.length + 4)
        ∧ buffer = payload := List.append_inj hunread (by simp)
    obtain ⟨hhead, rfl⟩ := hcut
    have hlen : n + 4 = buffer.length + 4 := by
      rw [← hsize, ← hhead, bigEndian_bigEndian32 (by omega)]
    obtain rfl : n = buffer.length := by omega
    exact past

/-- As long as bytes are missing, a reader waits. -/
theorem waits_of_more {r : Reader} {payload more : Bytes} (hne : more ≠ [])
    (h : (r.append more).next max = (.ok (some payload), .empty)) :
    ∃ r', r.next max = (.ok none, r') := by
  rw [next_append] at h
  match hn : r.next max with
  | (.ok none, r') => exact ⟨r', rfl⟩
  | (.error e, r') =>
    rw [hn] at h
    cases h
  | (.ok (some p), r') =>
    rw [hn] at h
    have hempty : r'.append more = .empty := congrArg Prod.snd h
    have hbuffer : r'.buffer ++ more = [] := congrArg buffer hempty
    exact absurd (List.append_eq_nil_iff.1 hbuffer).2 hne

/-- A payload at the front of what a reader has not handed out is the next
that it hands out. -/
theorem next_of_unread {r : Reader}
    {payload head rest : Bytes} (hb : r.Bounded max)
    (hmax : max < 4294967296) (h : encode max payload = .ok head)
    (hu : r.unread = head ++ rest) :
    r.next max = (.ok (some payload), ⟨none, rest⟩) := by
  have front : ∀ r₀ : Reader, r₀.awaiting = r.awaiting → r₀.unread = head →
      r = r₀.append rest →
      r.next max = (.ok (some payload), ⟨none, rest⟩) := by
    intro r₀ hawaiting hunread hr
    have hb₀ : r₀.Bounded max := by
      intro n hn
      exact hb n (hawaiting ▸ hn)
    have hnext := next_of_whole hb₀ hmax (hunread.symm ▸ h)
    rw [hr, next_append, hnext]
    rfl
  obtain ⟨awaiting, buffer⟩ := r
  cases awaiting with
  | none =>
    have hbuffer : buffer = head ++ rest := hu
    exact front ⟨none, head⟩ rfl rfl (by rw [hbuffer]; rfl)
  | some n =>
    obtain ⟨hfits, rfl⟩ := encode_eq_ok.1 h
    rw [List.append_assoc] at hu
    obtain ⟨hsize, hbuffer⟩ : bigEndian32 (n + 4)
        = bigEndian32 (payload.length + 4) ∧ buffer = payload ++ rest :=
      List.append_inj hu (by simp)
    refine front ⟨some n, payload⟩ rfl ?_ (by rw [hbuffer]; rfl)
    rw [← hsize]
    rfl

end Fronts

section Rounds

variable {max : Nat} {r r' : Reader}

-- ============================================================ piece by piece

/-- A failure ends the draining and leaves the reader as it was then. -/
theorem drain_of_error {e : SizeError} (h : r.next max = (.error e, r')) :
    r.drain max = ([], some e, r') := by
  rw [drain]
  split <;> simp_all

/-- So does the end of the bytes. -/
theorem drain_of_waiting (h : r.next max = (.ok none, r')) :
    r.drain max = ([], none, r') := by
  rw [drain]
  split <;> simp_all

/-- A payload is handed out and the draining goes on. -/
theorem drain_of_payload {payload : Bytes}
    (h : r.next max = (.ok (some payload), r')) :
    r.drain max = (payload :: (r'.drain max).1, (r'.drain max).2) := by
  rw [drain]
  split <;> simp_all

/-- A reader that is given bytes in pieces, and that is asked after each piece
until it waits or fails: what it hands out each time and the error that stops
it if one does, and the reader at the end. -/
def rounds (max : Nat) :
    List Bytes → Reader → List (List Bytes × Option SizeError) × Reader
  | [], r => ([], r)
  | piece :: pieces, r =>
    let (payloads, fault, r₁) := (r.append piece).drain max
    let (later, r₂) := rounds max pieces r₁
    ((payloads, fault) :: later, r₂)

/-- A reader that has come to wait waits on. -/
theorem next_again (h : r.next max = (.ok none, r')) :
    r'.next max = (.ok none, r') := by
  have hnil := next_append max r []
  rw [append_nil, h] at hnil
  simp only [append_nil] at hnil
  exact hnil.symm

/-- What a reader has still to hand out is decided by what it does next. -/
theorem drain_congr {s : Reader} (h : r.next max = s.next max) :
    r.drain max = s.drain max := by
  rcases hs : s.next max with ⟨_ | _ | payload, s'⟩
  · rw [drain_of_error hs, drain_of_error (h.trans hs)]
  · rw [drain_of_waiting hs, drain_of_waiting (h.trans hs)]
  · rw [drain_of_payload hs, drain_of_payload (h.trans hs)]

/-- More bytes at the end: what was handed out stays handed out, an error stays
what it was, and a reader that came to wait goes on from there. -/
theorem drain_append (max : Nat) (r : Reader) (more : Bytes) :
    (r.append more).drain max
      = match r.drain max with
        | (payloads, none, r') =>
          let later := (r'.append more).drain max
          (payloads ++ later.1, later.2)
        | (payloads, some e, r') => (payloads, some e, r'.append more) := by
  fun_induction drain max r with
  | case1 r p r₁ hn payloads fault r₂ hd ih =>
    have hnext : (r.append more).next max
        = (.ok (some p), r₁.append more) := by
      rw [next_append, hn]
    rw [drain_of_payload hnext, ih, hd]
    cases fault <;> rfl
  | case2 r r₁ hn =>
    have hnext : (r.append more).next max = (r₁.append more).next max := by
      rw [next_append, hn]
    exact drain_congr hnext
  | case3 r e r₁ hn =>
    have hnext : (r.append more).next max = (.error e, r₁.append more) := by
      rw [next_append, hn]
    exact drain_of_error hnext

/-- A reader that has handed out all it can waits for more. -/
theorem next_of_drain {payloads : List Bytes}
    (h : r.drain max = (payloads, none, r')) :
    r'.next max = (.ok none, r') := by
  fun_induction drain max r generalizing payloads with
  | case1 r p r₁ hn rest fault r₂ hd ih =>
    cases h
    exact ih hd
  | case2 r r₁ hn =>
    cases h
    exact next_again hn
  | case3 r e r₁ hn => cases h

/-- A reader hands out in rounds what it hands out at once. -/
theorem rounds_of_drain {pieces payloads : List Bytes}
    (dry : r.next max = (.ok none, r))
    (h : (r.append pieces.flatten).drain max = (payloads, none, r')) :
    ((rounds max pieces r).1.map Prod.fst).flatten = payloads
    ∧ (∀ round ∈ (rounds max pieces r).1, round.2 = none)
    ∧ (rounds max pieces r).2 = r' := by
  induction pieces generalizing r payloads with
  | nil =>
    rw [List.flatten_nil, append_nil, drain_of_waiting dry] at h
    cases h
    exact ⟨rfl, nofun, rfl⟩
  | cons piece pieces ih =>
    rw [List.flatten_cons, ← append_append, drain_append] at h
    rcases hd : (r.append piece).drain max with ⟨given, _ | e, r₁⟩
    · rcases hlater : (r₁.append pieces.flatten).drain max with ⟨later, rest⟩
      rw [hd] at h
      simp only [hlater] at h
      cases h
      obtain ⟨hgiven, hfine, hend⟩ := ih (next_of_drain hd) hlater
      simp only [rounds, hd]
      refine ⟨?_, ?_, hend⟩
      · rw [List.map_cons, List.flatten_cons, hgiven]
      · exact List.forall_mem_cons.2 ⟨rfl, hfine⟩
    · rw [hd] at h
      cases h

-- ============================================================ what was written

/-- What was written of payloads is read back at once, and nothing is left. -/
theorem drain_encodeAll (hmax : max < 4294967296) (payloads : List Bytes) :
    (⟨none, encodeAll max payloads⟩ : Reader).drain max
      = (payloads.filter (fun payload => payload.length + 4 ≤ max), none,
          .empty) := by
  induction payloads with
  | nil =>
    exact drain_of_waiting (r := ⟨none, []⟩) (next_short (Nat.zero_lt_succ 3))
  | cons payload payloads ih =>
    rw [encodeAll]
    cases h : encode max payload with
    | ok bytes =>
      have hfits := (encode_eq_ok.1 h).1
      have hnext := next_of_unread
        (r := ⟨none, bytes ++ encodeAll max payloads⟩) nofun hmax h rfl
      rw [drain_of_payload hnext, ih,
        List.filter_cons_of_pos (by simpa using hfits)]
    | error e =>
      have hlong := (encode_eq_error.1 h).1
      rw [List.filter_cons_of_neg (by simpa using hlong)]
      exact ih

-- ================================================================ bad sizes

/-- The reader fails, and goes on failing whatever is added: nothing leaves its
buffer. -/
def Stuck (max : Nat) (e : SizeError) (r : Reader) : Prop :=
  ∀ more, (r.append more).next max = (.error e, r.append more)

/-- A reader that is stuck stays so, whatever else it is given. -/
theorem Stuck.rounds {e : SizeError} (h : r.Stuck max e)
    (pieces : List Bytes) :
    r.rounds max pieces
      = (pieces.map fun _ => ([], some e), r.append pieces.flatten) := by
  induction pieces generalizing r with
  | nil =>
    rw [List.flatten_nil, append_nil]
    rfl
  | cons piece pieces ih =>
    have hstill : (r.append piece).Stuck max e := by
      intro more
      rw [append_append]
      exact h (piece ++ more)
    simp only [Reader.rounds, drain_of_error (h piece), ih hstill,
      append_append, List.map_cons, List.flatten_cons]

section Sizes

variable {buffer : Bytes}

/-- Nothing behind a complete size field changes what it says. -/
theorem next_sized_append (complete : 4 ≤ buffer.length) (more : Bytes) :
    ((⟨none, buffer⟩ : Reader).append more).next max
      = if max < bigEndian (buffer.take 4) then
          (.error .aboveMaximum, (⟨none, buffer⟩ : Reader).append more)
        else if bigEndian (buffer.take 4) < 4 then
          (.error .belowMinimum, (⟨none, buffer⟩ : Reader).append more)
        else
          (⟨some (bigEndian (buffer.take 4) - 4), buffer.drop 4 ++ more⟩
            : Reader).next max := by
  show (⟨none, buffer ++ more⟩ : Reader).next max = _
  rw [next_sized (by rw [List.length_append]; omega),
    List.take_append_of_le_length complete,
    List.drop_append_of_le_length complete]
  rfl

/-- A size above the maximum is never got past. -/
theorem stuck_above (complete : 4 ≤ buffer.length)
    (above : max < bigEndian (buffer.take 4)) :
    (⟨none, buffer⟩ : Reader).Stuck max .aboveMaximum := by
  intro more
  rw [next_sized_append complete, if_pos above]

/-- Nor is one below its own four bytes. -/
theorem stuck_below (complete : 4 ≤ buffer.length)
    (below : bigEndian (buffer.take 4) < 4) (least : 4 ≤ max) :
    (⟨none, buffer⟩ : Reader).Stuck max .belowMinimum := by
  intro more
  rw [next_sized_append complete, if_neg (by omega), if_pos below]

/-- A size that a reader can obey is used up, however much of its payload is
there. -/
theorem next_obeyed (complete : 4 ≤ buffer.length)
    (least : 4 ≤ bigEndian (buffer.take 4))
    (most : bigEndian (buffer.take 4) ≤ max) (more : Bytes) :
    ((⟨none, buffer⟩ : Reader).append more).next max
      = (⟨some (bigEndian (buffer.take 4) - 4), buffer.drop 4 ++ more⟩
          : Reader).next max := by
  rw [next_sized_append complete, if_neg (by omega), if_neg (by omega)]

end Sizes

end Rounds

end Reader

/-- A writer and a reader of the same maximum agree. A payload is written
exactly if it fits with its size, and else leaves no byte behind. What was
written of any payloads is read back in any pieces, each of them worked off
before the next: the payloads that fit, in their order, with no error and
nothing left over. A size beyond the maximum, or one that does not even count
itself, stops the reader for good, whatever is added, with all bytes still
there. A size between the two never does: the reader waits for its payload, and
hands it out once it is complete. -/
theorem codec_agrees {max : Nat} (least : 4 ≤ max)
    (most : max ≤ 2147483648) :
    (∀ payload : Bytes,
      (payload.length + 4 ≤ max → encode max payload
        = .ok (bigEndian32 (payload.length + 4) ++ payload))
      ∧ (max < payload.length + 4 →
        encode max payload = .error .payloadTooLong))
    ∧ (∀ payloads pieces : List Bytes,
      pieces.flatten = encodeAll max payloads →
      ((Reader.empty.rounds max pieces).1.map Prod.fst).flatten
          = payloads.filter (fun payload => payload.length + 4 ≤ max)
        ∧ (∀ round ∈ (Reader.empty.rounds max pieces).1, round.2 = none)
        ∧ (Reader.empty.rounds max pieces).2 = .empty)
    ∧ ∀ buffer : Bytes, 4 ≤ buffer.length →
      (max < bigEndian (buffer.take 4) →
        ∃ e : SizeError, e.kind = .invalidData ∧ ∀ pieces : List Bytes,
          (⟨none, buffer⟩ : Reader).rounds max pieces
            = (pieces.map fun _ => ([], some e),
                ⟨none, buffer ++ pieces.flatten⟩))
      ∧ (bigEndian (buffer.take 4) < 4 →
        ∃ e : SizeError, e.kind = .invalidInput ∧ ∀ pieces : List Bytes,
          (⟨none, buffer⟩ : Reader).rounds max pieces
            = (pieces.map fun _ => ([], some e),
                ⟨none, buffer ++ pieces.flatten⟩))
      ∧ (4 ≤ bigEndian (buffer.take 4) → bigEndian (buffer.take 4) ≤ max →
        ∀ more : Bytes,
          let n := bigEndian (buffer.take 4) - 4
          let behind := buffer.drop 4 ++ more
          let (payload, r) := Reader.payload n behind
          (⟨none, buffer ++ more⟩ : Reader).next max = (.ok payload, r)
            ∧ (⟨some n, behind⟩ : Reader).next max = (.ok payload, r)) := by
  refine ⟨fun payload => ⟨?_, ?_⟩, ?_, fun buffer complete => ⟨?_, ?_, ?_⟩⟩
  · intro hfits
    exact encode_eq_ok.2 ⟨hfits, rfl⟩
  · intro hlong
    exact encode_eq_error.2 ⟨hlong, rfl⟩
  · intro payloads pieces hstream
    -- a reader that starts dry is drained by the pieces, however they are cut
    have hdry : Reader.empty.next max = (.ok none, .empty) :=
      Reader.next_short (Nat.zero_lt_succ 3)
    refine Reader.rounds_of_drain hdry ?_
    rw [hstream]
    exact Reader.drain_encodeAll (by omega) payloads
  · intro above
    exact ⟨.aboveMaximum, rfl, (Reader.stuck_above complete above).rounds⟩
  · intro below
    exact ⟨.belowMinimum, rfl, (Reader.stuck_below complete below least).rounds⟩
  · intro hleast hmost more
    exact ⟨Reader.next_obeyed complete hleast hmost more, rfl⟩

end SaslGate.Sized

-- ============================================================= a rehearsal

namespace SaslGate.Rehearsal

open Sized

/-- Two payloads that fit in sixteen bytes, one of them empty, cut inside a
size and inside a payload. -/
def trickle : List Bytes := [[0, 0], [0, 7, 1], [2, 3, 0, 0, 0], [4]]

/-- A payload of thirteen bytes is refused between the two, which come through.
A size of seventeen stops the reader, and so does one of three. -/
theorem codec_agrees_rehearsal :
    trickle.flatten = encodeAll 16 [[1, 2, 3], List.replicate 13 0, []]
    ∧ ((Reader.empty.rounds 16 trickle).1.map Prod.fst).flatten
      = [[1, 2, 3], []]
    ∧ (Reader.empty.rounds 16 trickle).2 = .empty
    ∧ (∃ e : SizeError, e.kind = .invalidData
      ∧ (⟨none, [0, 0, 0, 17]⟩ : Reader).rounds 16 [[], [9]]
        = ([([], some e), ([], some e)], ⟨none, [0, 0, 0, 17, 9]⟩))
    ∧ ∃ e : SizeError, e.kind = .invalidInput
      ∧ (⟨none, [0, 0, 0, 3]⟩ : Reader).rounds 16 [[], [9]]
        = ([([], some e), ([], some e)], ⟨none, [0, 0, 0, 3, 9]⟩) := by
  have hstream : trickle.flatten
      = encodeAll 16 [[1, 2, 3], List.replicate 13 0, []] := by decide
  obtain ⟨-, hread, hsizes⟩ :=
    @codec_agrees 16 (by decide) (by decide)
  obtain ⟨hpayloads, -, hempty⟩ := hread _ _ hstream
  obtain ⟨e, hkind, hstuck⟩ :=
    (hsizes [0, 0, 0, 17] (by decide)).1 (by decide)
  obtain ⟨e', hkind', hstuck'⟩ :=
    (hsizes [0, 0, 0, 3] (by decide)).2.1 (by decide)
  exact ⟨hstream, hpayloads, hempty, ⟨e, hkind, hstuck _⟩,
    ⟨e', hkind', hstuck' _⟩⟩

end SaslGate.Rehearsal
