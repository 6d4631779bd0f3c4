/-
What a client takes in: every byte it was fed is accounted for. The bytes
are the server's header, then frames, each behind its size, then what has
not become a frame yet. The frames are exactly those that the client has
taken note of, in the same order.

# The account

`Spells` says which frames a byte string is made of, with no reader in
sight: a payload behind its size, and a frame that the payload decodes to.
`Heard` ties a client to the bytes it was fed. Its one step is
`Heard.feed`: whatever is fed without an error extends the account by the
frames that the client took note of meanwhile.

# One frame at a time

A client takes note of a frame in one of three ways (`accept_inv`), and
each of them leaves a client that refuses all frames until it is asked to
go on (`Deaf`). So between two calls of its owner a client hears at most
one frame: an offer (`acceptAll_idle`), or a challenge or an outcome
(`acceptAll_offered`).
-/
import SaslGate.Proofs.Client.Segments

namespace SaslGate

-- ====================================================== streams of frames

/-- The frames that bytes are made of: each in a payload behind its size,
one after the other. -/
inductive Spells : List Frame → Bytes → Prop
  | nil : Spells [] []
  | cons {f : Frame} {fs : List Frame} {payload head rest : Bytes}
      (sized : Sized.encode Client.maxFrameSize payload = .ok head)
      (decodes : Frame.decode payload = .ok f) (tail : Spells fs rest) :
      Spells (f :: fs) (head ++ rest)

/-- Frames one after the other are spelled one after the other. -/
theorem Spells.append {fs gs : List Frame} {a b : Bytes}
    (ha : Spells fs a) (hb : Spells gs b) : Spells (fs ++ gs) (a ++ b) := by
  induction ha with
  | nil => exact hb
  | cons sized decodes tail ih =>
    rw [List.append_assoc]
    exact .cons sized decodes ih

/-- Bytes at whose front no frame is complete, nor any size refused. -/
def Unfinished (bytes : Bytes) : Prop :=
  ∃ r, (⟨none, bytes⟩ : Sized.Reader).next Client.maxFrameSize = (.ok none, r)

/-- What a reader that waits has not handed out is the beginning of a
frame. -/
theorem unfinished_unread {r : Sized.Reader}
    (hb : r.Bounded Client.maxFrameSize)
    (h : r.next Client.maxFrameSize = (.ok none, r)) :
    Unfinished r.unread := by
  obtain ⟨awaiting, buffer⟩ := r
  cases awaiting with
  | none => exact ⟨_, h⟩
  | some n =>
    have hn : n + 4 ≤ Client.maxFrameSize := hb n rfl
    have hmax : Client.maxFrameSize = 512 := rfl
    have hsize : bigEndian (bigEndian32 (n + 4)) = n + 4 :=
      bigEndian_bigEndian32 (by omega)
    refine ⟨⟨some n, buffer⟩, ?_⟩
    show (⟨none, bigEndian32 (n + 4) ++ buffer⟩ : Sized.Reader).next _ = _
    rw [Sized.Reader.next_sized (by simp),
      List.take_left' (length_bigEndian32 _),
      List.drop_left' (length_bigEndian32 _), hsize, if_neg (by omega),
      if_neg (by omega), Nat.add_sub_cancel]
    exact h

/-- A whole stream from a server: its header, frames, and the beginning of
one more. -/
def Streams (fs : List Frame) (bytes : Bytes) : Prop :=
  ∃ raw rest, Spells fs raw ∧ Unfinished rest
    ∧ bytes = Header.sasl.encode ++ raw ++ rest

-- ======================================================== taking note

namespace Client

/-- Takes note of frames one after the other. -/
def acceptAll : List Frame → Client → Except TransportError Client
  | [], c => .ok c
  | f :: fs, c =>
    match c.accept f with
    | .error e => .error e
    | .ok c' => acceptAll fs c'

/-- A run of frames that a client takes note of begins with one. -/
theorem acceptAll_cons_inv {f : Frame} {fs : List Frame} {c c' : Client}
    (h : c.acceptAll (f :: fs) = .ok c') :
    ∃ d, c.accept f = .ok d ∧ d.acceptAll fs = .ok c' := by
  rw [acceptAll] at h
  cases ha : c.accept f with
  | error e =>
    rw [ha] at h
    cases h
  | ok d =>
    rw [ha] at h
    exact ⟨d, rfl, h⟩

/-- Frames are accepted in order, the rest by the client that took note of the
first. -/
theorem acceptAll_cons {f : Frame} {fs : List Frame} {c d : Client}
    (h : c.accept f = .ok d) : c.acceptAll (f :: fs) = d.acceptAll fs := by
  rw [acceptAll, h]

@[simp] theorem placed_placed (c : Client) (k k' : ConnectionState)
    (r r' : Sized.Reader) : (c.placed k r).placed k' r' = c.placed k' r' := rfl

/-- Taking note of frames does not look at the connection or at the buffer. -/
theorem acceptAll_placed {fs : List Frame} {c c' : Client}
    (h : c.acceptAll fs = .ok c') (k : ConnectionState)
    (r : Sized.Reader) :
    (c.placed k r).acceptAll fs = .ok (c'.placed k r) := by
  induction fs generalizing c with
  | nil =>
    cases h
    rfl
  | cons f fs ih =>
    obtain ⟨d, ha, hrest⟩ := acceptAll_cons_inv h
    rw [acceptAll, accept_placed, ha]
    exact ih hrest

/-- What a frame does to a client that takes note of it, and when it does. -/
theorem accept_inv {f : Frame} {c c' : Client} (h : c.accept f = .ok c') :
    (∃ names, f = .mechanisms names ∧ c.mechanisms = none
        ∧ c' = { c with mechanisms := some names })
    ∨ (∃ data, f = .challenge data ∧ c.awaitsServer = true
        ∧ c' = { c with pending := some data })
    ∨ ∃ code data, f = .outcome code data ∧ c.awaitsServer = true
        ∧ c' = { c with
            progress := if code = .ok then .pass else .fail
            pending := data
            outcome := some code } := by
  unfold accept at h
  cases f with
  | mechanisms names =>
    simp only at h
    split at h
    · cases h
    · cases h
      refine .inl ⟨names, rfl, ?_, rfl⟩
      simp_all
  | challenge data =>
    simp only at h
    split at h
    · cases h
      exact .inr (.inl ⟨data, rfl, ‹_›, rfl⟩)
    · cases h
  | outcome code data =>
    simp only at h
    split at h
    · cases h
      exact .inr (.inr ⟨code, data, rfl, ‹_›, rfl⟩)
    · cases h
  | init mechanism initialResponse hostname => cases h
  | response data => cases h

-- ============================================================== deafness

/-- A client that refuses every frame until its owner does something. -/
def Deaf (c : Client) : Prop := c.mechanisms ≠ none ∧ c.awaitsServer = false

/-- A deaf client takes note of nothing. -/
theorem Deaf.eq_nil {c c' : Client} {fs : List Frame} (hd : c.Deaf)
    (h : c.acceptAll fs = .ok c') : fs = [] ∧ c' = c := by
  cases fs with
  | nil =>
    cases h
    exact ⟨rfl, rfl⟩
  | cons f fs =>
    obtain ⟨d, ha, -⟩ := acceptAll_cons_inv h
    obtain ⟨hm, hw⟩ := hd
    rcases accept_inv ha with ⟨_, -, hm', -⟩ | ⟨_, -, hw', -⟩
      | ⟨_, _, -, hw', -⟩
    · exact absurd hm' hm
    · rw [hw] at hw'
      cases hw'
    · rw [hw] at hw'
      cases hw'

/-- A client that has picked no mechanism hears at most one offer. -/
theorem acceptAll_idle {c c' : Client} {fs : List Frame}
    (hi : c.progress = .idle) (h : c.acceptAll fs = .ok c') :
    (fs = [] ∧ c' = c)
    ∨ ∃ names, fs = [.mechanisms names]
        ∧ c' = { c with mechanisms := some names } := by
  have hw : c.awaitsServer = false := by simp [awaitsServer, hi]
  cases fs with
  | nil =>
    cases h
    exact .inl ⟨rfl, rfl⟩
  | cons f fs =>
    obtain ⟨d, ha, hrest⟩ := acceptAll_cons_inv h
    rcases accept_inv ha with ⟨names, rfl, -, rfl⟩ | ⟨_, -, hw', -⟩
      | ⟨_, _, -, hw', -⟩
    · have hdeaf : Deaf { c with mechanisms := some names } :=
        ⟨Option.some_ne_none names, hw⟩
      obtain ⟨rfl, rfl⟩ := hdeaf.eq_nil hrest
      exact .inr ⟨names, rfl, rfl⟩
    · rw [hw] at hw'
      cases hw'
    · rw [hw] at hw'
      cases hw'

/-- Once an offer has come, a client hears at most one challenge or one
outcome. -/
theorem acceptAll_offered {c c' : Client} {fs : List Frame}
    (hm : c.mechanisms ≠ none) (h : c.acceptAll fs = .ok c') :
    (fs = [] ∧ c' = c)
    ∨ (∃ data, fs = [.challenge data] ∧ c.awaitsServer = true
        ∧ c' = { c with pending := some data })
    ∨ ∃ code data, fs = [.outcome code data] ∧ c.awaitsServer = true
        ∧ c' = { c with
            progress := if code = .ok then .pass else .fail
            pending := data
            outcome := some code } := by
  cases fs with
  | nil =>
    cases h
    exact .inl ⟨rfl, rfl⟩
  | cons f fs =>
    obtain ⟨d, ha, hrest⟩ := acceptAll_cons_inv h
    rcases accept_inv ha with ⟨_, -, hm', -⟩ | ⟨data, rfl, hw, rfl⟩
      | ⟨code, data, rfl, hw, rfl⟩
    · exact absurd hm' hm
    · -- with something to be taken, no further frame is heard
      have hdeaf : Deaf { c with pending := some data } :=
        ⟨hm, by simp [awaitsServer]⟩
      obtain ⟨rfl, rfl⟩ := hdeaf.eq_nil hrest
      exact .inr (.inl ⟨data, rfl, hw, rfl⟩)
    · have hdeaf : Deaf { c with
          progress := if code = .ok then .pass else .fail
          pending := data
          outcome := some code } := by
        refine ⟨hm, ?_⟩
        by_cases hc : code = .ok <;> simp [awaitsServer, hc]
      obtain ⟨rfl, rfl⟩ := hdeaf.eq_nil hrest
      exact .inr (.inr ⟨code, data, rfl, hw, rfl⟩)

-- ============================================================ the account

/-- Working off frames takes a run of them off the front of the unread bytes
and takes note of exactly these. What stays is not a complete frame. -/
theorem drain_account {c c' : Client} (hb : c.reader.Bounded maxFrameSize)
    (h : c.drain = (.ok (), c')) :
    (∃ fs raw d, Spells fs raw
      ∧ c.reader.unread = raw ++ c'.reader.unread
      ∧ c.acceptAll fs = .ok d ∧ c' = d.placed c.connection c'.reader)
    ∧ c'.reader.Bounded maxFrameSize
    ∧ c'.reader.next maxFrameSize = (.ok none, c'.reader) := by
  fun_induction drain c with
  | case1 c e r hn => cases h
  | case2 c r hn =>
    cases h
    obtain ⟨hb', hunread, hstay⟩ := Sized.Reader.unread_of_waiting hb hn
    exact ⟨⟨[], [], c, .nil, hunread.symm, rfl, rfl⟩, hb', hstay⟩
  | case3 c payload r hn e hr => cases h
  | case4 c payload r hn c₁ hr ih =>
    obtain ⟨hb₁, head, hhead, hunread⟩ := Sized.Reader.unread_of_payload hb hn
    have hreader : c₁.reader = r := reader_of_receive hr
    -- the account of the rest, with this frame put in front
    obtain ⟨⟨fs, raw, d, hspells, hraw, haccept, hd⟩, hb', hstay⟩ :=
      ih (hreader ▸ hb₁) h
    refine ⟨?_, hb', hstay⟩
    unfold receive at hr
    cases hdec : Frame.decode payload with
    | error e =>
      rw [hdec] at hr
      cases hr
    | ok f =>
      rw [hdec] at hr
      change (c.placed c.connection r).accept f = .ok c₁ at hr
      rw [accept_placed] at hr
      cases ha : c.accept f with
      | error e =>
        rw [ha] at hr
        cases hr
      | ok c₀ =>
        rw [ha] at hr
        cases hr
        have hback := acceptAll_placed haccept c₀.connection c₀.reader
        refine ⟨f :: fs, head ++ raw, d.placed c₀.connection c₀.reader,
          .cons hhead hdec hspells, ?_, ?_, ?_⟩
        · rw [hunread, List.append_assoc, ← hraw, hreader]
        · rw [acceptAll_cons ha]
          exact hback
        · exact hd

/-- What a client has heard: the frames it has taken note of, among the
bytes that it was fed. -/
inductive Heard (c : Client) : List Frame → Bytes → Prop
  /-- The header has not arrived completely. -/
  | header {input : Bytes} (undone : c.headerDone = false)
      (reader : c.reader = ⟨none, input⟩) : Heard c [] input
  | frames {fs : List Frame} {raw : Bytes} (done : c.headerDone = true)
      (bounded : c.reader.Bounded maxFrameSize)
      (dry : c.reader.next maxFrameSize = (.ok none, c.reader))
      (spells : Spells fs raw) :
      Heard c fs (Header.sasl.encode ++ raw ++ c.reader.unread)

/-- A client that was fed nothing has its header to wait for. -/
theorem heard_fresh : fresh.Heard [] [] := .header rfl rfl

/-- What a client has heard depends on its reader alone, and on whether the
header is done. -/
theorem Heard.congr {c c' : Client} {fs : List Frame} {input : Bytes}
    (h : c.Heard fs input) (hd : c'.headerDone = c.headerDone)
    (hr : c'.reader = c.reader) : c'.Heard fs input := by
  cases h with
  | header undone reader => exact .header (hd.trans undone) (hr.trans reader)
  | frames done bounded dry spells =>
    rw [← hr] at bounded dry ⊢
    exact .frames (hd.trans done) bounded dry spells

/-- A client that has taken note of a frame has heard a stream. -/
theorem Heard.streams {c : Client} {fs : List Frame} {input : Bytes}
    (h : c.Heard fs input) (hne : fs ≠ []) : Streams fs input := by
  cases h with
  | header undone reader => exact absurd rfl hne
  | frames done bounded dry spells =>
    exact ⟨_, _, spells, unfinished_unread bounded dry, rfl⟩

/-- A header that a client has found was the supported one, at the front of
its buffer. -/
theorem receiveHeader_inv {c c' : Client}
    (h : c.receiveHeader = (.ok true, c')) :
    ∃ rest, c.reader.buffer = Header.sasl.encode ++ rest
      ∧ c' = c.placed c'.connection { c.reader with buffer := rest } := by
  unfold receiveHeader at h
  split at h
  · cases h
  · cases h
  · rename_i found rest hscan
    simp only at h
    split at h
    · rename_i hsupported
      cases h
      have hsasl : found = Header.sasl := by
        simpa [Header.isSupported] using hsupported
      subst hsasl
      exact ⟨rest, Header.eq_append_of_scan hscan, rfl⟩
    · cases h

/-- Being fed without an error extends the account by the new bytes, and by
the frames that the client takes note of meanwhile. -/
theorem Heard.feed {c c' : Client} {fs : List Frame} {input bytes : Bytes}
    (hh : c.Heard fs input) (he : c.connection ≠ .ended)
    (h : c.feed bytes = (.ok (), c')) :
    ∃ gs d, c'.Heard (fs ++ gs) (input ++ bytes) ∧ c.acceptAll gs = .ok d
      ∧ c' = d.placed c'.connection c'.reader := by
  cases hh with
  | frames done bounded dry spells =>
    rename_i raw
    rw [feed_of_headerDone done] at h
    obtain ⟨⟨gs, raw', d, hspells, hunread, haccept, hd⟩, hb', hdry⟩ :=
      drain_account (c := c.append bytes) bounded h
    have hdone : c'.headerDone = true := by
      have := headerDone_drain (c.append bytes)
      rw [h] at this
      exact this.trans done
    rw [reader_append, Sized.Reader.unread_append] at hunread
    refine ⟨gs, d.placed c.connection c.reader, ?_,
      acceptAll_placed haccept c.connection c.reader, ?_⟩
    · have hheard := Heard.frames hdone hb' hdry (spells.append hspells)
      rw [List.append_assoc, hunread]
      simpa using hheard
    · rw [placed_placed, hd]
      rfl
  | header undone reader =>
    rw [feed_of_not_headerDone he undone] at h
    rcases hrec : (c.append bytes).receiveHeader with ⟨_ | found, c₁⟩
    · rw [hrec] at h
      cases h
    cases found with
    | false =>
      rw [hrec] at h
      cases h
      rw [eq_of_receiveHeader_false hrec]
      refine ⟨[], c, .header undone ?_, rfl, rfl⟩
      rw [reader_append, reader]
      rfl
    | true =>
      rw [hrec] at h
      -- the header is complete, and what stands behind it is worked off
      obtain ⟨rest, hbuffer, hc₁⟩ := receiveHeader_inv hrec
      have hreader : c₁.reader = ⟨none, rest⟩ := by
        rw [hc₁]
        simp [placed, append, Sized.Reader.append, reader]
      have hinput : input ++ bytes = Header.sasl.encode ++ rest := by
        rw [← hbuffer, reader_append, reader]
        rfl
      have hdrain : c₁.drain = (.ok (), c') := h
      obtain ⟨⟨gs, raw, d, hspells, hunread, haccept, hd⟩, hb', hdry⟩ :=
        drain_account (Sized.Reader.bounded_of_eq_none (by rw [hreader])) hdrain
      have hdone : c'.headerDone = true := by
        have := headerDone_drain c₁
        rw [hdrain] at this
        exact this.trans (headerDone_of_receiveHeader hrec)
      rw [hreader] at hunread
      refine ⟨gs, d.placed c.connection c.reader, ?_, ?_, ?_⟩
      · have hheard := Heard.frames hdone hb' hdry hspells
        rw [hinput, show rest = raw ++ c'.reader.unread from hunread]
        simpa using hheard
      · have hback := acceptAll_placed haccept c.connection c.reader
        rw [hc₁] at hback
        exact hback
      · rw [placed_placed, hd]
        rfl

end Client

end SaslGate
