/-
Feeding is independent of segmentation: a client that is fed a byte stream
in pieces ends where it ends when the whole stream is fed at once, and it
stops at the same error. A read may end anywhere, inside the header, inside
a size field or between a size and its payload; none of these cuts shows.

# The one equation

Everything rests on what more bytes at the end do to one step of the
reader (`Sized.Reader.next_append`). The working-off of frames inherits
this step by step (`drain_append`), because taking note of a frame never
looks at the buffer. The header is one more step in front (`feed_append`).
A list of pieces is then an induction with `feed_append` as its step
(`feedAll_settled`).

After an error the bytes that came too late lie unread behind what the
client left in its buffer. This is all that tells two cuts apart then.
-/
import SaslGate.Proofs.Amqp.Header
import SaslGate.Proofs.Amqp.Sized

namespace SaslGate

-- ===================================================== working off frames

namespace Client

/-- The client with more bytes at the end of its buffer. -/
def append (c : Client) (bytes : Bytes) : Client :=
  { c with reader := c.reader.append bytes }

@[simp] theorem append_nil (c : Client) : c.append [] = c := by
  simp [append]

/-- Bytes may be put in the buffer in two pieces. -/
theorem append_append (c : Client) (a b : Bytes) :
    (c.append a).append b = c.append (a ++ b) := by
  simp [append, Sized.Reader.append_append]

@[simp] theorem reader_append (c : Client) (bytes : Bytes) :
    (c.append bytes).reader = c.reader.append bytes := rfl

@[simp] theorem headerDone_append (c : Client) (bytes : Bytes) :
    (c.append bytes).headerDone = c.headerDone := rfl

/-- The client with another connection and another reader. -/
def placed (k : ConnectionState) (r : Sized.Reader) (c : Client) : Client :=
  { c with connection := k, reader := r }

/-- Taking note of a frame looks neither at the connection nor at the
buffer. -/
theorem accept_placed (f : Frame) (c : Client) (k : ConnectionState)
    (r : Sized.Reader) :
    (c.placed k r).accept f = (c.accept f).map (placed k r) := by
  have hawaits : (c.placed k r).awaitsServer = c.awaitsServer := rfl
  cases f with
  | mechanisms names =>
    have hmechanisms : (c.placed k r).mechanisms = c.mechanisms := rfl
    simp only [accept, hmechanisms]
    by_cases h : c.mechanisms.isSome = true
    · rw [if_pos h, if_pos h]
      rfl
    · rw [if_neg h, if_neg h]
      rfl
  | challenge data =>
    simp only [accept, hawaits]
    by_cases h : c.awaitsServer = true
    · rw [if_pos h, if_pos h]
      rfl
    · rw [if_neg h, if_neg h]
      rfl
  | outcome code data =>
    simp only [accept, hawaits]
    by_cases h : c.awaitsServer = true
    · rw [if_pos h, if_pos h]
      rfl
    · rw [if_neg h, if_neg h]
      rfl
  | init mechanism initialResponse hostname => rfl
  | response data => rfl

/-- A frame never touches the connection. -/
theorem connection_of_accept {f : Frame} {c c' : Client}
    (h : c.accept f = .ok c') : c'.connection = c.connection := by
  unfold accept at h
  cases f <;> simp only at h <;> (try split at h) <;> cases h <;> rfl

theorem connection_of_receive {payload : Bytes} {c c' : Client}
    (h : c.receive payload = .ok c') : c'.connection = c.connection := by
  unfold receive at h
  split at h
  · cases h
  · exact connection_of_accept h

/-- More bytes at the end of the buffer stay there while a client takes note
of a payload. -/
theorem receive_append (payload : Bytes) (c : Client) (more : Bytes) :
    (c.append more).receive payload
      = (c.receive payload).map fun c' => c'.append more := by
  unfold receive
  cases Frame.decode payload with
  | error e => rfl
  | ok f =>
    show (c.placed c.connection (c.reader.append more)).accept f
      = (c.accept f).map fun c' => c'.append more
    rw [accept_placed]
    cases h : c.accept f with
    | error e => rfl
    | ok c' =>
      show Except.ok _ = Except.ok (c'.append more)
      rw [append, ← connection_of_accept h, ← reader_of_accept h]
      rfl

section Draining

variable {c c' : Client} {r : Sized.Reader} {payload : Bytes}

/-- Draining ends where the bytes do. -/
theorem drain_of_waiting (h : c.reader.next maxFrameSize = (.ok none, r)) :
    c.drain = (.ok (), { c with reader := r }) := by
  rw [drain]
  split <;> simp_all

/-- A size that is out of bounds ends it, with the bytes behind left unread.
-/
theorem drain_of_badSize {e : SizeError}
    (h : c.reader.next maxFrameSize = (.error e, r)) :
    c.drain = (.error (.frame (.size e)), { c with reader := r }) := by
  rw [drain]
  split <;> simp_all

/-- So does a frame that is refused, which has been taken off. -/
theorem drain_of_refused {e : TransportError}
    (h : c.reader.next maxFrameSize = (.ok (some payload), r))
    (hr : { c with reader := r }.receive payload = .error e) :
    c.drain = (.error e, { c with reader := r }) := by
  rw [drain]
  split <;> simp_all
  split <;> simp_all

/-- A frame that is taken note of is followed by the next. -/
theorem drain_of_received
    (h : c.reader.next maxFrameSize = (.ok (some payload), r))
    (hr : { c with reader := r }.receive payload = .ok c') :
    c.drain = c'.drain := by
  rw [drain]
  split <;> simp_all
  split <;> simp_all

end Draining

/-- Two readers that take the same next step work off the same frames. -/
theorem drain_congr (c : Client) {r₁ r₂ : Sized.Reader}
    (h : r₁.next maxFrameSize = r₂.next maxFrameSize) :
    { c with reader := r₁ }.drain = { c with reader := r₂ }.drain := by
  rcases hn : r₂.next maxFrameSize with ⟨answer, r⟩
  rw [hn] at h
  match answer with
  | .error e =>
    rw [drain_of_badSize (c := { c with reader := r₁ }) h,
      drain_of_badSize (c := { c with reader := r₂ }) hn]
  | .ok none =>
    rw [drain_of_waiting (c := { c with reader := r₁ }) h,
      drain_of_waiting (c := { c with reader := r₂ }) hn]
  | .ok (some payload) =>
    -- behind the first step both readers are the same
    match hr : { c with reader := r }.receive payload with
    | .error e =>
      rw [drain_of_refused (c := { c with reader := r₁ }) h hr,
        drain_of_refused (c := { c with reader := r₂ }) hn hr]
    | .ok c' =>
      rw [drain_of_received (c := { c with reader := r₁ }) h hr,
        drain_of_received (c := { c with reader := r₂ }) hn hr]

/-- Working off frames with more bytes at the end of the buffer: an error
stays what it was, and otherwise the client goes on from where it waits. -/
theorem drain_append (c : Client) (more : Bytes) :
    (c.append more).drain
      = match c.drain with
        | (.ok (), c') => (c'.append more).drain
        | (.error e, c') => (.error e, c'.append more) := by
  fun_induction drain c with
  | case1 c e r hn =>
    have happ := Sized.Reader.next_append maxFrameSize c.reader more
    rw [hn] at happ
    exact drain_of_badSize happ
  | case2 c r hn =>
    have happ := Sized.Reader.next_append maxFrameSize c.reader more
    rw [hn] at happ
    exact drain_congr c happ
  | case3 c payload r hn e hr =>
    have happ := Sized.Reader.next_append maxFrameSize c.reader more
    rw [hn] at happ
    have hrec := receive_append payload { c with reader := r } more
    rw [hr] at hrec
    exact drain_of_refused (c := c.append more) happ hrec
  | case4 c payload r hn c' hr ih =>
    have happ := Sized.Reader.next_append maxFrameSize c.reader more
    rw [hn] at happ
    have hrec := receive_append payload { c with reader := r } more
    rw [hr] at hrec
    rw [drain_of_received (c := c.append more) happ hrec]
    exact ih

-- ================================================================ feeding

/-- Working off frames leaves the connection as it is. -/
theorem connection_drain (c : Client) :
    c.drain.2.connection = c.connection := by
  fun_induction drain c with
  | case1 c e r hn => rfl
  | case2 c r hn => rfl
  | case3 c payload r hn e hr => rfl
  | case4 c payload r hn c' hr ih => rw [ih, connection_of_receive hr]

section Feeding

variable {c : Client} {a : Bytes}

/-- Behind the header, bytes go to the frames. -/
theorem feed_of_headerDone (h : c.headerDone = true) :
    c.feed a = (c.append a).drain := by
  have hne : c.connection ≠ .ended := by
    intro he
    simp [headerDone, he] at h
  simp only [feed, if_neg hne]
  rw [show { c with reader := c.reader.append a } = c.append a from rfl]
  rw [if_pos (by rw [headerDone_append]; exact h)]

/-- Before the header, bytes go to the header first. -/
theorem feed_of_not_headerDone (he : c.connection ≠ .ended)
    (h : c.headerDone = false) :
    c.feed a
      = match (c.append a).receiveHeader with
        | (.error e, c') => (.error e, c')
        | (.ok false, c') => (.ok (), c')
        | (.ok true, c') => c'.drain := by
  simp only [feed, if_neg he]
  rw [show { c with reader := c.reader.append a } = c.append a from rfl]
  exact if_neg (by rw [headerDone_append, h]; exact Bool.false_ne_true)

end Feeding

/-- More bytes behind a header, or behind the first bytes of one. -/
theorem receiveHeader_append (c : Client) (more : Bytes) :
    (c.append more).receiveHeader
      = match c.receiveHeader with
        | (.ok true, c') => (.ok true, c'.append more)
        | (.ok false, c') => (c'.append more).receiveHeader
        | (.error e, c') => (.error e, c'.append more) := by
  by_cases hlen : c.reader.buffer.length < Header.size
  · have hwait : c.receiveHeader = (.ok false, c) := by
      rw [receiveHeader, Header.scan_of_short hlen]
    rw [hwait]
  · have happ : Header.scan (c.reader.buffer ++ more) = _ :=
      Header.scan_append (by omega) more
    rcases hscan : Header.scan c.reader.buffer with ⟨found, rest⟩
    rw [hscan] at happ
    have happ' : Header.scan (c.append more).reader.buffer
        = (found, rest ++ more) := happ
    rw [receiveHeader, happ', receiveHeader, hscan]
    cases found with
    | incomplete =>
      -- eight bytes are there, so the scan is complete
      rw [Header.scan, if_neg hlen] at hscan
      split at hscan <;> cases hscan
    | mismatch bytes => rfl
    | header h =>
      simp only
      split <;> rfl

/-- A header that has been found makes the header done. -/
theorem headerDone_of_receiveHeader {c c' : Client}
    (h : c.receiveHeader = (.ok true, c')) : c'.headerDone = true := by
  unfold receiveHeader at h
  split at h
  · cases h
  · cases h
  · simp only at h
    split at h
    · cases h
      by_cases hsent : c.connection = .headerSent <;> simp [headerDone, hsent]
    · cases h

/-- A header that is not complete leaves the client as it is. -/
theorem eq_of_receiveHeader_false {c c' : Client}
    (h : c.receiveHeader = (.ok false, c')) : c' = c := by
  unfold receiveHeader at h
  split at h
  · cases h
    rfl
  · cases h
  · simp only at h
    split at h <;> cases h

/-- Bytes fed to a client that is not closed leave it open. -/
theorem connection_feed_ne_ended {c c' : Client} {a : Bytes}
    (he : c.connection ≠ .ended) (h : c.feed a = (.ok (), c')) :
    c'.connection ≠ .ended := by
  -- draining leaves the connection as the header left it
  have open_drain : ∀ d : Client, d.connection ≠ .ended →
      d.drain = (.ok (), c') → c'.connection ≠ .ended := by
    intro d hd hdrain
    have hconn := connection_drain d
    rw [hdrain] at hconn
    rw [show c'.connection = d.connection from hconn]
    exact hd
  cases hdone : c.headerDone with
  | true =>
    rw [feed_of_headerDone hdone] at h
    exact open_drain (c.append a) he h
  | false =>
    rw [feed_of_not_headerDone he hdone] at h
    rcases hrec : (c.append a).receiveHeader with ⟨answer, d⟩
    rw [hrec] at h
    match answer with
    | .error e => cases h
    | .ok false =>
      cases h
      rw [eq_of_receiveHeader_false hrec]
      exact he
    | .ok true =>
      refine open_drain d ?_ h
      intro hd
      have := headerDone_of_receiveHeader hrec
      simp [headerDone, hd] at this

/-- Once the header is done, it stays done while frames are worked off. -/
theorem headerDone_drain (c : Client) :
    c.drain.2.headerDone = c.headerDone := by
  rw [headerDone, headerDone, connection_drain]

/-- Working off frames and then being fed is working off frames with more
bytes at the end of the buffer. -/
theorem drain_then_feed {c : Client} (h : c.headerDone = true)
    (more : Bytes) :
    (c.append more).drain
      = match c.drain with
        | (.ok (), c') => c'.feed more
        | (.error e, c') => (.error e, c'.append more) := by
  have hdone := headerDone_drain c
  rw [drain_append]
  rcases hd : c.drain with ⟨answer, c'⟩
  rw [hd, h] at hdone
  match answer with
  | .error e => rfl
  | .ok () => exact (feed_of_headerDone hdone).symm

/-- Feeding a joined byte string: what the first part comes to decides, and
the second part is fed to what it leaves. -/
theorem feed_append {c : Client} (he : c.connection ≠ .ended)
    (a b : Bytes) :
    c.feed (a ++ b)
      = match c.feed a with
        | (.ok (), c') => c'.feed b
        | (.error e, c') => (.error e, c'.append b) := by
  cases hdone : c.headerDone with
  | true =>
    rw [feed_of_headerDone hdone, feed_of_headerDone hdone, ← append_append]
    exact drain_then_feed (c := c.append a) hdone b
  | false =>
    rw [feed_of_not_headerDone he hdone, feed_of_not_headerDone he hdone,
      ← append_append, receiveHeader_append (c.append a) b]
    rcases hrec : (c.append a).receiveHeader with ⟨answer, d⟩
    match answer with
    | .error e => rfl
    | .ok true => exact drain_then_feed (headerDone_of_receiveHeader hrec) b
    | .ok false =>
      have hd : d = c.append a := eq_of_receiveHeader_false hrec
      subst hd
      exact (feed_of_not_headerDone (c := c.append a) he hdone).symm

/-- Feeding nothing to a client that has just been fed changes nothing. -/
theorem feed_nil_of_feed {c c' : Client} (he : c.connection ≠ .ended)
    {a : Bytes} (h : c.feed a = (.ok (), c')) : c'.feed [] = (.ok (), c') := by
  have happ := feed_append he a []
  rw [List.append_nil, h] at happ
  exact happ.symm

-- ============================================================== segments

/-- What feeding byte strings one after the other comes to: the result, the
client, and the byte strings that came after the first error. -/
structure Fed where
  result : Except TransportError Unit
  client : Client
  unfed : List Bytes

/-- Feeds byte strings one after the other, up to the first error. -/
def feedAll : List Bytes → Client → Fed
  | [], c => ⟨.ok (), c, []⟩
  | bytes :: rest, c =>
    match c.feed bytes with
    | (.ok (), c') => feedAll rest c'
    | (.error e, c') => ⟨.error e, c', rest⟩

/-- What came too late lies unread at the end of the buffer. -/
def Fed.settled (f : Fed) : Except TransportError Unit × Client :=
  (f.result, f.client.append f.unfed.flatten)

/-- Without an error nothing came too late. -/
theorem unfed_of_ok {pieces : List Bytes} {c : Client}
    (h : (feedAll pieces c).result = .ok ()) :
    (feedAll pieces c).unfed = [] := by
  induction pieces generalizing c with
  | nil => rfl
  | cons bytes rest ih =>
    rw [feedAll] at h ⊢
    rcases hf : c.feed bytes with ⟨answer, c'⟩
    rw [hf] at h
    match answer with
    | .error e => cases h
    | .ok () => exact ih h

/-- Feeding pieces is feeding the stream they were cut from. -/
theorem feedAll_settled {c : Client} (he : c.connection ≠ .ended)
    {pieces : List Bytes} (hne : pieces ≠ []) :
    (feedAll pieces c).settled = c.feed pieces.flatten := by
  induction pieces generalizing c with
  | nil => exact absurd rfl hne
  | cons bytes rest ih =>
    rw [List.flatten_cons, feed_append he, feedAll]
    rcases hf : c.feed bytes with ⟨answer, c'⟩
    match answer with
    | .error e => rfl
    | .ok () =>
      -- the rest is fed to an open client again
      have he' := connection_feed_ne_ended he hf
      cases rest with
      | nil =>
        show (Except.ok (), c'.append []) = c'.feed []
        rw [feed_nil_of_feed he hf, append_nil]
      | cons b more => exact ih he' (List.cons_ne_nil b more)

/-- Feeding is independent of segmentation, for every client that is not
closed. Two byte strings fed in turn come to the same result and the same
client as their concatenation; an error of the first is the error of the
concatenation, and the second then lies unread in the buffer. Two ways of
cutting one stream come to the same result, and to the same client once what
came too late is counted as unread. -/
theorem feed_segmentation (c : Client) (he : c.connection ≠ .ended) :
    (∀ a b c', c.feed a = (.ok (), c') → c.feed (a ++ b) = c'.feed b)
    ∧ (∀ a b e c', c.feed a = (.error e, c') →
        c.feed (a ++ b) = (.error e, c'.append b))
    ∧ ∀ xs ys : List Bytes, xs ≠ [] → ys ≠ [] → xs.flatten = ys.flatten →
        (feedAll xs c).settled = (feedAll ys c).settled
        ∧ ((feedAll xs c).result = .ok () →
            (feedAll xs c).client = (feedAll ys c).client) := by
  refine ⟨?_, ?_, ?_⟩
  · intro a b c' h
    rw [feed_append he, h]
  · intro a b e c' h
    rw [feed_append he, h]
  · intro xs ys hxs hys hflat
    -- both are the one feed of the joined stream
    have hsettled : (feedAll xs c).settled = (feedAll ys c).settled := by
      rw [feedAll_settled he hxs, feedAll_settled he hys, hflat]
    refine ⟨hsettled, fun hok => ?_⟩
    have hres : (feedAll ys c).result = .ok () :=
      (congrArg Prod.fst hsettled).symm.trans hok
    have hclient := congrArg Prod.snd hsettled
    simp only [Fed.settled, unfed_of_ok hok, unfed_of_ok hres,
      List.flatten_nil, append_nil] at hclient
    exact hclient

/-- The header of the server and an offer, cut inside the header and inside
the size, against the same bytes at once. -/
theorem feed_segmentation_offer :
    fresh.connection ≠ .ended
    ∧ fresh.feed [0x41, 0x4d, 0x51] = (.ok (), fresh.append [0x41, 0x4d, 0x51])
    ∧ (feedAll [[0x41, 0x4d, 0x51], [0x50, 3, 1, 0, 0, 0, 0], [0, 0x12]]
        fresh).settled
      = (feedAll [[0x41, 0x4d, 0x51, 0x50, 3, 1, 0, 0, 0, 0, 0, 0x12]]
        fresh).settled := by
  have hopen : fresh.connection ≠ .ended := by decide
  refine ⟨hopen, rfl, ?_⟩
  exact ((feed_segmentation fresh hopen).2.2 _ _ (by decide) (by decide)
    (by decide)).1

end Client

end SaslGate
