/-
A socket that follows a script, to rehearse an exchange without a network.
Each kind of call has a list of answers, used up one by one; past the end
of its list a call succeeds, and a read finds the stream at its end. The
clock moves by the least possible step whenever it is looked at.
-/
import SaslGate.Wire

namespace SaslGate.Rehearsal

/-- What a socket has still to answer. -/
structure Socket where
  reads : List (Except IoKind Bytes)
  /-- The most bytes that a write takes, if it is limited. -/
  writes : List (Except IoKind (Option Nat))
  flushes : List (Except IoKind Unit)
  /-- The answer to every question for the bound on reads. -/
  tellsTimeout : Except IoKind Unit
  setReadTimeouts : List (Except IoKind Unit)
  /-- The answer to every shutdown. -/
  shutdown : Except IoKind Unit
  timeout : Option Duration
  clock : Instant

namespace Socket

/-- A read brings no more than is asked for; the rest is for later ones. -/
def read (n : Nat) (s : Socket) : Except IoKind Bytes × Socket :=
  match s.reads with
  | [] => (.ok [], s)
  | .error kind :: rest => (.error kind, { s with reads := rest })
  | .ok bytes :: rest =>
    if bytes.length ≤ n then (.ok bytes, { s with reads := rest })
    else
      (.ok (bytes.take n), { s with reads := .ok (bytes.drop n) :: rest })

def write (bytes : Bytes) (s : Socket) : Except IoKind Nat × Socket :=
  match s.writes with
  | [] => (.ok bytes.length, s)
  | .error kind :: rest => (.error kind, { s with writes := rest })
  | .ok limit :: rest =>
    (.ok (min (limit.getD bytes.length) bytes.length),
      { s with writes := rest })

def flush (s : Socket) : Except IoKind Unit × Socket :=
  match s.flushes with
  | [] => (.ok (), s)
  | answer :: rest => (answer, { s with flushes := rest })

def readTimeout (s : Socket) : Except IoKind (Option Duration) × Socket :=
  (s.tellsTimeout.map fun _ => s.timeout, s)

/-- A bound that is refused leaves the one before in force. -/
def setReadTimeout (timeout : Option Duration) (s : Socket) :
    Except IoKind Unit × Socket :=
  match s.setReadTimeouts with
  | [] => (.ok (), { s with timeout })
  | .ok () :: rest => (.ok (), { s with timeout, setReadTimeouts := rest })
  | .error kind :: rest => (.error kind, { s with setReadTimeouts := rest })

def now (s : Socket) : Instant × Socket :=
  (s.clock, { s with clock := s.clock + 1 })

/-- What one answer can still do for reads: each byte at most one. -/
def readCost : Except IoKind Bytes → Nat
  | .ok bytes => bytes.length + 1
  | .error _ => 1

/-- How many reads may still bring something. -/
def talk (s : Socket) : Nat := (s.reads.map readCost).foldr (· + ·) 0

/-- A read leaves the script as long as it was, or shorter. -/
theorem talk_read_le (n : Nat) (s : Socket) : (read n s).2.talk ≤ s.talk := by
  unfold read talk
  split
  · exact Nat.le_refl _
  · rename_i rest h
    simp [h]
  · rename_i bytes rest h
    split <;> simp [h, readCost]

/-- A read that is followed by another has used up some of the script. -/
theorem talk_read (n : Nat) (s : Socket) (h : ReadAgain (read n s).1) :
    (read n s).2.talk < s.talk := by
  unfold read talk at *
  -- an entry is used up, or cut short if it is longer than was asked for
  split
  · rename_i hr
    simp [hr, ReadAgain] at h
  · rename_i rest hr
    simp [hr, readCost]
  · rename_i bytes rest hr
    split
    · simp [hr, readCost]
    · rename_i hlong
      have hn : n ≠ 0 := by
        rintro rfl
        simp [hr, hlong, ReadAgain] at h
      simp [hr, readCost]
      omega

/-- Nothing but the reads to come counts. -/
theorem talk_eq_of_reads {s t : Socket} (h : s.reads = t.reads) :
    s.talk = t.talk := by
  simp [talk, h]

theorem reads_write (bytes : Bytes) (s : Socket) :
    (write bytes s).2.reads = s.reads := by
  unfold write; split <;> rfl

theorem reads_flush (s : Socket) : (flush s).2.reads = s.reads := by
  unfold flush; split <;> rfl

theorem reads_setReadTimeout (timeout : Option Duration) (s : Socket) :
    (setReadTimeout timeout s).2.reads = s.reads := by
  unfold setReadTimeout; split <;> rfl

instance : Wire Socket where
  read := read
  write := write
  flush := flush
  readTimeout := readTimeout
  setReadTimeout := setReadTimeout
  shutdown s := (s.shutdown, s)
  now := now
  talk := talk
  talk_read := talk_read
  talk_read_le := talk_read_le
  talk_write b s := Nat.le_of_eq (talk_eq_of_reads (reads_write b s))
  talk_flush s := Nat.le_of_eq (talk_eq_of_reads (reads_flush s))
  talk_readTimeout _ := Nat.le_refl _
  talk_setReadTimeout t s :=
    Nat.le_of_eq (talk_eq_of_reads (reads_setReadTimeout t s))
  talk_now _ := Nat.le_refl _

end Socket

end SaslGate.Rehearsal
