/-
The outside world at the far end of a socket. A wire answers each call as
it likes; nothing is assumed of it but that a conversation is finite: there
is a bound on the reads that still bring bytes, or an interruption, and no
other call raises it. Time passes only as the wire says, so a run is
determined by what the wire answers.

Every call is an action that leaves its answer in the trace.
-/
import SaslGate.Act
import SaslGate.Amqp.Error

namespace SaslGate

/-- A length of time, in nanoseconds. -/
abbrev Duration := Nat

/-- A length of time in milliseconds. -/
def millis (n : Nat) : Duration := n * 1000000

/-- A point in time, in nanoseconds. -/
abbrev Instant := Nat

/-- The last point in time that the clock can show. It counts seconds in a
signed word of 64 bits, and nanoseconds beside them. -/
def Instant.latest : Instant := 9223372036854775807 * 1000000000 + 999999999

/-- The point in time that lies so long after another, if the clock can show
it. -/
def Instant.after? (wait : Duration) (time : Instant) : Option Instant :=
  if time + wait ≤ latest then some (time + wait) else none

/-- A deadline is the sum, if the clock goes that far. -/
theorem Instant.after?_eq_some_iff {wait : Duration} {time limit : Instant} :
    after? wait time = some limit
      ↔ time + wait ≤ latest ∧ limit = time + wait := by
  simp only [after?, Option.ite_none_right_eq_some, Option.some.injEq]
  exact and_congr_right fun _ => eq_comm

/-- There is no deadline exactly if the sum is behind the last instant. -/
theorem Instant.after?_eq_none_iff {wait : Duration} {time : Instant} :
    after? wait time = none ↔ latest < time + wait := by
  simp [after?]

-- A wait of ten seconds can be shown, and the longest wait of all cannot.
example : Instant.after? (millis 10000) 1 = some 10000000001
    ∧ Instant.after? (2 ^ 64 * 1000000000 - 1) 1 = none := by
  decide

/-- Whether a read did its work or may simply be tried again. -/
def ReadAgain : Except IoKind Bytes → Prop
  | .ok bytes => bytes ≠ []
  | .error kind => kind = .interrupted

/-- A blocking, bidirectional byte stream and the clock beside it. -/
class Wire (σ : Type) where
  /-- Reads at most the given number of bytes; none at the end. -/
  read : Nat → σ → Except IoKind Bytes × σ
  /-- Offers bytes and tells how many of them were taken. -/
  write : Bytes → σ → Except IoKind Nat × σ
  flush : σ → Except IoKind Unit × σ
  /-- The bound on a single read. -/
  readTimeout : σ → Except IoKind (Option Duration) × σ
  setReadTimeout : Option Duration → σ → Except IoKind Unit × σ
  /-- Shuts both directions down. -/
  shutdown : σ → Except IoKind Unit × σ
  /-- The time. -/
  now : σ → Instant × σ
  /-- How many reads may still bring something. -/
  talk : σ → Nat
  talk_read : ∀ n s, ReadAgain (read n s).1 → talk (read n s).2 < talk s
  talk_read_le : ∀ n s, talk (read n s).2 ≤ talk s
  talk_write : ∀ b s, talk (write b s).2 ≤ talk s
  talk_flush : ∀ s, talk (flush s).2 ≤ talk s
  talk_readTimeout : ∀ s, talk (readTimeout s).2 ≤ talk s
  talk_setReadTimeout : ∀ t s, talk (setReadTimeout t s).2 ≤ talk s
  talk_now : ∀ s, talk (now s).2 ≤ talk s

/-- A call on a socket, with its answer. -/
inductive SocketEvent
  | read (answer : Except IoKind Bytes)
  /-- The bytes that were taken of those offered. -/
  | write (answer : Except IoKind Bytes)
  | flush (answer : Except IoKind Unit)
  | readTimeout (answer : Except IoKind (Option Duration))
  | setReadTimeout (timeout : Option Duration) (answer : Except IoKind Unit)
  | shutdown (answer : Except IoKind Unit)
  /-- A look at the clock. -/
  | clock (time : Instant)

/-- An engine at work on a wire. -/
structure Line (ε σ : Type) where
  engine : ε
  wire : σ

end SaslGate
