/-
What a trace shows: the bytes that were read and written, and whether
everything went well.

# Watching a trace

`SocketEvent.watch` follows a trace call by call and gives up at the first
call that failed, or that came too late. It remembers when the exchange at
hand began: with the first look at the clock after a flush, because whoever
waits for an answer has just sent something. An exchange whose deadline the
clock cannot show is over before it begins, so nothing is in time for it. A
read that was interrupted is no failure, since it is tried again.
-/
import SaslGate.Link

namespace SaslGate

namespace SocketEvent

-- =============================================================== bytes

/-- The bytes that a read brought, if it brought any. -/
def chunk? : SocketEvent → Option Bytes
  | .read (.ok bytes) => some bytes
  | _ => none

/-- The bytes that a write got rid of. -/
def written : SocketEvent → Bytes
  | .write (.ok bytes) => bytes
  | _ => []

/-- What the reads of a trace brought, read by read. -/
def chunks (t : List SocketEvent) : List Bytes := t.filterMap chunk?

/-- All bytes that were read. -/
def received (t : List SocketEvent) : Bytes := (chunks t).flatten

/-- All bytes that were written. -/
def sent (t : List SocketEvent) : Bytes := t.flatMap written

@[simp] theorem chunks_append (t u : List SocketEvent) :
    chunks (t ++ u) = chunks t ++ chunks u := List.filterMap_append

@[simp] theorem received_append (t u : List SocketEvent) :
    received (t ++ u) = received t ++ received u := by
  simp [received]

/-- A trace sends what its parts send, one after the other. -/
@[simp] theorem sent_append (t u : List SocketEvent) :
    sent (t ++ u) = sent t ++ sent u := List.flatMap_append

theorem received_of_chunks {t : List SocketEvent} {cs : List Bytes}
    (h : chunks t = cs) : received t = cs.flatten := by
  rw [received, h]

-- ============================================================ watching

/-- Whether a call did its work; an interruption did no harm. Nobody minds
how a socket is shut down. -/
def works : SocketEvent → Bool
  | read (.ok bytes) => bytes ≠ []
  | read (.error kind) => kind = .interrupted
  | write (.ok bytes) => bytes ≠ []
  | write (.error _) => false
  | flush answer => answer.isOk
  | readTimeout answer => answer.isOk
  | setReadTimeout _ answer => answer.isOk
  | shutdown _ => true
  | clock _ => true

/-- The beginning of the exchange at hand after one more call, unless the
call failed or came too late. -/
def watch (timeout : Option Duration) (began : Option Instant)
    (e : SocketEvent) : Option (Option Instant) :=
  if e.works then
    match e, timeout, began with
    | flush _, _, _ => some none
    | clock time, some limit, none =>
      if (Instant.after? limit time).isSome then some (some time) else none
    | clock time, some limit, some first =>
      if time < first + limit then some (some first) else none
    | _, _, _ => some began
  else none

/-- A trace in which no call failed or came too late, with the beginnings of
the exchanges at hand before and after it. -/
def Flows (timeout : Option Duration) (before : Option Instant)
    (t : List SocketEvent) (after : Option Instant) : Prop :=
  t.foldlM (watch timeout) before = some after

/-- A trace in which no call failed or came too late. -/
def Smooth (timeout : Option Duration) (t : List SocketEvent) : Prop :=
  (t.foldlM (watch timeout) none).isSome

instance (timeout : Option Duration) (t : List SocketEvent) :
    Decidable (Smooth timeout t) := inferInstanceAs (Decidable (_ = true))

section Flow

variable {timeout : Option Duration} {b b' b'' : Option Instant}
  {t u : List SocketEvent}

theorem Flows.nil (timeout : Option Duration) (b : Option Instant) :
    Flows timeout b [] b := rfl

/-- Traces that flow into each other flow as one. -/
theorem Flows.append (ht : Flows timeout b t b')
    (hu : Flows timeout b' u b'') : Flows timeout b (t ++ u) b'' := by
  unfold Flows at *
  rw [List.foldlM_append, ht]
  exact hu

/-- A trace that flows can be cut anywhere. -/
theorem Flows.split (h : Flows timeout b (t ++ u) b'') :
    ∃ b', Flows timeout b t b' ∧ Flows timeout b' u b'' := by
  unfold Flows at *
  rw [List.foldlM_append] at h
  cases ht : t.foldlM (watch timeout) b with
  | none =>
    rw [ht] at h
    cases h
  | some b' =>
    rw [ht] at h
    exact ⟨b', rfl, h⟩

/-- What is left of a trace that flows, behind a part of it that does. -/
theorem Flows.rest (h : Flows timeout b (t ++ u) b'')
    (ht : Flows timeout b t b') : Flows timeout b' u b'' := by
  obtain ⟨b₁, h₁, h₂⟩ := h.split
  have hb : b' = b₁ := Option.some.inj (ht.symm.trans h₁)
  exact hb ▸ h₂

/-- Every call in a trace that flows did its work. -/
theorem Flows.works (h : Flows timeout b t b') :
    ∀ e ∈ t, e.works = true := by
  induction t generalizing b with
  | nil => exact List.forall_mem_nil _
  | cons e t ih =>
    obtain ⟨b₁, hone, hrest⟩ := Flows.split (t := [e]) h
    intro e' he'
    rcases List.mem_cons.1 he' with rfl | hmem
    · cases hw : e'.works with
      | true => rfl
      | false => simp [Flows, watch, hw] at hone
    · exact ih hrest e' hmem

/-- A trace with a call that failed does not flow. -/
theorem not_flows {e : SocketEvent} (he : e ∈ t) (hw : e.works = false) :
    ¬ Flows timeout b t b' := by
  intro h
  have := h.works e he
  rw [hw] at this
  cases this

/-- A trace is smooth if it flows from a first exchange to anywhere. -/
theorem smooth_iff : Smooth timeout t ↔ ∃ b, Flows timeout none t b :=
  Option.isSome_iff_exists

end Flow

-- ============================================== calls on the side

/-- A call that moves no bytes and ends no exchange. -/
def Aside : SocketEvent → Prop
  | readTimeout _ | setReadTimeout .. | clock _ => True
  | _ => False

theorem chunks_asides {t : List SocketEvent} (h : ∀ e ∈ t, e.Aside) :
    chunks t = [] := by
  refine List.filterMap_eq_nil_iff.2 fun e he => ?_
  have := h e he
  cases e <;> first | rfl | exact this.elim

theorem sent_asides {t : List SocketEvent} (h : ∀ e ∈ t, e.Aside) :
    sent t = [] := by
  refine List.flatMap_eq_nil_iff.2 fun e he => ?_
  have := h e he
  cases e <;> first | rfl | exact this.elim

end SocketEvent

-- ========================================================= whole sessions

namespace Event

/-- The call on a socket that an event is, if it is one. -/
def call? : Event → Option SocketEvent
  | socket _ call => some call
  | _ => none

/-- The calls on sockets, in order. -/
def calls (t : List Event) : List SocketEvent := t.filterMap call?

/-- An event at one particular socket. -/
def At (id : Nat) : Event → Prop
  | socket i _ | engineClosed i => i = id
  | _ => False

@[simp] theorem calls_append (t u : List Event) :
    calls (t ++ u) = calls t ++ calls u := List.filterMap_append

/-- A socket's calls are found again under its number. -/
@[simp] theorem calls_socket (id : Nat) (u : List SocketEvent) :
    calls (u.map (socket id)) = u := by
  induction u with
  | nil => rfl
  | cons e u ih => exact congrArg (e :: ·) ih

theorem at_socket (id : Nat) (u : List SocketEvent) :
    ∀ e ∈ u.map (socket id), e.At id := by
  intro e he
  obtain ⟨c, -, rfl⟩ := List.mem_map.1 he
  exact rfl

end Event

end SaslGate
