/-
A client in the hands of its owner: any calls, in any order, with any
arguments, whatever they answer. Nothing forces an owner to use a client as
the sessions do, so a property of a client is a property of every run of
calls from the start, calls that fail included.

# What a run leaves behind

Beside the client a run leaves its turns: the frames that the client queued
for the server, and the frames of the server that it took note of, in one
order (`Client.turns`). The latter are read off the working-off of the
buffer (`drained`), and `drain_drained` says that they are the ones: taking
note of exactly these frames leads to the client that is left.

# One step

`Moves` says what one call may do to a client, one constructor for each
kind of effect with what has to hold for it, and `moves_step` that no call
does anything else. An invariant of runs is a case analysis of `Moves`, and
`after_keeps` carries it from one call to all.
-/
import SaslGate.Proofs.Client.Intake

namespace SaslGate

/-- A call of its owner on a client. -/
inductive ClientCall
  | sendHeader
  | feed (bytes : Bytes)
  | sendInit (mechanism : String) (hostname : Option String)
      (initialResponse : Bytes)
  | sendResponse (response : Bytes)
  | takePending
  | consume (n : Nat)
  | close
  deriving DecidableEq, Repr

/-- A turn of an exchange. -/
inductive Turn
  /-- The client queued a frame for the server. -/
  | said (f : Frame)
  /-- The client took note of a frame of the server. -/
  | heard (f : Frame)
  deriving DecidableEq, Repr

/-- What bytes that arrive may do to the connection: nothing, or they
complete the server's header. -/
inductive ConnectionState.Onward : ConnectionState → ConnectionState → Prop
  | stay (k : ConnectionState) : Onward k k
  | first : Onward .start .headerReceived
  | second : Onward .headerSent .headerExchange

/-- A header that arrives leads to one of two states. -/
theorem ConnectionState.Onward.eq_or {k k' : ConnectionState}
    (h : k.Onward k') :
    k' = k ∨ k' = .headerReceived ∨ k' = .headerExchange := by
  cases h with
  | stay => exact .inl rfl
  | first => exact .inr (.inl rfl)
  | second => exact .inr (.inr rfl)

/-- Bytes that arrive never close a connection. -/
theorem ConnectionState.Onward.unended {k k' : ConnectionState}
    (h : k.Onward k') (hk : k ≠ .ended) : k' ≠ .ended := by
  rcases h.eq_or with rfl | rfl | rfl
  · exact hk
  · nofun
  · nofun

namespace Client

-- ======================================================== frames in a feed

/-- The frames that a client takes note of while it works off its buffer. -/
def drained (c : Client) : List Frame :=
  match _hn : c.reader.next maxFrameSize with
  | (.ok (some payload), reader) =>
    match Frame.decode payload with
    | .error _ => []
    | .ok f =>
      match _ha : { c with reader }.accept f with
      | .error _ => []
      | .ok c' => f :: drained c'
  | _ => []
termination_by c.reader.weight
decreasing_by
  rw [reader_of_accept _ha]
  exact Sized.Reader.weight_next_lt _hn

/-- A frame that a client takes note of is among them, in front of all that
come behind it. -/
theorem drained_cons {c c' : Client} {r : Sized.Reader} {payload : Bytes}
    {f : Frame} (hn : c.reader.next maxFrameSize = (.ok (some payload), r))
    (hdec : Frame.decode payload = .ok f)
    (ha : (c.placed c.connection r).accept f = .ok c') :
    c.drained = f :: c'.drained := by
  have ha' : { c with reader := r }.accept f = .ok c' := ha
  rw [drained]
  split
  · rename_i hn'
    rw [hn] at hn'
    cases hn'
    rw [hdec]
    simp only
    split
    · rename_i h
      rw [ha'] at h
      cases h
    · rename_i h
      rw [ha'] at h
      cases h
      rfl
  · rename_i hno
    exact absurd hn (hno payload r)

/-- The frames that a client takes note of while it is fed. -/
def noted (bytes : Bytes) (c : Client) : List Frame :=
  if c.connection = .ended then []
  else if c.headerDone then (c.append bytes).drained
  else
    match (c.append bytes).receiveHeader with
    | (.ok true, c') => c'.drained
    | _ => []

/-- A reader never comes to wait for a payload above the maximum. -/
theorem bounded_next {r r' : Sized.Reader}
    {answer : Except SizeError (Option Bytes)}
    (hb : r.Bounded maxFrameSize)
    (h : r.next maxFrameSize = (answer, r')) : r'.Bounded maxFrameSize := by
  match answer with
  | .ok (some payload) => exact (Sized.Reader.unread_of_payload hb h).1
  | .ok none => exact (Sized.Reader.unread_of_waiting hb h).1
  | .error e =>
    -- Only a size field is refused, and it stays where it is.
    obtain ⟨awaiting, buffer⟩ := r
    cases awaiting with
    | some n =>
      rw [Sized.Reader.next_awaiting] at h
      split at h <;> cases h
    | none =>
      by_cases hlen : buffer.length < 4
      · rw [Sized.Reader.next_short hlen] at h
        cases h
      · rw [Sized.Reader.next_sized (by omega)] at h
        split at h
        · cases h
          exact hb
        · split at h
          · cases h
            exact hb
          · rw [Sized.Reader.next_awaiting] at h
            split at h <;> cases h

/-- Working off a buffer is taking note of the frames in it, one after the
other; beside them it uses up the reader, and nothing else. -/
theorem drain_drained (c : Client) :
    ∃ d r, c.acceptAll c.drained = .ok d
      ∧ c.drain.2 = d.placed c.connection r
      ∧ (c.reader.Bounded maxFrameSize → r.Bounded maxFrameSize) := by
  fun_induction drained c with
  | case1 c payload r hn e hdec =>
    have hr : { c with reader := r }.receive payload = .error (.frame e) := by
      rw [receive, hdec]
    refine ⟨c, r, rfl, ?_, fun hb => bounded_next hb hn⟩
    rw [drain_of_refused hn hr]
    rfl
  | case2 c payload r hn f hdec e ha =>
    have hr : { c with reader := r }.receive payload = .error e := by
      rw [receive, hdec]
      exact ha
    refine ⟨c, r, rfl, ?_, fun hb => bounded_next hb hn⟩
    rw [drain_of_refused hn hr]
    rfl
  | case3 c payload r hn f hdec c₁ ha ih =>
    have hr : { c with reader := r }.receive payload = .ok c₁ := by
      rw [receive, hdec]
      exact ha
    obtain ⟨d, r', hall, hdrain, hbound⟩ := ih
    have hconn : c₁.connection = { c with reader := r }.connection :=
      connection_of_accept ha
    -- the frames are taken note of alike wherever the reader stands
    have hback : (c.placed c.connection r).acceptAll (f :: c₁.drained)
        = .ok d := (acceptAll_cons ha).trans hall
    refine ⟨d.placed c.connection c.reader, r', ?_, ?_, ?_⟩
    · exact acceptAll_placed hback c.connection c.reader
    · rw [drain_of_received hn hr, hdrain, hconn]
      rfl
    · intro hb
      refine hbound ?_
      rw [reader_of_accept ha]
      exact bounded_next hb hn
  | case4 c hnone =>
    rcases hn : c.reader.next maxFrameSize with ⟨answer, r⟩
    refine ⟨c, r, rfl, ?_, fun hb => bounded_next hb hn⟩
    match answer with
    | .error e =>
      rw [drain_of_badSize hn]
      rfl
    | .ok none =>
      rw [drain_of_waiting hn]
      rfl
    | .ok (some payload) => exact absurd hn (hnone payload r)

/-- A header that is found moves the connection on. -/
theorem onward_of_receiveHeader {c c' : Client}
    (he : c.connection ≠ .ended) (hu : c.headerDone = false)
    (h : c.receiveHeader = (.ok true, c')) :
    c.connection.Onward c'.connection := by
  unfold receiveHeader at h
  split at h
  · cases h
  · cases h
  · simp only at h
    split at h
    · cases h
      rcases hk : c.connection with _ | _ | _ | _ | _
      · exact .first
      · exact .second
      · simp [headerDone, hk] at hu
      · simp [headerDone, hk] at hu
      · exact absurd hk he
    · cases h

/-- A header that is not found changes the buffer, if anything. -/
theorem receiveHeader_placed {c c' : Client} {answer : Except TransportError Bool}
    (h : c.receiveHeader = (answer, c')) (hf : answer ≠ .ok true) :
    ∃ buffer, c' = c.placed c.connection { c.reader with buffer } := by
  unfold receiveHeader at h
  split at h
  · cases h
    exact ⟨c.reader.buffer, rfl⟩
  · cases h
    exact ⟨_, rfl⟩
  · simp only at h
    split at h
    · cases h
      exact absurd rfl hf
    · cases h
      exact ⟨_, rfl⟩

/-- Being fed is taking note of frames, one after the other, once the
server's header is there. -/
theorem feed_noted {c : Client} (he : c.connection ≠ .ended)
    (bytes : Bytes) :
    ∃ d k r, c.acceptAll (c.noted bytes) = .ok d
      ∧ (c.feed bytes).2 = d.placed k r
      ∧ c.connection.Onward k
      ∧ (c.noted bytes = [] ∨ k = .headerExchange ∨ k = .headerReceived)
      ∧ (c.reader.Bounded maxFrameSize → r.Bounded maxFrameSize) := by
  unfold noted
  rw [if_neg he]
  cases hdone : c.headerDone with
  | true =>
    obtain ⟨d, r, hall, hdrain, hbound⟩ := drain_drained (c.append bytes)
    rw [if_pos rfl, feed_of_headerDone hdone, hdrain]
    refine ⟨d.placed c.connection c.reader, c.connection, r,
      acceptAll_placed hall c.connection c.reader, rfl, .stay _, .inr ?_,
      hbound⟩
    simpa [headerDone] using hdone
  | false =>
    rw [if_neg Bool.false_ne_true, feed_of_not_headerDone he hdone]
    rcases hrec : (c.append bytes).receiveHeader with ⟨answer, c₁⟩
    cases answer with
    | error e =>
      obtain ⟨buffer, hc₁⟩ := receiveHeader_placed hrec (by simp)
      exact ⟨c, c.connection, { c.reader with buffer }, rfl, hc₁, .stay _,
        .inl rfl, fun hb => hb⟩
    | ok found =>
      cases found with
      | false =>
        obtain ⟨buffer, hc₁⟩ := receiveHeader_placed hrec (by simp)
        exact ⟨c, c.connection, { c.reader with buffer }, rfl, hc₁, .stay _,
          .inl rfl, fun hb => hb⟩
      | true =>
        -- the header is there at last, and frames may stand behind it
        obtain ⟨rest, -, hc₁⟩ := receiveHeader_inv hrec
        have honward : c.connection.Onward c₁.connection :=
          onward_of_receiveHeader (c := c.append bytes) he hdone hrec
        obtain ⟨d, r, hall, hdrain, hbound⟩ := drain_drained c₁
        have hback := acceptAll_placed hall c.connection c.reader
        rw [hc₁] at hback
        refine ⟨d.placed c.connection c.reader, c₁.connection, r, ?_, hdrain,
          honward, .inr ?_, fun hb => hbound ?_⟩
        · rw [hc₁]
          exact hback
        · simpa [headerDone] using headerDone_of_receiveHeader hrec
        · rw [hc₁]
          exact hb

end Client

-- ============================================================== one call

namespace ClientCall

/-- A call: whether it failed, and the client that it leaves. -/
def step : ClientCall → Client → Except TransportError Unit × Client
  | sendHeader, c => c.sendHeader
  | feed bytes, c => c.feed bytes
  | sendInit mechanism hostname initialResponse, c =>
    c.sendInit mechanism hostname initialResponse
  | sendResponse response, c => c.sendResponse response
  | takePending, c => (.ok (), c.takePending.2)
  | consume n, c => (.ok (), c.consume n)
  | close, c => (.ok (), c.close)

/-- The frames that a call says if it succeeds. -/
def frames : ClientCall → List Frame
  | sendInit mechanism hostname initialResponse =>
    [.init mechanism (some initialResponse) hostname]
  | sendResponse response => [.response response]
  | _ => []

/-- The turns of a call: the frames of the server that it brought, or the
frame that it queued. -/
def turns (k : ClientCall) (c : Client) : List Turn :=
  match k, (k.step c).1 with
  | feed bytes, _ => (c.noted bytes).map .heard
  | k, .ok () => k.frames.map .said
  | _, .error _ => []

end ClientCall

/-- What one call may do to a client, with the turns that it takes. -/
inductive Moves (c : Client) : ClientCall → List Turn → Client → Prop
  /-- A call that is refused, or that has nothing to do. -/
  | stay (k : ClientCall) : Moves c k [] c
  | greet {k : ConnectionState}
      (unsent : c.connection = .start ∧ k = .headerSent
        ∨ c.connection = .headerReceived ∧ k = .headerExchange) :
      Moves c .sendHeader [] { c with
        outbound := c.outbound ++ Header.sasl.encode, connection := k }
  | init {mechanism : String} {hostname : Option String}
      {initialResponse bytes : Bytes} (free : c.sendingBlocked = none)
      (offered : c.mechanisms ≠ none) (idle : c.progress = .idle)
      (sized : Client.sized (.init mechanism (some initialResponse) hostname)
        = .ok bytes) :
      Moves c (.sendInit mechanism hostname initialResponse)
        [.said (.init mechanism (some initialResponse) hostname)] { c with
          outbound := c.outbound ++ bytes, progress := .step }
  | response {response bytes : Bytes} (free : c.sendingBlocked = none)
      (stepping : c.progress = .step)
      (sized : Client.sized (.response response) = .ok bytes) :
      Moves c (.sendResponse response) [.said (.response response)] { c with
        outbound := c.outbound ++ bytes, pending := none }
  /-- An answer that is too long uses the challenge up all the same. -/
  | giveUp {response : Bytes} (free : c.sendingBlocked = none)
      (stepping : c.progress = .step) :
      Moves c (.sendResponse response) [] { c with pending := none }
  | hear {bytes : Bytes} {fs : List Frame} {d : Client} {k : ConnectionState}
      {r : Sized.Reader} (unended : c.connection ≠ .ended)
      (accepted : c.acceptAll fs = .ok d) (onward : c.connection.Onward k)
      (behind : fs = [] ∨ k = .headerExchange ∨ k = .headerReceived)
      (bounded : c.reader.Bounded Client.maxFrameSize →
        r.Bounded Client.maxFrameSize) :
      Moves c (.feed bytes) (fs.map .heard) (d.placed k r)
  | take : Moves c .takePending [] { c with pending := none }
  | consume (n : Nat) :
      Moves c (.consume n) [] { c with outbound := c.outbound.drop n }
  | close (unended : c.connection ≠ .ended) :
      Moves c .close [] { c with
        outbound := [], reader := { c.reader with buffer := [] }
        pending := none, connection := .ended }

namespace Client

/-- Queueing a frame succeeds with its bytes at the end of the queue, or it
changes nothing. -/
theorem queue_cases (f : Frame) (c : Client) :
    (∃ bytes, sized f = .ok bytes
      ∧ c.queue f = (.ok (), { c with outbound := c.outbound ++ bytes }))
    ∨ ∃ e, sized f = .error e ∧ c.queue f = (.error e, c) := by
  unfold queue
  cases h : sized f with
  | ok bytes => exact .inl ⟨bytes, rfl, rfl⟩
  | error e => exact .inr ⟨e, rfl, rfl⟩

/-- The header is queued once, at the start or behind the server's. -/
theorem moves_sendHeader (c : Client) :
    Moves c .sendHeader [] c.sendHeader.2 := by
  unfold sendHeader
  cases hk : c.connection with
  | start => exact .greet (.inl ⟨hk, rfl⟩)
  | headerReceived => exact .greet (.inr ⟨hk, rfl⟩)
  | headerSent => exact .stay _
  | headerExchange => exact .stay _
  | ended => exact .stay _

/-- Choosing a mechanism queues the choice or does nothing. -/
theorem moves_sendInit (mechanism : String) (hostname : Option String)
    (initialResponse : Bytes) (c : Client) :
    Moves c (.sendInit mechanism hostname initialResponse)
      ((ClientCall.sendInit mechanism hostname initialResponse).turns c)
      (c.sendInit mechanism hostname initialResponse).2 := by
  simp only [ClientCall.turns, ClientCall.step]
  unfold sendInit
  cases hfree : c.sendingBlocked with
  | some e => exact .stay _
  | none =>
    simp only
    by_cases hm : c.mechanisms.isNone = true
    · rw [if_pos hm]
      exact .stay _
    · rw [if_neg hm]
      by_cases hi : c.progress ≠ .idle
      · rw [if_pos hi]
        exact .stay _
      · rw [if_neg hi]
        rcases c.queue_cases (.init mechanism (some initialResponse) hostname)
          with ⟨bytes, hsized, hq⟩ | ⟨e, hsized, hq⟩
        · rw [hq]
          refine .init hfree ?_ (Decidable.not_not.1 hi) hsized
          intro hnone
          exact hm (by rw [hnone]; rfl)
        · rw [hq]
          exact .stay _

/-- A response that cannot be queued still gives the challenge up, so this
call has a third way to end. -/
theorem moves_sendResponse (response : Bytes) (c : Client) :
    Moves c (.sendResponse response)
      ((ClientCall.sendResponse response).turns c)
      (c.sendResponse response).2 := by
  simp only [ClientCall.turns, ClientCall.step]
  unfold sendResponse
  cases hfree : c.sendingBlocked with
  | some e => exact .stay _
  | none =>
    simp only
    by_cases hs : c.progress ≠ .step
    · rw [if_pos hs]
      exact .stay _
    · rw [if_neg hs]
      rcases queue_cases (.response response) { c with pending := none }
        with ⟨bytes, hsized, hq⟩ | ⟨e, hsized, hq⟩
      · rw [hq]
        exact .response hfree (Decidable.not_not.1 hs) hsized
      · rw [hq]
        exact .giveUp hfree (Decidable.not_not.1 hs)

/-- Feeding a client takes note of frames and queues nothing. -/
theorem moves_feed (bytes : Bytes) (c : Client) :
    Moves c (.feed bytes) ((c.noted bytes).map .heard) (c.feed bytes).2 := by
  by_cases he : c.connection = .ended
  · have hfeed : c.feed bytes = (.error .closed, c) := by
      rw [feed, if_pos he]
    have hnoted : c.noted bytes = [] := by
      rw [noted, if_pos he]
    rw [hfeed, hnoted]
    exact .stay _
  · obtain ⟨d, k, r, hall, hfeed, honward, hbehind, hbound⟩ :=
      feed_noted he bytes
    rw [hfeed]
    exact .hear he hall honward hbehind hbound

theorem moves_close (c : Client) : Moves c .close [] c.close := by
  unfold close
  by_cases he : c.connection = .ended
  · rw [if_pos he]
    exact .stay _
  · rw [if_neg he]
    exact .close he

end Client

/-- No call does anything else. -/
theorem moves_step (k : ClientCall) (c : Client) :
    Moves c k (k.turns c) (k.step c).2 := by
  cases k with
  | sendHeader =>
    have hturns : ClientCall.sendHeader.turns c = [] := by
      simp only [ClientCall.turns, ClientCall.step]
      cases c.sendHeader.1 <;> rfl
    rw [hturns]
    exact c.moves_sendHeader
  | feed bytes => exact c.moves_feed bytes
  | sendInit mechanism hostname initialResponse =>
    exact c.moves_sendInit mechanism hostname initialResponse
  | sendResponse response => exact c.moves_sendResponse response
  | takePending => exact .take
  | consume n => exact .consume n
  | close => exact c.moves_close

-- ============================================================ complaints

namespace Client

/-- A frame that is too large is all that can be wrong with a frame of the
client's own. -/
theorem sized_ne_illegalState (f : Frame) (reason : String) :
    sized f ≠ .error (.illegalState reason) := by
  unfold sized
  split
  · simp
  · split <;> simp

/-- Frames that arrive are unexpected or unreadable, but none of them is
called an illegal state. -/
theorem drain_ne_illegalState (c : Client) (reason : String) :
    c.drain.1 ≠ .error (.illegalState reason) := by
  fun_induction drain c with
  | case1 c e r hn => simp
  | case2 c r hn => simp
  | case3 c payload r hn e hr =>
    unfold receive accept at hr
    split at hr
    · cases hr
      simp
    · simp only at hr
      split at hr <;> (try split at hr) <;> cases hr <;> simp
  | case4 c payload r hn c₁ hr ih => exact ih

/-- What arrives may be wrong in many ways, but never comes at the wrong
time for the owner's part. -/
theorem feed_ne_illegalState (bytes : Bytes) (c : Client) (reason : String) :
    (c.feed bytes).1 ≠ .error (.illegalState reason) := by
  by_cases he : c.connection = .ended
  · simp [feed, he]
  · cases hdone : c.headerDone with
    | true =>
      rw [feed_of_headerDone hdone]
      exact drain_ne_illegalState _ _
    | false =>
      rw [feed_of_not_headerDone he hdone]
      rcases hrec : (c.append bytes).receiveHeader with ⟨answer, c₁⟩
      cases answer with
      | error e =>
        -- reading the header fails in one way only
        have hmismatch : ∃ b, e = .headerMismatch b := by
          unfold receiveHeader at hrec
          split at hrec
          · cases hrec
          · cases hrec
            exact ⟨_, rfl⟩
          · simp only at hrec
            split at hrec
            · cases hrec
            · cases hrec
              exact ⟨_, rfl⟩
        obtain ⟨b, rfl⟩ := hmismatch
        simp
      | ok found =>
        cases found with
        | false => simp
        | true => exact drain_ne_illegalState _ _

end Client

/-- A client never complains of a missing reply. Only a session does. -/
theorem ClientCall.step_ne_unreplied (k : ClientCall) (c : Client) :
    (k.step c).1 ≠ .error (.illegalState "upstream has not replied") := by
  have hfree : ∀ e, c.sendingBlocked = some e →
      e ≠ .illegalState "upstream has not replied" := by
    intro e he
    unfold Client.sendingBlocked at he
    split at he <;> cases he <;> simp
  have hqueue : ∀ f (c' : Client), (c'.queue f).1
      ≠ .error (.illegalState "upstream has not replied") := by
    intro f c'
    rcases c'.queue_cases f with ⟨bytes, -, hq⟩ | ⟨e, hsized, hq⟩
    · simp [hq]
    · rw [hq]
      rintro ⟨⟩
      exact Client.sized_ne_illegalState f _ hsized
  cases k with
  | sendHeader =>
    show c.sendHeader.1 ≠ _
    unfold Client.sendHeader
    cases c.connection <;> simp
  | feed bytes => exact c.feed_ne_illegalState bytes _
  | sendInit mechanism hostname initialResponse =>
    show (c.sendInit mechanism hostname initialResponse).1 ≠ _
    unfold Client.sendInit
    cases hb : c.sendingBlocked with
    | some e => simpa using hfree e hb
    | none =>
      simp only
      split
      · simp
      · split
        · simp
        · have hq := hqueue (.init mechanism (some initialResponse) hostname) c
          split <;> simp_all
  | sendResponse response =>
    show (c.sendResponse response).1 ≠ _
    unfold Client.sendResponse
    cases hb : c.sendingBlocked with
    | some e => simpa using hfree e hb
    | none =>
      simp only
      split
      · simp
      · exact hqueue _ _
  | takePending => exact nofun
  | consume n => exact nofun
  | close => exact nofun

-- ================================================================== runs

namespace Client

/-- The client after calls, whether or not they failed. -/
def after (c : Client) (calls : List ClientCall) : Client :=
  calls.foldl (fun c k => (k.step c).2) c

/-- The turns of calls, in order. -/
def turns (c : Client) : List ClientCall → List Turn
  | [] => []
  | k :: calls => k.turns c ++ (k.step c).2.turns calls

@[simp] theorem turns_nil (c : Client) : c.turns [] = [] := rfl

theorem after_cons (c : Client) (k : ClientCall) (calls : List ClientCall) :
    c.after (k :: calls) = (k.step c).2.after calls := rfl

/-- The turns of a run are those of its first call and of the rest. -/
theorem turns_cons (c : Client) (k : ClientCall) (calls : List ClientCall) :
    c.turns (k :: calls) = k.turns c ++ (k.step c).2.turns calls := rfl

/-- A run may be cut anywhere. -/
theorem after_append (c : Client) (a b : List ClientCall) :
    c.after (a ++ b) = (c.after a).after b := List.foldl_append

/-- What each of the calls keeps, the run keeps. -/
theorem after_keeps {P : Client → Prop} {c : Client}
    {calls : List ClientCall} (h : P c)
    (step : ∀ k ∈ calls, ∀ c us c', Moves c k us c' → P c → P c') :
    P (c.after calls) := by
  induction calls generalizing c with
  | nil => exact h
  | cons k calls ih =>
    have hnext : P (k.step c).2 :=
      step k (List.mem_cons_self ..) c _ _ (moves_step k c) h
    exact ih hnext fun k' hk' => step k' (List.mem_cons_of_mem k hk')

/-- The turns of the second part are taken by the client that the first part
left. -/
theorem turns_append (c : Client) (a b : List ClientCall) :
    c.turns (a ++ b) = c.turns a ++ (c.after a).turns b := by
  induction a generalizing c with
  | nil => rfl
  | cons k a ih =>
    rw [List.cons_append, turns_cons, turns_cons, ih, List.append_assoc]
    rfl

end Client

end SaslGate
