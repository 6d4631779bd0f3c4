/-
A client at work on a socket: the calls of a session on its client and on the
socket beneath, in one order. Either side shows only half of what happens. A
trace shows what was written and not what was queued, and the turns of the
client show what was queued and heard and not when the socket was read.

# The rules of the work

`AtWork` is the order of the two, one constructor for each kind of step, with
what has to hold for it. There are three rules. A write gets rid of the front
of the queue. A response is queued only if a challenge is there to be answered
(`ClientCall.Due`). And nobody reads before all is said and sent that there is
to say (`Client.Listens`): the queue is empty, an offer has been chosen from,
and every challenge has been answered.

All that is claimed of the wire follows by induction on the steps: what was
written (`AtWork.account`), that no response comes without a challenge
(`AtWork.answering`), and what holds whenever the socket is read
(`AtWork.before_read`).
-/
import SaslGate.Proofs.Client.Greeting
import SaslGate.Proofs.Ends

namespace SaslGate

open SocketEvent (sent)

-- ================================================================== turns

namespace Turn

/-- Whether the client took note of a challenge. -/
def isChallenge : Turn → Bool
  | heard (.challenge _) => true
  | _ => false

/-- Whether the client queued a response. -/
def isResponse : Turn → Bool
  | said (.response _) => true
  | _ => false

/-- The frames that the client queued, in order. -/
def frames (us : List Turn) : List Frame := us.filterMap said?

/-- The number of challenges that the client took note of. -/
def challenges (us : List Turn) : Nat := us.countP isChallenge

/-- The number of responses that the client queued. -/
def responses (us : List Turn) : Nat := us.countP isResponse

@[simp] theorem frames_append (us vs : List Turn) :
    frames (us ++ vs) = frames us ++ frames vs := List.filterMap_append

@[simp] theorem challenges_append (us vs : List Turn) :
    challenges (us ++ vs) = challenges us + challenges vs :=
  List.countP_append

@[simp] theorem responses_append (us vs : List Turn) :
    responses (us ++ vs) = responses us + responses vs :=
  List.countP_append

@[simp] theorem frames_heard (fs : List Frame) :
    frames (fs.map heard) = [] := by
  unfold frames
  rw [List.filterMap_map]
  exact List.filterMap_eq_nil_iff.2 fun f _ => rfl

@[simp] theorem responses_heard (fs : List Frame) :
    responses (fs.map heard) = 0 := by
  unfold responses
  rw [List.countP_map]
  exact List.countP_eq_zero.2 fun f _ => nofun

/-- Every response answers a challenge of its own, at every point. -/
def Answering (us : List Turn) : Prop :=
  ∀ vs, vs <+: us → responses vs ≤ challenges vs

/-- Turns that begin no further than others, or go on from them. -/
theorem prefix_append_cases {us vs ws : List Turn} (h : ws <+: us ++ vs) :
    ws <+: us ∨ ∃ xs, xs <+: vs ∧ ws = us ++ xs := by
  rcases List.prefix_or_prefix_of_prefix h (List.prefix_append us vs)
    with hshort | ⟨xs, rfl⟩
  · exact .inl hshort
  · exact .inr ⟨xs, (List.prefix_append_right_inj us).1 h, rfl⟩

/-- Turns that keep the count right may be added. -/
theorem Answering.append {us vs : List Turn} (h : Answering us)
    (hvs : ∀ xs, xs <+: vs → responses (us ++ xs) ≤ challenges (us ++ xs)) :
    Answering (us ++ vs) := by
  intro ws hws
  rcases prefix_append_cases hws with hshort | ⟨xs, hxs, rfl⟩
  · exact h ws hshort
  · exact hvs xs hxs

end Turn

open Turn (frames challenges responses)

-- ======================================================= the client's part

/-- What a session may call on its client by itself, after turns. A response
has to be due. -/
def ClientCall.Due (us : List Turn) : ClientCall → Prop
  | sendInit .. | takePending => True
  | sendResponse _ => responses us < challenges us
  | sendHeader | feed _ | consume _ | close => False

/-- All is said and sent, and it is the server's turn: an offer has been
chosen from, and all challenges have been answered. -/
structure Client.Listens (c : Client) (us : List Turn) : Prop where
  drained : c.outbound = []
  chosen : Link.hasOffer c = true → c.progress ≠ .idle
  answered : responses us = challenges us

/-- What a call that is due does: it queues the frames of its turns, and a
response only if a challenge is left to be answered. -/
theorem Moves.due {us vs : List Turn} {k : ClientCall} {c c' : Client}
    (h : Moves c k vs c') (due : k.Due us) :
    ∃ raw, Requests (frames vs) raw ∧ c'.outbound = c.outbound ++ raw
      ∧ (responses vs = 0
        ∨ responses vs = 1 ∧ responses us < challenges us) := by
  -- most calls queue nothing
  have quiet : ∃ raw, Requests (frames []) raw
      ∧ c.outbound = c.outbound ++ raw
      ∧ (responses [] = 0
        ∨ responses [] = 1 ∧ responses us < challenges us) :=
    ⟨[], requests_nil, (List.append_nil _).symm, .inl rfl⟩
  cases h with
  | stay => exact quiet
  | greet unsent => exact due.elim
  | @init mechanism hostname initialResponse bytes free offered idle sized =>
    refine ⟨bytes, ⟨?_, .one sized⟩, rfl, .inl rfl⟩
    intro f hf
    rw [List.mem_singleton.1 hf]
    exact .inl rfl
  | @response response bytes free stepping sized =>
    refine ⟨bytes, ⟨?_, .one sized⟩, rfl, .inr ⟨rfl, due⟩⟩
    intro f hf
    rw [List.mem_singleton.1 hf]
    exact .inr rfl
  | giveUp free stepping => exact quiet
  | hear unended accepted onward behind bounded => exact due.elim
  | take => exact quiet
  | consume n => exact due.elim
  | close unended => exact due.elim

/-- Being fed is taking note of frames, and changes nothing else but the
connection and the reader. -/
theorem Client.feed_placed (bytes : Bytes) (c : Client) :
    ∃ d k r, c.acceptAll (c.noted bytes) = .ok d
      ∧ (c.feed bytes).2 = d.placed k r := by
  by_cases he : c.connection = .ended
  · refine ⟨c, c.connection, c.reader, ?_, ?_⟩
    · rw [noted, if_pos he]
      rfl
    · rw [feed, if_pos he]
      rfl
  · obtain ⟨d, k, r, hall, hfeed, -⟩ := feed_noted he bytes
    exact ⟨d, k, r, hall, hfeed⟩

/-- What is heard puts nothing in the queue. -/
theorem Client.outbound_feed (bytes : Bytes) (c : Client) :
    (c.feed bytes).2.outbound = c.outbound := by
  obtain ⟨d, k, r, hall, hfeed⟩ := c.feed_placed bytes
  rw [hfeed]
  have hqueue : d.outbound = c.outbound := outbound_of_acceptAll hall
  exact hqueue

-- ============================================================== the work

/-- A call on a socket that moves no byte and leaves the socket open. -/
def SocketEvent.Still : SocketEvent → Prop
  | .read _ | .write (.ok _) | .shutdown _ => False
  | _ => True

/-- A client, its turns, and the calls on the socket beneath, from the moment
on at which the client has queued its header. -/
inductive AtWork : Client → List Turn → List SocketEvent → Prop
  | start : AtWork Client.fresh.sendHeader.2 [] []
  | own {c : Client} {us : List Turn} {u : List SocketEvent} {k : ClientCall}
      (before : AtWork c us u) (due : k.Due us) :
      AtWork (k.step c).2 (us ++ k.turns c) u
  | writes {c : Client} {us : List Turn} {u : List SocketEvent}
      {bytes : Bytes} (before : AtWork c us u)
      (front : bytes <+: c.outbound) :
      AtWork (c.consume bytes.length) us (u ++ [.write (.ok bytes)])
  | reads {c : Client} {us : List Turn} {u : List SocketEvent}
      {bytes : Bytes} (before : AtWork c us u) (listens : c.Listens us) :
      AtWork (c.feed bytes).2 (us ++ (c.noted bytes).map .heard)
        (u ++ [.read (.ok bytes)])
  | misses {c : Client} {us : List Turn} {u : List SocketEvent}
      {answer : Except IoKind Bytes} (before : AtWork c us u)
      (listens : c.Listens us)
      (nothing : ∀ bytes, answer = .ok bytes → bytes = []) :
      AtWork c us (u ++ [.read answer])
  | still {c : Client} {us : List Turn} {u : List SocketEvent}
      {e : SocketEvent} (before : AtWork c us u) (still : e.Still) :
      AtWork c us (u ++ [e])

namespace AtWork

variable {c : Client} {us : List Turn} {u v : List SocketEvent}

/-- A call that moves no byte shows none in the trace. -/
theorem sent_still {e : SocketEvent} (h : e.Still) : sent [e] = [] := by
  unfold sent SocketEvent.written
  cases e with
  | write answer =>
    cases answer with
    | ok bytes => exact h.elim
    | error kind => rfl
  | _ => rfl

/-- What was written and what is queued are the header and the frames that the
client has said, whole and in order. -/
theorem account (h : AtWork c us u) :
    ∃ raw, Requests (frames us) raw
      ∧ sent u ++ c.outbound = Header.sasl.encode ++ raw := by
  induction h with
  | start => exact ⟨[], requests_nil, by decide⟩
  | @own c us u k before due ih =>
    obtain ⟨raw, hrequests, hsent⟩ := ih
    obtain ⟨more, hmore, hqueue, -⟩ := Moves.due (moves_step k c) due
    refine ⟨raw ++ more, ?_, ?_⟩
    · rw [Turn.frames_append]
      exact ⟨List.forall_mem_append.2 ⟨hrequests.requests, hmore.requests⟩,
        hrequests.utters.append hmore.utters⟩
    · rw [hqueue, ← List.append_assoc, hsent, List.append_assoc]
  | @writes c us u bytes before front ih =>
    obtain ⟨raw, hrequests, hsent⟩ := ih
    obtain ⟨rest, hrest⟩ := front
    refine ⟨raw, hrequests, ?_⟩
    rw [SocketEvent.sent_append, ← hsent, ← hrest]
    simp [sent, SocketEvent.written, Client.consume, ← hrest]
  | @reads c us u bytes before listens ih =>
    obtain ⟨raw, hrequests, hsent⟩ := ih
    refine ⟨raw, ?_, ?_⟩
    · rwa [Turn.frames_append, Turn.frames_heard, List.append_nil]
    · rw [SocketEvent.sent_append, c.outbound_feed]
      simpa [sent, SocketEvent.written] using hsent
  | @misses c us u answer before listens nothing ih =>
    obtain ⟨raw, hrequests, hsent⟩ := ih
    refine ⟨raw, hrequests, ?_⟩
    rw [SocketEvent.sent_append]
    simpa [sent, SocketEvent.written] using hsent
  | @still c us u e before still ih =>
    obtain ⟨raw, hrequests, hsent⟩ := ih
    refine ⟨raw, hrequests, ?_⟩
    rwa [SocketEvent.sent_append, sent_still still, List.append_nil]

/-- As long as the client has said nothing, the header is all that it has to
send. -/
theorem unsaid (h : AtWork c us u) (silent : frames us = []) :
    sent u ++ c.outbound = Header.sasl.encode := by
  obtain ⟨raw, ⟨-, hutters⟩, hsent⟩ := h.account
  rw [silent] at hutters
  cases hutters
  rw [hsent, List.append_nil]

/-- A socket that a client works on is open. -/
theorem unshut (h : AtWork c us u) (answer : Except IoKind Unit) :
    .shutdown answer ∉ u := by
  induction h with
  | start => exact List.not_mem_nil
  | own before due ih => exact ih
  | writes before front ih => simpa using ih
  | reads before listens ih => simpa using ih
  | misses before listens nothing ih => simpa using ih
  | @still c us u e before still ih =>
    intro hmem
    rcases List.mem_append.1 hmem with hmem | hmem
    · exact ih hmem
    · rw [← List.mem_singleton.1 hmem] at still
      exact still

/-- The work so far, at any earlier point of it. -/
theorem earlier (h : AtWork c us u) (hv : v <+: u) :
    ∃ c₁ us₁, us₁ <+: us ∧ AtWork c₁ us₁ v := by
  induction h with
  | start =>
    rw [List.prefix_nil.1 hv]
    exact ⟨_, [], List.prefix_rfl, .start⟩
  | @own c us u k before due ih =>
    obtain ⟨c₁, us₁, hpre, hwork⟩ := ih hv
    exact ⟨c₁, us₁, hpre.trans (List.prefix_append us _), hwork⟩
  | writes before front ih =>
    rcases List.prefix_concat_iff.1 hv with rfl | hshort
    · exact ⟨_, _, List.prefix_rfl, .writes before front⟩
    · exact ih hshort
  | @reads c us u bytes before listens ih =>
    rcases List.prefix_concat_iff.1 hv with rfl | hshort
    · exact ⟨_, _, List.prefix_rfl, .reads before listens⟩
    · obtain ⟨c₁, us₁, hpre, hwork⟩ := ih hshort
      exact ⟨c₁, us₁, hpre.trans (List.prefix_append us _), hwork⟩
  | misses before listens nothing ih =>
    rcases List.prefix_concat_iff.1 hv with rfl | hshort
    · exact ⟨_, _, List.prefix_rfl, .misses before listens nothing⟩
    · exact ih hshort
  | still before still ih =>
    rcases List.prefix_concat_iff.1 hv with rfl | hshort
    · exact ⟨_, _, List.prefix_rfl, .still before still⟩
    · exact ih hshort

/-- Whenever the socket is read, all is said and sent. -/
theorem before_read {answer : Except IoKind Bytes} (h : AtWork c us v)
    (hread : u ++ [.read answer] <+: v) :
    ∃ c₁ us₁, us₁ <+: us ∧ AtWork c₁ us₁ u ∧ c₁.Listens us₁ := by
  obtain ⟨c₁, us₁, hpre, hwork⟩ := h.earlier hread
  -- the last call on the socket is the read, so only what the client does of
  -- its own may follow it
  have key : ∃ c₂ us₂, us₂ <+: us₁ ∧ AtWork c₂ us₂ u ∧ c₂.Listens us₂ := by
    clear hpre h
    generalize hw : u ++ [.read answer] = w at hwork
    induction hwork with
    | start => simp at hw
    | @own c us w k before due ih =>
      obtain ⟨c₂, us₂, hpre, hwork, hlistens⟩ := ih hw
      exact ⟨c₂, us₂, hpre.trans (List.prefix_append us _), hwork, hlistens⟩
    | writes before front ih => cases (List.append_inj' hw rfl).2
    | @reads c us w bytes before listens ih =>
      obtain ⟨rfl, -⟩ := List.append_inj' hw rfl
      exact ⟨c, us, List.prefix_append us _, before, listens⟩
    | @misses c us w answer before listens nothing ih =>
      obtain ⟨rfl, -⟩ := List.append_inj' hw rfl
      exact ⟨c, us, List.prefix_rfl, before, listens⟩
    | @still c us w e before still ih =>
      obtain ⟨-, he⟩ := List.append_inj' hw rfl
      rw [← (List.cons.inj he).1] at still
      exact still.elim
  obtain ⟨c₂, us₂, hpre₂, hwork₂, hlistens⟩ := key
  exact ⟨c₂, us₂, hpre₂.trans hpre, hwork₂, hlistens⟩

/-- No response comes without a challenge. -/
theorem answering (h : AtWork c us u) : Turn.Answering us := by
  induction h with
  | start =>
    intro vs hvs
    rw [List.prefix_nil.1 hvs]
    exact Nat.le_refl 0
  | @own c us u k before due ih =>
    have hle := ih us List.prefix_rfl
    obtain ⟨-, -, -, hresponses⟩ := Moves.due (moves_step k c) due
    -- at most one response is added, and only while a challenge is open
    refine ih.append fun xs hxs => ?_
    have hxs' : responses xs ≤ responses (k.turns c) :=
      hxs.sublist.countP_le
    rw [Turn.responses_append, Turn.challenges_append]
    omega
  | @reads c us u bytes before listens ih =>
    have hle := ih us List.prefix_rfl
    refine ih.append fun xs hxs => ?_
    have hxs' : responses xs ≤ responses ((c.noted bytes).map .heard) :=
      hxs.sublist.countP_le
    rw [Turn.responses_heard] at hxs'
    rw [Turn.responses_append, Turn.challenges_append]
    omega
  | writes before front ih => exact ih
  | misses before listens nothing ih => exact ih
  | still before still ih => exact ih

end AtWork

end SaslGate
