/-
The transcript of an open link. It ties the client at work on the link to
the trace of the session: the frames that the client has taken note of are
those that the bytes read are made of, the bytes written are all that the
client ever queued, every event belongs to the one socket, and no call
failed or came too late.

Each action of a link that ends well extends the transcript. Setting up
gives it its first frame, the offer (`bootstrap_transcript`), every step
that queues something adds to the bytes written (`Transcript.send`), and
every reply that is awaited adds one frame (`Transcript.await`).
-/
import SaslGate.Proofs.Link
import SaslGate.Session.Reply

namespace SaslGate

open SocketEvent (chunks received sent Flows)
open Event (calls)

/-- What has passed over an open link: the frames `fs` that its client has
heard, the bytes `output` that were written, and the trace `t`. -/
structure Transcript (id : Nat) (timeout : Option Duration)
    (k : Link Client σ) (c : Client) (fs : List Frame) (output : Bytes)
    (t : List Event) (b : Option Instant) : Prop where
  socket : k.id = id
  bound : k.timeout = timeout
  engine : k.line.map Line.engine = some c
  unended : c.connection ≠ .ended
  drained : c.outbound = []
  heard : c.Heard fs (received (calls t))
  written : sent (calls t) = output
  here : ∀ e ∈ t, e.At id
  flows : Flows timeout none (calls t) b

namespace Client

/-- Taking note of frames queues nothing. -/
theorem outbound_of_acceptAll {fs : List Frame} {c d : Client}
    (h : c.acceptAll fs = .ok d) : d.outbound = c.outbound := by
  induction fs generalizing c with
  | nil =>
    cases h
    rfl
  | cons f fs ih =>
    obtain ⟨c₁, ha, hrest⟩ := acceptAll_cons_inv h
    have hc₁ : c₁.outbound = c.outbound := by
      rcases accept_inv ha with ⟨_, -, -, rfl⟩ | ⟨_, -, -, rfl⟩
        | ⟨_, _, -, -, rfl⟩ <;> rfl
    exact (ih hrest).trans hc₁

/-- The server's offer is there, and the exchange has room for its next
frame. -/
structure Ready (c : Client) : Prop where
  offered : c.mechanisms ≠ none
  stepping : c.progress = .step
  settled : c.pending = none

/-- A client that is ready has heard no reply. -/
theorem Ready.unheard {c : Client} (h : c.Ready) :
    Reply.isHeard c = false := by
  simp [Reply.isHeard, Engine.progress, Engine.hasPending,
    Progress.isTerminal, h.stepping, h.settled]

/-- A frame that was queued, behind its size. -/
theorem queue_inv {f : Frame} {c c' : Client}
    (h : c.queue f = (.ok (), c')) :
    ∃ bytes, sized f = .ok bytes
      ∧ c' = { c with outbound := c.outbound ++ bytes } := by
  unfold queue at h
  split at h
  · cases h
  · rename_i bytes hsized
    cases h
    exact ⟨bytes, hsized, rfl⟩

/-- An init that was queued came after an offer, and its frame is at the end
of the queue. -/
theorem sendInit_inv {mechanism : String} {hostname : Option String}
    {initialResponse : Bytes} {c c' : Client}
    (h : c.sendInit mechanism hostname initialResponse = (.ok (), c')) :
    c.mechanisms ≠ none ∧ ∃ bytes,
      sized (.init mechanism (some initialResponse) hostname) = .ok bytes
      ∧ c' = { c with outbound := c.outbound ++ bytes, progress := .step } := by
  unfold sendInit at h
  split at h
  · cases h
  · split at h
    · cases h
    · rename_i hoffered
      split at h
      · cases h
      · split at h
        · cases h
        · rename_i c₁ hqueue
          cases h
          obtain ⟨bytes, hsized, rfl⟩ := queue_inv hqueue
          refine ⟨?_, bytes, hsized, rfl⟩
          intro hnone
          exact hoffered (by rw [hnone]; rfl)

/-- A response that was queued belongs to an exchange under way, and answers
whatever was pending. -/
theorem sendResponse_inv {response : Bytes} {c c' : Client}
    (h : c.sendResponse response = (.ok (), c')) :
    c.progress = .step ∧ ∃ bytes, sized (.response response) = .ok bytes
      ∧ c' = { c with outbound := c.outbound ++ bytes, pending := none } := by
  unfold sendResponse at h
  split at h
  · cases h
  · split at h
    · cases h
    · rename_i hstep
      obtain ⟨bytes, hsized, rfl⟩ := queue_inv h
      exact ⟨by simpa using hstep, bytes, hsized, rfl⟩

end Client

/-- The bytes of frames that a client sends, each behind its size. -/
inductive Utters : List Frame → Bytes → Prop
  | nil : Utters [] []
  | cons {f : Frame} {fs : List Frame} {head rest : Bytes}
      (sized : Client.sized f = .ok head) (tail : Utters fs rest) :
      Utters (f :: fs) (head ++ rest)

/-- Frames sent one after the other take their bytes one after the other. -/
theorem Utters.append {fs gs : List Frame} {a b : Bytes}
    (ha : Utters fs a) (hb : Utters gs b) : Utters (fs ++ gs) (a ++ b) := by
  induction ha with
  | nil => exact hb
  | cons first _ ih =>
    rw [List.append_assoc]
    exact .cons first ih

theorem Utters.one {f : Frame} {bytes : Bytes}
    (sized : Client.sized f = .ok bytes) : Utters [f] bytes := by
  have := Utters.cons sized .nil
  rwa [List.append_nil] at this

theorem Utters.snoc {f : Frame} {fs : List Frame} {head bytes : Bytes}
    (h : Utters fs head) (sized : Client.sized f = .ok bytes) :
    Utters (fs ++ [f]) (head ++ bytes) := h.append (.one sized)

-- ================================================================ replies

/-- A frame that a client takes note of, as a reply: a challenge, or one
outcome or the other. -/
inductive Reply.Brings (c : Client) : Reply → Frame → Client → Prop
  | challenge (data : Bytes) :
      Brings c .challenge (.challenge data) { c with pending := some data }
  | passed (data : Option Bytes) :
      Brings c .passed (.outcome .ok data)
        { c with progress := .pass, pending := data, outcome := some .ok }
  | failed (code : SaslCode) (data : Option Bytes) (refused : code ≠ .ok) :
      Brings c .failed (.outcome code data)
        { c with progress := .fail, pending := data, outcome := some code }

/-- Whoever has waited for a reply to the end has heard one. -/
theorem Reply.avoids_await [Wire σ] {e : AuthError} (he : e.OfSession) :
    (Reply.await : Linked Client σ Reply).Avoids e := by
  intro k hk
  rcases hr : (Reply.await : Linked Client σ Reply).run k with ⟨r, k', t⟩
  rw [hr] at hk
  rcases Act.bind_cases hr with ⟨d, rfl, hpump⟩
    | ⟨_, k₁, t₁, t₂, hpump, hrest, -⟩
  · cases hk
    exact Link.avoids_pumpUntil he _ k (congrArg Run.result hpump)
  · obtain ⟨l, l', u, b, -, rfl, -, hhears, -⟩ := Link.pumpUntil_inv hpump
    have henough := hhears.heard
    rw [Reply.isHeard_eq] at henough
    obtain ⟨reply, hreply⟩ := Option.isSome_iff_exists.1 henough
    have hheard : Reply.heard (k.put l') = .ok reply :=
      (Reply.heard_eq_ok_iff Link.line_put).2 hreply
    rw [Act.run_state_bind, hheard] at hrest
    cases hrest
    cases hk

namespace Transcript

variable {σ : Type} {id : Nat} {timeout : Option Duration}
  {k k' : Link Client σ} {c c₁ : Client} {fs : List Frame} {output : Bytes}
  {t u : List Event} {b : Option Instant}

/-- The line of the link. -/
theorem line (h : Transcript id timeout k c fs output t b) :
    ∃ l, k.line = some l ∧ l.engine = c :=
  Option.map_eq_some_iff.1 h.engine

/-- A step that queues bytes, and the sending of these. -/
theorem send [Wire σ] {f : Client → Except TransportError Unit × Client}
    (h : Transcript id timeout k c fs output t b)
    (hf : f c = (.ok (), c₁)) (hc : c₁.connection ≠ .ended)
    (hd : c₁.headerDone = c.headerDone) (hreader : c₁.reader = c.reader)
    (hr : (Link.send f).run k = ⟨.ok (), k', u⟩) :
    Transcript id timeout k' { c₁ with outbound := [] } fs
      (output ++ c₁.outbound) (t ++ u) none := by
  obtain ⟨l, hl, rfl⟩ := h.line
  obtain ⟨l', v, rfl, rfl, silent, ⟨-, hengine, hsent, hflow⟩ | ⟨⟨e, he⟩, -⟩⟩ :=
    Link.send_cases hl hf hr
  · refine ⟨h.socket, h.bound, congrArg some hengine, hc, rfl, ?_, ?_, ?_, ?_⟩
    · rw [Event.calls_append, Event.calls_socket,
        SocketEvent.received_append, SocketEvent.received_of_chunks silent,
        List.flatten_nil, List.append_nil]
      exact h.heard.congr hd hreader
    · rw [Event.calls_append, Event.calls_socket, SocketEvent.sent_append,
        h.written, hsent]
    · intro e he
      rcases List.mem_append.1 he with hmem | hmem
      · exact h.here e hmem
      · rw [← h.socket]
        exact Event.at_socket _ _ e hmem
    · rw [Event.calls_append, Event.calls_socket]
      exact h.flows.append (hflow timeout b)
  · cases he

/-- Waiting until the client has heard enough. -/
theorem pump [Wire σ] {enough : Client → Bool}
    (h : Transcript id timeout k c fs output t none)
    (hr : (Link.pumpUntil enough).run k = ⟨.ok (), k', u⟩) :
    ∃ gs d c' b', Transcript id timeout k' c' (fs ++ gs) output (t ++ u) b'
      ∧ c.acceptAll gs = .ok d ∧ c' = d.placed c'.connection c'.reader
      ∧ enough c' = true := by
  obtain ⟨l, l', v, b', hl, rfl, rfl, hhears, hflow, hsent⟩ :=
    Link.pumpUntil_inv hr
  obtain ⟨l₀, hl₀, rfl⟩ := h.line
  rw [hl] at hl₀
  cases hl₀
  obtain ⟨gs, d, hheard, haccept, hd, hne⟩ :=
    h.heard.hears h.unended hhears
  refine ⟨gs, d, l'.engine, b', ⟨h.socket, h.bound, rfl, hne, ?_, ?_, ?_, ?_,
    ?_⟩, haccept, hd, hhears.heard⟩
  · rw [hd]
    exact (Client.outbound_of_acceptAll haccept).trans h.drained
  · rw [Event.calls_append, Event.calls_socket, SocketEvent.received_append]
    exact hheard
  · rw [Event.calls_append, Event.calls_socket, SocketEvent.sent_append,
      h.written, hsent, List.append_nil]
  · intro e he
    rcases List.mem_append.1 he with hmem | hmem
    · exact h.here e hmem
    · rw [← h.socket]
      exact Event.at_socket _ _ e hmem
  · rw [Event.calls_append, Event.calls_socket]
    exact h.flows.append (h.bound ▸ hflow)

/-- Picking a mechanism. -/
theorem sendInit [Wire σ] {mechanism : String} {hostname : Option String}
    {message : Bytes} (h : Transcript id timeout k c fs output t b)
    (hr : (Link.sendInit mechanism hostname message).run k =
      ⟨.ok (), k', u⟩) :
    c.mechanisms ≠ none ∧ ∃ bytes,
      Client.sized (.init mechanism (some message) hostname) = .ok bytes
      ∧ Transcript id timeout k' { c with progress := .step } fs
          (output ++ bytes) (t ++ u) none := by
  obtain ⟨l, c₁, hl, hf⟩ := Link.send_inv hr
  obtain ⟨l₀, hl₀, rfl⟩ := h.line
  rw [hl] at hl₀
  cases hl₀
  have hnil := h.drained
  obtain ⟨hoffered, bytes, hsized, rfl⟩ := Client.sendInit_inv hf
  have hsent := h.send hf h.unended rfl rfl hr
  simp only [hnil, List.nil_append] at hsent
  rw [← hnil] at hsent
  exact ⟨hoffered, bytes, hsized, hsent⟩

/-- Answering a challenge. -/
theorem sendResponse [Wire σ] {response : Bytes}
    (h : Transcript id timeout k c fs output t b)
    (hr : (Link.sendResponse response).run k = ⟨.ok (), k', u⟩) :
    c.progress = .step ∧ ∃ bytes,
      Client.sized (.response response) = .ok bytes
      ∧ Transcript id timeout k' { c with pending := none } fs
          (output ++ bytes) (t ++ u) none := by
  obtain ⟨l, c₁, hl, hf⟩ := Link.send_inv hr
  obtain ⟨l₀, hl₀, rfl⟩ := h.line
  rw [hl] at hl₀
  cases hl₀
  have hnil := h.drained
  obtain ⟨hstep, bytes, hsized, rfl⟩ := Client.sendResponse_inv hf
  have hsent := h.send hf h.unended rfl rfl hr
  simp only [hnil, List.nil_append] at hsent
  rw [← hnil] at hsent
  exact ⟨hstep, bytes, hsized, hsent⟩

/-- Waiting for a reply brings exactly one frame. -/
theorem await [Wire σ] {reply : Reply}
    (h : Transcript id timeout k c fs output t none) (ready : c.Ready)
    (hr : Reply.await.run k = ⟨.ok reply, k', u⟩) :
    ∃ f d c' b', Reply.Brings c reply f d
      ∧ c' = d.placed c'.connection c'.reader
      ∧ Transcript id timeout k' c' (fs ++ [f]) output (t ++ u) b' := by
  obtain ⟨hpump, hheard⟩ := Reply.await_inv hr
  obtain ⟨gs, d, c', b', htrans, haccept, hd, henough⟩ := h.pump hpump
  have hof : Reply.of? c' = some reply := by
    obtain ⟨l', hl', rfl⟩ := htrans.line
    exact (Reply.heard_eq_ok_iff hl').1 hheard
  rcases Client.acceptAll_offered ready.offered haccept with ⟨rfl, rfl⟩
    | ⟨data, rfl, -, rfl⟩ | ⟨code, data, rfl, -, rfl⟩
  · rw [hd] at henough
    -- nothing came, so the client still waits
    have : Reply.isHeard d = true := henough
    rw [ready.unheard] at this
    cases this
  · rw [hd] at hof
    -- of the frames that may come next, only these two are replies
    have : some Reply.challenge = some reply := by
      rw [← hof]
      simp [Reply.of?, Engine.progress, Engine.hasPending, ready.stepping,
        Client.placed]
    cases this
    exact ⟨_, _, c', b', .challenge data, hd, htrans⟩
  · rw [hd] at hof
    by_cases hcode : code = .ok
    · subst hcode
      cases hof
      exact ⟨_, _, c', b', .passed data, hd, htrans⟩
    · rw [if_neg hcode] at hd hof
      cases hof
      exact ⟨_, _, c', b', .failed code data hcode, hd, htrans⟩

/-- Taking what waits. -/
theorem takePending (h : Transcript id timeout k c fs output t b) :
    ∃ k', Link.takePending.run k = ⟨.ok c.pending, k', []⟩
      ∧ Transcript id timeout k' { c with pending := none } fs output t b := by
  obtain ⟨l, hl, rfl⟩ := h.line
  exact ⟨_, Link.run_takePending hl, h.socket, h.bound, rfl, h.unended,
    h.drained, h.heard.congr rfl rfl, h.written, h.here, h.flows⟩

end Transcript

-- ============================================================ beginnings

namespace Link

variable {κ σ : Type}

/-- The greeting either fails in passing, or the offer has come, and contains
the mechanism or not. -/
theorem greet_cases [Wire σ] {mechanism : String} {timeout : Option Duration}
    {id : Nat} {wire : σ} {r : Except AuthError Unit} {k : Link Client σ}
    {u : List Event}
    (h : (greet mechanism).run (ofLine id timeout ⟨Client.fresh, wire⟩) =
      ⟨r, k, u⟩) :
    (∃ e, r = .error e ∧ ∀ requested offered,
      e ≠ .mechanismNotOffered requested offered)
    ∨ ∃ names c b, r = (if mechanism ∈ names then .ok ()
          else .error (.mechanismNotOffered mechanism names))
        ∧ c = { Client.fresh with mechanisms := some names }.placed
          c.connection c.reader
        ∧ Transcript id timeout k c [.mechanisms names]
          Header.sasl.encode u b := by
  rcases Act.bind_cases h with ⟨e, rfl, hsend⟩
    | ⟨_, k₂, u₁, u₂, hsend, hwait, rfl⟩
  · refine .inl ⟨e, rfl, fun requested offered he => ?_⟩
    exact send_ne_notOffered _ he _ (congrArg Run.result hsend)
  · rcases Act.bind_cases hwait with ⟨e, rfl, hpump⟩
      | ⟨_, k₃, u₃, u₄, hpump, hcheck, rfl⟩
    · refine .inl ⟨e, rfl, fun requested offered he => ?_⟩
      exact pumpUntil_ne_notOffered _ he _ (congrArg Run.result hpump)
    · -- an open link on which nothing has happened
      have start : Transcript id timeout
          (ofLine id timeout ⟨Client.fresh, wire⟩)
          Client.fresh [] [] [] none :=
        ⟨rfl, rfl, rfl, by decide, rfl, Client.heard_fresh, rfl,
          List.forall_mem_nil _, Flows.nil _ _⟩
      have sent := start.send (f := Engine.sendHeader) rfl (by decide) rfl rfl
        hsend
      obtain ⟨gs, d, c, b, htrans, haccept, hd, henough⟩ := sent.pump hpump
      obtain ⟨l, hl, rfl⟩ := htrans.line
      rcases Client.acceptAll_idle rfl haccept with ⟨rfl, rfl⟩
        | ⟨names, rfl, rfl⟩
      · -- no frame was read, so there is no offer
        rw [hd] at henough
        cases henough
      · have hoffered : k₃.offered = names := by
          rw [offered_eq hl, hd]
          rfl
        rw [Act.run_state_bind] at hcheck
        simp only [hoffered] at hcheck
        refine .inr ⟨names, l.engine, b, ?_⟩
        split at hcheck
        · rename_i hmem
          cases hcheck
          refine ⟨(if_pos hmem).symm, hd, ?_⟩
          simpa [Client.fresh] using htrans
        · rename_i hmem
          cases hcheck
          refine ⟨(if_neg hmem).symm, hd, ?_⟩
          simpa [Client.fresh] using htrans

/-- A link that was set up has heard one frame, an offer with the mechanism
in it, and has sent the header and nothing else. -/
theorem bootstrap_transcript [Connector κ σ] [Wire σ] {config : RemoteConfig}
    {mechanism : String} {s s' : κ} {k : Link Client σ} {t : List Event}
    (h : (bootstrap Client.fresh config mechanism).run s = ⟨.ok k, s', t⟩) :
    ∃ id names c u b, t = .connect config.host config.portNumber
          config.connectTimeout (.ok id) :: u
      ∧ mechanism ∈ names
      ∧ c = { Client.fresh with mechanisms := some names }.placed
          c.connection c.reader
      ∧ Transcript id config.negotiationTimeout k c [.mechanisms names]
          Header.sasl.encode u b := by
  rcases bootstrap_cases h with ⟨_, hr, -⟩
    | ⟨id, wire, _, k', u, -, hg, ⟨rfl, hr, rfl⟩ | ⟨_, -, hr, -⟩⟩
  · cases hr
  · cases hr
    rcases greet_cases hg with ⟨e, he, -⟩ | ⟨names, c, b, hverdict, hc, htrans⟩
    · cases he
    · split at hverdict
      · rename_i hmem
        exact ⟨id, names, c, u, b, rfl, hmem, hc, htrans⟩
      · cases hverdict
  · cases hr

end Link

-- ================================================================== ends

/-- A conversation over one socket from beginning to end: its frames, and
the bytes that were written. No call failed or came too late. -/
structure Conversation (id : Nat) (timeout : Option Duration)
    (fs : List Frame) (output : Bytes) (t : List Event) : Prop where
  heard : Streams fs (received (calls t))
  written : sent (calls t) = output
  here : ∀ e ∈ t, e.At id
  smooth : SocketEvent.Smooth timeout (calls t)

/-- Closing the link adds nothing to a conversation. -/
theorem Transcript.close [Wire σ] {id : Nat} {timeout : Option Duration}
    {k : Link Client σ} {c : Client} {fs : List Frame} {output : Bytes}
    {t : List Event} {b : Option Instant}
    (h : Transcript id timeout k c fs output t b) (hne : fs ≠ []) :
    Conversation id timeout fs output (t ++ (Link.close.run k).events) := by
  obtain ⟨l, hl, rfl⟩ := h.line
  have hclose : (Link.close.run k).events =
      [.socket k.id (.shutdown (Wire.shutdown l.wire).1),
        .engineClosed k.id] := by
    rw [Link.run_close hl]
  have hcalls : calls (Link.close.run k).events =
      [.shutdown (Wire.shutdown l.wire).1] := by
    rw [hclose]
    rfl
  refine ⟨?_, ?_, ?_, ?_⟩
  · rw [Event.calls_append, hcalls, SocketEvent.received_append,
      show received [.shutdown _] = [] from rfl, List.append_nil]
    exact h.heard.streams hne
  · rw [Event.calls_append, hcalls, SocketEvent.sent_append, h.written,
      show sent [.shutdown _] = [] from rfl, List.append_nil]
  · intro e he
    rcases List.mem_append.1 he with hmem | hmem
    · exact h.here e hmem
    · rw [hclose] at hmem
      have hid : k.id = id := h.socket
      simp only [List.mem_cons, List.not_mem_nil, or_false] at hmem
      rcases hmem with rfl | rfl <;> exact hid
  · rw [Event.calls_append, hcalls]
    exact SocketEvent.smooth_iff.2 ⟨b, h.flows.append (by
      simp [Flows, SocketEvent.watch, SocketEvent.works])⟩

end SaslGate
