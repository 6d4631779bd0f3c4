/-
Where the client of an open link stands in its dialogue with the server, and
how the actions of a link move it on. It waits for an offer (`Opening`), or for
a reply (`Conversing`), or it owes the server a response (`Owing`); nobody else
than the server may speak in the first two, and nobody else than the client in
the third. That is why the client may read while it waits, and only then: what
is heard while nothing is owed is at most one frame (`opening_attends`,
`conversing_attends`).

The frames that were said are an argument, so a dialogue carries along all
that it said from its beginning on.
-/
import SaslGate.Proofs.Conduct
import SaslGate.Session.Reply

namespace SaslGate

open Act (Ends)
open Turn (frames challenges responses)

namespace Turn

@[simp] theorem frames_said (fs : List Frame) :
    frames (fs.map said) = fs := by
  unfold frames
  rw [List.filterMap_map]
  exact List.filterMap_some

/-- Whoever said no frame has given no response. -/
theorem responses_eq_zero {us : List Turn} (h : frames us = []) :
    responses us = 0 := by
  refine List.countP_eq_zero.2 ?_
  intro u hu hresponse
  have hnone := List.filterMap_eq_nil_iff.1 h u hu
  cases u with
  | said f => cases hnone
  | heard f => cases hresponse

end Turn

/-- A call that brings nothing in says its frames, or nothing at all. -/
theorem ClientCall.turns_cases (k : ClientCall) (c : Client)
    (hk : ∀ bytes, k ≠ .feed bytes) :
    ((k.step c).1 = .ok () ∧ k.turns c = k.frames.map .said)
    ∨ (∃ e, (k.step c).1 = .error e) ∧ k.turns c = [] := by
  unfold turns
  split
  · exact absurd rfl (hk _)
  · rename_i hok
    exact .inl ⟨hok, rfl⟩
  · rename_i hfailed
    exact .inr ⟨⟨_, hfailed⟩, rfl⟩

/-- A call that succeeds takes the turns that it stands for. -/
theorem ClientCall.turns_of_ok {k : ClientCall} {c : Client}
    (hk : ∀ bytes, k ≠ .feed bytes) (hok : (k.step c).1 = .ok ()) :
    k.turns c = k.frames.map .said := by
  rcases k.turns_cases c hk with ⟨-, hturns⟩ | ⟨⟨e, he⟩, -⟩
  · exact hturns
  · rw [hok] at he
    cases he

/-- A call that fails says nothing more than one that succeeds, and perhaps
less. -/
theorem ClientCall.frames_turns (k : ClientCall) (c : Client)
    (hk : ∀ bytes, k ≠ .feed bytes) :
    Turn.frames (k.turns c) <+: k.frames := by
  rcases k.turns_cases c hk with ⟨-, hturns⟩ | ⟨-, hturns⟩
  · have hframes : Turn.frames (k.turns c) = k.frames := by
      rw [hturns, Turn.frames_said]
    exact hframes ▸ List.prefix_rfl
  · rw [hturns]
    exact List.nil_prefix

namespace Client

-- ======================================================= where a client stands

/-- The client has opened the connection, and has said nothing yet. -/
structure Opening (c : Client) (us : List Turn) : Prop where
  drained : c.outbound = []
  idle : c.progress = .idle
  settled : c.pending = none
  unsaid : frames us = []
  unchallenged : challenges us = 0

/-- Where an exchange may stand while a reply is awaited. -/
inductive Stands (c : Client) (us : List Turn) : Prop
  | asked (stepping : c.progress = .step) (settled : c.pending = none)
      (even : responses us = challenges us)
  | challenged (stepping : c.progress = .step) (waiting : c.pending ≠ none)
      (owes : responses us + 1 = challenges us)
  | decided (terminal : c.progress = .pass ∨ c.progress = .fail)

/-- The client has said the frames `fs`, and waits for a reply, if it has not
heard it already. -/
structure Conversing (fs : List Frame) (c : Client) (us : List Turn) :
    Prop where
  drained : c.outbound = []
  offered : c.mechanisms ≠ none
  said : frames us = fs
  stands : c.Stands us

/-- The client has said the frames `fs`, and owes one response. -/
structure Owing (fs : List Frame) (c : Client) (us : List Turn) : Prop where
  drained : c.outbound = []
  offered : c.mechanisms ≠ none
  said : frames us = fs
  stepping : c.progress = .step
  owes : responses us + 1 = challenges us

/-- A reply has been heard after the frames `fs`. -/
def Replied (fs : List Frame) (reply : Reply) (c : Client)
    (us : List Turn) : Prop :=
  frames us = fs ∧ (reply = .challenge → c.Owing fs us)

section Standing

variable {c : Client} {us : List Turn} {fs : List Frame} {bytes : Bytes}

/-- As long as no offer has come, a client listens. -/
theorem opening_attends : Line.Attends Link.hasOffer Opening where
  listens := by
    intro c us h more
    refine ⟨h.drained, ?_, ?_⟩
    · intro hoffer
      rw [more] at hoffer
      cases hoffer
    · rw [Turn.responses_eq_zero h.unsaid, h.unchallenged]
  keeps := by
    intro c us bytes h _
    obtain ⟨d, k, r, hall, hfeed⟩ := c.feed_placed bytes
    rw [hfeed]
    rcases acceptAll_idle h.idle hall with ⟨hnil, rfl⟩ | ⟨names, hone, rfl⟩
    · rw [hnil, List.map_nil, List.append_nil]
      exact ⟨h.drained, h.idle, h.settled, h.unsaid, h.unchallenged⟩
    · rw [hone]
      refine ⟨h.drained, h.idle, h.settled, ?_, ?_⟩
      · rw [Turn.frames_append, h.unsaid]
        rfl
      · rw [Turn.challenges_append, h.unchallenged]
        rfl

/-- Whoever has heard no reply has answered every challenge. -/
theorem Conversing.asked (h : c.Conversing fs us)
    (more : Reply.isHeard c = false) :
    c.progress = .step ∧ c.pending = none
      ∧ responses us = challenges us := by
  cases h.stands with
  | asked stepping settled even => exact ⟨stepping, settled, even⟩
  | challenged stepping waiting owes =>
    have hheard : Reply.isHeard c = true := by
      simp [Reply.isHeard_eq, Reply.of?, Engine.progress, Engine.hasPending,
        stepping, Option.isSome_iff_ne_none.2 waiting]
    rw [hheard] at more
    cases more
  | decided terminal =>
    have hheard : Reply.isHeard c = true := by
      rcases terminal with hp | hp <;>
        simp [Reply.isHeard_eq, Reply.of?, Engine.progress, hp]
    rw [hheard] at more
    cases more

/-- As long as no reply has come, a client listens. -/
theorem conversing_attends :
    Line.Attends Reply.isHeard (Conversing fs) where
  listens := by
    intro c us h more
    obtain ⟨hstep, -, heven⟩ := h.asked more
    refine ⟨h.drained, fun _ hidle => ?_, heven⟩
    rw [hstep] at hidle
    cases hidle
  keeps := by
    intro c us bytes h more
    obtain ⟨hstep, hsettled, heven⟩ := h.asked more
    obtain ⟨d, k, r, hall, hfeed⟩ := c.feed_placed bytes
    have hsaid : frames (us ++ (c.noted bytes).map .heard) = fs := by
      rw [Turn.frames_append, Turn.frames_heard, List.append_nil]
      exact h.said
    rw [hfeed]
    -- at most one frame is taken while a reply is waited for
    rcases acceptAll_offered h.offered hall with ⟨hnil, rfl⟩
      | ⟨data, hone, -, rfl⟩ | ⟨code, data, hone, -, rfl⟩
    · refine ⟨h.drained, h.offered, hsaid, .asked hstep hsettled ?_⟩
      rw [hnil, List.map_nil, List.append_nil]
      exact heven
    · refine ⟨h.drained, h.offered, hsaid,
        .challenged hstep (Option.some_ne_none data) ?_⟩
      rw [hone, Turn.responses_append, Turn.challenges_append, heven]
      rfl
    · refine ⟨h.drained, h.offered, hsaid, .decided ?_⟩
      show (if code = .ok then Progress.pass else .fail) = .pass
        ∨ (if code = .ok then Progress.pass else .fail) = .fail
      split
      · exact .inl rfl
      · exact .inr rfl

/-- A reply that is there: after a challenge, a response is owed. -/
theorem Conversing.replied {reply : Reply} (h : c.Conversing fs us)
    (heard : Reply.of? c = some reply) : c.Replied fs reply us := by
  refine ⟨h.said, ?_⟩
  intro hchallenge
  subst hchallenge
  cases h.stands with
  | asked stepping settled even =>
    simp [Reply.of?, Engine.progress, Engine.hasPending, stepping, settled]
      at heard
  | challenged stepping waiting owes =>
    exact ⟨h.drained, h.offered, h.said, stepping, owes⟩
  | decided terminal =>
    rcases terminal with hp | hp <;>
      simp [Reply.of?, Engine.progress, hp] at heard

end Standing

end Client

-- ========================================================== what a link does

namespace Link

open Client (Opening Conversing Owing Replied)

variable {σ : Type} {config : RemoteConfig} {k : Link Client σ}
  {t : List Event} {fs : List Frame}

variable [Wire σ]

/-- Exchanging headers and waiting for the offer. -/
theorem ends_greet (config : RemoteConfig) (mechanism : String) (id : Nat)
    (wire : σ) :
    Ends (opened config id []) (greet mechanism)
      (ofLine id config.negotiationTimeout ⟨Client.fresh, wire⟩)
      (fun _ => Known config fun c us => c.Opening us ∧ hasOffer c = true)
      fun _ => Known config fun _ us => frames us = [] := by
  have hstep : (onLine .protocolViolation
      (Line.engineStep Engine.sendHeader)).run
        (ofLine id config.negotiationTimeout ⟨Client.fresh, wire⟩) =
      ⟨.ok (), (ofLine id config.negotiationTimeout
        ⟨Client.fresh.sendHeader.2, wire⟩), []⟩ := rfl
  -- a fresh client at work, its header queued and nothing said
  have hstart : Known config (fun c us => c = Client.fresh.sendHeader.2
      ∧ us = [])
      (ofLine id config.negotiationTimeout ⟨Client.fresh.sendHeader.2, wire⟩)
      (opened config id []) :=
    ⟨_, [], rfl, ⟨[], .start, rfl, rfl⟩, rfl⟩
  have hsend : Ends (opened config id []) (send Engine.sendHeader)
      (ofLine id config.negotiationTimeout ⟨Client.fresh, wire⟩)
      (fun _ => Known config Opening)
      fun _ => Known config fun _ us => frames us = [] := by
    refine .bind (.of_run_ok hstep ?_)
    rw [List.append_nil]
    refine (hstart.flush ?_).imp_ok ?_
    · intro c us hc
      rw [hc.2]
      rfl
    · intro _ k' t' hall
      refine hall.imp ?_
      intro c us hc
      obtain ⟨_, ⟨rfl, rfl⟩, rfl⟩ := hc
      exact ⟨rfl, rfl, rfl, rfl, rfl⟩
  refine hsend.andThen ?_
  intro _ k₁ t₁ h₁
  refine .bind ((h₁.pumpUntil Client.opening_attends).imp ?_ ?_)
  · intro _ k₂ t₂ h₂
    refine .state_bind ?_
    dsimp only
    split
    · exact .pure h₂
    · exact .fails (h₂.imp fun _ _ hc => hc.1.unsaid)
  · intro _ k₂ t₂ h₂
    exact h₂.imp fun _ _ hc => hc.unsaid

/-- A link that was set up has its offer; one that was not is closed. -/
theorem ends_bootstrap {κ : Type} [Connector κ σ] {opener : κ}
    (config : RemoteConfig) (mechanism : String) :
    Ends [] (bootstrap Client.fresh config mechanism) opener
      (fun k _ => Known config
        (fun c us => c.Opening us ∧ hasOffer c = true) k)
      fun _ _ => Custody (σ := σ) config (fun us => frames us = []) none := by
  rcases hr : (bootstrap Client.fresh config mechanism :
    Act Event κ AuthError (Link Client σ)).run opener with ⟨r, opener', t⟩
  rcases bootstrap_cases hr with ⟨kind, rfl, rfl⟩
    | ⟨id, wire, _, k, u, -, hg, ⟨rfl, rfl, rfl⟩ | ⟨e, rfl, rfl, rfl⟩⟩
  · exact .of_run_error hr (.refused kind)
  · exact .of_run_ok hr ((ends_greet config mechanism id wire).of_ok hg)
  · have hclosed := (Custody.held
      ((ends_greet config mechanism id wire).of_error hg)).farewell
    exact .of_run_error hr hclosed

namespace Known

/-- Picking a mechanism out of the offer, with the client's first message. -/
theorem sendInit (h : Known config
      (fun c us => c.Opening us ∧ hasOffer c = true) k t)
    (mechanism : String) (hostname : Option String) (message : Bytes) :
    Ends t (Link.sendInit mechanism hostname message) k
      (fun _ => Known config
        (Conversing [.init mechanism (some message) hostname]))
      fun _ => Known config fun _ us =>
        frames us <+: [.init mechanism (some message) hostname] := by
  refine h.send (.sendInit mechanism hostname message) ?_ ?_ ?_
  · exact fun _ _ _ => trivial
  · intro c us hc hok
    obtain ⟨hopen, -⟩ := hc
    rw [ClientCall.turns_of_ok (k := .sendInit ..) nofun hok]
    obtain ⟨hoffered, bytes, -, hsent⟩ := Client.sendInit_inv (Prod.ext hok rfl)
    have hstep : ((ClientCall.sendInit mechanism hostname message).step c).2
        = _ := hsent
    rw [hstep]
    refine ⟨rfl, hoffered, ?_, .asked rfl hopen.settled ?_⟩
    · rw [Turn.frames_append, hopen.unsaid]
      rfl
    · rw [Turn.responses_append, Turn.challenges_append,
        Turn.responses_eq_zero hopen.unsaid, hopen.unchallenged]
      rfl
  · intro c us hc
    rw [Turn.frames_append, hc.1.unsaid, List.nil_append]
    exact ClientCall.frames_turns _ c nofun

omit [Wire σ] in
/-- Taking the challenge does not answer it. -/
theorem takeChallenge (h : Known config (Owing fs) k t) :
    Ends t Link.takePending k (fun _ => Known config (Owing fs))
      fun _ => Known config (Owing fs) := by
  refine h.takePending ?_
  intro c us hc
  exact ⟨hc.drained, hc.offered, hc.said, hc.stepping, hc.owes⟩

/-- Giving the response that is owed. -/
theorem sendResponse (h : Known config (Owing fs) k t) (response : Bytes) :
    Ends t (Link.sendResponse response) k
      (fun _ => Known config (Conversing (fs ++ [.response response])))
      fun _ => Known config fun _ us =>
        frames us <+: fs ++ [.response response] := by
  refine h.send (.sendResponse response) ?_ ?_ ?_
  · intro c us hc
    exact Nat.lt_of_lt_of_eq (Nat.lt_succ_self _) hc.owes
  · intro c us hc hok
    rw [ClientCall.turns_of_ok (k := .sendResponse response) nofun hok]
    obtain ⟨hstep, bytes, -, hsent⟩ :=
      Client.sendResponse_inv (Prod.ext hok rfl)
    have hanswer : ((ClientCall.sendResponse response).step c).2 = _ := hsent
    rw [hanswer]
    refine ⟨rfl, hc.offered, ?_, .asked hstep rfl ?_⟩
    · rw [Turn.frames_append, hc.said]
      rfl
    · rw [Turn.responses_append, Turn.challenges_append, ← hc.owes]
      rfl
  · intro c us hc
    rw [Turn.frames_append, hc.said]
    exact (List.prefix_append_right_inj fs).2
      (ClientCall.frames_turns _ c nofun)

/-- Waiting for a reply. -/
theorem await (h : Known config (Conversing fs) k t) :
    Ends t Reply.await k (fun reply => Known config (Replied fs reply))
      fun _ => Known config fun _ us => frames us = fs := by
  refine .bind ((h.pumpUntil Client.conversing_attends).imp ?_ ?_)
  · intro _ k₁ t₁ h₁
    obtain ⟨l, u, hl, ⟨us, hwork, hconv, hheard⟩, rfl⟩ := h₁
    rw [Reply.isHeard_eq] at hheard
    obtain ⟨reply, hreply⟩ := Option.isSome_iff_exists.1 hheard
    have hof : Reply.heard k₁ = .ok reply :=
      (Reply.heard_eq_ok_iff hl).2 hreply
    refine .state_bind ?_
    rw [hof]
    exact .pure ⟨l, u, hl, ⟨us, hwork, hconv.replied hreply⟩, rfl⟩
  · intro _ k₁ t₁ h₁
    exact h₁.imp fun _ _ hc => hc.said

end Known

end Link

end SaslGate
