/-
The guard of an unanswered challenge. A client knows of a challenge by one
thing, the data that waits to be taken. As long as it waits, every further
challenge and every outcome is refused, and nothing changes
(`Waiting.guarded`).

# Where the guard ends

The guard does not last until the challenge has been answered. Taking the
challenge lifts it, and so does an answer that fails because it is too long:
either leaves a client that looks as if no challenge had come
(`Idling.yields`), and the next challenge or outcome is taken note of, with
no answer queued. `challenge_guard_exact` draws the line: which calls behind
a challenge leave the guard standing, and that the others lift it.
-/
import SaslGate.Proofs.Client.Pace

namespace SaslGate

/-- The calls that leave a challenge where it is. -/
def ClientCall.spares : ClientCall → Bool
  | sendHeader | feed _ | sendInit .. | consume _ => true
  | takePending | sendResponse _ | close => false

/-- A frame that a server sends during an exchange: a challenge, or the
outcome. -/
def Frame.IsReply (f : Frame) : Prop :=
  f.performative = .challenge ∨ f.performative = .outcome

namespace Client

/-- A challenge or an outcome whose last bytes arrive is refused, by its
name, and the exchange stays as it is. -/
def Guarded (c : Client) : Prop :=
  ∀ bytes payload f, c.Completes bytes payload →
    Frame.decode payload = .ok f → f.IsReply →
    (c.feed bytes).1 =
        .error (.unexpectedFrame f.performative.name c.stateName)
      ∧ (c.feed bytes).2.exchange = c.exchange

/-- A challenge or an outcome whose last bytes arrive is taken note of, and
shows. -/
def Yields (c : Client) : Prop :=
  ∀ bytes payload f, c.Completes bytes payload →
    Frame.decode payload = .ok f → f.IsReply →
    c.noted bytes = [f] ∧ (c.feed bytes).2.exchange ≠ c.exchange

/-- Calls behind a challenge that has not been answered: it came with a
piece that was fed after `before`, and no answer was queued in `later`. -/
structure Unanswered (before : List ClientCall) (piece : Bytes)
    (later : List ClientCall) : Prop where
  came : ∃ data, .challenge data ∈ (fresh.after before).noted piece
  unsaid : ∀ data, .said (.response data) ∉
    (fresh.after (before ++ [.feed piece])).turns later

section Challenges

variable {c c' d : Client} {ts us : List Turn} {f : Frame} {k : ClientCall}
  {calls : List ClientCall} {bytes : Bytes}

/-- An exchange that is under way, on a connection that is open. -/
structure Idling (c : Client) : Prop where
  offered : c.mechanisms ≠ none
  stepping : c.progress = .step
  unended : c.connection ≠ .ended

/-- A challenge that waits to be taken. -/
structure Waiting (c : Client) : Prop extends c.Idling where
  waiting : c.pending ≠ none

-- =========================================================== the guard holds

/-- While a challenge waits, no frame of the server is expected. -/
theorem Waiting.deaf (h : c.Waiting) : c.Deaf :=
  ⟨h.offered, by simp [awaitsServer, h.waiting]⟩

/-- Calls that leave a challenge where it is leave the client waiting. -/
theorem Waiting.step (h : c.Waiting) (hk : k.spares = true)
    (hm : Moves c k us c') : c'.Waiting := by
  cases hm with
  | stay => exact h
  | greet unsent =>
    refine ⟨⟨h.offered, h.stepping, ?_⟩, h.waiting⟩
    rcases unsent with ⟨-, rfl⟩ | ⟨-, rfl⟩ <;> nofun
  | init free offered idle sized =>
    exact absurd (h.stepping.symm.trans idle) nofun
  | hear unended accepted onward behind bounded =>
    obtain ⟨rfl, rfl⟩ := h.deaf.eq_nil accepted
    exact ⟨⟨h.offered, h.stepping, onward.unended unended⟩,
      h.waiting⟩
  | consume n => exact ⟨⟨h.offered, h.stepping, h.unended⟩, h.waiting⟩
  | response => cases hk
  | giveUp => cases hk
  | take => cases hk
  | close => cases hk

/-- Whatever leaves the challenge alone may be done any number of times. -/
theorem Waiting.after (h : c.Waiting)
    (hspare : ∀ k ∈ calls, ClientCall.spares k = true) :
    (c.after calls).Waiting :=
  after_keeps h fun k hk _ _ _ hm hw => hw.step (hspare k hk) hm

/-- While a challenge waits, a client refuses all that comes. -/
theorem Waiting.guarded (h : c.Waiting) (ht : c.Tidy) : c.Guarded := by
  intro bytes payload f hc hdec _
  obtain ⟨e, r, hfeed, hname⟩ := h.deaf.feed_frame ht h.unended hc
  rw [hfeed, hname f hdec]
  exact ⟨rfl, rfl⟩

-- ========================================================== the guard is lifted

/-- A call that does not leave a challenge where it is takes it away. -/
theorem pending_of_not_spares (h : c.Idling) (ht : c.Tidy)
    (hk : k.spares = false) : (k.step c).2.pending = none := by
  cases k with
  | takePending => rfl
  | sendResponse response =>
    have hstart : c.connection ≠ .start :=
      fun hs => h.offered (ht.unoffered (.inl hs))
    have hfree : c.sendingBlocked = none := by
      unfold sendingBlocked
      cases hs : c.connection with
      | ended => exact absurd hs h.unended
      | start => exact absurd hs hstart
      | _ => rfl
    show (c.sendResponse response).2.pending = none
    unfold sendResponse
    rw [hfree]
    simp only
    rw [if_neg (Decidable.not_not.2 h.stepping)]
    -- whether it fits or not, the challenge is forgotten first
    rcases queue_cases (.response response) { c with pending := none }
      with ⟨_, -, hq⟩ | ⟨_, -, hq⟩ <;> rw [hq]
  | close =>
    show c.close.pending = none
    rw [close, if_neg h.unended]
  | sendHeader => cases hk
  | feed bytes => cases hk
  | sendInit mechanism hostname initialResponse => cases hk
  | consume n => cases hk

/-- While nothing is heard and nothing answered, an exchange that is under
way stays where it is, and a challenge that is gone stays away. -/
theorem Idling.step (h : c.Idling) (hm : Moves c k us c') (hk : k ≠ .close)
    (hheard : ∀ f, .heard f ∉ us)
    (hsaid : ∀ data, .said (.response data) ∉ us) :
    c'.Idling ∧ (c.pending = none → c'.pending = none) := by
  have hopen := unended_step h.unended hk hm
  cases hm with
  | stay => exact ⟨h, id⟩
  | greet unsent => exact ⟨⟨h.offered, h.stepping, hopen⟩, id⟩
  | init free offered idle sized =>
    exact absurd (h.stepping.symm.trans idle) nofun
  | @response answer =>
    exact absurd (List.mem_singleton.2 rfl) (hsaid answer)
  | giveUp free stepping =>
    exact ⟨⟨h.offered, h.stepping, hopen⟩, fun _ => rfl⟩
  | @hear _ fs d k r unended accepted onward behind bounded =>
    cases fs with
    | nil =>
      cases accepted
      exact ⟨⟨h.offered, h.stepping, hopen⟩, id⟩
    | cons f fs => exact absurd (List.mem_cons_self ..) (hheard f)
  | take => exact ⟨⟨h.offered, h.stepping, hopen⟩, fun _ => rfl⟩
  | consume n => exact ⟨⟨h.offered, h.stepping, hopen⟩, id⟩
  | close => exact absurd rfl hk

/-- A challenge that is taken away at some point is gone at the end. -/
theorem Idling.after (h : c.Idling) (ht : c.Tidy)
    (hclose : ClientCall.close ∉ calls)
    (hheard : ∀ f, .heard f ∉ c.turns calls)
    (hsaid : ∀ data, .said (.response data) ∉ c.turns calls)
    (hgone : c.pending = none ∨ ∃ k ∈ calls, ClientCall.spares k = false) :
    (c.after calls).Idling ∧ (c.after calls).pending = none := by
  induction calls generalizing c with
  | nil =>
    rcases hgone with hp | ⟨k, hk, -⟩
    · exact ⟨h, hp⟩
    · cases hk
  | cons k calls ih =>
    rw [turns_cons] at hheard hsaid
    have hk : k ≠ .close := fun heq => hclose (heq ▸ List.mem_cons_self ..)
    have hclose' : ClientCall.close ∉ calls :=
      fun hmem => hclose (List.mem_cons_of_mem k hmem)
    obtain ⟨hidling, hpending⟩ := h.step (moves_step k c) hk
      (fun f hf => hheard f (List.mem_append_left _ hf))
      (fun data hd => hsaid data (List.mem_append_left _ hd))
    -- the challenge is gone by now, or the call that takes it is to come
    refine ih hidling (ht.step (moves_step k c)) hclose'
      (fun f hf => hheard f (List.mem_append_right _ hf))
      (fun data hd => hsaid data (List.mem_append_right _ hd)) ?_
    rcases hgone with hp | ⟨k', hk', hs⟩
    · exact .inl (hpending hp)
    · rcases List.mem_cons.1 hk' with rfl | hmem
      · exact .inl (pending_of_not_spares h ht hs)
      · exact .inr ⟨k', hmem, hs⟩

/-- An exchange with room for a reply takes note of any. -/
theorem accept_of_isReply (hw : c.awaitsServer = true) (hf : f.IsReply) :
    ∃ d, c.accept f = .ok d := by
  cases f with
  | mechanisms names => rcases hf with hf | hf <;> cases hf
  | init m r h => rcases hf with hf | hf <;> cases hf
  | challenge data => exact ⟨_, by rw [accept, if_pos hw]⟩
  | response data => rcases hf with hf | hf <;> cases hf
  | outcome code data => exact ⟨_, by rw [accept, if_pos hw]⟩

/-- Without a challenge that waits, a client takes note of the next reply. -/
theorem Idling.yields (h : c.Idling) (hs : c.Standing ts) (ht : c.Tidy)
    (hp : c.pending = none) : c.Yields := by
  intro bytes payload f hc hdec hf
  have hw : c.awaitsServer = true := awaitsServer_iff.2 ⟨h.stepping, hp⟩
  obtain ⟨rest, hnext⟩ := hc.next ht
  obtain ⟨c₁, ha⟩ : ∃ c₁, ((c.append bytes).placed (c.append bytes).connection
      ⟨none, rest⟩).accept f = .ok c₁ := accept_of_isReply hw hf
  have hnoted : c.noted bytes = f :: c₁.drained := by
    unfold noted
    rw [if_neg h.unended, if_pos (ht.headerDone h.offered h.unended)]
    exact drained_cons hnext hdec ha
  obtain ⟨d, k, r, hall, hfeed, -⟩ := feed_noted h.unended bytes
  -- the reply stands first among what is noted, so that is heard
  rcases hs.hears hall with ⟨hnil, -⟩ | ⟨g, hone, hg, -⟩
  · rw [hnoted] at hnil
    cases hnil
  · rw [hnoted] at hone
    obtain ⟨rfl, hrest⟩ := List.cons.inj hone
    refine ⟨by rw [hnoted, hrest], ?_⟩
    rw [hfeed]
    show d.exchange ≠ c.exchange
    exact exchange_ne_of_accept hg

-- =========================================================== the challenge

/-- A challenge that comes waits to be taken. -/
theorem Standing.waiting (h : c.Standing ts) {data : Bytes}
    (hcame : .challenge data ∈ c.noted bytes) : (c.feed bytes).2.Waiting := by
  have he : c.connection ≠ .ended := by
    intro he
    rw [noted, if_pos he] at hcame
    cases hcame
  obtain ⟨d, k, r, hall, hfeed, honward, -⟩ := feed_noted he bytes
  rcases h.hears hall with ⟨hnil, -⟩ | ⟨g, hone, hg, -⟩
  · rw [hnil] at hcame
    cases hcame
  · rw [hone, List.mem_singleton] at hcame
    subst hcame
    -- heard, the challenge found the client waiting for it
    rcases accept_inv hg with ⟨_, hf, -⟩ | ⟨_, -, hw, rfl⟩ | ⟨_, _, hf, -⟩
    · cases hf
    · have hstep := awaitsServer_iff.1 hw
      obtain ⟨names, _, _, _, _, -, hoffer, -⟩ := h.underWay_inv hstep.1
      rw [hfeed]
      exact ⟨⟨by simp [placed, hoffer], hstep.1, honward.unended he⟩,
        Option.some_ne_none _⟩
    · cases hf

end Challenges

/-- The guard of a challenge that has not been answered. It stands as long
as the calls behind the challenge leave it where it is. Taking it, or trying
to answer it, lifts the guard although nothing was answered: then the next
challenge or outcome is taken note of, unless one has been already. A client
that was closed meanwhile is not fed at all. -/
theorem challenge_guard_exact {before later : List ClientCall} {piece : Bytes}
    (h : Unanswered before piece later) :
    ((∀ k ∈ later, ClientCall.spares k = true) →
      (fresh.after (before ++ .feed piece :: later)).Guarded
      ∧ (fresh.after (before ++ .feed piece :: later)).stateName
        = "awaiting sasl-response")
    ∧ ((∃ k ∈ later, ClientCall.spares k = false) →
      ClientCall.close ∉ later →
      (∀ f, .heard f ∉
        (fresh.after (before ++ [.feed piece])).turns later) →
      (fresh.after (before ++ .feed piece :: later)).Yields)
    ∧ (ClientCall.close ∈ later → ∀ bytes,
      (fresh.after (before ++ .feed piece :: later)).feed bytes
        = (.error .closed, fresh.after (before ++ .feed piece :: later))) := by
  obtain ⟨⟨data, hcame⟩, hsaid⟩ := h
  have hstands := standing_after before
  have hwaiting := hstands.waiting hcame
  have hpiece : fresh.after (before ++ [.feed piece])
      = ((fresh.after before).feed piece).2 := by
    rw [after_append]
    rfl
  -- the challenge is heard last in `piece`, and `later` starts behind it
  have hafter : fresh.after (before ++ .feed piece :: later)
      = (fresh.after (before ++ [.feed piece])).after later := by
    rw [after_append, after_append]
    rfl
  rw [← hpiece] at hwaiting
  refine ⟨fun hspare => ?_, fun hgone hclose hheard => ?_,
    fun hclose bytes => ?_⟩
  · have hstill := hwaiting.after hspare
    rw [← hafter] at hstill
    refine ⟨hstill.guarded (tidy_after _), ?_⟩
    rw [stateName, hstill.stepping]
    exact if_pos (Option.isSome_iff_ne_none.2 hstill.waiting)
  · obtain ⟨hidling, hpending⟩ := hwaiting.toIdling.after (tidy_after _) hclose
      hheard hsaid (.inr hgone)
    rw [← hafter] at hidling hpending
    exact hidling.yields (standing_after _) (tidy_after _) hpending
  · have hended := (ended_after_iff hwaiting.unended later).2 hclose
    rw [← hafter] at hended
    rw [feed, if_pos hended]

end Client

-- ============================================================= a rehearsal

namespace Rehearsal

open Client

/-- The payload of a frame. -/
def payloadOf (f : Frame) : Bytes := f.encode.toOption.getD []

/-- A challenge, and calls behind it that say nothing. -/
theorem unanswered_chosen (later : List ClientCall)
    (hsilent : (fresh.after (chosen ++ [.feed (frames [.challenge [1]])])).turns
      later = []) :
    Unanswered chosen (frames [.challenge [1]]) later := by
  have hcame : (fresh.after chosen).noted (frames [.challenge [1]])
      = [.challenge [1]] := by
    decide +kernel
  refine ⟨⟨[1], by rw [hcame]; exact List.mem_singleton.2 rfl⟩, ?_⟩
  intro data hmem
  rw [hsilent] at hmem
  cases hmem

/-- A challenge that waits is guarded, and once it is taken it is not. -/
theorem challenge_guard_rehearsal :
    Unanswered chosen (frames [.challenge [1]]) [.consume 3]
    ∧ (fresh.after (chosen ++ .feed (frames [.challenge [1]])
        :: [.consume 3])).Guarded
    ∧ Unanswered chosen (frames [.challenge [1]]) [.takePending]
    ∧ (fresh.after (chosen ++ .feed (frames [.challenge [1]])
        :: [.takePending])).Yields := by
  have hspared := unanswered_chosen [.consume 3] (by decide +kernel)
  have htaken := unanswered_chosen [.takePending] (by decide +kernel)
  refine ⟨hspared, ?_, htaken, ?_⟩
  · exact ((challenge_guard_exact hspared).1 (by decide)).1
  · refine (challenge_guard_exact htaken).2.1 (by decide) (by decide) ?_
    have hsilent : (fresh.after
        (chosen ++ [.feed (frames [.challenge [1]])])).turns [.takePending]
      = [] := by decide +kernel
    rw [hsilent]
    exact nofun

/-- Not every challenge that has not been answered is guarded: once it has
been taken, the server may end the exchange without an answer. -/
theorem taken_challenge_is_overtaken :
    ¬ ∀ (before : List ClientCall) (piece : Bytes) (later : List ClientCall),
      Unanswered before piece later →
      (fresh.after (before ++ .feed piece :: later)).Guarded := by
  intro hall
  have hguarded := hall chosen (frames [.challenge [1]]) [.takePending]
    (unanswered_chosen _ (by decide +kernel))
  have hcompletes : (fresh.after (chosen ++ .feed (frames [.challenge [1]])
      :: [.takePending])).Completes (frames [.outcome .ok none])
      (payloadOf (.outcome .ok none)) := by
    refine ⟨frames [.outcome .ok none], [], ?_, ?_⟩
    · exact Sized.encode_eq_ok.2 ⟨by decide +kernel, by decide +kernel⟩
    · decide +kernel
  have hdecode : Frame.decode (payloadOf (.outcome .ok none))
      = .ok (.outcome .ok none) := Act.eq_ok_of_toOption (by decide +kernel)
  obtain ⟨-, hsame⟩ := hguarded _ _ _ hcompletes hdecode (.inr rfl)
  have hpassed : ((fresh.after (chosen ++ .feed (frames [.challenge [1]])
      :: [.takePending])).feed (frames [.outcome .ok none])).2.progress
      = .pass := by
    decide +kernel
  have hstep : ((fresh.after (chosen ++ .feed (frames [.challenge [1]])
      :: [.takePending])).feed (frames [.outcome .ok none])).2.progress
      = .step := congrArg (fun x => x.2.1) hsame |>.trans (by decide +kernel)
  rw [hpassed] at hstep
  cases hstep

end Rehearsal

end SaslGate
