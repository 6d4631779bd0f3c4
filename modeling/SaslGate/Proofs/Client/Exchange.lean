/-
The order of an exchange, whoever calls the client and however often a call
fails: the server's offer, the client's choice of a mechanism, challenges
and answers, an outcome, and nothing behind it.

# Where an exchange stands

`Standing` reads the client off the turns that were taken: what it holds of
the offer and of the outcome, and how far it counts the exchange, is what
the turns say. Each turn that is accepted moves on to the next stand
(`Standing.accept`), so every call does (`Standing.step`), and so does a run
(`standing_after`). The order of the turns (`Orderly`) is then a matter of
looking at the four stands, and nothing that was once announced is taken
back, because turns are only ever added.

Apart from the exchange a client keeps its connection and its buffers in
order (`Tidy`): no offer before the server's header, and nothing left to
send or to read once it is closed.
-/
import SaslGate.Proofs.Client.Calls

namespace SaslGate

/-- A turn between the client's choice and the outcome. -/
inductive Turn.IsRound : Turn → Prop
  | challenge (data : Bytes) : IsRound (.heard (.challenge data))
  | response (data : Bytes) : IsRound (.said (.response data))

/-- The turns of an exchange in their order, up to some point of it: of the
server one offer, then challenges, then one outcome; of the client one
choice, right behind the offer, and answers before the outcome. -/
def Orderly (turns : List Turn) : Prop :=
  ∃ names mechanism initialResponse hostname rounds code data,
    (∀ t ∈ rounds, Turn.IsRound t)
    ∧ turns <+: .heard (.mechanisms names)
        :: .said (.init mechanism initialResponse hostname)
        :: (rounds ++ [.heard (.outcome code data)])

/-- The ways on for an exchange, one call at a time. -/
inductive Progress.Leads : Progress → Progress → Prop
  | stay (p : Progress) : Leads p p
  | start : Leads .idle .step
  | pass : Leads .step .pass
  | fail : Leads .step .fail

namespace Client

-- ============================================================ the exchange

/-- What a client holds after the turns of an exchange. -/
inductive Standing (c : Client) : List Turn → Prop
  | silent (unoffered : c.mechanisms = none) (idle : c.progress = .idle)
      (settled : c.pending = none) (undecided : c.outcome = none) :
      Standing c []
  | offered {names : List String} (offer : c.mechanisms = some names)
      (idle : c.progress = .idle) (settled : c.pending = none)
      (undecided : c.outcome = none) :
      Standing c [.heard (.mechanisms names)]
  | underWay {names : List String} {mechanism : String}
      {initialResponse : Option Bytes} {hostname : Option String}
      {rounds : List Turn} (offer : c.mechanisms = some names)
      (stepping : c.progress = .step) (undecided : c.outcome = none)
      (orderly : ∀ t ∈ rounds, Turn.IsRound t) :
      Standing c (.heard (.mechanisms names)
        :: .said (.init mechanism initialResponse hostname) :: rounds)
  | concluded {names : List String} {mechanism : String}
      {initialResponse : Option Bytes} {hostname : Option String}
      {rounds : List Turn} {code : SaslCode} {data : Option Bytes}
      (offer : c.mechanisms = some names)
      (ended : c.progress = if code = .ok then .pass else .fail)
      (decided : c.outcome = some code)
      (orderly : ∀ t ∈ rounds, Turn.IsRound t) :
      Standing c (.heard (.mechanisms names)
        :: .said (.init mechanism initialResponse hostname)
        :: (rounds ++ [.heard (.outcome code data)]))

section Stands

variable {c c' d : Client} {ts us : List Turn} {f : Frame} {fs : List Frame}
  {k : ClientCall} {calls : List ClientCall}

theorem standing_fresh : fresh.Standing [] := .silent rfl rfl rfl rfl

/-- What is no turn moves no exchange; a challenge may be taken away. -/
theorem Standing.quiet (h : c.Standing ts)
    (mechanisms : c'.mechanisms = c.mechanisms)
    (progress : c'.progress = c.progress) (outcome : c'.outcome = c.outcome)
    (pending : c'.pending = c.pending ∨ c'.pending = none) :
    c'.Standing ts := by
  cases h with
  | silent unoffered idle settled undecided =>
    rw [settled, or_self] at pending
    exact .silent (mechanisms.trans unoffered) (progress.trans idle) pending
      (outcome.trans undecided)
  | offered offer idle settled undecided =>
    rw [settled, or_self] at pending
    exact .offered (mechanisms.trans offer) (progress.trans idle) pending
      (outcome.trans undecided)
  | underWay offer stepping undecided orderly =>
    exact .underWay (mechanisms.trans offer) (progress.trans stepping)
      (outcome.trans undecided) orderly
  | concluded offer ended decided orderly =>
    exact .concluded (mechanisms.trans offer) (progress.trans ended)
      (outcome.trans decided) orderly

/-- There is room for a frame of the server between the client's choice and
the outcome, unless a challenge waits to be taken. -/
theorem awaitsServer_iff :
    c.awaitsServer = true ↔ c.progress = .step ∧ c.pending = none := by
  simp [awaitsServer]

/-- A client that has counted an outcome counts on nothing more. -/
theorem ne_step_of_ended {code : SaslCode}
    (h : c.progress = if code = .ok then .pass else .fail) :
    c.progress ≠ .step ∧ c.progress ≠ .idle := by
  rw [h]
  split <;> exact ⟨by decide, by decide⟩

/-- A client in the middle of an exchange, by its progress. -/
theorem Standing.underWay_inv (h : c.Standing ts)
    (stepping : c.progress = .step) :
    ∃ names mechanism initialResponse hostname rounds,
      ts = .heard (.mechanisms names)
        :: .said (.init mechanism initialResponse hostname) :: rounds
      ∧ c.mechanisms = some names ∧ c.outcome = none
      ∧ ∀ t ∈ rounds, Turn.IsRound t := by
  cases h with
  | silent unoffered idle settled undecided =>
    rw [idle] at stepping
    cases stepping
  | offered offer idle settled undecided =>
    rw [idle] at stepping
    cases stepping
  | underWay offer _ undecided orderly =>
    exact ⟨_, _, _, _, _, rfl, offer, undecided, orderly⟩
  | concluded offer ended decided orderly =>
    exact absurd stepping (ne_step_of_ended ended).1

/-- A frame that a client takes note of is the next turn of the exchange. -/
theorem Standing.accept (h : c.Standing ts) (ha : c.accept f = .ok d) :
    d.Standing (ts ++ [.heard f]) := by
  rcases accept_inv ha with ⟨names, rfl, hm, rfl⟩ | ⟨data, rfl, hw, rfl⟩
    | ⟨code, data, rfl, hw, rfl⟩
  · cases h with
    | silent unoffered idle settled undecided =>
      exact .offered rfl idle settled undecided
    | offered offer => exact absurd (offer.symm.trans hm) (by simp)
    | underWay offer => exact absurd (offer.symm.trans hm) (by simp)
    | concluded offer => exact absurd (offer.symm.trans hm) (by simp)
  · have hstep := awaitsServer_iff.1 hw
    obtain ⟨names, m, r, host, rounds, rfl, hoffer, hout, hrounds⟩ :=
      h.underWay_inv hstep.1
    have hmore := List.forall_mem_append.2
      ⟨hrounds, List.forall_mem_singleton.2 (.challenge data)⟩
    exact .underWay hoffer hstep.1 hout hmore
  · have hstep := awaitsServer_iff.1 hw
    obtain ⟨names, m, r, host, rounds, rfl, hoffer, hout, hrounds⟩ :=
      h.underWay_inv hstep.1
    exact .concluded hoffer rfl rfl hrounds

/-- Each frame that is noted moves the exchange on by one turn. -/
theorem Standing.acceptAll (h : c.Standing ts) (ha : c.acceptAll fs = .ok d) :
    d.Standing (ts ++ fs.map .heard) := by
  induction fs generalizing c ts with
  | nil =>
    cases ha
    rw [List.map_nil, List.append_nil]
    exact h
  | cons f fs ih =>
    obtain ⟨c₁, hf, hrest⟩ := acceptAll_cons_inv ha
    have := ih (h.accept hf) hrest
    rwa [List.append_assoc] at this

/-- Every call moves the exchange on by the turns that it takes. -/
theorem Standing.step (h : c.Standing ts) (hm : Moves c k us c') :
    c'.Standing (ts ++ us) := by
  cases hm with
  | stay => rwa [List.append_nil]
  | greet unsent =>
    rw [List.append_nil]
    exact h.quiet rfl rfl rfl (.inl rfl)
  | giveUp free stepping =>
    rw [List.append_nil]
    exact h.quiet rfl rfl rfl (.inr rfl)
  | take =>
    rw [List.append_nil]
    exact h.quiet rfl rfl rfl (.inr rfl)
  | consume n =>
    rw [List.append_nil]
    exact h.quiet rfl rfl rfl (.inl rfl)
  | close unended =>
    rw [List.append_nil]
    exact h.quiet rfl rfl rfl (.inr rfl)
  | hear unended accepted onward behind bounded =>
    exact (h.acceptAll accepted).quiet rfl rfl rfl (.inl rfl)
  | @response answer _ free stepping sized =>
    obtain ⟨names, m, r, host, rounds, rfl, hoffer, hout, hrounds⟩ :=
      h.underWay_inv stepping
    have hmore := List.forall_mem_append.2
      ⟨hrounds, List.forall_mem_singleton.2 (.response answer)⟩
    exact .underWay hoffer stepping hout hmore
  | init free offered idle sized =>
    -- an init is free to go only while no mechanism has been picked
    cases h with
    | silent unoffered => exact absurd unoffered offered
    | offered offer _ settled undecided =>
      exact .underWay offer rfl undecided nofun
    | underWay offer stepping => exact absurd (stepping.symm.trans idle) nofun
    | concluded offer ended => exact absurd idle (ne_step_of_ended ended).2

/-- The turns of a run say where the exchange stands. -/
theorem Standing.after (h : c.Standing ts) (calls : List ClientCall) :
    (c.after calls).Standing (ts ++ c.turns calls) := by
  induction calls generalizing c ts with
  | nil => rwa [turns_nil, List.append_nil]
  | cons k calls ih =>
    rw [after_cons, turns_cons, ← List.append_assoc]
    exact ih (h.step (moves_step k c))

/-- So a run has come where its turns say. -/
theorem standing_after (calls : List ClientCall) :
    (fresh.after calls).Standing (fresh.turns calls) :=
  standing_fresh.after calls

-- ================================================== what the stands show

/-- The mechanisms that a client holds are those of the offer it heard. -/
theorem Standing.mechanisms_iff (h : c.Standing ts) {names : List String} :
    c.mechanisms = some names ↔ .heard (.mechanisms names) ∈ ts := by
  have apart : ∀ {rounds : List Turn}, (∀ t ∈ rounds, Turn.IsRound t) →
      Turn.heard (.mechanisms names) ∉ rounds := by
    intro rounds hr hmem
    cases hr _ hmem
  cases h with
  | silent unoffered => simp [unoffered]
  | offered offer => simp [offer, eq_comm]
  | underWay offer _ _ orderly => simp [offer, apart orderly, eq_comm]
  | concluded offer _ _ orderly => simp [offer, apart orderly, eq_comm]

/-- The outcome that a client holds is the one it heard. -/
theorem Standing.outcome_iff (h : c.Standing ts) {code : SaslCode} :
    c.outcome = some code ↔ ∃ data, .heard (.outcome code data) ∈ ts := by
  have apart : ∀ {rounds : List Turn} {data : Option Bytes},
      (∀ t ∈ rounds, Turn.IsRound t) →
      Turn.heard (.outcome code data) ∉ rounds := by
    intro rounds data hr hmem
    cases hr _ hmem
  cases h with
  | silent _ _ _ undecided => simp [undecided]
  | offered _ _ _ undecided => simp [undecided]
  | underWay _ _ undecided orderly => simp [undecided, apart orderly]
  | concluded _ _ decided orderly => simp [decided, apart orderly, eq_comm]

/-- The turns that were taken are in order. -/
theorem Standing.turns_orderly (h : c.Standing ts) : Orderly ts := by
  cases h with
  | silent => exact ⟨[], "", none, none, [], .ok, none, nofun, List.nil_prefix⟩
  | @offered names =>
    refine ⟨names, "", none, none, [], .ok, none, nofun, ?_⟩
    exact List.cons_prefix_cons.2 ⟨rfl, List.nil_prefix⟩
  | underWay _ _ _ orderly =>
    exact ⟨_, _, _, _, _, .ok, none, orderly, List.cons_prefix_cons.2
      ⟨rfl, List.cons_prefix_cons.2 ⟨rfl, List.prefix_append _ _⟩⟩⟩
  | concluded _ _ _ orderly =>
    exact ⟨_, _, _, _, _, _, _, orderly, List.prefix_rfl⟩

/-- An exchange hears at most one frame before its owner has to do
something, and is deaf from then on. -/
theorem Standing.hears (h : c.Standing ts) (ha : c.acceptAll fs = .ok d) :
    (fs = [] ∧ d = c) ∨ ∃ f, fs = [f] ∧ c.accept f = .ok d ∧ d.Deaf := by
  cases fs with
  | nil =>
    cases ha
    exact .inl ⟨rfl, rfl⟩
  | cons f fs =>
    obtain ⟨c₁, hf, hrest⟩ := acceptAll_cons_inv ha
    have hdeaf : c₁.Deaf := by
      rcases accept_inv hf with ⟨names, rfl, hm, rfl⟩ | ⟨data, rfl, hw, rfl⟩
        | ⟨code, data, rfl, hw, rfl⟩
      · -- An offer that is new finds the exchange before its start.
        refine ⟨Option.some_ne_none names, ?_⟩
        cases h with
        | silent _ idle => simp [awaitsServer, idle]
        | offered offer => exact absurd (offer.symm.trans hm) (by simp)
        | underWay offer => exact absurd (offer.symm.trans hm) (by simp)
        | concluded offer => exact absurd (offer.symm.trans hm) (by simp)
      · have hstep := awaitsServer_iff.1 hw
        obtain ⟨names, _, _, _, _, -, hoffer, -, -⟩ := h.underWay_inv hstep.1
        exact ⟨by simp [hoffer], by simp [awaitsServer]⟩
      · have hstep := awaitsServer_iff.1 hw
        obtain ⟨names, _, _, _, _, -, hoffer, -, -⟩ := h.underWay_inv hstep.1
        refine ⟨by simp [hoffer], ?_⟩
        by_cases hc : code = .ok <;> simp [awaitsServer, hc]
    obtain ⟨rfl, rfl⟩ := hdeaf.eq_nil hrest
    exact .inr ⟨f, rfl, hf, hdeaf⟩

/-- One call leads the exchange at most one stage on. -/
theorem Standing.leads (h : c.Standing ts) (hm : Moves c k us c') :
    c.progress.Leads c'.progress := by
  cases hm with
  | init free offered idle sized =>
    rw [idle]
    exact .start
  | hear unended accepted onward behind bounded =>
    rcases h.hears accepted with ⟨-, rfl⟩ | ⟨f, -, hf, -⟩
    · exact .stay _
    · rcases accept_inv hf with ⟨names, rfl, -, rfl⟩ | ⟨data, rfl, -, rfl⟩
        | ⟨code, data, rfl, hw, rfl⟩
      · exact .stay _
      · exact .stay _
      · have hstep := awaitsServer_iff.1 hw
        rw [hstep.1]
        by_cases hc : code = .ok
        · simpa [placed, hc] using Progress.Leads.pass
        · simpa [placed, hc] using Progress.Leads.fail
  | _ => exact .stay _

-- ========================================================== the connection

/-- A client that keeps its connection and its buffers in order. -/
structure Tidy (c : Client) : Prop where
  bounded : c.reader.Bounded maxFrameSize
  unoffered : c.connection = .start ∨ c.connection = .headerSent →
    c.mechanisms = none
  emptied : c.connection = .ended →
    c.outbound = [] ∧ c.reader.buffer = [] ∧ c.pending = none

theorem tidy_fresh : fresh.Tidy := ⟨nofun, fun _ => rfl, nofun⟩

/-- A client that may queue frames is neither at its start nor closed. -/
theorem open_of_free (h : c.sendingBlocked = none) :
    c.connection ≠ .start ∧ c.connection ≠ .ended := by
  unfold sendingBlocked at h
  constructor <;> intro hk <;> rw [hk] at h <;> cases h

/-- Every call keeps a client in order. -/
theorem Tidy.step (h : c.Tidy) (hm : Moves c k us c') : c'.Tidy := by
  cases hm with
  | stay => exact h
  | greet unsent =>
    refine ⟨h.bounded, ?_, ?_⟩
    · intro hk
      rcases unsent with ⟨hstart, rfl⟩ | ⟨-, rfl⟩
      · exact h.unoffered (.inl hstart)
      · rcases hk with hk | hk <;> cases hk
    · intro hk
      rcases unsent with ⟨-, rfl⟩ | ⟨-, rfl⟩ <;> cases hk
  | init free offered idle sized =>
    exact ⟨h.bounded, h.unoffered, fun hk => absurd hk (open_of_free free).2⟩
  | response free stepping sized =>
    exact ⟨h.bounded, h.unoffered, fun hk => absurd hk (open_of_free free).2⟩
  | giveUp free stepping =>
    exact ⟨h.bounded, h.unoffered, fun hk => absurd hk (open_of_free free).2⟩
  | hear unended accepted onward behind bounded =>
    refine ⟨bounded h.bounded, ?_, ?_⟩
    · intro hk
      rcases behind with rfl | rfl | rfl
      · -- No frame came, and the header that came leads elsewhere.
        cases accepted
        rcases onward.eq_or with rfl | rfl | rfl
        · exact h.unoffered hk
        · rcases hk with hk | hk <;> cases hk
        · rcases hk with hk | hk <;> cases hk
      · rcases hk with hk | hk <;> cases hk
      · rcases hk with hk | hk <;> cases hk
    · intro hk
      rcases onward.eq_or with rfl | rfl | rfl
      · exact absurd hk unended
      · cases hk
      · cases hk
  | take =>
    refine ⟨h.bounded, h.unoffered, fun hk => ?_⟩
    obtain ⟨hout, hbuffer, -⟩ := h.emptied hk
    exact ⟨hout, hbuffer, rfl⟩
  | consume n =>
    refine ⟨h.bounded, h.unoffered, fun hk => ?_⟩
    obtain ⟨hout, hbuffer, hpending⟩ := h.emptied hk
    refine ⟨?_, hbuffer, hpending⟩
    show c.outbound.drop n = []
    rw [hout, List.drop_nil]
  | close unended =>
    refine ⟨h.bounded, ?_, fun _ => ⟨rfl, rfl, rfl⟩⟩
    rintro (hk | hk) <;> cases hk

/-- Order is kept by any number of calls, failing ones included. -/
theorem Tidy.after (h : c.Tidy) (calls : List ClientCall) :
    (c.after calls).Tidy :=
  after_keeps h fun _ _ _ _ _ hm ht => ht.step hm

/-- So every client that was only ever called is in order. -/
theorem tidy_after (calls : List ClientCall) : (fresh.after calls).Tidy :=
  tidy_fresh.after calls

/-- A client that is closed stays closed. -/
theorem ended_step (he : c.connection = .ended) (hm : Moves c k us c') :
    c'.connection = .ended := by
  cases hm with
  | greet unsent =>
    rcases unsent with ⟨hk, -⟩ | ⟨hk, -⟩ <;> rw [he] at hk <;> cases hk
  | hear unended => exact absurd he unended
  | close => rfl
  | _ => exact he

theorem ended_after (he : c.connection = .ended) (calls : List ClientCall) :
    (c.after calls).connection = .ended :=
  after_keeps he fun _ _ _ _ _ hm he => ended_step he hm

/-- Nothing but closing closes a client. -/
theorem unended_step (he : c.connection ≠ .ended) (hk : k ≠ .close)
    (hm : Moves c k us c') : c'.connection ≠ .ended := by
  cases hm with
  | greet unsent => rcases unsent with ⟨-, rfl⟩ | ⟨-, rfl⟩ <;> nofun
  | hear unended accepted onward => exact onward.unended he
  | close => exact absurd rfl hk
  | _ => exact he

/-- A client is closed by being closed, at any time. -/
theorem ended_after_iff (he : c.connection ≠ .ended)
    (calls : List ClientCall) :
    (c.after calls).connection = .ended ↔ ClientCall.close ∈ calls := by
  induction calls generalizing c with
  | nil => exact iff_of_false he nofun
  | cons k calls ih =>
    by_cases hk : k = .close
    · subst hk
      refine iff_of_true (ended_after ?_ calls) (List.mem_cons_self ..)
      show c.close.connection = .ended
      rw [close, if_neg he]
    · rw [after_cons, ih (unended_step he hk (moves_step k c)),
        List.mem_cons, or_iff_right (Ne.symm hk)]

end Stands

-- =========================================================== every run

/-- A client whose fields agree with each other. -/
structure Sound (c : Client) : Prop where
  /-- There is no offer before the server's header. -/
  unoffered : c.connection = .start ∨ c.connection = .headerSent →
    c.mechanisms = none
  /-- The client chooses from an offer. -/
  offered : c.progress ≠ .idle → c.mechanisms ≠ none
  idle : c.progress = .idle → c.pending = none ∧ c.outcome = none
  stepping : c.progress = .step → c.outcome = none
  passed : c.progress = .pass ↔ c.outcome = some .ok
  failed : c.progress = .fail ↔ ∃ code, code ≠ .ok ∧ c.outcome = some code
  emptied : c.connection = .ended →
    c.outbound = [] ∧ c.reader.buffer = [] ∧ c.pending = none

/-- What a client was told and does not take back. -/
structure Extends (c c' : Client) : Prop where
  mechanisms : ∀ names, c.mechanisms = some names → c'.mechanisms = some names
  outcome : ∀ code, c.outcome = some code → c'.outcome = some code

/-- The fields of a client agree with each other wherever its exchange
stands. -/
theorem Standing.sound {c : Client} {ts : List Turn} (h : c.Standing ts)
    (ht : c.Tidy) : c.Sound := by
  cases h with
  | silent unoffered idle settled undecided =>
    refine ⟨ht.unoffered, ?_, fun _ => ⟨settled, undecided⟩, ?_, ?_, ?_,
      ht.emptied⟩ <;> simp [idle, undecided]
  | offered offer idle settled undecided =>
    refine ⟨ht.unoffered, ?_, fun _ => ⟨settled, undecided⟩, ?_, ?_, ?_,
      ht.emptied⟩ <;> simp [idle, undecided]
  | underWay offer stepping undecided orderly =>
    refine ⟨ht.unoffered, ?_, ?_, fun _ => undecided, ?_, ?_, ht.emptied⟩ <;>
      simp [stepping, undecided, offer]
  | @concluded _ _ _ _ _ code _ offer ended decided orderly =>
    obtain ⟨hstep, hidle⟩ := ne_step_of_ended ended
    refine ⟨ht.unoffered, fun _ => by simp [offer], fun hi => absurd hi hidle,
      fun hs => absurd hs hstep, ?_, ?_, ht.emptied⟩ <;>
      by_cases hc : code = .ok <;> simp [ended, decided, hc]

/-- The order of an exchange holds in every run, calls that fail included.
The fields of the client agree with each other, and with the turns that were
taken; a client is closed once it has been closed, and empty from then on; the
offer and the outcome stay what they are once they are known; a call leads
from no choice to negotiation, or from there to an end, and nowhere else; and
the turns are in order. -/
theorem exchange_in_order (calls : List ClientCall) :
    (fresh.after calls).Sound
    ∧ (fresh.after calls).Standing (fresh.turns calls)
    ∧ ((fresh.after calls).connection = .ended ↔ ClientCall.close ∈ calls)
    ∧ (∀ more, Extends (fresh.after calls) (fresh.after (calls ++ more)))
    ∧ (∀ k : ClientCall, (fresh.after calls).progress.Leads
        (fresh.after (calls ++ [k])).progress)
    ∧ Orderly (fresh.turns calls) := by
  have hstands := standing_after calls
  refine ⟨hstands.sound (tidy_after calls), hstands,
    ended_after_iff (by decide) calls, fun more => ?_, fun k => ?_,
    hstands.turns_orderly⟩
  · have hmore := standing_after (calls ++ more)
    rw [turns_append] at hmore
    refine ⟨fun names hnames => ?_, fun code hcode => ?_⟩
    · exact hmore.mechanisms_iff.2
        (List.mem_append_left _ (hstands.mechanisms_iff.1 hnames))
    · obtain ⟨data, hdata⟩ := hstands.outcome_iff.1 hcode
      exact hmore.outcome_iff.2 ⟨data, List.mem_append_left _ hdata⟩
  · rw [after_append]
    exact hstands.leads (moves_step k (fresh.after calls))

end Client

end SaslGate
