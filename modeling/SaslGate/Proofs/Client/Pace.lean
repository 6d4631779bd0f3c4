/-
One frame at a time: while its owner neither chooses nor answers nor takes
anything, a client takes note of at most one frame, whatever arrives, in
whatever pieces, and however many frames it has refused in between.

The first frame that a client takes note of leaves it deaf
(`Standing.hears`), and a deaf client stays deaf under all calls that leave
the exchange to the server (`Deaf.after`). What such a client still does
with its bytes is in `Deaf.feed_frame`: the next frame that is complete is
refused, by its name and by what the client waits for.
-/
import SaslGate.Proofs.Client.Exchange
import SaslGate.Proofs.Client.Listening
import SaslGate.Rehearsal.Scene

namespace SaslGate

-- ============================================================== the client

/-- The calls that leave an exchange to the server. -/
def ClientCall.waits : ClientCall → Bool
  | sendHeader | feed _ | consume _ => true
  | _ => false

namespace Client

/-- All that a frame can change: the offer, the progress, what waits to be
taken, and the outcome. -/
def exchange (c : Client) :
    Option (List String) × Progress × Option Bytes × Option SaslCode :=
  (c.mechanisms, c.progress, c.pending, c.outcome)

/-- With these bytes at the end, a whole payload is at the front of what the
client has not worked off. -/
def Completes (c : Client) (bytes payload : Bytes) : Prop :=
  ∃ head rest, Sized.encode maxFrameSize payload = .ok head
    ∧ c.reader.unread ++ bytes = head ++ rest

section Paces

variable {c c' d : Client} {ts us : List Turn} {f : Frame} {fs : List Frame}
  {k : ClientCall} {calls : List ClientCall} {bytes payload : Bytes}

/-- A frame that a client takes note of shows. -/
theorem exchange_ne_of_accept (h : c.accept f = .ok d) :
    d.exchange ≠ c.exchange := by
  intro heq
  simp only [exchange, Prod.mk.injEq] at heq
  obtain ⟨hm, hp, hpending, -⟩ := heq
  -- each kind of frame shows in a place of its own
  rcases accept_inv h with ⟨names, rfl, hnone, rfl⟩ | ⟨data, rfl, hw, rfl⟩
    | ⟨code, data, rfl, hw, rfl⟩
  · rw [hnone] at hm
    cases hm
  · have hstep := awaitsServer_iff.1 hw
    rw [hstep.2] at hpending
    cases hpending
  · have hstep := awaitsServer_iff.1 hw
    rw [hstep.1] at hp
    by_cases hc : code = .ok <;> simp [hc] at hp

/-- While the exchange is left to the server, frames alone move it. -/
theorem Moves.waits (h : Moves c k us c') (hk : k.waits = true) :
    ∃ fs d, us = fs.map .heard ∧ c.acceptAll fs = .ok d
      ∧ c'.exchange = d.exchange := by
  cases h with
  | stay => exact ⟨[], c, rfl, rfl, rfl⟩
  | greet unsent => exact ⟨[], c, rfl, rfl, rfl⟩
  | hear unended accepted onward behind bounded =>
    exact ⟨_, _, rfl, accepted, rfl⟩
  | consume n => exact ⟨[], c, rfl, rfl, rfl⟩
  | init => cases hk
  | response => cases hk
  | giveUp => cases hk
  | take => cases hk
  | close => cases hk

-- ================================================================ deafness

/-- Deafness is a matter of the exchange. -/
theorem Deaf.congr (h : c.Deaf) (heq : c'.exchange = c.exchange) :
    c'.Deaf := by
  simp only [exchange, Prod.mk.injEq] at heq
  obtain ⟨hm, hp, hpending, -⟩ := heq
  obtain ⟨hoffered, hdeaf⟩ := h
  refine ⟨hm ▸ hoffered, ?_⟩
  rw [awaitsServer, hp, hpending]
  exact hdeaf

/-- A deaf client hears nothing while the exchange is left to the server. -/
theorem Deaf.after (h : c.Deaf)
    (hwait : ∀ k ∈ calls, ClientCall.waits k = true) :
    c.turns calls = [] ∧ (c.after calls).exchange = c.exchange := by
  induction calls generalizing c with
  | nil => exact ⟨rfl, rfl⟩
  | cons k calls ih =>
    obtain ⟨fs, d, hturns, hall, hsame⟩ :=
      Moves.waits (moves_step k c) (hwait k (List.mem_cons_self ..))
    obtain ⟨rfl, rfl⟩ := h.eq_nil hall
    obtain ⟨hrest, hafter⟩ := ih (h.congr hsame)
      fun k hk => hwait k (List.mem_cons_of_mem _ hk)
    rw [turns_cons, hturns, hrest, after_cons, hafter]
    exact ⟨rfl, hsame⟩

/-- What a client hears while the exchange is left to the server: nothing,
or one frame and nothing behind it. -/
theorem Standing.hears_once (h : c.Standing ts)
    (hwait : ∀ k ∈ calls, ClientCall.waits k = true) :
    (c.turns calls = [] ∧ (c.after calls).exchange = c.exchange)
    ∨ ∃ f, c.turns calls = [.heard f]
        ∧ (c.after calls).exchange ≠ c.exchange := by
  induction calls generalizing c ts with
  | nil => exact .inl ⟨rfl, rfl⟩
  | cons k calls ih =>
    obtain ⟨fs, d, hturns, hall, hsame⟩ :=
      Moves.waits (moves_step k c) (hwait k (List.mem_cons_self ..))
    have hmore : ∀ k ∈ calls, ClientCall.waits k = true :=
      fun k hk => hwait k (List.mem_cons_of_mem _ hk)
    rw [turns_cons, after_cons, hturns]
    -- nothing yet, and the rest may bring a frame; or the one frame, and the
    -- rest is silent
    rcases h.hears hall with ⟨rfl, rfl⟩ | ⟨f, rfl, hf, hdeaf⟩
    · rw [← hsame]
      exact ih (h.step (moves_step k _)) hmore
    · obtain ⟨hrest, hafter⟩ := Deaf.after (hdeaf.congr hsame) hmore
      refine .inr ⟨f, by rw [hrest]; rfl, ?_⟩
      rw [hafter, hsame]
      exact exchange_ne_of_accept hf

/-- A client with something to be taken, or with an outcome, is deaf. -/
theorem Standing.deaf (h : c.Standing ts)
    (hbusy : c.pending ≠ none ∨ c.outcome ≠ none) : c.Deaf := by
  cases h with
  | silent _ _ settled undecided =>
    rcases hbusy with hb | hb
    · exact absurd settled hb
    · exact absurd undecided hb
  | offered _ _ settled undecided =>
    rcases hbusy with hb | hb
    · exact absurd settled hb
    · exact absurd undecided hb
  | underWay offer stepping undecided orderly =>
    rcases hbusy with hb | hb
    · refine ⟨by simp [offer], ?_⟩
      simp [awaitsServer, hb]
    · exact absurd undecided hb
  | concluded offer ended decided orderly =>
    refine ⟨by simp [offer], ?_⟩
    simp [awaitsServer, (ne_step_of_ended ended).1]

-- ============================================================== refusals

/-- A deaf client refuses every frame. -/
theorem Deaf.refuses (h : c.Deaf) (f : Frame) :
    c.accept f = .error (.unexpectedFrame f.performative.name c.stateName) := by
  obtain ⟨hm, hw⟩ := h
  have hsome : c.mechanisms.isSome = true := Option.isSome_iff_ne_none.2 hm
  cases f with
  | mechanisms names => simp [accept, hsome]
  | challenge data => simp [accept, hw]
  | outcome code data => simp [accept, hw]
  | init mechanism initialResponse hostname => rfl
  | response data => rfl

/-- A client that has heard an offer is past the header, or closed. -/
theorem Tidy.headerDone (h : c.Tidy) (hm : c.mechanisms ≠ none)
    (he : c.connection ≠ .ended) : c.headerDone = true := by
  have hstart : ¬(c.connection = .start ∨ c.connection = .headerSent) :=
    fun hk => hm (h.unoffered hk)
  cases hk : c.connection <;> simp_all [Client.headerDone]

/-- A client past the header works off the payload that is complete first. -/
theorem Completes.next (h : c.Completes bytes payload) (ht : c.Tidy) :
    ∃ rest, (c.append bytes).reader.next maxFrameSize
      = (.ok (some payload), ⟨none, rest⟩) := by
  obtain ⟨head, rest, hsized, hunread⟩ := h
  refine ⟨rest, ?_⟩
  rw [← Sized.Reader.unread_append] at hunread
  exact Sized.Reader.next_of_unread ht.bounded (by decide) hsized hunread

/-- A deaf client that is fed the end of a frame fails, and if the frame can
be read, the error names it. -/
theorem Deaf.feed_frame (h : c.Deaf) (ht : c.Tidy)
    (he : c.connection ≠ .ended) (hc : c.Completes bytes payload) :
    ∃ e r, c.feed bytes = (.error e, c.placed c.connection r)
      ∧ ∀ f, Frame.decode payload = .ok f →
        e = .unexpectedFrame f.performative.name c.stateName := by
  obtain ⟨rest, hnext⟩ := hc.next ht
  rw [feed_of_headerDone (ht.headerDone h.1 he)]
  cases hdec : Frame.decode payload with
  | error e =>
    have hreceive : (c.placed c.connection ⟨none, rest⟩).receive payload
        = .error (.frame e) := by
      rw [receive, hdec]
    refine ⟨.frame e, ⟨none, rest⟩, ?_, fun f hf => ?_⟩
    · exact drain_of_refused (c := c.append bytes) hnext hreceive
    · cases hf
  | ok f =>
    have hreceive : (c.placed c.connection ⟨none, rest⟩).receive payload
        = .error (.unexpectedFrame f.performative.name c.stateName) := by
      rw [receive, hdec]
      exact Deaf.refuses (c := c.placed c.connection ⟨none, rest⟩) h f
    refine ⟨_, ⟨none, rest⟩,
      drain_of_refused (c := c.append bytes) hnext hreceive, ?_⟩
    intro g hg
    cases hg
    rfl

end Paces

-- =========================================================== every run

/-- No frame overtakes the owner of a client. From any point of any run, and
as long as the exchange is left to the server, at most one frame is heard,
and only a frame that is heard changes the exchange. If there is something
to be taken, or an outcome, nothing is heard, the exchange stays as it is,
and the next feed that brings a frame to its end fails. -/
theorem one_frame_at_a_time (calls waiting : List ClientCall)
    (hwait : ∀ k ∈ waiting, ClientCall.waits k = true) :
    (∃ fs : List Frame, fs.length ≤ 1
      ∧ (fresh.after calls).turns waiting = fs.map .heard)
    ∧ ((fresh.after (calls ++ waiting)).exchange
        = (fresh.after calls).exchange
      ↔ (fresh.after calls).turns waiting = [])
    ∧ ((fresh.after calls).pending ≠ none
        ∨ (fresh.after calls).outcome ≠ none →
      (fresh.after calls).turns waiting = []
      ∧ (fresh.after (calls ++ waiting)).exchange
        = (fresh.after calls).exchange
      ∧ ∀ bytes payload,
        (fresh.after (calls ++ waiting)).Completes bytes payload →
        ∃ e, ((fresh.after (calls ++ waiting)).feed bytes).1 = .error e) := by
  have hstands := standing_after calls
  rw [after_append]
  refine ⟨?_, ?_, fun hbusy => ?_⟩
  · rcases hstands.hears_once hwait with ⟨hturns, -⟩ | ⟨f, hturns, -⟩
    · exact ⟨[], Nat.zero_le 1, hturns⟩
    · exact ⟨[f], Nat.le_refl 1, hturns⟩
  · rcases hstands.hears_once hwait with ⟨hturns, hsame⟩ | ⟨f, hturns, hne⟩
    · exact iff_of_true hsame hturns
    · exact iff_of_false hne (by simp [hturns])
  · have hdeaf := hstands.deaf hbusy
    obtain ⟨hturns, hsame⟩ := hdeaf.after hwait
    refine ⟨hturns, hsame, fun bytes payload hc => ?_⟩
    -- closed among the calls in between, or deaf to the frame
    by_cases he : ((fresh.after calls).after waiting).connection = .ended
    · exact ⟨.closed, by rw [feed, if_pos he]⟩
    · obtain ⟨e, r, hfeed, -⟩ := Deaf.feed_frame (hdeaf.congr hsame)
        ((tidy_after calls).after waiting) he hc
      exact ⟨e, by rw [hfeed]⟩

end Client

-- ============================================================= a rehearsal

namespace Rehearsal

open Client

/-- A client that has chosen a mechanism. -/
def chosen : List ClientCall :=
  [.sendHeader, .feed (Header.sasl.encode ++ frames [.mechanisms ["PLAIN"]]),
    .sendInit "PLAIN" none [0, 117, 0, 112]]

/-- An outcome and another challenge, on top of a challenge that waits. -/
theorem one_frame_rehearsal :
    (∀ k ∈ [ClientCall.feed (frames [.outcome .ok (some [2])]),
        .feed (frames [.challenge [3]])], ClientCall.waits k = true)
    ∧ (fresh.after (chosen ++ [.feed (frames [.challenge [1]])])).pending
      = some [1]
    ∧ (fresh.after (chosen ++ [.feed (frames [.challenge [1]])]
        ++ [.feed (frames [.outcome .ok (some [2])]),
          .feed (frames [.challenge [3]])])).exchange
      = (some ["PLAIN"], .step, some [1], none) := by
  have hwait : ∀ k ∈ [ClientCall.feed (frames [.outcome .ok (some [2])]),
      .feed (frames [.challenge [3]])], ClientCall.waits k = true := by
    intro k hk
    rcases List.mem_cons.1 hk with rfl | hk
    · rfl
    · rw [List.mem_singleton.1 hk]
      rfl
  have hpending : (fresh.after
      (chosen ++ [.feed (frames [.challenge [1]])])).pending = some [1] := by
    decide +kernel
  refine ⟨hwait, hpending, ?_⟩
  obtain ⟨-, -, hbusy⟩ := one_frame_at_a_time
    (chosen ++ [.feed (frames [.challenge [1]])]) _ hwait
  rw [(hbusy (.inl (by rw [hpending]; nofun))).2.1]
  decide +kernel

end Rehearsal

end SaslGate
