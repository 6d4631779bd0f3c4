/-
What a relayed session writes to its socket, and when. The bytes that the
socket took are the front of the header and of whole frames behind it; which
frames these are is up to the client's messages (`Session.MaySay`). There is no
response without a challenge. And nobody reads while there is anything left to
be written.

# How the engine comes in

A trace does not show what is queued, so it is shown beside a client at work
(`AtWork`): the same that a session holds, while it holds one. That the client
listens whenever the socket is read does not leave it to chance what was queued
before. An offer that was heard has been chosen from, and every challenge that
was heard has been answered (`Client.Listens`), so a frame that is due can be
neither missing before a read nor cut short.
-/
import SaslGate.Proofs.Session.Custody

namespace SaslGate

open Turn (frames)
open SocketEvent (sent)
open Event (calls)

/-- The calls on a socket show a client that keeps to the discipline of
writing. -/
structure Disciplined (us : List Turn) (v : List SocketEvent) : Prop where
  /-- What was written is the front of the header and of whole frames. -/
  written : ∃ raw, Utters (frames us) raw
    ∧ sent v <+: Header.sasl.encode ++ raw
  /-- Each frame is small enough, with its size. -/
  bounded : ∀ f ∈ frames us, ∃ bytes, Client.sized f = .ok bytes
    ∧ bytes.length ≤ Client.maxFrameSize
  /-- Every response answers a challenge. -/
  answering : Turn.Answering us
  /-- Before every read all is written that the client has said by then. -/
  drained : ∀ before answer, before ++ [.read answer] <+: v →
    ∃ c₁ us₁, us₁ <+: us ∧ AtWork c₁ us₁ before ∧ c₁.Listens us₁
      ∧ ∃ raw, Utters (frames us₁) raw
        ∧ sent before = Header.sasl.encode ++ raw

-- ================================================================ frames

/-- Each frame that was sent fits in its size. -/
theorem Utters.sized {fs : List Frame} {bytes : Bytes} (h : Utters fs bytes)
    {f : Frame} (hf : f ∈ fs) : ∃ head, Client.sized f = .ok head := by
  induction h with
  | nil => cases hf
  | @cons g gs head rest sized tail ih =>
    rcases List.mem_cons.1 hf with rfl | hmem
    · exact ⟨head, sized⟩
    · exact ih hmem

/-- No frame is longer than the limit allows. -/
theorem Client.length_sized {f : Frame} {bytes : Bytes}
    (h : Client.sized f = .ok bytes) :
    bytes.length ≤ Client.maxFrameSize := by
  obtain ⟨body, hlen, rfl⟩ := Client.sized_inv h
  rw [List.length_append, length_bigEndian32]
  omega

-- ================================================================= traces

namespace AtWork

variable {c : Client} {us : List Turn} {u : List SocketEvent}

/-- Once all is sent, what was written are whole frames. -/
theorem sent_of_listens (h : AtWork c us u) (listens : c.Listens us) :
    ∃ raw, Utters (frames us) raw ∧ sent u = Header.sasl.encode ++ raw := by
  obtain ⟨raw, hrequests, hsent⟩ := h.account
  rw [listens.drained, List.append_nil] at hsent
  exact ⟨raw, hrequests.utters, hsent⟩

/-- What is written at work is written in order. Each part is known of all work,
by induction on it, and is put together here. -/
theorem disciplined (h : AtWork c us u) : Disciplined us u := by
  obtain ⟨raw, hrequests, hsent⟩ := h.account
  refine ⟨⟨raw, hrequests.utters, c.outbound, hsent⟩, ?_, h.answering, ?_⟩
  · intro f hf
    obtain ⟨bytes, hsized⟩ := hrequests.utters.sized hf
    exact ⟨bytes, hsized, Client.length_sized hsized⟩
  · intro before answer hread
    obtain ⟨c₁, us₁, hfront, hwork, hlistens⟩ := h.before_read hread
    exact ⟨c₁, us₁, hfront, hwork, hlistens,
      hwork.sent_of_listens hlistens⟩

end AtWork

/-- Shutting the socket down writes nothing, and nothing is read then. -/
theorem Disciplined.shutdown {us : List Turn} {u : List SocketEvent}
    (h : Disciplined us u) (answer : Except IoKind Unit) :
    Disciplined us (u ++ [.shutdown answer]) := by
  refine ⟨?_, h.bounded, h.answering, ?_⟩
  · obtain ⟨raw, hutters, hfront⟩ := h.written
    refine ⟨raw, hutters, ?_⟩
    rw [SocketEvent.sent_append]
    simpa [sent, SocketEvent.written] using hfront
  · intro before answer' hread
    rcases List.prefix_concat_iff.1 hread with hlast | hfront
    · cases (List.append_inj' hlast rfl).2
    · exact h.drained before answer' hfront

-- ========================================================== whole sessions

section Courses

variable {κ δ σ γ : Type} [Connector κ σ] [Wire σ] [DirectoryService δ γ]
  [DirectoryConnection γ] {config : RemoteConfig} {start s : Session σ γ}
  {calls : List HostCall} {t : List Event}

/-- Whatever a host asks of a session, and whatever its peers do: the calls on
its socket, if there are any, are those of one client that keeps to the
discipline of writing, with at most the shutdown behind them. Its frames are
those that the session may say after the client's messages, and if the session
still holds a link, the client is the one at work on it. -/
theorem writes_disciplined (begins : start.Begins config)
    (course : Course κ δ start calls t s) :
    Event.calls t = [] ∨ ∃ c us u, AtWork c us u
      ∧ (Event.calls t = u ∨ ∃ answer, Event.calls t = u ++ [.shutdown answer])
      ∧ Disciplined us (Event.calls t)
      ∧ start.MaySay (messages calls) (frames us)
      ∧ ∀ k, s.link? = some k →
        k.line.map Line.engine = some c ∧ Event.calls t = u := by
  have hcustody := (Session.tended_of_course begins course).custody
  generalize s.link? = link at hcustody ⊢
  cases hcustody with
  | unopened => exact .inl rfl
  | refused kind => exact .inl rfl
  | @held k t known =>
    -- still held: the client on the line is the one at work
    obtain ⟨l, u, hl, ⟨us, hwork, htold⟩, rfl⟩ := known
    refine .inr ⟨l.engine, us, u, hwork, ?_⟩
    rw [Link.calls_opened]
    refine ⟨.inl rfl, hwork.disciplined, htold, ?_⟩
    intro k' hk
    cases hk
    exact ⟨congrArg (Option.map Line.engine) hl, rfl⟩
  | @closed id c us u work told answer =>
    have hcalls : Event.calls (Link.opened config id u
        ++ [.socket id (.shutdown answer), .engineClosed id])
        = u ++ [.shutdown answer] := by
      rw [Event.calls_append, Link.calls_opened]
      rfl
    refine .inr ⟨c, us, u, work, ?_⟩
    rw [hcalls]
    refine ⟨.inr ⟨answer, rfl⟩, work.disciplined.shutdown answer, told, ?_⟩
    intro k hk
    cases hk

end Courses

-- ============================================================= a rehearsal

namespace Rehearsal

/-- A server that challenges once is answered with nothing. -/
theorem writes_disciplined_rehearsal :
    Event.calls plainRun.events ≠ []
    ∧ ∃ us, Disciplined us (Event.calls plainRun.events)
      ∧ PlainRelay.MaySay { host := "broker" } [plainMessage]
          (Turn.frames us) := by
  have hcalls : (Event.calls plainRun.events).isEmpty = false := by
    decide +kernel
  have hne : Event.calls plainRun.events ≠ [] := by
    intro hnil
    rw [hnil] at hcalls
    cases hcalls
  rcases writes_disciplined .plain plainCourse
    with hnil | ⟨-, us, -, -, -, hdisciplined, hsaid, -⟩
  · exact absurd hnil hne
  · exact ⟨hne, us, hdisciplined, hsaid⟩

end Rehearsal

end SaslGate
