/-
Actions that go by a script. The script says what the reads bring, read by
read. If no call fails or comes too late, and the reads bring what the
script says, then the result of an action can be foretold, together with
the state it leaves and what is left of the script.

# Rules

`Follows` is a rule for each way of putting actions together, and so a
proof about a session follows its text: `Follows.bind` hands what is left of
the script to the rest of a sequence. The two actions of a link that deal
with the server come last: sending leaves the script alone (`Holds.send`),
and awaiting a reply takes the reads off the front that bring its frame
(`Holds.await`).
-/
import SaslGate.Proofs.Client.Listening
import SaslGate.Proofs.Course

namespace SaslGate

open SocketEvent (chunks Flows)
open Event (calls)
open Line (Agrees)

/-- An action that, begun in the state `s` with `script` ahead of it, ends
as `post` says: with a result, a state, the beginning of the exchange at
hand, and what is left of the script. -/
def Follows (timeout : Option Duration) (b : Option Instant)
    (script : List Bytes) (x : Act Event ς ε α) (s : ς)
    (post : Except ε α → ς → Option Instant → List Bytes → Prop) : Prop :=
  ∀ r s' t b', x.run s = ⟨r, s', t⟩ → Flows timeout b (calls t) b' →
    Agrees (chunks (calls t)) script →
    ∃ rest, script = chunks (calls t) ++ rest ∧ post r s' b' rest

namespace Follows

variable {timeout : Option Duration} {b : Option Instant}
  {script : List Bytes} {s s' : ς}

/-- An action that does nothing to the outside world. -/
theorem of_silent {x : Act Event ς ε α} {r : Except ε α}
    {post : Except ε α → ς → Option Instant → List Bytes → Prop}
    (hx : x.run s = ⟨r, s', []⟩) (h : post r s' b script) :
    Follows timeout b script x s post := by
  intro r₁ s₁ t b' hrun hflow _
  rw [hx] at hrun
  cases hrun
  cases hflow
  exact ⟨script, rfl, h⟩

/-- What is claimed of the end may be weakened. -/
theorem imp {x : Act Event ς ε α}
    {post post' : Except ε α → ς → Option Instant → List Bytes → Prop}
    (h : Follows timeout b script x s post)
    (himp : ∀ r s' b' rest, post r s' b' rest → post' r s' b' rest) :
    Follows timeout b script x s post' := by
  intro r s' t b' hrun hflow hagree
  obtain ⟨rest, hrest, hpost⟩ := h r s' t b' hrun hflow hagree
  exact ⟨rest, hrest, himp _ _ _ _ hpost⟩

/-- A sequence whose first part succeeds. -/
theorem bind {x : Act Event ς ε α} {f : α → Act Event ς ε β}
    {post : Except ε β → ς → Option Instant → List Bytes → Prop}
    (h : Follows timeout b script x s fun r s₁ b₁ rest =>
      ∃ a, r = .ok a ∧ Follows timeout b₁ rest (f a) s₁ post) :
    Follows timeout b script (x >>= f) s post := by
  intro r s' t b' hrun hflow hagree
  rcases Act.bind_cases hrun with ⟨e, -, hx⟩
    | ⟨a, s₁, t₁, t₂, hx, hf, rfl⟩
  · obtain ⟨_, -, _, he, -⟩ := h _ _ _ _ hx hflow hagree
    cases he
  · rw [Event.calls_append] at hflow hagree ⊢
    rw [SocketEvent.chunks_append] at hagree ⊢
    obtain ⟨b₁, hflow₁, hflow₂⟩ := hflow.split
    obtain ⟨rest, rfl, a', ha, hfollows⟩ :=
      h _ _ _ _ hx hflow₁ hagree.of_append_left
    cases ha
    obtain ⟨rest', rfl, hpost⟩ := hfollows _ _ _ _ hf hflow₂ hagree.back
    exact ⟨rest', by rw [List.append_assoc], hpost⟩

/-- An action of the connection that a session holds. -/
theorem onHeld {slot : Slot ς ρ} {d : Desk κ ς} {x : Act Event ρ AuthError α}
    {k : ρ}
    {post : Except AuthError α → Desk κ ς → Option Instant → List Bytes → Prop}
    (held : slot.get d.session = some k)
    (h : Follows timeout b script x k fun r k' b' rest =>
      post r { d with session := slot.put (some k') d.session } b' rest) :
    Follows timeout b script (Desk.onHeld slot x) d post := by
  intro r d' t b' hrun hflow hagree
  obtain ⟨k', hk, rfl⟩ := Desk.onHeld_cases hrun held
  exact h r k' t b' hk hflow hagree

end Follows

-- ================================================================== links

/-- An open link, its timeout, and the client at work on it. -/
structure Link.Holds (timeout : Option Duration) (k : Link Client σ)
    (c : Client) : Prop where
  bound : k.timeout = timeout
  engine : k.line.map Line.engine = some c

namespace Link.Holds

variable {σ : Type} {timeout : Option Duration} {k : Link Client σ}
  {c d : Client} {b : Option Instant} {script : List Bytes}

/-- A link with a transcript is open. -/
theorem of_transcript {id : Nat} {fs : List Frame} {output : Bytes}
    {t : List Event} (h : Transcript id timeout k c fs output t b) :
    Holds timeout k c := ⟨h.bound, h.engine⟩

/-- Taking what waits. -/
theorem takePending (h : Holds timeout k c) :
    ∃ k', Link.takePending.run k = ⟨.ok c.pending, k', []⟩
      ∧ Holds timeout k' { c with pending := none } := by
  obtain ⟨l, hl, rfl⟩ := Option.map_eq_some_iff.1 h.engine
  exact ⟨_, Link.run_takePending hl, h.bound, rfl⟩

/-- A response that fits in a frame is sent, and the client listens on. -/
theorem sendResponse [Wire σ] {response bytes : Bytes}
    (h : Holds timeout k c) (listening : c.Listening)
    (drained : c.outbound = [])
    (fits : Client.sized (.response response) = .ok bytes) :
    Follows timeout b script (Link.sendResponse response) k
      fun r k' b' rest =>
        r = .ok () ∧ b' = none ∧ rest = script ∧ Holds timeout k' c := by
  intro r k' t b' hrun hflow _
  obtain ⟨l, hl, rfl⟩ := Option.map_eq_some_iff.1 h.engine
  have hblocked : l.engine.sendingBlocked = none := by
    have hdone := listening.done
    unfold Client.headerDone at hdone
    unfold Client.sendingBlocked
    cases hc : l.engine.connection <;> simp [hc] at hdone ⊢
  have hqueued : Engine.sendResponse response l.engine
      = (.ok (), { l.engine with pending := none, outbound := bytes }) := by
    show l.engine.sendResponse response = _
    simp [Client.sendResponse, hblocked, listening.ready.stepping,
      Client.queue, fits, drained]
  obtain ⟨l', u, rfl, rfl, silent, ⟨rfl, hengine, -, hflows⟩ | ⟨-, hfault⟩⟩ :=
    Link.send_cases hl hqueued hrun
  · rw [Event.calls_socket] at hflow ⊢
    rw [silent]
    have hnone := Option.some.inj (hflow.symm.trans (hflows timeout b))
    refine ⟨script, rfl, rfl, hnone, rfl, h.bound, ?_⟩
    rw [Link.line_put, Option.map_some, hengine]
    refine congrArg some ?_
    rw [← listening.ready.settled, ← drained]
  · rw [Event.calls_socket] at hflow
    -- a write that failed is in the trace, and a smooth one has none
    exact absurd hflow (hfault _ _ _)

section Replies

variable [Wire σ] {reply : Reply} {f : Frame} {cs rest : List Bytes}

/-- Reads that bring the frame of a reply, and whether it is heard. -/
theorem pumpUntil (h : Holds timeout k c) (listening : c.Listening)
    (brings : Reply.Brings c reply f d)
    (spells : Spells [f] (c.reader.unread ++ cs.flatten))
    (filled : ∀ x ∈ cs, x ≠ []) :
    Follows timeout none (cs ++ rest) (Link.pumpUntil Reply.isHeard) k
      fun r k' _ left => r = .ok () ∧ left = rest
        ∧ Holds timeout k' (d.placed c.connection .empty) := by
  intro r k' t b' hrun hflow hagree
  obtain ⟨l, hl, rfl⟩ := Option.map_eq_some_iff.1 h.engine
  obtain ⟨rfl, hcs, l', rfl, hengine⟩ := Link.pumpUntil_follows hl
    (listening.hears brings spells filled) hrun (h.bound.symm ▸ hflow)
    hagree.of_append_right
  exact ⟨rest, by rw [hcs], rfl, rfl, h.bound, congrArg some hengine⟩

/-- A reply whose frame the reads bring is heard, and nothing is left of
its reads. -/
theorem await (h : Holds timeout k c) (listening : c.Listening)
    (brings : Reply.Brings c reply f d)
    (spells : Spells [f] (c.reader.unread ++ cs.flatten))
    (filled : ∀ x ∈ cs, x ≠ []) :
    Follows timeout none (cs ++ rest) Reply.await k fun r k' _ left =>
      r = .ok reply ∧ left = rest
        ∧ Holds timeout k' (d.placed c.connection .empty) := by
  refine Follows.bind ((h.pumpUntil listening brings spells filled).imp ?_)
  rintro _ k' b' _ ⟨rfl, rfl, hk'⟩
  refine ⟨(), rfl, Follows.of_silent rfl ⟨?_, rfl, hk'⟩⟩
  obtain ⟨l', hl', hengine⟩ := Option.map_eq_some_iff.1 hk'.engine
  have hof : Reply.of? l'.engine = some reply := by
    rw [hengine]
    exact listening.ready.of?_brings brings _ _
  exact (Reply.heard_eq_ok_iff hl').2 hof

end Replies

end Link.Holds

end SaslGate
