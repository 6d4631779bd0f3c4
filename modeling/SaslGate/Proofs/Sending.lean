/-
Sending what an engine has queued. Every write but the last call gets rid of a
piece of the queue. The last call is the flush of an empty queue, or a write
that got rid of nothing (`Ending`).

# Pieces

A turn cuts one piece off the front of the queue, or ends the sending
(`offer_cases`). So nothing is lost and nothing is sent twice: the pieces that
went out and what is still queued make up what was queued before, however the
writes went (`flush_pieces`). A piece is never empty, which bounds their number
(`Pieces.length_le`), and what is left is just what sending again begins with
(`flush_exact`).
-/
import SaslGate.Client
import SaslGate.Proofs.Act
import SaslGate.Proofs.Traffic

namespace SaslGate.Line

open SocketEvent

variable {ε σ : Type}

-- ================================================================= turns

/-- The last call of sending, what sending comes to, and the bytes that stay
queued. A call that is interrupted is not tried again. -/
inductive Ending : SocketEvent → Except PumpError Unit → Bytes → Prop
  | done : Ending (.flush (.ok ())) (.ok ()) []
  | unflushed (kind : IoKind) :
      Ending (.flush (.error kind)) (.error (.io kind)) []
  | stuck {rest : Bytes} (more : rest ≠ []) :
      Ending (.write (.ok [])) (.error (.io .writeZero)) rest
  | unwritten {rest : Bytes} (more : rest ≠ []) (kind : IoKind) :
      Ending (.write (.error kind)) (.error (.io kind)) rest

/-- The last call neither gets rid of anything nor brings anything. -/
theorem Ending.idle {last : SocketEvent} {r : Except PumpError Unit}
    {rest : Bytes} (h : Ending last r rest) :
    sent [last] = [] ∧ chunks [last] = [] := by
  cases h <;> exact ⟨rfl, rfl⟩

/-- Every failure of sending is one of a call. -/
theorem Ending.fails {last : SocketEvent} {e : PumpError} {rest : Bytes}
    (h : Ending last (.error e) rest) :
    works last = false ∧ ∃ kind, e = .io kind := by
  cases h <;> exact ⟨rfl, _, rfl⟩

/-- Sending ends well only with the flush of an empty queue. -/
theorem Ending.done_inv {last : SocketEvent} {rest : Bytes}
    (h : Ending last (.ok ()) rest) :
    last = .flush (.ok ()) ∧ rest = [] := by
  cases h
  exact ⟨rfl, rfl⟩

/-- One turn outwards: nothing if nothing is queued, a write that gets rid of
the front of what is, or a write that is the last call. -/
theorem offer_cases [Engine ε] [Wire σ] {l l' : Line ε σ}
    {r : Except PumpError Bool} {t : List SocketEvent}
    (h : offer.run l = ⟨r, l', t⟩) :
    (r = .ok false ∧ t = [] ∧ l' = l ∧ l.queued = [])
    ∨ (∃ bytes, r = .ok true ∧ t = [.write (.ok bytes)] ∧ bytes ≠ []
        ∧ bytes ++ l'.queued = l.queued)
    ∨ ∃ e last, r = .error e ∧ t = [last] ∧ Ending last (.error e) l.queued
        ∧ l'.queued = l.queued := by
  by_cases hq : l.queued = []
  · have hrun : offer.run l = ⟨.ok false, l, []⟩ := by
      simp [offer, Act.run_bind, hq, Run.after]
    rw [hrun] at h
    cases h
    exact .inl ⟨rfl, rfl, rfl, hq⟩
  · rcases hw : Wire.write l.queued l.wire with ⟨answer, wire⟩
    cases answer with
    | error kind =>
      have hrun : offer.run l =
          ⟨.error (.io kind), { l with wire }, [.write (.error kind)]⟩ := by
        simp [offer, Act.run_bind, hq, Act.orElse, write, hw, Run.after]
      rw [hrun] at h
      cases h
      exact .inr (.inr ⟨_, _, rfl, rfl, .unwritten hq kind, rfl⟩)
    | ok n =>
      have hcut : l.queued.take n
          ++ Engine.outbound (Engine.consume n l.engine) = l.queued := by
        rw [Engine.outbound_consume]
        exact List.take_append_drop n l.queued
      by_cases ht : l.queued.take n = []
      · have hrun : offer.run l = ⟨.error (.io .writeZero),
            ⟨Engine.consume n l.engine, wire⟩, [.write (.ok [])]⟩ := by
          simp [offer, Act.run_bind, hq, Act.orElse, write, hw, ht, Run.after]
        rw [hrun] at h
        cases h
        rw [ht, List.nil_append] at hcut
        exact .inr (.inr ⟨_, _, rfl, rfl, .stuck hq, hcut⟩)
      · have hrun : offer.run l = ⟨.ok true,
            ⟨Engine.consume n l.engine, wire⟩,
            [.write (.ok (l.queued.take n))]⟩ := by
          simp [offer, Act.run_bind, hq, Act.orElse, write, hw, ht, Run.after]
        rw [hrun] at h
        cases h
        exact .inr (.inl ⟨_, rfl, rfl, ht, hcut⟩)

-- ================================================================ pieces

/-- Writes that each got rid of one piece. -/
def writes (pieces : List Bytes) : List SocketEvent :=
  pieces.map fun piece => .write (.ok piece)

/-- What the writes of a queue sent are its pieces. -/
theorem sent_writes (pieces : List Bytes) :
    sent (writes pieces) = pieces.flatten := by
  induction pieces with
  | nil => rfl
  | cons piece pieces ih => exact congrArg (piece ++ ·) ih

theorem chunks_writes (pieces : List Bytes) : chunks (writes pieces) = [] := by
  induction pieces with
  | nil => rfl
  | cons piece pieces ih => exact ih

/-- The front of a queue in pieces, none of them empty, and the rest. -/
structure Pieces (queue : Bytes) (pieces : List Bytes) (rest : Bytes) :
    Prop where
  whole : pieces.flatten ++ rest = queue
  some : ∀ piece ∈ pieces, piece ≠ []

namespace Pieces

variable {queue rest piece : Bytes} {pieces : List Bytes}

theorem nil (queue : Bytes) : Pieces queue [] queue :=
  ⟨rfl, List.forall_mem_nil _⟩

/-- A piece off the front, and the pieces of what is left. -/
theorem cons {queue' : Bytes} (hsome : piece ≠ [])
    (hwhole : piece ++ queue' = queue) (h : Pieces queue' pieces rest) :
    Pieces queue (piece :: pieces) rest := by
  refine ⟨?_, List.forall_mem_cons.2 ⟨hsome, h.some⟩⟩
  rw [List.flatten_cons, List.append_assoc, h.whole]
  exact hwhole

/-- There are no more pieces than bytes, since none of them is empty. -/
theorem length_le (h : Pieces queue pieces rest) :
    pieces.length ≤ queue.length := by
  obtain ⟨rfl, hsome⟩ := h
  induction pieces with
  | nil => exact Nat.zero_le _
  | cons piece pieces ih =>
    obtain ⟨hpiece, hpieces⟩ := List.forall_mem_cons.1 hsome
    have hpos := List.length_pos_iff.2 hpiece
    have hrest := ih hpieces
    simp only [List.flatten_cons, List.length_append, List.length_cons] at *
    omega

/-- Writes that get rid of something do their work. -/
theorem flows (h : Pieces queue pieces rest) (timeout : Option Duration)
    (b : Option Instant) : Flows timeout b (writes pieces) b := by
  obtain ⟨-, hsome⟩ := h
  induction pieces with
  | nil => exact Flows.nil timeout b
  | cons piece pieces ih =>
    obtain ⟨hpiece, hpieces⟩ := List.forall_mem_cons.1 hsome
    have hone : Flows timeout b [.write (.ok piece)] b := by
      simp [Flows, watch, works, hpiece]
    exact hone.append (ih hpieces)

end Pieces

/-- Turn by turn, pieces of the queue go out, until it is empty or a turn is
the last one. -/
theorem offers_pieces [Engine ε] [Wire σ] (l : Line ε σ) :
    let r := (Act.iterate offer (fun l : Line ε σ => l.queued.length)
      offer_lowers).run l
    ∃ pieces, Pieces l.queued pieces r.state.queued
      ∧ ((r.result = .ok () ∧ r.events = writes pieces ∧ r.state.queued = [])
        ∨ ∃ e last, r.result = .error e ∧ r.events = writes pieces ++ [last]
          ∧ Ending last (.error e) r.state.queued) := by
  -- a turn writes another piece, finds the queue empty, or fails
  refine Act.iterate_rec (P := fun l r =>
    ∃ pieces, Pieces l.queued pieces r.state.queued
      ∧ ((r.result = .ok () ∧ r.events = writes pieces ∧ r.state.queued = [])
        ∨ ∃ e last, r.result = .error e ∧ r.events = writes pieces ++ [last]
          ∧ Ending last (.error e) r.state.queued)) ?_ ?_ ?_ l
  · intro l l' t r hrun ih
    rcases offer_cases hrun with ⟨hr, -⟩ | ⟨piece, -, rfl, hsome, hwhole⟩
      | ⟨_, _, hr, -⟩
    · cases hr
    · obtain ⟨pieces, hpieces, hend⟩ := ih
      refine ⟨piece :: pieces, hpieces.cons hsome hwhole, ?_⟩
      rcases hend with ⟨hr, hevents, hempty⟩ | ⟨e, last, hr, hevents, hending⟩
      · exact .inl ⟨hr, congrArg (_ :: ·) hevents, hempty⟩
      · exact .inr ⟨e, last, hr, congrArg (_ :: ·) hevents, hending⟩
    · cases hr
  · intro l l' t hrun
    rcases offer_cases hrun with ⟨-, rfl, rfl, hempty⟩ | ⟨_, hr, -⟩
      | ⟨_, _, hr, -⟩
    · exact ⟨[], Pieces.nil _, .inl ⟨rfl, rfl, hempty⟩⟩
    · cases hr
    · cases hr
  · intro l e l' t hrun
    rcases offer_cases hrun with ⟨hr, -⟩ | ⟨_, hr, -⟩
      | ⟨e', last, hr, rfl, hending, hkept⟩
    · cases hr
    · cases hr
    · cases hr
      rw [← hkept] at hending
      refine ⟨[], ?_, .inr ⟨e, last, rfl, rfl, hending⟩⟩
      show Pieces l.queued [] l'.queued
      rw [hkept]
      exact Pieces.nil _

/-- Sending, from its first call to its last. -/
theorem flush_pieces [Engine ε] [Wire σ] (l : Line ε σ) :
    ∃ pieces last, Pieces l.queued pieces (flush.run l).state.queued
      ∧ (flush.run l).events = writes pieces ++ [last]
      ∧ Ending last (flush.run l).result (flush.run l).state.queued := by
  obtain ⟨pieces, hpieces, hend⟩ := offers_pieces l
  rcases hr : flush.run l with ⟨r, l', t⟩
  unfold flush at hr
  rcases Act.bind_cases hr with ⟨e, rfl, hx⟩
    | ⟨_, l₁, t₁, t₂, hx, hf, rfl⟩
  · rw [hx] at hpieces hend
    rcases hend with ⟨hok, -⟩ | ⟨e', last, he, hevents, hending⟩
    · cases hok
    · cases he
      exact ⟨pieces, last, hpieces, hevents, hending⟩
  · rw [hx] at hpieces hend
    rcases hend with ⟨-, rfl, hempty⟩ | ⟨e', last, he, -⟩
    · rcases ha : Wire.flush l₁.wire with ⟨answer, wire⟩
      simp only [Act.orElse, call, Act.ask, Act.focus, ha, Run.mk.injEq] at hf
      obtain ⟨rfl, rfl, rfl⟩ := hf
      refine ⟨pieces, .flush answer, hpieces, rfl, ?_⟩
      show Ending (.flush answer) (answer.mapError .io) l₁.queued
      rw [show l₁.queued = [] from hempty]
      cases answer with
      | error kind => exact .unflushed kind
      | ok u => exact .done
    · cases he

/-- What an end of sending, good or bad, has done. -/
structure Sends [Engine ε] (l : Line ε σ)
    (r : Run SocketEvent (Line ε σ) PumpError α) : Prop where
  account : sent r.events ++ r.state.queued = l.queued
  silent : chunks r.events = []
  /-- A failure shows in the trace. -/
  fault : ∀ e, r.result = .error e →
    ∀ timeout b b', ¬ Flows timeout b r.events b'

/-- Sending all that is queued. When it ends well, nothing is queued any
more and every call went well; the flush at its end closes the exchange at
hand. -/
theorem flush_spec [Engine ε] [Wire σ] (l : Line ε σ) :
    Sends l (flush.run l)
      ∧ ((flush.run l).result = .ok () → (flush.run l).state.queued = []
        ∧ ∀ timeout b, Flows timeout b (flush.run l).events none) := by
  obtain ⟨pieces, last, hpieces, hevents, hending⟩ := flush_pieces l
  refine ⟨⟨?_, ?_, ?_⟩, ?_⟩
  · rw [hevents, sent_append, sent_writes, hending.idle.1, List.append_nil]
    exact hpieces.whole
  · rw [hevents, chunks_append, chunks_writes, hending.idle.2]
    rfl
  · intro e he timeout b b'
    rw [he] at hending
    rw [hevents]
    exact not_flows List.mem_concat_self hending.fails.1
  · intro hok
    rw [hok] at hending
    obtain ⟨rfl, hempty⟩ := hending.done_inv
    refine ⟨hempty, fun timeout b => ?_⟩
    rw [hevents]
    refine (hpieces.flows timeout b).append ?_
    simp [Flows, watch, works, Except.isOk, Except.toBool]

/-- Sending reports no violation of the protocol. -/
theorem avoids_flush [Engine ε] [Wire σ] (cause : TransportError) :
    (flush : Pumping ε σ Unit).Avoids (.protocolViolation cause) := by
  intro l hl
  obtain ⟨_, _, -, -, hending⟩ := flush_pieces l
  rw [hl] at hending
  obtain ⟨-, kind, hkind⟩ := hending.fails
  cases hkind

-- ================================================================ clients

/-- Sending all that a client has queued, in pieces and a last call. Nothing
of the client changes but its queue. -/
structure Sending (l : Line Client σ)
    (r : Run SocketEvent (Line Client σ) PumpError Unit)
    (pieces : List Bytes) (last : SocketEvent) (rest : Bytes) : Prop where
  events : r.events = writes pieces ++ [last]
  cut : Pieces l.engine.outbound pieces rest
  few : pieces.length ≤ l.engine.outbound.length
  ending : Ending last r.result rest
  engine : r.state.engine = { l.engine with outbound := rest }

/-- Sending loses nothing and sends nothing twice, whatever the wire does. It
ends well only if everything went out and the flush did its work, and what is
left if it does not is what sending again sends, be it on another wire. -/
theorem flush_exact [Wire σ] (l : Line Client σ) :
    ∃ pieces last rest, Sending l (flush.run l) pieces last rest
      ∧ ∀ {τ : Type} [Wire τ] (wire : τ),
        let again := flush.run ⟨(flush.run l).state.engine, wire⟩
        sent again.events ++ again.state.engine.outbound = rest
          ∧ (again.result = .ok () → sent again.events = rest) := by
  obtain ⟨pieces, last, hpieces, hevents, hending⟩ := flush_pieces l
  have hview := flush_preserves (fun c : Client => { c with outbound := [] })
    (fun _ _ => rfl) l
  refine ⟨pieces, last, (flush.run l).state.queued,
    ⟨hevents, hpieces, hpieces.length_le, hending, ?_⟩, ?_⟩
  · -- with its queue taken out the client is the one it was before
    exact congrArg (fun c : Client =>
      { c with outbound := (flush.run l).state.queued }) hview
  · intro τ _ wire
    obtain ⟨⟨account, -, -⟩, hdone⟩ :=
      flush_spec (⟨(flush.run l).state.engine, wire⟩ : Line Client τ)
    refine ⟨account, fun hok => ?_⟩
    have hempty := (hdone hok).1
    rw [hempty, List.append_nil] at account
    exact account

end SaslGate.Line
