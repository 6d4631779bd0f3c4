/-
What the remote server did after the last frame was sent to it: it sent a
challenge, or it ended the exchange with one outcome or the other.
-/
import SaslGate.Client
import SaslGate.Link

namespace SaslGate

/-- A reply of the remote server. -/
inductive Reply
  | challenge
  | passed
  | failed
  deriving DecidableEq, Repr

namespace Reply

/-- The reply an engine has heard, if it has heard one. -/
def of? [Engine ε] (e : ε) : Option Reply :=
  match Engine.progress e with
  | .pass => some .passed
  | .fail => some .failed
  | .step => if Engine.hasPending e then some .challenge else none
  | .idle => none

/-- Whether an engine has heard a reply: an outcome, or a challenge that waits
while the exchange is under way. -/
def isHeard [Engine ε] (e : ε) : Bool :=
  (Engine.progress e).isTerminal
    || (Engine.progress e = .step && Engine.hasPending e)

/-- Waiting stops exactly when there is a reply to be had. -/
theorem isHeard_eq [Engine ε] (e : ε) : isHeard e = (of? e).isSome := by
  cases hp : Engine.progress e with
  | idle | pass | fail => simp [isHeard, of?, hp, Progress.isTerminal]
  | step => cases hw : Engine.hasPending e <;>
      simp [isHeard, of?, hp, hw, Progress.isTerminal]

end Reply

/-- Whether the engine of an open link has heard a reply. -/
def Link.hasReply [Engine ε] (k : Link ε σ) : Bool :=
  (k.engine.live?.bind Reply.of?).isSome

namespace Reply

/-- The reply that a link has heard, if it is open and has heard one. -/
def heard (k : Link Client σ) : Except AuthError Reply :=
  match k.engine.live? with
  | none => .error (.protocolViolation .closed)
  | some e =>
    match of? e with
    | some reply => .ok reply
    | none =>
      .error (.protocolViolation (.illegalState "upstream has not replied"))


/-- On an open link, asking for a reply is what waiting for one asks for. -/
theorem hasReply_eq [Engine ε] {k : Link ε σ} {l : Line ε σ}
    (hl : k.line = some l) : k.hasReply = isHeard l.engine := by
  rw [Link.hasReply, Link.live?_engine hl, Option.bind_some, isHeard_eq]

/-- An open link has heard what its engine has heard. -/
theorem heard_eq_ok_iff {k : Link Client σ} {l : Line Client σ} {reply : Reply}
    (hl : k.line = some l) : heard k = .ok reply ↔ of? l.engine = some reply := by
  simp only [heard, Link.live?_engine hl]
  cases of? l.engine <;> simp

/-- Waits for a reply. -/
def await [Wire σ] : Linked Client σ Reply := do
  Link.pumpUntil isHeard
  Act.ofExcept (heard (← Act.state))

/-- What a link has heard when waiting ends well. -/
theorem await_inv [Wire σ] {k k' : Link Client σ} {reply : Reply}
    {t : List Event} (h : await.run k = ⟨.ok reply, k', t⟩) :
    (Link.pumpUntil isHeard).run k = ⟨.ok (), k', t⟩
      ∧ heard k' = .ok reply := by
  obtain ⟨_, k₁, t₁, h₁, -, e₁⟩ := Act.run_bind_inv (congrArg Run.result h)
  unfold await at h
  rw [e₁, Act.run_bind, Act.run_state] at h
  simp only [Act.run_ofExcept, Run.after, List.append_nil, Run.mk.injEq] at h
  obtain ⟨hr, rfl, rfl⟩ := h
  exact ⟨h₁, hr⟩

/-- A reply that was not there before costs a read. -/
theorem talk_await [Wire σ] {k k' : Link Client σ} {reply : Reply}
    {t : List Event} (h : await.run k = ⟨.ok reply, k', t⟩) :
    if k.hasReply then k'.talk ≤ k.talk else k'.talk < k.talk := by
  have hp := (await_inv h).1
  split
  · -- a reply was there already and may have been waited for in vain
    have := Link.keeps_pumpUntil isHeard k
    rwa [hp] at this
  · rename_i hno
    cases hl : k.line with
    | none =>
      exact absurd (congrArg Run.result hp) (Link.pumpUntil_ne_ok _ hl)
    | some l =>
      have hn : isHeard l.engine = false := by
        rw [← hasReply_eq hl]
        exact Bool.eq_false_iff.2 hno
      have := Link.pumpUntil_lowers hl hn (congrArg Run.result hp)
      rwa [hp] at this

/-- An answer uses up the challenge, and ends nothing. -/
theorem progress_of_sendResponse {response : Bytes} {c c' : Client}
    (h : c.sendResponse response = (.ok (), c')) :
    c'.progress = .step ∧ c'.pending = none := by
  unfold Client.sendResponse at h
  split at h
  · cases h
  · split at h
    · cases h
    · rename_i hp
      unfold Client.queue at h
      split at h
      · cases h
      · cases h
        exact ⟨by simpa using hp, rfl⟩

/-- After an answer the engine has heard no reply. -/
theorem not_hasReply_of_sendResponse [Wire σ] {k k' : Link Client σ}
    {response : Bytes} {t : List Event}
    (h : (Link.sendResponse response).run k = ⟨.ok (), k', t⟩) :
    k'.hasReply = false := by
  obtain ⟨_, k₁, _, h₁, h₂, e₂⟩ := Act.run_bind_inv (congrArg Run.result h)
  obtain ⟨l, l₁, _, -, hs, rfl, -⟩ := Link.onLine_inv h₁
  rcases hf : (Link.onLine AuthError.ofPump Line.flush).run
    (k.put l₁) with ⟨r, k₂, u⟩
  rw [hf] at h₂
  cases h₂
  obtain ⟨_, l₂, _, he, hl₂, rfl, -⟩ := Link.onLine_inv hf
  cases he
  have hk : k' = k.put l₂ := by
    rw [hf] at e₂
    exact congrArg Run.state (h.symm.trans e₂)
  have hc : Engine.sendResponse response l.engine = (.ok (), l₁.engine) := by
    have hr := congrArg Run.result hs
    have hst := congrArg Run.state hs
    exact Prod.ext hr (congrArg Line.engine hst)
  obtain ⟨hp, hn⟩ := progress_of_sendResponse hc
  -- the step clears the reply, and sending what it queued brings none
  have hv := Line.flush_preserves
    (fun c : Client => (c.progress, c.pending)) (fun _ _ => rfl) l₁
  rw [hl₂] at hv
  simp only [hp, hn, Prod.mk.injEq] at hv
  rw [hk, hasReply_eq Link.line_put]
  simp [isHeard, Engine.progress, Engine.hasPending, Progress.isTerminal, hv]

end Reply

end SaslGate
