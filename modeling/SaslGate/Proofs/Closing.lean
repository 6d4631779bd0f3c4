/-
A link in the hands of whoever set it up: any calls, in any order, and then the
end. What a call that does not close does is known from the side of an open
link and of a closed one (`Link.Serves`), and on a closed link each call has its
answer (`run_perform_closed`). So the calls fall into those in front of the
first that closes and those behind it (`run_serve_cut`), and the end closes what
none of them has closed.

# Once

That the engine and the socket are closed once each is told by their states: a
link comes to `close` of what putting it to use made of it, and stays there
(`Link.Life`). Whoever counts closings has then counted one
(`Life.closings_eq`, `Life.shutdowns_eq`).
-/
import Mathlib.Data.List.Forall2
import SaslGate.Proofs.Usage
import SaslGate.Rehearsal.Counted
import SaslGate.Rehearsal.Scene

namespace SaslGate

-- ================================================================ the calls

/-- A call on a link. -/
inductive LinkCall (ε : Type)
  | sendInit (mechanism : String) (hostname : Option String)
      (initialResponse : Bytes)
  | sendResponse (response : Bytes)
  | pumpUntil (enough : ε → Bool)
  | takePending
  | close

/-- What comes of a call on a link. -/
inductive LinkAnswer
  | done (result : Except AuthError Unit)
  | pending (data : Option Bytes)
  | closed (result : Except IoKind Unit)

/-- The answer to a call on a link that has been closed. -/
def LinkCall.refusal {ε : Type} : LinkCall ε → LinkAnswer
  | sendInit .. | sendResponse _ | pumpUntil _ =>
    .done (.error (.protocolViolation .closed))
  | takePending => .pending none
  | close => .closed (.ok ())

/-- How a call ends on a link that has been closed: with its refusal, unless it
is one that waits. That one sets a deadline first, and the clock may not be able
to show it; the trace then has the time that was too late for the timeout. -/
inductive LinkCall.Refused {ε : Type} (timeout : Option Duration)
    (t : List Event) : LinkCall ε → LinkAnswer → Prop
  | refused (call : LinkCall ε) : Refused timeout t call call.refusal
  | overflow (enough : ε → Bool) {wait : Duration} {time : Instant} {id : Nat}
      (bounded : timeout = some wait) (shown : .socket id (.clock time) ∈ t)
      (unshowable : Instant.after? wait time = none) :
      Refused timeout t (.pumpUntil enough) (.done (.error .deadlineOverflow))

/-- A longer trace shows the same time. -/
theorem LinkCall.Refused.mono {ε : Type} {timeout : Option Duration}
    {t u : List Event} {call : LinkCall ε} {answer : LinkAnswer}
    (h : Refused timeout t call answer) (sub : t ⊆ u) :
    Refused timeout u call answer := by
  cases h with
  | refused => exact .refused call
  | overflow enough bounded shown unshowable =>
    exact .overflow enough bounded (sub shown) unshowable

/-- If the clock can show every deadline, all that comes of calls on a closed
link is their refusals. -/
theorem LinkCall.Refused.answers_eq {ε : Type} {timeout : Option Duration}
    {t : List Event} {calls : List (LinkCall ε)} {answers : List LinkAnswer}
    (showable : ∀ wait time id, timeout = some wait →
      .socket id (.clock time) ∈ t → Instant.after? wait time ≠ none)
    (h : List.Forall₂ (Refused timeout t) calls answers) :
    answers = calls.map refusal := by
  induction h with
  | nil => rfl
  | cons first _ ih =>
    rw [ih, List.map_cons]
    cases first with
    | refused => rfl
    | overflow enough bounded shown unshowable =>
      exact absurd unshowable (showable _ _ _ bounded shown)

namespace Link

open Relation (ReflTransGen)

variable {ε σ κ : Type} [Engine ε] [Wire σ]

/-- A call, whether it fails or not. -/
def perform : LinkCall ε → Linked ε σ LinkAnswer
  | .sendInit mechanism hostname initialResponse => do
    return .done (← (sendInit mechanism hostname initialResponse).attempt)
  | .sendResponse response => do
    return .done (← (sendResponse response).attempt)
  | .pumpUntil enough => do
    return .done (← (pumpUntil enough).attempt)
  | .takePending => do
    return .pending (← takePending)
  | .close => do
    return .closed (← close.attempt)

/-- Calls one after the other. -/
def serve : List (LinkCall ε) → Linked ε σ (List LinkAnswer)
  | [] => return []
  | call :: calls => do
    let answer ← perform call
    let answers ← serve calls
    return answer :: answers

/-- Only closing closes a link. -/
theorem along_perform {call : LinkCall ε} (h : call ≠ .close) :
    (perform call : Linked ε σ LinkAnswer).Along Serves := by
  cases call with
  | sendInit mechanism hostname initialResponse =>
    exact chain_serves.bind
      (along_send (.sendInit mechanism hostname initialResponse)).attempt
      fun _ => chain_serves.pure _
  | sendResponse response =>
    exact chain_serves.bind (along_send (.sendResponse response)).attempt
      fun _ => chain_serves.pure _
  | pumpUntil enough =>
    exact chain_serves.bind (along_pumpUntil enough).attempt
      fun _ => chain_serves.pure _
  | takePending =>
    exact chain_serves.bind along_takePending fun _ => chain_serves.pure _
  | close => exact absurd rfl h

-- ============================================================ closed links

section Closed

variable {k : Link ε σ}

/-- There is nothing to send with on a closed link. -/
theorem run_send_closed (f : ε → Except TransportError Unit × ε)
    (hk : k.line = none) :
    (send f).run k = ⟨.error (.protocolViolation .closed), k, []⟩ :=
  Act.run_bind_error _ (run_onLine_closed _ hk)

omit [Engine ε] in
/-- Looking at the clock closes and opens nothing. -/
theorem Spent.now (hk : k.Spent) : (Link.now.run k).state.Spent := by
  obtain ⟨e, w, hengine, hsocket⟩ := hk
  exact ⟨e, (Wire.now w).2, hengine, by simp [Link.now, hsocket]⟩

/-- Waiting on a closed link ends with the deadline, or right behind it. -/
theorem run_pumpUntil_closed (enough : ε → Bool) (hk : k.Spent) :
    ∃ e k' t, (pumpUntil enough).run k = ⟨.error e, k', t⟩
      ∧ LinkCall.Refused k.timeout t (.pumpUntil enough)
        (.done (.error e)) := by
  cases ht : k.timeout with
  | none =>
    refine ⟨_, k, [], ?_, .refused _⟩
    rw [pumpUntil, Act.run_bind_ok _ (run_deadline_none ht),
      run_onLine_closed _ hk.line]
    rfl
  | some wait =>
    cases ha : Instant.after? wait (Wire.now k.socket.thing).1 with
    | none =>
      exact ⟨_, _, _, run_pumpUntil_overflow enough ht rfl ha,
        .overflow enough rfl (List.mem_singleton_self _) ha⟩
    | some limit =>
      have hnow : now.run k = ⟨.ok (Wire.now k.socket.thing).1,
        (now.run k).state, (now.run k).events⟩ := rfl
      refine ⟨_, (now.run k).state, (now.run k).events, ?_, .refused _⟩
      rw [pumpUntil, Act.run_bind_ok _ (run_deadline_some ht hnow ha),
        run_onLine_closed _ hk.now.line]
      simp [Run.after]

/-- Closing a closed link does nothing and reports success. -/
theorem run_close_closed (hk : k.Spent) :
    (close : Act Event (Link ε σ) IoKind Unit).run k = ⟨.ok (), k, []⟩ := by
  obtain ⟨e, w, hengine, hsocket⟩ := hk
  simp [close, shutSocket, closeEngine, Act.attempt, Act.run_bind, hengine,
    hsocket, Run.after]

/-- On a closed link a call does nothing, and is refused. -/
theorem run_perform_closed (call : LinkCall ε) (hk : k.Spent) :
    ∃ answer k' t, (perform call).run k = ⟨.ok answer, k', t⟩
      ∧ call.Refused k.timeout t answer ∧ k.Rests t k' := by
  have hrests : call ≠ .close →
      k.Rests ((perform call).run k).events ((perform call).run k).state :=
    fun h => (along_perform h k).rested hk
  cases call with
  | sendInit | sendResponse =>
    refine ⟨_, _, _, ?_, .refused _, rests_self hk⟩
    simp [perform, sendInit, sendResponse, Act.run_bind, Act.attempt,
      run_send_closed _ hk.line, Run.after, LinkCall.refusal]
  | pumpUntil enough =>
    -- waiting may still look at the clock before it finds the link closed
    obtain ⟨e, k', t, hrun, hrefused⟩ := run_pumpUntil_closed enough hk
    have hperform : (perform (.pumpUntil enough)).run k =
        ⟨.ok (.done (.error e)), k', t⟩ := by
      simp [perform, Act.run_bind, Act.attempt, hrun, Run.after]
    have := hrests (by simp)
    rw [hperform] at this
    exact ⟨_, k', t, hperform, hrefused, this⟩
  | takePending =>
    refine ⟨_, _, _, ?_, .refused _, rests_self hk⟩
    obtain ⟨e, w, hengine, -⟩ := hk
    simp [perform, Act.run_bind, takePending, hengine, Run.after,
      LinkCall.refusal]
  | close =>
    refine ⟨_, _, _, ?_, .refused _, rests_self hk⟩
    simp [perform, Act.run_bind, Act.attempt, run_close_closed hk, Run.after,
      LinkCall.refusal]

/-- Calls on a closed link, one after the other. -/
theorem run_serve_closed (calls : List (LinkCall ε)) (hk : k.Spent) :
    ∃ answers k' t, (serve calls).run k = ⟨.ok answers, k', t⟩
      ∧ List.Forall₂ (LinkCall.Refused k.timeout t) calls answers
      ∧ k.Rests t k' := by
  induction calls generalizing k with
  | nil => exact ⟨[], k, [], rfl, .nil, rests_self hk⟩
  | cons call calls ih =>
    obtain ⟨answer, k₁, t, hrun, hrefused, hrests⟩ := run_perform_closed call hk
    obtain ⟨answers, k', u, hserve, hall, hrests'⟩ := ih (hrests.spent hk)
    rw [hrests.timeout] at hall
    refine ⟨answer :: answers, k', t ++ u, ?_, .cons ?_ ?_,
      hrests.append hrests'⟩
    · rw [serve, Act.run_bind_ok _ hrun, Act.run_bind_ok _ hserve]
      simp [Run.after]
    · exact hrefused.mono (List.subset_append_left t u)
    · exact hall.imp fun _ _ h => h.mono (List.subset_append_right t u)

end Closed

-- ========================================================== calls in order

section Order

variable {k k₁ k₂ : Link ε σ} {calls : List (LinkCall ε)}

/-- Every call has an answer. -/
theorem exists_answer (call : LinkCall ε) (k : Link ε σ) :
    ∃ answer, ((perform call).run k).result = .ok answer := by
  cases call with
  | takePending =>
    obtain ⟨id, timeout, socket, engine⟩ := k
    cases engine with
    | live engine => exact ⟨_, rfl⟩
    | spent rest => exact ⟨_, rfl⟩
  | _ => exact ⟨_, rfl⟩

/-- Calls none of which closes put an open link to use. -/
theorem run_serve_open (k : Link ε σ) (hcalls : .close ∉ calls) :
    ∃ answers k' t, (serve calls).run k = ⟨.ok answers, k', t⟩
      ∧ answers.length = calls.length ∧ k.Serves t k' := by
  induction calls generalizing k with
  | nil => exact ⟨[], k, [], rfl, rfl, chain_serves.nil k⟩
  | cons call calls ih =>
    obtain ⟨hcall, hrest⟩ := not_or.1 (mt List.mem_cons.2 hcalls)
    obtain ⟨answer, hanswer⟩ := exists_answer call k
    rcases hperform : (perform call).run k with ⟨r, k₁, t⟩
    obtain rfl : r = .ok answer := by rw [← hanswer, hperform]
    obtain ⟨answers, k', u, hserve, hlength, hserves⟩ := ih k₁ hrest
    refine ⟨answer :: answers, k', t ++ u, ?_, by simp [hlength], ?_⟩
    · rw [serve, Act.run_bind_ok _ hperform, Act.run_bind_ok _ hserve]
      simp [Run.after]
    · exact chain_serves.append
        ((along_perform (Ne.symm hcall)).of_run hperform) hserves

/-- Calls are made in order, so a list of them may be cut anywhere. -/
theorem run_serve_append {more : List (LinkCall ε)}
    {answers answers' : List LinkAnswer} {t u : List Event}
    (h : (serve calls).run k = ⟨.ok answers, k₁, t⟩)
    (hmore : (serve more).run k₁ = ⟨.ok answers', k₂, u⟩) :
    (serve (calls ++ more)).run k =
      ⟨.ok (answers ++ answers'), k₂, t ++ u⟩ := by
  induction calls generalizing k answers t with
  | nil =>
    cases h
    exact hmore
  | cons call calls ih =>
    obtain ⟨answer, k', t₁, t₂, hperform, hrest, rfl⟩ := Act.bind_ok h
    obtain ⟨rest, k'', t₃, t₄, hserve, hdone, rfl⟩ := Act.bind_ok hrest
    cases hdone
    rw [List.cons_append, serve, Act.run_bind_ok _ hperform,
      Act.run_bind_ok _ (ih hserve)]
    simp [Run.after]

omit [Engine ε] [Wire σ] in
/-- Calls have at most one first call that closes. -/
theorem first_close_unique {before before' after after' : List (LinkCall ε)}
    (hbefore : .close ∉ before) (hbefore' : .close ∉ before')
    (h : before ++ .close :: after = before' ++ .close :: after') :
    before = before' ∧ after = after' := by
  rcases List.append_eq_append_iff.1 h with ⟨mid, rfl, hmid⟩
    | ⟨mid, rfl, hmid⟩
  · cases mid with
    | nil => exact ⟨(List.append_nil before).symm, List.tail_eq_of_cons_eq hmid⟩
    | cons call mid =>
      cases hmid
      exact absurd (List.mem_append_right _ (List.mem_cons_self ..)) hbefore'
  · cases mid with
    | nil => exact ⟨List.append_nil before', (List.tail_eq_of_cons_eq hmid).symm⟩
    | cons call mid =>
      cases hmid
      exact absurd (List.mem_append_right _ (List.mem_cons_self ..)) hbefore

/-- Calls on an open link, parted at the first that closes it. Those in front
are served. The one that closes answers what shutting the socket down came to.
Those behind are refused, and from there on the link rests. -/
inductive Parted (k : Link ε σ) (before after : List (LinkCall ε))
    (a : Except IoKind Unit) (looks : List Event) :
    Run Event (Link ε σ) AuthError (List LinkAnswer) → Prop
  | intro {answers refusals : List LinkAnswer} {k₁ k₂ k₃ : Link ε σ}
      {t : List Event}
      (front : (serve before).run k = ⟨.ok answers, k₁, t⟩)
      (answered : answers.length = before.length) (used : k.Serves t k₁)
      (closes : close.run k₁ = ⟨a, k₂,
        [.socket k.id (.shutdown a), .engineClosed k.id]⟩)
      (back : (serve after).run k₂ = ⟨.ok refusals, k₃, looks⟩)
      (refused : List.Forall₂ (LinkCall.Refused k.timeout looks)
        after refusals)
      (rests : k₂.Rests looks k₃) :
      Parted k before after a looks
        ⟨.ok (answers ++ .closed a :: refusals), k₃,
          t ++ ([.socket k.id (.shutdown a), .engineClosed k.id] ++ looks)⟩

/-- The trace of calls that are parted: of use, of the closing, and of looks at
the clock. -/
theorem Parted.trace {before after : List (LinkCall ε)}
    {a : Except IoKind Unit} {looks : List Event}
    {served : Run Event (Link ε σ) AuthError (List LinkAnswer)}
    {l : Line ε σ} (h : k.Parted before after a looks served)
    (hl : k.line = some l) :
    ∃ u : List SocketEvent, served.events = u.map (.socket k.id)
        ++ ([.socket k.id (.shutdown a), .engineClosed k.id] ++ looks)
      ∧ (∀ e ∈ u, e.LeavesOpen)
      ∧ ∀ e ∈ looks, ∃ time, e = .socket k.id (.clock time) := by
  cases h with
  | @intro _ _ _ k₂ _ _ _ _ used closes _ _ rests =>
    obtain ⟨l₁, u, rfl, rfl, hused⟩ := used.used l hl
    have hid : k₂.id = k.id := by
      rw [run_close line_put] at closes
      exact (congrArg (fun r => r.state.id) closes).symm
    refine ⟨u, rfl, hused.leavesOpen, ?_⟩
    rw [← hid]
    exact rests.looks

/-- What is left of an engine and its socket at the end: the engine has been at
work and was closed, and nothing happened to it afterwards; the socket has been
in use and was shut down, with the answer `a`, and nothing happened to it
afterwards but that the clock went on. -/
inductive Life (engine : ε) (wire : σ) (a : Except IoKind Unit) :
    Link ε σ → Prop
  | intro {id : Nat} {timeout : Option Duration} {e : ε} {w w' : σ}
      (worked : ReflTransGen Engine.Step engine e)
      (served : ReflTransGen Wire.Step wire w)
      (answered : (Wire.shutdown w).1 = a)
      (ticked : ReflTransGen Wire.Tick (Wire.shutdown w).2 w') :
      Life engine wire a ⟨id, timeout, .spent w', .spent (Engine.close e)⟩

namespace Life

variable {engine engine' : ε} {wire wire' : σ} {a : Except IoKind Unit}

/-- Whoever counts the closings of the engine has counted one. -/
theorem closings_eq {closings : ε → Nat} (h : Life engine wire a k)
    (counts : Engine.Counts closings) :
    closings k.engine.thing = closings engine + 1 := by
  obtain ⟨worked, -, -, -⟩ := h
  rw [Held.thing_spent, counts.close, eq_of_steps closings counts.step worked]

/-- Whoever counts the shutdowns of the socket has counted one. -/
theorem shutdowns_eq {shutdowns : σ → Nat} (h : Life engine wire a k)
    (counts : Wire.Counts shutdowns) :
    shutdowns k.socket.thing = shutdowns wire + 1 := by
  obtain ⟨-, served, -, ticked⟩ := h
  rw [Held.thing_spent,
    eq_of_steps shutdowns (fun _ _ h => counts.step _ _ h.step) ticked,
    counts.shutdown, eq_of_steps shutdowns counts.step served]

/-- What was done before belongs to the life. -/
theorem of_steps (h : Life engine' wire' a k)
    (worked : ReflTransGen Engine.Step engine engine')
    (served : ReflTransGen Wire.Step wire wire') :
    Life engine wire a k := by
  obtain ⟨worked', served', answered, ticked⟩ := h
  exact ⟨worked.trans worked', served.trans served', answered, ticked⟩

/-- A life that is over goes on in rest. -/
theorem rests {t : List Event} (h : Life engine wire a k₁)
    (hrests : k₁.Rests t k₂) : Life engine wire a k₂ := by
  obtain ⟨worked, served, answered, ticked⟩ := h
  obtain ⟨id, timeout, socket, engine⟩ := k₂
  obtain ⟨-, -, rfl, ⟨w, w', hw, rfl, hticks⟩, -⟩ := hrests
  cases hw
  exact ⟨worked, served, answered, ticked.trans hticks⟩

end Life

/-- Closing an open link, and what it leaves. -/
theorem run_close_life {l : Line ε σ} (hl : k.line = some l) :
    ∃ a k', close.run k =
        ⟨a, k', [.socket k.id (.shutdown a), .engineClosed k.id]⟩
      ∧ k'.timeout = k.timeout ∧ k'.Spent
      ∧ Life l.engine l.wire a k' :=
  ⟨_, _, run_close hl, rfl, ⟨_, _, rfl, rfl⟩, .intro .refl .refl rfl .refl⟩

/-- The first call that closes, with calls in front of it and behind it. -/
theorem run_serve_cut {before : List (LinkCall ε)} {l : Line ε σ}
    (hl : k.line = some l) (hbefore : .close ∉ before)
    (after : List (LinkCall ε)) :
    let served := (serve (before ++ .close :: after)).run k
    ∃ a looks, Parted k before after a looks served
      ∧ served.state.Spent ∧ Life l.engine l.wire a served.state := by
  -- the run in three: up to the first close, the close, and what is behind it
  obtain ⟨answers, k₁, t, hserve, hlength, hserves⟩ := run_serve_open k hbefore
  obtain ⟨l₁, u, rfl, -, hused⟩ := hserves.used l hl
  obtain ⟨a, k₂, hclose, htimeout, hspent, hlife⟩ :=
    run_close_life (k := k.put l₁) line_put
  obtain ⟨refusals, k₃, looks, hback, hrefused, hrests⟩ :=
    run_serve_closed after hspent
  rw [htimeout] at hrefused
  have hperform : (perform .close).run (k.put l₁) = ⟨.ok (.closed a), k₂,
      [.socket k.id (.shutdown a), .engineClosed k.id]⟩ := by
    simp [perform, Act.run_bind, Act.attempt, hclose, Run.after]
  have hwhole : (serve (.close :: after)).run (k.put l₁) =
      ⟨.ok (.closed a :: refusals), k₃,
        [.socket k.id (.shutdown a), .engineClosed k.id] ++ looks⟩ := by
    rw [serve, Act.run_bind_ok _ hperform, Act.run_bind_ok _ hback]
    simp [Run.after]
  refine ⟨a, looks, ?_⟩
  rw [run_serve_append hserve hwhole]
  refine ⟨.intro hserve hlength hserves hclose hback hrefused hrests,
    hrests.spent hspent, ?_⟩
  exact (hlife.rests hrests).of_steps hused.engine hused.wire

end Order

-- ================================================================= the end

section End

variable {k : Link ε σ}

/-- Nothing is left for the end of a link that was closed. -/
theorem run_drop_spent (hk : k.Spent) : drop.run k = ⟨.ok (), k, []⟩ := by
  simp [drop, Act.run_bind, Act.attempt, run_close_closed hk, Run.after]

/-- The end of an open link closes it, and keeps the answer to itself. -/
theorem run_drop_open {l : Line ε σ} (hl : k.line = some l) :
    ∃ a k', drop.run k =
        ⟨.ok (), k', [.socket k.id (.shutdown a), .engineClosed k.id]⟩
      ∧ Life l.engine l.wire a k' := by
  obtain ⟨a, k', hclose, -, -, hlife⟩ := run_close_life hl
  refine ⟨a, k', ?_, hlife⟩
  simp [drop, Act.run_bind, Act.attempt, hclose, Run.after]

/-- Calls none of which closes the link leave that to its end. -/
theorem run_drop_uncut {calls : List (LinkCall ε)} {l : Line ε σ}
    (hl : k.line = some l) (hnone : .close ∉ calls) :
    let served := (serve calls).run k
    let dropped := drop.run served.state
    ∃ (a : Except IoKind Unit) (u : List SocketEvent),
      Life l.engine l.wire a dropped.state ∧ (∀ e ∈ u, e.LeavesOpen)
      ∧ served.events ++ dropped.events = u.map (.socket k.id)
        ++ [.socket k.id (.shutdown a), .engineClosed k.id] := by
  obtain ⟨answers, k', t, hserve, -, hserves⟩ := run_serve_open k hnone
  obtain ⟨l', u, rfl, rfl, hused⟩ := hserves.used l hl
  obtain ⟨a, k'', hdrop, hlife⟩ := run_drop_open (k := k.put l') line_put
  refine ⟨a, u, ?_⟩
  rw [hserve, hdrop]
  exact ⟨hlife.of_steps hused.engine hused.wire, hused.leavesOpen, rfl⟩

/-- Whoever gets a link gets it open, with the socket that connecting gave, and
greeting the server is all that was done with it. -/
theorem open_of_bootstrap [Connector κ σ] {engine : ε} {config : RemoteConfig}
    {mechanism : String} {s s' : κ} {t : List Event}
    (h : (bootstrap engine config mechanism).run s = ⟨.ok k, s', t⟩) :
    ∃ (wire : σ) (l : Line ε σ) (u : List SocketEvent),
      Connector.connect config.host config.portNumber config.connectTimeout s
        = (.ok (k.id, wire), s')
      ∧ k.line = some l ∧ Line.Serves ⟨engine, wire⟩ u l
      ∧ t = .connect config.host config.portNumber config.connectTimeout
        (.ok k.id) :: u.map (.socket k.id) := by
  rcases bootstrap_cases h with ⟨_, hfailed, -⟩
    | ⟨id, wire, _, k', u, hconnect, hgreet, ⟨-, hk, ht⟩ | ⟨_, -, hfailed, -⟩⟩
  · cases hfailed
  · cases hk
    obtain ⟨l, v, rfl, rfl, hserves⟩ :=
      ((along_greet mechanism).of_run hgreet).used ⟨engine, wire⟩ rfl
    exact ⟨wire, l, v, hconnect, rfl, hserves, ht⟩
  · cases hfailed

end End

end Link

-- ============================================================= a rehearsal

namespace Rehearsal

theorem counts_engine {ε : Type} [Engine ε] :
    Engine.Counts (Counted.closings (α := ε)) where
  step := by
    intro e e' h
    cases h <;> rfl
  close _ := rfl

theorem counts_wire {σ : Type} [Wire σ] :
    Wire.Counts (Counted.closings (α := σ)) where
  step := by
    intro s s' h
    cases h <;> rfl
  shutdown _ := rfl

/-- A scripted socket answers every shutdown alike, however it was used. -/
theorem shutdown_eq_of_step {s s' : Counted Socket} (h : Wire.Step s s') :
    s'.inner.shutdown = s.inner.shutdown := by
  cases h with
  | read n =>
    show (Socket.read n s.inner).2.shutdown = _
    unfold Socket.read
    split
    · rfl
    · rfl
    · split <;> rfl
  | write bytes =>
    show (Socket.write bytes s.inner).2.shutdown = _
    unfold Socket.write
    split <;> rfl
  | flush =>
    show (Socket.flush s.inner).2.shutdown = _
    unfold Socket.flush
    split <;> rfl
  | setReadTimeout timeout =>
    show (Socket.setReadTimeout timeout s.inner).2.shutdown = _
    unfold Socket.setReadTimeout
    split <;> rfl
  | readTimeout | now => rfl

end Rehearsal

end SaslGate
