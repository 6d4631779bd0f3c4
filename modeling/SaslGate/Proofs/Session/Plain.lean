/-
What a relayed PLAIN session proves. The client is authorized only if the
server accepted the very message that the client sent, over one connection
on which no call failed; it is refused only if the server refused it.

The conversation is a run of challenges, as many as the server likes, and
one outcome. `converse_heard` follows it round by round; all else happens
once.
-/
import SaslGate.Proofs.Course
import SaslGate.Proofs.Transcript
import SaslGate.Rehearsal.Scene

namespace SaslGate

open SocketEvent (chunks received sent Flows)
open Event (calls)

namespace PlainRelay

variable {κ σ : Type}

-- ===================================================== the conversation

/-- How one round ends, if it ends with a reply: a challenge has been
answered, or an outcome is there. -/
theorem round_heard [Wire σ] {id : Nat} {timeout : Option Duration}
    {k k' : Link Client σ} {c : Client} {fs : List Frame} {output : Bytes}
    {t u : List Event} {r : Except AuthError Bool}
    (h : Transcript id timeout k c fs output t none) (ready : c.Ready)
    (hr : round.run k = ⟨r, k', u⟩) :
    (∃ data bytes c', r = .ok true
        ∧ Client.sized (.response []) = .ok bytes ∧ c'.Ready
        ∧ Transcript id timeout k' c' (fs ++ [.challenge data])
            (output ++ bytes) (t ++ u) none)
    ∨ (∃ code data c' b', (r = .ok false ∧ code = .ok
          ∨ r = .error .rejected ∧ code ≠ .ok)
        ∧ Transcript id timeout k' c' (fs ++ [.outcome code data]) output
            (t ++ u) b')
    ∨ ∃ e, r = .error e ∧ e ≠ .rejected := by
  rcases Act.bind_cases hr with ⟨e, rfl, hawait⟩
    | ⟨reply, k₁, t₁, t₂, hawait, hrest, rfl⟩
  · refine .inr (.inr ⟨e, rfl, ?_⟩)
    -- waiting itself never ends in a refusal
    rintro rfl
    exact Reply.avoids_await .rejected k (congrArg Run.result hawait)
  · obtain ⟨f, d, c₁, b₁, hbrings, hd, htrans⟩ := h.await ready hawait
    cases hbrings with
    | passed data =>
      cases hrest
      rw [List.append_nil]
      exact .inr (.inl ⟨.ok, data, c₁, b₁, .inl ⟨rfl, rfl⟩, htrans⟩)
    | failed code data hcode =>
      cases hrest
      rw [List.append_nil]
      exact .inr (.inl ⟨code, data, c₁, b₁, .inr ⟨rfl, hcode⟩, htrans⟩)
    | challenge data =>
      obtain ⟨k₂, htake, htrans₂⟩ := htrans.takePending
      simp only [Act.run_bind_ok _ htake] at hrest
      rcases hsend : (Link.sendResponse []).run k₂ with ⟨r₂, k₃, t₃⟩
      cases r₂ with
      | error e =>
        rw [Act.run_bind_error _ hsend] at hrest
        cases hrest
        refine .inr (.inr ⟨e, rfl, ?_⟩)
        rintro rfl
        exact Link.avoids_send .rejected (.sendResponse []) k₂
          (congrArg Run.result hsend)
      | ok done =>
        rw [Act.run_bind_ok _ hsend] at hrest
        cases hrest
        obtain ⟨-, bytes, hsized, htrans₃⟩ := htrans₂.sendResponse hsend
        have hready : Client.Ready { c₁ with pending := none } := by
          rw [hd]
          exact ⟨ready.offered, ready.stepping, rfl⟩
        refine .inl ⟨data, bytes, _, rfl, hsized, hready, ?_⟩
        simpa using htrans₃

/-- A conversation that ended with an outcome, after challenges that were
each answered with nothing; `r` says which outcome. -/
def Concludes (id : Nat) (timeout : Option Duration) (fs : List Frame)
    (output : Bytes) (t : List Event) (r : Except AuthError Unit)
    (k : Link Client σ) : Prop :=
  ∃ (challenges : List Bytes) (code : SaslCode) (data : Option Bytes)
      (bytes : Bytes) (c : Client) (b : Option Instant),
    (r = .ok () ∧ code = .ok ∨ r = .error .rejected ∧ code ≠ .ok)
    ∧ Utters (challenges.map fun _ => .response []) bytes
    ∧ Transcript id timeout k c
        (fs ++ (challenges.map .challenge ++ [.outcome code data]))
        (output ++ bytes) t b

/-- Whoever comes back from a conversation with an outcome has heard it. -/
theorem converse_heard [Wire σ] {id : Nat} {timeout : Option Duration}
    {k k' : Link Client σ} {c : Client} {fs : List Frame} {output : Bytes}
    {t u : List Event} {r : Except AuthError Unit}
    (h : Transcript id timeout k c fs output t none) (ready : c.Ready)
    (hr : converse.run k = ⟨r, k', u⟩)
    (hend : r = .ok () ∨ r = .error .rejected) :
    Concludes id timeout fs output (t ++ u) r k' := by
  -- The result and the trace so far are arguments of the claim, for the
  -- rounds add to both.
  have key : ∀ k : Link Client σ, ∀ c fs output t r k' u,
      converse.run k = ⟨r, k', u⟩ →
      Transcript id timeout k c fs output t none → c.Ready →
      r = .ok () ∨ r = .error .rejected →
      Concludes id timeout fs output (t ++ u) r k' := by
    intro k
    refine Act.iterate_rec (P := fun k run => ∀ c fs output t r k' u,
      run = ⟨r, k', u⟩ →
      Transcript id timeout k c fs output t none → c.Ready →
      r = .ok () ∨ r = .error .rejected →
      Concludes id timeout fs output (t ++ u) r k') ?_ ?_ ?_ k
    · intro k k₁ t₁ run hround ih c fs output t r k' u hrun h ready hend
      obtain ⟨result, k₂, t₂⟩ := run
      cases hrun
      rcases round_heard h ready hround with
        ⟨data, bytes, c₁, -, hsized, hready, htrans⟩
        | ⟨_, _, _, _, ⟨he, -⟩ | ⟨he, -⟩, -⟩ | ⟨e, he, -⟩
      · obtain ⟨challenges, code, data', bytes', c', b', hcode, hutters,
          htrans'⟩ := ih _ _ _ _ _ _ _ rfl htrans hready hend
        refine ⟨data :: challenges, code, data', bytes ++ bytes', c', b',
          hcode, .cons hsized hutters, ?_⟩
        simpa using htrans'
      · cases he
      · cases he
      · cases he
    · intro k k₁ t₁ hround c fs output t r k' u hrun h ready hend
      cases hrun
      rcases round_heard h ready hround with ⟨_, _, _, he, -⟩
        | ⟨code, data, c', b', ⟨-, hcode⟩ | ⟨he, -⟩, htrans⟩ | ⟨e, he, -⟩
      · cases he
      · refine ⟨[], code, data, [], c', b', .inl ⟨rfl, hcode⟩, .nil, ?_⟩
        simpa using htrans
      · cases he
      · cases he
    · intro k e k₁ t₁ hround c fs output t r k' u hrun h ready hend
      cases hrun
      rcases round_heard h ready hround with ⟨_, _, _, he, -⟩
        | ⟨code, data, c', b', ⟨he, -⟩ | ⟨he, hcode⟩, htrans⟩
        | ⟨e', he, hne⟩
      · cases he
      · cases he
      · cases he
        refine ⟨[], code, data, [], c', b', .inr ⟨rfl, hcode⟩, .nil, ?_⟩
        simpa using htrans
      · cases he
        rcases hend with hend | hend
        · cases hend
        · cases hend
          exact absurd rfl hne
  exact key k c fs output t r k' u hr h ready hend

end PlainRelay

-- ========================================================== one exchange

/-- What passed between a session and the server. -/
structure PlainExchange where
  socket : Nat
  offer : List String
  challenges : List Bytes
  code : SaslCode
  data : Option Bytes

namespace PlainExchange

/-- The frames of the server. -/
def heard (x : PlainExchange) : List Frame :=
  .mechanisms x.offer :: (x.challenges.map .challenge ++
    [.outcome x.code x.data])

/-- The frames of the session: the client's message as it came, and nothing
in answer to every challenge. -/
def said (x : PlainExchange) (config : RemoteConfig) (message : Bytes) :
    List Frame :=
  .init plainName (some message) (some config.effectiveHostname) ::
    x.challenges.map fun _ => .response []

/-- A trace shows the exchange and nothing else: one connection, over which
the server offered the mechanism, and all of the exchange passed, without a
call that failed or came too late. -/
structure Shows (config : RemoteConfig) (message : Bytes) (t : List Event)
    (x : PlainExchange) : Prop where
  offered : plainName ∈ x.offer
  passed : ∃ output u, t = .connect config.host config.portNumber
        config.connectTimeout (.ok x.socket) :: u
    ∧ Utters (x.said config message) output
    ∧ Conversation x.socket config.negotiationTimeout x.heard
        (Header.sasl.encode ++ output) u

end PlainExchange

namespace PlainRelay

variable {κ σ : Type}

/-- A conversation that ended with an outcome, as an exchange of the
session. -/
theorem Concludes.shows [Wire σ] {config : RemoteConfig} {message : Bytes}
    {id : Nat} {names : List String} {bytes : Bytes} {u : List Event}
    {r : Except AuthError Unit} {k : Link Client σ}
    (h : Concludes id config.negotiationTimeout [.mechanisms names]
      (Header.sasl.encode ++ bytes) u r k)
    (offered : plainName ∈ names)
    (sized : Client.sized (.init plainName (some message)
      (some config.effectiveHostname)) = .ok bytes) :
    ∃ x : PlainExchange,
      (r = .ok () ∧ x.code = .ok ∨ r = .error .rejected ∧ x.code ≠ .ok)
      ∧ x.Shows config message (.connect config.host config.portNumber
          config.connectTimeout (.ok id) :: u ++ Link.farewell (some k)) := by
  obtain ⟨challenges, code, data, rest, c, b, hcode, hutters, htrans⟩ := h
  refine ⟨⟨id, names, challenges, code, data⟩, hcode, offered,
    bytes ++ rest, u ++ Link.farewell (some k), rfl,
    .cons sized hutters, ?_⟩
  have hclose := htrans.close (List.cons_ne_nil _ _)
  rw [List.append_assoc] at hclose
  exact hclose

/-- A message that is refused is never refused as by the server. -/
theorem parse_ne_rejected (message : Bytes) :
    PlainCredentials.parse message ≠ .error .rejected := by
  unfold PlainCredentials.parse
  split
  · exact nofun
  · split
    · unfold PlainCredentials.check
      split
      · exact nofun
      · split
        · exact nofun
        · split <;> exact nofun
    · exact nofun

/-- How a message is passed on, by the result. -/
theorem delegate_cases [Connector κ σ] [Wire σ] {config : RemoteConfig}
    {message : Bytes} {d d' : Desk κ (PlainRelay σ)}
    {r : Except AuthError Bytes} {t : List Event}
    (hid : d.session.authorizationId = none)
    (h : (delegate config message).run d = ⟨r, d', t⟩) :
    (∃ e, r = .error e ∧ e ≠ .rejected ∧ d'.session.authorizationId = none)
    ∨ ∃ credentials x, PlainCredentials.parse message = .ok credentials
        ∧ (r = .ok [] ∧ x.code = .ok
            ∧ d'.session.authorizationId = some credentials.username
          ∨ r = .error .rejected ∧ x.code ≠ .ok
            ∧ d'.session.authorizationId = none)
        ∧ PlainExchange.Shows config message
            (t ++ Link.farewell d'.session.link) x := by
  obtain ⟨opener, session⟩ := d
  unfold delegate at h
  rcases Act.bind_cases h with ⟨e, rfl, hparse⟩
    | ⟨credentials, d₁, t₁, t₂, hparse, hdial, rfl⟩
  · have hne : e ≠ .rejected := by
      rintro rfl
      exact parse_ne_rejected message (congrArg Run.result hparse)
    cases congrArg Run.state hparse
    exact .inl ⟨e, rfl, hne, hid⟩
  have hcredentials : PlainCredentials.parse message = .ok credentials :=
    congrArg Run.result hparse
  cases congrArg Run.state hparse
  cases congrArg Run.events hparse
  rcases Act.bind_cases hdial with ⟨e, rfl, hboot⟩
    | ⟨k, d₂, u₁, u₂, hboot, hrest, rfl⟩
  · have hne : e ≠ .rejected := by
      rintro rfl
      exact (Link.avoids_bootstrap .rejected _ _).focus _
        (congrArg Run.result hboot)
    have hsame : d'.session = session :=
      (congrArg (fun r => r.state.session) hboot).symm
    refine .inl ⟨e, rfl, hne, ?_⟩
    rw [hsame]
    exact hid
  -- the link is up, and the transcript of all that follows starts with it
  obtain ⟨opener₂, hlink, rfl⟩ := Desk.ofOpener_inv hboot
  obtain ⟨id, names, c, v, b, rfl, hmem, hc, htrans⟩ :=
    Link.bootstrap_transcript hlink
  have hhold : (Desk.hold slot k).run ⟨opener₂, session⟩ =
      (⟨.ok (), ⟨opener₂, { session with link := some k }⟩, []⟩ :
        Run Event (Desk κ (PlainRelay σ)) AuthError Unit) := rfl
  rw [Act.run_bind_ok _ hhold] at hrest
  rcases Act.bind_cases hrest with ⟨e, rfl, hheld⟩
    | ⟨_, d₃, v₁, v₂, hheld, htail, rfl⟩
  · obtain ⟨k₁, hinit, rfl⟩ := Desk.onHeld_cases hheld rfl
    refine .inl ⟨e, rfl, ?_, hid⟩
    rintro rfl
    exact Link.avoids_send .rejected (.sendInit _ _ _) k
      (congrArg Run.result hinit)
  obtain ⟨k₁, hinit, rfl⟩ := Desk.onHeld_cases hheld rfl
  obtain ⟨hoffered, bytes, hsized, htrans₁⟩ := htrans.sendInit hinit
  have hready : Client.Ready { c with progress := .step } := by
    refine ⟨hoffered, rfl, ?_⟩
    rw [hc]
    rfl
  rcases Act.bind_cases htail with ⟨e, rfl, hheld₂⟩
    | ⟨_, d₄, w₁, w₂, hheld₂, hend, rfl⟩
  · obtain ⟨k₂, hconverse, rfl⟩ := Desk.onHeld_cases hheld₂ rfl
    -- a refusal comes from the outcome, any other error is passed on
    by_cases he : e = .rejected
    · subst he
      obtain ⟨x, ⟨hr, -⟩ | ⟨-, hcode⟩, hshows⟩ :=
        (converse_heard htrans₁ hready hconverse (.inr rfl)).shows hmem hsized
      · cases hr
      · refine .inr ⟨credentials, x, hcredentials, .inr ⟨rfl, hcode, hid⟩, ?_⟩
        simpa [slot] using hshows
    · exact .inl ⟨e, rfl, he, hid⟩
  · obtain ⟨k₂, hconverse, rfl⟩ := Desk.onHeld_cases hheld₂ rfl
    cases hend
    obtain ⟨x, ⟨-, hcode⟩ | ⟨hr, -⟩, hshows⟩ :=
      (converse_heard htrans₁ hready hconverse (.inl rfl)).shows hmem hsized
    · refine .inr ⟨credentials, x, hcredentials, .inl ⟨rfl, hcode, rfl⟩, ?_⟩
      simpa [slot] using hshows
    · cases hr

/-- A message is passed on once. Every later one is turned away. -/
theorem evaluate_cases [Connector κ σ] [Wire σ] {config : RemoteConfig}
    {message : Bytes} {d d' : Desk κ (PlainRelay σ)}
    {answer : Except AuthError Bytes} {t : List Event}
    (h : (evaluate config message).run d = ⟨answer, d', t⟩) :
    (d.session.outcome.isSome = true ∧ answer = .error .notYetComplete
        ∧ d' = d ∧ t = [])
    ∨ (d.session.outcome = none ∧ ∃ d₁ t₁,
        (delegate config message).run d = ⟨answer, d₁, t₁⟩
        ∧ t = t₁ ++ Link.farewell d₁.session.link
        ∧ d'.session = ⟨none, some (Outcome.of answer),
            d₁.session.authorizationId⟩) := by
  have hcurrent : (Desk.current : Working κ (PlainRelay σ) _).run d =
      ⟨.ok d.session, d, []⟩ := rfl
  unfold evaluate at h
  rw [Act.run_bind_ok _ hcurrent] at h
  cases ho : d.session.outcome with
  | some outcome =>
    simp only [ho, Option.isSome_some, if_true] at h
    cases h
    exact .inl ⟨rfl, rfl, rfl, rfl⟩
  | none =>
    simp only [ho, Option.isSome_none, Bool.false_eq_true, if_false] at h
    rcases hd : (delegate config message).run d with ⟨result, d₁, t₁⟩
    have hattempt : ((delegate config message).attempt :
        Working κ (PlainRelay σ) _).run d = ⟨.ok result, d₁, t₁⟩ := by
      simp [Act.attempt, hd]
    rw [Act.run_bind_ok _ hattempt] at h
    simp only [Act.run_bind, Desk.change, Act.run_update, run_release,
      Act.run_ofExcept, Run.after, List.nil_append, List.append_nil] at h
    cases h
    exact .inr ⟨rfl, d₁, t₁, rfl, rfl, rfl⟩

-- ========================================================= whole sessions

/-- What the answer to the first message stands for. A failure leaves no
identity. -/
def Verdict (config : RemoteConfig) (message : Bytes) (t : List Event)
    (identity : Option String) : Except AuthError Bytes → Prop
  | .ok reply => reply = [] ∧ ∃ credentials x,
      PlainCredentials.parse message = .ok credentials
      ∧ identity = some credentials.username ∧ x.code = .ok
      ∧ PlainExchange.Shows config message t x
  | .error e => identity = none ∧ (e = .rejected → ∃ credentials x,
      PlainCredentials.parse message = .ok credentials ∧ x.code ≠ .ok
      ∧ PlainExchange.Shows config message t x)

/-- Where a session stands: nobody has asked it anything, or the first
message has been answered, once and for all. -/
inductive Stands (config : RemoteConfig) :
    List (Bytes × Except AuthError Bytes) → List Event → PlainRelay σ → Prop
  | fresh : Stands config [] [] .fresh
  | answered {message : Bytes} {answer : Except AuthError Bytes}
      {later : List (Bytes × Except AuthError Bytes)} {t : List Event}
      {identity : Option String}
      (verdict : Verdict config message t identity answer) :
      Stands config ((message, answer) :: later) t
        ⟨none, some (Outcome.of answer), identity⟩

section Sessions

variable {δ γ : Type} [Connector κ σ] [Wire σ] [DirectoryService δ γ]
  [DirectoryConnection γ]

/-- The answer to the first message of all. -/
theorem Stands.first {config : RemoteConfig} {message : Bytes} {opener : κ}
    {r : Run Event (Desk κ (PlainRelay σ)) AuthError Bytes}
    (h : r = (evaluate config message).run ⟨opener, .fresh⟩) :
    Stands config [(message, r.result)] r.events r.state.session := by
  obtain ⟨answer, d', t⟩ := r
  rcases evaluate_cases h.symm with ⟨hdone, -⟩
    | ⟨-, d₁, t₁, hdelegate, rfl, hsession⟩
  · cases hdone
  · simp only [hsession]
    refine .answered ?_
    rcases delegate_cases rfl hdelegate with ⟨e, rfl, hne, hid⟩
      | ⟨credentials, x, hparse, ⟨rfl, hcode, hid⟩ | ⟨rfl, hcode, hid⟩, hshows⟩
    · exact ⟨hid, fun he => absurd he hne⟩
    · exact ⟨rfl, credentials, x, hparse, hid, hcode, hshows⟩
    · exact ⟨hid, fun _ => ⟨credentials, x, hparse, hcode, hshows⟩⟩

/-- One call leaves a session in good standing. -/
theorem Stands.served {config : RemoteConfig}
    {es : List (Bytes × Except AuthError Bytes)} {t u : List Event}
    {relay : PlainRelay σ} {c : HostCall} {s : Session σ γ}
    (h : Stands config es t relay)
    (hs : Served κ δ (.plain config relay) c u s) :
    ∃ relay', s = .plain config relay'
      ∧ Stands config (es ++ c.evaluated?.toList) (t ++ u) relay' := by
  rcases hs.plain with ⟨message, opener, r, hr, hc, rfl, rfl⟩
    | ⟨opener, r, hr, hc, rfl, rfl⟩ | ⟨hc, rfl, rfl⟩
  · refine ⟨_, rfl, ?_⟩
    rw [hc]
    cases h with
    | fresh => exact .first hr
    | answered verdict =>
      obtain ⟨answer, d', v⟩ := r
      rcases evaluate_cases hr.symm with ⟨-, rfl, rfl, rfl⟩ | ⟨hnone, -⟩
      · rw [List.append_nil]
        exact .answered verdict
      · cases hnone
  · refine ⟨_, rfl, ?_⟩
    rw [hc, hr, run_release]
    cases h with
    | fresh => exact .fresh
    | answered verdict =>
      simp only [Option.toList_none, List.append_nil, Link.farewell]
      exact .answered verdict
  · refine ⟨relay, rfl, ?_⟩
    rw [hc]
    simpa using h

/-- Every session that began afresh stands somewhere. -/
theorem stands_of_course {config : RemoteConfig} {calls : List HostCall}
    {t : List Event} {s : Session σ γ}
    (course : Course κ δ (.plain config .fresh) calls t s) :
    ∃ relay, s = .plain config relay
      ∧ Stands config (evaluations calls) t relay := by
  induction course with
  | start => exact ⟨.fresh, rfl, .fresh⟩
  | @call calls t u s s' c before served ih =>
    obtain ⟨relay, rfl, hstands⟩ := ih
    obtain ⟨relay', hs', hstands'⟩ := hstands.served served
    refine ⟨relay', hs', ?_⟩
    rw [evaluations_append, evaluations_singleton]
    exact hstands'

/-- Whatever a host asks of a session and whatever its peers do: the first
message is accepted only if it holds credentials and the server accepted
that very message over the one connection, and it is refused only if the
server refused it. A session succeeds only without a failed call. -/
theorem delegation_sound {config : RemoteConfig} {calls : List HostCall}
    {t : List Event} {s : Session σ γ}
    (course : Course κ δ (.plain config .fresh) calls t s) :
    (∀ message reply later,
      evaluations calls = (message, .ok reply) :: later →
      reply = [] ∧ ∃ credentials x,
        PlainCredentials.parse message = .ok credentials
        ∧ s.authorizationId = .ok credentials.username ∧ x.code = .ok
        ∧ PlainExchange.Shows config message t x)
    ∧ (∀ message later,
      evaluations calls = (message, .error .rejected) :: later →
      s.authorizationId = .error .notYetComplete ∧ ∃ credentials x,
        PlainCredentials.parse message = .ok credentials
        ∧ x.code ≠ .ok ∧ PlainExchange.Shows config message t x)
    ∧ (s.outcome = some .success →
      (∃ message reply later,
        evaluations calls = (message, .ok reply) :: later)
      ∧ SocketEvent.Smooth config.negotiationTimeout (Event.calls t)) := by
  obtain ⟨relay, rfl, hstands⟩ := stands_of_course course
  generalize evaluations calls = es at hstands
  cases hstands with
  | fresh =>
    refine ⟨?_, ?_, ?_⟩
    · intro message reply later hes
      cases hes
    · intro message later hes
      cases hes
    · intro hsuccess
      cases hsuccess
  | @answered message answer later t identity verdict =>
    refine ⟨?_, ?_, ?_⟩
    · intro message' reply later' hes
      cases hes
      obtain ⟨hreply, credentials, x, hparse, rfl, hcode, hshows⟩ := verdict
      exact ⟨hreply, credentials, x, hparse, rfl, hcode, hshows⟩
    · intro message' later' hes
      cases hes
      exact ⟨rfl, verdict.2 rfl⟩
    · intro hsuccess
      cases answer with
      | error e => cases hsuccess
      | ok reply =>
        obtain ⟨-, -, x, -, -, -, -, output, u, rfl, -, hpassed⟩ := verdict
        exact ⟨⟨message, reply, later, rfl⟩, hpassed.smooth⟩

end Sessions

end PlainRelay

-- ============================================================= a rehearsal

namespace Rehearsal

open PlainRelay

/-- A message of the user `u` with the password `p`. -/
def plainMessage : Bytes := [0, 117, 0, 112]

/-- A server that challenges once before it accepts. The read between the
two is interrupted. -/
def plainDesk : Desk (World Remote Directory) Actor :=
  ⟨worldOf [.ok (Header.sasl.encode ++ frames [.mechanisms [plainName]]),
      .ok (frames [.challenge [1]]), .error .interrupted,
      .ok (frames [.outcome .ok none])],
    .plain { host := "broker" } .fresh⟩

/-- What comes of the message. -/
def plainRun : Run Event (Desk (World Remote Directory) Actor) AuthError
    Bytes :=
  (Session.evaluate plainMessage).run plainDesk

/-- The message, as a course of its own. -/
theorem plainCourse :
    Course Remote Directory (.plain { host := "broker" } .fresh)
      [.evaluate plainMessage plainRun.result] plainRun.events
      plainRun.state.session := by
  have served : Served Remote Directory plainDesk.session
      (.evaluate plainMessage plainRun.result) plainRun.events
      plainRun.state.session := .evaluate plainMessage plainDesk
  exact .call .start served

theorem plainRun_result : plainRun.result = .ok [] :=
  Act.eq_ok_of_toOption (by decide +kernel)

/-- The rehearsal is a sound delegation. -/
theorem delegation_sound_rehearsal :
    plainRun.state.session.outcome = some .success
    ∧ (∃ credentials x,
      PlainCredentials.parse plainMessage = .ok credentials
      ∧ plainRun.state.session.authorizationId = .ok credentials.username
      ∧ x.code = .ok
      ∧ PlainExchange.Shows { host := "broker" } plainMessage
          plainRun.events x)
    ∧ SocketEvent.Smooth (some defaultTimeout)
        (Event.calls plainRun.events) := by
  have hsuccess : plainRun.state.session.outcome = some .success := by
    decide +kernel
  obtain ⟨haccepted, -, hsmooth⟩ := delegation_sound plainCourse
  refine ⟨hsuccess, ?_, (hsmooth hsuccess).2⟩
  exact (haccepted _ [] [] (by rw [plainRun_result]; rfl)).2

/-- Whether a call is a read that was interrupted. -/
def isInterruption : SocketEvent → Bool
  | .read (.error .interrupted) => true
  | _ => false

theorem eq_of_isInterruption {e : SocketEvent} (h : isInterruption e = true) :
    e = .read (.error .interrupted) := by
  unfold isInterruption at h
  split at h
  · rfl
  · cases h

/-- Not every error of a read stands in the way of success: a read that was
interrupted is tried again. -/
theorem interrupted_read_succeeds :
    ¬ ∀ (calls : List HostCall) (t : List Event) (s : Actor),
      Course Remote Directory (.plain { host := "broker" } .fresh) calls t s →
      (∃ kind, SocketEvent.read (.error kind) ∈ Event.calls t) →
      s.outcome ≠ some .success := by
  intro h
  have hread : (Event.calls plainRun.events).any isInterruption = true := by
    decide +kernel
  obtain ⟨e, hmem, he⟩ := List.any_eq_true.1 hread
  rw [eq_of_isInterruption he] at hmem
  exact h _ _ _ plainCourse ⟨.interrupted, hmem⟩ (by decide +kernel)

end Rehearsal

end SaslGate
