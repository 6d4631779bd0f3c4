/-
The one connection of a relayed session, from the attempt to open it until it
is closed, over every sequence of calls and every behaviour of the peers.

Between two calls a PLAIN session holds no connection, and a SCRAM session
holds one only while it waits for the proof (`PlainRelay.Tended`,
`ScramRelay.Tended`). Every call keeps that, because whatever it does to the
connection is accounted for, and letting go of a connection closes it
(`Custody.farewell`). `Session.Tended` is what both kinds have in common, and
`connection_closed_once` is read off it.
-/
import SaslGate.Proofs.Session.Holding
import SaslGate.Proofs.Session.Sequence

namespace SaslGate

open Act (Ends)
open Turn (frames)
open Client (Owing)

-- ================================================================ calls

/-- The messages that a host passed on, in order. -/
def messages (calls : List HostCall) : List Bytes :=
  (evaluations calls).map Prod.fst

@[simp] theorem messages_append (a b : List HostCall) :
    messages (a ++ b) = messages a ++ messages b := by
  simp [messages]

@[simp] theorem messages_singleton (c : HostCall) :
    messages [c] = (c.evaluated?.map Prod.fst).toList := by
  cases hc : c.evaluated? <;> simp [messages, hc]

/-- A message that is the only one is the first. -/
theorem messages_eq_nil_of_once {before after : List HostCall}
    {message only : Bytes} {answer : Except AuthError Bytes}
    (h : messages (before ++ .evaluate message answer :: after) = [only]) :
    messages before = [] := by
  have hlength := congrArg List.length h
  have hcons : messages (.evaluate message answer :: after)
      = message :: messages after := rfl
  rw [messages_append, hcons, List.length_append, List.length_cons,
    List.length_singleton] at hlength
  exact List.eq_nil_of_length_eq_zero (by omega)

/-- A call that neither passes a message on nor lets go of anything. -/
def HostCall.IsQuestion : HostCall → Prop
  | evaluate .. | dispose _ => False
  | wrap .. | unwrap .. | property .. | authorizationId _ => True

/-- A call with a message to answer is an evaluation. -/
theorem HostCall.eq_evaluate {c : HostCall} {message : Bytes}
    {answer : Except AuthError Bytes}
    (h : c.evaluated? = some (message, answer)) :
    c = .evaluate message answer := by
  cases c with
  | evaluate message answer =>
    cases h
    rfl
  | _ => cases h

theorem HostCall.IsQuestion.evaluated?_eq_none {c : HostCall}
    (h : c.IsQuestion) : c.evaluated? = none := by
  cases c <;> first | rfl | exact h.elim

/-- Of the calls without a message, only dispose is no question. -/
theorem HostCall.isQuestion {c : HostCall} (h : c.evaluated? = none)
    (hdispose : ¬ ∃ answer, c = .dispose answer) : c.IsQuestion := by
  cases c with
  | evaluate message answer => cases h
  | dispose answer => exact hdispose ⟨answer, rfl⟩
  | _ => trivial

-- ============================================================== disposals

namespace Session

variable {κ δ σ γ : Type} [Wire σ] [DirectoryConnection γ]

/-- Disposing of a session closes its link, if there is one. -/
theorem run_dispose_plain (world : World κ δ) (config : RemoteConfig)
    (relay : PlainRelay σ) :
    (dispose : Serving κ δ σ γ Unit).run ⟨world, .plain config relay⟩ =
      ⟨.ok (), ⟨world, .plain config { relay with link := none }⟩,
        Link.farewell relay.link⟩ := by
  simp [dispose, serve, PlainRelay.run_release]

theorem run_dispose_scram (world : World κ δ) (config : RemoteConfig)
    (relay : ScramRelay σ) :
    (dispose : Serving κ δ σ γ Unit).run ⟨world, .scram config relay⟩ =
      ⟨.ok (), ⟨world, .scram config { relay with link := none }⟩,
        Link.farewell relay.link⟩ := by
  simp [dispose, serve, ScramRelay.run_release]

end Session

/-- A disposal that was answered. -/
theorem Served.dispose_inv {κ δ σ γ : Type} [Connector κ σ] [Wire σ]
    [DirectoryService δ γ] [DirectoryConnection γ] {s s' : Session σ γ}
    {answer : Except AuthError Unit} {u : List Event}
    (h : Served κ δ s (.dispose answer) u s') :
    ∃ (world world' : World κ δ), Session.dispose.run ⟨world, s⟩ =
      ⟨answer, ⟨world', s'⟩, u⟩ := by
  cases h with
  | dispose d => exact ⟨d.opener, _, rfl⟩

-- ================================================================= PLAIN

namespace PlainRelay

variable {κ σ : Type} [Connector κ σ] [Wire σ] {config : RemoteConfig}
  {t : List Event}

/-- Where a session stands between two calls, with its messages and its
trace. It holds no connection. -/
inductive Tended (config : RemoteConfig) :
    List Bytes → List Event → PlainRelay σ → Prop
  | fresh : Tended config [] [] .fresh
  | answered {message : Bytes} {later : List Bytes} {t : List Event}
      {outcome : Outcome} {id : Option String}
      (account : Accounted (σ := σ) config
        (∃ credentials, PlainCredentials.parse message = .ok credentials)
        (fun us => MaySay config (message :: later) (frames us)) none t) :
      Tended config (message :: later) t ⟨none, some outcome, id⟩

section Courses

variable {δ γ : Type} [DirectoryService δ γ] [DirectoryConnection γ]

/-- One call leaves the connection accounted for. -/
theorem Tended.served {ms : List Bytes} {u : List Event}
    {relay : PlainRelay σ} {c : HostCall} {s : Session σ γ}
    (h : Tended config ms t relay)
    (hs : Served κ δ (.plain config relay) c u s) :
    ∃ relay', s = .plain config relay'
      ∧ Tended config (ms ++ messages [c]) (t ++ u) relay' := by
  rcases hs.plain with ⟨message, opener, r, hr, hc, rfl, rfl⟩
    | ⟨opener, r, hr, hc, rfl, rfl⟩ | ⟨hc, rfl, rfl⟩
  · refine ⟨_, rfl, ?_⟩
    obtain ⟨answer, d', v⟩ := r
    rw [messages_singleton, hc]
    rcases evaluate_cases hr.symm with ⟨hdone, -, rfl, rfl⟩
      | ⟨hopen, d₁, t₁, hdelegate, rfl, hsession⟩
    · cases h with
      | fresh => cases hdone
      | answered account =>
        rw [List.append_nil]
        exact .answered account
    · cases h with
      | answered account => cases hopen
      | fresh =>
        have hspec : Ends [] (delegate config message)
          ⟨opener, .fresh⟩ _ _ := ends_delegate rfl
        have haccount : Accounted config
            (∃ credentials, PlainCredentials.parse message = .ok credentials)
            (fun us => MaySay config [message] (frames us))
            d₁.session.link t₁ := by
          cases answer with
          | ok reply => exact hspec.of_ok hdelegate
          | error e => exact hspec.of_error hdelegate
        simp only [hsession]
        exact .answered haccount.farewell
  · refine ⟨_, rfl, ?_⟩
    rw [messages_singleton, hc, hr, run_release]
    cases h with
    | fresh => exact .fresh
    | answered account =>
      simp only [Option.map_none, Option.toList_none, List.append_nil,
        Link.farewell]
      exact .answered account
  · refine ⟨relay, rfl, ?_⟩
    rw [messages_singleton, hc]
    simpa using h

/-- Where a session stands after any calls. -/
theorem tended_of_course {calls : List HostCall} {s : Session σ γ}
    (course : Course κ δ (.plain config .fresh) calls t s) :
    ∃ relay, s = .plain config relay
      ∧ Tended config (messages calls) t relay := by
  induction course with
  | start => exact ⟨.fresh, rfl, .fresh⟩
  | call before served ih =>
    obtain ⟨relay, rfl, htended⟩ := ih
    rw [messages_append]
    exact htended.served served

end Courses

end PlainRelay

-- ================================================================= SCRAM

namespace ScramRelay

variable {κ σ : Type} {config : RemoteConfig} {mechanism : ScramMechanism}
  {t : List Event}

/-- Where a session stands between two calls, with the calls so far and its
trace. It holds a connection only while it waits for the proof. -/
inductive Tended (config : RemoteConfig) (mechanism : ScramMechanism)
    (calls : List HostCall) (t : List Event) : ScramRelay σ → Prop
  | fresh (unasked : messages calls = []) (idle : t = []) :
      Tended config mechanism calls t (.fresh mechanism)
  | waiting {relay : ScramRelay σ} {message challenge : Bytes}
      {before after : List HostCall}
      (asked : calls = before ++ .evaluate message (.ok challenge) :: after)
      (since : ∀ c ∈ after, c.IsQuestion) (once : messages calls = [message])
      (understood : ∃ clientFirst,
        ClientFirst.parse message = .ok clientFirst)
      (stage : relay.stage = .awaitingProof)
      (held : ∃ k, relay.link = some k ∧ k.Known config
        (Owing (script config mechanism [message])) t) :
      Tended config mechanism calls t relay
  | released {relay : ScramRelay σ} {message : Bytes} {later : List Bytes}
      (asked : messages calls = message :: later)
      (place : relay.stage = .awaitingProof ∧ later = []
        ∨ ∃ outcome, relay.stage = .done outcome)
      (free : relay.link = none)
      (account : Accounted (σ := σ) config
        (∃ clientFirst, ClientFirst.parse message = .ok clientFirst)
        (fun us => frames us <+: script config mechanism (message :: later))
        none t) :
      Tended config mechanism calls t relay

section Messages

variable [Connector κ σ] [Wire σ] {calls : List HostCall} {opener : κ}
  {relay : ScramRelay σ} {message : Bytes} {answer : Except AuthError Bytes}
  {d' : Desk κ (ScramRelay σ)} {u : List Event}

theorem messages_evaluate (message : Bytes)
    (answer : Except AuthError Bytes) :
    messages (calls ++ [.evaluate message answer])
      = messages calls ++ [message] := by
  simp [HostCall.evaluated?]

/-- The first message: the session holds its connection only if it has been
challenged. -/
theorem tended_first (unasked : messages calls = [])
    (hr : (evaluate config message).run ⟨opener, .fresh mechanism⟩ =
      ⟨answer, d', u⟩) :
    Tended config mechanism (calls ++ [.evaluate message answer]) u
      d'.session := by
  have hmessages : messages (calls ++ [.evaluate message answer])
      = [message] := by
    rw [messages_evaluate, unasked]
    rfl
  rcases evaluate_cases hr with ⟨hdone, -⟩ | ⟨-, d₁, t₁, hdispatch, hend⟩
  · cases hdone
  have hspec : Ends [] (dispatch config message)
    (⟨opener, .fresh mechanism⟩ : Desk κ (ScramRelay σ)) _ _ :=
    ends_dispatch_first rfl rfl rfl
  cases answer with
  | ok reply =>
    obtain ⟨hparsed, hholds⟩ := hspec.of_ok hdispatch
    -- whoever answers the first message waits for the proof
    have hturns : Ends [] (dispatch config message)
      (⟨opener, .fresh mechanism⟩ : Desk κ (ScramRelay σ)) _ _ :=
      ends_dispatch (.inl rfl)
    rcases hturns.of_ok hdispatch with ⟨-, hstage, -⟩ | ⟨hproof, -⟩
    · rcases hend with ⟨-, hsession, rfl⟩ | ⟨hdone, -⟩
      · rw [hsession]
        exact .waiting rfl nofun hmessages hparsed hstage hholds
      · rw [fallIf, hstage] at hdone
        cases hdone
    · cases hproof
  | error e =>
    have haccount := hspec.of_error hdispatch
    rcases hend with ⟨hgoes, -⟩ | ⟨-, hsession, rfl⟩
    · cases hgoes
    · rw [hsession]
      exact .released hmessages (.inr ⟨.failure, rfl⟩) rfl haccount.farewell

/-- The proof: whatever comes of it, the connection is closed. -/
theorem tended_proof {first : Bytes} (once : messages calls = [first])
    (understood : ∃ clientFirst, ClientFirst.parse first = .ok clientFirst)
    (stage : relay.stage = .awaitingProof)
    (held : ∃ k, relay.link = some k ∧ k.Known config
      (Owing (script config mechanism [first])) t)
    (hr : (evaluate config message).run ⟨opener, relay⟩ =
      ⟨answer, d', u⟩) :
    Tended config mechanism (calls ++ [.evaluate message answer]) (t ++ u)
      d'.session := by
  have hmessages : messages (calls ++ [.evaluate message answer])
      = [first, message] := by
    rw [messages_evaluate, once]
    rfl
  rcases evaluate_cases hr with ⟨hdone, -⟩ | ⟨-, d₁, t₁, hdispatch, hend⟩
  · rw [stage] at hdone
    cases hdone
  have hspec : Ends t (dispatch config message)
    (⟨opener, relay⟩ : Desk κ (ScramRelay σ)) _ _ :=
    ends_dispatch_proof stage held
  have hcustody : Custody config (fun us => frames us
      <+: script config mechanism [first, message]) d₁.session.link
      (t ++ t₁) := by
    cases answer with
    | ok reply => exact (hspec.of_ok hdispatch).custody
    | error e => exact (hspec.of_error hdispatch).custody
  have hstage : ∃ outcome, (fallIf answer d₁.session).stage
      = .done outcome := by
    cases answer with
    | error e => exact ⟨.failure, rfl⟩
    | ok reply =>
      have hturns : Ends [] (dispatch config message)
        (⟨opener, relay⟩ : Desk κ (ScramRelay σ)) _ _ :=
        ends_dispatch (.inr stage)
      rcases hturns.of_ok hdispatch with ⟨hinitial, -⟩ | ⟨-, hdone⟩
      · rw [stage] at hinitial
        cases hinitial
      · exact ⟨.success, hdone⟩
  obtain ⟨outcome, hdone⟩ := hstage
  rcases hend with ⟨hgoes, -⟩ | ⟨-, hsession, rfl⟩
  · rw [hdone] at hgoes
    cases hgoes
  · rw [hsession, ← List.append_assoc]
    exact .released hmessages (.inr ⟨outcome, hdone⟩) rfl
      (Accounted.farewell ⟨.inr understood, hcustody⟩)

/-- A message to a session that holds no connection any more. -/
theorem tended_late {first : Bytes} {later : List Bytes}
    (asked : messages calls = first :: later)
    (place : relay.stage = .awaitingProof ∧ later = []
      ∨ ∃ outcome, relay.stage = .done outcome)
    (free : relay.link = none)
    (account : Accounted (σ := σ) config
      (∃ clientFirst, ClientFirst.parse first = .ok clientFirst)
      (fun us => frames us <+: script config mechanism (first :: later))
      none t)
    (hr : (evaluate config message).run ⟨opener, relay⟩ =
      ⟨answer, d', u⟩) :
    Tended config mechanism (calls ++ [.evaluate message answer]) (t ++ u)
      d'.session := by
  have hmessages : messages (calls ++ [.evaluate message answer])
      = first :: (later ++ [message]) := by
    rw [messages_evaluate, asked]
    rfl
  have haccount : Accounted (σ := σ) config
      (∃ clientFirst, ClientFirst.parse first = .ok clientFirst)
      (fun us => frames us <+: script config mechanism
        (first :: (later ++ [message]))) none t := by
    refine account.imp ?_
    intro us hfront
    exact hfront.trans (script_mono (first :: later) [message])
  rcases evaluate_cases hr with ⟨hdone, -, rfl, rfl⟩
    | ⟨hopen, d₁, t₁, hdispatch, hend⟩
  · rcases place with ⟨hproof, -⟩ | hplace
    · simp only [hproof] at hdone
      cases hdone
    · rw [List.append_nil]
      exact .released hmessages (.inr hplace) free haccount
  · rcases place with ⟨hproof, -⟩ | ⟨outcome, hdone⟩
    · -- the link was released in between, so the proof goes nowhere
      rw [run_dispatch_free (d := ⟨opener, relay⟩) hproof free] at hdispatch
      cases hdispatch
      rcases hend with ⟨hgoes, -⟩ | ⟨-, hsession, rfl⟩
      · cases hgoes
      · rw [hsession]
        simp only [free, Link.farewell, List.append_nil]
        exact .released hmessages (.inr ⟨.failure, rfl⟩) rfl haccount
    · simp only [hdone] at hopen
      cases hopen

end Messages

section Courses

variable {δ γ : Type} [Connector κ σ] [Wire σ] [DirectoryService δ γ]
  [DirectoryConnection γ] {calls : List HostCall} {u : List Event}
  {relay : ScramRelay σ} {c : HostCall} {s : Session σ γ}

/-- Letting go of the connection leaves none. -/
theorem Tended.disposed (h : Tended config mechanism calls t relay)
    (hc : c.evaluated? = none) :
    Tended config mechanism (calls ++ [c]) (t ++ Link.farewell relay.link)
      ({ relay with link := none } : ScramRelay σ) := by
  have hmessages : messages (calls ++ [c]) = messages calls := by
    simp [hc]
  cases h with
  | fresh unasked idle =>
    subst idle
    exact .fresh (hmessages.trans unasked) rfl
  | waiting asked since once understood stage held =>
    obtain ⟨k, hlink, hknown⟩ := held
    have hcustody := hknown.imp fun c us hc => hc.said
    rw [hlink]
    refine .released (hmessages.trans once) (.inl ⟨stage, rfl⟩) rfl
      (Accounted.farewell ⟨.inr understood, (Custody.held hcustody).imp ?_⟩)
    intro us hsaid
    exact hsaid ▸ List.prefix_rfl
  | released asked place free account =>
    rw [free, Link.farewell, List.append_nil]
    exact .released (hmessages.trans asked) place rfl account

omit [Wire σ] in
/-- A question leaves all as it is. -/
theorem Tended.questioned (h : Tended config mechanism calls t relay)
    (hc : c.IsQuestion) : Tended config mechanism (calls ++ [c]) t relay := by
  have hmessages : messages (calls ++ [c]) = messages calls := by
    simp [hc.evaluated?_eq_none]
  cases h with
  | fresh unasked idle => exact .fresh (hmessages.trans unasked) idle
  | @waiting _ message challenge before after asked since once understood
      stage held =>
    have hasked : calls ++ [c]
        = before ++ .evaluate message (.ok challenge) :: (after ++ [c]) := by
      rw [asked, List.append_assoc, List.cons_append]
    refine .waiting hasked ?_ (hmessages.trans once) understood stage held
    exact List.forall_mem_append.2 ⟨since, List.forall_mem_singleton.2 hc⟩
  | released asked place free account =>
    exact .released (hmessages.trans asked) place free account

/-- One call leaves the connection accounted for. -/
theorem Tended.served (h : Tended config mechanism calls t relay)
    (hs : Served κ δ (.scram config relay) c u s) :
    ∃ relay', s = .scram config relay'
      ∧ Tended config mechanism (calls ++ [c]) (t ++ u) relay' := by
  by_cases hdispose : ∃ answer, c = .dispose answer
  · obtain ⟨answer, rfl⟩ := hdispose
    obtain ⟨world, world', hrun⟩ := hs.dispose_inv
    rw [Session.run_dispose_scram] at hrun
    cases hrun
    exact ⟨_, rfl, h.disposed rfl⟩
  · rcases hs.scram with ⟨message, opener, r, hr, hc, rfl, rfl⟩
      | ⟨opener, r, hr, hc, rfl, rfl⟩ | ⟨hc, rfl, rfl⟩
    · refine ⟨_, rfl, ?_⟩
      obtain ⟨answer, d', v⟩ := r
      cases HostCall.eq_evaluate hc
      cases h with
      | fresh unasked idle =>
        subst idle
        exact tended_first unasked hr.symm
      | waiting asked since once understood stage held =>
        exact tended_proof once understood stage held hr.symm
      | released asked place free account =>
        exact tended_late asked place free account hr.symm
    · refine ⟨_, rfl, ?_⟩
      rw [hr, run_release]
      exact h.disposed hc
    · refine ⟨relay, rfl, ?_⟩
      rw [List.append_nil]
      exact h.questioned (HostCall.isQuestion hc hdispose)

/-- Where a session stands after any calls. -/
theorem tended_of_course
    (course : Course κ δ (.scram config (.fresh mechanism)) calls t s) :
    ∃ relay, s = .scram config relay
      ∧ Tended config mechanism calls t relay := by
  induction course with
  | start => exact ⟨.fresh mechanism, rfl, .fresh rfl rfl⟩
  | call before served ih =>
    obtain ⟨relay, rfl, htended⟩ := ih
    exact htended.served served

end Courses

end ScramRelay

-- ========================================================= whole sessions

/-- The trace of a connection that is no more: there was none, or it was
refused, or it was shut down once, behind all other calls on its socket. -/
inductive Lifetime (config : RemoteConfig) : List Event → Prop
  | never : Lifetime config []
  | refused (kind : IoKind) : Lifetime config
      [.connect config.host config.portNumber config.connectTimeout
        (.error kind)]
  | whole (id : Nat) {u : List SocketEvent}
      (unshut : ∀ answer, .shutdown answer ∉ u) (answer : Except IoKind Unit) :
      Lifetime config (.connect config.host config.portNumber
          config.connectTimeout (.ok id)
        :: u.map (.socket id)
        ++ [.socket id (.shutdown answer), .engineClosed id])

/-- A connection that is accounted for and not held any more. -/
theorem Custody.lifetime {σ : Type} {config : RemoteConfig}
    {R : List Turn → Prop} {t : List Event}
    (h : Custody (σ := σ) config R none t) : Lifetime config t := by
  cases h with
  | unopened => exact .never
  | refused kind => exact .refused kind
  | @closed id c us u work told answer => exact .whole id work.unshut answer

namespace Session

variable {κ δ σ γ : Type}

/-- A session that is relayed to a remote server and has not been asked
anything. -/
inductive Begins (config : RemoteConfig) : Session σ γ → Prop
  | plain : Begins config (.plain config .fresh)
  | scram (mechanism : ScramMechanism) :
      Begins config (.scram config (.fresh mechanism))

/-- The link that a session holds, if it holds one. -/
def link? : Session σ γ → Option (Link Client σ)
  | plain _ relay => relay.link
  | scram _ relay => relay.link
  | directory .. => none

/-- Whether a session can make sense of a first message. -/
def Understands : Session σ γ → Bytes → Prop
  | plain .., message =>
    ∃ credentials, PlainCredentials.parse message = .ok credentials
  | scram .., message =>
    ∃ clientFirst, ClientFirst.parse message = .ok clientFirst
  | directory .., _ => False

/-- The frames that a session may have said to the server, after messages of
the client. -/
def MaySay : Session σ γ → List Bytes → List Frame → Prop
  | plain config _, ms, fs => PlainRelay.MaySay config ms fs
  | scram config relay, ms, fs =>
    fs <+: ScramRelay.script config relay.mechanism ms
  | directory .., _, fs => fs = []

/-- A SCRAM session that has answered its first message with the challenge, and
has been asked nothing but questions since: it was neither disposed of nor
completed. Before its first message there is nothing to let go of, so a
disposal then leaves a session as good as new. -/
def AwaitsProof (calls : List HostCall) (s : Session σ γ) : Prop :=
  ∃ config relay, s = .scram config relay ∧ relay.stage = .awaitingProof
    ∧ ∃ before message challenge after,
      calls = before ++ .evaluate message (.ok challenge) :: after
        ∧ messages before = [] ∧ ∀ c ∈ after, c.IsQuestion

/-- What holds of the connection of a session between two calls. -/
structure Tended (config : RemoteConfig) (start : Session σ γ)
    (calls : List HostCall) (t : List Event) (s : Session σ γ) : Prop where
  custody : Custody config
    (fun us => start.MaySay (messages calls) (frames us)) s.link? t
  sober : t = [] ∨ ∃ message, (messages calls).head? = some message
    ∧ start.Understands message
  closed : s.outcome ≠ none → s.link? = none
  waits : s.link? ≠ none → s.AwaitsProof calls

section Courses

variable [Connector κ σ] [Wire σ] [DirectoryService δ γ]
  [DirectoryConnection γ] {config : RemoteConfig} {start s s' : Session σ γ}
  {c : HostCall} {calls : List HostCall} {t u : List Event}

/-- A session is looked after through any calls, by induction on them. -/
theorem tended_of_course (begins : start.Begins config)
    (course : Course κ δ start calls t s) :
    Tended config start calls t s := by
  cases begins with
  | plain =>
    obtain ⟨relay, rfl, htended⟩ := PlainRelay.tended_of_course course
    generalize hms : messages calls = ms at htended
    cases htended with
    | fresh =>
      exact ⟨.unopened, .inl rfl, fun _ => rfl, fun h => absurd rfl h⟩
    | answered account =>
      refine ⟨?_, ?_, fun _ => rfl, fun h => absurd rfl h⟩
      · rw [hms]
        exact account.custody
      · rw [hms]
        exact account.sober.imp id fun hparsed => ⟨_, rfl, hparsed⟩
  | scram mechanism =>
    obtain ⟨relay, rfl, htended⟩ := ScramRelay.tended_of_course course
    cases htended with
    | fresh unasked idle =>
      subst idle
      exact ⟨.unopened, .inl rfl, fun _ => rfl, fun h => absurd rfl h⟩
    | @waiting _ message challenge before after asked since once understood
        stage held =>
      obtain ⟨k, hlink, hknown⟩ := held
      refine ⟨?_, .inr ⟨message, ?_, understood⟩, ?_, ?_⟩
      · rw [link?, hlink]
        refine .held (hknown.imp ?_)
        intro c us howing
        rw [once, howing.said]
        exact List.prefix_rfl
      · rw [once]
        rfl
      · intro hdone
        rw [outcome, stage] at hdone
        exact absurd rfl hdone
      · have hfirst : messages before = [] := by
          rw [asked] at once
          exact messages_eq_nil_of_once once
        exact fun _ => ⟨config, relay, rfl, stage, before, message, challenge,
          after, asked, hfirst, since⟩
    | released asked place free account =>
      refine ⟨?_, ?_, fun _ => free, fun h => absurd free h⟩
      · rw [link?, free, asked]
        exact account.custody
      · rw [asked]
        exact account.sober.imp id fun hparsed => ⟨_, rfl, hparsed⟩

/-- What is left to do when a session that began afresh is dropped. -/
theorem drop_events (begins : start.Begins config)
    (course : Course κ δ start calls t s) (world : World κ δ) :
    (Session.drop.run ⟨world, s⟩).events = Link.farewell s.link? := by
  cases begins with
  | plain =>
    obtain ⟨relay, rfl, -⟩ := PlainRelay.tended_of_course course
    simp [drop, Act.run_bind, Act.attempt, run_dispose_plain, link?, Run.after]
  | scram mechanism =>
    obtain ⟨relay, rfl, -⟩ := ScramRelay.tended_of_course course
    simp [drop, Act.run_bind, Act.attempt, run_dispose_scram, link?, Run.after]

/-- A relayed session never fails to be disposed of. -/
theorem dispose_ok (begins : start.Begins config)
    (course : Course κ δ start calls t s) {answer : Except AuthError Unit}
    (hmem : .dispose answer ∈ calls) : answer = .ok () := by
  induction course with
  | start => cases hmem
  | @call calls t u s s' c before served ih =>
    rcases List.mem_append.1 hmem with hmem | hmem
    · exact ih hmem
    · rw [← List.mem_singleton.1 hmem] at served
      obtain ⟨world, world', hrun⟩ := served.dispose_inv
      cases begins with
      | plain =>
        obtain ⟨relay, rfl, -⟩ := PlainRelay.tended_of_course before
        rw [run_dispose_plain] at hrun
        exact (congrArg Run.result hrun).symm
      | scram mechanism =>
        obtain ⟨relay, rfl, -⟩ := ScramRelay.tended_of_course before
        rw [run_dispose_scram] at hrun
        exact (congrArg Run.result hrun).symm

/-- Whatever a host asks of a session, and whatever its peers do: once the
session is dropped, its connection is no more. It is asked for once at most,
and only after a first message that is understood; its socket is shut down
once, and nothing is called on it afterwards. All that is so already when the
session is complete, and whenever it holds no connection; and it holds one
only while it waits for the proof. No disposal ever fails. -/
theorem connection_closed_once (begins : start.Begins config)
    (course : Course κ δ start calls t s) :
    (∀ world : World κ δ,
      Lifetime config (t ++ (Session.drop.run ⟨world, s⟩).events)
      ∧ (t ++ (Session.drop.run ⟨world, s⟩).events ≠ [] →
        ∃ message, (messages calls).head? = some message
          ∧ start.Understands message))
    ∧ (s.outcome ≠ none → Lifetime config t)
    ∧ (s.link? = none → Lifetime config t)
    ∧ (s.link? ≠ none → s.AwaitsProof calls)
    ∧ ∀ answer, .dispose answer ∈ calls → answer = .ok () := by
  have htended := tended_of_course begins course
  have hclosed : s.link? = none → Lifetime config t := by
    intro hnone
    have hcustody := htended.custody
    rw [hnone] at hcustody
    exact hcustody.lifetime
  refine ⟨fun world => ?_, fun hdone => hclosed (htended.closed hdone), hclosed,
    htended.waits, fun answer => dispose_ok begins course⟩
  rw [drop_events begins course world]
  refine ⟨htended.custody.farewell.lifetime, fun hne => ?_⟩
  rcases htended.sober with rfl | hunderstood
  · rw [htended.custody.eq_none] at hne
    exact absurd rfl hne
  · exact hunderstood

end Courses

end Session

-- ============================================================= a rehearsal

namespace Rehearsal

/-- A session that is dropped while it waits for the proof. -/
theorem connection_closed_once_rehearsal :
    (scramFirst []).state.session.link?.isSome = true
    ∧ (scramFirst []).state.session.AwaitsProof
        [.evaluate scramMessage (scramFirst []).result]
    ∧ Lifetime { host := "broker" } ((scramFirst []).events
        ++ (Session.drop.run (scramFirst []).state).events) := by
  have hheld : (scramFirst []).state.session.link?.isSome = true := by
    decide +kernel
  obtain ⟨hdropped, -, -, hwaits, -⟩ :=
    Session.connection_closed_once (.scram .sha256) (scramOpening [])
  exact ⟨hheld, hwaits (Option.isSome_iff_ne_none.1 hheld),
    (hdropped (scramFirst []).state.opener).1⟩

end Rehearsal

end SaslGate
