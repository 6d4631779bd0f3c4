/-
The life of one session in the hands of a host: any calls, in any order,
whatever they answer. A course keeps the calls with their answers, and the
trace of all of them together.

The connectors are shared, so other sessions may use them between two calls
of this one. A course therefore finds a new world at every call, about
which nothing is assumed; a session owns its connection, and nothing else.
-/
import SaslGate.Proofs.Act
import SaslGate.Registry

namespace SaslGate

/-- A call of a host on a session, with its answer. -/
inductive HostCall
  | evaluate (message : Bytes) (answer : Except AuthError Bytes)
  | dispose (answer : Except AuthError Unit)
  | wrap (bytes : Bytes) (answer : Except AuthError Bytes)
  | unwrap (bytes : Bytes) (answer : Except AuthError Bytes)
  | property (name : String) (answer : Except AuthError (Option String))
  | authorizationId (answer : Except AuthError String)

/-- The client's message and the answer to it, if the call had one. -/
def HostCall.evaluated? : HostCall → Option (Bytes × Except AuthError Bytes)
  | evaluate message answer => some (message, answer)
  | _ => none

/-- The messages that a host passed on, with the answers. -/
def evaluations (calls : List HostCall) :
    List (Bytes × Except AuthError Bytes) :=
  calls.filterMap HostCall.evaluated?

@[simp] theorem evaluations_singleton (c : HostCall) :
    evaluations [c] = c.evaluated?.toList := by
  cases hc : c.evaluated? <;> simp [evaluations, hc]

@[simp] theorem evaluations_append (a b : List HostCall) :
    evaluations (a ++ b) = evaluations a ++ evaluations b :=
  List.filterMap_append

section Courses

variable {κ δ σ γ : Type} [Connector κ σ] [Wire σ] [DirectoryService δ γ]
  [DirectoryConnection γ]

/-- What one call does to a session, and its trace. -/
inductive Served (κ δ : Type) [Connector κ σ] [Wire σ]
    [DirectoryService δ γ] [DirectoryConnection γ] :
    Session σ γ → HostCall → List Event → Session σ γ → Prop
  | evaluate (message : Bytes) (d : Desk (World κ δ) (Session σ γ)) :
      Served κ δ d.session
        (.evaluate message ((Session.evaluate message).run d).result)
        ((Session.evaluate message).run d).events
        ((Session.evaluate message).run d).state.session
  | dispose (d : Desk (World κ δ) (Session σ γ)) :
      Served κ δ d.session (.dispose (Session.dispose.run d).result)
        (Session.dispose.run d).events (Session.dispose.run d).state.session
  | wrap (bytes : Bytes) (s : Session σ γ) :
      Served κ δ s (.wrap bytes (s.wrap bytes)) [] s
  | unwrap (bytes : Bytes) (s : Session σ γ) :
      Served κ δ s (.unwrap bytes (s.unwrap bytes)) [] s
  | property (name : String) (s : Session σ γ) :
      Served κ δ s (.property name (s.property name)) [] s
  | authorizationId (s : Session σ γ) :
      Served κ δ s (.authorizationId s.authorizationId) [] s

/-- A session after any number of calls: the calls, and all they did to the
outside world. -/
inductive Course (κ δ : Type) [Connector κ σ] [Wire σ]
    [DirectoryService δ γ] [DirectoryConnection γ] (start : Session σ γ) :
    List HostCall → List Event → Session σ γ → Prop
  | start : Course κ δ start [] [] start
  | call {calls : List HostCall} {t u : List Event} {s s' : Session σ γ}
      {c : HostCall} (before : Course κ δ start calls t s)
      (served : Served κ δ s c u s') :
      Course κ δ start (calls ++ [c]) (t ++ u) s'

-- ============================================================= messages

section Messages

variable {message : Bytes} {world : World κ δ}

/-- A message to a PLAIN session is a message to its relay. -/
theorem Session.run_evaluate_plain {config : RemoteConfig}
    {relay : PlainRelay σ} :
    (Session.evaluate message).run
        (⟨world, .plain config relay⟩ : Desk (World κ δ) (Session σ γ)) =
      let r := (PlainRelay.evaluate config message).run
        ⟨world.connector, relay⟩
      ⟨r.result, ⟨{ world with connector := r.state.opener },
        .plain config r.state.session⟩, r.events⟩ := rfl

/-- The same of a SCRAM session. -/
theorem Session.run_evaluate_scram {config : RemoteConfig}
    {relay : ScramRelay σ} :
    (Session.evaluate message).run
        (⟨world, .scram config relay⟩ : Desk (World κ δ) (Session σ γ)) =
      let r := (ScramRelay.evaluate config message).run
        ⟨world.connector, relay⟩
      ⟨r.result, ⟨{ world with connector := r.state.opener },
        .scram config r.state.session⟩, r.events⟩ := rfl

/-- A message to a session that a directory checks is a message to its
check. -/
theorem Session.run_evaluate_directory {config : DirectoryConfig}
    {check : DirectoryCheck γ} :
    (Session.evaluate message).run
        (⟨world, .directory config check⟩ : Desk (World κ δ) (Session σ γ)) =
      let r := (DirectoryCheck.evaluate config message).run
        ⟨world.directory, check⟩
      ⟨r.result, ⟨{ world with directory := r.state.opener },
        .directory config r.state.session⟩, r.events⟩ := rfl

end Messages

-- ============================================================== relays

/-- A call on a PLAIN session: a message to pass on, a disposal, or a
question that changes nothing. -/
theorem Served.plain {config : RemoteConfig} {relay : PlainRelay σ}
    {c : HostCall} {u : List Event} {s' : Session σ γ}
    (h : Served κ δ (.plain config relay) c u s') :
    (∃ message connector, ∃ r : Run Event (Desk κ (PlainRelay σ)) _ _,
        r = (PlainRelay.evaluate config message).run ⟨connector, relay⟩
        ∧ c.evaluated? = some (message, r.result) ∧ u = r.events
        ∧ s' = .plain config r.state.session)
    ∨ (∃ connector, ∃ r : Run Event (Desk κ (PlainRelay σ)) _ _,
        r = PlainRelay.release.run ⟨connector, relay⟩
        ∧ c.evaluated? = none ∧ u = r.events
        ∧ s' = .plain config r.state.session)
    ∨ (c.evaluated? = none ∧ u = [] ∧ s' = .plain config relay) := by
  generalize hs : Session.plain config relay = s at h
  cases h with
  | evaluate message d =>
    obtain ⟨world, session⟩ := d
    cases hs
    exact .inl ⟨message, world.connector, _, rfl, rfl, rfl, rfl⟩
  | dispose d =>
    obtain ⟨world, session⟩ := d
    cases hs
    exact .inr (.inl ⟨world.connector, _, rfl, rfl, rfl, rfl⟩)
  | wrap | unwrap | property | authorizationId =>
    exact .inr (.inr ⟨rfl, rfl, rfl⟩)

/-- A call on a SCRAM session: a message to pass on, a disposal, or a
question that changes nothing. -/
theorem Served.scram {config : RemoteConfig} {relay : ScramRelay σ}
    {c : HostCall} {u : List Event} {s' : Session σ γ}
    (h : Served κ δ (.scram config relay) c u s') :
    (∃ message connector, ∃ r : Run Event (Desk κ (ScramRelay σ)) _ _,
        r = (ScramRelay.evaluate config message).run ⟨connector, relay⟩
        ∧ c.evaluated? = some (message, r.result) ∧ u = r.events
        ∧ s' = .scram config r.state.session)
    ∨ (∃ connector, ∃ r : Run Event (Desk κ (ScramRelay σ)) _ _,
        r = ScramRelay.release.run ⟨connector, relay⟩
        ∧ c.evaluated? = none ∧ u = r.events
        ∧ s' = .scram config r.state.session)
    ∨ (c.evaluated? = none ∧ u = [] ∧ s' = .scram config relay) := by
  generalize hs : Session.scram config relay = s at h
  cases h with
  | evaluate message d =>
    obtain ⟨world, session⟩ := d
    cases hs
    exact .inl ⟨message, world.connector, _, rfl, rfl, rfl, rfl⟩
  | dispose d =>
    obtain ⟨world, session⟩ := d
    cases hs
    exact .inr (.inl ⟨world.connector, _, rfl, rfl, rfl, rfl⟩)
  | wrap | unwrap | property | authorizationId =>
    exact .inr (.inr ⟨rfl, rfl, rfl⟩)

-- =========================================================== directories

/-- A call on a session that a directory checks: a message to check, a
disposal, or a question that changes nothing. -/
theorem Served.directory {config : DirectoryConfig}
    {check : DirectoryCheck γ} {c : HostCall} {u : List Event}
    {s' : Session σ γ} (h : Served κ δ (.directory config check) c u s') :
    (∃ message service, ∃ r : Run Event (Desk δ (DirectoryCheck γ)) _ _,
        r = (DirectoryCheck.evaluate config message).run ⟨service, check⟩
        ∧ c.evaluated? = some (message, r.result) ∧ u = r.events
        ∧ s' = .directory config r.state.session)
    ∨ (∃ service, ∃ r : Run Event (Desk δ (DirectoryCheck γ)) _ _,
        r = DirectoryCheck.dispose.run ⟨service, check⟩
        ∧ c.evaluated? = none ∧ u = r.events
        ∧ s' = .directory config r.state.session)
    ∨ (c.evaluated? = none ∧ u = [] ∧ s' = .directory config check) := by
  generalize hs : Session.directory config check = s at h
  cases h with
  | evaluate message d =>
    obtain ⟨world, session⟩ := d
    cases hs
    exact .inl ⟨message, world.directory, _, rfl, rfl, rfl, rfl⟩
  | dispose d =>
    obtain ⟨world, session⟩ := d
    cases hs
    exact .inr (.inl ⟨world.directory, _, rfl, rfl, rfl, rfl⟩)
  | wrap | unwrap | property | authorizationId =>
    exact .inr (.inr ⟨rfl, rfl, rfl⟩)

end Courses

-- ================================================================= desks

namespace Desk

variable {κ ς ρ : Type} {slot : Slot ς ρ} {d d' : Desk κ ς}
  {t : List Event}

/-- An action of the connection, on a session that holds one. -/
theorem onHeld_cases {x : Act Event ρ AuthError α} {connection : ρ}
    {r : Except AuthError α}
    (h : (onHeld slot x).run d = ⟨r, d', t⟩)
    (held : slot.get d.session = some connection) :
    ∃ connection', x.run connection = ⟨r, connection', t⟩
      ∧ d' = { d with session := slot.put (some connection') d.session } := by
  rcases hx : x.run connection with ⟨r₀, connection', u⟩
  simp only [onHeld, held, hx, Run.mk.injEq] at h
  obtain ⟨rfl, rfl, rfl⟩ := h
  exact ⟨connection', rfl, rfl⟩

/-- An action of the connection succeeds only on a session that holds
one. -/
theorem held_of_ok {x : Act Event ρ AuthError α} {a : α}
    (h : (onHeld slot x).run d = ⟨.ok a, d', t⟩) :
    ∃ connection, slot.get d.session = some connection := by
  cases held : slot.get d.session with
  | none => simp [onHeld, held] at h
  | some connection => exact ⟨connection, rfl⟩

/-- An action of the opener that succeeds leaves the session alone. -/
theorem ofOpener_inv {x : Act Event κ AuthError α} {a : α}
    (h : (ofOpener x : Working κ ς α).run d = ⟨.ok a, d', t⟩) :
    ∃ opener, x.run d.opener = ⟨.ok a, opener, t⟩
      ∧ d' = { d with opener } := by
  rcases hx : x.run d.opener with ⟨r, opener, u⟩
  simp only [ofOpener, Act.focus, hx, Run.mk.injEq] at h
  obtain ⟨rfl, rfl, rfl⟩ := h
  exact ⟨opener, rfl, rfl⟩

end Desk

/-- The trace of letting go of a link, if there is one. -/
def Link.farewell [Wire σ] : Option (Link Client σ) → List Event
  | none => []
  | some k => (Link.close.run k).events

/-- Letting go of the link closes it, and nobody hears how that went. -/
theorem PlainRelay.run_release [Wire σ] (d : Desk κ (PlainRelay σ)) :
    PlainRelay.release.run d =
      ⟨.ok (), { d with session := { d.session with link := none } },
        Link.farewell d.session.link⟩ := by
  obtain ⟨opener, link, outcome, authorizationId⟩ := d
  cases link with
  | none => rfl
  | some k =>
    simp [PlainRelay.release, Desk.release, PlainRelay.slot, Act.run_bind,
      Link.farewell, Run.after]

/-- The same of a session that relays SCRAM. -/
theorem ScramRelay.run_release [Wire σ] (d : Desk κ (ScramRelay σ)) :
    ScramRelay.release.run d =
      ⟨.ok (), { d with session := { d.session with link := none } },
        Link.farewell d.session.link⟩ := by
  obtain ⟨opener, mechanism, link, stage, username, authorizationId⟩ := d
  cases link with
  | none => rfl
  | some k =>
    simp [ScramRelay.release, Desk.release, ScramRelay.slot, Act.run_bind,
      Link.farewell, Run.after]

end SaslGate
