/-
The one connection of a session that is checked by a directory, from the
search for it until it is closed, over every sequence of calls and every
behaviour of the directory.

`Contact` has a constructor for each thing that is ever done to a directory. A
connection is passed on from one to the next, so whatever is done is done to
the connection that was opened, and a simple bind comes only together with the
reset that forgets the user. A session keeps `Tended`, because its first
message is a contact of its own (`Checked.contact`), later ones do nothing, and
letting go of the connection closes it.
-/
import SaslGate.Proofs.Session.Contract
import SaslGate.Proofs.Session.Custody
import SaslGate.Proofs.Session.Verification

namespace SaslGate

-- ============================================================== contacts

namespace DirectoryEvent

/-- Whether an operation opened a connection. -/
def opens : DirectoryEvent → Bool
  | connect _ (.ok ()) => true
  | _ => false

/-- Whether an operation closed a connection. -/
def closes : DirectoryEvent → Bool
  | close _ => true
  | _ => false

theorem IsRefusal.opens {x : DirectoryEvent} (h : x.IsRefusal) :
    x.opens = false := by
  unfold IsRefusal at h
  split at h
  · rfl
  · cases h

theorem IsRefusal.closes {x : DirectoryEvent} (h : x.IsRefusal) :
    x.closes = false := by
  unfold IsRefusal at h
  split at h
  · rfl
  · cases h

end DirectoryEvent

/-- What was done to a directory, and the connection that is open after it. A
search comes first, and nothing comes after the close. -/
inductive Contact (δ : Type) {γ : Type} [DirectoryService δ γ]
    [DirectoryConnection γ] : List DirectoryEvent → Option γ → Prop
  | searched {t : List DirectoryEvent} (refusals : ∀ x ∈ t, x.IsRefusal) :
      Contact δ t none
  | opened {t : List DirectoryEvent} {e : Endpoint} {d d' : δ} {c : γ}
      (refusals : ∀ x ∈ t, x.IsRefusal)
      (answer : DirectoryService.connect e d = (.ok c, d')) :
      Contact δ (t ++ [.connect e (.ok ())]) (some c)
  | simple {t : List DirectoryEvent} {c c₁ c₂ : γ} {dn password : String}
      {answer reset : Except DirectoryError Unit}
      (before : Contact δ t (some c))
      (bound : DirectoryConnection.simpleBind dn password c = (answer, c₁))
      (forgot : DirectoryConnection.anonymousBind c₁ = (reset, c₂)) :
      Contact δ
        (t ++ [.simpleBind dn password answer, .anonymousBind reset]) (some c₂)
  | sasl {t : List DirectoryEvent} {c c₁ : γ} {request : SaslBindRequest}
      {answer : Except DirectoryError Unit} (before : Contact δ t (some c))
      (bound : DirectoryConnection.saslBind request c = (answer, c₁)) :
      Contact δ (t ++ [.saslBind request answer]) (some c₁)
  | closed {t : List DirectoryEvent} {c : γ} (before : Contact δ t (some c)) :
      Contact δ (t ++ [.close (DirectoryConnection.close c).1]) none

/-- Every simple bind is followed by a reset at once, whatever it answered. -/
def Resets (t : List DirectoryEvent) : Prop :=
  ∀ before dn password answer after,
    t = before ++ .simpleBind dn password answer :: after →
    ∃ answer' rest, after = .anonymousBind answer' :: rest

/-- Operations that never leave a connection bound, and never use one that is
closed. -/
structure Seemly (t : List DirectoryEvent) : Prop where
  /-- One connection at most is opened. -/
  once : t.countP DirectoryEvent.opens ≤ 1
  resets : Resets t
  /-- Nothing follows a close. -/
  last : ∀ before answer after, t = before ++ .close answer :: after →
    after = []

/-- Where an element of a list that was put together stands: in the first
part, or in the second. -/
theorem split_append {α : Type} {x : α} {before after t u : List α}
    (h : t ++ u = before ++ x :: after) :
    (∃ rest, t = before ++ x :: rest ∧ after = rest ++ u)
    ∨ ∃ front, before = t ++ front ∧ u = front ++ x :: after := by
  rcases List.append_eq_append_iff.1 h with ⟨front, rfl, hu⟩
    | ⟨rest, rfl, hrest⟩
  · exact .inr ⟨front, rfl, hu⟩
  · cases rest with
    | nil => exact .inr ⟨[], by simp, by simpa using hrest.symm⟩
    | cons y rest =>
      cases hrest
      exact .inl ⟨rest, rfl, rfl⟩

/-- Resets stay behind their binds when more is done. -/
theorem Resets.append {t u : List DirectoryEvent} (ht : Resets t)
    (hu : Resets u) : Resets (t ++ u) := by
  intro before dn password answer after h
  rcases split_append h with ⟨rest, rfl, rfl⟩ | ⟨front, rfl, rfl⟩
  · obtain ⟨answer', rest', rfl⟩ := ht _ _ _ _ _ rfl
    exact ⟨answer', rest' ++ u, rfl⟩
  · exact hu _ _ _ _ _ rfl

/-- Without a simple bind there is nothing to reset. -/
theorem resets_of_unbound {t : List DirectoryEvent}
    (h : ∀ dn password answer, .simpleBind dn password answer ∉ t) :
    Resets t := by
  intro before dn password answer after ht
  exact absurd (ht ▸ by simp) (h dn password answer)

/-- A simple bind and its reset, by themselves. -/
theorem resets_bound (dn password : String)
    (answer reset : Except DirectoryError Unit) :
    Resets [.simpleBind dn password answer, .anonymousBind reset] := by
  intro before dn' password' answer' after h
  match before with
  | [] =>
    cases h
    exact ⟨reset, [], rfl⟩
  | [_] => cases h
  | _ :: _ :: before => simp at h

namespace Contact

variable {δ γ : Type} [DirectoryService δ γ] [DirectoryConnection γ]
  {t : List DirectoryEvent} {held : Option γ}

/-- Of a connection that was opened, one that is not open any more has been
closed once. -/
theorem count (h : Contact δ t held) :
    t.countP DirectoryEvent.opens ≤ 1
      ∧ t.countP DirectoryEvent.closes + held.toList.length
        = t.countP DirectoryEvent.opens := by
  have hrefused : ∀ t : List DirectoryEvent, (∀ x ∈ t, x.IsRefusal) →
      t.countP DirectoryEvent.opens = 0
        ∧ t.countP DirectoryEvent.closes = 0 := by
    intro t refusals
    constructor
    · exact List.countP_eq_zero.2 fun x hx => by simp [(refusals x hx).opens]
    · exact List.countP_eq_zero.2 fun x hx => by simp [(refusals x hx).closes]
  induction h with
  | searched refusals => simp [hrefused _ refusals]
  | opened refusals answer =>
    simp [hrefused _ refusals, DirectoryEvent.opens, DirectoryEvent.closes]
  | simple before bound forgot ih | sasl before bound ih | closed before ih =>
    simpa [DirectoryEvent.opens, DirectoryEvent.closes] using ih

/-- While a connection is open, none has been closed. -/
theorem unclosed {c : γ} (h : Contact δ t (some c))
    (answer : Except DirectoryError Unit) : .close answer ∉ t := by
  intro hmem
  have hpositive : 0 < t.countP DirectoryEvent.closes :=
    List.countP_pos_iff.2 ⟨_, hmem, rfl⟩
  obtain ⟨honce, hcount⟩ := h.count
  simp only [Option.toList_some, List.length_singleton] at hcount
  omega

/-- Each bind of a contact comes with its reset. -/
theorem resets (h : Contact δ t held) : Resets t := by
  have hrefused : ∀ t : List DirectoryEvent, (∀ x ∈ t, x.IsRefusal) →
      Resets t := by
    intro t refusals
    exact resets_of_unbound fun _ _ _ hmem => refusals _ hmem
  induction h with
  | searched refusals => exact hrefused _ refusals
  | opened refusals answer =>
    exact (hrefused _ refusals).append (resets_of_unbound (by simp))
  | simple before bound forgot ih => exact ih.append (resets_bound _ _ _ _)
  | sasl before bound ih | closed before ih =>
    exact ih.append (resets_of_unbound (by simp))

/-- A close is the last of a contact, since it leaves no connection to use. -/
theorem last (h : Contact δ t held) :
    ∀ before answer after, t = before ++ .close answer :: after →
      after = [] := by
  intro before answer after ht
  have hmem : .close answer ∈ t := ht ▸ by simp
  cases held with
  | some c => exact absurd hmem (h.unclosed answer)
  | none =>
    cases h with
    | searched refusals => exact (refusals _ hmem).elim
    | closed open_ =>
      rcases split_append ht with ⟨rest, rfl, -⟩ | ⟨front, -, hfront⟩
      · exact absurd (by simp) (open_.unclosed answer)
      · cases front with
        | nil =>
          cases hfront
          rfl
        | cons x front => simp at hfront

/-- A contact is seemly, whatever the directory answers. -/
theorem seemly (h : Contact δ t held) : Seemly t :=
  ⟨h.count.1, h.resets, h.last⟩

end Contact

-- ======================================================= single actions

section Actions

variable {δ γ : Type} [DirectoryService δ γ] [DirectoryConnection γ]
  {t : List DirectoryEvent}

/-- A search opens a connection, or comes to nothing. -/
theorem Endpoints.Tried.contact {es : Endpoints} {order : FailoverOrder}
    {d d' : δ} {found : Option γ} (h : es.Tried order d found d' t) :
    Contact δ t found := by
  cases found with
  | none => exact .searched (Search.refusals h)
  | some c =>
    obtain ⟨refusals, e, d₁, rfl, hrefusals, -, hopened⟩ := Search.opened h
    exact .opened hrefusals hopened

/-- A trial binds, and forgets the user. -/
theorem Contact.trial {c : γ} (h : Contact δ t (some c))
    (strategy : BindStrategy) (username password : String) :
    Contact δ (t ++ (strategy.trial username password c).events)
      (some (strategy.trial username password c).connection) := by
  cases strategy with
  | simple template => exact .simple h rfl rfl
  | sasl mechanism realm => exact .sasl h rfl

/-- What it takes to let go of a connection, if there is one. -/
def parting : Option γ → List DirectoryEvent
  | none => []
  | some c => [.close (DirectoryConnection.close c).1]

/-- Letting go closes what is open, and does nothing without. -/
theorem Contact.parting {held : Option γ} (h : Contact δ t held) :
    Contact δ (t ++ parting held) none := by
  cases held with
  | none => simpa [SaslGate.parting] using h
  | some c => exact .closed h

end Actions

namespace DirectoryCheck

variable {δ γ : Type} [DirectoryConnection γ]

/-- The connection that a session keeps open, if there is one. -/
def connection (s : DirectoryCheck γ) : Option γ :=
  s.binder.bind Binder.connection

/-- What a session says at the end is what it takes to let go. -/
theorem farewell_eq (s : DirectoryCheck γ) :
    farewell s.binder = (parting s.connection).map .directory := by
  obtain ⟨binder, outcome, authorizationId⟩ := s
  match binder with
  | none => rfl
  | some ⟨_, none⟩ => rfl
  | some ⟨_, some c⟩ => rfl

/-- Closing succeeds without a connection, and otherwise as the directory
answers. -/
theorem closing_eq (s : DirectoryCheck γ) :
    closing s.binder =
      s.connection.elim (.ok ()) fun c => (DirectoryConnection.close c).1 := by
  obtain ⟨binder, outcome, authorizationId⟩ := s
  match binder with
  | none => rfl
  | some ⟨_, none⟩ => rfl
  | some ⟨_, some c⟩ => rfl

variable [DirectoryService δ γ] {config : DirectoryConfig} {message : Bytes}
  {service : δ} {answer : Except AuthError Bytes} {s : DirectoryCheck γ}
  {ops : List DirectoryEvent}

/-- The answer to a first message is a contact of its own. -/
theorem Checked.contact
    (h : Checked config message service answer s ops) :
    Contact δ ops s.connection := by
  cases h with
  | malformed parsed => exact .searched nofun
  | unreached parsed searched => exact searched.contact
  | refused parsed searched verdict =>
    exact (searched.contact.trial _ _ _).closed
  | accepted parsed searched verdict => exact searched.contact.trial _ _ _

/-- How a session looks after its connection between two calls. It is unasked,
or it has succeeded, or it has none. -/
structure Tended (δ : Type) [DirectoryService δ γ]
    (ops : List DirectoryEvent) (s : DirectoryCheck γ) : Prop where
  contact : Contact δ ops s.connection
  unasked : s.outcome = none → ops = [] ∧ s = .fresh
  keeps : s.connection ≠ none → s.outcome = some .success

/-- It leaves a connection behind after success only. -/
theorem Checked.tended
    (h : Checked config message service answer s ops) : Tended δ ops s := by
  refine ⟨h.contact, ?_, ?_⟩
  · intro hnone
    cases h with
    | malformed | unreached | refused | accepted => cases hnone
  · intro hheld
    cases h with
    | malformed | unreached | refused => exact absurd rfl hheld
    | accepted => rfl

/-- A session that lets go of its connection has closed it. -/
theorem Tended.parted (h : Tended δ ops s) :
    Tended δ (ops ++ parting s.connection) { s with binder := none } := by
  refine ⟨h.contact.parting, ?_, fun hheld => absurd rfl hheld⟩
  intro hnone
  obtain ⟨rfl, rfl⟩ := h.unasked hnone
  exact ⟨rfl, rfl⟩

end DirectoryCheck

-- ================================================================ calls

namespace Session

variable {κ δ σ γ : Type}

/-- The connection to a directory that a session keeps open, if there is
one. -/
def connection? : Session σ γ → Option γ
  | plain .. | scram .. => none
  | directory _ check => check.connection

variable [Wire σ] [DirectoryConnection γ]

/-- Letting go of the connection: it is closed if there is one, and a failure
to do so is reported, and changes nothing. -/
theorem run_dispose_directory (world : World κ δ)
    (config : DirectoryConfig) (check : DirectoryCheck γ) :
    (dispose : Serving κ δ σ γ Unit).run
        ⟨world, .directory config check⟩ =
      ⟨(check.connection.elim (.ok ())
          fun c => (DirectoryConnection.close c).1).mapError .directory,
        ⟨world, .directory config { check with binder := none }⟩,
        (parting check.connection).map .directory⟩ := by
  simp [dispose, serve, DirectoryCheck.run_dispose, DirectoryCheck.closing_eq,
    DirectoryCheck.farewell_eq]

/-- The end of a session comes to the same, but for the report. -/
theorem run_drop_directory (world : World κ δ) (config : DirectoryConfig)
    (check : DirectoryCheck γ) :
    (drop : Serving κ δ σ γ Unit).run ⟨world, .directory config check⟩ =
      ⟨.ok (), ⟨world, .directory config { check with binder := none }⟩,
        (parting check.connection).map .directory⟩ := by
  simp [drop, Act.run_bind, Act.attempt, run_dispose_directory, Run.after]

end Session

section Courses

variable {κ δ σ γ : Type} [Connector κ σ] [Wire σ] [DirectoryService δ γ]
  [DirectoryConnection γ] {config : DirectoryConfig} {check : DirectoryCheck γ}
  {ops : List DirectoryEvent}

open DirectoryCheck (Checked Tended)

/-- One call leaves the connection in good hands. -/
theorem DirectoryCheck.Tended.served {c : HostCall} {u : List Event}
    {s' : Session σ γ} (h : Tended δ ops check)
    (served : Served κ δ (.directory config check) c u s') :
    ∃ check' ops', s' = .directory config check' ∧ u = ops'.map .directory
      ∧ Tended δ (ops ++ ops') check' := by
  rcases served.directory with ⟨message, service, r, hr, -, rfl, rfl⟩
    | ⟨service, r, rfl, -, rfl, rfl⟩ | ⟨-, rfl, rfl⟩
  · obtain ⟨answer, ⟨service', check'⟩, u⟩ := r
    by_cases hopen : check.outcome = none
    · obtain ⟨rfl, rfl⟩ := h.unasked hopen
      obtain ⟨ops', rfl, hchecked⟩ := DirectoryCheck.checked hr.symm
      exact ⟨check', ops', rfl, rfl, hchecked.tended⟩
    · rcases DirectoryCheck.evaluate_cases hr.symm with ⟨-, -, hd, rfl⟩
        | ⟨hnone, -⟩
      · cases hd
        exact ⟨check, [], rfl, rfl, by rwa [List.append_nil]⟩
      · exact absurd hnone hopen
  · rw [DirectoryCheck.run_dispose]
    exact ⟨_, _, rfl, check.farewell_eq, h.parted⟩
  · exact ⟨check, [], rfl, rfl, by rwa [List.append_nil]⟩

/-- Later calls keep it so, by induction on them. -/
theorem DirectoryCheck.tended_of_course {calls : List HostCall}
    {t : List Event} {s : Session σ γ}
    (course : Course κ δ (.directory config .fresh) calls t s) :
    ∃ check ops, s = .directory config check ∧ t = ops.map .directory
      ∧ Tended δ ops check := by
  induction course with
  | start =>
    exact ⟨.fresh, [], rfl, rfl, .searched nofun, fun _ => ⟨rfl, rfl⟩,
      fun hheld => absurd rfl hheld⟩
  | @call calls t u s s' c before served ih =>
    obtain ⟨check, ops, rfl, rfl, htended⟩ := ih
    obtain ⟨check', ops', rfl, rfl, htended'⟩ := htended.served served
    exact ⟨check', ops ++ ops', rfl, List.map_append.symm, htended'⟩

/-- A session that is over and has no connection leaves the directory in
peace, whatever is called, and is disposed of without a failure. -/
theorem DirectoryCheck.idle_served {c : HostCall} {u : List Event}
    {s : Session σ γ} (ended : check.outcome ≠ none)
    (free : check.connection = none)
    (served : Served κ δ (.directory config check) c u s) :
    u = [] ∧ (∀ answer, c = .dispose answer → answer = .ok ())
      ∧ ∃ check', s = .directory config check' ∧ check'.outcome ≠ none
        ∧ check'.connection = none := by
  generalize hs : (Session.directory config check : Session σ γ) = s₀ at served
  cases served with
  | evaluate message d =>
    obtain ⟨world, session⟩ := d
    cases hs
    rw [Session.run_evaluate_complete (d := ⟨world, .directory config check⟩)
      message ended]
    exact ⟨rfl, nofun, check, rfl, ended, free⟩
  | dispose d =>
    obtain ⟨world, session⟩ := d
    cases hs
    rw [Session.run_dispose_directory, free]
    refine ⟨rfl, ?_, _, rfl, ended, rfl⟩
    rintro answer ⟨⟩
    rfl
  | wrap | unwrap | property | authorizationId =>
    exact ⟨rfl, nofun, check, hs.symm, ended, free⟩

/-- Nor does it do anything in the course of any calls. -/
theorem DirectoryCheck.idle_of_course {later : List HostCall}
    {u : List Event} {s : Session σ γ} (ended : check.outcome ≠ none)
    (free : check.connection = none)
    (course : Course κ δ (.directory config check) later u s) :
    u = [] ∧ ∀ answer, .dispose answer ∈ later → answer = .ok () := by
  have key : u = [] ∧ (∀ answer, .dispose answer ∈ later → answer = .ok ())
      ∧ ∃ check', s = .directory config check' ∧ check'.outcome ≠ none
        ∧ check'.connection = none := by
    induction course with
    | start => exact ⟨rfl, nofun, check, rfl, ended, free⟩
    | @call calls t u s s' c before served ih =>
      obtain ⟨rfl, hbefore, check', rfl, hover, hfree⟩ := ih
      obtain ⟨rfl, hanswer, hafter⟩ := idle_served hover hfree served
      refine ⟨rfl, fun answer hmem => ?_, hafter⟩
      rcases List.mem_append.1 hmem with hmem | hmem
      · exact hbefore answer hmem
      · exact hanswer answer (List.mem_singleton.1 hmem).symm
  exact ⟨key.1, key.2.1⟩

/-- Whatever a host asks of a session that a directory checks, and whatever the
directory answers: one connection at most is opened, and a simple bind is always
followed by a reset on that connection. The connection is closed once, and
nothing follows. If the message fails over which it was opened, it is closed
before the host hears of that, and no answer depends on how. Otherwise it is
closed by the first disposal, which reports a failure to do so and changes
neither outcome nor identity, or else by the drop, which reports nothing. Later
disposals succeed, and do nothing. -/
theorem Session.directory_closed_once {calls : List HostCall}
    {t : List Event} {s : Session σ γ}
    (course : Course κ δ (.directory config .fresh) calls t s) :
    ∃ ops, t = ops.map .directory
      ∧ Contact δ ops s.connection? ∧ Seemly ops
      ∧ (s.connection? ≠ none → s.outcome = some .success)
      ∧ (∀ (world : World κ δ) message,
          let run := (Session.evaluate message).run ⟨world, s⟩
          (s.outcome ≠ none → run = ⟨.error .notYetComplete, ⟨world, s⟩, []⟩)
          ∧ (s.outcome = none → ∃ check ops',
            run.state.session = .directory config check
            ∧ run.events = ops'.map .directory
            ∧ Checked config message world.directory run.result check ops'
            ∧ (∀ reply, run.result = .ok reply → check.connection ≠ none)
            ∧ ∀ e, run.result = .error e → check.connection = none
              ∧ ops'.countP DirectoryEvent.closes
                = ops'.countP DirectoryEvent.opens))
      ∧ (∀ world : World κ δ,
          let run := Session.dispose.run ⟨world, s⟩
          run.state.session.outcome = s.outcome
          ∧ run.state.session.authorizationId = s.authorizationId
          ∧ run.state.session.connection? = none
          ∧ (s.connection? = none → run.result = .ok () ∧ run.events = [])
          ∧ ∀ c, s.connection? = some c →
            run.result = (DirectoryConnection.close c).1.mapError .directory
            ∧ run.events
              = [.directory (.close (DirectoryConnection.close c).1)])
      ∧ (s.outcome ≠ none → s.connection? = none → ∀ later u s',
          Course κ δ s later u s' →
          u = [] ∧ ∀ answer, .dispose answer ∈ later → answer = .ok ())
      ∧ ∀ world : World κ δ,
          let run := Session.drop.run ⟨world, s⟩
          run.result = .ok () ∧ ∃ ops', run.events = ops'.map .directory
            ∧ Contact δ (ops ++ ops') (none : Option γ) ∧ Seemly (ops ++ ops')
            ∧ (ops ++ ops').countP DirectoryEvent.closes
              = (ops ++ ops').countP DirectoryEvent.opens := by
  obtain ⟨check, ops, rfl, rfl, htended⟩ :=
    DirectoryCheck.tended_of_course course
  have hcontact := htended.contact
  refine ⟨ops, rfl, hcontact, hcontact.seemly, htended.keeps, ?_, ?_, ?_, ?_⟩
  · intro world message run
    refine ⟨fun hover =>
      Session.run_evaluate_complete (d := ⟨world, _⟩) message hover,
      fun hopen => ?_⟩
    -- still open means never asked, so the message finds a fresh check
    obtain ⟨-, rfl⟩ := htended.unasked hopen
    obtain ⟨answer, service', check', ops', hrun, hchecked⟩ :=
      Session.checked (σ := σ) config message world
    have hresult : run.result = answer := congrArg Run.result hrun
    refine ⟨check', ops', congrArg (fun r => r.state.session) hrun,
      congrArg Run.events hrun, hresult ▸ hchecked, ?_, ?_⟩
    · intro reply hpassed
      rw [hresult] at hpassed
      subst hpassed
      cases hchecked with
      | accepted => exact Option.some_ne_none _
    · intro e hfailed
      rw [hresult] at hfailed
      have hfree : check'.connection = none := by
        subst hfailed
        cases hchecked with
        | malformed | unreached | refused => rfl
      -- with nothing held, every connection that was opened has been closed
      have hcount := hchecked.contact.count.2
      rw [hfree] at hcount
      exact ⟨hfree, hcount⟩
  · intro world run
    have hrun : run = _ := Session.run_dispose_directory world config check
    rw [hrun]
    refine ⟨rfl, rfl, rfl, ?_, ?_⟩
    · intro hfree
      rw [show check.connection = none from hfree]
      exact ⟨rfl, rfl⟩
    · intro c hheld
      rw [show check.connection = some c from hheld]
      exact ⟨rfl, rfl⟩
  · intro hover hfree later u s' hlater
    exact DirectoryCheck.idle_of_course hover hfree hlater
  · intro world run
    have hrun : run = _ := Session.run_drop_directory world config check
    rw [hrun]
    have hparted := hcontact.parting
    exact ⟨rfl, parting check.connection, rfl, hparted, hparted.seemly,
      hparted.count.2⟩

end Courses

-- ============================================================= a rehearsal

namespace Rehearsal

/-- The message, as a course of its own. -/
theorem directoryCourse (d : Directory) :
    Course Remote Directory (.directory directoryConfig .fresh)
      [.evaluate plainMessage (directoryRun d).result] (directoryRun d).events
      (directoryRun d).state.session := by
  have served : Served Remote Directory
      (.directory directoryConfig .fresh : Actor)
      (.evaluate plainMessage (directoryRun d).result) (directoryRun d).events
      (directoryRun d).state.session :=
    .evaluate plainMessage ⟨⟨⟨[], 0⟩, d⟩, .directory directoryConfig .fresh⟩
  exact .call .start served

/-- A directory that lets the user in, and fails to close connections. -/
def clinging : Directory := directoryWith none none (some .closed)

/-- One that refuses the user, and fails to close connections. -/
def refusing : Directory :=
  directoryWith (some .invalidCredentials) none (some .closed)

/-- A user who was let in leaves a connection behind, and a disposal that
cannot close it says so. A user who was refused leaves none. -/
theorem directory_closed_once_rehearsal :
    (directoryRun clinging).state.session.connection? = some clinging
    ∧ (Session.dispose.run (directoryRun clinging).state).result
      = .error (.directory .closed)
    ∧ (Session.dispose.run (directoryRun clinging).state).state.session.outcome
      = some .success
    ∧ (directoryRun refusing).state.session.connection? = none
    ∧ ∀ later u s', Course Remote Directory
        (directoryRun refusing).state.session later u s' → u = [] := by
  have hheld :
      (directoryRun clinging).state.session.connection? = some clinging := by
    decide +kernel
  have hfree : (directoryRun refusing).state.session.connection? = none := by
    decide +kernel
  have hover : (directoryRun refusing).state.session.outcome ≠ none := by
    decide +kernel
  obtain ⟨-, -, -, -, hsuccess, -, hdispose, -⟩ :=
    Session.directory_closed_once (directoryCourse clinging)
  obtain ⟨houtcome, -, -, -, hclose⟩ :=
    hdispose (directoryRun clinging).state.opener
  obtain ⟨-, -, -, -, -, -, -, hidle, -⟩ :=
    Session.directory_closed_once (directoryCourse refusing)
  refine ⟨hheld, (hclose clinging hheld).1, houtcome.trans (hsuccess ?_), hfree,
    fun later u s' hlater => (hidle hover hfree later u s' hlater).1⟩
  rw [hheld]
  exact nofun

end Rehearsal

end SaslGate
