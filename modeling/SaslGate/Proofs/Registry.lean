/-
What a host is told of the mechanisms, and what it gets when it asks for one.
The list of names and the choice of a session are made by different code, so
each is brought to the same form: which names there are (`mem_mechanisms_iff`)
and which sessions, of which kind and for which name (`create_eq_some_iff`).
The kind decides for the whole life of a session which of the two connectors
it may call upon (`relay_events`, `check_events`).
-/
import SaslGate.Proofs.Session.Tenure
import SaslGate.Proofs.Session.Custody

namespace SaslGate

-- ================================================================== names

namespace ScramMechanism

theorem mem_all (m : ScramMechanism) : m ∈ all := by
  cases m with
  | sha256 => decide
  | sha512 => decide

/-- A mechanism is known by its name, to the letter. -/
theorem ofName?_eq_some_iff {text : String} {m : ScramMechanism} :
    ofName? text = some m ↔ m.name = text := by
  constructor
  · intro h
    simpa using List.find?_some h
  · intro h
    subst h
    cases m with
    | sha256 => decide
    | sha512 => decide

theorem name_ne_plainName (m : ScramMechanism) : m.name ≠ plainName := by
  cases m with
  | sha256 => decide
  | sha512 => decide

end ScramMechanism

namespace Registry

variable {σ γ : Type} {r : Registry} {name : String} {s : Session σ γ}

/-- PLAIN is there with either backend, SCRAM with a remote server only. -/
theorem mem_mechanisms_iff : name ∈ r.mechanisms ↔
    (name = plainName ∧ (r.config.remote ≠ none ∨ r.config.directory ≠ none))
    ∨ (r.config.remote ≠ none ∧ ∃ m : ScramMechanism, m.name = name) := by
  have hscram : name ∈ ScramMechanism.all.map ScramMechanism.name
      ↔ ∃ m : ScramMechanism, m.name = name := by
    simp [ScramMechanism.mem_all]
  unfold mechanisms
  rw [List.mem_append]
  cases hremote : r.config.remote with
  | some remote => simp [hscram]
  | none =>
    cases hdirectory : r.config.directory with
    | some directory => simp
    | none => simp

/-- No mechanism is listed twice, because their names differ. -/
theorem nodup_mechanisms (r : Registry) : r.mechanisms.Nodup := by
  unfold mechanisms
  cases hremote : r.config.remote with
  | some remote =>
    show ([plainName] ++ ScramMechanism.all.map ScramMechanism.name).Nodup
    decide
  | none =>
    cases hdirectory : r.config.directory with
    | some directory => simp
    | none => simp

/-- The fresh sessions of a registry, each under the name of its mechanism. -/
inductive Offers {σ γ : Type} (r : Registry) : String → Session σ γ → Prop
  | plain {remote : RemoteConfig} (configured : r.config.remote = some remote) :
      Offers r plainName (.plain remote .fresh)
  | scram {remote : RemoteConfig} (m : ScramMechanism)
      (configured : r.config.remote = some remote) :
      Offers r m.name (.scram remote (.fresh m))
  | directory {directory : DirectoryConfig}
      (unrelayed : r.config.remote = none)
      (configured : r.config.directory = some directory) :
      Offers r plainName (.directory directory .fresh)

/-- What is handed out is what is on offer. -/
theorem create_eq_some_iff : r.create name = some s ↔ r.Offers name s := by
  constructor
  · intro h
    unfold create at h
    split at h
    · rename_i remote hremote
      split at h
      · rename_i hname
        cases h
        subst hname
        exact .plain hremote
      · obtain ⟨m, hm, rfl⟩ := Option.map_eq_some_iff.1 h
        rw [← ScramMechanism.ofName?_eq_some_iff.1 hm]
        exact .scram m hremote
    · rename_i directory hremote hdirectory
      split at h
      · rename_i hname
        cases h
        subst hname
        exact .directory hremote hdirectory
      · cases h
    · cases h
  · intro h
    cases h with
    | plain configured => simp [create, configured]
    | scram m configured =>
      have hname := ScramMechanism.ofName?_eq_some_iff.2 (Eq.refl m.name)
      simp [create, configured, m.name_ne_plainName, hname]
    | directory unrelayed configured => simp [create, unrelayed, configured]

/-- There is a session for every name, and for no other text. -/
theorem exists_offer_iff :
    (∃ s : Session σ γ, r.Offers name s) ↔ name ∈ r.mechanisms := by
  rw [mem_mechanisms_iff]
  constructor
  · intro h
    obtain ⟨s, hs⟩ := h
    cases hs with
    | plain configured => simp [configured]
    | scram m configured => simp [configured]
    | directory unrelayed configured => simp [configured]
  · intro h
    cases hremote : r.config.remote with
    | some remote =>
      rcases h with ⟨rfl, -⟩ | ⟨-, m, rfl⟩
      · exact ⟨_, .plain hremote⟩
      · exact ⟨_, .scram m hremote⟩
    | none =>
      rw [hremote] at h
      rcases h with ⟨rfl, hsome⟩ | ⟨hsome, -⟩
      · obtain ⟨directory, hdirectory⟩ :=
          Option.ne_none_iff_exists'.1 (hsome.resolve_left (by simp))
        exact ⟨_, .directory hremote hdirectory⟩
      · exact absurd rfl hsome

end Registry

-- ============================================================ whole sessions

/-- What happens over a connection is no business of the directory. -/
theorem Lifetime.relayed {config : RemoteConfig} {t : List Event}
    (h : Lifetime config t) (call : DirectoryEvent) : .directory call ∉ t := by
  cases h with
  | never => exact List.not_mem_nil
  | refused kind => simp
  | whole id unshut answer => simp

section Courses

variable {κ δ σ γ : Type} [Connector κ σ] [Wire σ] [DirectoryService δ γ]
  [DirectoryConnection γ] {start s : Session σ γ} {calls : List HostCall}
  {t : List Event}

/-- Nothing is done for a session that nobody calls. -/
theorem Course.eq_start (course : Course κ δ start [] t s) :
    t = [] ∧ s = start := by
  generalize hcalls : ([] : List HostCall) = calls at course
  cases course with
  | start => exact ⟨rfl, rfl⟩
  | call before served => simp at hcalls

/-- A relayed session leaves the directory alone, to its end. -/
theorem Session.relay_events {config : RemoteConfig}
    (begins : start.Begins config) (course : Course κ δ start calls t s)
    (world : World κ δ) (call : DirectoryEvent) :
    .directory call ∉ t ++ (Session.drop.run ⟨world, s⟩).events := by
  rw [Session.drop_events begins course world]
  have hcustody := (Session.tended_of_course begins course).custody
  exact hcustody.farewell.lifetime.relayed call

/-- A session that a directory checks calls upon nothing else, to its end. -/
theorem Session.check_events {config : DirectoryConfig}
    (course : Course κ δ (.directory config .fresh) calls t s)
    (world : World κ δ) :
    ∀ e ∈ t ++ (Session.drop.run ⟨world, s⟩).events,
      ∃ call, e = .directory call := by
  obtain ⟨check, ops, rfl, rfl, -⟩ := DirectoryCheck.tended_of_course course
  intro e he
  rw [Session.run_drop_directory, ← List.map_append] at he
  obtain ⟨call, -, rfl⟩ := List.mem_map.1 he
  exact ⟨call, rfl⟩

end Courses

-- ============================================================ the registry

namespace Registry

variable {κ δ σ γ : Type} [DirectoryService δ γ]

/-- A registry is refused for one reason: its directory is to be bound to in a
way that the service does not support. -/
theorem ofConfig_eq_error_iff {config : Config} {service : δ}
    {error : ConfigError} :
    ofConfig config service = .error error ↔
      ∃ directory mechanism, config.directory = some directory
        ∧ directory.mode = .sasl mechanism
        ∧ DirectoryService.supports mechanism service = false
        ∧ error = .unsupportedBind mechanism := by
  unfold ofConfig
  cases hdirectory : config.directory with
  | none => simp
  | some directory =>
    cases hmode : directory.mode with
    | simple => simp [hmode]
    | sasl mechanism =>
      cases hsupports : DirectoryService.supports mechanism service with
      | true => simp [hmode, hsupports]
      | false => simpa [hmode, hsupports] using eq_comm

/-- A registry is its configuration. -/
theorem ofConfig_eq_ok {config : Config} {service : δ} {r : Registry}
    (h : ofConfig config service = .ok r) : r = ⟨config⟩ := by
  unfold ofConfig at h
  split at h
  · split at h
    · cases h
      rfl
    · cases h
  · cases h
    rfl

/-- What a host is told and what it gets agree, whatever is configured and
whatever name it asks for. There is a session for a name if and only if the
name is in the list, and no name is there twice. The session goes by that name
and is not complete, nothing has been done for it, and whatever is asked of it
up to its end, it calls upon the directory only without a remote server, and
upon the remote server only with one. A registry is refused only for a bind
that the directory service does not support, with a remote server or without. -/
theorem discovery_exact [Connector κ σ] [Wire σ] [DirectoryConnection γ]
    (r : Registry) (name : String) :
    ((r.create name : Option (Session σ γ)).isSome = true
      ↔ name ∈ r.mechanisms)
    ∧ r.mechanisms.Nodup
    ∧ (∀ start : Session σ γ, r.create name = some start →
        start.mechanismName = name ∧ start.isComplete = false
        ∧ (∀ (t : List Event) (s : Session σ γ),
            Course κ δ start [] t s → t = [] ∧ s = start)
        ∧ ∀ (calls : List HostCall) (t : List Event) (s : Session σ γ)
            (world : World κ δ), Course κ δ start calls t s →
            (r.config.remote ≠ none → ∀ call,
              .directory call ∉ t ++ (Session.drop.run ⟨world, s⟩).events)
            ∧ (r.config.remote = none →
              ∀ e ∈ t ++ (Session.drop.run ⟨world, s⟩).events,
                ∃ call, e = .directory call))
    ∧ ∀ service : δ,
        (∀ error, ofConfig r.config service = .error error ↔
          ∃ directory mechanism, r.config.directory = some directory
            ∧ directory.mode = .sasl mechanism
            ∧ DirectoryService.supports mechanism service = false
            ∧ error = .unsupportedBind mechanism)
        ∧ ∀ r', ofConfig r.config service = .ok r' → r' = r := by
  refine ⟨?_, r.nodup_mechanisms, ?_, fun service =>
    ⟨fun _ => ofConfig_eq_error_iff, fun _ => ofConfig_eq_ok⟩⟩
  · rw [← exists_offer_iff (σ := σ) (γ := γ), Option.isSome_iff_exists]
    simp only [create_eq_some_iff]
  · intro start hcreate
    have hfresh (t : List Event) (s : Session σ γ)
        (course : Course κ δ start [] t s) : t = [] ∧ s = start :=
      course.eq_start
    have hoffers := create_eq_some_iff.1 hcreate
    -- two kinds talk to the remote server, the third to the directory
    cases hoffers with
    | plain configured =>
      refine ⟨rfl, rfl, hfresh, fun calls t s world course => ⟨fun _ =>
        Session.relay_events .plain course world, fun hnone => ?_⟩⟩
      rw [configured] at hnone
      cases hnone
    | scram m configured =>
      refine ⟨rfl, rfl, hfresh, fun calls t s world course => ⟨fun _ =>
        Session.relay_events (.scram m) course world, fun hnone => ?_⟩⟩
      rw [configured] at hnone
      cases hnone
    | directory unrelayed configured =>
      refine ⟨rfl, rfl, hfresh, fun calls t s world course => ⟨fun hsome =>
        absurd unrelayed hsome, fun _ => Session.check_events course world⟩⟩

end Registry

namespace Rehearsal

/-- A remote server and, beside it, a directory with a bind that the service
does not support, which is refused. The names are in the list all the same, and
a session that has heard its first message has not called upon the
directory. -/
theorem discovery_exact_rehearsal :
    let endpoints : Endpoints := ⟨[.onHost .ldap "a.example"], by simp⟩
    let remote : RemoteConfig := { host := "broker" }
    let directory : DirectoryConfig :=
      { endpoints := endpoints, mode := .sasl .cramMd5 }
    let r : Registry := ⟨{ remote := some remote, directory := some directory }⟩
    let service : Directory := ⟨[], [], [], none, none, none, []⟩
    Registry.ofConfig r.config service = .error (.unsupportedBind .cramMd5)
      ∧ "SCRAM-SHA-256" ∈ r.mechanisms
      ∧ ∀ call, .directory call ∉ (scramFirst []).events
        ++ (Session.drop.run (scramFirst []).state).events := by
  intro endpoints remote directory r service
  obtain ⟨hcreates, -, hsession, hrefused⟩ :=
    Registry.discovery_exact (κ := Remote) (δ := Directory) (σ := Socket)
      (γ := Directory) r "SCRAM-SHA-256"
  refine ⟨?_, ?_, ?_⟩
  · exact ((hrefused service).1 _).2 ⟨directory, .cramMd5, rfl, rfl, rfl, rfl⟩
  · exact hcreates.1 (by decide +kernel)
  · obtain ⟨-, -, -, hlife⟩ := hsession (.scram remote (.fresh .sha256)) rfl
    exact (hlife _ _ _ (scramFirst []).state.opener (scramOpening [])).1 nofun

end Rehearsal

end SaslGate
