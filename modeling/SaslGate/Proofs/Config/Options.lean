/-
A configuration read from options against the one that a program puts together.
The options are looked at through ten values only, one for each key that is
known, and what they come to is a list of checks and a configuration
(`config_vetted`): the first check that fails decides the error, and if none
does the configuration is what the builders give, one setter called for each
option that counts.

# One value for each key

The last value of a key that is not blank counts (`value?_eq_some_iff`), so
whatever leaves these values alone changes nothing (`Edit.value?_eq`).

# Checks

`Vetted` says of a computation which checks it makes, in their order, and what
it comes to if they all pass. It goes through a sequence step by step
(`Vetted.bind`), so the checks of the whole are those of its parts.
-/
import SaslGate.Config.Builder
import SaslGate.Config.Options
import SaslGate.Proofs.Config.Value

namespace SaslGate

-- =================================================================== checks

section Checks

variable {ε α β : Type}

/-- What a computation complains about, if it does. -/
def fault? : Except ε α → Option ε
  | .error e => some e
  | .ok _ => none

/-- The computation fails with the complaint of the first check that has one,
and else gives the result. -/
def Vetted (checks : List (Option ε)) (a : α) (r : Except ε α) : Prop :=
  r = match checks.findSome? id with
    | some e => .error e
    | none => .ok a

namespace Vetted

variable {checks more : List (Option ε)} {a : α} {b : β} {e : ε}
  {r : Except ε α} {k : α → Except ε β}

theorem pure (a : α) : Vetted [] a (.ok a : Except ε α) := rfl

/-- What comes second is checked only if all that comes first has passed. -/
theorem bind (first : Vetted checks a r)
    (second : (∀ check ∈ checks, check = none) → Vetted more b (k a)) :
    Vetted (checks ++ more) b (r >>= k) := by
  unfold Vetted at first ⊢
  rw [first, List.findSome?_append]
  cases hfirst : checks.findSome? id with
  | some e => rfl
  | none =>
    have hpassed := List.findSome?_eq_none_iff.1 hfirst
    rw [Option.none_or]
    exact second hpassed

/-- What is done at the end cannot fail. -/
theorem andThen (first : Vetted checks a r) (last : k a = .ok b) :
    Vetted checks b (r >>= k) := by
  have hwhole := first.bind (k := k) fun _ => last ▸ Vetted.pure (ε := ε) b
  rwa [List.append_nil] at hwhole

/-- The error that is reported is that of the first check that fails. -/
theorem error_iff (h : Vetted checks a r) :
    r = .error e ↔ ∃ passed later, checks = passed ++ some e :: later
      ∧ ∀ check ∈ passed, check = none := by
  have hfirst : r = .error e ↔ checks.findSome? id = some e := by
    rw [h]
    cases checks.findSome? id <;> simp
  rw [hfirst, List.findSome?_eq_some_iff]
  simp only [id]
  constructor
  · intro h
    obtain ⟨passed, check, later, rfl, rfl, hpassed⟩ := h
    exact ⟨passed, later, rfl, hpassed⟩
  · intro h
    obtain ⟨passed, later, rfl, hpassed⟩ := h
    exact ⟨passed, _, later, rfl, rfl, hpassed⟩

/-- If every check passes there is one result, and else there is none. -/
theorem ok_iff {x : α} (h : Vetted checks a r) :
    r = .ok x ↔ (∀ check ∈ checks, check = none) ∧ x = a := by
  have hpassed := List.findSome?_eq_none_iff (p := id) (l := checks)
  simp only [id] at hpassed
  rw [h, ← hpassed]
  cases checks.findSome? id <;> simp [eq_comm]

end Vetted

end Checks

namespace Options

open Text

variable {o o' : Options} {key k v : String}

-- ======================================================== values that count

/-- The keys that are known. -/
def keys : List String :=
  ["amqp_host", "amqp_port", "amqp_hostname", "realm", "connect_timeout_ms",
    "negotiation_timeout_ms", "ldap_urls", "bind", "dn_format",
    "ldap_failover"]

/-- An entry counts unless a later one of its key does. -/
theorem value?_cons (k v key : String) (o : Options) :
    value? ((k, v) :: o) key
      = (o.value? key).or
        (if k = key ∧ trim v ≠ "" then some (trim v) else none) := by
  unfold value?
  rw [List.map_cons, List.reverse_cons, List.find?_append, Option.map_or]
  congr 1
  by_cases h : k = key ∧ trim v ≠ ""
  · rw [if_pos h]
    simp [h.1, h.2]
  · rw [if_neg h]
    rw [List.find?_singleton, if_neg]
    · rfl
    · simpa using h

/-- The later entries go before the earlier ones. -/
theorem value?_append (before after : Options) (key : String) :
    value? (before ++ after) key
      = (value? after key).or (value? before key) := by
  induction before with
  | nil => exact (Option.or_none).symm
  | cons entry before ih =>
    obtain ⟨k, v⟩ := entry
    rw [List.cons_append, value?_cons, value?_cons, ih, Option.or_assoc]

/-- The value that counts for a key: white space at its ends does not, and
neither do values behind it that are nothing else. -/
def Effective (o : Options) (key value : String) : Prop :=
  ∃ before raw after, o = before ++ (key, raw) :: after ∧ ¬Blank raw
    ∧ trim raw = value ∧ ∀ entry ∈ after, entry.1 = key → Blank entry.2

/-- A key has no value if all that is said of it is blank. -/
theorem value?_eq_none_iff :
    o.value? key = none ↔ ∀ entry ∈ o, entry.1 = key → Blank entry.2 := by
  induction o with
  | nil => simp [value?]
  | cons entry o ih =>
    obtain ⟨k, v⟩ := entry
    rw [value?_cons, Option.or_eq_none_iff, ih, List.forall_mem_cons,
      and_comm, ← trim_eq_empty_iff]
    by_cases hkey : k = key <;> by_cases hblank : trim v = "" <;>
      simp [hkey, hblank]

/-- The value that is looked up is the one that counts. -/
theorem value?_eq_some_iff :
    o.value? key = some v ↔ o.Effective key v := by
  constructor
  · intro h
    induction o with
    | nil => cases h
    | cons entry o ih =>
      obtain ⟨k, raw⟩ := entry
      rw [value?_cons] at h
      -- a later value hides this entry
      cases hlater : value? o key with
      | some w =>
        rw [hlater] at h
        obtain ⟨before, raw', after, rfl, hcounts⟩ := ih (hlater.trans h)
        exact ⟨(k, raw) :: before, raw', after, rfl, hcounts⟩
      | none =>
        rw [hlater, Option.none_or] at h
        by_cases hcounts : k = key ∧ trim raw ≠ ""
        · rw [if_pos hcounts] at h
          obtain ⟨rfl, hraw⟩ := hcounts
          exact ⟨[], raw, o, rfl, mt trim_eq_empty_iff.2 hraw,
            Option.some.inj h, value?_eq_none_iff.1 hlater⟩
        · rw [if_neg hcounts] at h
          cases h
  · intro h
    obtain ⟨before, raw, after, rfl, hraw, rfl, hafter⟩ := h
    rw [value?_append, value?_cons, value?_eq_none_iff.2 hafter,
      if_pos ⟨rfl, mt trim_eq_empty_iff.1 hraw⟩]
    rfl

/-- A key that is not there leaves no trace. -/
theorem value?_filter (o : Options) (key : String) :
    value? (o.filter fun entry => entry.1 == key) key = o.value? key := by
  induction o with
  | nil => rfl
  | cons entry o ih =>
    obtain ⟨k, v⟩ := entry
    by_cases hkey : k = key
    · rw [List.filter_cons_of_pos (by simpa using hkey), value?_cons,
        value?_cons, ih]
    · rw [List.filter_cons_of_neg (by simpa using hkey), ih, value?_cons,
        if_neg (fun h => hkey h.1), Option.or_none]

/-- A change of the options that no value that counts can tell. -/
inductive Edit : Options → Options → Prop
  /-- Options of different keys may change places. -/
  | reorder {o o' : Options}
      (same : ∀ key, o.filter (fun entry => entry.1 == key)
        = o'.filter fun entry => entry.1 == key) : Edit o o'
  | blank (before after : Options) (k : String) {v : String}
      (blank : Blank v) : Edit (before ++ after) (before ++ (k, v) :: after)
  | unknown (before after : Options) {k : String} (v : String)
      (unknown : k ∉ keys) : Edit (before ++ after) (before ++ (k, v) :: after)
  | pad (before after : Options) (k v : String) {left right : String}
      (left_blank : Blank left) (right_blank : Blank right) :
      Edit (before ++ (k, v) :: after)
        (before ++ (k, left ++ v ++ right) :: after)

/-- An edit leaves the value of every known key alone. -/
theorem Edit.value?_eq (h : Edit o o') (known : key ∈ keys) :
    o'.value? key = o.value? key := by
  cases h with
  | reorder same => rw [← value?_filter o', ← same key, value?_filter]
  | blank before after k hblank =>
    rw [value?_append, value?_cons, value?_append,
      if_neg (fun h => h.2 (trim_eq_empty_iff.2 hblank)), Option.or_none]
  | @unknown before after k v hunknown =>
    have hother : k ≠ key := by
      intro heq
      exact hunknown (heq ▸ known)
    rw [value?_append, value?_cons, value?_append,
      if_neg (fun h => hother h.1), Option.or_none]
  | pad before after k v hleft hright =>
    rw [value?_append, value?_cons, value?_append, value?_cons,
      trim_pad hleft hright]

/-- Nothing else of the options is looked at. -/
theorem config_congr (same : ∀ key ∈ keys, o'.value? key = o.value? key) :
    o'.config = o.config := by
  simp only [config, timeout, remote, directory, bindMode, failover, number?,
    same "amqp_host" (by decide), same "amqp_port" (by decide),
    same "amqp_hostname" (by decide), same "realm" (by decide),
    same "connect_timeout_ms" (by decide),
    same "negotiation_timeout_ms" (by decide), same "ldap_urls" (by decide),
    same "bind" (by decide), same "dn_format" (by decide),
    same "ldap_failover" (by decide)]

-- ========================================================== what is checked

/-- A number up to `max`, or why a text is none. -/
def numeralOf (max : Nat) (text : String) : Except String Nat :=
  (numeral max text.toList).mapError NumeralError.message

/-- What the value of a key is read as, if there is a value and it is fine. -/
def parsed? {ρ α : Type} (o : Options) (key : String)
    (parse : String → Except ρ α) : Option α :=
  (o.value? key).bind fun text => (parse text).toOption

/-- A value that is not fine is an invalid option of its key. -/
def refusal {α : Type} (o : Options) (key : String)
    (parse : String → Except String α) : Option ConfigError :=
  (o.value? key).bind fun text =>
    (fault? (parse text)).map fun reason => .invalidOption key text reason

/-- Passwords are checked by a simple bind unless another bind is named. -/
def bindsSimply (o : Options) : Bool :=
  match o.value? "bind" with
  | none => true
  | some name => String.ofList (name.toList.map Char.toLower) = "simple"

/-- A simple bind needs a template of names, and any other is a mechanism. -/
def bindRefusal (o : Options) : Option ConfigError :=
  if o.bindsSimply then
    match o.value? "dn_format" with
    | none => some (.missingOption "dn_format")
    | some format => (fault? (DnTemplate.ofString format)).map .dnTemplate
  else o.refusal "bind" BindMechanism.ofName

/-- The checks in their order. Those of a backend are made where it is chosen,
and that one is chosen is checked last. -/
def checks (o : Options) : List (Option ConfigError) :=
  [o.refusal "connect_timeout_ms" (numeralOf (UInt64.size - 1)),
    o.refusal "negotiation_timeout_ms" (numeralOf (UInt64.size - 1)),
    (o.value? "amqp_host").bind fun _ =>
      o.refusal "amqp_port" (numeralOf 65535),
    (o.value? "ldap_urls").bind fun urls =>
      (fault? (Endpoints.parse urls)).map .endpoint,
    (o.value? "ldap_urls").bind fun _ => o.bindRefusal,
    (o.value? "ldap_urls").bind fun _ =>
      o.refusal "ldap_failover" FailoverOrder.ofName,
    if o.value? "amqp_host" = none ∧ o.value? "ldap_urls" = none then
      some .noBackend else none]

-- ===================================================== what is put together

/-- A timeout that is given. Zero stands for none at all. -/
def bound? (o : Options) (key : String) : Option (Option Duration) :=
  (o.parsed? key (numeralOf (UInt64.size - 1))).map fun n =>
    if n = 0 then none else some (millis n)

/-- The timeout that counts. -/
def limit (o : Options) (key : String) : Option Duration :=
  (o.bound? key).getD (some defaultTimeout)

/-- How passwords are checked, if that is fine. -/
def mode? (o : Options) : Option BindMode :=
  if o.bindsSimply then
    (o.parsed? "dn_format" DnTemplate.ofString).map .simple
  else (o.parsed? "bind" BindMechanism.ofName).map .sasl

/-- What a program makes of a value, if there is one: it calls the setter. -/
def given {α β : Type} (value : Option α) (set : α → β → β) (b : β) : β :=
  match value with
  | some a => set a b
  | none => b

/-- The remote server as a program puts it together, if a host is given. -/
def builtRemote (o : Options) : Option RemoteConfig :=
  (o.value? "amqp_host").map fun host =>
    RemoteConfig.builder
      |> RemoteConfig.withHost host
      |> given ((o.parsed? "amqp_port" (numeralOf 65535)).map UInt16.ofNat)
          RemoteConfig.withPortNumber
      |> given (o.value? "amqp_hostname") RemoteConfig.withSaslHostname
      |> given (o.value? "realm") RemoteConfig.withRealm
      |> given (o.bound? "connect_timeout_ms") RemoteConfig.withConnectTimeout
      |> given (o.bound? "negotiation_timeout_ms")
          RemoteConfig.withNegotiationTimeout

/-- The directory as a program puts it together, if there are servers and a way
to check passwords. -/
def builtDirectory (o : Options) : Option DirectoryConfig :=
  match o.parsed? "ldap_urls" Endpoints.parse, o.mode? with
  | some endpoints, some mode => some
    (DirectoryConfig.builder endpoints mode
      |> given (o.value? "realm") DirectoryConfig.withRealm
      |> given (o.bound? "connect_timeout_ms") DirectoryConfig.withTimeout
      |> given (o.parsed? "ldap_failover" FailoverOrder.ofName)
          DirectoryConfig.withFailover)
  | _, _ => none

/-- The configuration as a program puts it together. -/
def built (o : Options) : Config :=
  Config.builder
    |> given o.builtRemote Config.withRemote
    |> given o.builtDirectory Config.withDirectory

-- =============================================================== the checks

/-- A number is taken from the value of its key, within its bound. -/
theorem parsed?_numeral_iff {max n : Nat} :
    o.parsed? key (numeralOf max) = some n
      ↔ ∃ text, o.value? key = some text ∧ Numeral n text.toList
        ∧ n ≤ max := by
  unfold parsed? numeralOf
  rw [Option.bind_eq_some_iff]
  simp only [← numeral_eq_ok_iff]
  refine exists_congr fun text => and_congr_right fun _ => ?_
  cases numeral max text.toList <;> simp [Except.toOption, Except.mapError]

/-- A value has to be a numeral that fits; no value is fine. -/
theorem refusal_numeral_iff {max : Nat} :
    o.refusal key (numeralOf max) = none
      ↔ ∀ text, o.value? key = some text →
        ∃ n, Numeral n text.toList ∧ n ≤ max := by
  unfold refusal numeralOf
  cases o.value? key with
  | none => simp
  | some text =>
    simp only [Option.bind_some, Option.map_eq_none_iff, Option.some.injEq,
      forall_eq', ← numeral_eq_ok_iff]
    cases numeral max text.toList <;> simp [fault?, Except.mapError]

/-- A number makes one check, of its own value. -/
theorem vetted_number (o : Options) (key : String) (max : Nat) :
    Vetted [o.refusal key (numeralOf max)] (o.parsed? key (numeralOf max))
      (o.number? key max) := by
  unfold number? refusal parsed? numeralOf
  cases o.value? key with
  | none => rfl
  | some text =>
    simp only [Option.bind_some]
    cases numeral max text.toList <;> rfl

/-- A timeout is a number like any other, which may be zero for none. -/
theorem vetted_timeout (o : Options) (key : String) :
    Vetted [o.refusal key (numeralOf (UInt64.size - 1))] (o.limit key)
      (o.timeout key) := by
  unfold timeout limit bound?
  refine (vetted_number o key _).andThen ?_
  cases o.parsed? key (numeralOf (UInt64.size - 1)) <;> rfl

/-- The order of failover has a default, and a check if it is named. -/
theorem vetted_failover (o : Options) :
    Vetted [o.refusal "ldap_failover" FailoverOrder.ofName]
      ((o.parsed? "ldap_failover" FailoverOrder.ofName).getD .shuffled)
      o.failover := by
  unfold failover refusal parsed?
  cases o.value? "ldap_failover" with
  | none => rfl
  | some name =>
    simp only [Option.bind_some]
    cases FailoverOrder.ofName name <;> rfl

/-- Each setter replaces one default. -/
theorem builtRemote_eq (o : Options) :
    o.builtRemote = (o.value? "amqp_host").map fun host =>
      { host
        portNumber := ((o.parsed? "amqp_port" (numeralOf 65535)).map
          UInt16.ofNat).getD amqpPortNumber
        saslHostname := o.value? "amqp_hostname"
        realm := o.value? "realm"
        connectTimeout := o.limit "connect_timeout_ms"
        negotiationTimeout := o.limit "negotiation_timeout_ms" } := by
  unfold builtRemote limit
  congr 1
  funext host
  cases o.parsed? "amqp_port" (numeralOf 65535) <;>
    cases o.value? "amqp_hostname" <;> cases o.value? "realm" <;>
    cases o.bound? "connect_timeout_ms" <;>
    cases o.bound? "negotiation_timeout_ms" <;> rfl

/-- A directory takes both its endpoints and a way to bind, and its setters
replace the defaults of the rest. -/
theorem builtDirectory_eq (o : Options) :
    o.builtDirectory
      = match o.parsed? "ldap_urls" Endpoints.parse, o.mode? with
        | some endpoints, some mode => some
          { endpoints
            mode
            realm := o.value? "realm"
            timeout := o.limit "connect_timeout_ms"
            failover :=
              (o.parsed? "ldap_failover" FailoverOrder.ofName).getD .shuffled }
        | _, _ => none := by
  unfold builtDirectory limit
  cases o.parsed? "ldap_failover" FailoverOrder.ofName <;>
    cases o.value? "realm" <;> cases o.bound? "connect_timeout_ms" <;> rfl

/-- Of a remote server only the port is checked, and only with a host. -/
theorem vetted_remote (o : Options) :
    Vetted [(o.value? "amqp_host").bind fun _ =>
        o.refusal "amqp_port" (numeralOf 65535)]
      o.builtRemote
      (o.remote (o.limit "connect_timeout_ms")
        (o.limit "negotiation_timeout_ms")) := by
  rw [builtRemote_eq]
  unfold remote
  cases o.value? "amqp_host" with
  | none => rfl
  | some host => exact (vetted_number o "amqp_port" 65535).andThen rfl

/-- A bind that is not named is simple. -/
theorem bindsSimply_iff :
    o.bindsSimply = true ↔ String.ofList
      (((o.value? "bind").getD "simple").toList.map Char.toLower)
        = "simple" := by
  unfold bindsSimply
  cases o.value? "bind" with
  | none => exact iff_of_true rfl (by decide)
  | some name => exact decide_eq_true_iff

/-- The way to check passwords is fine, or its check says why it is not. -/
theorem bindMode_cases (o : Options) :
    (∃ mode, o.bindMode = .ok mode ∧ o.mode? = some mode
      ∧ o.bindRefusal = none)
    ∨ ∃ e, o.bindMode = .error e ∧ o.bindRefusal = some e := by
  unfold bindMode mode? bindRefusal
  by_cases hsimply : o.bindsSimply = true
  · simp only [bindsSimply_iff.1 hsimply, hsimply, if_true, parsed?]
    cases o.value? "dn_format" with
    | none => exact .inr ⟨_, rfl, rfl⟩
    | some format =>
      simp only [Option.bind_some]
      cases DnTemplate.ofString format with
      | ok template => exact .inl ⟨_, rfl, rfl, rfl⟩
      | error e => exact .inr ⟨_, rfl, rfl⟩
  · simp only [if_neg (mt bindsSimply_iff.2 hsimply), if_neg hsimply, parsed?,
      refusal]
    cases hname : o.value? "bind" with
    | none =>
      -- no bind would be a simple one
      rw [bindsSimply, hname] at hsimply
      exact absurd rfl hsimply
    | some name =>
      simp only [Option.getD_some, Option.bind_some]
      cases BindMechanism.ofName name with
      | ok mechanism => exact .inl ⟨_, rfl, rfl, rfl⟩
      | error reason => exact .inr ⟨_, rfl, rfl⟩

/-- Of a directory three things are checked, in this order. -/
theorem vetted_directory (o : Options) :
    Vetted [(o.value? "ldap_urls").bind fun urls =>
        (fault? (Endpoints.parse urls)).map .endpoint,
      (o.value? "ldap_urls").bind fun _ => o.bindRefusal,
      (o.value? "ldap_urls").bind fun _ =>
        o.refusal "ldap_failover" FailoverOrder.ofName]
      o.builtDirectory (o.directory (o.limit "connect_timeout_ms")) := by
  rw [builtDirectory_eq]
  unfold directory parsed?
  cases o.value? "ldap_urls" with
  | none => rfl
  | some urls =>
    simp only [Option.bind_some]
    cases Endpoints.parse urls with
    | error e => rfl
    | ok endpoints =>
      obtain ⟨mode, hmode, hread, hfine⟩ | ⟨e, hmode, hbad⟩ :=
        o.bindMode_cases
      · rw [hmode, hread, hfine]
        -- the two checks that have passed have nothing to say
        show Vetted [o.refusal "ldap_failover" FailoverOrder.ofName] _ _
        exact o.vetted_failover.andThen rfl
      · rw [hmode, hbad]
        rfl

/-- A remote server is put together if one is named. -/
theorem builtRemote_eq_none_iff :
    o.builtRemote = none ↔ o.value? "amqp_host" = none := Option.map_eq_none_iff

/-- A directory is put together if servers are named and their checks pass. -/
theorem builtDirectory_eq_none_iff (o : Options)
    (urls_passed : ((o.value? "ldap_urls").bind fun urls =>
      (fault? (Endpoints.parse urls)).map ConfigError.endpoint) = none)
    (mode_passed : ((o.value? "ldap_urls").bind fun _ => o.bindRefusal)
      = none) :
    o.builtDirectory = none ↔ o.value? "ldap_urls" = none := by
  rw [builtDirectory_eq, parsed?]
  cases hurls : o.value? "ldap_urls" with
  | none => simp
  | some urls =>
    rw [hurls, Option.bind_some] at urls_passed mode_passed
    rw [Option.bind_some]
    cases hparse : Endpoints.parse urls with
    | error e =>
      rw [hparse] at urls_passed
      cases urls_passed
    | ok endpoints =>
      obtain ⟨mode, -, hread, -⟩ | ⟨e, -, hbad⟩ := o.bindMode_cases
      · simp [Except.toOption, hread]
      · rw [hbad] at mode_passed
        cases mode_passed

/-- The configuration that is put together has the two backends in it. -/
theorem built_eq (o : Options) :
    o.built
      = { remote := o.builtRemote, directory := o.builtDirectory } := by
  unfold built
  cases o.builtRemote <;> cases o.builtDirectory <;> rfl

/-- The checks of a configuration are those of its parts, in their order. -/
theorem config_vetted (o : Options) :
    Vetted o.checks o.built o.config := by
  unfold config
  refine (o.vetted_timeout "connect_timeout_ms").bind fun _ => ?_
  refine (o.vetted_timeout "negotiation_timeout_ms").bind fun _ => ?_
  refine o.vetted_remote.bind fun _ => ?_
  refine o.vetted_directory.bind fun hpassed => ?_
  have hdirectory := o.builtDirectory_eq_none_iff (hpassed _ (by simp))
    (hpassed _ (by simp))
  have hnone : (o.builtRemote.isNone = true ∧ o.builtDirectory.isNone = true)
      ↔ o.value? "amqp_host" = none ∧ o.value? "ldap_urls" = none := by
    rw [Option.isNone_iff_eq_none, Option.isNone_iff_eq_none,
      builtRemote_eq_none_iff, hdirectory]
  simp only [hnone]
  by_cases h : o.value? "amqp_host" = none ∧ o.value? "ldap_urls" = none
  · rw [if_pos h, if_pos h]
    rfl
  · rw [if_neg h, if_neg h, built_eq]
    rfl

-- =================================================== what the builders give

/-- A remote server shares what is said for both backends. -/
theorem of_builtRemote {r : RemoteConfig} (h : o.builtRemote = some r) :
    r.realm = o.value? "realm"
      ∧ r.connectTimeout = o.limit "connect_timeout_ms"
      ∧ r.negotiationTimeout = o.limit "negotiation_timeout_ms" := by
  rw [builtRemote_eq] at h
  obtain ⟨host, -, rfl⟩ := Option.map_eq_some_iff.1 h
  exact ⟨rfl, rfl, rfl⟩

/-- So does a directory. -/
theorem of_builtDirectory {d : DirectoryConfig}
    (h : o.builtDirectory = some d) :
    d.realm = o.value? "realm"
      ∧ d.timeout = o.limit "connect_timeout_ms" := by
  rw [builtDirectory_eq] at h
  split at h
  · cases h
    exact ⟨rfl, rfl⟩
  · cases h

/-- Zero is no bound, however it is spelled. -/
theorem limit_of_zero {text : String} (h : o.value? key = some text)
    (zero : Numeral 0 text.toList) : o.limit key = none := by
  have hzero : o.parsed? key (numeralOf (UInt64.size - 1)) = some 0 :=
    parsed?_numeral_iff.2 ⟨text, h, zero, Nat.zero_le _⟩
  rw [limit, bound?, hzero]
  rfl

/-- Options against their reference. They are looked at through ten values only:
for each known key the last that is not white space, without the white space at
its ends. So no edit that leaves these alone changes anything. The error is that
of the first check that fails, and if none does the configuration is what a
program puts together, calling a setter for each value that counts. A numeral
is read for the number it spells if that fits; zero in any spelling stands for
no timeout, and the timeout of connecting and the realm are those of both
backends. -/
theorem config_exact :
    (∀ (o : Options) (key value : String),
      o.value? key = some value ↔ o.Effective key value)
    ∧ (∀ o o' : Options, (∀ key ∈ keys, o'.value? key = o.value? key) →
      o'.config = o.config)
    ∧ (∀ o o' : Options, Edit o o' → o'.config = o.config)
    ∧ (∀ (o : Options) (e : ConfigError), o.config = .error e
      ↔ ∃ passed later, o.checks = passed ++ some e :: later
        ∧ ∀ check ∈ passed, check = none)
    ∧ (∀ (o : Options) (c : Config), o.config = .ok c
      ↔ (∀ check ∈ o.checks, check = none) ∧ c = o.built)
    ∧ (∀ (o : Options) (key : String) (max : Nat),
      (o.refusal key (numeralOf max) = none
        ↔ ∀ text, o.value? key = some text →
          ∃ n, Numeral n text.toList ∧ n ≤ max)
      ∧ ∀ n, o.parsed? key (numeralOf max) = some n
        ↔ ∃ text, o.value? key = some text ∧ Numeral n text.toList ∧ n ≤ max)
    ∧ ∀ (o : Options) (c : Config), o.config = .ok c →
      (∀ text, o.value? "connect_timeout_ms" = some text →
        Numeral 0 text.toList →
        (∀ r, c.remote = some r → r.connectTimeout = none)
          ∧ ∀ d, c.directory = some d → d.timeout = none)
      ∧ (∀ text, o.value? "negotiation_timeout_ms" = some text →
        Numeral 0 text.toList →
        ∀ r, c.remote = some r → r.negotiationTimeout = none)
      ∧ ∀ r d, c.remote = some r → c.directory = some d →
        r.connectTimeout = d.timeout ∧ r.realm = d.realm := by
  refine ⟨fun o key value => value?_eq_some_iff, fun o o' => config_congr, ?_,
    fun o e => o.config_vetted.error_iff, fun o c => o.config_vetted.ok_iff,
    fun o key max => ⟨refusal_numeral_iff, fun n => parsed?_numeral_iff⟩, ?_⟩
  · intro o o' hedit
    exact config_congr fun key hknown => hedit.value?_eq hknown
  · intro o c hconfig
    -- the configuration is the one that the setters build
    obtain ⟨-, rfl⟩ := o.config_vetted.ok_iff.1 hconfig
    rw [built_eq]
    refine ⟨?_, ?_, ?_⟩
    · intro text htext hzero
      have hlimit := limit_of_zero htext hzero
      constructor
      · intro r hr
        rw [(of_builtRemote hr).2.1, hlimit]
      · intro d hd
        rw [(of_builtDirectory hd).2, hlimit]
    · intro text htext hzero r hr
      rw [(of_builtRemote hr).2.2, limit_of_zero htext hzero]
    · intro r d hr hd
      obtain ⟨hrealm, hconnect, -⟩ := of_builtRemote hr
      obtain ⟨hrealm', htimeout⟩ := of_builtDirectory hd
      exact ⟨hconnect.trans htimeout.symm, hrealm.trans hrealm'.symm⟩

end Options

end SaslGate

-- ============================================================== a rehearsal

namespace SaslGate.Rehearsal

open Options

/-- Both backends, the host given twice and once for nothing, and a timeout of
zero. -/
def bothBackends : Options :=
  [("amqp_host", " broker "), ("amqp_host", "\t"), ("realm", "here"),
    ("connect_timeout_ms", "+0"), ("ldap_urls", "ldap://d"),
    ("bind", "digest-md5")]

/-- The first host counts, the zero is no timeout of either backend, a note of
the host's own changes nothing, and of two bad numbers the one that is looked at
first is reported. -/
theorem config_exact_rehearsal :
    bothBackends.Effective "amqp_host" "broker"
    ∧ bothBackends.parsed? "connect_timeout_ms" (numeralOf 9) = some 0
    ∧ bothBackends.config = .ok bothBackends.built
    ∧ (∀ r d, bothBackends.built.remote = some r →
      bothBackends.built.directory = some d →
      r.connectTimeout = none ∧ d.timeout = none ∧ r.realm = d.realm)
    ∧ Options.config (("note", "x") :: bothBackends) = bothBackends.config
    ∧ Options.config (("bind", "digest-md5") :: bothBackends)
      = bothBackends.config
    ∧ Options.config (("amqp_port", "65536")
        :: bothBackends ++ [("negotiation_timeout_ms", "1s")])
      = .error (.invalidOption "negotiation_timeout_ms" "1s"
        "invalid digit found in string") := by
  obtain ⟨hvalue, hcongr, hedit, herror, hok, hnumeral, htimeout⟩ :=
    config_exact
  have hbuilt : bothBackends.config = .ok bothBackends.built :=
    (hok _ _).2 ⟨by decide, rfl⟩
  have hzero : Text.Numeral 0 "+0".toList :=
    ⟨['0'], .inr (by decide), by decide,
      List.forall_mem_singleton.2 (by decide), by decide⟩
  have hspelled :
      bothBackends.parsed? "connect_timeout_ms" (numeralOf 9) = some 0 :=
    ((hnumeral _ _ _).2 0).2 ⟨"+0", by decide, hzero, Nat.zero_le 9⟩
  obtain ⟨hconnect, -, hshared⟩ := htimeout _ _ hbuilt
  refine ⟨(hvalue _ _ _).1 (by decide), hspelled, hbuilt, ?_, ?_, ?_, ?_⟩
  · intro r d hr hd
    obtain ⟨hremote, hdirectory⟩ := hconnect "+0" (by decide) hzero
    exact ⟨hremote r hr, hdirectory d hd, (hshared r d hr hd).2⟩
  · exact hedit _ _ (.unknown [] bothBackends "x" (by decide))
  · exact hcongr _ _ (by decide)
  · exact (herror _ _).2 ⟨[none], _, rfl, by decide⟩

end SaslGate.Rehearsal
