/-
Which directory server a session ends up with. Endpoints are tried one by one
in the order of the attempt, and the first that answers ends the search.
`Search` has a constructor for each thing that can come of an endpoint, and
`Search.run` says that a search is what the program does, so a search has one
outcome only. Its trace is a list of refusals, with the one connection that was
opened at its end (`Search.opened`, `Search.refusals`). Every order begins with
endpoints that refuse, as many as there are in front of the first that answers
(`refused_or_answer`), and a search goes past these and no further
(`Refused.search`).
-/
import SaslGate.Directory.Failover
import SaslGate.Proofs.Act
import SaslGate.Rehearsal.Directory

namespace SaslGate

/-- An attempt to connect that came to nothing. -/
def DirectoryEvent.IsRefusal : DirectoryEvent → Prop
  | connect _ (.error _) => True
  | _ => False

-- ============================================================== searches

/-- Endpoints tried one by one: what was found, the service afterwards, and
the attempts. -/
inductive Search {δ γ : Type} [DirectoryService δ γ] :
    List Endpoint → δ → Option γ → δ → List DirectoryEvent → Prop
  | exhausted (d : δ) : Search [] d none d []
  | refused {e : Endpoint} {rest : List Endpoint} {d d₁ d' : δ}
      {error : DirectoryError} {found : Option γ} {t : List DirectoryEvent}
      (answer : DirectoryService.connect e d = (.error error, d₁))
      (further : Search rest d₁ found d' t) :
      Search (e :: rest) d found d' (.connect e (.error error) :: t)
  | reached {e : Endpoint} {rest : List Endpoint} {d d' : δ} {c : γ}
      (answer : DirectoryService.connect e d = (.ok c, d')) :
      Search (e :: rest) d (some c) d' [.connect e (.ok ())]

variable {δ γ ε : Type} [DirectoryService δ γ] {es : List Endpoint}
  {d d' : δ} {found : Option γ} {t : List DirectoryEvent}

/-- One attempt, whatever comes of it. -/
theorem run_attempt_dial (e : Endpoint) (d : δ) :
    ((dialDirectory e).attempt :
        Act DirectoryEvent δ ε (Except DirectoryError γ)).run d =
      ⟨.ok (DirectoryService.connect e d).1,
        (DirectoryService.connect e d).2,
        [.connect e ((DirectoryService.connect e d).1.map fun _ => ())]⟩ :=
  rfl

/-- Every search is carried out as it is described. -/
theorem Search.run (h : Search es d found d' t) :
    (connectFirst es : Act DirectoryEvent δ ε (Option γ)).run d =
      ⟨.ok found, d', t⟩ := by
  induction h with
  | exhausted d => rfl
  | refused answer further ih =>
    unfold connectFirst
    rw [Act.run_bind_ok _ (run_attempt_dial _ _), answer]
    simp only [ih]
    rfl
  | reached answer =>
    unfold connectFirst
    rw [Act.run_bind_ok _ (run_attempt_dial _ _), answer]
    rfl

/-- Every list of endpoints can be searched. -/
theorem exists_search (es : List Endpoint) (d : δ) :
    ∃ (found : Option γ) (d' : δ) (t : List DirectoryEvent),
      Search es d found d' t := by
  induction es generalizing d with
  | nil => exact ⟨none, d, [], .exhausted d⟩
  | cons e rest ih =>
    rcases answer : DirectoryService.connect e d with ⟨result, d₁⟩
    cases result with
    | ok c => exact ⟨some c, d₁, _, .reached answer⟩
    | error error =>
      obtain ⟨found, d', t, further⟩ := ih d₁
      exact ⟨found, d', _, .refused answer further⟩

/-- A search has one outcome. -/
theorem Search.unique {d'' : δ} {found' : Option γ}
    {t' : List DirectoryEvent} (h : Search es d found d' t)
    (h' : Search es d found' d'' t') : found = found' ∧ t = t' := by
  have hrun := (h.run (ε := AuthError)).symm.trans h'.run
  cases hrun
  exact ⟨rfl, rfl⟩

/-- A search that found nothing has met with refusals only. -/
theorem Search.refusals (h : Search es d none d' t) : ∀ x ∈ t, x.IsRefusal := by
  generalize hfound : (none : Option γ) = found at h
  induction h with
  | exhausted d => exact nofun
  | refused answer further ih =>
    intro x hx
    rcases List.mem_cons.1 hx with rfl | hx
    · trivial
    · exact ih hfound x hx
  | reached answer => cases hfound

/-- A search that found a connection ends with the endpoint that gave it, after
refusals only. -/
theorem Search.opened {c : γ} (h : Search es d (some c) d' t) :
    ∃ refusals e d₁, t = refusals ++ [.connect e (.ok ())]
      ∧ (∀ x ∈ refusals, x.IsRefusal) ∧ e ∈ es
      ∧ DirectoryService.connect e d₁ = (.ok c, d') := by
  generalize hfound : some c = found at h
  -- by the attempts, of which only the last gives a connection
  induction h with
  | exhausted d => cases hfound
  | @refused e rest d d₁ d' error found t answer further ih =>
    obtain ⟨refusals, e', d₂, rfl, hrefusals, hmem, hopened⟩ := ih hfound
    refine ⟨.connect e (.error error) :: refusals, e', d₂, rfl, ?_,
      List.mem_cons_of_mem e hmem, hopened⟩
    intro x hx
    rcases List.mem_cons.1 hx with rfl | hx
    · trivial
    · exact hrefusals x hx
  | @reached e rest d d' c' answer =>
    cases hfound
    exact ⟨[], e, d, rfl, nofun, List.mem_cons_self, answer⟩

/-- Who answers is up to the endpoints: it is the same in all states among which
the service stays. -/
structure Steady {δ γ : Type} [DirectoryService δ γ]
    (reachable : Endpoint → Prop) (among : δ → Prop) : Prop where
  answer : ∀ e d, among d →
    ((∃ c, (DirectoryService.connect e d).1 = .ok c) ↔ reachable e)
  connect : ∀ e d, among d → among (DirectoryService.connect e d).2
  arrange : ∀ es d, among d → among (DirectoryService.arrange es d).2

/-- Of a steady service a connection is found where there is one. -/
theorem Search.isSome_iff {reachable : Endpoint → Prop} {among : δ → Prop}
    (steady : Steady reachable among) (hd : among d)
    (h : Search es d found d' t) :
    found.isSome = true ↔ ∃ e ∈ es, reachable e := by
  induction h with
  | exhausted d => simp
  | @refused e rest d d₁ d' error found t answer further ih =>
    -- a refusal shows that this endpoint is out of reach
    have hnot : ¬ reachable e := by
      rw [← steady.answer e d hd, answer]
      simp
    have hd₁ := steady.connect e d hd
    rw [answer] at hd₁
    simp [ih hd₁, hnot]
  | @reached e rest d d' c answer =>
    have hyes : reachable e := (steady.answer e d hd).1 ⟨c, by rw [answer]⟩
    simp [hyes]

-- ============================================================== attempts

/-- The service after endpoints were asked one by one, whatever they said. -/
def serviceAfter (es : List Endpoint) (d : δ) : δ :=
  es.foldl (fun d e => (DirectoryService.connect e d).2) d

/-- No endpoint answers when it is asked behind the ones before it. -/
def Refused (es : List Endpoint) (d : δ) : Prop :=
  ∀ before e after, es = before ++ e :: after → ∃ error,
    (DirectoryService.connect e (serviceAfter before d)).1 = .error error

/-- The endpoint that an event tells of. -/
def DirectoryEvent.target? : DirectoryEvent → Option Endpoint
  | connect e _ => some e
  | _ => none

/-- Endpoints are refused one after the other. -/
theorem refused_cons {e : Endpoint} {rest : List Endpoint} :
    Refused (e :: rest) d ↔
      (∃ error, (DirectoryService.connect e d).1 = .error error)
      ∧ Refused rest (DirectoryService.connect e d).2 := by
  constructor
  · intro h
    exact ⟨h [] e rest rfl, fun before e' after heq =>
      h (e :: before) e' after (by rw [heq]; rfl)⟩
  · intro h before e' after heq
    cases before with
    | nil =>
      cases heq
      exact h.1
    | cons x before =>
      cases heq
      exact h.2 before e' after rfl

/-- A search goes past endpoints that refuse. -/
theorem Refused.search {more : List Endpoint} (h : Refused es d)
    (further : Search more (serviceAfter es d) found d' t) :
    ∃ refusals, Search (es ++ more) d found d' (refusals ++ t)
      ∧ refusals.map DirectoryEvent.target? = es.map some
      ∧ ∀ x ∈ refusals, x.IsRefusal := by
  induction es generalizing d with
  | nil => exact ⟨[], further, rfl, nofun⟩
  | cons e rest ih =>
    obtain ⟨⟨error, herror⟩, hrest⟩ := refused_cons.1 h
    obtain ⟨refusals, hsearch, htargets, hrefusals⟩ := ih hrest further
    refine ⟨.connect e (.error error) :: refusals,
      .refused (Prod.ext herror rfl) hsearch, ?_, ?_⟩
    · simp [DirectoryEvent.target?, htargets]
    · exact List.forall_mem_cons.2 ⟨trivial, hrefusals⟩

/-- Either all endpoints refuse, or there is a first one that answers. -/
theorem refused_or_answer (es : List Endpoint) (d : δ) :
    Refused es d ∨ ∃ before e after c d', es = before ++ e :: after
      ∧ Refused before d
      ∧ DirectoryService.connect e (serviceAfter before d) = (.ok c, d') := by
  induction es generalizing d with
  | nil => exact .inl fun before e after heq => by simp at heq
  | cons e rest ih =>
    rcases answer : DirectoryService.connect e d with ⟨result, d₁⟩
    cases result with
    | ok c =>
      exact .inr ⟨[], e, rest, c, d₁, rfl, fun _ _ _ heq => by simp at heq,
        answer⟩
    | error error =>
      -- this one refuses, and those behind it decide
      have hfirst : ∃ error, (DirectoryService.connect e d).1 = .error error :=
        ⟨error, by rw [answer]⟩
      rcases ih (DirectoryService.connect e d).2 with hall | hanswer
      · exact .inl (refused_cons.2 ⟨hfirst, hall⟩)
      · obtain ⟨before, e', after, c, d', heq, hbefore, hanswer⟩ := hanswer
        exact .inr ⟨e :: before, e', after, c, d', by rw [heq]; rfl,
          refused_cons.2 ⟨hfirst, hbefore⟩, hanswer⟩

-- ======================================================= configured orders

namespace Endpoints

/-- The endpoints in the order of one attempt, and the service after it was
asked for the order. -/
def arranged (es : Endpoints) (order : FailoverOrder) (d : δ) :
    List Endpoint × δ :=
  match order with
  | .sequential => (es.list, d)
  | .shuffled => DirectoryService.arrange es.list d

/-- Either order has the endpoints of the configuration, no more and no
fewer. -/
theorem arranged_perm (es : Endpoints) (order : FailoverOrder) (d : δ) :
    (es.arranged order d).1.Perm es.list := by
  cases order with
  | sequential => exact .refl es.list
  | shuffled => exact DirectoryService.arrange_perm es.list d

/-- Arranging endpoints is no call on any of them. -/
theorem run_ordered (es : Endpoints) (order : FailoverOrder) (d : δ) :
    (es.ordered order : Act DirectoryEvent δ ε (List Endpoint)).run d =
      ⟨.ok (es.arranged order d).1, (es.arranged order d).2, []⟩ := by
  cases order with
  | sequential => rfl
  | shuffled => rfl

/-- The endpoints of a configuration tried in the order of one attempt. -/
def Tried (es : Endpoints) (order : FailoverOrder) (d : δ) :
    Option γ → δ → List DirectoryEvent → Prop :=
  Search (es.arranged order d).1 (es.arranged order d).2

variable {es : Endpoints} {order : FailoverOrder}

/-- A connection that was found is handed out. Without one, the number of
endpoints is reported. -/
theorem Tried.run (h : es.Tried order d found d' t) :
    (connectAny es order).run d =
      ⟨found.elim (.error (.noReachableDirectory es.size)) .ok, d', t⟩ := by
  have hordered := run_ordered (ε := AuthError) es order d
  have hsearch := Search.run (ε := AuthError) h
  unfold connectAny
  rw [Act.run_bind_ok _ hordered, Act.run_bind_ok _ hsearch]
  cases found with
  | none => simp [Run.after]
  | some c => simp [Run.after]

/-- The endpoints of a configuration are attempted in the order of the attempt,
each at most once. The first one that answers is the connection, and the ones
behind it are left alone. If none answers, all have been attempted, and their
number is reported. So whether there is a connection does not depend on the
order, if it is up to the endpoints who answers. -/
theorem failover_exact (es : Endpoints) (order : FailoverOrder) (d : δ) :
    ∃ (tries : List Endpoint) (d₀ : δ),
      (tries, d₀) = (match order with
        | .sequential => (es.list, d)
        | .shuffled => DirectoryService.arrange es.list d)
      ∧ tries.Perm es.list ∧ tries.length = es.size
      ∧ (∀ before e after c d', tries = before ++ e :: after →
          Refused before d₀ →
          DirectoryService.connect e (serviceAfter before d₀) = (.ok c, d') →
          ∃ t, (connectAny es order).run d = ⟨.ok c, d', t⟩
            ∧ t.map DirectoryEvent.target? = (before ++ [e]).map some
            ∧ t.length = before.length + 1
            ∧ ∃ refusals, t = refusals ++ [.connect e (.ok ())]
              ∧ ∀ x ∈ refusals, x.IsRefusal)
      ∧ (Refused tries d₀ →
          ∃ t, (connectAny es order).run d =
              ⟨.error (.noReachableDirectory es.size),
                serviceAfter tries d₀, t⟩
            ∧ t.map DirectoryEvent.target? = tries.map some
            ∧ t.length = es.size ∧ ∀ x ∈ t, x.IsRefusal)
      ∧ (Refused tries d₀ ∨ ∃ before e after c d',
          tries = before ++ e :: after ∧ Refused before d₀
          ∧ DirectoryService.connect e (serviceAfter before d₀) = (.ok c, d'))
      ∧ ∀ (reachable : Endpoint → Prop) (among : δ → Prop),
          Steady reachable among → among d →
          ((∃ c, ((connectAny es order).run d).result = .ok c)
            ↔ ∃ e ∈ es.list, reachable e) := by
  have hperm := es.arranged_perm order d
  have hsize : (es.arranged order d).1.length = es.size := hperm.length_eq
  refine ⟨(es.arranged order d).1, (es.arranged order d).2, rfl, hperm, hsize,
    ?_, ?_, refused_or_answer _ _, ?_⟩
  · intro before e after c d' htries hrefused answer
    -- the search ends at `e`, behind the refusals in front of it
    have hreached : Search (e :: after) _ _ _ _ := .reached answer
    obtain ⟨refusals, hsearch, htargets, hrefusals⟩ := hrefused.search hreached
    rw [← htries] at hsearch
    refine ⟨_, Tried.run hsearch, ?_, ?_, refusals, rfl, hrefusals⟩
    · simp [htargets, DirectoryEvent.target?]
    · simpa using congrArg List.length htargets
  · intro hrefused
    obtain ⟨refusals, hsearch, htargets, hrefusals⟩ :=
      hrefused.search (.exhausted _)
    rw [List.append_nil, List.append_nil] at hsearch
    refine ⟨_, Tried.run hsearch, htargets, ?_, hrefusals⟩
    rw [← hsize]
    simpa using congrArg List.length htargets
  · intro reachable among steady hd
    obtain ⟨found, d', t, hsearch⟩ := exists_search (es.arranged order d).1
      (es.arranged order d).2
    have hmem (e : Endpoint) : e ∈ es.list ↔ e ∈ (es.arranged order d).1 :=
      hperm.mem_iff.symm
    have hd₀ : among (es.arranged order d).2 := by
      cases order with
      | sequential => exact hd
      | shuffled => exact steady.arrange es.list d hd
    simp only [hmem, ← hsearch.isSome_iff steady hd₀, Tried.run hsearch]
    cases found with
    | none => simp
    | some c => simp

end Endpoints

namespace Rehearsal

/-- Of three servers the second one can be reached, so the third is never
asked, and no order misses the second. -/
theorem failover_exact_rehearsal :
    let first := Endpoint.onHost .ldap "a.example"
    let second := Endpoint.onHost .ldaps "b.example"
    let es : Endpoints := ⟨[first, second, first], by simp⟩
    let d : Directory := ⟨[second.url], [], [], none, none, none, []⟩
    (∃ t, (connectAny es .sequential).run d = ⟨.ok d, d, t⟩
      ∧ t.map DirectoryEvent.target? = [some first, some second])
    ∧ ∃ c, ((connectAny es .shuffled).run d).result = .ok c := by
  intro first second es d
  -- what each of the two endpoints answers
  have hreach : d.connect second = .ok d := if_pos List.mem_cons_self
  have hmiss : d.connect first = .error (.io .connectionRefused) :=
    if_neg (by decide +kernel)
  have hrefused : Refused [first] d :=
    refused_cons.2 ⟨⟨_, hmiss⟩, fun _ _ _ heq => by simp at heq⟩
  have steady : Steady (fun e => ∃ c, d.connect e = .ok c) (· = d) := by
    refine ⟨fun e d' hd => ?_, fun e d' hd => hd, fun es d' hd => hd⟩
    rw [hd]
    exact Iff.rfl
  constructor
  · obtain ⟨tries, d₀, horder, -, -, hanswer, -⟩ :=
      Endpoints.failover_exact es .sequential d
    obtain ⟨rfl, rfl⟩ := Prod.mk.inj horder
    obtain ⟨t, hrun, htargets, -⟩ := hanswer [first] second [first] d d rfl
      hrefused (Prod.ext hreach rfl)
    exact ⟨t, hrun, htargets⟩
  · obtain ⟨_, _, -, -, -, -, -, -, hsteady⟩ :=
      Endpoints.failover_exact es .shuffled d
    refine (hsteady _ _ steady rfl).2 ⟨second, ?_, d, hreach⟩
    exact List.mem_cons_of_mem first List.mem_cons_self

end Rehearsal

end SaslGate
