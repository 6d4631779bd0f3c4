/-
Whether both signs of success agree. A server that has a proof before it
may send its server-final message as a challenge or as data of the outcome,
and so the sign of success and the outcome may contradict each other. A
contradiction is a violation of the protocol, and no mere refusal.

# The exact condition

What a session makes of an answer is a function of the answer alone
(`follows_conclude`), wherever the reads cut its frames. That function
keeps to the rule, with one exception: a server-final message that came as a
challenge is forgotten when an outcome other than `ok` follows it
(`reconciled_iff`).
-/
import SaslGate.Proofs.Script
import SaslGate.Proofs.Session.Scram

namespace SaslGate

open SocketEvent (chunks Flows Smooth)
open Event (calls)
open Line (Agrees)

-- =============================================================== answers

/-- What a server answers to a proof: a server-final message in a challenge,
if it sends one, and the outcome. -/
structure ScramAnswer where
  early : Option Bytes
  code : SaslCode
  data : Option Bytes

namespace ScramAnswer

/-- The reads that bring an answer of which `unread` has come before. Every
frame ends with a read. -/
inductive Arrives (unread : Bytes) : ScramAnswer → List Bytes → Prop
  | outcome {code : SaslCode} {data : Option Bytes} {cs : List Bytes}
      (spells : Spells [.outcome code data] (unread ++ cs.flatten))
      (filled : ∀ x ∈ cs, x ≠ []) : Arrives unread ⟨none, code, data⟩ cs
  | verifier {final : Bytes} {code : SaslCode} {data : Option Bytes}
      {cs ds : List Bytes} (signed : isServerFinal final = true)
      (first : Spells [.challenge final] (unread ++ cs.flatten))
      (second : Spells [.outcome code data] ds.flatten)
      (filled : ∀ x ∈ cs ++ ds, x ≠ []) :
      Arrives unread ⟨some final, code, data⟩ (cs ++ ds)

/-- Whether there is a server-final message in an answer. -/
def signed (a : ScramAnswer) : Bool :=
  isServerFinal (a.early.getD []) || isServerFinal (a.data.getD [])

/-- What a session makes of an answer. -/
def verdict (a : ScramAnswer) : Except AuthError Bytes :=
  if a.code = .ok then
    if isServerFinal (serverFinal a.early a.data) then
      .ok (serverFinal a.early a.data)
    else .error (.protocolViolation (.outcomeMismatch .ok))
  else if isServerFinal (a.data.getD []) then
    .error (.protocolViolation (.outcomeMismatch a.code))
  else .error .rejected

/-- The rule: the server-final message and the outcome have to agree. -/
structure Reconciled (a : ScramAnswer) (answer : Except AuthError Bytes) :
    Prop where
  refuted : a.signed = true → a.code ≠ .ok →
    answer = .error (.protocolViolation (.outcomeMismatch a.code))
  unsigned : a.signed = false → a.code = .ok →
    answer = .error (.protocolViolation (.outcomeMismatch .ok))
  refused : answer = .error .rejected → a.signed = false ∧ a.code ≠ .ok

/-- An answer whose outcome belies the challenge before it, and is silent
about it. -/
def Forgotten (a : ScramAnswer) : Prop :=
  a.early.isSome = true ∧ a.code ≠ .ok ∧ isServerFinal (a.data.getD []) = false

/-- A server-final message that came as a challenge. -/
theorem Arrives.early_signed {unread : Bytes} {a : ScramAnswer}
    {cs : List Bytes} (h : a.Arrives unread cs) :
    ∀ final, a.early = some final → isServerFinal final = true := by
  intro final hfinal
  cases h with
  | outcome spells filled => cases hfinal
  | verifier signed first second filled =>
    cases hfinal
    exact signed

section Verdicts

variable {a : ScramAnswer}

/-- On success the server's signature decides. -/
theorem verdict_passed (hc : a.code = .ok) :
    a.verdict = if isServerFinal (serverFinal a.early a.data) then
        .ok (serverFinal a.early a.data)
      else .error (.protocolViolation (.outcomeMismatch .ok)) :=
  if_pos hc

/-- A signature that comes with a failure belies it, and is told. -/
theorem verdict_refuted (hc : a.code ≠ .ok)
    (hd : isServerFinal (a.data.getD []) = true) :
    a.verdict = .error (.protocolViolation (.outcomeMismatch a.code)) := by
  rw [verdict, if_neg hc, if_pos hd]

/-- A failure without a signature in its data is a refusal, whatever came
before it. -/
theorem verdict_refused (hc : a.code ≠ .ok)
    (hd : isServerFinal (a.data.getD []) = false) :
    a.verdict = .error .rejected := by
  rw [verdict, if_neg hc, hd]
  rfl

/-- Without a server-final message there is none to tell the client. -/
theorem not_serverFinal_of_unsigned (h : a.signed = false) :
    isServerFinal (serverFinal a.early a.data) = false := by
  obtain ⟨hearly, hdata⟩ := Bool.or_eq_false_iff.1 h
  unfold serverFinal
  split
  · exact hearly
  · exact hdata

/-- When no message is forgotten, a sign next to a refusal is one that came
with the refusal. -/
theorem signed_of_kept (hkept : ¬ a.Forgotten) (hc : a.code ≠ .ok) :
    a.signed = isServerFinal (a.data.getD []) := by
  cases hdata : isServerFinal (a.data.getD []) with
  | true => simp [signed, hdata]
  | false =>
    cases he : a.early with
    | none => rw [signed, he, hdata]; rfl
    | some final => exact absurd ⟨by rw [he]; rfl, hc, hdata⟩ hkept

/-- The verdict keeps to the rule exactly if no message is forgotten. -/
theorem reconciled_iff
    (h : ∀ final, a.early = some final → isServerFinal final = true) :
    a.Reconciled a.verdict ↔ ¬ a.Forgotten := by
  constructor
  · rintro hrule ⟨hearly, hcode, hdata⟩
    obtain ⟨final, hfinal⟩ := Option.isSome_iff_exists.1 hearly
    have hsigned : a.signed = true := by
      simp [signed, hfinal, h final hfinal]
    -- the rule wants a mismatch here, where the verdict is a refusal
    have hmismatch := hrule.refuted hsigned hcode
    rw [verdict_refused hcode hdata] at hmismatch
    cases hmismatch
  · intro hkept
    refine ⟨?_, ?_, ?_⟩
    · intro hsigned hcode
      rw [signed_of_kept hkept hcode] at hsigned
      exact verdict_refuted hcode hsigned
    · intro hunsigned hcode
      rw [verdict_passed hcode, not_serverFinal_of_unsigned hunsigned]
      rfl
    · intro hrefused
      by_cases hcode : a.code = .ok
      · rw [verdict_passed hcode] at hrefused
        split at hrefused <;> cases hrefused
      · refine ⟨?_, hcode⟩
        rw [signed_of_kept hkept hcode]
        cases hdata : isServerFinal (a.data.getD []) with
        | false => rfl
        | true =>
          rw [verdict_refuted hcode hdata] at hrefused
          cases hrefused

end Verdicts

end ScramAnswer

namespace ScramRelay

variable {κ σ : Type} {timeout : Option Duration} {b : Option Instant}
  {d : Desk κ (ScramRelay σ)} {k : Link Client σ} {c c' : Client}
  {script : List Bytes}

-- ========================================================== single actions

section Actions

variable [Wire σ]

/-- The next reply, and what it makes of the exchange. -/
theorem follows_react {reply : Reply} {f : Frame} {stage : ScramStage}
    {effect : ScramEffect} {cs rest : List Bytes}
    (held : d.session.link = some k) (holds : k.Holds timeout c)
    (listening : c.Listening) (brings : Reply.Brings c reply f c')
    (spells : Spells [f] (c.reader.unread ++ cs.flatten))
    (filled : ∀ x ∈ cs, x ≠ [])
    (moves : d.session.stage.advance (.reply reply) = .ok (stage, effect)) :
    Follows timeout none (cs ++ rest) react d fun r d' _ left =>
      r = .ok effect ∧ left = rest ∧ ∃ k',
        k'.Holds timeout (c'.placed c.connection .empty)
        ∧ d' = { d with session :=
            { d.session with link := some k', stage } } := by
  refine .bind (.onHeld held ((holds.await listening brings spells filled).imp
    ?_))
  rintro _ k' b' _ ⟨rfl, rfl, hk'⟩
  exact ⟨reply, rfl, .of_silent (run_advance moves) ⟨rfl, rfl, k', hk', rfl⟩⟩

/-- What becomes of the outcome once it is heard. -/
theorem run_settle {a : ScramAnswer} {effect : ScramEffect}
    (held : d.session.link = some k) (holds : k.Holds timeout c)
    (pending : c.pending = a.data) (outcome : c.outcome = some a.code)
    (heffect : effect = if a.code = .ok then .returnServerFinal else .reject) :
    ∃ d', (settle a.early effect).run d = ⟨a.verdict, d', []⟩ := by
  obtain ⟨k', htake, hk'⟩ := holds.takePending
  have hdata := run_replyData held htake
  rw [pending] at hdata
  subst heffect
  by_cases hcode : a.code = .ok
  · rw [if_pos hcode, a.verdict_passed hcode]
    simp only [settle, Act.run_bind_ok _ hdata]
    rw [← serverFinal]
    by_cases hfinal : isServerFinal (serverFinal a.early a.data) = true
    · rw [if_pos hfinal, if_pos hfinal]
      exact ⟨_, rfl⟩
    · rw [if_neg hfinal, if_neg hfinal]
      exact ⟨_, rfl⟩
  · rw [if_neg hcode]
    simp only [settle, Act.run_bind_ok _ hdata]
    cases hfinal : isServerFinal (a.data.getD []) with
    | false =>
      rw [a.verdict_refused hcode hfinal]
      exact ⟨_, rfl⟩
    | true =>
      rw [a.verdict_refuted hcode hfinal]
      obtain ⟨l, hl, hengine⟩ := Option.map_eq_some_iff.1 hk'.engine
      refine ⟨{ d with session := { d.session with link := some k' } }, ?_⟩
      simp [outcomeCode, Desk.current, Act.run_bind, Run.after,
        Link.live?_engine hl, hengine, outcome]

/-- An outcome, as a reply and as what moves the exchange on. -/
theorem brings_outcome (c : Client) (code : SaslCode) (data : Option Bytes) :
    ∃ reply c' stage, Reply.Brings c reply (.outcome code data) c'
      ∧ c'.pending = data ∧ c'.outcome = some code
      ∧ ScramStage.evaluatingProof.advance (.reply reply) =
        .ok (stage, if code = .ok then .returnServerFinal else .reject) := by
  by_cases hcode : code = .ok
  · subst hcode
    exact ⟨_, _, _, .passed data, rfl, rfl, rfl⟩
  · rw [if_neg hcode]
    exact ⟨_, _, _, .failed code data hcode, rfl, rfl, rfl⟩

/-- The outcome, and what becomes of it, whoever waits for it. -/
theorem follows_outcome {a : ScramAnswer} {cs rest : List Bytes}
    {g : ScramEffect → Working κ (ScramRelay σ) Bytes}
    (settles : ∀ effect, effect ≠ .acknowledgeServerFinal →
      g effect = settle a.early effect)
    (held : d.session.link = some k) (holds : k.Holds timeout c)
    (listening : c.Listening) (stage : d.session.stage = .evaluatingProof)
    (spells : Spells [.outcome a.code a.data]
      (c.reader.unread ++ cs.flatten))
    (filled : ∀ x ∈ cs, x ≠ []) :
    Follows timeout none (cs ++ rest) (react >>= g) d fun r _ _ left =>
      r = a.verdict ∧ left = rest := by
  obtain ⟨reply, c', stage', hbrings, hpending, houtcome, hmoves⟩ :=
    brings_outcome c a.code a.data
  refine .bind ((follows_react held holds listening hbrings spells filled
    (stage ▸ hmoves)).imp ?_)
  rintro _ _ b' _ ⟨rfl, rfl, k', hk', rfl⟩
  refine ⟨_, rfl, ?_⟩
  rw [settles _ (by split <;> exact nofun)]
  obtain ⟨d', hrun⟩ := run_settle (d := { d with session :=
    { d.session with link := some k', stage := stage' } }) rfl hk' hpending
    houtcome rfl
  exact .of_silent hrun ⟨rfl, rfl⟩

/-- The answer to a proof, and what becomes of it. -/
theorem follows_conclude {a : ScramAnswer} {cs rest : List Bytes}
    (held : d.session.link = some k) (holds : k.Holds timeout c)
    (listening : c.Listening) (drained : c.outbound = [])
    (stage : d.session.stage = .evaluatingProof)
    (arrives : a.Arrives c.reader.unread cs) :
    Follows timeout none (cs ++ rest) conclude d fun r _ _ left =>
      r = a.verdict ∧ left = rest := by
  cases arrives with
  | @outcome code data cs spells filled =>
    -- without a message ahead of it, every effect goes to `settle`
    refine follows_outcome (a := ⟨none, code, data⟩) ?_ held holds listening
      stage spells filled
    intro effect heffect
    cases effect with
    | acknowledgeServerFinal => exact absurd rfl heffect
    | _ => rfl
  | @verifier final code data cs ds signed first second filled =>
    rw [List.append_assoc]
    have hcs : ∀ x ∈ cs, x ≠ [] := fun x hx =>
      filled x (List.mem_append_left ds hx)
    have hds : ∀ x ∈ ds, x ≠ [] := fun x hx =>
      filled x (List.mem_append_right cs hx)
    -- a challenge keeps the stage and asks for an acknowledgement
    have hmoves : d.session.stage.advance (.reply .challenge) =
        .ok (.evaluatingProof, .acknowledgeServerFinal) := by
      rw [stage]
      rfl
    refine .bind ((follows_react held holds listening (.challenge final) first
      hcs hmoves).imp ?_)
    rintro _ _ b' _ ⟨rfl, rfl, k₁, hk₁, rfl⟩
    refine ⟨_, rfl, ?_⟩
    obtain ⟨k₂, htake, hk₂⟩ := hk₁.takePending
    have hdata := run_replyData (d := { d with session :=
      { d.session with link := some k₁, stage := .evaluatingProof } }) rfl
      htake
    refine .bind (.of_silent hdata ⟨final, rfl, ?_⟩)
    rw [if_pos signed]
    have hlistening := listening.emptied
    obtain ⟨bytes, hfits⟩ : ∃ bytes,
        Client.sized (.response []) = .ok bytes := ⟨_, rfl⟩
    refine .bind (.onHeld rfl ((hk₂.sendResponse hlistening drained hfits).imp
      ?_))
    rintro _ k₃ _ _ ⟨rfl, rfl, rfl, hk₃⟩
    refine ⟨(), rfl, follows_outcome (a := ⟨some final, code, data⟩) ?_ rfl
      hk₃ hlistening rfl second hds⟩
    intro effect heffect
    cases effect with
    | acknowledgeServerFinal => exact absurd rfl heffect
    | _ => rfl

/-- The proof, and what becomes of the answer. -/
theorem follows_forwardProof {a : ScramAnswer} {proof bytes : Bytes}
    {cs rest : List Bytes}
    (held : d.session.link = some k) (holds : k.Holds timeout c)
    (listening : c.Listening) (drained : c.outbound = [])
    (stage : d.session.stage = .evaluatingProof)
    (fits : Client.sized (.response proof) = .ok bytes)
    (arrives : a.Arrives c.reader.unread cs) :
    Follows timeout b (cs ++ rest) (forwardProof proof) d fun r _ _ left =>
      r = a.verdict ∧ left = rest := by
  refine .bind (.onHeld held ((holds.sendResponse listening drained fits).imp
    ?_))
  rintro _ k' _ _ ⟨rfl, rfl, rfl, hk'⟩
  exact ⟨(), rfl, follows_conclude rfl hk' listening drained stage arrives⟩

/-- The proof is passed on, and what comes back is the verdict on it. -/
theorem follows_dispatch [Connector κ σ] (config : RemoteConfig)
    {a : ScramAnswer} {proof bytes : Bytes} {cs rest : List Bytes}
    (held : d.session.link = some k) (holds : k.Holds timeout c)
    (listening : c.Listening) (drained : c.outbound = [])
    (stage : d.session.stage = .awaitingProof)
    (fits : Client.sized (.response proof) = .ok bytes)
    (arrives : a.Arrives c.reader.unread cs) :
    Follows timeout b (cs ++ rest) (dispatch config proof) d
      fun r _ _ left => r = a.verdict ∧ left = rest := by
  have hmoves : d.session.stage.advance .clientMessage =
      .ok (.evaluatingProof, .forwardProof) := by
    rw [stage]
    rfl
  exact .bind (.of_silent (run_advance hmoves) ⟨_, rfl,
    follows_forwardProof held holds listening drained rfl fits arrives⟩)

end Actions

-- ========================================================= whole sessions

section Sessions

variable {δ γ : Type} [Connector κ σ] [Wire σ] [DirectoryService δ γ]
  [DirectoryConnection γ] {config : RemoteConfig}
  {mechanism : ScramMechanism}

/-- The link of a session that waits for the proof is at work, and its
client listens. -/
theorem listening_of_course {earlier : List HostCall} {t : List Event}
    {relay : ScramRelay σ} {l : Line Client σ}
    (course : Course κ δ (.scram config (.fresh mechanism) : Session σ γ)
      earlier t (.scram config relay))
    (waiting : relay.stage = .awaitingProof) (held : relay.link = some k)
    (line : k.line = some l) :
    k.Holds config.negotiationTimeout l.engine ∧ l.engine.Listening
      ∧ l.engine.outbound = [] := by
  obtain ⟨relay', hrelay, hstands⟩ := stands_of_course course
  cases hrelay
  generalize evaluations earlier = es at hstands
  cases hstands with
  | fresh => cases waiting
  | accepted parsed shows late => cases waiting
  | lost failed =>
    rw [failed] at waiting
    cases waiting
  | waiting parsed opened =>
    obtain ⟨id, names, bytes, u, c, b, -, -, -, ready, htrans⟩ :=
      opened k held
    obtain ⟨l', hl', rfl⟩ := htrans.line
    cases line.symm.trans hl'
    exact ⟨.of_transcript htrans, htrans.heard.listening (by simp) ready,
      htrans.drained⟩

/-- A session that has told a client the challenge, gets the proof, and
answers it after the server has sent `a`. No call fails or comes too late;
the reads bring what the server sent, wherever they cut its frames. -/
inductive Answered (κ δ : Type) [Connector κ σ] [Wire σ]
    [DirectoryService δ γ] [DirectoryConnection γ] (config : RemoteConfig)
    (mechanism : ScramMechanism) (a : ScramAnswer)
    (answer : Except AuthError Bytes) : Prop
  | intro {earlier : List HostCall} {t u : List Event} {relay : ScramRelay σ}
      {k : Link Client σ} {l : Line Client σ} {proof bytes : Bytes}
      {s : Session σ γ} {cs : List Bytes}
      (course : Course κ δ (.scram config (.fresh mechanism)) earlier t
        (.scram config relay))
      (waiting : relay.stage = .awaitingProof) (held : relay.link = some k)
      (line : k.line = some l)
      (fits : Client.sized (.response proof) = .ok bytes)
      (served : Served κ δ (.scram config relay) (.evaluate proof answer) u s)
      (smooth : Smooth config.negotiationTimeout (calls u))
      (arrives : a.Arrives l.engine.reader.unread cs)
      (agrees : Agrees (chunks (calls u)) cs) :
      Answered κ δ config mechanism a answer

/-- What a session answers to a proof, and exactly when that keeps to the
rule that the server-final message and the outcome have to agree. -/
theorem agreement_exact {a : ScramAnswer} {answer : Except AuthError Bytes}
    (h : Answered κ δ config mechanism a answer) :
    answer = a.verdict ∧ (a.Reconciled answer ↔ ¬ a.Forgotten) := by
  obtain ⟨course, waiting, held, line, fits, served, smooth, arrives, agrees⟩ :=
    h
  suffices hanswer : answer = a.verdict by
    rw [hanswer]
    exact ⟨rfl, ScramAnswer.reconciled_iff arrives.early_signed⟩
  obtain ⟨hholds, hlistening, hdrained⟩ :=
    listening_of_course course waiting held line
  rcases served.scram with ⟨message, opener, r, hr, hc, rfl, rfl⟩
    | ⟨opener, r, hr, hc, rfl, rfl⟩ | ⟨hc, rfl, rfl⟩
  · cases hc
    obtain ⟨result, d', u⟩ := r
    rcases evaluate_cases hr.symm with ⟨hdone, -⟩
      | ⟨-, d₁, t₁, hdispatch, hend⟩
    · rw [waiting] at hdone
      cases hdone
    · -- The link may be closed at the end, which brings nothing to read.
      obtain ⟨v, rfl⟩ : ∃ v, u = t₁ ++ v := by
        rcases hend with ⟨-, -, rfl⟩ | ⟨-, -, rfl⟩
        · exact ⟨[], (List.append_nil u).symm⟩
        · exact ⟨_, rfl⟩
      obtain ⟨b', hflow⟩ := SocketEvent.smooth_iff.1 smooth
      simp only [Event.calls_append, SocketEvent.chunks_append] at hflow agrees
      obtain ⟨b₁, hflow₁, -⟩ := hflow.split
      obtain ⟨_, -, hverdict, -⟩ := follows_dispatch config held hholds
        hlistening hdrained waiting fits arrives _ _ _ _ hdispatch
        hflow₁ (by rw [List.append_nil]; exact agrees.of_append_left)
      exact hverdict
  · cases hc
  · cases hc

end Sessions

end ScramRelay

-- ============================================================= a rehearsal

namespace Rehearsal

open ScramRelay

/-- Where a SCRAM session stands, and what its client has not used up. -/
def standing : Actor → Option (ScramStage × Option Bytes)
  | .scram _ relay => some (relay.stage,
      (relay.link.bind Link.line).map fun l => l.engine.reader.unread)
  | _ => none

/-- A rehearsal in which the server's answer is read as it was sent. -/
theorem scramAnswered {answer : List Frame} {a : ScramAnswer}
    (stands : standing (scramFirst answer).state.session =
      some (.awaitingProof, some []))
    (smooth : Smooth ({ host := "broker" } : RemoteConfig).negotiationTimeout
      (calls (scramSecond answer).events))
    (reads : chunks (calls (scramSecond answer).events) =
      answer.map fun f => frames [f])
    (arrives : a.Arrives [] (answer.map fun f => frames [f])) :
    Answered Remote Directory { host := "broker" } .sha256 a
      (scramSecond answer).result := by
  have course := scramOpening answer
  have served : Served Remote Directory (scramFirst answer).state.session
      (.evaluate [2] (scramSecond answer).result) (scramSecond answer).events
      (scramSecond answer).state.session :=
    .evaluate [2] (scramFirst answer).state
  obtain ⟨relay, hrelay, -⟩ := stands_of_course course
  rw [hrelay] at course served stands
  simp only [standing, Option.some.injEq, Prod.mk.injEq] at stands
  obtain ⟨hstage, hunread⟩ := stands
  obtain ⟨l, hl, hnil⟩ := Option.map_eq_some_iff.1 hunread
  obtain ⟨k, hk, hline⟩ := Option.bind_eq_some_iff.1 hl
  exact .intro course hstage hk hline rfl served smooth (hnil ▸ arrives)
    (.inl (reads ▸ List.prefix_rfl))

/-- What is answered to a server-final message that comes as a challenge and
an outcome without data. -/
theorem answered_verifierThen (code : SaslCode) :
    Answered Remote Directory { host := "broker" } .sha256
      ⟨some [118, 61], code, none⟩ (scramSecond (verifierThen code)).result := by
  have first : Spells [.challenge [118, 61]]
      ([] ++ [frames [.challenge [118, 61]]].flatten) :=
    Client.spells_of_payload ((Frame.challenge [118, 61]).encode.toOption.getD [])
      (by decide +kernel) (by decide +kernel)
  have second : Spells [.outcome code none]
      [frames [.outcome code none]].flatten :=
    Client.spells_of_payload ((Frame.outcome code none).encode.toOption.getD [])
      (by cases code <;> decide +kernel) (by cases code <;> decide +kernel)
  refine scramAnswered ?_ ?_ ?_ (.verifier rfl first second ?_)
  all_goals cases code <;> decide +kernel

/-- The rehearsal that ends well keeps to the rule. -/
theorem agreement_exact_rehearsal :
    Answered Remote Directory { host := "broker" } .sha256
      ⟨some [118, 61], .ok, none⟩ (scramSecond (verifierThen .ok)).result
    ∧ (scramSecond (verifierThen .ok)).result =
      ScramAnswer.verdict ⟨some [118, 61], .ok, none⟩
    ∧ (ScramAnswer.Reconciled ⟨some [118, 61], .ok, none⟩
        (scramSecond (verifierThen .ok)).result
      ↔ ¬ ScramAnswer.Forgotten ⟨some [118, 61], .ok, none⟩) :=
  ⟨answered_verifierThen .ok, agreement_exact (answered_verifierThen .ok)⟩

/-- Whether an answer is a refusal. -/
def isRefusal : Except AuthError Bytes → Bool
  | .error .rejected => true
  | _ => false

theorem eq_of_isRefusal {answer : Except AuthError Bytes}
    (h : isRefusal answer = true) : answer = .error .rejected := by
  unfold isRefusal at h
  split at h
  · rfl
  · cases h

/-- A server-final message is forgotten when the server refuses the client
after all: the client is told of a refusal where there is a contradiction. -/
theorem forgotten_verifier :
    Answered Remote Directory { host := "broker" } .sha256
      ⟨some [118, 61], .auth, none⟩ (.error .rejected)
    ∧ ¬ ScramAnswer.Reconciled ⟨some [118, 61], .auth, none⟩
      (.error .rejected) := by
  have hresult : (scramSecond (verifierThen .auth)).result =
      .error .rejected := eq_of_isRefusal (by decide +kernel)
  have hanswered := answered_verifierThen .auth
  rw [hresult] at hanswered
  refine ⟨hanswered, fun hrule => ?_⟩
  cases hrule.refuted rfl (by decide)

end Rehearsal

end SaslGate
