/-
What the actions of a relayed session do with the link that the session holds.
Each of them is followed to both of its ends, with what is known of the link
(`Desk.Holds`) or, where there may be none any more, with what has become of
the connection (`Accounted`). Of the outcome nothing is said here: whatever
comes of a message, the connection is accounted for.
-/
import SaslGate.Proofs.Dialogue
import SaslGate.Proofs.Session.Plain
import SaslGate.Proofs.Session.Scram

namespace SaslGate

open Act (Ends)
open Turn (frames)
open Client (Opening Conversing Owing Replied)

/-- Frames that were said are the front of any that might follow. -/
theorem Turn.said_front {us : List Turn} {fs more : List Frame}
    (h : frames us = fs) : frames us <+: fs ++ more := by
  rw [h]
  exact List.prefix_append fs more

-- ============================================================= held links

namespace Desk

variable {κ ς σ : Type} {slot : Slot ς (Link Client σ)} {d : Desk κ ς}
  {config : RemoteConfig} {P Q : Client → List Turn → Prop}
  {R : List Turn → Prop} {t : List Event}

/-- A session holds a link, of which `P` is known. -/
def Holds (slot : Slot ς (Link Client σ)) (config : RemoteConfig)
    (P : Client → List Turn → Prop) (d : Desk κ ς) (t : List Event) : Prop :=
  ∃ k, slot.get d.session = some k ∧ Link.Known config P k t

theorem Holds.imp (h : Holds slot config P d t)
    (himp : ∀ c us, P c us → Q c us) : Holds slot config Q d t := by
  obtain ⟨k, hget, hknown⟩ := h
  exact ⟨k, hget, hknown.imp himp⟩

theorem Holds.custody (h : Holds slot config (fun _ us => R us) d t) :
    Custody config R (slot.get d.session) t := by
  obtain ⟨k, hget, hknown⟩ := h
  rw [hget]
  exact .held hknown

/-- An action of the link that a session holds. -/
theorem Holds.onHeld (law : ∀ k s, slot.get (slot.put (some k) s) = some k)
    {x : Linked Client σ α} {ok : α → Client → List Turn → Prop}
    (h : Holds slot config P d t)
    (hx : ∀ k t, Link.Known config P k t → Ends t x k
      (fun a => Link.Known config (ok a)) fun _ => Link.Known config Q) :
    Ends t (Desk.onHeld slot x) d (fun a => Holds slot config (ok a))
      fun _ => Holds slot config Q := by
  obtain ⟨k, hget, hknown⟩ := h
  refine ends_onHeld hget ((hx k t hknown).imp ?_ ?_)
  · intro a k' t' hknown'
    exact ⟨k', law k' _, hknown'⟩
  · intro e k' t' hknown'
    exact ⟨k', law k' _, hknown'⟩

end Desk

-- ============================================================== accounts

/-- The connection of a session is accounted for, and it was not asked for if
the client's first message is not understood. -/
structure Accounted {σ : Type} (config : RemoteConfig) (understood : Prop)
    (R : List Turn → Prop) (link : Option (Link Client σ))
    (t : List Event) : Prop where
  sober : t = [] ∨ understood
  custody : Custody config R link t

namespace Accounted

variable {σ : Type} {config : RemoteConfig} {understood : Prop}
  {R R' : List Turn → Prop} {link : Option (Link Client σ)} {t : List Event}

theorem imp (h : Accounted config understood R link t)
    (himp : ∀ us, R us → R' us) : Accounted config understood R' link t :=
  ⟨h.sober, h.custody.imp himp⟩

/-- A link that is closed is accounted for, with its last two events. -/
theorem farewell [Wire σ] (h : Accounted config understood R link t) :
    Accounted (σ := σ) config understood R none
      (t ++ Link.farewell link) := by
  refine ⟨?_, h.custody.farewell⟩
  rcases h.sober with rfl | hunderstood
  · rw [h.custody.eq_none]
    exact .inl rfl
  · exact .inr hunderstood

end Accounted

-- ================================================================= PLAIN

namespace PlainRelay

variable {κ σ : Type} [Connector κ σ] [Wire σ] {config : RemoteConfig}
  {k : Link Client σ} {d : Desk κ (PlainRelay σ)} {t : List Event}
  {fs : List Frame}

/-- The frames of a session: its first message as it came, and empty
responses. -/
def MaySay (config : RemoteConfig) : List Bytes → List Frame → Prop
  | [], fs => fs = []
  | message :: _, fs => ∃ n, fs <+:
      .init plainName (some message) (some config.effectiveHostname)
        :: List.replicate n (.response [])

omit [Connector κ σ] in
/-- A round answers a challenge with nothing, or says nothing. -/
theorem ends_round (h : k.Known config (Conversing fs) t) :
    Ends t round k
      (fun again k' t' => if again
        then k'.Known config (Conversing (fs ++ [.response []])) t'
        else k'.Known config (fun _ us => frames us = fs) t')
      fun _ k' t' => k'.Known config
        (fun _ us => frames us <+: fs ++ [.response []]) t' := by
  refine .bind (h.await.imp ?_ ?_)
  · intro reply k₁ t₁ h₁
    cases reply with
    | passed => exact .pure (h₁.imp fun _ us hc => hc.1)
    | failed => exact .fails (h₁.imp fun _ us hc => Turn.said_front hc.1)
    | challenge =>
      have howing := h₁.imp fun _ _ hc => hc.2 rfl
      refine .bind (howing.takeChallenge.imp ?_ ?_)
      · intro _ k₂ t₂ h₂
        refine (h₂.sendResponse []).andThen ?_
        intro _ k₃ t₃ h₃
        exact .pure h₃
      · intro _ k₂ t₂ h₂
        exact h₂.imp fun _ us hc => Turn.said_front hc.said
  · intro _ k₁ t₁ h₁
    exact h₁.imp fun _ us hc => Turn.said_front hc

/-- The frames `fs` have been said, with empty responses behind them, and a
reply is awaited. -/
def Rounds (config : RemoteConfig) (fs : List Frame) (k : Link Client σ)
    (t : List Event) : Prop :=
  ∃ n, k.Known config (Conversing (fs ++ List.replicate n (.response []))) t

/-- Frames that begin no further than `fs` and empty responses behind. -/
def Trailing (fs : List Frame) (us : List Turn) : Prop :=
  ∃ n, frames us <+: fs ++ List.replicate n (.response [])

omit [Connector κ σ] in
/-- A conversation goes on with empty responses. -/
theorem ends_converse (h : k.Known config (Conversing fs) t) :
    Ends t converse k
      (fun _ k' t' => k'.Known config (fun _ us => Trailing fs us) t')
      fun _ k' t' => k'.Known config (fun _ us => Trailing fs us) t' := by
  have hstart : Rounds config fs k t :=
    ⟨0, by rwa [List.replicate_zero, List.append_nil]⟩
  -- a round leaves one more response behind, or ends the loop
  have hkeeps : ∀ (k : Link Client σ) t, Rounds config fs k t →
      Ends t round k
        (fun again k' t' => if again then Rounds config fs k' t'
          else k'.Known config (fun _ us => Trailing fs us) t')
        fun _ k' t' => k'.Known config (fun _ us => Trailing fs us) t' := by
    intro k t hk
    obtain ⟨n, hknown⟩ := hk
    refine (ends_round hknown).imp ?_ ?_
    · intro again k' t' h'
      cases again with
      | true =>
        refine ⟨n + 1, ?_⟩
        rw [List.replicate_succ', ← List.append_assoc]
        exact h'
      | false =>
        refine h'.imp ?_
        intro _ us hsaid
        exact ⟨n, hsaid ▸ List.prefix_rfl⟩
    · intro _ k' t' h'
      refine h'.imp ?_
      intro _ us hfront
      refine ⟨n + 1, ?_⟩
      rw [List.replicate_succ', ← List.append_assoc]
      exact hfront
  exact .iterate hkeeps hstart

/-- Passing a message on, whatever comes of it. -/
theorem ends_delegate {message : Bytes} (free : d.session.link = none) :
    Ends [] (delegate config message) d
      (fun _ d' => Accounted config
        (∃ credentials, PlainCredentials.parse message = .ok credentials)
        (fun us => MaySay config [message] (frames us)) d'.session.link)
      fun _ d' => Accounted config
        (∃ credentials, PlainCredentials.parse message = .ok credentials)
        (fun us => MaySay config [message] (frames us)) d'.session.link := by
  refine .bind (.ofExcept ?_ ?_)
  · intro credentials hparse
    have hparsed : ∃ credentials,
      PlainCredentials.parse message = .ok credentials := ⟨_, hparse⟩
    refine .bind (Desk.ends_ofOpener
      ((Link.ends_bootstrap config plainName).imp ?_ ?_))
    · intro k opener t hk
      -- from here on the session holds the link, and every end is accounted
      -- for through it
      have hholds : Desk.Holds slot config _
          (⟨opener, { d.session with link := some k }⟩ :
            Desk κ (PlainRelay σ)) t := ⟨k, rfl, hk⟩
      refine .bind (.update (.bind ((hholds.onHeld (fun _ _ => rfl)
        fun k t hk => hk.sendInit plainName _ message).imp ?_ ?_)))
      · intro _ d₁ t₁ h₁
        refine .bind ((h₁.onHeld (fun _ _ => rfl)
          fun k t hk => ends_converse hk).imp ?_ ?_)
        · intro _ d₂ t₂ h₂
          exact .bind (.update (.pure ⟨.inr hparsed, h₂.custody⟩))
        · intro _ d₂ t₂ h₂
          exact ⟨.inr hparsed, h₂.custody⟩
      · intro _ d₁ t₁ h₁
        have hcustody := h₁.custody
        refine ⟨.inr hparsed, hcustody.imp ?_⟩
        intro us hfront
        exact ⟨0, hfront⟩
    · intro _ opener t hcustody
      refine ⟨.inr hparsed, ?_⟩
      rw [free]
      refine hcustody.imp ?_
      intro us hsaid
      exact ⟨0, hsaid ▸ List.nil_prefix⟩
  · intro _ _
    refine ⟨.inl rfl, ?_⟩
    rw [free]
    exact .unopened

end PlainRelay

-- ================================================================= SCRAM

namespace ScramRelay

variable {κ σ : Type} {config : RemoteConfig} {mechanism : ScramMechanism}
  {d : Desk κ (ScramRelay σ)} {t : List Event} {fs : List Frame}
  {P : Client → List Turn → Prop} {R : List Turn → Prop}

/-- The frames of a session, at most: its first two messages as they came, and
an empty response behind them. -/
def script (config : RemoteConfig) (mechanism : ScramMechanism) :
    List Bytes → List Frame
  | [] => []
  | [message] => [.init mechanism.name (some message)
      (some config.effectiveHostname)]
  | message :: proof :: _ => [.init mechanism.name (some message)
      (some config.effectiveHostname), .response proof, .response []]

/-- A session may say what it might have said after fewer messages. -/
theorem script_mono (ms more : List Bytes) :
    script config mechanism ms <+: script config mechanism (ms ++ more) := by
  match ms, more with
  | [], _ => exact List.nil_prefix
  | [message], [] => exact List.prefix_rfl
  | [message], proof :: _ => exact List.prefix_append [_] [_, _]
  | message :: proof :: _, _ => exact List.prefix_rfl

-- ======================================================== single actions

/-- A step of the exchange leaves the link alone. -/
theorem holding_advance {input : ScramInput} (h : d.Holds slot config P t) :
    Ends t (advance input) d
      (fun effect d' t' => d'.Holds slot config P t'
        ∧ ∃ stage, d.session.stage.advance input = .ok (stage, effect))
      fun _ d' t' => d'.Holds slot config P t' := by
  refine Desk.ends_current_bind (.bind (.ofExcept ?_ ?_))
  · intro next hmoves
    exact .bind (.update (.pure ⟨h, next.1, hmoves⟩))
  · exact fun _ _ => h

/-- What is to be done about a challenge is to be done about nothing else. -/
theorem eq_challenge_of_advance {stage stage' : ScramStage} {reply : Reply}
    {effect : ScramEffect}
    (h : stage.advance (.reply reply) = .ok (stage', effect))
    (due : effect = .returnChallenge ∨ effect = .acknowledgeServerFinal) :
    reply = .challenge := by
  cases stage <;> cases reply <;> cases h <;> first | rfl | simp at due

section Replies

variable [Wire σ]

/-- Waiting for a reply. -/
theorem holding_react (h : d.Holds slot config (Conversing fs) t) :
    Ends t react d
      (fun effect d' t' => d'.Holds slot config (fun c us => frames us = fs
        ∧ (effect = .returnChallenge ∨ effect = .acknowledgeServerFinal →
          c.Owing fs us)) t')
      fun _ d' t' => d'.Holds slot config (fun _ us => frames us = fs) t' := by
  refine (h.onHeld (fun _ _ => rfl) fun k t hk => hk.await).andThen ?_
  intro reply d₁ t₁ h₁
  refine (holding_advance h₁).imp ?_ ?_
  · intro effect d₂ t₂ h₂
    obtain ⟨hholds, stage, hmoves⟩ := h₂
    refine hholds.imp ?_
    intro c us hreplied
    exact ⟨hreplied.1, fun due =>
      hreplied.2 (eq_challenge_of_advance hmoves due)⟩
  · intro _ d₂ t₂ h₂
    exact h₂.imp fun _ us hc => hc.1

/-- Taking the data of a reply leaves all alone but the data. -/
theorem holding_replyData (h : d.Holds slot config P t)
    (taken : ∀ c us, P c us → P { c with pending := none } us) :
    Ends t replyData d (fun _ d' t' => d'.Holds slot config P t')
      fun _ d' t' => d'.Holds slot config P t' := by
  refine (h.onHeld (fun _ _ => rfl)
    fun k t hk => hk.takePending taken).andThen ?_
  intro _ d₁ t₁ h₁
  exact .pure h₁

/-- Taking the challenge leaves a response owed. -/
theorem holding_takeChallenge (h : d.Holds slot config (Owing fs) t) :
    Ends t replyData d (fun _ d' t' => d'.Holds slot config (Owing fs) t')
      fun _ d' t' => d'.Holds slot config (Owing fs) t' := by
  refine holding_replyData h ?_
  intro c us hc
  exact ⟨hc.drained, hc.offered, hc.said, hc.stepping, hc.owes⟩

/-- What becomes of the outcome concerns the server no more. -/
theorem holding_settle {acknowledged : Option Bytes} {effect : ScramEffect}
    (h : d.Holds slot config (fun _ us => R us) t) :
    Ends t (settle acknowledged effect) d
      (fun _ d' t' => d'.Holds slot config (fun _ us => R us) t')
      fun _ d' t' => d'.Holds slot config (fun _ us => R us) t' := by
  have hdata : Ends t replyData d _ _ := holding_replyData h fun _ _ hr => hr
  cases effect with
  | returnServerFinal =>
    refine hdata.andThen ?_
    intro data d₁ t₁ h₁
    dsimp only
    generalize (if data = [] then acknowledged.getD [] else data) = final
    split
    · exact .bind (.update (.pure h₁))
    · exact .fails h₁
  | reject =>
    refine hdata.andThen ?_
    intro data d₁ t₁ h₁
    split
    · exact .bind (Desk.ends_current_bind (.pure (.fails h₁)))
    · exact .fails h₁
  | _ => exact Desk.ends_current_bind (.fails h)

/-- Waiting for the outcome behind a server-final message. -/
theorem holding_concludeAfter {serverFinal : Bytes}
    (h : d.Holds slot config (Conversing fs) t) :
    Ends t (concludeAfter serverFinal) d
      (fun _ d' t' => d'.Holds slot config (fun _ us => frames us = fs) t')
      fun _ d' t' => d'.Holds slot config (fun _ us => frames us = fs) t' := by
  refine (holding_react h).andThen ?_
  intro effect d₁ t₁ h₁
  have hsaid := h₁.imp fun c us hc => hc.1
  cases effect with
  | acknowledgeServerFinal => exact .fails hsaid
  | _ => exact holding_settle hsaid

/-- Waiting for the outcome. A server-final message that precedes it is
acknowledged. -/
theorem holding_conclude (h : d.Holds slot config (Conversing fs) t) :
    Ends t conclude d
      (fun _ d' t' => d'.Holds slot config
        (fun _ us => frames us <+: fs ++ [.response []]) t')
      fun _ d' t' => d'.Holds slot config
        (fun _ us => frames us <+: fs ++ [.response []]) t' := by
  refine .bind ((holding_react h).imp ?_ fun _ d' t' h' =>
    h'.imp fun _ us hsaid => Turn.said_front hsaid)
  intro effect d₁ t₁ h₁
  cases effect with
  | acknowledgeServerFinal =>
    have howing := h₁.imp fun c us hc => hc.2 (.inr rfl)
    refine .bind ((holding_takeChallenge howing).imp ?_ ?_)
    · intro data d₂ t₂ h₂
      split
      · refine (h₂.onHeld (fun _ _ => rfl)
          fun k t hk => hk.sendResponse []).andThen ?_
        intro _ d₃ t₃ h₃
        -- after the acknowledgement nothing more is said
        have hback : ∀ (d' : Desk κ (ScramRelay σ)) t', d'.Holds slot config
            (fun _ us => frames us = fs ++ [.response []]) t' →
            d'.Holds slot config
              (fun _ us => frames us <+: fs ++ [.response []]) t' :=
          fun d' t' h' => h'.imp fun _ us hsaid => hsaid ▸ List.prefix_rfl
        exact (holding_concludeAfter h₃).imp (fun _ => hback) fun _ => hback
      · exact .fails (h₂.imp fun c us hc => Turn.said_front hc.said)
    · intro _ d₂ t₂ h₂
      exact h₂.imp fun c us hc => Turn.said_front hc.said
  | _ => exact holding_settle (h₁.imp fun c us hc => Turn.said_front hc.1)

/-- Passing the proof on, with all that follows. -/
theorem holding_forwardProof {proof : Bytes}
    (h : d.Holds slot config (Owing fs) t) :
    Ends t (forwardProof proof) d
      (fun _ d' t' => d'.Holds slot config
        (fun _ us => frames us <+: fs ++ [.response proof, .response []]) t')
      fun _ d' t' => d'.Holds slot config
        (fun _ us => frames us <+: fs ++ [.response proof, .response []])
        t' := by
  have hmore : fs ++ [.response proof]
      <+: fs ++ [.response proof, .response []] :=
    (List.prefix_append_right_inj fs).2 (List.prefix_append [_] [_])
  refine .bind ((h.onHeld (fun _ _ => rfl)
    fun k t hk => hk.sendResponse proof).imp ?_ ?_)
  · intro _ d₁ t₁ h₁
    have hspec := holding_conclude h₁
    rw [List.append_assoc, List.singleton_append] at hspec
    exact hspec
  · intro _ d₁ t₁ h₁
    exact h₁.imp fun _ us hfront => hfront.trans hmore

/-- Waiting for the challenge, with the name of the user noted once it is
there. -/
theorem holding_firstReply {name : String}
    (h : d.Holds slot config (Conversing fs) t) :
    Ends t (react >>= fun
      | .returnChallenge => do
        Desk.change fun s => { s with username := some name }
        replyData
      | .endEarly => Act.fail .remoteEndedEarly
      | _ => refuse) d
      (fun _ d' t' => d'.Holds slot config (Owing fs) t')
      fun _ d' t' => d'.Holds slot config (fun _ us => frames us = fs) t' := by
  refine (holding_react h).andThen ?_
  intro effect d₁ t₁ h₁
  have hsaid := h₁.imp fun c us hc => hc.1
  cases effect with
  | returnChallenge =>
    have howing : Desk.Holds slot config (Owing fs)
        { d₁ with session := { d₁.session with username := some name } } t₁ :=
      h₁.imp fun c us hc => hc.2 (.inl rfl)
    refine .bind (.update ((holding_takeChallenge howing).imp
      (fun _ _ _ h => h) ?_))
    intro _ d₂ t₂ h₂
    exact h₂.imp fun c us hc => hc.said
  | endEarly => exact .fails hsaid
  | _ => exact Desk.ends_current_bind (.fails hsaid)

/-- Passing the client's first message on. The connection is held if the
server has challenged, and accounted for anyhow. -/
theorem ends_forwardClientFirst_custody [Connector κ σ] {message : Bytes}
    (free : d.session.link = none) (name : d.session.mechanism = mechanism) :
    Ends [] (forwardClientFirst config message) d
      (fun _ d' t' => (∃ clientFirst, ClientFirst.parse message = .ok clientFirst)
        ∧ d'.Holds slot config (Owing (script config mechanism [message])) t')
      fun _ d' => Accounted config
        (∃ clientFirst, ClientFirst.parse message = .ok clientFirst)
        (fun us => frames us <+: script config mechanism [message])
        d'.session.link := by
  refine .bind (.ofExcept ?_ ?_)
  · intro clientFirst hparse
    have hparsed : ∃ clientFirst,
      ClientFirst.parse message = .ok clientFirst := ⟨_, hparse⟩
    refine Desk.ends_current_bind (.bind (Desk.ends_ofOpener
      ((Link.ends_bootstrap config d.session.mechanism.name).imp ?_ ?_)))
    · intro k opener t hk
      have hholds : Desk.Holds slot config _
          (⟨opener, { d.session with link := some k }⟩ :
            Desk κ (ScramRelay σ)) t := ⟨k, rfl, hk⟩
      refine .bind (.update (.bind ((hholds.onHeld (fun _ _ => rfl)
        fun k t hk => hk.sendInit d.session.mechanism.name _ message).imp
          ?_ ?_)))
      · intro _ d₁ t₁ h₁
        rw [name] at h₁
        refine (holding_firstReply h₁).imp ?_ ?_
        · exact fun _ _ _ h₂ => ⟨hparsed, h₂⟩
        · intro _ d₂ t₂ h₂
          have hcustody := h₂.custody
          refine ⟨.inr hparsed, hcustody.imp ?_⟩
          intro us hsaid
          exact hsaid ▸ List.prefix_rfl
      · intro _ d₁ t₁ h₁
        rw [name] at h₁
        exact ⟨.inr hparsed, h₁.custody⟩
    · intro _ opener t hcustody
      refine ⟨.inr hparsed, ?_⟩
      rw [free]
      refine hcustody.imp ?_
      intro us hsaid
      exact hsaid ▸ List.nil_prefix
  · intro _ _
    refine ⟨.inl rfl, ?_⟩
    rw [free]
    exact .unopened

/-- Without a connection, a proof cannot be passed on. -/
theorem run_dispatch_free [Connector κ σ] {proof : Bytes}
    (stage : d.session.stage = .awaitingProof)
    (free : d.session.link = none) :
    (dispatch config proof).run d = ⟨.error (.protocolViolation .closed),
      { d with session := { d.session with stage := .evaluatingProof } },
      []⟩ := by
  have hmoves : d.session.stage.advance .clientMessage =
      .ok (.evaluatingProof, .forwardProof) := by
    rw [stage]
    rfl
  have hnone : (Desk.onHeld slot (Link.sendResponse proof)).run
      { d with session := { d.session with stage := .evaluatingProof } } =
      ⟨.error (.protocolViolation .closed),
        { d with session := { d.session with stage := .evaluatingProof } },
        []⟩ := by
    simp [Desk.onHeld, slot, free]
  rw [dispatch, Act.run_bind_ok _ (run_advance hmoves)]
  simp only [forwardProof]
  rw [Act.run_bind_error _ hnone]
  rfl

/-- What becomes of the first message. -/
theorem ends_dispatch_first [Connector κ σ] {message : Bytes}
    (stage : d.session.stage = .initial) (free : d.session.link = none)
    (name : d.session.mechanism = mechanism) :
    Ends [] (dispatch config message) d
      (fun _ d' t' => (∃ clientFirst, ClientFirst.parse message = .ok clientFirst)
        ∧ d'.Holds slot config (Owing (script config mechanism [message])) t')
      fun _ d' => Accounted config
        (∃ clientFirst, ClientFirst.parse message = .ok clientFirst)
        (fun us => frames us <+: script config mechanism [message])
        d'.session.link := by
  have hmoves : d.session.stage.advance .clientMessage =
      .ok (.awaitingChallenge, .forwardClientFirst) := by
    rw [stage]
    rfl
  refine .bind (.of_run_ok (run_advance hmoves) ?_)
  exact ends_forwardClientFirst_custody free name

/-- What becomes of the proof. -/
theorem ends_dispatch_proof [Connector κ σ] {proof : Bytes}
    (stage : d.session.stage = .awaitingProof)
    (h : d.Holds slot config (Owing fs) t) :
    Ends t (dispatch config proof) d
      (fun _ d' t' => d'.Holds slot config
        (fun _ us => frames us <+: fs ++ [.response proof, .response []]) t')
      fun _ d' t' => d'.Holds slot config
        (fun _ us => frames us <+: fs ++ [.response proof, .response []])
        t' := by
  have hmoves : d.session.stage.advance .clientMessage =
      .ok (.evaluatingProof, .forwardProof) := by
    rw [stage]
    rfl
  refine .bind (.of_run_ok (run_advance hmoves) ?_)
  rw [List.append_nil]
  exact holding_forwardProof h

end Replies

end ScramRelay

end SaslGate
