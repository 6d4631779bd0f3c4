/-
What a PLAIN session shows of a password: how long it is. Two fresh sessions
that are given messages for the same user, with passwords of one length, cannot
be told apart by what they answer, by what they leave behind, or by what they do
to the outside world, except that where the one has written its message into
sasl-init the other has written its own.

The two are followed side by side, call for call (`PlainRelay.tandem_evaluate`).
The message enters at two places only: it is parsed, and it is put into a frame.
Where its bytes end up in what was written is known of each session by itself
(`Custody.sent_front`).
-/
import SaslGate.Proofs.Auth.Plain
import SaslGate.Proofs.Secrecy
import SaslGate.Proofs.Session.Custody

namespace SaslGate

open Act (Tandem)
open Event (calls)
open SocketEvent (sent)
open Turn (frames)

-- ============================================================== sessions

namespace PlainRelay

variable {κ σ : Type} {R : σ → σ → Prop}

/-- Sessions that differ only in what waits to be sent on their links. -/
structure Twin (R : σ → σ → Prop) (s s' : PlainRelay σ) : Prop where
  link : Option.Rel (Link.Twin R) s.link s'.link
  outcome : s.outcome = s'.outcome
  authorizationId : s.authorizationId = s'.authorizationId

/-- Without a link they do not differ. -/
theorem Twin.eq_of_unlinked {s s' : PlainRelay σ} (h : s.Twin R s')
    (unlinked : s.link = none) : s = s' := by
  obtain ⟨link, outcome, id⟩ := s
  obtain ⟨link', outcome', id'⟩ := s'
  obtain ⟨hlink, houtcome, hid⟩ := h
  cases unlinked
  cases hlink
  cases houtcome
  cases hid
  rfl

/-- Twin sessions at work, with one opener. -/
structure Beside (R : σ → σ → Prop) (d d' : Desk κ (PlainRelay σ)) : Prop where
  opener : d.opener = d'.opener
  session : d.session.Twin R d'.session

/-- Two actions of a session. -/
abbrev InTandem (R : σ → σ → Prop) (V : α → α → Prop)
    (x y : Working κ (PlainRelay σ) α) : Prop :=
  Tandem Event.Counterpart (Beside R) V x y

theorem tandem_change {f g : PlainRelay σ → PlainRelay σ}
    (h : ∀ s s', s.Twin R s' → (f s).Twin R (g s')) :
    InTandem (κ := κ) R Eq (Desk.change f) (Desk.change g) :=
  Tandem.update fun _ _ hd => ⟨hd.opener, h _ _ hd.session⟩

theorem tandem_hold {k k' : Link Client σ} (hk : k.Twin R k') :
    InTandem (κ := κ) R Eq (Desk.hold slot k) (Desk.hold slot k') :=
  tandem_change fun _ _ hs => ⟨.some hk, hs.outcome, hs.authorizationId⟩

/-- Actions of the links that are held, or of none. -/
theorem tandem_onHeld {V : α → α → Prop}
    {x y : Act Event (Link Client σ) AuthError α}
    (h : Link.InTandem R V x y) :
    InTandem (κ := κ) R V (Desk.onHeld slot x) (Desk.onHeld slot y) := by
  intro d d' hd
  obtain ⟨opener, ⟨link, outcome, id⟩⟩ := d
  obtain ⟨opener', ⟨link', outcome', id'⟩⟩ := d'
  obtain ⟨hopener, hlink, houtcome, hid⟩ := hd
  cases hlink with
  | none => exact ⟨.error _, ⟨hopener, .none, houtcome, hid⟩, .nil⟩
  | @some k k' hk =>
    obtain ⟨hresult, hstate, hevents⟩ := h k k' hk
    exact ⟨hresult, ⟨hopener, .some hstate, houtcome, hid⟩, hevents⟩

section Conversation

variable [Wire σ] (blind : Wire.Blind R)
include blind

/-- A round answers challenges alike, which show no secret. -/
theorem tandem_round :
    Link.InTandem R Eq (round : Linked Client σ Bool) round := by
  refine (Reply.tandem_await blind).andThen fun reply => ?_
  cases reply with
  | passed => exact .pure rfl
  | failed => exact .fail _
  | challenge =>
    refine Link.tandem_takePending.andThen fun _ => ?_
    exact (Link.tandem_send blind (Client.agreeing_sendResponse [])).andThen
      fun _ => .pure rfl

theorem tandem_converse :
    Link.InTandem R Eq (converse : Linked Client σ Unit) converse :=
  .iterate (tandem_round blind)

/-- Letting go of twin links. -/
theorem tandem_release :
    InTandem (κ := κ) R Eq (release : Working κ (PlainRelay σ) Unit)
      release := by
  refine Tandem.bind (V := fun _ _ => True) ?_ fun _ _ _ => .pure rfl
  intro d d' hd
  obtain ⟨opener, ⟨link, outcome, id⟩⟩ := d
  obtain ⟨opener', ⟨link', outcome', id'⟩⟩ := d'
  obtain ⟨hopener, hlink, houtcome, hid⟩ := hd
  cases hlink with
  | none => exact ⟨.ok trivial, ⟨hopener, .none, houtcome, hid⟩, .nil⟩
  | @some k k' hk =>
    obtain ⟨-, -, hevents⟩ := Link.tandem_close blind k k' hk
    exact ⟨.ok trivial, ⟨hopener, .none, houtcome, hid⟩, hevents⟩

variable [Connector κ σ] {config : RemoteConfig} {m₁ m₂ : Bytes}
  {c₁ c₂ : PlainCredentials}

/-- Messages of one length for one user are passed on alike. -/
theorem tandem_delegate (same : SameLength m₁ m₂)
    (parsed₁ : PlainCredentials.parse m₁ = .ok c₁)
    (parsed₂ : PlainCredentials.parse m₂ = .ok c₂)
    (user : c₁.username = c₂.username) :
    InTandem (κ := κ) R Eq (delegate config m₁) (delegate config m₂) := by
  have hparse : Alike (fun c c' => c.username = c'.username)
      (PlainCredentials.parse m₁) (PlainCredentials.parse m₂) := by
    rw [parsed₁, parsed₂]
    exact .ok user
  refine (Tandem.ofExcept hparse).bind fun c c' hc => ?_
  -- both runs dial alike, since nothing of the message was said yet
  have hopen : InTandem (κ := κ) R (Link.Twin R)
      (Desk.ofOpener (Link.bootstrap Client.fresh config plainName))
      (Desk.ofOpener (Link.bootstrap Client.fresh config plainName)) := by
    refine (Link.tandem_bootstrap blind config plainName).focus ?_ ?_
    · intro d d' hd
      exact hd.opener
    · intro opener opener' d d' hopener hd
      exact ⟨hopener, hd.session⟩
  refine hopen.bind fun k k' hk => ?_
  refine (tandem_hold hk).andThen fun _ => ?_
  have hinit := Link.tandem_send blind
    (Client.agreeing_sendInit plainName config.effectiveHostname same)
  refine (tandem_onHeld hinit).andThen fun _ => ?_
  refine (tandem_onHeld (tandem_converse blind)).andThen fun _ => ?_
  refine (tandem_change ?_).andThen fun _ => .pure rfl
  intro s s' hs
  exact ⟨hs.link, hs.outcome, congrArg some hc⟩

/-- Messages of one length for one user are answered alike. -/
theorem tandem_evaluate (same : SameLength m₁ m₂)
    (parsed₁ : PlainCredentials.parse m₁ = .ok c₁)
    (parsed₂ : PlainCredentials.parse m₂ = .ok c₂)
    (user : c₁.username = c₂.username) :
    InTandem (κ := κ) R Eq (evaluate config m₁) (evaluate config m₂) := by
  have hcurrent : InTandem (κ := κ) R (Twin R) Desk.current Desk.current :=
    fun d d' hd => ⟨.ok hd.session, hd, .nil⟩
  refine hcurrent.bind fun s s' hs => ?_
  have hrest : InTandem (κ := κ) R Eq
      (do
        let result ← (delegate config m₁).attempt
        Desk.change fun s => { s with outcome := some (Outcome.of result) }
        release
        Act.ofExcept result)
      (do
        let result ← (delegate config m₂).attempt
        Desk.change fun s => { s with outcome := some (Outcome.of result) }
        release
        Act.ofExcept result) := by
    refine (tandem_delegate blind same parsed₁ parsed₂ user).attempt.bind ?_
    intro result result' hresult
    rw [hresult.eq]
    refine (tandem_change ?_).andThen fun _ => ?_
    · intro s s' hs
      exact ⟨hs.link, rfl, hs.authorizationId⟩
    · exact (tandem_release blind).andThen fun _ => .ofExcept (alike_refl _)
  rw [hs.outcome]
  exact .ite (Tandem.andThen (.fail _) fun _ => hrest) hrest

end Conversation

end PlainRelay

-- ========================================================= what is written

/-- An event and its counterpart write as many bytes. -/
theorem length_sent_of_counterpart {t t' : List Event}
    (h : List.Forall₂ Event.Counterpart t t') :
    (sent (calls t)).length = (sent (calls t')).length := by
  induction h with
  | nil => rfl
  | @cons e e' t t' he ht ih =>
    have hhead :
        (sent (calls [e])).length = (sent (calls [e'])).length := by
      cases he with
      | same e => rfl
      | socket id hcall =>
        cases hcall with
        | same call => rfl
        | @write a b hsame =>
          show (a ++ []).length = (b ++ []).length
          rw [List.append_nil, List.append_nil]
          exact hsame
    have hsplit (e : Event) (t : List Event) :
        sent (calls (e :: t)) = sent (calls [e]) ++ sent (calls t) := by
      rw [← SocketEvent.sent_append, ← Event.calls_append]
      rfl
    rw [hsplit e t, hsplit e' t', List.length_append, List.length_append,
      hhead, ih]

namespace PlainRelay

/-- The header, the frame of the first message, and what is behind them. -/
def output (front message back rest : Bytes) : Bytes :=
  Header.sasl.encode
    ++ bigEndian32 (front.length + message.length + back.length + 4)
    ++ (front ++ message ++ back) ++ rest

variable {config : RemoteConfig} {message front back : Bytes} {fs : List Frame}
  {raw : Bytes}

/-- More responses are said behind fewer. -/
theorem output_mono (front message back one : Bytes) {k n : Nat} (h : k ≤ n) :
    output front message back (List.replicate k one).flatten
      <+: output front message back (List.replicate n one).flatten := by
  obtain ⟨more, rfl⟩ := Nat.exists_eq_add_of_le h
  rw [List.replicate_add, List.flatten_append]
  refine ⟨(List.replicate more one).flatten, ?_⟩
  simp only [output, List.append_assoc]

/-- Empty responses are written one like the other. -/
theorem utters_replicate {one : Bytes} {n : Nat}
    (sized : Client.sized (.response []) = .ok one)
    (h : Utters (List.replicate n (.response [])) raw) :
    raw = (List.replicate n one).flatten := by
  induction n generalizing raw with
  | zero =>
    cases h
    rfl
  | succ n ih =>
    cases h with
    | cons first tail =>
      rw [sized] at first
      cases first
      rw [List.replicate_succ, List.flatten_cons, ih tail]

/-- What a session has said is the front of all its output. -/
theorem output_front {one : Bytes} {n : Nat}
    (sized : Client.sized (.response []) = .ok one)
    (holds : Frame.Holds plainName config.effectiveHostname front message back)
    (said : fs <+: .init plainName (some message)
      (some config.effectiveHostname) :: List.replicate n (.response []))
    (h : Utters fs raw) :
    Header.sasl.encode ++ raw
      <+: output front message back (List.replicate n one).flatten := by
  cases h with
  | nil =>
    rw [List.append_nil, output, List.append_assoc, List.append_assoc]
    exact List.prefix_append _ _
  | @cons f fs head rest first tail =>
    obtain ⟨rfl, more, hmore⟩ := List.cons_prefix_cons.1 said
    obtain ⟨hcount, hfs, -⟩ := List.append_eq_replicate_iff.1 hmore
    rw [hfs] at tail
    have hrest := utters_replicate sized tail
    -- the first frame is sized by the lengths of its parts, so the message
    -- has its place
    have hhead : head
        = bigEndian32 (front.length + message.length + back.length + 4)
          ++ (front ++ message ++ back) := by
      rw [Client.sized_of_encode holds] at first
      split at first
      · cases first
        simp only [List.length_append]
      · cases first
    have hwhole : Header.sasl.encode ++ (head ++ rest)
        = output front message back (List.replicate fs.length one).flatten := by
      rw [hhead, hrest, output]
      simp only [List.append_assoc]
    rw [hwhole]
    exact output_mono front message back one (Nat.le.intro hcount)

end PlainRelay

/-- What was written on a connection that is no more is the front of the header
and of whole frames behind it. -/
theorem Custody.sent_front {σ : Type} {R : List Turn → Prop} {t : List Event}
    {config : RemoteConfig} (h : Custody (σ := σ) config R none t) :
    sent (calls t) = [] ∨ ∃ us raw, R us ∧ Utters (frames us) raw
      ∧ sent (calls t) <+: Header.sasl.encode ++ raw := by
  cases h with
  | unopened => exact .inl rfl
  | refused kind => exact .inl rfl
  | @closed id c us u work told answer =>
    obtain ⟨raw, hrequests, hsent⟩ := work.account
    refine .inr ⟨us, raw, told, hrequests.utters, c.outbound, ?_⟩
    rw [Event.calls_append, Link.calls_opened, SocketEvent.sent_append, ← hsent]
    show (sent u ++ []) ++ c.outbound = sent u ++ c.outbound
    rw [List.append_nil]

-- ========================================================== whole sessions

namespace PlainRelay

variable {κ δ σ γ : Type} [Connector κ σ] [Wire σ] [DirectoryService δ γ]
  [DirectoryConnection γ] {config : RemoteConfig} {m₁ m₂ : Bytes}
  {c₁ c₂ : PlainCredentials} {R : σ → σ → Prop}

/-- What comes of the first message to a session. -/
def firstRun (γ : Type) [DirectoryService δ γ] [DirectoryConnection γ]
    (world : World κ δ) (config : RemoteConfig) (message : Bytes) :
    Run Event (Desk (World κ δ) (Session σ γ)) AuthError Bytes :=
  (Session.evaluate message).run ⟨world, .plain config .fresh⟩

/-- A session that has answered holds no link, and all it has said is its
message and empty responses. -/
theorem firstRun_custody (world : World κ δ) (config : RemoteConfig)
    (message : Bytes) :
    ∃ relay, (firstRun (σ := σ) γ world config message).state.session
        = .plain config relay
      ∧ relay.link = none
      ∧ Custody (σ := σ) config
        (fun us => MaySay config [message] (frames us)) none
        (firstRun (σ := σ) γ world config message).events := by
  have served := Served.evaluate message
    (⟨world, .plain config .fresh⟩ : Desk (World κ δ) (Session σ γ))
  obtain ⟨relay, hsession, htended⟩ := tended_of_course (.call .start served)
  have hanswered : Tended config [message]
      (firstRun (σ := σ) γ world config message).events relay := htended
  refine ⟨relay, hsession, ?_⟩
  generalize (firstRun γ world config message).events = t at hanswered
  cases hanswered with
  | answered account => exact ⟨rfl, account.custody⟩

/-- What a session has written is the front of its output. -/
theorem firstRun_sent {front message back one : Bytes} (world : World κ δ)
    (holds : Frame.Holds plainName config.effectiveHostname front message back)
    (sized : Client.sized (.response []) = .ok one) :
    ∃ n, sent (calls (firstRun (σ := σ) γ world config message).events)
      <+: output front message back (List.replicate n one).flatten := by
  obtain ⟨-, -, -, hcustody⟩ :=
    firstRun_custody (σ := σ) (γ := γ) world config message
  rcases hcustody.sent_front with hnone | ⟨us, raw, hsaid, hutters, hfront⟩
  · rw [hnone]
    exact ⟨0, List.nil_prefix⟩
  · obtain ⟨n, hsaid⟩ := hsaid
    exact ⟨n, hfront.trans (output_front sized holds hsaid hutters)⟩

/-- Messages of one length for one user come to the same, call for call. -/
theorem firstRun_tandem (blind : Wire.Blind R) (world : World κ δ)
    (config : RemoteConfig) (same : SameLength m₁ m₂)
    (parsed₁ : PlainCredentials.parse m₁ = .ok c₁)
    (parsed₂ : PlainCredentials.parse m₂ = .ok c₂)
    (user : c₁.username = c₂.username) :
    (firstRun (σ := σ) γ world config m₁).Tandem Event.Counterpart Eq Eq
      (firstRun γ world config m₂) := by
  have htandem : InTandem (κ := κ) R Eq (evaluate config m₁)
      (evaluate config m₂) :=
    tandem_evaluate blind same parsed₁ parsed₂ user
  obtain ⟨hresult, hstate, htrace⟩ := htandem ⟨world.connector, .fresh⟩
    ⟨world.connector, .fresh⟩ ⟨rfl, ⟨.none, rfl, rfl⟩⟩
  obtain ⟨relay, hsession, hlink, -⟩ :=
    firstRun_custody (σ := σ) (γ := γ) world config m₁
  have hrelay : ((evaluate config m₁).run
      ⟨world.connector, .fresh⟩).state.session = relay :=
    (Session.plain.inj hsession).2
  have hsame := hstate.session.eq_of_unlinked (hrelay ▸ hlink)
  refine ⟨hresult, ?_, htrace⟩
  show (⟨⟨_, world.directory⟩, .plain config _⟩ :
    Desk (World κ δ) (Session σ γ)) = ⟨⟨_, world.directory⟩, .plain config _⟩
  rw [hstate.opener, hsame]

/-- Two runs that cannot be told apart by anybody who does not look at the first
message in its frame. -/
structure Indistinct (config : RemoteConfig) (m₁ m₂ : Bytes)
    (r₁ r₂ : Run Event (Desk (World κ δ) (Session σ γ)) AuthError Bytes) :
    Prop where
  /-- The client is told the same, or the same error is reported. -/
  result : r₁.result = r₂.result
  /-- The sessions are left with the same outcome and the same identity, look
  the same in diagnostics, and leave the same world to others. -/
  state : r₁.state = r₂.state
  /-- The calls are the same ones with the same answers, but for the bytes that
  were written; of these there are as many. -/
  trace : List.Forall₂ Event.Counterpart r₁.events r₂.events
  /-- All that was written, in one piece: where the one message stands in
  the first frame, the other stands instead, and all around it is the same. -/
  written : ∃ front back rest n,
    (∀ m : Bytes, m.length = m₁.length →
      Frame.Holds plainName config.effectiveHostname front m back)
    ∧ m₂.length = m₁.length
    ∧ sent (calls r₁.events) = (output front m₁ back rest).take n
    ∧ sent (calls r₂.events) = (output front m₂ back rest).take n

/-- Nobody sees a password. Two messages for one user, with passwords of one
length, are given to fresh sessions of one configuration in one world, whose
wires do not look at what is written to them: no matter what the server, the
network or the clock do, the runs cannot be told apart. -/
theorem password_unseen (blind : Wire.Blind R) (world : World κ δ)
    (config : RemoteConfig)
    (parsed₁ : PlainCredentials.parse m₁ = .ok c₁)
    (parsed₂ : PlainCredentials.parse m₂ = .ok c₂)
    (acting : c₁.authorizationId = c₂.authorizationId)
    (user : c₁.username = c₂.username)
    (size : c₁.password.utf8ByteSize = c₂.password.utf8ByteSize) :
    Indistinct config m₁ m₂ (firstRun (σ := σ) γ world config m₁)
      (firstRun γ world config m₂) := by
  -- all fields are equally long, so the messages are
  have hlength : m₂.length = m₁.length := by
    rw [PlainCredentials.length_of_parse parsed₁,
      PlainCredentials.length_of_parse parsed₂, acting, user, size]
  obtain ⟨hresult, hstate, htrace⟩ := firstRun_tandem (γ := γ) blind world
    config hlength.symm parsed₁ parsed₂ user
  obtain ⟨front, back, hholds⟩ := Frame.exists_holds plainName
    config.effectiveHostname m₁.length
  obtain ⟨one, hone⟩ : ∃ one, Client.sized (.response []) = .ok one :=
    ⟨_, rfl⟩
  obtain ⟨n₁, hsent₁⟩ := firstRun_sent (σ := σ) (γ := γ) world
    (hholds m₁ rfl) hone
  obtain ⟨n₂, hsent₂⟩ := firstRun_sent (σ := σ) (γ := γ) world
    (hholds m₂ hlength) hone
  have hfront₁ := hsent₁.trans (output_mono front m₁ back one
    (Nat.le_max_left n₁ n₂))
  have hfront₂ := hsent₂.trans (output_mono front m₂ back one
    (Nat.le_max_right n₁ n₂))
  refine ⟨hresult.eq, hstate, htrace, front, back, _, _, hholds, hlength,
    List.prefix_iff_eq_take.1 hfront₁, ?_⟩
  rw [length_sent_of_counterpart htrace]
  exact List.prefix_iff_eq_take.1 hfront₂

end PlainRelay

-- ============================================================= a rehearsal

namespace Rehearsal

open PlainRelay

/-- A scripted socket does not look at what is written to it. -/
theorem blind_socket : Wire.Blind (σ := Socket) Eq where
  same _ := rfl
  read n := agreeing_refl (Socket.read n)
  write a b hsame := by
    have hwrite : Socket.write a = Socket.write b := by
      funext s
      unfold SameLength at hsame
      simp only [Socket.write, hsame]
    show Agreeing Eq (Socket.write a) (Socket.write b)
    rw [hwrite]
    exact agreeing_refl (Socket.write b)
  flush := agreeing_refl Socket.flush
  readTimeout := agreeing_refl Socket.readTimeout
  setReadTimeout t := agreeing_refl (Socket.setReadTimeout t)
  shutdown := agreeing_refl _
  now := agreeing_refl Socket.now

/-- A message of the user `u` with the password `q`. -/
def otherMessage : Bytes := [0, 117, 0, 113]

/-- What comes of it. -/
def otherRun : Run Event (Desk (World Remote Directory) Actor) AuthError
    Bytes :=
  firstRun Directory plainDesk.opener { host := "broker" } otherMessage

/-- The server is told another password, and nobody notices. -/
theorem password_unseen_rehearsal :
    Indistinct { host := "broker" } plainMessage otherMessage plainRun otherRun
    ∧ plainRun.result = .ok []
    ∧ sent (calls plainRun.events) ≠ sent (calls otherRun.events) := by
  have hparsed : PlainCredentials.parse plainMessage = .ok ⟨"", "u", "p"⟩ :=
    Act.eq_ok_of_toOption (by decide +kernel)
  have hparsed' : PlainCredentials.parse otherMessage = .ok ⟨"", "u", "q"⟩ :=
    Act.eq_ok_of_toOption (by decide +kernel)
  refine ⟨?_, plainRun_result, by decide +kernel⟩
  exact password_unseen blind_socket plainDesk.opener { host := "broker" }
    hparsed hparsed' rfl rfl (by decide)

end Rehearsal

end SaslGate
