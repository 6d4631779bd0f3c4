/-
Setting up a link, from the attempt to connect to the offer of the server, with
all that can go wrong on the way. Whoever gets a link gets it fresh from the
greeting: the header is all that was written, and the offer all that was heard.
Whoever gets an error has no socket to care for, since it was never opened or
has been shut down.

Two accounts of the greeting come together here. The dialogue follows it to
whichever end it has, and shows what was written by then (`greet_dialogue`).
The transcript of a greeting that got as far as the offer shows what was heard
(`greet_cases`).
-/
import SaslGate.Proofs.Dialogue

namespace SaslGate

open SocketEvent (received sent)
open Turn (frames)

namespace Link

variable {κ σ : Type} {config : RemoteConfig} {mechanism : String}

/-- What setting up a link comes to, with its trace: no socket, a link on which
the server has offered the mechanism, or a socket that has been shut down. -/
inductive Bootstrapped (config : RemoteConfig) (mechanism : String) :
    Except AuthError (Link Client σ) → List Event → Prop
  | refused (kind : IoKind) :
      Bootstrapped config mechanism
        (.error (if kind = .timedOut ∨ kind = .wouldBlock then .remoteTimeout
          else .connectFailure config.host config.portNumber kind))
        [.connect config.host config.portNumber config.connectTimeout
          (.error kind)]
  | ready {k : Link Client σ} {l : Line Client σ} {u : List SocketEvent}
      {names : List String} (line : k.line = some l)
      (idle : l.engine.progress = .idle)
      (heard : Streams [.mechanisms names] (received u))
      (offers : mechanism ∈ names) (written : sent u = Header.sasl.encode)
      (unshut : ∀ answer, .shutdown answer ∉ u) :
      Bootstrapped config mechanism (.ok k) (opened config k.id u)
  | closed {e : AuthError} {id : Nat} {u : List SocketEvent}
      (written : sent u <+: Header.sasl.encode)
      (unshut : ∀ answer, .shutdown answer ∉ u)
      (lacks : ∀ requested offered,
        e = .mechanismNotOffered requested offered → requested = mechanism
          ∧ Streams [.mechanisms offered] (received u) ∧ mechanism ∉ offered)
      (answer : Except IoKind Unit) :
      Bootstrapped config mechanism (.error e) (opened config id u
        ++ [.socket id (.shutdown answer), .engineClosed id])

/-- The trace of a greeting, however it ends: its calls are all on the one
socket, the header is all that the client wants to send, and nobody has shut
the socket down. -/
theorem greet_dialogue [Wire σ] (config : RemoteConfig) {id : Nat}
    {wire : σ} {r : Except AuthError Unit} {k : Link Client σ} {t : List Event}
    (h : (greet mechanism).run
      (ofLine id config.negotiationTimeout ⟨Client.fresh, wire⟩) = ⟨r, k, t⟩) :
    ∃ l u, k.line = some l ∧ k.id = id ∧ t = u.map (.socket id)
      ∧ sent u ++ l.engine.outbound = Header.sasl.encode
      ∧ ∀ answer, .shutdown answer ∉ u := by
  have hknown : Known config (fun _ us => frames us = []) k
      (opened config id [] ++ t) := by
    have hends := ends_greet config mechanism id wire
    cases r with
    | ok done => exact (hends.of_ok h).imp fun _ _ hc => hc.1.unsaid
    | error e => exact hends.of_error h
  obtain ⟨l, u, hl, ⟨us, hwork, hunsaid⟩, htrace⟩ := hknown
  simp only [opened, List.map_nil, List.cons_append, List.nil_append,
    List.cons.injEq, Event.connect.injEq, Except.ok.injEq, true_and] at htrace
  obtain ⟨rfl, rfl⟩ := htrace
  exact ⟨l, u, hl, rfl, rfl, hwork.unsaid hunsaid, hwork.unshut⟩

/-- An end of a greeting that the offer of the server decided, and the client
then. -/
theorem greet_verdict [Wire σ] {id : Nat} {wire : σ}
    {timeout : Option Duration} {r : Except AuthError Unit}
    {k : Link Client σ} {l : Line Client σ} {u : List SocketEvent}
    (h : (greet mechanism).run (ofLine id timeout ⟨Client.fresh, wire⟩) =
      ⟨r, k, u.map (.socket id)⟩) (hl : k.line = some l)
    (decided : r = .ok () ∨ ∃ requested offered,
      r = .error (.mechanismNotOffered requested offered)) :
    ∃ names, r = (if mechanism ∈ names then .ok ()
        else .error (.mechanismNotOffered mechanism names))
      ∧ Streams [.mechanisms names] (received u)
      ∧ sent u = Header.sasl.encode ∧ l.engine.progress = .idle := by
  rcases greet_cases h with ⟨e, rfl, hother⟩ | ⟨names, c, b, hr, hc, htrans⟩
  · rcases decided with hok | ⟨requested, offered, he⟩
    · cases hok
    · exact absurd (Except.error.inj he) (hother requested offered)
  · have hcalls := Event.calls_socket id u
    have hengine : l.engine = c := by
      have hline := htrans.engine
      rw [hl] at hline
      exact Option.some.inj hline
    refine ⟨names, hr, ?_, ?_, ?_⟩
    · rw [← hcalls]
      exact htrans.heard.streams (List.cons_ne_nil _ _)
    · rw [← hcalls]
      exact htrans.written
    · rw [hengine, hc]
      rfl

/-- Setting up a link, whatever the connector, the socket and the server do.
There is a link only if the server offered the mechanism, in a frame of its own
behind its header, and then it is at its start. Otherwise nobody needs to care
for the socket: there is none, or it has been shut down, after some of the
header was written. -/
theorem bootstrap_exact [Connector κ σ] [Wire σ] (config : RemoteConfig)
    (mechanism : String) (s : κ) :
    let r := (bootstrap Client.fresh config mechanism :
      Act Event κ AuthError (Link Client σ)).run s
    Bootstrapped config mechanism r.result r.events := by
  rcases hr : (bootstrap Client.fresh config mechanism :
    Act Event κ AuthError (Link Client σ)).run s with ⟨r, s', t⟩
  show Bootstrapped config mechanism r t
  rcases bootstrap_cases hr with ⟨kind, rfl, rfl⟩
    | ⟨id, wire, _, k, t, -, hg, ⟨rfl, rfl, rfl⟩ | ⟨e, rfl, rfl, rfl⟩⟩
  · simp only [IoKind.isTimeout_iff]
    exact .refused kind
  · obtain ⟨l, u, hl, rfl, rfl, -, hunshut⟩ := greet_dialogue config hg
    -- the dialogue alone does not tell why it ended, the verdict does
    obtain ⟨names, hverdict, hheard, hsent, hidle⟩ :=
      greet_verdict hg hl (.inl rfl)
    split at hverdict
    · rename_i hmem
      exact .ready hl hidle hheard hmem hsent hunshut
    · cases hverdict
  · obtain ⟨l, u, hl, rfl, rfl, hsent, hunshut⟩ := greet_dialogue config hg
    rw [run_close hl]
    refine .closed ⟨_, hsent⟩ hunshut ?_ _
    intro requested offered he
    subst he
    obtain ⟨names, hverdict, hheard, -, -⟩ :=
      greet_verdict hg hl (.inr ⟨_, _, rfl⟩)
    split at hverdict
    · cases hverdict
    · rename_i hmem
      cases hverdict
      exact ⟨rfl, hheard, hmem⟩

-- The protocol's name, its number for SASL, and version 1.0.0.
example : Header.sasl.encode = [0x41, 0x4d, 0x51, 0x50, 3, 1, 0, 0] := by
  decide

end Link

end SaslGate
