/-
What a client ever queues for the server: its protocol header at most once,
and whole frames, each behind its size.

# The header and the frames

A client that opens the connection before it says anything has its header
first and its frames behind it (`HeaderFirst`). The guard of the frames does
not ask for as much: it is content once the server's header has come, although
the client's own has not been queued then. A frame that is queued there is
premature; it overtakes the header, and stays in front of it.

`Spoken` says where every frame went, and each call keeps it, with the
premature frames of the call in front and its other frames behind
(`Spoken.step`). Premature frames show in the bytes, because the size of a
frame begins with a zero and the header does not (`Utters.head`).
-/
import SaslGate.Proofs.Client.Exchange
import SaslGate.Proofs.Transcript
import SaslGate.Rehearsal.Scene

namespace SaslGate

-- ============================================================ the vocabulary

/-- A frame that a client sends. -/
def Frame.IsRequest (f : Frame) : Prop :=
  f.performative = .init ∨ f.performative = .response

/-- The bytes of whole frames of a client, one after the other. -/
structure Requests (fs : List Frame) (bytes : Bytes) : Prop where
  requests : ∀ f ∈ fs, Frame.IsRequest f
  utters : Utters fs bytes

theorem requests_nil : Requests [] [] := ⟨nofun, .nil⟩

theorem Requests.snoc {fs : List Frame} {raw bytes : Bytes} {f : Frame}
    (h : Requests fs raw) (hf : f.IsRequest)
    (sized : Client.sized f = .ok bytes) :
    Requests (fs ++ [f]) (raw ++ bytes) :=
  ⟨List.forall_mem_append.2
    ⟨h.requests, List.forall_mem_singleton.2 hf⟩, h.utters.snoc sized⟩

/-- Nothing at all, or the protocol header and whole frames behind it. -/
def HeaderFirst (bytes : Bytes) : Prop :=
  bytes = [] ∨ ∃ fs raw, Requests fs raw ∧ bytes = Header.sasl.encode ++ raw

/-- The frame that the client queued, if it was the client's turn. -/
def Turn.said? : Turn → Option Frame
  | said f => some f
  | heard _ => none

/-- The bytes that a call adds at the end of the queue. -/
def ClientCall.queued (k : ClientCall) (c : Client) : Bytes :=
  (k.step c).2.outbound.drop c.outbound.length

namespace Client

/-- All bytes that calls ever add to the queue, in order. -/
def queued (c : Client) : List ClientCall → Bytes
  | [] => []
  | k :: calls => k.queued c ++ (k.step c).2.queued calls

/-- The frames among turns that the client queues while the server's header
has come and its own has not been queued. -/
def overtaking (c : Client) (us : List Turn) : List Frame :=
  if c.connection = .headerReceived then us.filterMap Turn.said? else []

/-- The frames of calls that are queued too early. -/
def premature (c : Client) : List ClientCall → List Frame
  | [] => []
  | k :: calls =>
    c.overtaking (k.turns c) ++ (k.step c).2.premature calls

section Queues

variable {c c' : Client} {us : List Turn} {k : ClientCall} {f : Frame}
  {early said : List Frame} {bytes raw : Bytes}

-- ================================================================= the queue

/-- What is left of a queue shows nothing new. -/
theorem drop_length_of_suffix {rest bytes : Bytes} (h : rest <:+ bytes) :
    rest.drop bytes.length = [] :=
  List.drop_eq_nil_of_le h.length_le

/-- A call takes bytes from the front of the queue, or it adds bytes at its
end. Either way the rest stays as it is. -/
theorem Moves.outbound (h : Moves c k us c') :
    c'.outbound <:+ c.outbound
    ∨ c'.outbound = c.outbound ++ c'.outbound.drop c.outbound.length := by
  cases h with
  | stay => exact .inl List.suffix_rfl
  | greet unsent => exact .inr (by rw [List.drop_left])
  | init free offered idle sized => exact .inr (by rw [List.drop_left])
  | response free stepping sized => exact .inr (by rw [List.drop_left])
  | giveUp free stepping => exact .inl List.suffix_rfl
  | @hear _ _ d _ _ unended accepted onward behind bounded =>
    have hsame : d.outbound = c.outbound := outbound_of_acceptAll accepted
    exact .inl (hsame ▸ List.suffix_rfl)
  | take => exact .inl List.suffix_rfl
  | consume n => exact .inl (List.drop_suffix n _)
  | close unended => exact .inl List.nil_suffix

/-- The bytes that a call adds are all that is new in the queue. -/
theorem outbound_step (k : ClientCall) (c : Client) :
    ∃ kept, kept <:+ c.outbound
      ∧ (k.step c).2.outbound = kept ++ k.queued c := by
  rcases Moves.outbound (moves_step k c) with htaken | hadded
  · refine ⟨(k.step c).2.outbound, htaken, ?_⟩
    rw [ClientCall.queued, drop_length_of_suffix htaken, List.append_nil]
  · exact ⟨c.outbound, List.suffix_rfl, hadded⟩

-- =========================================================== what was queued

/-- What a client has queued so far: the frames `said`, of which `early` are
in front of its header, which may still be to come. -/
inductive Spoken (c : Client) : List Frame → List Frame → Bytes → Prop
  | unopened {early : List Frame} {raw : Bytes}
      (unsent : c.connection ≠ .headerSent ∧ c.connection ≠ .headerExchange)
      (front : Requests early raw) : Spoken c early early raw
  | opened {early late : List Frame} {raw raw' : Bytes}
      (sent : c.connection ≠ .start ∧ c.connection ≠ .headerReceived)
      (front : Requests early raw) (back : Requests late raw') :
      Spoken c early (early ++ late) (raw ++ (Header.sasl.encode ++ raw'))

/-- A client that has not spoken has neither header nor frames out. -/
theorem spoken_fresh : fresh.Spoken [] [] [] :=
  .unopened ⟨by decide, by decide⟩ requests_nil

/-- Nothing but the connection says where the next frame goes, and what the
server sends leaves that as it is. -/
theorem Spoken.quiet (h : c.Spoken early said bytes)
    (hk : c.connection.Onward c'.connection ∨ c'.connection = .ended) :
    c'.Spoken early said bytes := by
  cases h with
  | unopened unsent front =>
    refine .unopened ?_ front
    rcases hk with honward | hended
    · generalize c.connection = k, c'.connection = k' at honward unsent ⊢
      cases honward with
      | stay => exact unsent
      | first => exact ⟨by decide, by decide⟩
      | second => exact absurd rfl unsent.1
    · rw [hended]
      exact ⟨by decide, by decide⟩
  | opened sent front back =>
    refine .opened ?_ front back
    rcases hk with honward | hended
    · generalize c.connection = k, c'.connection = k' at honward sent ⊢
      cases honward with
      | stay => exact sent
      | first => exact absurd rfl sent.1
      | second => exact ⟨by decide, by decide⟩
    · rw [hended]
      exact ⟨by decide, by decide⟩

/-- The header is queued behind the frames that came before it. -/
theorem Spoken.greet (h : c.Spoken early said bytes)
    (hk : c.connection = .start ∨ c.connection = .headerReceived)
    (hk' : c'.connection = .headerSent ∨ c'.connection = .headerExchange) :
    c'.Spoken early said (bytes ++ Header.sasl.encode) := by
  cases h with
  | unopened unsent front =>
    have hsent : c'.connection ≠ .start ∧ c'.connection ≠ .headerReceived := by
      rcases hk' with hk' | hk' <;> rw [hk'] <;> exact ⟨by decide, by decide⟩
    have := Spoken.opened hsent front requests_nil
    rwa [List.append_nil, List.append_nil] at this
  | opened sent front back =>
    rcases hk with hk | hk
    · exact absurd hk sent.1
    · exact absurd hk sent.2

/-- A frame is queued behind all that was queued before. -/
theorem Spoken.say (h : c.Spoken early said bytes)
    (free : c.sendingBlocked = none) (hf : f.IsRequest)
    (sized : Client.sized f = .ok raw)
    (hk : c'.connection = c.connection) :
    c'.Spoken (early ++ c.overtaking [.said f]) (said ++ [f])
      (bytes ++ raw) := by
  cases h with
  | unopened unsent front =>
    have hopen := open_of_free free
    -- open, with the header unsent: then the server's came first
    have hreceived : c.connection = .headerReceived := by
      cases hc : c.connection <;> simp_all
    rw [overtaking, if_pos hreceived]
    exact .unopened (hk ▸ unsent) (front.snoc hf sized)
  | opened sent front back =>
    rw [overtaking, if_neg sent.2, List.append_nil, List.append_assoc,
      List.append_assoc, List.append_assoc]
    exact .opened (hk ▸ sent) front (back.snoc hf sized)

/-- Every call puts its frames where they belong. -/
theorem Spoken.step (h : c.Spoken early said bytes) (hm : Moves c k us c') :
    c'.Spoken (early ++ c.overtaking us) (said ++ us.filterMap Turn.said?)
      (bytes ++ c'.outbound.drop c.outbound.length) := by
  -- all calls but the sending ones leave the bytes alone
  have silent : us.filterMap Turn.said? = [] →
      c'.outbound.drop c.outbound.length = [] →
      (c.connection.Onward c'.connection ∨ c'.connection = .ended) →
      c'.Spoken (early ++ c.overtaking us) (said ++ us.filterMap Turn.said?)
        (bytes ++ c'.outbound.drop c.outbound.length) := by
    intro hus hout hk
    rw [overtaking, hus, hout, ite_self, List.append_nil, List.append_nil,
      List.append_nil]
    exact h.quiet hk
  cases hm with
  | stay => exact silent rfl (List.drop_length) (.inl (.stay _))
  | greet unsent =>
    rw [overtaking, List.filterMap_nil, ite_self, List.append_nil,
      List.append_nil, List.drop_left]
    rcases unsent with ⟨hk, rfl⟩ | ⟨hk, rfl⟩
    · exact h.greet (.inl hk) (.inl rfl)
    · exact h.greet (.inr hk) (.inr rfl)
  | init free offered idle sized =>
    rw [List.drop_left]
    exact h.say free (.inl rfl) sized rfl
  | response free stepping sized =>
    rw [List.drop_left]
    exact h.say free (.inr rfl) sized rfl
  | giveUp free stepping =>
    exact silent rfl (List.drop_length) (.inl (.stay _))
  | @hear _ fs d k r unended accepted onward behind bounded =>
    refine silent ?_ ?_ (.inl onward)
    · rw [List.filterMap_map]
      exact List.filterMap_eq_nil_iff.2 fun f _ => rfl
    · rw [placed, outbound_of_acceptAll accepted, List.drop_length]
  | take => exact silent rfl (List.drop_length) (.inl (.stay _))
  | consume n =>
    exact silent rfl (drop_length_of_suffix (List.drop_suffix n _))
      (.inl (.stay _))
  | close unended => exact silent rfl List.drop_nil (.inr rfl)

/-- By induction on the calls: each adds its premature frames in front and its
other frames behind. -/
theorem Spoken.after (h : c.Spoken early said bytes)
    (calls : List ClientCall) :
    (c.after calls).Spoken (early ++ c.premature calls)
      (said ++ (c.turns calls).filterMap Turn.said?)
      (bytes ++ c.queued calls) := by
  induction calls generalizing c early said bytes with
  | nil =>
    rw [premature, queued, turns_nil, List.filterMap_nil, List.append_nil,
      List.append_nil, List.append_nil]
    exact h
  | cons k calls ih =>
    rw [premature, queued, turns_cons, List.filterMap_append,
      ← List.append_assoc, ← List.append_assoc, ← List.append_assoc]
    exact ih (h.step (moves_step k c))

/-- Everything that was ever queued is told by the calls. -/
theorem spoken_after (calls : List ClientCall) :
    (fresh.after calls).Spoken (fresh.premature calls)
      ((fresh.turns calls).filterMap Turn.said?) (fresh.queued calls) :=
  spoken_fresh.after calls

end Queues

end Client

-- ============================================================ the first byte

/-- A frame behind its size is short. -/
theorem Client.sized_inv {f : Frame} {bytes : Bytes}
    (h : Client.sized f = .ok bytes) :
    ∃ body : Bytes, body.length + 4 ≤ Client.maxFrameSize
      ∧ bytes = bigEndian32 (body.length + 4) ++ body := by
  unfold Client.sized at h
  split at h
  · cases h
  · split at h
    · cases h
    · rename_i hencode
      cases h
      exact ⟨_, Sized.encode_eq_ok.1 hencode⟩

/-- A frame begins with a zero, because it is short. -/
theorem Utters.head {f : Frame} {fs : List Frame} {bytes : Bytes}
    (h : Utters (f :: fs) bytes) : bytes.head? = some 0 := by
  cases h with
  | @cons _ _ head rest sized tail =>
    obtain ⟨body, hlen, rfl⟩ := Client.sized_inv sized
    have hmax : Client.maxFrameSize = 512 := rfl
    have hzero : (body.length + 4) / 16777216 = 0 :=
      Nat.div_eq_of_lt (by omega)
    simp [bigEndian32, hzero]

/-- Bytes that begin with a frame do not begin with the header. -/
theorem HeaderFirst.not_utters {f : Frame} {fs : List Frame}
    {raw more : Bytes} (h : Utters (f :: fs) raw) :
    ¬ HeaderFirst (raw ++ more) := by
  have hhead : (raw ++ more).head? = some 0 := by
    rw [List.head?_append, h.head]
    rfl
  rintro (hnil | ⟨gs, rest, -, hbytes⟩)
  · rw [hnil] at hhead
    cases hhead
  · rw [hbytes] at hhead
    cases hhead

namespace Client

section Ends

variable {c : Client} {early said : List Frame} {bytes : Bytes}

/-- The header, once it is there, stands behind the frames that came before
it and in front of the others. -/
theorem Spoken.layout (h : c.Spoken early said bytes) :
    ∃ raw, Requests early raw
      ∧ ((said = early ∧ bytes = raw)
        ∨ ∃ late raw', Requests late raw' ∧ said = early ++ late
          ∧ bytes = raw ++ (Header.sasl.encode ++ raw')) := by
  cases h with
  | unopened unsent front => exact ⟨_, front, .inl ⟨rfl, rfl⟩⟩
  | opened sent front back => exact ⟨_, front, .inr ⟨_, _, back, rfl, rfl⟩⟩

/-- The header is first exactly if no frame came before it. -/
theorem Spoken.headerFirst_iff (h : c.Spoken early said bytes) :
    HeaderFirst bytes ↔ early = [] := by
  obtain ⟨raw, front, hbytes⟩ := h.layout
  cases early with
  | nil =>
    refine iff_of_true ?_ rfl
    cases front.utters
    rcases hbytes with ⟨-, rfl⟩ | ⟨late, raw', back, -, rfl⟩
    · exact .inl rfl
    · exact .inr ⟨late, raw', back, rfl⟩
  | cons f fs =>
    refine iff_of_false ?_ nofun
    rcases hbytes with ⟨-, rfl⟩ | ⟨late, raw', back, -, rfl⟩
    · rw [← List.append_nil bytes]
      exact HeaderFirst.not_utters front.utters
    · -- a frame stands at the front, and no frame begins like a header
      exact HeaderFirst.not_utters front.utters

end Ends

/-- What a client queues, over every run of calls. The queue grows at its
end and is used up from its front. All bytes that are ever added to it are
the frames that the client said, whole and in order, with the header behind
those that were premature, once it is queued at all. So the header is first
exactly if no frame was premature. -/
theorem header_first_exact (calls : List ClientCall) :
    (∀ k : ClientCall, ∃ kept, kept <:+ (fresh.after calls).outbound
      ∧ (k.step (fresh.after calls)).2.outbound
        = kept ++ k.queued (fresh.after calls))
    ∧ (∃ raw, Requests (fresh.premature calls) raw
      ∧ (((fresh.turns calls).filterMap Turn.said? = fresh.premature calls
          ∧ fresh.queued calls = raw)
        ∨ ∃ late raw', Requests late raw'
          ∧ (fresh.turns calls).filterMap Turn.said?
            = fresh.premature calls ++ late
          ∧ fresh.queued calls = raw ++ (Header.sasl.encode ++ raw')))
    ∧ (HeaderFirst (fresh.queued calls) ↔ fresh.premature calls = []) := by
  have hspoken := spoken_after calls
  refine ⟨fun k => outbound_step k _, hspoken.layout, hspoken.headerFirst_iff⟩

end Client

-- ============================================================= a rehearsal

namespace Rehearsal

open Client

/-- A client that hears the server before it opens, chooses, and opens. -/
def hasty : List ClientCall :=
  [.feed (Header.sasl.encode ++ frames [.mechanisms ["PLAIN"]]),
    .sendInit "PLAIN" none [0, 117, 0, 112], .sendHeader]

/-- The header is not first in every run: a frame may overtake it. -/
theorem frame_overtakes_header :
    ¬ ∀ calls : List ClientCall, HeaderFirst (fresh.queued calls) := by
  intro hall
  have hhead : (fresh.queued hasty).head? = some 0 := by decide +kernel
  rcases hall hasty with hnil | ⟨fs, raw, -, hbytes⟩
  · rw [hnil] at hhead
    cases hhead
  · rw [hbytes] at hhead
    cases hhead

end Rehearsal

end SaslGate
