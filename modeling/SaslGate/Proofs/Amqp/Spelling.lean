/-
The performative of a frame and how it is spelled. A descriptor may hold the
number of its performative in one byte or in eight, or its symbol behind a
length of one byte or of four. All four say the same, whatever follows them, and
nothing else in front of a list is a descriptor of it (`spelling_indifferent`).

The two sides of this are an equation on bodies that begin with a descriptor
(`Body.frame_spelled`) and an inversion of bodies that say something
(`Body.frame_eq_ok`).
-/
import SaslGate.Proofs.Amqp.Label
import SaslGate.Proofs.Amqp.RoundTrip

namespace SaslGate

open Value

-- ==================================================================== bodies

namespace Body

open Label

variable {p : Performative}

/-- The fields of a performative make a frame of that performative. -/
theorem gives_fields (p : Performative) (n : Nat) :
    Gives (fields p n) fun f => f.performative = p := by
  cases p with
  | mechanisms | challenge | response =>
    exact .bind (.any _) fun _ _ => .pure rfl
  | init =>
    exact .bind (.any _) fun _ _ => .bind (.any _) fun _ _ =>
      .bind (.any _) fun _ _ => .pure rfl
  | outcome =>
    exact .bind (.any _) fun _ _ => .bind (.any _) fun _ _ => .pure rfl

/-- What is in front of the list and how its descriptor is spelled make no
difference to a body. -/
theorem frame_spelled {lead d : Bytes} (hlead : Ahead p lead)
    (hd : d ∈ descriptors p) (list : Bytes) :
    frame (lead ++ (d ++ list)) = (listCount >>= fields p) list := by
  obtain ⟨label, hnames, hread⟩ := reads_spelled hd
  have hlist : listOf p (d ++ list) = listCount list := by
    unfold listOf
    rw [bind_of_ok (hread list)]
    show (listCount list >>= fun q => _) = listCount list
    simp only [if_pos hnames]
    cases listCount list <;> rfl
  unfold frame
  rw [bind_of_ok (announced_of_ahead hlead hd list)]
  show (listOf p (d ++ list) >>= fun q => fields p q.1 q.2) = _
  rw [hlist]
  rfl

/-- A body that says something is the fields of a performative in a list, behind
a descriptor of it. -/
theorem frame_eq_ok {f : Frame} {input rest : Bytes}
    (h : frame input = .ok (f, rest)) :
    ∃ lead d list, Ahead f.performative lead ∧ d ∈ descriptors f.performative
      ∧ input = lead ++ (d ++ list) := by
  obtain ⟨p, mid, hannounced, h⟩ := bind_eq_ok h
  obtain ⟨n, tail, hlist, hfields⟩ := bind_eq_ok h
  obtain ⟨label, list, hdescriptor, hcounted⟩ := bind_eq_ok hlist
  obtain ⟨count, tail', hcount, hnames⟩ := bind_eq_ok hcounted
  have hp := gives_fields p n _ f rest hfields
  subst hp
  split at hnames
  next hnamed =>
    obtain ⟨lead, hlead, rfl⟩ := announced_eq_ok hannounced
    obtain ⟨d, hd, rfl⟩ := mem_descriptors_of_read hdescriptor hnamed
    exact ⟨lead, d, list, hlead, hd, rfl⟩
  next => cases hnames

end Body

namespace Frame

open Label

/-- Frames with the same header are alike as far as their bodies are. The
channel is not looked at. -/
theorem decode_congr {body body' : Bytes}
    (h : Body.frame body = Body.frame body') (offset type a b a' b' : UInt8) :
    decode (offset :: type :: a :: b :: body)
      = decode (offset :: type :: a' :: b' :: body') := by
  simp only [decode, h]

/-- Only two bytes of the header are looked at, and both have one value. -/
theorem header_of_decode {bytes : Bytes} {f : Frame}
    (h : decode bytes = .ok f) :
    ∃ a b body rest, bytes = 0x02 :: 0x01 :: a :: b :: body
      ∧ Body.frame body = .ok (f, rest) := by
  obtain ⟨rest, hframe⟩ := frame_of_decode h
  unfold decode at h
  split at h
  next offset type a b body =>
    split at h
    next => cases h
    next htype =>
      split at h
      next => cases h
      next hoffset =>
        rw [Decidable.not_not] at htype hoffset
        subst htype hoffset
        exact ⟨a, b, body, rest, rfl, hframe⟩
  next => cases h

/-- What a frame says depends on its performative and on the bytes behind the
descriptor. The spelling of the descriptor, what stands in front of it and the
two bytes that end the header make no difference, neither to a frame nor to an
error. What says anything has data offset two and frame type one, and one of the
four spellings of the performative that it is. A header is refused before the
body is looked at: for its length, else for its type, else for its offset. -/
theorem spelling_indifferent :
    (∀ (p : Performative) (lead lead' d d' list : Bytes)
        (offset type a b a' b' : UInt8), Ahead p lead → Ahead p lead' →
      d ∈ descriptors p → d' ∈ descriptors p →
      decode (offset :: type :: a :: b :: (lead ++ (d ++ list)))
        = decode (offset :: type :: a' :: b' :: (lead' ++ (d' ++ list))))
    ∧ (∀ (bytes : Bytes) (f : Frame), decode bytes = .ok f →
      ∃ a b lead d list, Ahead f.performative lead
        ∧ d ∈ descriptors f.performative
        ∧ bytes = 0x02 :: 0x01 :: a :: b :: (lead ++ (d ++ list)))
    ∧ (∀ short : Bytes, short.length < 4 →
      decode short = .error (.truncated short.length))
    ∧ (∀ (offset type a b : UInt8) (body : Bytes), type ≠ 0x01 →
      decode (offset :: type :: a :: b :: body)
        = .error (.unexpectedFrameType type))
    ∧ ∀ (offset a b : UInt8) (body : Bytes), offset ≠ 0x02 →
      decode (offset :: 0x01 :: a :: b :: body)
        = .error (.unsupportedDataOffset offset) := by
  refine ⟨?_, ?_, ?_, ?_, ?_⟩
  · intro p lead lead' d d' list offset type a b a' b' hlead hlead' hd hd'
    refine decode_congr ?_ offset type a b a' b'
    -- both bodies are what their list says
    rw [Body.frame_spelled hlead hd, Body.frame_spelled hlead' hd']
  · intro bytes f h
    obtain ⟨a, b, body, rest, rfl, hframe⟩ := header_of_decode h
    obtain ⟨lead, d, list, hlead, hd, rfl⟩ := Body.frame_eq_ok hframe
    exact ⟨a, b, lead, d, list, hlead, hd, rfl⟩
  · intro short hshort
    unfold decode
    split
    next =>
      simp only [List.length_cons] at hshort
      omega
    next => rfl
  · intro offset type a b body htype
    exact if_pos htype
  · intro offset a b body hoffset
    exact if_pos hoffset

end Frame

end SaslGate

-- ============================================================= a rehearsal

namespace SaslGate.Rehearsal

open SaslGate.Frame SaslGate.Label

/-- The list of a response of one byte, with two bytes behind it. -/
def oneByteList : Bytes := [0xc0, 0x03, 0x01, 0xa0, 0x01, 0x78, 0xff, 0xff]

/-- The short descriptor of a response is read, so the long symbol is, behind a
map that names the response once more. The same header with another type is
refused for its type. -/
theorem spelling_indifferent_rehearsal :
    decode (0x02 :: 0x01 :: 7 :: 7 :: ([0xc1, 0x00, 0x00, 0x52, 0x43]
      ++ ([0x00, 0xb3, 0, 0, 0, 23] ++ Utf8.encode "amqp:sasl-response:list"
        ++ oneByteList))) = .ok (.response [0x78])
    ∧ (∃ a b lead d list, Ahead .response lead ∧ d ∈ descriptors .response
      ∧ [0x02, 0x01, 0x00, 0x00, 0x00, 0x53, 0x43] ++ oneByteList
        = 0x02 :: 0x01 :: a :: b :: (lead ++ (d ++ list)))
    ∧ decode [0x02, 0x01] = .error (.truncated 2)
    ∧ decode [0x09, 0x00, 0x00, 0x00] = .error (.unexpectedFrameType 0x00)
    ∧ decode [0x09, 0x01, 0x00, 0x00]
      = .error (.unsupportedDataOffset 0x09) := by
  obtain ⟨hsame, hspelled, hshort, htype, hoffset⟩ := spelling_indifferent
  have hplain : decode (0x02 :: 0x01 :: 0 :: 0 :: ([] ++ ([0x00, 0x53, 0x43]
      ++ oneByteList))) = .ok (.response [0x78]) := rfl
  have hnone : Ahead .response [] := ⟨[], [], .none, .inl rfl, rfl⟩
  have hmap : Ahead .response [0xc1, 0x00, 0x00, 0x52, 0x43] :=
    ⟨[0xc1, 0x00, 0x00], [0x52, 0x43], .short rfl (.inr rfl),
      .inr (by decide), rfl⟩
  refine ⟨?_, hspelled _ _ hplain, hshort _ (by decide), ?_, ?_⟩
  · rw [hsame .response _ [] _ [0x00, 0x53, 0x43] _ 2 1 7 7 0 0 hmap hnone
      (by decide) (by decide)]
    exact hplain
  · exact htype _ _ _ _ _ (by decide)
  · exact hoffset _ _ _ _ (by decide)

end SaslGate.Rehearsal
