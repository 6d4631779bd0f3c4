/-
Frames between bytes and their meaning. The codec is a round trip in both
directions: a frame that is written is read back, whatever bytes follow it
(`Body.reads_write`), and what any bytes say can be written, and says the
same again. The first comes from the readers of the fields, each taking what
its writer gave; the second from the first, once a body that was read is
known to stay below the length at which lengths overflow
(`Body.affords_frame`).
-/
import SaslGate.Amqp.Frame
import SaslGate.Proofs.Amqp.Growth

namespace SaslGate.Body

open Value

-- ========================================================= written bodies

/-- The fields of a frame are read back from what is written of them. -/
theorem reads_fields {f : Frame} (offers : f ≠ .mechanisms [])
    (h : (listContent (fieldsOf f)).length < 4294967296) :
    Reads (fields f.performative (withoutTail (fieldsOf f)).length)
      (listContent (fieldsOf f)) f := by
  -- every field is shorter than the list it stands in
  have hfits {w : Bytes} (hw : some w ∈ fieldsOf f) : w.length < 4294967296 :=
    Nat.lt_of_le_of_lt (length_le_length_listContent hw) h
  cases f with
  | mechanisms names =>
    have hnames := spells_writeSymbols (by simpa using offers)
      (hfits (List.mem_singleton_self _))
    exact (reads_mandatory Nat.one_ne_zero hnames).bind (Reads.pure _)
  | init mechanism initialResponse hostname =>
    have hmechanism := spells_writeSymbol (hfits List.mem_cons_self)
    have hresponse : ∀ data, initialResponse = some data →
        Spells binary (writeBinary data) data := by
      rintro data rfl
      exact spells_writeBinary (hfits (by simp [fieldsOf]))
    have hhostname : ∀ s, hostname = some s →
        Spells string (writeString s) s := by
      rintro s rfl
      exact spells_writeString (hfits (by simp [fieldsOf]))
    have hleft := length_withoutTail_sub_one (initialResponse.map writeBinary)
      [hostname.map writeString]
    refine (reads_mandatory (Nat.succ_ne_zero _) hmechanism).bind ?_
    refine reads_optional_bind hresponse ?_
    show Reads (do
      let host ← optional ((withoutTail [initialResponse.map writeBinary,
        hostname.map writeString]).length - 1) string
      return Frame.init mechanism initialResponse host) _ _
    rw [hleft]
    exact reads_optional_bind hhostname (Reads.pure _)
  | challenge data =>
    have hdata := spells_writeBinary (hfits (List.mem_singleton_self _))
    exact (reads_mandatory Nat.one_ne_zero hdata).bind (Reads.pure _)
  | response data =>
    have hdata := spells_writeBinary (hfits (List.mem_singleton_self _))
    exact (reads_mandatory Nat.one_ne_zero hdata).bind (Reads.pure _)
  | outcome c additionalData =>
    have hdata : ∀ data, additionalData = some data →
        Spells binary (writeBinary data) data := by
      rintro data rfl
      exact spells_writeBinary (hfits (by simp [fieldsOf]))
    refine (reads_mandatory (Nat.succ_ne_zero _) (spells_writeCode c)).bind ?_
    exact reads_optional_bind hdata (Reads.pure _)

/-- The descriptor of a written body names its performative. -/
theorem reads_descriptor (p : Performative) :
    Reads Label.descriptor [0x00, 0x53, p.code] (.number p.code.toNat) := by
  intro rest
  cases p <;> rfl

/-- The descriptor and the head of a list are read back together. -/
theorem reads_listOf (f : Frame) :
    Reads (listOf f.performative)
      ([0x00, 0x53, f.performative.code] ++ listHead (fieldsOf f))
      (withoutTail (fieldsOf f)).length := by
  have hfew : (fieldsOf f).length ≤ 255 := by
    cases f <;> simp [fieldsOf]
  have hnamed : (Label.number f.performative.code.toNat).performative?
      = some f.performative := by
    cases f.performative <;> rfl
  refine (reads_descriptor _).bind ((reads_listHead hfew).andThen ?_)
  rw [if_pos hnamed]
  exact Reads.pure _

/-- A body that begins with its descriptor is announced by it, and stays as it
is. -/
theorem announced_descriptor (p : Performative) (rest : Bytes) :
    Label.announced (0x00 :: 0x53 :: p.code :: rest)
      = .ok (p, 0x00 :: 0x53 :: p.code :: rest) := by
  cases p <;> rfl

/-- A body is its descriptor, the head of its list and the fields. -/
theorem write_eq (f : Frame) :
    write f = [0x00, 0x53, f.performative.code] ++ listHead (fieldsOf f)
      ++ listContent (fieldsOf f) := by
  rw [write, writeList_eq]
  rfl

/-- A written body is read back, whatever follows it. -/
theorem reads_write {f : Frame} (offers : f ≠ .mechanisms [])
    (h : (write f).length < 4294967296) : Reads frame (write f) f := by
  have hcontent : (listContent (fieldsOf f)).length < 4294967296 := by
    rw [write_eq, List.length_append] at h
    omega
  have hlist : Reads (listOf f.performative >>= fields f.performative)
      (write f) f := by
    rw [write_eq]
    exact (reads_listOf f).bind (reads_fields offers hcontent)
  intro rest
  have hannounced : Label.announced (write f ++ rest)
      = .ok (f.performative, write f ++ rest) :=
    announced_descriptor _ _
  show (Label.announced (write f ++ rest) >>= fun p =>
    (listOf p.1 >>= fields p.1) p.2) = .ok (f, rest)
  rw [hannounced]
  exact hlist rest

-- ============================================================ read bodies

/-- The lengths that the values of a frame take when they are written. -/
def cost : Frame → Nat
  | .mechanisms names => (writeSymbols names).length
  | .init mechanism initialResponse hostname =>
    (writeSymbol mechanism).length
      + ofOption (fun data => (writeBinary data).length) initialResponse
      + ofOption (fun s => (writeString s).length) hostname
  | .challenge data => (writeBinary data).length
  | .response data => (writeBinary data).length
  | .outcome c additionalData =>
    (writeCode c).length
      + ofOption (fun data => (writeBinary data).length) additionalData

/-- An absent field may be written as a null. -/
theorem length_getD_le (write : α → Bytes) (v : Option α) :
    ((v.map write).getD [0x40]).length
      ≤ ofOption (fun a => (write a).length) v + 1 := by
  cases v with
  | none => exact Nat.le_refl 1
  | some a => exact Nat.le_succ _

/-- The values of a frame and a null in each of two places make up what is
written of it. -/
theorem length_listContent_le_cost (f : Frame) :
    (listContent (fieldsOf f)).length ≤ cost f + 2 := by
  have hsum := length_listContent_le (fieldsOf f)
  cases f with
  | init mechanism initialResponse hostname =>
    have := length_getD_le writeBinary initialResponse
    have := length_getD_le writeString hostname
    simp only [fieldsOf, List.flatMap_cons, List.flatMap_nil,
      List.length_append, List.length_nil, Option.getD_some, cost] at *
    omega
  | outcome c additionalData =>
    have := length_getD_le writeBinary additionalData
    simp only [fieldsOf, List.flatMap_cons, List.flatMap_nil,
      List.length_append, List.length_nil, Option.getD_some, cost] at *
    omega
  | mechanisms | challenge | response =>
    simp only [fieldsOf, List.flatMap_cons, List.flatMap_nil,
      List.length_append, List.length_nil, Option.getD_some, cost] at *
    omega

/-- The fields of every performative pay for themselves. -/
theorem affords_fields (p : Performative) (n : Nat) :
    Affords (fields p n) cost := by
  cases p with
  | mechanisms =>
    refine (affords_mandatory n affords_symbolOrArray).bind fun names => ?_
    exact .pure (Nat.sub_self _)
  | init =>
    refine (affords_mandatory n affords_symbol).bind fun mechanism => ?_
    refine (affords_optional _ affords_binary).bind fun response => ?_
    refine (affords_optional _ affords_string).bind fun host => .pure ?_
    simp only [cost]
    omega
  | challenge | response =>
    refine (affords_mandatory n affords_binary).bind fun data => ?_
    exact .pure (Nat.sub_self _)
  | outcome =>
    refine (affords_mandatory n affords_code).bind fun c => ?_
    refine (affords_optional _ affords_binary).bind fun data => .pure ?_
    simp only [cost]
    omega

/-- Descriptor and head pay for the twelve bytes that the long forms of both
need. -/
theorem affords_listOf (p : Performative) :
    Affords (listOf p) fun _ => 12 := by
  refine Label.affords_descriptor.bind fun label => ?_
  refine affords_listCount.bind fun count => ?_
  exact .ite (.pure rfl) (.throw _)

/-- A body is written again with at most four bytes for each that it had when
it was read, and the two nulls. -/
theorem affords_frame : Affords frame fun f => (write f).length - 2 := by
  refine Label.affords_announced.bind fun p => ?_
  refine (affords_listOf p).bind fun n => (affords_fields p n).mono fun f => ?_
  have hcontent := length_listContent_le_cost f
  have hhead := length_listHead_le (fieldsOf f)
  rw [write_eq]
  simp only [List.length_append, List.length_cons, List.length_nil]
  omega

-- ------------------------------------------------- offers that were read

/-- As many symbols are read as were announced. -/
theorem gives_symbols (width n : Nat) :
    Gives (symbols width n) fun names => names.length = n := by
  induction n with
  | zero => exact .pure rfl
  | succ n ih =>
    refine .bind (.any _) fun data _ => .bind (.any _) fun s _ => ?_
    exact ih.bind fun names hlen => .pure (congrArg Nat.succ hlen)

/-- An array that announces no element is refused. -/
theorem gives_symbolArray (width : Nat) :
    Gives (symbolArray width) fun names => names ≠ [] := by
  have hsome {count : Nat} (hcount : count ≠ 0) (width : Nat) :
      Gives (symbols width count) fun names => names ≠ [] :=
    (gives_symbols width count).mono fun names hlen hnil =>
      hcount (hlen.symm.trans (congrArg List.length hnil))
  refine .bind (.any _) fun _ _ => .bind (.any _) fun count _ => ?_
  refine .ite (fun _ => .throw _) fun hcount => .bind (.any _) fun c _ => ?_
  exact .ite (fun _ => hsome hcount 1) fun _ =>
    .ite (fun _ => hsome hcount 4) fun _ => .throw _

/-- So there is always a symbol, be it alone or in an array. -/
theorem gives_symbolOrArray : Gives symbolOrArray fun names => names ≠ [] := by
  have hlone (width : Nat) : Gives (do return [← text (← counted width)])
      fun names => names ≠ [] :=
    .bind (.any _) fun _ _ => .bind (.any _) fun s _ =>
      .pure (List.cons_ne_nil s [])
  refine .bind (.any _) fun c _ => ?_
  exact .ite (fun _ => hlone 1) fun _ => .ite (fun _ => hlone 4) fun _ =>
    .ite (fun _ => gives_symbolArray 1) fun _ =>
    .ite (fun _ => gives_symbolArray 4) fun _ => .throw _

theorem gives_mandatory {value : Reader α} {P : α → Prop} (left : Nat)
    (h : Gives value P) : Gives (mandatory left value) P := by
  have hfield : Gives (field left value) fun v => ∀ a, v = some a → P a := by
    intro bytes v rest hr
    unfold field at hr
    split at hr
    · cases hr
      simp
    · have hsome := h.mono fun b hb a (heq : some b = some a) =>
        Option.some.inj heq ▸ hb
      exact Gives.map (R := fun v => ∀ a, v = some a → P a) some hsome
        bytes v rest hr
  refine hfield.bind fun v hv => ?_
  split
  next a => exact .pure (hv a rfl)
  next => exact .throw _

/-- No body says that there is nothing to choose from. -/
theorem gives_frame : Gives frame fun f => f ≠ .mechanisms [] := by
  refine .bind (.any _) fun p _ => .bind (.any _) fun n _ => ?_
  cases p with
  | mechanisms =>
    refine (gives_mandatory n gives_symbolOrArray).bind fun names hnames => ?_
    exact .pure fun heq => hnames (Frame.mechanisms.inj heq)
  | init =>
    exact .bind (.any _) fun _ _ => .bind (.any _) fun _ _ =>
      .bind (.any _) fun _ _ => .pure Frame.noConfusion
  | challenge | response =>
    exact .bind (.any _) fun _ _ => .pure Frame.noConfusion
  | outcome =>
    exact .bind (.any _) fun _ _ => .bind (.any _) fun _ _ =>
      .pure Frame.noConfusion

end SaslGate.Body

namespace SaslGate.Frame

/-- A frame has a written form unless it offers no mechanism. -/
theorem encode_eq_ok {f : Frame} (offers : f ≠ .mechanisms []) :
    encode f = .ok ([dataOffset, saslType, 0, 0] ++ Body.write f) := by
  unfold encode
  split
  · exact absurd rfl offers
  · rfl

/-- Writing fails for one frame only: the offer of nothing. -/
theorem encode_eq_error_iff {f : Frame} {e : FrameError} :
    encode f = .error e ↔ f = .mechanisms [] ∧ e = .body .malformed := by
  constructor
  · intro h
    by_cases hf : f = .mechanisms []
    · subst hf
      cases h
      exact ⟨rfl, rfl⟩
    · rw [encode_eq_ok hf] at h
      cases h
  · rintro ⟨rfl, rfl⟩
    rfl

/-- Behind the four bytes of a frame's header comes its body. -/
theorem decode_header (body : Bytes) :
    decode ([dataOffset, saslType, 0, 0] ++ body) =
      match Body.frame body with
      | .ok (f, _) => .ok f
      | .error e => .error (.body e) := rfl

/-- What was decoded was the body behind the first four bytes. -/
theorem frame_of_decode {bytes : Bytes} {f : Frame}
    (h : decode bytes = .ok f) :
    ∃ rest, Body.frame (bytes.drop 4) = .ok (f, rest) := by
  unfold decode at h
  split at h
  next offset type _ _ body =>
    split at h
    · cases h
    · split at h
      · cases h
      · split at h
        next g rest hframe =>
          cases h
          exact ⟨rest, hframe⟩
        next => cases h
  next => cases h

/-- What is written is read back, whatever follows it. -/
theorem decode_encode {f : Frame} {bytes : Bytes} (h : encode f = .ok bytes)
    (fits : (Body.write f).length < 4294967296) (rest : Bytes) :
    decode (bytes ++ rest) = .ok f := by
  have hoffers : f ≠ .mechanisms [] := by
    rintro rfl
    cases h
  rw [encode_eq_ok hoffers] at h
  cases h
  rw [List.append_assoc, decode_header, Body.reads_write hoffers fits rest]

/-- The codec is a round trip. Every frame that has a written form, of a body
below 2^32 bytes, is read back from it exactly, whatever bytes follow. Only
the offer of no mechanism has no written form. What any bytes below 2^28 say
has one, and says the same again. -/
theorem round_trip :
    (∀ f bytes, encode f = .ok bytes → (Body.write f).length < 4294967296 →
      ∀ rest, decode (bytes ++ rest) = .ok f)
    ∧ (∀ f e, encode f = .error e ↔
      f = .mechanisms [] ∧ e = .body .malformed)
    ∧ ∀ received f, received.length < 268435456 → decode received = .ok f →
      ∃ bytes, encode f = .ok bytes ∧ (Body.write f).length < 4294967296
        ∧ decode bytes = .ok f := by
  refine ⟨fun f bytes => decode_encode, fun f e => encode_eq_error_iff, ?_⟩
  intro received f hshort h
  obtain ⟨rest, hframe⟩ := frame_of_decode h
  have hoffers := Body.gives_frame _ f rest hframe
  have hcost := Body.affords_frame _ f rest hframe
  have hfits : (Body.write f).length < 4294967296 := by
    simp only [List.length_drop] at hcost
    omega
  have hback := decode_encode (encode_eq_ok hoffers) hfits []
  rw [List.append_nil] at hback
  exact ⟨_, encode_eq_ok hoffers, hfits, hback⟩

end SaslGate.Frame

-- ============================================================= a rehearsal

namespace SaslGate.Rehearsal

open SaslGate.Frame

/-- A choice whose first message is absent and whose host is empty. -/
def namelessInit : Frame := .init "PLAIN" none (some "")

/-- An offer of two mechanisms, the second of them nameless, with lengths of
one byte. -/
def shortOffer : Bytes :=
  [0x02, 0x01, 0x00, 0x00, 0x00, 0x53, 0x40, 0xc0, 0x0b, 0x01,
    0xe0, 0x08, 0x02, 0xa3, 0x05, 0x50, 0x4c, 0x41, 0x49, 0x4e, 0x00]

/-- The absent message is a null that is read back as absent, and the short
offer comes back with long lengths. -/
theorem round_trip_rehearsal :
    (∃ bytes, encode namelessInit = .ok bytes
      ∧ decode (bytes ++ [1, 2, 3]) = .ok namelessInit)
    ∧ encode (.mechanisms []) = .error (.body .malformed)
    ∧ ∃ bytes, decode shortOffer = .ok (.mechanisms ["PLAIN", ""])
      ∧ encode (.mechanisms ["PLAIN", ""]) = .ok bytes
      ∧ shortOffer.length < bytes.length
      ∧ decode bytes = .ok (.mechanisms ["PLAIN", ""]) := by
  obtain ⟨hforth, hrefused, hback⟩ := round_trip
  refine ⟨⟨_, rfl, ?_⟩, (hrefused _ _).2 ⟨rfl, rfl⟩, ?_⟩
  · exact hforth namelessInit _ rfl (by decide) [1, 2, 3]
  · have hread : decode shortOffer = .ok (.mechanisms ["PLAIN", ""]) :=
      rfl
    obtain ⟨bytes, hwritten, -, hsame⟩ := hback _ _ (by decide) hread
    refine ⟨bytes, hread, hwritten, ?_, hsame⟩
    cases hwritten
    decide

end SaslGate.Rehearsal
