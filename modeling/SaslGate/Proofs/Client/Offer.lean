/-
What a client hears of the server's header and offer. They are one reply: a
client that has sent its own header hears of nothing before the last byte of
the offer, wherever the reads cut the two, and then its buffer is empty
(`hears_offer`).

No header or frame is followed here through the reads that bring it. Feeding
is independent of segmentation, so it is enough to know what all the bytes
come to at once, and that none of their beginnings comes to an offer: what
has heard an offer is deaf, and would refuse the bytes that are missing.
-/
import SaslGate.Proofs.Client.Listening

namespace SaslGate.Client

variable {c c' : Client} {cs : List Bytes} {names : List String}
  {raw : Bytes}

-- ========================================================== piece by piece

/-- A client hears in pieces what it hears at once, if no beginning of it is
enough. -/
theorem hears_of_feed {enough : Client → Bool}
    (unended : c.connection ≠ .ended) (filled : ∀ x ∈ cs, x ≠ [])
    (more : cs ≠ []) (unheard : enough c = false)
    (fed : c.feed cs.flatten = (.ok (), c')) (heard : enough c' = true)
    (early : ∀ a b d, a ++ b = cs.flatten → b ≠ [] →
      c.feed a = (.ok (), d) → enough d = false) :
    Line.Hears enough c cs c' := by
  induction cs generalizing c with
  | nil => exact absurd rfl more
  | cons x cs ih =>
    have hx : x ≠ [] := filled x (List.mem_cons_self ..)
    rw [List.flatten_cons, feed_append unended] at fed
    rcases hfeed : c.feed x with ⟨answer, c₁⟩
    rw [hfeed] at fed
    cases answer with
    | error e => cases fed
    | ok done =>
      by_cases hcs : cs = []
      · -- The last piece.
        subst hcs
        have hnil : c₁.feed [] = (.ok (), c') := fed
        rw [feed_nil_of_feed unended hfeed] at hnil
        cases hnil
        exact .chunk unheard hx hfeed (.done heard)
      · have hrest : ∀ y ∈ cs, y ≠ [] := fun y hy =>
          filled y (List.mem_cons_of_mem x hy)
        have hflat : cs.flatten ≠ [] := by
          obtain ⟨y, ys, rfl⟩ := List.exists_cons_of_ne_nil hcs
          rw [List.flatten_cons]
          exact List.append_ne_nil_of_left_ne_nil
            (hrest y (List.mem_cons_self ..)) _
        refine .chunk unheard hx hfeed ?_
        refine ih (connection_feed_ne_ended unended hfeed) hrest hcs
          (early x cs.flatten c₁ rfl hflat hfeed) fed ?_
        intro a b d hcut hb hd
        refine early (x ++ a) b d ?_ hb ?_
        · rw [List.append_assoc, hcut, List.flatten_cons]
        · rw [feed_append unended, hfeed]
          exact hd

-- ============================================================== the offer

/-- A client that has sent its header and heard nothing. -/
def greeting : Client := { fresh with connection := .headerSent }

/-- A client that holds an offer, and has nothing to send or to read. -/
def offered (names : List String) : Client :=
  { fresh with connection := .headerExchange, mechanisms := some names }

/-- The server's header and its offer, all at once. -/
theorem feed_offer (spells : Spells [.mechanisms names] raw) :
    greeting.feed (Header.sasl.encode ++ raw) = (.ok (), offered names) := by
  have hscan : Header.scan (Header.sasl.encode ++ raw)
      = (.header Header.sasl, raw) :=
    Header.scan_encode_append Header.sasl raw
  have hheader : (greeting.append (Header.sasl.encode ++ raw)).receiveHeader
      = (.ok true, greeting.placed .headerExchange ⟨none, raw⟩) := by
    unfold receiveHeader
    rw [show (greeting.append (Header.sasl.encode ++ raw)).reader.buffer
      = Header.sasl.encode ++ raw from rfl, hscan]
    rfl
  rw [feed_of_not_headerDone (by decide) rfl, hheader]
  exact drain_of_whole (c := greeting.placed .headerExchange ⟨none, raw⟩)
    nofun spells rfl

/-- A client that has heard an offer was fed all of it. -/
theorem eq_nil_of_offered {a b : Bytes} {d : Client}
    (fed : greeting.feed a = (.ok (), d)) (holds : d.mechanisms ≠ none)
    (more : d.feed b = (.ok (), offered names)) : b = [] := by
  have hheard : greeting.Heard [] [] := .header rfl rfl
  obtain ⟨fs, e, hheard', haccept, hd⟩ := hheard.feed (by decide) fed
  rcases acceptAll_idle rfl haccept with ⟨-, rfl⟩ | ⟨ns, rfl, rfl⟩
  · rw [hd] at holds
    exact absurd rfl holds
  · have hdeaf : d.Deaf := by
      rw [hd]
      exact ⟨Option.some_ne_none ns, rfl⟩
    rw [List.nil_append] at hheard'
    generalize hinput : [] ++ a = input at hheard'
    cases hheard' with
    | frames done bounded dry spells =>
      rw [feed_of_headerDone done] at more
      obtain ⟨⟨gs, raw', d', hspells, hunread, haccept', -⟩, -⟩ :=
        drain_account (c := d.append b) bounded more
      -- Nobody takes note of a frame here, and so there is none.
      have hdeaf' : (d.append b).Deaf := hdeaf
      obtain ⟨rfl, -⟩ := hdeaf'.eq_nil haccept'
      cases hspells
      rw [reader_append, Sized.Reader.unread_append] at hunread
      exact (List.append_eq_nil_iff.1 hunread).2

/-- The server's header and its offer, in any number of reads. -/
theorem hears_offer (some : names ≠ [])
    (spells : Spells [.mechanisms names] raw)
    (flat : cs.flatten = Header.sasl.encode ++ raw)
    (filled : ∀ x ∈ cs, x ≠ []) :
    Line.Hears Link.hasOffer greeting cs (offered names) := by
  have hmore : cs ≠ [] := by
    rintro rfl
    cases flat
  have hfed : greeting.feed cs.flatten = (.ok (), offered names) := by
    rw [flat]
    exact feed_offer spells
  have hheard : Link.hasOffer (offered names) = true := by
    obtain ⟨n, ns, rfl⟩ := List.exists_cons_of_ne_nil some
    rfl
  apply hears_of_feed (by decide) filled hmore rfl hfed hheard
  intro a b d hcut hb hd
  rw [Bool.eq_false_iff]
  intro hoffer
  have hrest : d.feed b = (.ok (), offered names) := by
    rw [← hcut, feed_append (by decide), hd] at hfed
    exact hfed
  refine hb (eq_nil_of_offered hd ?_ hrest)
  intro hnone
  rw [Link.hasOffer, show Engine.announced d = none from hnone] at hoffer
  cases hoffer

-- ====================================================== behind the offer

/-- A client that has picked a mechanism out of an offer, and has nothing to
send or to read. It attends to the server. -/
def attending (names : List String) : Client :=
  { offered names with progress := .step }

/-- A client that has chosen listens for challenges and the outcome. -/
theorem attending_listening (names : List String) :
    (attending names).Listening :=
  ⟨rfl, nofun, Sized.Reader.next_short (Nat.zero_lt_succ 3),
    Option.some_ne_none names, rfl, rfl⟩

/-- Picking a mechanism, if the frame is small enough. -/
theorem sendInit_offered {mechanism : String} {hostname : Option String}
    {message bytes : Bytes} (names : List String)
    (fits : sized (.init mechanism (some message) hostname) = .ok bytes) :
    (offered names).sendInit mechanism hostname message
      = (.ok (), { attending names with outbound := bytes }) := by
  unfold sendInit queue
  rw [fits]
  rfl

/-- Answering, if the frame is small enough. -/
theorem sendResponse_attending {response bytes : Bytes}
    (names : List String) (fits : sized (.response response) = .ok bytes) :
    (attending names).sendResponse response
      = (.ok (), { attending names with outbound := bytes }) := by
  unfold sendResponse queue
  rw [fits]
  rfl

end SaslGate.Client
