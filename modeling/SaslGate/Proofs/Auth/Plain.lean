/-
What a PLAIN message looks like that is understood, and what is wrong with one
that is not: its three fields have a NUL between them, and nothing else. So
the fields say how long it is.

# The split

A message that is text comes apart in one more piece than it has NULs, and its
NUL bytes are its NUL characters (`length_pieces_encode`). So two NUL bytes are
all that it takes to have three fields (`exists_fields`), and the fields put
together are the message again (`fields_encode_iff`). What is left are the
three checks of the fields, in their order (`check_eq_error_iff`).
-/
import SaslGate.Auth.Plain
import SaslGate.Proofs.Text

namespace SaslGate.PlainCredentials

variable {message : Bytes} {c : PlainCredentials}
  {authorizationId username password text : String} {e : AuthError}

-- ============================================================== the grammar

/-- The three fields of a message: it is their text, with a NUL behind the
first and behind the second, and they have no NUL in them. -/
structure Fields (message : Bytes)
    (authorizationId username password : String) : Prop where
  text : message = Utf8.encode
    (authorizationId ++ "\x00" ++ username ++ "\x00" ++ password)
  unbroken : ∀ field ∈ [authorizationId, username, password],
    '\x00' ∉ field.toList

/-- What is wrong with a message. A fault of the fields counts only if those
before it are not there. -/
inductive Fault (message : Bytes) : AuthError → Prop
  | garbled (foreign : ∀ text, message ≠ Utf8.encode text) :
      Fault message (.malformedRequest "PLAIN request is not valid UTF-8")
  | misshapen {text : String} (encoded : message = Utf8.encode text)
      (separators : message.count 0 ≠ 2) :
      Fault message (.malformedRequest
        "Invalid SASL/PLAIN response: expected 3 tokens")
  | nameless {authorizationId password : String}
      (fields : Fields message authorizationId "" password) :
      Fault message .emptyIdentity
  | posing {authorizationId username password : String}
      (fields : Fields message authorizationId username password)
      (named : username ≠ "") (acting : authorizationId ≠ "")
      (other : authorizationId ≠ username) :
      Fault message .impersonationNotSupported
  | secretless {authorizationId username : String}
      (fields : Fields message authorizationId username "")
      (named : username ≠ "")
      (own : authorizationId = "" ∨ authorizationId = username) :
      Fault message .emptySecret

-- ================================================================ the split

/-- The fields of a text are its pieces. -/
theorem fields_encode_iff :
    Fields (Utf8.encode text) authorizationId username password ↔
      Text.pieces '\x00' text.toList =
        [authorizationId.toList, username.toList, password.toList] := by
  rw [Text.pieces_eq_cons_iff]
  -- the same equation, on characters and on texts
  have hwhole : text.toList = authorizationId.toList
        ++ [username.toList, password.toList].flatMap ('\x00' :: ·)
      ↔ text = authorizationId ++ "\x00" ++ username ++ "\x00"
        ++ password := by
    rw [← String.toList_inj]
    simp
  constructor
  · intro h
    obtain ⟨htext, hunbroken⟩ := h
    have hsame := (Utf8.decode?_eq_some_iff.2 htext).symm.trans
      (Utf8.decode?_encode text)
    refine ⟨?_, hwhole.2 (Option.some.inj hsame).symm⟩
    simpa using hunbroken
  · intro h
    obtain ⟨hunbroken, htext⟩ := h
    refine ⟨congrArg Utf8.encode (hwhole.1 htext), ?_⟩
    simpa using hunbroken

/-- A text comes apart in one more piece than it has NUL bytes. -/
theorem length_pieces_encode (text : String) :
    (Text.pieces '\x00' text.toList).length
      = (Utf8.encode text).count 0 + 1 := by
  have hcount := Utf8.count_encode (a := '\x00') (by decide) text.toList
  rw [String.ofList_toList] at hcount
  rw [Text.length_pieces, ← hcount]
  rfl

/-- A message of three fields has two NUL bytes, and nothing else is needed of
a text to have three fields. -/
theorem count_of_fields
    (h : Fields message authorizationId username password) :
    message.count 0 = 2 := by
  have hmessage := h.text
  have hpieces := fields_encode_iff.1 (hmessage ▸ h)
  have hlength := length_pieces_encode
    (authorizationId ++ "\x00" ++ username ++ "\x00" ++ password)
  rw [hpieces, ← hmessage] at hlength
  exact (Nat.succ.inj hlength).symm

/-- A text with two separators has three fields. -/
theorem exists_fields (encoded : message = Utf8.encode text)
    (separators : message.count 0 = 2) :
    ∃ authorizationId username password,
      Fields message authorizationId username password := by
  have hlength := length_pieces_encode text
  rw [← encoded, separators] at hlength
  match hpieces : Text.pieces '\x00' text.toList, hlength with
  | [first, second, third], _ =>
    refine ⟨String.ofList first, String.ofList second, String.ofList third, ?_⟩
    rw [encoded, fields_encode_iff]
    simpa using hpieces

/-- Once a message has three fields, all that is left is to check them. -/
theorem parse_of_fields
    (h : Fields message authorizationId username password) :
    parse message = check authorizationId username password := by
  have hmessage := h.text
  have hpieces := fields_encode_iff.1 (hmessage ▸ h)
  rw [hmessage, parse, Utf8.decode?_encode]
  simp only [hpieces, String.ofList_toList]

/-- Bytes that are no text are refused before they are cut up. -/
theorem parse_of_garbled (h : ∀ text, message ≠ Utf8.encode text) :
    parse message =
      .error (.malformedRequest "PLAIN request is not valid UTF-8") := by
  have hnone : Utf8.decode? message = none := by
    refine Option.eq_none_iff_forall_ne_some.2 fun text htext => ?_
    exact h text (Utf8.eq_encode_of_decode? htext)
  rw [parse, hnone]

/-- A text in any other number of pieces is refused before a piece is looked
at. -/
theorem parse_of_misshapen (encoded : message = Utf8.encode text)
    (separators : message.count 0 ≠ 2) :
    parse message = .error (.malformedRequest
      "Invalid SASL/PLAIN response: expected 3 tokens") := by
  have hlength := length_pieces_encode text
  rw [← encoded] at hlength
  rw [parse, encoded, Utf8.decode?_encode]
  simp only
  split
  · rename_i hpieces
    rw [hpieces] at hlength
    exact absurd (Nat.succ.inj hlength).symm separators
  · rfl

-- =============================================================== the checks

/-- The three fields are checked and handed on as they are. -/
theorem check_eq_ok_iff :
    check authorizationId username password = .ok c ↔
      c = ⟨authorizationId, username, password⟩ ∧ username ≠ ""
        ∧ password ≠ ""
        ∧ (authorizationId = "" ∨ authorizationId = username) := by
  unfold check
  split
  next hname => simp [hname]
  next hname =>
    split
    next hother => simp [hother]
    next hself =>
      have hacting := Decidable.not_and_not_right.1 hself
      -- no name, or the user's own
      have hown := Classical.or_iff_not_imp_left.2 hacting
      split
      next hsecret => simp [hsecret]
      next hsecret => simp [hname, hsecret, hown, eq_comm]

/-- Of the faults of the fields the first is reported. -/
theorem check_eq_error_iff :
    check authorizationId username password = .error e ↔
      (username = "" ∧ e = .emptyIdentity)
      ∨ (username ≠ "" ∧ authorizationId ≠ "" ∧ authorizationId ≠ username
        ∧ e = .impersonationNotSupported)
      ∨ (username ≠ "" ∧ (authorizationId = "" ∨ authorizationId = username)
        ∧ password = "" ∧ e = .emptySecret) := by
  unfold check
  split
  next hname => simp [hname, eq_comm]
  next hname =>
    split
    next hother => simp [hname, hother, eq_comm]
    next hself =>
      have hacting := Decidable.not_and_not_right.1 hself
      have hown := Classical.or_iff_not_imp_left.2 hacting
      split
      next hsecret => simp +contextual [hname, hsecret, hown, hacting, eq_comm]
      next hsecret => simp +contextual [hname, hsecret, hacting]

-- ================================================================= messages

/-- A message has three fields, or its bytes are not text, or they are cut up
in another number of pieces. -/
theorem shape_cases (message : Bytes) :
    (∃ authorizationId username password,
        Fields message authorizationId username password)
      ∨ (∀ text, message ≠ Utf8.encode text)
      ∨ ∃ text, message = Utf8.encode text ∧ message.count 0 ≠ 2 := by
  by_cases htext : ∃ text, message = Utf8.encode text
  · obtain ⟨text, encoded⟩ := htext
    by_cases hcount : message.count 0 = 2
    · exact .inl (exists_fields encoded hcount)
    · exact .inr (.inr ⟨text, encoded, hcount⟩)
  · exact .inr (.inl (not_exists.1 htext))

/-- A message that is understood is its fields with a NUL between them. -/
theorem fields_of_parse (h : parse message = .ok c) :
    Fields message c.authorizationId c.username c.password := by
  obtain ⟨a, u, p, fields⟩ | foreign | ⟨text, encoded, separators⟩ :=
    shape_cases message
  · rw [parse_of_fields fields] at h
    rw [(check_eq_ok_iff.1 h).1]
    exact fields
  · rw [parse_of_garbled foreign] at h
    cases h
  · rw [parse_of_misshapen encoded separators] at h
    cases h

/-- Every error is about a fault that the message has. -/
theorem fault_of_parse (h : parse message = .error e) : Fault message e := by
  -- its fields are there, it is no text, or the separators are not two
  obtain ⟨a, u, p, fields⟩ | foreign | ⟨text, encoded, separators⟩ :=
    shape_cases message
  · rw [parse_of_fields fields] at h
    obtain ⟨rfl, rfl⟩ | ⟨named, acting, other, rfl⟩ | ⟨named, own, rfl, rfl⟩ :=
      check_eq_error_iff.1 h
    · exact .nameless fields
    · exact .posing fields named acting other
    · exact .secretless fields named own
  · rw [parse_of_garbled foreign] at h
    cases h
    exact .garbled foreign
  · rw [parse_of_misshapen encoded separators] at h
    cases h
    exact .misshapen encoded separators

/-- Every fault is reported, by its own error. -/
theorem parse_of_fault (h : Fault message e) : parse message = .error e := by
  cases h with
  | garbled foreign => exact parse_of_garbled foreign
  | misshapen encoded separators => exact parse_of_misshapen encoded separators
  | nameless fields =>
    rw [parse_of_fields fields]
    exact check_eq_error_iff.2 (.inl ⟨rfl, rfl⟩)
  | posing fields named acting other =>
    rw [parse_of_fields fields]
    exact check_eq_error_iff.2 (.inr (.inl ⟨named, acting, other, rfl⟩))
  | secretless fields named own =>
    rw [parse_of_fields fields]
    exact check_eq_error_iff.2 (.inr (.inr ⟨named, own, rfl, rfl⟩))

/-- The lengths of the fields are all that the length of a message shows. -/
theorem length_of_parse (h : parse message = .ok c) :
    message.length = c.authorizationId.utf8ByteSize + c.username.utf8ByteSize
      + c.password.utf8ByteSize + 2 := by
  have hlength := congrArg List.length (fields_of_parse h).text
  rw [Utf8.length_encode] at hlength
  simp only [String.utf8ByteSize_append] at hlength
  have hseparator : "\x00".utf8ByteSize = 1 := by decide
  omega

/-- What is understood, and what is answered otherwise. A message is understood
if and only if it is three fields with a user name, a password, and nobody
else's name before them, and the fields are handed on as they are. Otherwise
its first fault is reported, where a text with two NUL bytes is what has three
fields. -/
theorem parse_exact (message : Bytes) :
    (∀ c, parse message = .ok c ↔
      Fields message c.authorizationId c.username c.password
        ∧ c.username ≠ "" ∧ c.password ≠ ""
        ∧ (c.authorizationId = "" ∨ c.authorizationId = c.username))
    ∧ (∀ e, parse message = .error e ↔ Fault message e)
    ∧ ((∃ authorizationId username password,
          Fields message authorizationId username password) ↔
        (∃ text, message = Utf8.encode text) ∧ message.count 0 = 2) := by
  refine ⟨fun c => ⟨fun h => ?_, fun h => ?_⟩,
    fun e => ⟨fault_of_parse, parse_of_fault⟩, fun h => ?_, fun h => ?_⟩
  · have fields := fields_of_parse h
    rw [parse_of_fields fields] at h
    exact ⟨fields, (check_eq_ok_iff.1 h).2⟩
  · obtain ⟨fields, hchecked⟩ := h
    rw [parse_of_fields fields]
    exact check_eq_ok_iff.2 ⟨rfl, hchecked⟩
  · obtain ⟨a, u, p, fields⟩ := h
    exact ⟨⟨_, fields.text⟩, count_of_fields fields⟩
  · obtain ⟨⟨text, encoded⟩, separators⟩ := h
    exact exists_fields encoded separators

end SaslGate.PlainCredentials
