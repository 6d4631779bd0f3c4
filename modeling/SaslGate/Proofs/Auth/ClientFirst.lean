/-
Which client-first messages are accepted, what is read off them, and which
are refused for naming somebody else.

# The grammar

A `Spelling` is a message in its parts, and `Spelling.text` puts them
together. Which parts are admissible (`Spelling.Grammatical`) is a matter of
the written form alone; whom they name (`Spelling.Names`) is told by writing
the user down again. The check of a message is held against both.

# The two directions

A spelling that is grammatical is read as it was put together
(`parse_text`), the one check that is left being whether both names are one.
The other way round, whatever gets as far as that check was put together from
such a spelling (`exists_spelling`): every check before it complains of
something else (`Settled`), so it must have gone well.
-/
import SaslGate.Auth.ClientFirst
import SaslGate.Proofs.Auth.SaslName
import SaslGate.Proofs.Text

namespace SaslGate.ClientFirst

variable {message : Bytes} {item claimed user : List Char}

-- ============================================================ the grammar

/-- A user name as it may be written. -/
structure IsSaslName (name : List Char) : Prop where
  free : ',' ∉ name
  escaped : SaslName.WellEscaped name

/-- The authorization id that a decoded name amounts to. -/
def idOf (claimed : List Char) : Option String :=
  if claimed = [] then none else some (String.ofList claimed)

/-- The parts of a message. -/
structure Spelling where
  flag : List Char
  /-- What stands behind `a=`, if there is such a field. -/
  authorization : Option (List Char)
  name : List Char
  nonce : List Char
  extensions : List (List Char)

namespace Spelling

/-- The field of the authorization id. -/
def idField (p : Spelling) : List Char :=
  match p.authorization with
  | none => []
  | some name => 'a' :: '=' :: name

/-- The message. -/
def text (p : Spelling) : List Char :=
  p.flag ++ ',' :: (p.idField ++ ',' :: ('n' :: '=' :: p.name
    ++ (',' :: 'r' :: '=' :: p.nonce ++ p.extensions.flatMap (',' :: ·))))

/-- The parts have the form that the grammar asks for. -/
structure Grammatical (p : Spelling) : Prop where
  flag : p.flag = ['n'] ∨ p.flag = ['y']
  authorization : ∀ name, p.authorization = some name → IsSaslName name
  name : IsSaslName p.name
  named : p.name ≠ []
  nonce : p.nonce ≠ [] ∧ ',' ∉ p.nonce
  /-- The nonce is printable ASCII without a blank, byte by byte. -/
  printable : ∀ b ∈ Utf8.encode (String.ofList p.nonce),
    0x21 ≤ b.toNat ∧ b.toNat ≤ 0x7e
  extensions : ∀ e ∈ p.extensions, ',' ∉ e

/-- The user that the message wants to act as, and the user it is from. An
empty name stands for nobody else. -/
structure Names (p : Spelling) (claimed user : List Char) : Prop where
  claimed : SaslName.escape claimed = p.authorization.getD []
  user : SaslName.escape user = p.name

/-- What the parts say. -/
def fields (p : Spelling) (claimed user : List Char) : ClientFirst where
  flag := String.ofList p.flag
  authorizationId := idOf claimed
  saslName := String.ofList p.name
  username := String.ofList user
  nonce := String.ofList p.nonce
  extensions := p.extensions.map String.ofList

/-- What is made of the parts: nobody may act as somebody else. -/
def verdict (p : Spelling) (claimed user : List Char) :
    Except AuthError ClientFirst :=
  if claimed = [] ∨ claimed = user then .ok (p.fields claimed user)
  else .error .impersonationNotSupported

end Spelling

-- ========================================================== single fields

/-- Checks in a row end well if each of them does. -/
theorem bind_eq_ok_iff {r : Except ε α} {f : α → Except ε β} {b : β} :
    (r >>= f) = .ok b ↔ ∃ a, r = .ok a ∧ f a = .ok b := by
  cases r with
  | error e => exact ⟨nofun, fun ⟨_, h, _⟩ => nomatch h⟩
  | ok a => exact ⟨fun h => ⟨a, rfl, h⟩, fun ⟨_, h, hf⟩ => by cases h; exact hf⟩

/-- Channel binding is not offered, so only two flags are taken. -/
theorem checkFlag_eq_ok_iff {flag : List Char} :
    checkFlag flag = .ok () ↔ flag = ['n'] ∨ flag = ['y'] := by
  unfold checkFlag malformed
  split
  · rename_i hflag
    exact ⟨fun _ => hflag, fun _ => rfl⟩
  · rename_i hflag
    split <;> exact ⟨nofun, fun h => absurd h hflag⟩

/-- A name that is taken is the user whom it decodes to. -/
theorem decodeName_eq_ok_iff {name : List Char} {username : String} :
    decodeName name = .ok username ↔
      ∃ user, SaslName.decode name = .ok user
        ∧ username = String.ofList user := by
  unfold decodeName malformed
  cases SaslName.decode name with
  | error offset => simp
  | ok user => simp [eq_comm]

/-- A name that is refused is refused at an offset, which the message tells.
-/
theorem decodeName_eq_error_iff {name : List Char} {error : AuthError} :
    decodeName name = .error error ↔ ∃ offset,
      SaslName.decode name = .error offset
      ∧ error = .malformedRequest
        ("Invalid escape in SCRAM saslname at offset " ++ toString offset) := by
  unfold decodeName malformed
  cases SaslName.decode name with
  | error offset => simp [eq_comm]
  | ok user => simp

/-- The id that is compared is the one that the grammar speaks of. -/
theorem idOf_eq (claimed : List Char) :
    (if String.ofList claimed = "" then none
      else some (String.ofList claimed)) = idOf claimed := by
  have hempty : String.ofList claimed = "" ↔ claimed = [] := by
    rw [← String.toList_inj, String.toList_ofList]
    rfl
  simp only [idOf, hempty]

/-- The field of the id may be empty, but if it is not, it has to begin as
such a field does. -/
theorem readAuthorizationId_eq_ok_iff {id : Option String} :
    readAuthorizationId item = .ok id ↔
      item = [] ∧ id = none
      ∨ ∃ name claimed, item = 'a' :: '=' :: name
          ∧ SaslName.decode name = .ok claimed
          ∧ id = idOf claimed := by
  unfold readAuthorizationId malformed
  split
  · rename_i hempty
    rw [List.isEmpty_iff] at hempty
    subst hempty
    simp [eq_comm]
  · rename_i hitem
    rw [List.isEmpty_iff] at hitem
    split
    · rename_i hafter
      have hne : ∀ name, item ≠ 'a' :: '=' :: name := by
        intro name hname
        rw [Text.after?_eq_some_iff.2 hname] at hafter
        cases hafter
      simp [hitem, hne]
    · rename_i name hafter
      obtain rfl := Text.after?_eq_some_iff.1 hafter
      simp only [bind_eq_ok_iff, decodeName_eq_ok_iff]
      constructor
      · rintro ⟨_, ⟨claimed, hdecode, rfl⟩, hid⟩
        rw [idOf_eq] at hid
        exact .inr ⟨name, claimed, rfl, hdecode, (Except.ok.inj hid).symm⟩
      · rintro (⟨hnil, -⟩ | ⟨name', claimed, hname, hdecode, rfl⟩)
        · cases hnil
        · cases hname
          refine ⟨_, ⟨claimed, hdecode, rfl⟩, ?_⟩
          rw [idOf_eq]
          rfl

/-- The name has to be there, and is kept as it was written too. An extension
in its place is refused before it is looked at. -/
theorem readUsername_eq_ok_iff {names : String × String} :
    readUsername item = .ok names ↔
      ∃ name user, item = 'n' :: '=' :: name ∧ name ≠ []
        ∧ SaslName.decode name = .ok user
        ∧ names = (String.ofList name, String.ofList user) := by
  unfold readUsername malformed
  split
  · rename_i hreserved
    obtain ⟨rest, rfl⟩ := List.isPrefixOf_iff_prefix.1 hreserved
    simp
  · split
    · rename_i hafter
      have hne : ∀ name, item ≠ 'n' :: '=' :: name := by
        intro name hname
        rw [Text.after?_eq_some_iff.2 hname] at hafter
        cases hafter
      simp [hne]
    · rename_i name hafter
      obtain rfl := Text.after?_eq_some_iff.1 hafter
      split
      · rename_i hempty
        rw [List.isEmpty_iff] at hempty
        subst hempty
        simp
      · rename_i hname
        rw [List.isEmpty_iff] at hname
        simp only [bind_eq_ok_iff, decodeName_eq_ok_iff]
        constructor
        · rintro ⟨_, ⟨user, hdecode, rfl⟩, hnames⟩
          exact ⟨name, user, rfl, hname, hdecode, (Except.ok.inj hnames).symm⟩
        · rintro ⟨name', user, heq, -, hdecode, rfl⟩
          cases heq
          exact ⟨_, ⟨user, hdecode, rfl⟩, rfl⟩

/-- A nonce is printable ASCII. The bytes are asked for here, as the grammar
has it, and the characters by the reader. -/
theorem readNonce_eq_ok_iff {nonce : String} :
    readNonce item = .ok nonce ↔
      ∃ cs, item = 'r' :: '=' :: cs ∧ cs ≠ []
        ∧ (∀ b ∈ Utf8.encode (String.ofList cs),
            0x21 ≤ b.toNat ∧ b.toNat ≤ 0x7e)
        ∧ nonce = String.ofList cs := by
  unfold readNonce malformed
  split
  · rename_i cs hafter
    obtain rfl := Text.after?_eq_some_iff.1 hafter
    -- all bytes are in the range exactly if all characters are
    have hcheck : (!cs.isEmpty && cs.all isNonceChar) = true ↔
        cs ≠ [] ∧ ∀ b ∈ Utf8.encode (String.ofList cs),
          0x21 ≤ b.toNat ∧ b.toNat ≤ 0x7e := by
      rw [Utf8.forall_mem_encode_iff (by decide)]
      simp [isNonceChar]
    split
    · rename_i hgood
      obtain ⟨hne, hbytes⟩ := hcheck.1 hgood
      constructor
      · intro h
        exact ⟨cs, rfl, hne, hbytes, (Except.ok.inj h).symm⟩
      · rintro ⟨cs', heq, -, -, rfl⟩
        cases heq
        rfl
    · rename_i hbad
      constructor
      · nofun
      · rintro ⟨cs', heq, hne, hbytes, -⟩
        cases heq
        exact absurd (hcheck.2 ⟨hne, hbytes⟩) hbad
  · rename_i hafter
    have hne : ∀ cs, item ≠ 'r' :: '=' :: cs := by
      intro cs hcs
      rw [Text.after?_eq_some_iff.2 hcs] at hafter
      cases hafter
    simp [hne]

-- ========================================================== whole messages

/-- A check that does not come to compare the names. -/
def Uncompared (r : Except AuthError α) : Prop :=
  r ≠ .error .impersonationNotSupported

/-- An answer to a message in which only the names were left to be compared. -/
def Settled (r : Except AuthError α) : Prop :=
  ∀ e, r = .error e → e = .impersonationNotSupported

/-- Names are not compared by parts that do not compare them. -/
theorem Uncompared.bind {r : Except AuthError α} {f : α → Except AuthError β}
    (hr : Uncompared r) (hf : ∀ a, Uncompared (f a)) :
    Uncompared (r >>= f) := by
  cases r with
  | error e =>
    intro h
    exact hr (congrArg Except.error (Except.error.inj h))
  | ok a => exact hf a

/-- A check that does not compare the names went well if all is settled. -/
theorem Settled.of_bind {r : Except AuthError α} {f : α → Except AuthError β}
    (h : Settled (r >>= f)) (hr : Uncompared r) :
    ∃ a, r = .ok a ∧ Settled (f a) := by
  cases r with
  | error e =>
    refine absurd ?_ hr
    rw [h e rfl]
  | ok a => exact ⟨a, rfl, h⟩

/-- A malformed message has not come to the comparison. -/
theorem not_settled_malformed (reason : String) :
    ¬ Settled (malformed reason : Except AuthError α) := by
  intro h
  cases h _ rfl

theorem uncompared_checkFlag (flag : List Char) :
    Uncompared (checkFlag flag) := by
  unfold checkFlag malformed
  split
  · nofun
  · split <;> nofun

theorem uncompared_decodeName (name : List Char) :
    Uncompared (decodeName name) := by
  unfold decodeName malformed
  split <;> nofun

theorem uncompared_readAuthorizationId (item : List Char) :
    Uncompared (readAuthorizationId item) := by
  unfold readAuthorizationId malformed
  split
  · nofun
  · split
    · nofun
    · exact (uncompared_decodeName _).bind nofun

/-- The user is read before there is anything to compare. -/
theorem uncompared_readUsername (item : List Char) :
    Uncompared (readUsername item) := by
  unfold readUsername malformed
  split
  · nofun
  · split
    · nofun
    · split
      · nofun
      · exact (uncompared_decodeName _).bind nofun

/-- So is the nonce, which stands behind it. -/
theorem uncompared_readNonce (item : List Char) :
    Uncompared (readNonce item) := by
  unfold readNonce malformed
  split
  · split <;> nofun
  · nofun

/-- Once the fields are read, nothing is left but to compare the names. -/
theorem run_readFields {p : Spelling} {fields : List (List Char)}
    (username : readUsername (fields.headD [])
      = .ok (String.ofList p.name, String.ofList user))
    (nonce : readNonce ((fields.drop 1).headD [])
      = .ok (String.ofList p.nonce))
    (extensions : fields.drop 2 = p.extensions) :
    readFields p.flag (idOf claimed) fields = p.verdict claimed user := by
  have hother : (idOf claimed).any (· ≠ String.ofList user) = true ↔
      ¬ (claimed = [] ∨ claimed = user) := by
    unfold idOf
    split
    · rename_i hnil
      simp [hnil]
    · rename_i hne
      simp [hne, String.ofList_inj]
  unfold readFields Spelling.verdict
  rw [username, nonce, extensions]
  by_cases hsame : claimed = [] ∨ claimed = user
  · have hfalse : ¬ (idOf claimed).any (· ≠ String.ofList user) = true :=
      fun htrue => hother.1 htrue hsame
    simp only [bind, Except.bind, hfalse, if_pos hsame]
    rfl
  · have htrue := hother.2 hsame
    simp only [bind, Except.bind, htrue, if_neg hsame]
    rfl

namespace Spelling

variable {p : Spelling}

/-- The field of the id ends at the next comma. -/
theorem Grammatical.comma_not_mem_idField (g : p.Grammatical) :
    ',' ∉ p.idField := by
  unfold idField
  cases ha : p.authorization with
  | none => exact List.not_mem_nil
  | some name =>
    have hfree := (g.authorization name ha).free
    simpa using hfree

/-- The pieces between the commas behind the authorization id. -/
theorem Grammatical.pieces (g : p.Grammatical) :
    Text.pieces ',' ('n' :: '=' :: p.name
        ++ (',' :: 'r' :: '=' :: p.nonce ++ p.extensions.flatMap (',' :: ·)))
      = ('n' :: '=' :: p.name) :: ('r' :: '=' :: p.nonce) :: p.extensions := by
  rw [Text.pieces_eq_cons_iff]
  constructor
  · have hname := g.name.free
    have hnonce := g.nonce.2
    simpa [hname, hnonce] using g.extensions
  · simp

/-- A grammatical field is read as the user it names. -/
theorem Names.readAuthorizationId (n : p.Names claimed user)
    (g : p.Grammatical) :
    readAuthorizationId p.idField = .ok (idOf claimed) := by
  have hclaimed := n.claimed
  rw [readAuthorizationId_eq_ok_iff]
  unfold idField
  cases ha : p.authorization with
  | none =>
    rw [ha, Option.getD_none, SaslName.escape_eq_nil_iff] at hclaimed
    exact .inl ⟨rfl, by rw [hclaimed]; rfl⟩
  | some name =>
    rw [ha] at hclaimed
    have hfree := (g.authorization name ha).free
    exact .inr ⟨name, claimed, rfl,
      (SaslName.decode_eq_ok_iff hfree).2 hclaimed, rfl⟩

end Spelling

/-- A grammatical spelling is read as it was put together. -/
theorem parse_text {p : Spelling} (g : p.Grammatical)
    (n : p.Names claimed user) :
    parse (Utf8.encode (String.ofList p.text)) = p.verdict claimed user := by
  have hflag : checkFlag p.flag = .ok () := checkFlag_eq_ok_iff.2 g.flag
  have hfree : ',' ∉ p.flag := by
    rcases g.flag with h | h <;> rw [h] <;> decide
  have husername : readUsername ('n' :: '=' :: p.name)
      = .ok (String.ofList p.name, String.ofList user) :=
    readUsername_eq_ok_iff.2 ⟨p.name, user, rfl, g.named,
      (SaslName.decode_eq_ok_iff g.name.free).2 n.user, rfl⟩
  have hnonce : readNonce ('r' :: '=' :: p.nonce)
      = .ok (String.ofList p.nonce) :=
    readNonce_eq_ok_iff.2 ⟨p.nonce, rfl, g.nonce.1, g.printable, rfl⟩
  unfold parse
  rw [Utf8.decode?_encode]
  simp only [String.toList_ofList]
  rw [Spelling.text, Text.cutAt_append hfree]
  simp only [hflag]
  rw [Text.cutAt_append g.comma_not_mem_idField]
  simp only [n.readAuthorizationId g, g.pieces]
  exact run_readFields husername hnonce rfl

/-- A name without a comma that can be read is admissible, and it is how its
user is written. -/
theorem isSaslName_of_decode {name : List Char} (free : ',' ∉ name)
    (h : SaslName.decode name = .ok user) :
    IsSaslName name ∧ SaslName.escape user = name := by
  have hescape := (SaslName.decode_eq_ok_iff free).1 h
  exact ⟨⟨free, (SaslName.wellEscaped_iff free).2 ⟨user, hescape⟩⟩, hescape⟩

/-- A field of an authorization id that can be read, as a part of a
spelling. -/
theorem exists_authorization {id : Option String} (free : ',' ∉ item)
    (h : readAuthorizationId item = .ok id) :
    ∃ authorization claimed, (∀ p : Spelling,
        p.authorization = authorization → p.idField = item)
      ∧ (∀ name, authorization = some name → IsSaslName name)
      ∧ SaslName.escape claimed = authorization.getD [] := by
  rcases readAuthorizationId_eq_ok_iff.1 h with
    ⟨rfl, -⟩ | ⟨name, claimed, rfl, hdecode, -⟩
  · refine ⟨none, [], ?_, nofun, rfl⟩
    intro p hp
    rw [Spelling.idField, hp]
  · have hfree : ',' ∉ name := by
      intro hmem
      exact free (List.mem_cons_of_mem _ (List.mem_cons_of_mem _ hmem))
    obtain ⟨hname, hescape⟩ := isSaslName_of_decode hfree hdecode
    refine ⟨some name, claimed, ?_, ?_, hescape⟩
    · intro p hp
      rw [Spelling.idField, hp]
    · rintro _ ⟨⟩
      exact hname

/-- What stands behind the authorization id, if the user name and the nonce in
it can be read, as parts of a spelling. -/
theorem exists_parts {bare : List Char} {names : String × String}
    {nonce : String}
    (username : readUsername ((Text.pieces ',' bare).headD []) = .ok names)
    (secret : readNonce (((Text.pieces ',' bare).drop 1).headD [])
      = .ok nonce) :
    ∃ (name user cs : List Char) (extensions : List (List Char)),
      bare = 'n' :: '=' :: name
        ++ (',' :: 'r' :: '=' :: cs ++ extensions.flatMap (',' :: ·))
      ∧ IsSaslName name ∧ name ≠ [] ∧ SaslName.escape user = name
      ∧ (cs ≠ [] ∧ ',' ∉ cs)
      ∧ (∀ b ∈ Utf8.encode (String.ofList cs),
          0x21 ≤ b.toNat ∧ b.toNat ≤ 0x7e)
      ∧ ∀ e ∈ extensions, ',' ∉ e := by
  obtain ⟨name, user, hfirst, hnamed, hdecode, -⟩ :=
    readUsername_eq_ok_iff.1 username
  obtain ⟨cs, hsecond, hne, hprintable, -⟩ := readNonce_eq_ok_iff.1 secret
  match hpieces : Text.pieces ',' bare, hfirst, hsecond with
  | first :: second :: extensions, hfirst, hsecond =>
    obtain rfl : first = 'n' :: '=' :: name := hfirst
    obtain rfl : second = 'r' :: '=' :: cs := hsecond
    obtain ⟨hfree, hbare⟩ := Text.pieces_eq_cons_iff.1 hpieces
    obtain ⟨hfreeName, hfree⟩ := List.forall_mem_cons.1 hfree
    obtain ⟨hfreeNonce, hextensions⟩ := List.forall_mem_cons.1 hfree
    obtain ⟨hname, huser⟩ :=
      isSaslName_of_decode (fun h => hfreeName (by simp [h])) hdecode
    exact ⟨name, user, cs, extensions, by rw [hbare]; rfl, hname, hnamed,
      huser, ⟨hne, fun h => hfreeNonce (by simp [h])⟩, hprintable,
      hextensions⟩

/-- Whatever gets as far as the comparison of the names was put together from
a grammatical spelling. -/
theorem exists_spelling (h : Settled (parse message)) :
    ∃ (p : Spelling) (claimed user : List Char), p.Grammatical
      ∧ p.Names claimed user
      ∧ message = Utf8.encode (String.ofList p.text) := by
  unfold parse at h
  split at h
  · exact absurd h (not_settled_malformed _)
  rename_i text htext
  split at h
  · exact absurd h (not_settled_malformed _)
  rename_i flag rest hcut
  -- each step so far has succeeded, for none of their errors compares names
  obtain ⟨_, hflag, h⟩ := h.of_bind (uncompared_checkFlag flag)
  split at h
  · exact absurd h (not_settled_malformed _)
  rename_i item bare hcut'
  obtain ⟨id, hid, h⟩ := h.of_bind (uncompared_readAuthorizationId item)
  obtain ⟨names, hnames, h⟩ := h.of_bind (uncompared_readUsername _)
  obtain ⟨nonce, hnonce, -⟩ := h.of_bind (uncompared_readNonce _)
  obtain ⟨-, htextcut⟩ := Text.cutAt_eq_some_iff.1 hcut
  obtain ⟨hitem, hrest⟩ := Text.cutAt_eq_some_iff.1 hcut'
  obtain ⟨authorization, claimed, hfield, hauthorization, hclaimed⟩ :=
    exists_authorization hitem hid
  obtain ⟨name, user, cs, extensions, hbare, hname, hnamed, huser, hcs,
    hprintable, hextensions⟩ := exists_parts hnames hnonce
  refine ⟨⟨flag, authorization, name, cs, extensions⟩, claimed, user,
    ⟨checkFlag_eq_ok_iff.1 hflag, hauthorization, hname, hnamed, hcs,
      hprintable, hextensions⟩, ⟨hclaimed, huser⟩, ?_⟩
  rw [Spelling.text, hfield _ rfl, ← hbare, ← hrest, ← htextcut,
    String.ofList_toList]
  exact Utf8.eq_encode_of_decode? htext

/-- A message is accepted exactly if it is put together from parts that have
the form of the grammar, and if the name it wants to act as is empty or the
name of the user; what is read off it are its parts. It is refused for naming
somebody else exactly if nothing but that is wrong with it. -/
theorem grammar_exact (message : Bytes) :
    (∀ first, parse message = .ok first ↔
      ∃ (p : Spelling) (claimed user : List Char), p.Grammatical
        ∧ p.Names claimed user
        ∧ message = Utf8.encode (String.ofList p.text)
        ∧ (claimed = [] ∨ claimed = user)
        ∧ first = p.fields claimed user)
    ∧ (parse message = .error .impersonationNotSupported ↔
      ∃ (p : Spelling) (claimed user : List Char), p.Grammatical
        ∧ p.Names claimed user
        ∧ message = Utf8.encode (String.ofList p.text)
        ∧ claimed ≠ [] ∧ claimed ≠ user) := by
  refine ⟨fun first => ⟨?_, ?_⟩, ?_, ?_⟩
  · intro h
    -- accepted, so the comparison was reached
    have hsettled : Settled (parse message) := by
      rw [h]
      nofun
    obtain ⟨p, claimed, user, g, n, rfl⟩ := exists_spelling hsettled
    rw [parse_text g n, Spelling.verdict] at h
    split at h
    · rename_i hsame
      exact ⟨p, claimed, user, g, n, rfl, hsame, (Except.ok.inj h).symm⟩
    · cases h
  · rintro ⟨p, claimed, user, g, n, rfl, hsame, rfl⟩
    rw [parse_text g n, Spelling.verdict, if_pos hsame]
  · intro h
    have hsettled : Settled (parse message) := by
      rw [h]
      rintro _ ⟨⟩
      rfl
    obtain ⟨p, claimed, user, g, n, rfl⟩ := exists_spelling hsettled
    rw [parse_text g n, Spelling.verdict] at h
    split at h
    · cases h
    · rename_i hother
      obtain ⟨hclaimed, huser⟩ := not_or.1 hother
      exact ⟨p, claimed, user, g, n, rfl, hclaimed, huser⟩
  · rintro ⟨p, claimed, user, g, n, rfl, hclaimed, huser⟩
    rw [parse_text g n, Spelling.verdict,
      if_neg (not_or.2 ⟨hclaimed, huser⟩)]

end SaslGate.ClientFirst
