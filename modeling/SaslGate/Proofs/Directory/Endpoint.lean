/-
Lists of endpoints, and the URLs they print as. A URL that an endpoint was read
from may be spelled in many ways. The endpoint prints in one way, and that is
read back to it (`Endpoint.ofUrl_url`), because its host is one in print
(`Endpoint.Legible`) and its port number is always written. Such a URL has
neither a blank nor a comma in it, if the host has no comma, so a list of them
is read back item by item (`Endpoints.endpoints_exact`).
-/
import SaslGate.Directory.Endpoint
import SaslGate.Proofs.Config.Value
import SaslGate.Proofs.Directory.Host

namespace SaslGate

-- =================================================================== URLs

namespace Url

variable {cs host : List Char}

/-- Nothing is removed from a URL without blanks and controls. -/
theorem clean_eq_self (h : ∀ c ∈ cs, 0x20 < c.toNat) : clean cs = cs := by
  have hstrip : Text.strip (fun c => decide (c.toNat ≤ 0x20)) cs = cs := by
    have hkeep (c : Char) (hc : c ∈ cs) : decide (c.toNat ≤ 0x20) = false := by
      simpa using h c hc
    exact Text.strip_eq_self (fun c hc => hkeep c (List.mem_of_head? hc))
      fun c hc => hkeep c (List.mem_of_getLast? hc)
  unfold clean
  rw [hstrip, List.filter_eq_self]
  intro c hc
  -- tabs and line ends are controls, of which there are none
  have hne (d : Char) (hd : d.toNat ≤ 0x20) : c ≠ d := by
    intro heq
    have hcode := h c hc
    rw [heq] at hcode
    omega
  simp only [decide_eq_true_eq]
  exact ⟨hne _ (by decide), hne _ (by decide), hne _ (by decide)⟩

/-- Cleaning a URL only takes characters away. -/
theorem clean_subset (cs : List Char) : clean cs ⊆ cs := by
  intro c hc
  have hstrip := List.mem_of_mem_filter hc
  rw [Text.strip, List.mem_reverse] at hstrip
  have hfront := (List.dropWhile_suffix _).subset hstrip
  exact (List.dropWhile_suffix _).subset (List.mem_reverse.1 hfront)

/-- What is behind the scheme stands in the URL. -/
theorem scheme?_subset {scheme : String} {rest : List Char}
    (h : scheme? cs = some (scheme, rest)) : rest ⊆ cs := by
  unfold scheme? at h
  split at h
  · cases h
  · rename_i first tail
    split at h
    · split at h
      · rename_i hdrop
        cases h
        have hsuffix := (first :: tail).dropWhile_suffix isSchemeChar
        rw [hdrop] at hsuffix
        exact fun c hc => hsuffix.subset (List.mem_cons_of_mem ':' hc)
      · cases h
    · cases h

/-- Cutting the user off only takes characters away. -/
theorem cutUser_subset (cs : List Char) : (cutUser cs).2 ⊆ cs := by
  unfold cutUser
  split
  · rename_i place user hcut
    obtain ⟨-, hcs⟩ := Text.cutAt_eq_some_iff.1 hcut
    intro c hc
    rw [← List.mem_reverse, hcs]
    exact List.mem_append_left _ (List.mem_reverse.1 hc)
  · exact fun c hc => hc

/-- Without an `@` there is no user. -/
theorem cutUser_of_not_mem (h : '@' ∉ cs) : cutUser cs = (none, cs) := by
  unfold cutUser
  split
  · rename_i place user hcut
    obtain ⟨-, hcs⟩ := Text.cutAt_eq_some_iff.1 hcut
    exfalso
    apply h
    rw [← List.mem_reverse, hcs]
    simp
  · rfl

/-- The span of a host stands in what it is cut from. -/
theorem hostSpan_subset (inside : Bool) (cs : List Char) :
    (hostSpan inside cs).1 ⊆ cs := by
  induction cs generalizing inside with
  | nil => simp [hostSpan]
  | cons c cs ih =>
    unfold hostSpan
    split
    · simp
    · exact List.cons_subset_cons c (ih _)

/-- A port number is read back. -/
theorem portNumber?_toDigits (port : UInt16) :
    portNumber? (Nat.toDigits 10 port.toNat) = .ok (some port) := by
  have hdigit : ∀ c ∈ Nat.toDigits 10 port.toNat, c.isDigit = true :=
    fun c hc => Nat.isDigit_of_mem_toDigits (by decide) (by decide) hc
  have hsome : Nat.toDigits 10 port.toNat ≠ [] := Nat.toDigits_ne_nil
  -- the digits of a number spell it
  have hvalue : Text.spelledFrom 0 (Nat.toDigits 10 port.toNat)
      = port.toNat := by
    have hread := Nat.ofDigitChars_ten_toDigits (n := port.toNat)
    rw [Nat.ofDigitChars_eq_foldl] at hread
    simp only [Nat.mul_comm 10] at hread
    exact hread
  have hnumeral : Text.numeral 65535 (Nat.toDigits 10 port.toNat)
      = .ok port.toNat := by
    refine Text.numeral_eq_ok_iff.2 ⟨⟨_, .inl rfl, hsome, ?_, hvalue.symm⟩, ?_⟩
    · intro c hc
      have := hdigit c hc
      simp only [Char.isDigit, Bool.and_eq_true, decide_eq_true_eq] at this
      exact this
    · have := port.toNat_lt
      omega
  unfold portNumber?
  rw [List.takeWhile_eq_self_iff.2 hdigit, List.dropWhile_eq_nil_iff.2 hdigit]
  simp [hsome, hnumeral]

/-- The host of a URL that was read stands in it, is not empty, and was read
by itself. -/
theorem authority_inv {host : String} {port : Option UInt16}
    (h : authority .other cs = .ok (some host, port)) :
    host ≠ "" ∧ ∃ span, span ⊆ cs
      ∧ Host.parseOpaque span = .ok host.toList := by
  unfold authority at h
  simp only [bind, Except.bind] at h
  split at h
  · cases h
  · split at h
    · cases h
    · rename_i cs' hread
      split at h
      · cases h
      · split at h
        · cases h
        · split at h
          · split at h
            · cases h
            · cases h
          · rename_i hsome
            cases h
            have hread' : Host.parseOpaque _ = _ := hread
            refine ⟨?_, _, ?_, by rwa [String.toList_ofList]⟩
            · simpa using hsome
            · intro c hc
              -- the host is cut out of what stands in front of the path
              have hplace := cutUser_subset _ (hostSpan_subset _ _ hc)
              exact (List.takeWhile_prefix _).subset hplace

/-- A URL with a host has it in the authority, and only there. -/
theorem parse_inv {text scheme host : String} {port : Option UInt16}
    (h : parse text = .ok ⟨scheme, some host, port⟩)
    (hscheme : SchemeKind.of scheme = .other) :
    host ≠ "" ∧ ∃ span, span ⊆ text.toList
      ∧ Host.parseOpaque span = .ok host.toList := by
  unfold parse at h
  split at h
  · cases h
  · rename_i scheme' rest hcut
    simp only [bind, Except.bind] at h
    split at h
    · split at h
      · cases h
      · cases h
    · rename_i hweb
      split at h
      · cases h
      · rename_i parts hauthority
        obtain ⟨host', port'⟩ := parts
        cases h
        -- a scheme of the web is not one of a directory
        rw [hscheme] at hweb
        cases hweb
    · split at h
      · rename_i rest'
        split at h
        · cases h
        · rename_i parts hauthority
          obtain ⟨host', port'⟩ := parts
          cases h
          obtain ⟨hsome, span, hspan, hread⟩ := authority_inv hauthority
          refine ⟨hsome, span, fun c hc => ?_, hread⟩
          have hrest := List.mem_cons_of_mem '/'
            (List.mem_cons_of_mem '/' (hspan hc))
          exact clean_subset _ (scheme?_subset hcut hrest)
      · cases h

/-- There is nothing in the rendering of a host and a port number at which a
URL is taken apart. -/
theorem isHostChar_rendered (printed : Host.Printed host) (port : UInt16) :
    ∀ c ∈ host ++ ':' :: Nat.toDigits 10 port.toNat,
      Host.isHostChar c = true := by
  intro c hc
  rcases List.mem_append.1 hc with hc | hc
  · exact printed.isHostChar c hc
  · rcases List.mem_cons.1 hc with rfl | hc
    · decide
    · have hdigit := Nat.isDigit_of_mem_toDigits (by decide) (by decide) hc
      simp only [Char.isDigit, Bool.and_eq_true, decide_eq_true_eq] at hdigit
      have hlow : 48 ≤ c.toNat := hdigit.1
      have hhigh : c.toNat ≤ 57 := hdigit.2
      simp only [Host.isHostChar, Bool.and_eq_true, decide_eq_true_eq,
        Bool.not_eq_true', decide_eq_false_iff_not, List.mem_cons, not_or]
      -- what takes a URL apart is no digit
      have hne (d : Char) (hd : d.toNat < 48 ∨ 57 < d.toNat) : c ≠ d := by
        intro heq
        rw [heq] at hlow hhigh
        omega
      exact ⟨⟨by omega, by omega⟩, hne _ (by decide), hne _ (by decide),
        hne _ (by decide), hne _ (by decide), hne _ (by decide),
        List.not_mem_nil⟩

/-- No character of a host ends the authority or belongs to a user. -/
theorem keeps_of_isHostChar {c : Char} (h : Host.isHostChar c = true) :
    endsAuthority .other c = false ∧ c ≠ '@' := by
  simp only [Host.isHostChar, Bool.and_eq_true, Bool.not_eq_true',
    decide_eq_false_iff_not, List.mem_cons, not_or] at h
  obtain ⟨-, hhash, hslash, hquestion, hat, -⟩ := h
  simp [endsAuthority, hhash, hslash, hquestion, hat]

/-- A host in print and a port number are read as they stand. -/
theorem authority_printed (printed : Host.Printed host) (hsome : host ≠ [])
    (port : UInt16) :
    authority .other (host ++ ':' :: Nat.toDigits 10 port.toNat)
      = .ok (some (String.ofList host), some port) := by
  have hkeeps : ∀ c ∈ host ++ ':' :: Nat.toDigits 10 port.toNat,
      endsAuthority .other c = false ∧ c ≠ '@' :=
    fun c hc => keeps_of_isHostChar (isHostChar_rendered printed port c hc)
  have hends : ∀ c ∈ host ++ ':' :: Nat.toDigits 10 port.toNat,
      (!endsAuthority .other c) = true :=
    fun c hc => by simp [(hkeeps c hc).1]
  have huser := cutUser_of_not_mem (fun h => (hkeeps '@' h).2 rfl)
  have hread : readHost .other host = .ok host := printed.parseOpaque
  unfold authority
  rw [List.takeWhile_eq_self_iff.2 hends, huser]
  simp only [printed.hostSpan, hread, List.drop_one, List.tail_cons,
    portNumber?_toDigits]
  simp [hsome, bind, Except.bind, pure, Except.pure]

end Url

-- ============================================================== endpoints

namespace DirectoryScheme

/-- A scheme is known by its name, to the letter. -/
theorem ofName?_eq_some_iff {text : String} {scheme : DirectoryScheme} :
    ofName? text = some scheme ↔ scheme.name = text := by
  constructor
  · intro h
    unfold ofName? at h
    split at h
    · rename_i hname
      cases h
      exact hname.symm
    · split at h
      · rename_i hname
        cases h
        exact hname.symm
      · cases h
  · intro h
    subst h
    cases scheme with
    | ldap => decide
    | ldaps => decide

/-- To a URL parser either scheme is one like any other. -/
theorem kind_name (scheme : DirectoryScheme) :
    Url.SchemeKind.of scheme.name = .other := by
  cases scheme with
  | ldap => decide
  | ldaps => decide

end DirectoryScheme

namespace Endpoint

variable {e : Endpoint} {text : String}

/-- The URL of an endpoint, character by character. -/
theorem toList_url (e : Endpoint) :
    e.url.toList = e.scheme.name.toList
      ++ ':' :: '/' :: '/' :: (e.host.toList
        ++ ':' :: Nat.toDigits 10 e.portNumber.toNat) := by
  simp [url, Nat.toString_eq_repr, Nat.toList_repr]

/-- An endpoint that can be read from a URL: it has a host, and that is one in
print. -/
structure Legible (e : Endpoint) : Prop where
  host_ne_empty : e.host ≠ ""
  printed : Host.Printed e.host.toList

/-- A URL that an endpoint was read from has the host of the endpoint in it,
spelled as it may be. -/
theorem ofUrl_inv (h : ofUrl text = .ok e) :
    e.host ≠ "" ∧ ∃ span, span ⊆ text.toList
      ∧ Host.parseOpaque span = .ok e.host.toList := by
  unfold ofUrl at h
  split at h
  · cases h
  · rename_i parts hparts
    obtain ⟨name, host, port⟩ := parts
    split at h
    · cases h
    · rename_i scheme hscheme
      split at h
      · cases h
      · rename_i host' hhost
        dsimp only at hhost hscheme
        rw [hhost] at hparts
        cases h
        have hname := DirectoryScheme.ofName?_eq_some_iff.1 hscheme
        exact Url.parse_inv hparts (hname ▸ scheme.kind_name)

/-- What was read from a URL can be read from one again. -/
theorem legible_of_ofUrl (h : ofUrl text = .ok e) : e.Legible := by
  obtain ⟨hsome, span, -, hread⟩ := ofUrl_inv h
  exact ⟨hsome, Host.printed_of_parseOpaque hread⟩

/-- No comma is read into a host. -/
theorem comma_not_mem_host (h : ofUrl text = .ok e)
    (hcomma : ',' ∉ text.toList) : ',' ∉ e.host.toList := by
  obtain ⟨-, span, hspan, hread⟩ := ofUrl_inv h
  exact fun hc => hcomma (hspan (Host.comma_mem_of_parseOpaque hread hc))

/-- The URL that an endpoint prints as is made of printable ASCII. -/
theorem graphic_url (h : e.Legible) :
    ∀ c ∈ e.url.toList, 0x20 < c.toNat ∧ c.toNat < 0x7f := by
  intro c hc
  rw [toList_url] at hc
  have hname : e.scheme.name.toList.all
      (fun c => 0x20 < c.toNat && c.toNat < 0x7f) = true := by
    cases e.scheme with
    | ldap => decide
    | ldaps => decide
  rcases List.mem_append.1 hc with hc | hc
  · simpa using List.all_eq_true.1 hname c hc
  · simp only [List.mem_cons] at hc
    rcases hc with rfl | rfl | rfl | hc
    · decide
    · decide
    · decide
    · have hhost := Url.isHostChar_rendered h.printed e.portNumber c hc
      simp only [Host.isHostChar, Bool.and_eq_true, decide_eq_true_eq] at hhost
      omega

/-- There is a comma in the URL that an endpoint prints as only if there is one
in the host. -/
theorem comma_not_mem_url (h : ',' ∉ e.host.toList) : ',' ∉ e.url.toList := by
  intro hmem
  rw [toList_url] at hmem
  have hname : ',' ∉ e.scheme.name.toList := by
    cases e.scheme with
    | ldap => decide
    | ldaps => decide
  have hport : ',' ∉ Nat.toDigits 10 e.portNumber.toNat := by
    intro hdigit
    have := Nat.isDigit_of_mem_toDigits (by decide) (by decide) hdigit
    revert this
    decide
  simp [hname, hport, h] at hmem

/-- There is no blank in the URL that an endpoint prints as. -/
theorem not_isBlank_url (h : e.Legible) :
    ∀ c ∈ e.url.toList, Text.isBlank c = false := by
  intro c hc
  have hgraphic := graphic_url h c hc
  simp only [Text.isBlank, Bool.or_eq_false_iff, Bool.and_eq_false_iff,
    decide_eq_false_iff_not]
  omega

/-- A URL has a scheme in it, so it is not empty. -/
theorem url_ne_empty (e : Endpoint) : e.url ≠ "" := by
  intro h
  have hlist := toList_url e
  rw [h] at hlist
  simp at hlist

/-- An endpoint is read back from the URL it prints as. -/
theorem ofUrl_url (h : e.Legible) : ofUrl e.url = .ok e := by
  have hhost : e.host.toList ≠ [] := by simpa using h.host_ne_empty
  -- in print, so nothing is cleaned away
  have hclean := Url.clean_eq_self fun c hc => (graphic_url h c hc).1
  have hscheme : Url.scheme? e.url.toList = some (e.scheme.name,
      '/' :: '/' :: (e.host.toList
        ++ ':' :: Nat.toDigits 10 e.portNumber.toNat)) := by
    rw [toList_url]
    cases e.scheme with
    | ldap => rfl
    | ldaps => rfl
  have hkind := e.scheme.kind_name
  have hparse : Url.parse e.url
      = .ok ⟨e.scheme.name, some e.host, some e.portNumber⟩ := by
    unfold Url.parse
    rw [hclean, hscheme]
    simp only [hkind, Url.authority_printed h.printed hhost]
    simp [bind, Except.bind, pure, Except.pure]
  have hname := DirectoryScheme.ofName?_eq_some_iff.2 (Eq.refl e.scheme.name)
  unfold ofUrl
  rw [hparse]
  simp [hname]

end Endpoint

-- ================================================================= lists

/-- The items of a list that was cut at its commas: of each piece what is left
without the blanks at its ends, and nothing of a blank piece. -/
inductive Itemized : List (List Char) → List String → Prop
  | none : Itemized [] []
  | blank {piece : List Char} {pieces : List (List Char)} {items : List String}
    (h : ∀ c ∈ piece, Text.isBlank c = true) (rest : Itemized pieces items) :
    Itemized (piece :: pieces) items
  | item {left right : List Char} {text : String} {pieces : List (List Char)}
    {items : List String} (hsome : text ≠ "")
    (hleft : ∀ c ∈ left, Text.isBlank c = true)
    (hfront : ∀ c, text.toList.head? = some c → Text.isBlank c = false)
    (hback : ∀ c, text.toList.getLast? = some c → Text.isBlank c = false)
    (hright : ∀ c ∈ right, Text.isBlank c = true)
    (rest : Itemized pieces items) :
    Itemized ((left ++ text.toList ++ right) :: pieces) (text :: items)

namespace Endpoints

variable {pieces : List (List Char)} {xs : List String} {text : String}

/-- What `items` makes of the pieces of a text. -/
theorem itemized_iff : Itemized pieces xs ↔
    (pieces.map fun cs => String.ofList (Text.strip Text.isBlank cs)).filter
      (· ≠ "") = xs := by
  constructor
  · intro h
    induction h with
    | none => rfl
    | blank h _ ih =>
      rw [List.map_cons, Text.strip_eq_nil_iff.2 h,
        List.filter_cons_of_neg (by simp), ih]
    | item hsome hleft hfront hback hright _ ih =>
      rw [List.map_cons, Text.strip_pad hleft hright,
        Text.strip_eq_self hfront hback, String.ofList_toList,
        List.filter_cons_of_pos (by simpa using hsome), ih]
  · intro h
    subst h
    induction pieces with
    | nil => exact .none
    | cons piece pieces ih =>
      -- the blanks at both ends and what is between them
      obtain ⟨left, right, hpiece, hleft, hright, hfront, hback⟩ :=
        Text.exists_strip Text.isBlank piece
      by_cases hsome : Text.strip Text.isBlank piece = []
      · rw [List.map_cons, List.filter_cons_of_neg (by simp [hsome])]
        exact .blank (Text.strip_eq_nil_iff.1 hsome) ih
      · have htext : String.ofList (Text.strip Text.isBlank piece) ≠ "" := by
          simp [hsome]
        rw [List.map_cons, List.filter_cons_of_pos (by simp [hsome])]
        have hitem := Itemized.item htext hleft (by simpa using hfront)
          (by simpa using hback) hright ih
        rwa [String.toList_ofList, ← hpiece] at hitem

/-- There is nothing in an item that is not in a piece. -/
theorem mem_pieces_of_itemized (h : Itemized pieces xs) :
    ∀ text ∈ xs, ∃ piece ∈ pieces, text.toList ⊆ piece := by
  induction h with
  | none => simp
  | blank _ _ ih =>
    intro text htext
    obtain ⟨piece, hpiece, hsubset⟩ := ih text htext
    exact ⟨piece, List.mem_cons_of_mem _ hpiece, hsubset⟩
  | item _ _ _ _ _ _ ih =>
    intro text htext
    rcases List.mem_cons.1 htext with rfl | htext
    · refine ⟨_, List.mem_cons_self, fun c hc => ?_⟩
      exact List.mem_append_left _ (List.mem_append_right _ hc)
    · obtain ⟨piece, hpiece, hsubset⟩ := ih text htext
      exact ⟨piece, List.mem_cons_of_mem _ hpiece, hsubset⟩

/-- Texts without blanks and commas are the items of the list they make. -/
theorem items_intercalate (hsome : xs ≠ [])
    (htext : ∀ text ∈ xs, text ≠ "" ∧ ',' ∉ text.toList
      ∧ ∀ c ∈ text.toList, Text.isBlank c = false) :
    items (String.intercalate "," xs) = xs := by
  have hpieces : Text.pieces ',' (String.intercalate "," xs).toList
      = xs.map String.toList := by
    refine Text.pieces_eq_iff.2 ⟨by simpa using hsome, ?_, ?_⟩
    · intro piece hpiece
      obtain ⟨text, hmem, rfl⟩ := List.mem_map.1 hpiece
      exact (htext text hmem).2.1
    · rw [String.toList_intercalate]
      rfl
  unfold items
  rw [hpieces]
  apply itemized_iff.1
  -- the induction is on all lists of texts, the empty one too
  clear hsome hpieces
  induction xs with
  | nil => exact .none
  | cons text xs ih =>
    obtain ⟨⟨hne, -, hblank⟩, hrest⟩ := List.forall_mem_cons.1 htext
    have hitem := Itemized.item hne (List.forall_mem_nil _)
      (fun c hc => hblank c (List.mem_of_head? hc))
      (fun c hc => hblank c (List.mem_of_getLast? hc))
      (List.forall_mem_nil _) (ih hrest)
    simpa using hitem

/-- A URL is never at fault for a list that has none. -/
theorem ofUrl_ne_empty (text : String) :
    Endpoint.ofUrl text ≠ .error .empty := by
  unfold Endpoint.ofUrl
  split
  · simp
  · split
    · simp
    · split
      · simp
      · simp

/-- A list is read item by item, in order. -/
theorem parse_eq_ok_iff {es : Endpoints} :
    parse text = .ok es ↔ List.Forall₂
      (fun item e => Endpoint.ofUrl item = .ok e) (items text) es.list := by
  rw [← Text.mapM_eq_ok_iff]
  unfold parse
  cases hlist : (items text).mapM Endpoint.ofUrl with
  | error e => simp
  | ok list =>
    obtain ⟨list', hsome⟩ := es
    by_cases hnil : list = []
    · simpa [ofList, hnil] using hsome.symm
    · simp [ofList, hnil]

/-- A list fails for having no items, or by the first item that fails. -/
theorem parse_eq_error_iff {error : EndpointError} :
    parse text = .error error ↔
      (items text = [] ∧ error = .empty)
      ∨ ∃ before item after, items text = before ++ item :: after
        ∧ (∀ x ∈ before, ∃ e, Endpoint.ofUrl x = .ok e)
        ∧ Endpoint.ofUrl item = .error error := by
  rw [← Text.mapM_eq_error_iff]
  unfold parse
  cases hlist : (items text).mapM Endpoint.ofUrl with
  | error e =>
    have hsome : items text ≠ [] := by
      intro hnil
      rw [hnil] at hlist
      cases hlist
    simp [hsome]
  | ok list =>
    have hnil : items text = [] ↔ list = [] := by
      rw [← List.length_eq_zero_iff, ← List.length_eq_zero_iff,
        (Text.mapM_eq_ok_iff.1 hlist).length_eq]
    by_cases hsome : list = []
    · simp [hnil, ofList, hsome, eq_comm]
    · simp [hnil, ofList, hsome]

/-- An item is never called empty, so a list is for one reason. -/
theorem parse_eq_empty_iff : parse text = .error .empty ↔ items text = [] := by
  rw [parse_eq_error_iff]
  constructor
  · intro h
    rcases h with ⟨hnil, -⟩ | ⟨_, item, _, -, -, herror⟩
    · exact hnil
    · exact absurd herror (ofUrl_ne_empty item)
  · exact fun hnil => .inl ⟨hnil, rfl⟩

/-- The items of a text stand between its commas. -/
theorem itemized_items (text : String) :
    Itemized (Text.pieces ',' text.toList) (items text) :=
  itemized_iff.2 rfl

/-- An endpoint of a list can be read from a URL without a comma. -/
theorem legible_of_parse {es : Endpoints} (h : parse text = .ok es) :
    ∀ e ∈ es.list, e.Legible ∧ ',' ∉ e.host.toList := by
  intro e he
  obtain ⟨item, hitem, hread⟩ :=
    Text.exists_of_forall₂ (parse_eq_ok_iff.1 h) he
  obtain ⟨piece, hpiece, hsubset⟩ :=
    mem_pieces_of_itemized (itemized_items text) item hitem
  have hfree := (Text.pieces_eq_iff.1 rfl).2.1 piece hpiece
  exact ⟨Endpoint.legible_of_ofUrl hread,
    Endpoint.comma_not_mem_host hread fun hc => hfree (hsubset hc)⟩

/-- The lists that are read back from the URLs of their endpoints. -/
theorem parse_urls_iff {es : Endpoints} :
    parse (String.intercalate "," (es.list.map Endpoint.url)) = .ok es ↔
      ∀ e ∈ es.list, e.Legible ∧ ',' ∉ e.host.toList := by
  refine ⟨legible_of_parse, fun h => ?_⟩
  have hitems : items (String.intercalate "," (es.list.map Endpoint.url))
      = es.list.map Endpoint.url := by
    refine items_intercalate (by simpa using es.nonempty) fun url hurl => ?_
    obtain ⟨e, he, rfl⟩ := List.mem_map.1 hurl
    obtain ⟨hlegible, hcomma⟩ := h e he
    exact ⟨Endpoint.url_ne_empty e, Endpoint.comma_not_mem_url hcomma,
      Endpoint.not_isBlank_url hlegible⟩
  rw [parse_eq_ok_iff, hitems, List.forall₂_map_left_iff, List.forall₂_same]
  exact fun e he => Endpoint.ofUrl_url (h e he).1

/-- A text is a list of endpoints in one way: it is cut at its commas, the
blanks at the ends of the pieces and the blank pieces are left out, and the
items that remain are read in their order, until one fails. Without items there
is no list. What was read has a host everywhere and is read back from the URLs
it prints as, as is every list whose hosts are in print and without commas. -/
theorem endpoints_exact (text : String) :
    ∃ pieces items, (pieces ≠ [] ∧ (∀ piece ∈ pieces, ',' ∉ piece)
        ∧ text.toList = [','].intercalate pieces)
      ∧ Itemized pieces items
      ∧ (∀ es : Endpoints, parse text = .ok es ↔ List.Forall₂
          (fun item e => Endpoint.ofUrl item = .ok e) items es.list)
      ∧ (∀ error, parse text = .error error ↔
          (items = [] ∧ error = .empty)
          ∨ ∃ before item after, items = before ++ item :: after
            ∧ (∀ x ∈ before, ∃ e, Endpoint.ofUrl x = .ok e)
            ∧ Endpoint.ofUrl item = .error error)
      ∧ (parse text = .error .empty ↔ items = [])
      ∧ (∀ es, parse text = .ok es →
          es.list ≠ [] ∧ (∀ e ∈ es.list, e.host ≠ "")
          ∧ parse (String.intercalate "," (es.list.map Endpoint.url))
              = .ok es)
      ∧ ∀ es : Endpoints,
          parse (String.intercalate "," (es.list.map Endpoint.url)) = .ok es ↔
            ∀ e ∈ es.list, e.Legible ∧ ',' ∉ e.host.toList := by
  refine ⟨Text.pieces ',' text.toList, items text, Text.pieces_eq_iff.1 rfl,
    itemized_items text, fun es => parse_eq_ok_iff,
    fun error => parse_eq_error_iff, parse_eq_empty_iff, ?_,
    fun es => parse_urls_iff⟩
  intro es hparse
  have hlegible := legible_of_parse hparse
  exact ⟨es.nonempty, fun e he => (hlegible e he).1.host_ne_empty,
    parse_urls_iff.2 hlegible⟩

end Endpoints

namespace Rehearsal

/-- Two servers, in any spelling: an address with zeros to spare and a port
number in front of one that goes without saying, a host that is not ASCII
behind a user, and a blank piece in between. -/
theorem endpoints_exact_rehearsal :
    let text := " LDAP://[2001:DB8:0:0:1::]:636 , ,\tldaps://me@Bücher:0636/x"
    let first : Endpoint := ⟨.ldap, "[2001:db8:0:0:1::]", 636⟩
    let second : Endpoint := ⟨.ldaps, "B%C3%BCcher", 636⟩
    let es : Endpoints := ⟨[first, second], by simp⟩
    Endpoints.parse text = .ok es
      ∧ Endpoints.parse "ldap://[2001:db8:0:0:1::]:636,ldaps://B%C3%BCcher:636"
          = .ok es := by
  intro text first second es
  have hparse : Endpoints.parse text = .ok es := by decide +kernel
  obtain ⟨_, _, -, -, -, -, -, hread, -⟩ := Endpoints.endpoints_exact text
  refine ⟨hparse, ?_⟩
  have hurls : String.intercalate "," (es.list.map Endpoint.url)
      = "ldap://[2001:db8:0:0:1::]:636,ldaps://B%C3%BCcher:636" := by
    decide +kernel
  rw [← hurls]
  exact (hread es hparse).2.2

end Rehearsal

end SaslGate
