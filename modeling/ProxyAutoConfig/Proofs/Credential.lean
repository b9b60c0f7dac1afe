import ProxyAutoConfig.Credential
import ProxyAutoConfig.Proofs.Text.Base64
import ProxyAutoConfig.Proofs.Text.Cut
import ProxyAutoConfig.Proofs.Text.Utf8

/-!
# Credentials and their tokens

A credential and its token determine each other: a token is read as a credential when it is the token
of that credential (`parse_eq_ok`), since the user name has no colon at which the token could be cut
too early. What a request carries is the token in Base64, so it determines the token as well.

**The law** (`parse_spelled`): the tokens that are read are those of one grammar (`Spells`), and what
comes of them is what the grammar says they spell.
-/

namespace ProxyAutoConfig.Credential

open ProxyAutoConfig.Text

variable {c c' : Credential} {text text' username password : String}

/-- Two parts make the credential that they are the parts of. -/
theorem ofParts_eq_ok : ofParts username password = .ok c ↔
    c.username = username ∧ c.password = password := by
  constructor
  · intro made
    rw [ofParts_eq] at made
    split at made
    · cases made
    · split at made
      · cases made
        exact ⟨rfl, rfl⟩
      · cases made
  · rintro ⟨rfl, rfl⟩
    exact c.ofParts_self

/-- **The grammar of tokens**: a user name and a password with a colon between them. Neither is empty or
has a blank in it, and the user name has no colon. -/
structure Spells (text username password : String) : Prop where
  whole : text = username ++ ":" ++ password
  username_ne : username ≠ ""
  password_ne : password ≠ ""
  colon : ':' ∉ username.toList
  username_solid : ∀ c ∈ username.toList, isBlank c = false
  password_solid : ∀ c ∈ password.toList, isBlank c = false

/-- What the grammar asks of the two parts is what a credential asks of them. -/
theorem spells_iff :
    Spells text username password ↔
      text = username ++ ":" ++ password ∧ Fits username password := by
  constructor
  · rintro ⟨whole, named, secret, colon, solid, solid'⟩
    refine ⟨whole, ?_, ?_, colon, ?_, ?_⟩
    · simpa using named
    · simpa using secret
    · simpa using solid
    · simpa using solid'
  · rintro ⟨whole, named, secret, colon, solid, solid'⟩
    refine ⟨whole, ?_, ?_, colon, forall_of_any_eq_false solid, forall_of_any_eq_false solid'⟩
    · simpa using named
    · simpa using secret

/-- The token is the two parts with a colon between them. -/
theorem token_eq (c : Credential) : c.token = c.username ++ ":" ++ c.password := by
  rw [← String.toList_inj, token, String.toList_ofList, String.toList_append, String.toList_append,
    List.append_assoc]
  rfl

/-- **A text is read as the credential of which it is the token**, and as no other one. -/
theorem parse_eq_ok : parse text = .ok c ↔ text = c.token := by
  constructor
  · intro read
    unfold parse at read
    split at read
    · next user secret cut =>
      obtain ⟨named, kept⟩ := ofParts_eq_ok.mp read
      rw [← String.toList_inj, token, String.toList_ofList, named, kept, String.toList_ofList,
        String.toList_ofList]
      exact (eq_of_cutFirst? cut).1
    · cases read
  · rintro rfl
    have cut := cutFirst?_append c.fits.2.2.1 c.password.toList
    rw [parse, token, String.toList_ofList, cut]
    simp only [String.ofList_toList, ofParts_self]

/-- A text is the token of a credential when it spells the two parts of it. -/
theorem spells_parts_iff : Spells text c.username c.password ↔ text = c.token := by
  rw [spells_iff, token_eq, and_iff_left c.fits]

/-! ## What a request carries -/

/-- The token is found again in its digits. -/
theorem decode_base64 (c : Credential) :
    (Base64.decode c.base64.toList).map Utf8.decode = some (.ok c.token.toList) := by
  rw [base64, String.toList_ofList, Base64.encodeText, Base64.decode_encode, Option.map_some,
    Utf8.decode_eq_ok.mpr rfl]

/-- **Credentials with one header have one token.** -/
theorem token_eq_of_header_eq (same : c.header = c'.header) : c.token = c'.token := by
  have digits : c.base64 = c'.base64 := by
    rw [header, header, ← String.toList_inj, String.toList_append, String.toList_append] at same
    exact String.toList_inj.mp (List.append_cancel_left same)
  have texts := decode_base64 c
  rw [digits, decode_base64 c'] at texts
  exact String.toList_inj.mp (Except.ok.inj (Option.some.inj texts)).symm

/-! ## The grammar -/

/-- **The credential is the one that the text spells**: it has the two parts, a request carries the
text, and the password is shown as stars. -/
structure IsSpelled (c : Credential) (text username password : String) : Prop where
  username_eq : c.username = username
  password_eq : c.password = password
  carried : (Base64.decode c.base64.toList).map Utf8.decode = some (.ok text.toList)
  shown_eq : c.shown = username ++ ":" ++ String.ofList (List.replicate password.length '*')

/-- A text of the grammar is read as the credential that it spells. -/
theorem exists_parse_of_spells (spells : Spells text username password) :
    ∃ c, parse text = .ok c ∧ c.IsSpelled text username password := by
  obtain ⟨whole, fits⟩ := spells_iff.mp spells
  let c : Credential := ⟨username, password, fits⟩
  have own : text = c.token := whole.trans (token_eq c).symm
  refine ⟨c, parse_eq_ok.mpr own, rfl, rfl, own ▸ decode_base64 c, ?_⟩
  rw [shown, shownParts, ← String.toList_inj]
  simp [Redaction.mask, c, List.map_const', String.length_toList]

/-- **Credentials are read from the texts of one grammar.** A text is read as a credential when it
spells the two parts of it; a text that spells two parts is read; different texts go into different
headers; and two parts make a credential where the text with a colon between them is read as it, and the
first part has no colon of its own. -/
theorem parse_spelled :
    (∀ text c, parse text = .ok c ↔ Spells text c.username c.password) ∧
    (∀ text username password, Spells text username password →
      ∃ c, parse text = .ok c ∧ c.IsSpelled text username password) ∧
    (∀ text text' c c', parse text = .ok c → parse text' = .ok c' → c.header = c'.header →
      text = text') ∧
    ∀ username password c, ofParts username password = .ok c ↔
      ':' ∉ username.toList ∧ parse (username ++ ":" ++ password) = .ok c := by
  refine ⟨fun text c => ?_, fun text username password => exists_parse_of_spells,
    fun text text' c c' read read' same => ?_, fun username password c => ?_⟩
  · rw [parse_eq_ok, spells_parts_iff]
  · rw [parse_eq_ok.mp read, parse_eq_ok.mp read', token_eq_of_header_eq same]
  · rw [ofParts_eq_ok]
    constructor
    · rintro ⟨rfl, rfl⟩
      exact ⟨c.fits.2.2.1, parse_eq_ok.mpr (token_eq c).symm⟩
    · rintro ⟨absent, read⟩
      have whole : username ++ ":" ++ password = c.username ++ ":" ++ c.password :=
        (parse_eq_ok.mp read).trans (token_eq c)
      have parts : username.toList ++ ':' :: password.toList =
          c.username.toList ++ ':' :: c.password.toList := by
        simpa using congrArg String.toList whole
      obtain ⟨named, kept⟩ := append_mark_inj absent c.fits.2.2.1 parts
      exact ⟨(String.toList_inj.mp named).symm, (String.toList_inj.mp kept).symm⟩

/-- A password may have a colon. -/
theorem parse_spelled_colon :
    ∃ c, parse "user:pa:ss" = .ok c ∧ c.IsSpelled "user:pa:ss" "user" "pa:ss" :=
  parse_spelled.2.1 _ _ _
    ⟨by decide, by decide, by decide, by decide, forall_of_any_eq_false (by decide),
      forall_of_any_eq_false (by decide)⟩

end ProxyAutoConfig.Credential
