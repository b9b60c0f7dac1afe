import ProxyAutoConfig.Failure
import ProxyAutoConfig.Redaction
import ProxyAutoConfig.Text.Base64
import ProxyAutoConfig.Text.Blank
import ProxyAutoConfig.Text.Quoted

/-!
# Credentials

A user name and a password for basic authentication. Neither part is empty, neither holds a
blank, and the user name holds no colon: so a token `user:password` is read in one way only, by
cutting it at its first colon.

`shown` and `detail` hide the password.
-/

namespace ProxyAutoConfig

open ProxyAutoConfig.Text

/-- What both parts of a credential must satisfy. -/
def Credential.Fits (username password : String) : Prop :=
  username.toList ≠ [] ∧ password.toList ≠ [] ∧ ':' ∉ username.toList ∧
    username.toList.any isBlank = false ∧ password.toList.any isBlank = false

instance (username password : String) : Decidable (Credential.Fits username password) :=
  inferInstanceAs (Decidable (_ ∧ _))

/-- A user name and a password for basic authentication. -/
structure Credential where
  username : String
  password : String
  fits : Credential.Fits username password
  deriving DecidableEq

namespace Credential

/-- Why two parts, or a token, make no credential. -/
inductive Flaw where
  /-- A part is empty. -/
  | partMissing
  /-- The token has no colon. -/
  | noColon
  /-- A part holds a blank, or the user name a colon; the redacted form tells which parts. -/
  | malformed (shown : String)
  deriving DecidableEq, Repr

/-- The wording of a flaw. -/
def Flaw.message : Flaw → String
  | partMissing => "username and password are required"
  | noColon => "expected username:password"
  | malformed shown => "`" ++ shown ++ "` is not in username:password form"

/-- A flaw as a failure. -/
def Flaw.toFailure (flaw : Flaw) : Failure :=
  .invalidCredential flaw.message

/-- The user name, a colon and one star for every character of the password. -/
def shownParts (username password : String) : String :=
  String.ofList (username.toList ++ ':' :: Redaction.mask password.toList)

/-- The shape of a token: there is something in front of its first colon and something behind it,
and neither holds a blank. -/
def hasShape (token : List Char) : Bool :=
  match cutFirst? ':' token with
  | some (front, back) =>
    !front.isEmpty && !front.any isBlank && !back.isEmpty && !back.any isBlank
  | none => false

/-- **The two parts of a token that has the shape fit**, where the colon between them is its first
one. -/
theorem fits_iff_hasShape {username password : String} :
    Fits username password ↔
      ':' ∉ username.toList ∧ hasShape (username.toList ++ ':' :: password.toList) = true := by
  constructor
  · rintro ⟨named, secret, absent, solid, solid'⟩
    refine ⟨absent, ?_⟩
    simp only [hasShape, cutFirst?_append absent, solid, solid', List.isEmpty_eq_false_iff.mpr named,
      List.isEmpty_eq_false_iff.mpr secret, Bool.not_false, Bool.and_self]
  · rintro ⟨absent, shape⟩
    simp only [hasShape, cutFirst?_append absent, Bool.and_eq_true, Bool.not_eq_true',
      List.isEmpty_eq_false_iff] at shape
    obtain ⟨⟨⟨named, solid⟩, secret⟩, solid'⟩ := shape
    exact ⟨named, secret, absent, solid, solid'⟩

/-- The credential of two parts: the user name has no colon, and the token that the two make has the
shape of one. -/
def ofParts (username password : String) : Except Flaw Credential :=
  if username.toList.isEmpty || password.toList.isEmpty then .error .partMissing
  else if h : ':' ∈ username.toList ∨
      hasShape (username.toList ++ ':' :: password.toList) = false then
    .error (.malformed (shownParts username password))
  else
    .ok ⟨username, password, fits_iff_hasShape.mpr
      ⟨fun colon => h (.inl colon), eq_true_of_ne_false fun misshapen => h (.inr misshapen)⟩⟩

/-- The credential of a token, which is cut at its first colon. -/
def parse (token : String) : Except Flaw Credential :=
  match cutFirst? ':' token.toList with
  | some (username, password) => ofParts (String.ofList username) (String.ofList password)
  | none => .error .noColon

/-- The token of a credential. -/
def token (c : Credential) : String :=
  String.ofList (c.username.toList ++ ':' :: c.password.toList)

/-- The token in Base64, as a request for basic authentication carries it. -/
def base64 (c : Credential) : String :=
  String.ofList (Base64.encodeText c.token.toList)

/-- The value of the header that sends a credential. -/
def header (c : Credential) : String :=
  "Basic " ++ c.base64

/-- The user name, and stars for the password. -/
def shown (c : Credential) : String :=
  shownParts c.username c.password

/-- The parts by name, the password in stars. -/
def detail (c : Credential) : String :=
  "Credential \x7b username: " ++ quoted c.username ++ ", password: " ++
    quoted (String.ofList (Redaction.mask c.password.toList)) ++ " \x7d"

/-- **Two parts are tested together for what is asked of each of them**: the test of the token that they
make agrees with it. -/
theorem ofParts_eq (username password : String) : ofParts username password =
    if username.toList.isEmpty || password.toList.isEmpty then .error .partMissing
    else if h : Fits username password then .ok ⟨username, password, h⟩
    else .error (.malformed (shownParts username password)) := by
  unfold ofParts
  split
  · rfl
  · by_cases refused : ':' ∈ username.toList ∨
        hasShape (username.toList ++ ':' :: password.toList) = false
    · have unfit : ¬ Fits username password := fun fits => by
        obtain ⟨absent, shape⟩ := fits_iff_hasShape.mp fits
        rcases refused with colon | misshapen
        · exact absent colon
        · rw [shape] at misshapen
          cases misshapen
      rw [dif_pos refused, dif_neg unfit]
    · have fits : Fits username password := by
        rw [not_or, Bool.not_eq_false] at refused
        exact fits_iff_hasShape.mpr refused
      rw [dif_neg refused, dif_pos fits]

/-- Parts that fit make a credential. -/
theorem ofParts_of_fits {username password : String} (h : Fits username password) :
    ofParts username password = .ok ⟨username, password, h⟩ := by
  have hu : username.toList.isEmpty = false := List.isEmpty_eq_false_iff.mpr h.1
  have hp : password.toList.isEmpty = false := List.isEmpty_eq_false_iff.mpr h.2.1
  simp only [ofParts_eq, hu, hp, Bool.or_self, Bool.false_eq_true, if_false, dif_pos h]

/-- A credential is made of its own parts. -/
theorem ofParts_self (c : Credential) : ofParts c.username c.password = .ok c :=
  ofParts_of_fits c.fits

end Credential

end ProxyAutoConfig
