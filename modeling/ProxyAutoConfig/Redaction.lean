import ProxyAutoConfig.Text.Cut

/-!
# Hiding passwords

A hidden password keeps its length and nothing else: every character becomes `*`.

`uri` works on raw text, so that what does not parse as a URI can still be shown. It looks only
at the text between the first `://` and the next `/`, `?` or `#`: up to the last `@` there
stands the user information, and what follows its first `:` is hidden.
-/

namespace ProxyAutoConfig.Redaction

open ProxyAutoConfig.Text

/-- One star for every character. -/
def mask (secret : List Char) : List Char :=
  secret.map fun _ => '*'

/-- A character that ends the authority of a URI. -/
def endsAuthority (c : Char) : Bool :=
  c = '/' || c = '?' || c = '#'

/-- User information with its password hidden. -/
def userinfo (cs : List Char) : List Char :=
  match cutFirst? ':' cs with
  | some (user, password) => user ++ ':' :: mask password
  | none => cs

/-- An authority with the password of its user information hidden. -/
def authority (cs : List Char) : List Char :=
  match cutLast? '@' cs with
  | some (info, host) => userinfo info ++ '@' :: host
  | none => cs

/-- A URI-like text with its password hidden. -/
def uri (raw : List Char) : List Char :=
  match cut? [':', '/', '/'] raw with
  | some (scheme, rest) =>
    scheme ++ [':', '/', '/'] ++ authority (rest.takeWhile (!endsAuthority ·)) ++
      rest.dropWhile (!endsAuthority ·)
  | none => raw

/-- `uri` on strings. -/
def uriText (raw : String) : String :=
  String.ofList (uri raw.toList)

/-- Hiding keeps the length. -/
@[simp] theorem length_mask (secret : List Char) : (mask secret).length = secret.length := by
  simp [mask]

/-- What is hidden depends on the length alone. -/
theorem mask_eq_of_length {a b : List Char} (h : a.length = b.length) : mask a = mask b := by
  simp [mask, List.map_const', h]

end ProxyAutoConfig.Redaction
