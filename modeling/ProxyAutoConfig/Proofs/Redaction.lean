import Mathlib.Data.List.DropRight
import ProxyAutoConfig.Proofs.Url.Login
import ProxyAutoConfig.Redaction

/-!
# Hidden passwords

Hiding works on raw text and knows nothing of URLs. Where a text is plainly a scheme, a user name, a
password and more, it hides the password: what is left tells the password's length alone
(`exists_uriText_loginText`), and is read as the same URL with stars for its password
(`parse_uriText_loginText`).

A text may be a URL without being plain in this sense. Three slashes in place of two, or a line end
between the scheme and its slashes, do not matter to whoever reads the URL, but keep the password
from being found.
-/

namespace ProxyAutoConfig.Redaction

open ProxyAutoConfig.Text ProxyAutoConfig.Url

variable {scheme user secret place : List Char}

/-! ## What is hidden -/

/-- Whatever ends an authority here ends one in a URL. -/
theorem endsAuthority_of_url {special : Bool} {c : Char}
    (goesOn : Url.endsAuthority special c = false) : endsAuthority c = false := by
  simp only [Url.endsAuthority, Bool.or_eq_false_iff, beq_eq_false_iff_ne] at goesOn
  simp only [endsAuthority, Bool.or_eq_false_iff, decide_eq_false_iff_not]
  exact goesOn.1

/-- A mask is made of stars. -/
theorem eq_star_of_mem_mask {c : Char} (mem : c ∈ mask secret) : c = '*' := by
  obtain ⟨_, _, rfl⟩ := List.mem_map.mp mem
  rfl

/-- **Of a text with a login, the password is hidden**, together with what follows it up to a
further at sign, if there is one. -/
theorem exists_uriText_loginText (login : IsLogin scheme user) (place : List Char) :
    ∃ extra behind,
      ('@' ∉ place.takeWhile (!endsAuthority ·) → extra = [] ∧ behind = place) ∧
      ∀ secret, (∀ c ∈ secret, Url.endsAuthority (isSpecialScheme scheme) c = false) →
        uriText (loginText scheme user secret place) =
          loginText scheme user (mask (secret ++ extra)) behind := by
  obtain ⟨extra, last, alone, cut⟩ :=
    exists_cutLast?_append '@' (place.takeWhile (!endsAuthority ·))
  refine ⟨extra, last ++ place.dropWhile (!endsAuthority ·), fun single => ?_, ?_⟩
  · obtain ⟨rfl, rfl⟩ := alone single
    exact ⟨rfl, List.takeWhile_append_dropWhile⟩
  · intro secret goesOn
    have inside : ∀ c ∈ user ++ ':' :: secret ++ ['@'], (!endsAuthority c) = true := by
      intro c mem
      suffices on : endsAuthority c = false by rw [on]; rfl
      rcases List.mem_append.mp mem with mem | last
      · rcases List.mem_append.mp mem with front | back
        · exact endsAuthority_of_url (login.goesOn c front)
        · rcases List.mem_cons.mp back with rfl | back
          · decide
          · exact endsAuthority_of_url (goesOn c back)
      · rw [List.mem_singleton.mp last]
        decide
    have found : cut? [':', '/', '/'] (loginText scheme user secret place).toList =
        some (scheme, user ++ ':' :: secret ++ ['@'] ++ place) := by
      rw [loginText, String.toList_ofList]
      simpa only [List.cons_append, List.append_assoc, List.nil_append] using
        cut?_append login.ends ['/', '/'] (user ++ ':' :: secret ++ ['@'] ++ place)
    have hidden : authority (user ++ ':' :: secret ++ '@' :: place.takeWhile (!endsAuthority ·)) =
        user ++ ':' :: mask (secret ++ extra) ++ '@' :: last := by
      rw [authority, cut]
      simp only
      rw [userinfo, List.append_assoc, List.cons_append, cutFirst?_append login.colon]
    rw [uriText, uri, found]
    simp only
    rw [List.takeWhile_append_of_pos inside, List.dropWhile_append_of_pos inside,
      List.append_assoc _ ['@'], List.singleton_append, hidden, loginText]
    simp only [List.cons_append, List.append_assoc, List.nil_append]

/-- So texts whose passwords are of one length look alike. -/
theorem uriText_loginText_eq (login : IsLogin scheme user) (place : List Char)
    {secret' : List Char}
    (goesOn : ∀ c ∈ secret, Url.endsAuthority (isSpecialScheme scheme) c = false)
    (goesOn' : ∀ c ∈ secret', Url.endsAuthority (isSpecialScheme scheme) c = false)
    (length : secret.length = secret'.length) :
    uriText (loginText scheme user secret place) =
      uriText (loginText scheme user secret' place) := by
  obtain ⟨extra, behind, _, hidden⟩ := exists_uriText_loginText login place
  have masks : mask (secret ++ extra) = mask (secret' ++ extra) :=
    mask_eq_of_length (by rw [List.length_append, List.length_append, length])
  rw [hidden secret goesOn, hidden secret' goesOn', masks]

/-! ## Read again -/

/-- What stands in the authority of a tidied text stands in that of the text itself. -/
theorem mem_takeWhile_of_kept {p q : Char → Bool} (weaker : ∀ c, p c = true → q c = true)
    (skips : ∀ c, isSkipped c = true → q c = true) {cs rest : List Char} {c : Char}
    (mem : c ∈ (kept cs).takeWhile p) : c ∈ (cs ++ rest).takeWhile q := by
  induction cs with
  | nil => cases mem
  | cons d ds ih =>
    rw [List.cons_append]
    cases skipped : isSkipped d with
    | true =>
      have dropped : kept (d :: ds) = kept ds := List.filter_cons_of_neg (by rw [skipped]; decide)
      rw [dropped] at mem
      rw [List.takeWhile_cons_of_pos (skips d skipped)]
      exact List.mem_cons_of_mem _ (ih mem)
    | false =>
      have taken : kept (d :: ds) = d :: kept ds := List.filter_cons_of_pos (by rw [skipped]; rfl)
      rw [taken] at mem
      cases here : p d with
      | true =>
        rw [List.takeWhile_cons_of_pos here] at mem
        rw [List.takeWhile_cons_of_pos (weaker d here)]
        rcases List.mem_cons.mp mem with rfl | behind
        · exact List.mem_cons_self
        · exact List.mem_cons_of_mem _ (ih behind)
      | false =>
        rw [List.takeWhile_cons_of_neg (by rw [here]; decide)] at mem
        cases mem

/-- An authority that is read in a URL is no longer than the one that is looked at here. -/
theorem not_mem_authorityOf (special : Bool) (single : '@' ∉ place.takeWhile (!endsAuthority ·)) :
    '@' ∉ authorityOf special (relevantBack place) := by
  obtain ⟨padding, whole⟩ := List.rdropWhile_prefix (p := isPadding) place
  have weaker : ∀ c, (!Url.endsAuthority special c) = true → (!endsAuthority c) = true := by
    intro c on
    rw [Bool.not_eq_true'] at on ⊢
    exact endsAuthority_of_url on
  have skips : ∀ c, isSkipped c = true → (!endsAuthority c) = true := by
    intro c skipped
    simp only [isSkipped, Bool.or_eq_true, beq_iff_eq] at skipped
    rcases skipped with (rfl | rfl) | rfl <;> decide
  intro mem
  have there : '@' ∈ (place.rdropWhile isPadding ++ padding).takeWhile (!endsAuthority ·) :=
    mem_takeWhile_of_kept weaker skips mem
  rw [whole] at there
  exact single there

/-- Stars need no encoding. -/
theorem encodeUserinfo_mask (secret : List Char) :
    encodeUserinfo (mask secret) = String.ofList (mask secret) := by
  rw [encodeUserinfo, Percent.encode_of_plain fun c mem => ?_]
  rw [eq_star_of_mem_mask mem]
  decide

/-- Stars are a password too. -/
theorem isSecret_mask (isSecret : IsSecret scheme secret) :
    IsSecret scheme (mask secret) ∧ kept (mask secret) = mask secret := by
  have stars : kept (mask secret) = mask secret := kept_of_visible fun c mem => by
    rw [eq_star_of_mem_mask mem]
    decide
  refine ⟨⟨?_, fun c mem => ?_⟩, stars⟩
  · rw [stars]
    intro nothing
    have length := congrArg List.length nothing
    rw [length_mask] at length
    exact isSecret.nonempty (by rw [List.length_eq_zero_iff.mp length]; rfl)
  · rw [eq_star_of_mem_mask mem]
    cases isSpecialScheme scheme <;> decide

/-- **A URL whose password has been hidden is the same URL with stars for its password**, where the
text is plainly one with a login. -/
theorem parse_uriText_loginText (login : IsLogin scheme user) (isSecret : IsSecret scheme secret)
    (single : '@' ∉ place.takeWhile (!endsAuthority ·)) :
    uriText (loginText scheme user secret place) = loginText scheme user (mask secret) place ∧
    parse (loginText scheme user (mask secret) place) =
      (parse (loginText scheme user secret place)).map fun url =>
        { url with password := some (String.ofList (mask secret)) } := by
  obtain ⟨hiddenExtra, behind, alone, hidden⟩ := exists_uriText_loginText login place
  obtain ⟨rfl, rfl⟩ := alone single
  obtain ⟨outcome, extra, alone, each⟩ := exists_parse_loginText login behind
  obtain rfl := alone (not_mem_authorityOf _ single)
  obtain ⟨isMask, stars⟩ := isSecret_mask isSecret
  refine ⟨by rw [hidden secret isSecret.goesOn, List.append_nil], ?_⟩
  rw [each secret isSecret, each _ isMask, stars, List.append_nil]
  cases outcome with
  | error flaw => rfl
  | ok url =>
    rw [← encodeUserinfo_mask]
    rfl

end ProxyAutoConfig.Redaction
