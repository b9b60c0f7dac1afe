import ProxyAutoConfig.Proofs.Proxy.Confinement
import ProxyAutoConfig.Proofs.Url.Reading

/-!
# One place under several schemes

The scheme and the path of an authority do not count, but the scheme decides how the host is read.
Authorities with one text `user:password@host:port` declare one credential, with one port, whatever
their schemes and paths are. Their hosts are the same where the schemes agree about the host's text:
where they are of one kind, where the host stands in brackets, and where it is plain. They need not
agree otherwise: a scheme with rules makes the letters of `EXAMPLE` small, and one without rules
leaves them, so that this host has two keys and a credential under one of them is not found under
the other.
-/

namespace ProxyAutoConfig

open ProxyAutoConfig.Text

/-! ## The host's text -/

/-- The text of the host that a text is, under a scheme. -/
def Host.textUnder? (scheme : String) (cs : List Char) : Option String :=
  (reading (Scheme.kind scheme).isSpecial cs).toOption.map text

/-- **Two schemes read a host's text in one way**, for a reason that can be seen: both have rules
for hosts or both have none, or the text is in brackets, or it is plain. -/
inductive Host.ReadAlike (scheme scheme' : String) (cs : List Char) : Prop
  | kind : (Scheme.kind scheme).isSpecial = (Scheme.kind scheme').isSpecial →
      ReadAlike scheme scheme' cs
  | brackets : cs.head? = some '[' → ReadAlike scheme scheme' cs
  | plain : IsPlainText cs → ReadAlike scheme scheme' cs

/-- A text in brackets is an address or no host, with and without rules. -/
theorem Host.reading_of_bracket {cs : List Char} (front : cs.head? = some '[') (special : Bool) :
    reading special cs = reading false cs := by
  obtain ⟨inside, bracketed⟩ := Option.ne_none_iff_exists'.mp
    fun plain => bracketed?_eq_none_iff.mp plain front
  obtain ⟨rest, rfl⟩ := List.head?_eq_some_iff.mp front
  cases special with
  | false => rfl
  | true =>
    simp only [reading, List.isEmpty_cons, Bool.false_eq_true, if_false, if_true, ofDomain, ofText,
      bracketed]

/-- A plain host keeps its text, with and without rules. -/
theorem Host.textUnder?_of_isPlainText {cs : List Char} (plain : IsPlainText cs)
    (scheme : String) : textUnder? scheme cs = some (String.ofList cs) := by
  have named : cs.isEmpty = false := List.isEmpty_eq_false_iff.mpr plain.ne_nil
  unfold textUnder? reading
  cases (Scheme.kind scheme).isSpecial with
  | true =>
    obtain ⟨host, read, _, text⟩ := ofDomain_of_isPlainText plain
    simp only [if_true, named, Bool.false_eq_true, if_false, read]
    exact congrArg some text
  | false =>
    obtain ⟨host, read, _, text⟩ := ofText_of_isPlainText plain
    simp only [Bool.false_eq_true, if_false, read]
    exact congrArg some text

/-- Schemes that read a host alike give it one text. -/
theorem Host.ReadAlike.textUnder?_eq {scheme scheme' : String} {cs : List Char}
    (alike : ReadAlike scheme scheme' cs) : textUnder? scheme cs = textUnder? scheme' cs := by
  cases alike with
  | kind same => rw [textUnder?, textUnder?, same]
  | brackets front =>
    rw [textUnder?, textUnder?, reading_of_bracket front, ← reading_of_bracket front]
  | plain plain => rw [textUnder?_of_isPlainText plain, textUnder?_of_isPlainText plain]

/-! ## Proxies at one place -/

namespace ProxyUri

variable {scheme scheme' : String} {info info' front digits : List Char}
  {login login' : Url.Userinfo} {uri uri' : ProxyUri}

/-- A proxy's host is the text that the place has under the proxy's scheme. -/
theorem textUnder?_of_places (places : uri.url.Places scheme login front digits) :
    Host.textUnder? scheme front = some uri.host := by
  obtain ⟨host, hosted, reading⟩ := places.host
  have text := uri.hostText?_eq
  rw [Url.hostText?, hosted] at text
  rw [Host.textUnder?, reading]
  cases host with
  | empty => cases text
  | named => exact text
  | ipv4 => exact text
  | ipv6 => exact text

/-- Proxies with one text of the port have one port. -/
theorem port?_eq_of_places (places : uri.url.Places scheme login front digits)
    (places' : uri'.url.Places scheme' login' front digits) : uri.port? = uri'.port? := by
  obtain ⟨n, spelled, port⟩ := places.port
  obtain ⟨n', spelled', port'⟩ := places'.port
  obtain rfl := Option.some.inj (spelled.symm.trans spelled')
  exact port.trans port'.symm

/-- Proxies with one text of the user information carry one credential. -/
theorem credential?_eq_of_places (places : uri.url.Places scheme login front digits)
    (places' : uri'.url.Places scheme' login front digits) :
    uri.credential? = uri'.credential? := by
  rw [credential?, credential?, Url.credential?, Url.credential?, places.username_eq,
    places'.username_eq, places.password_eq, places'.password_eq]

/-- **Proxies with one text of the place have one key** when their schemes give the host one text,
and only then. -/
theorem authority_eq_iff_of_places (places : uri.url.Places scheme login front digits)
    (places' : uri'.url.Places scheme' login' front digits) :
    uri.authority = uri'.authority ↔
      Host.textUnder? scheme front = Host.textUnder? scheme' front := by
  rw [textUnder?_of_places places, textUnder?_of_places places', Option.some.injEq]
  constructor
  · exact fun same => (samePlace_of_authority_eq same).1
  · intro hosts
    rw [authority, authority, hosts, port?_eq_of_places places places']

/-- A proxy URI is read as its URL. -/
theorem url_of_parse {text : String} (read : parse text = .ok uri) :
    Url.parse text = .ok uri.url := by
  unfold parse at read
  split at read
  · cases read
  · next url parsed =>
    split at read
    · next same =>
      cases read
      rw [ofUrl?] at same
      split at same
      · cases same
        exact parsed
      · cases same
    · cases read

/-- So it is read part by part. -/
theorem places_of_parse {tail : List Char} (written : Url.IsWrittenScheme scheme)
    (placed : Url.IsPlaced info front digits) (isTail : Url.IsTail tail)
    (read : parse (Url.placedText scheme info front digits tail) = .ok uri) :
    uri.url.Places scheme (Url.userinfoOf (Url.kept info)).1 (Url.kept front) digits :=
  Url.places_of_parse written placed isTail (url_of_parse read)

end ProxyUri

/-! ## Declaring and looking up -/

namespace CredentialTable

variable {scheme scheme' : String} {info host digits tail tail' : List Char}

/-- A credential that is declared last under a proxy's own key is found for the proxy. -/
theorem resolve?_of_declaredLast {authorities : List String} {table : CredentialTable}
    (accepted : ofAuthorities authorities = .ok table) {uri : ProxyUri} {authority : String}
    {credential : Credential} (last : DeclaredLast authorities uri.authority authority credential) :
    table.resolve? uri = some credential := by
  rw [resolve?, (get?_ofAuthorities accepted).mpr ⟨authority, last⟩]

/-- **The scheme and the path of an authority count for the host's text alone.** Of two authorities
that can be used and have one text of user information, host and port, the credentials are one, and
the keys are one where the two schemes give the host one text, and only there: so they do where both
schemes have rules for hosts or both have none, where the host is in brackets, and where it is
plain. A proxy whose scheme gives the host the text that the declaration has is looked up under the
declared key, and a credential that is declared last under this key is found for it. -/
theorem key_under_schemes (written : Url.IsWrittenScheme scheme)
    (written' : Url.IsWrittenScheme scheme') (placed : Url.IsPlaced info host digits)
    (isTail : Url.IsTail tail) (isTail' : Url.IsTail tail') {key : String} {credential : Credential}
    (declares : parseAuthority (Url.placedText scheme info host digits tail) =
      .ok (key, credential)) :
    (∀ key' credential',
      parseAuthority (Url.placedText scheme' info host digits tail') = .ok (key', credential') →
      credential = credential' ∧
      (key = key' ↔
        Host.textUnder? scheme (Url.kept host) = Host.textUnder? scheme' (Url.kept host)) ∧
      (Host.ReadAlike scheme scheme' (Url.kept host) → key = key')) ∧
    ∀ info' uri, Url.IsPlaced info' host digits →
      ProxyUri.parse (Url.placedText scheme' info' host digits tail') = .ok uri →
      (key = uri.authority ↔
        Host.textUnder? scheme (Url.kept host) = Host.textUnder? scheme' (Url.kept host)) ∧
      ∀ authorities table, ofAuthorities authorities = .ok table →
        DeclaredLast authorities key (Url.placedText scheme info host digits tail) credential →
        Host.textUnder? scheme (Url.kept host) = Host.textUnder? scheme' (Url.kept host) →
        table.resolve? uri = some credential := by
  obtain ⟨own, read, rfl, carries⟩ := parseAuthority_eq_ok.mp declares
  have places := ProxyUri.places_of_parse written placed isTail read
  constructor
  · intro key' credential' declares'
    obtain ⟨uri, read', rfl, carries'⟩ := parseAuthority_eq_ok.mp declares'
    have places' := ProxyUri.places_of_parse written' placed isTail' read'
    have same_iff := ProxyUri.authority_eq_iff_of_places places places'
    refine ⟨?_, same_iff, fun alike => same_iff.mpr alike.textUnder?_eq⟩
    rw [ProxyUri.credential?_eq_of_places places places'] at carries
    exact Option.some.inj (carries.symm.trans carries')
  · intro info' uri placed' read'
    have places' := ProxyUri.places_of_parse written' placed' isTail' read'
    have same_iff := ProxyUri.authority_eq_iff_of_places places places'
    refine ⟨same_iff, fun authorities table accepted last alike => ?_⟩
    rw [same_iff.mpr alike] at last
    exact resolve?_of_declaredLast accepted last

/-- So an address in brackets has one key with the port of its scheme and with a port that is
another scheme's, and with a path and without one. -/
theorem key_under_schemes_brackets :
    ∃ table uri credential, parseAuthority "http://u:p@[::1]:80/x" = .ok ("[::1]:80", credential) ∧
      parseAuthority "socks://u:p@[::1]:80" = .ok ("[::1]:80", credential) ∧
      ofAuthorities ["http://u:p@[::1]:80/x"] = .ok table ∧
      ProxyUri.parse "socks://[::1]:80" = .ok uri ∧ table.resolve? uri = some credential := by
  have written : ∀ scheme ∈ ["http", "socks"], Url.IsWrittenScheme scheme := by
    intro scheme mem
    simp only [List.mem_cons, List.not_mem_nil, or_false] at mem
    rcases mem with rfl | rfl <;> exact ⟨by decide, by decide, by decide, by decide⟩
  have placed : ∀ info ∈ ["u:p@", ""], Url.IsPlaced info.toList "[::1]".toList "80".toList := by
    have each : ∀ c ∈ "80".toList, c.isDigit = true := List.all_eq_true.mp (by decide)
    intro info mem
    simp only [List.mem_cons, List.not_mem_nil, or_false] at mem
    rcases mem with rfl | rfl
    · exact ⟨.inr ⟨"u:p".toList, rfl⟩, by decide, forall_of_any_eq_false (by decide),
        by decide, each⟩
    · exact ⟨.inl rfl, by decide, forall_of_any_eq_false (by decide), by decide, each⟩
  have declares : parseAuthority "http://u:p@[::1]:80/x" =
      .ok ("[::1]:80", ⟨"u", "p", by decide⟩) := rfl
  have declares' : parseAuthority "socks://u:p@[::1]:80" =
      .ok ("[::1]:80", ⟨"u", "p", by decide⟩) := rfl
  have accepted : ofAuthorities ["http://u:p@[::1]:80/x"] =
      .ok ⟨[("[::1]:80", ⟨"u", "p", by decide⟩)], by decide⟩ := rfl
  have read : ProxyUri.parse "socks://[::1]:80" = .ok
      ⟨⟨"socks", "", none, some (.ipv6 1), some 80, .segments [], none, none⟩, rfl, rfl⟩ := rfl
  have tail : Url.IsTail "/x".toList := by
    rintro c ⟨rfl⟩
    exact .inl rfl
  have noTail : Url.IsTail "".toList := nofun
  have both := key_under_schemes (written "http" (by decide)) (written "socks" (by decide))
    (placed "u:p@" (by decide)) tail noTail declares
  have alike := (both.1 _ _ declares').2.1.mp rfl
  have found := (both.2 _ _ (placed "" (by decide)) read).2 _ _ accepted
    ⟨[], [], rfl, declares, nofun⟩ alike
  exact ⟨_, _, _, declares, declares', accepted, read, found⟩

/-- **A host in capitals has two keys.** The credential that is declared for
a host under a scheme with rules is not found for the same host under a scheme without. -/
theorem key_depends_on_scheme :
    ∃ table uri credential, parseAuthority "http://u:p@EXAMPLE:1" = .ok ("example:1", credential) ∧
      parseAuthority "socks://u:p@EXAMPLE:1" = .ok ("EXAMPLE:1", credential) ∧
      ofAuthorities ["http://u:p@EXAMPLE:1"] = .ok table ∧
      ProxyUri.parse "socks://EXAMPLE:1" = .ok uri ∧ table.resolve? uri = none := by
  have declares : parseAuthority "http://u:p@EXAMPLE:1" =
      .ok ("example:1", ⟨"u", "p", by decide⟩) := rfl
  have declares' : parseAuthority "socks://u:p@EXAMPLE:1" =
      .ok ("EXAMPLE:1", ⟨"u", "p", by decide⟩) := rfl
  have accepted : ofAuthorities ["http://u:p@EXAMPLE:1"] =
      .ok ⟨[("example:1", ⟨"u", "p", by decide⟩)], by decide⟩ := rfl
  have read : ProxyUri.parse "socks://EXAMPLE:1" = .ok
      ⟨⟨"socks", "", none, some (.named "EXAMPLE" ⟨by decide, by decide⟩), some 1,
        .segments [], none, none⟩, rfl, rfl⟩ := rfl
  exact ⟨_, _, _, declares, declares', accepted, read, by decide⟩

end CredentialTable

end ProxyAutoConfig
