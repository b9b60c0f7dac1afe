import ProxyAutoConfig.Proofs.Proxy.Carrying
import ProxyAutoConfig.Proofs.Proxy.Key
import ProxyAutoConfig.Proofs.Text.Percent
import ProxyAutoConfig.Proofs.Url.Authority

/-!
# Proxies at plain places

A plain place is a plain host and a port. The URI of a proxy at such a place has the place for its
key, under every scheme and with or without a user name and a password, and is written in the way
in which it was read.
-/

namespace ProxyAutoConfig

open ProxyAutoConfig.Text

/-- The text of a place. -/
def placeText (host : String) (port : UInt16) : String :=
  host ++ ":" ++ toString port.toNat

/-- A place is its own key. -/
theorem key_eq_placeText (host : String) (port : UInt16) :
    ProxyUri.key host (some port) = placeText host port :=
  (String.append_assoc ..).symm

/-- The characters of a place. -/
theorem toList_placeText (host : String) (port : UInt16) :
    (placeText host port).toList = host.toList ++ ':' :: Nat.toDigits 10 port.toNat := by
  rw [← key_eq_placeText, ProxyUri.key, String.toList_append, Url.toList_portText_some]

/-! ## Characters -/

/-- **A part of a plain login**: letters and digits, and at least one of them. -/
def IsLoginPart (part : String) : Prop :=
  part.toList ≠ [] ∧ part.toList.all Char.isAlphanum = true

/-- What holds for letters and digits holds throughout such a part. -/
theorem IsLoginPart.forall_mem {P : Char → Prop} {part : String} (login : IsLoginPart part)
    (each : ∀ n < 0x80, (Char.ofNat n).isAlphanum = true → P (Char.ofNat n)) :
    ∀ c ∈ part.toList, P c :=
  fun c mem => of_isAlphanum each (List.all_eq_true.mp login.2 c mem)

/-- Other characters do not stand in it. -/
theorem IsLoginPart.not_mem {part : String} (login : IsLoginPart part) {c : Char}
    (strange : c.isAlphanum = false) : c ∉ part.toList := by
  intro mem
  rw [List.all_eq_true.mp login.2 c mem] at strange
  cases strange

/-- A part of a plain login needs no encoding. -/
theorem IsLoginPart.encodeUserinfo_eq {part : String} (login : IsLoginPart part) :
    Url.encodeUserinfo part.toList = part := by
  have plain := login.forall_mem
    (P := fun c => c.toNat < 0x80 ∧ Percent.isUserinfoReserved c = false) (by decide)
  rw [Url.encodeUserinfo, Percent.encode_of_plain plain, String.ofList_toList]

/-- Nothing in it looks encoded. -/
theorem IsLoginPart.holdsEscape_eq {part : String} (login : IsLoginPart part) :
    Percent.holdsEscape part.toList = false :=
  Percent.holdsEscape_of_not_mem (login.not_mem (by decide))

/-- Two such parts make a credential. -/
theorem IsLoginPart.fits {username password : String} (login : IsLoginPart username)
    (secret : IsLoginPart password) : Credential.Fits username password := by
  have blankless : ∀ {part : String}, IsLoginPart part → part.toList.any isBlank = false :=
    fun login => List.any_eq_false.mpr
      (login.forall_mem (P := fun c => ¬ isBlank c = true) (by decide))
  exact ⟨login.1, secret.1, login.not_mem (by decide), blankless login, blankless secret⟩

/-- What holds for plain characters, dots and colons holds throughout a place. -/
theorem forall_mem_placeText {P : Char → Prop} {host : String}
    (plain : Host.IsPlainText host.toList) (port : UInt16) (dot : P '.') (colon : P ':')
    (each : ∀ n < 0x80, isPlain (Char.ofNat n) = true → P (Char.ofNat n)) :
    ∀ c ∈ (placeText host port).toList, P c := by
  rw [toList_placeText]
  intro c mem
  rcases List.mem_append.mp mem with mem | mem
  · exact plain.forall_mem dot each c mem
  · rcases List.mem_cons.mp mem with rfl | mem
    · exact colon
    · have digit := Net.Ipv4.isDigit_of_mem_decimal mem
      exact of_isPlain each (Bool.or_eq_true_iff.mpr (.inr digit))

/-- So an authority goes on through a place. -/
theorem isAuthorityChar_of_mem_placeText {host : String} (plain : Host.IsPlainText host.toList)
    (port : UInt16) : ∀ c ∈ (placeText host port).toList, Url.isAuthorityChar c = true :=
  forall_mem_placeText (P := fun c => Url.isAuthorityChar c = true) plain port (by decide)
    (by decide) (by decide)

/-- And no user information ends in it. -/
theorem at_not_mem_placeText {host : String} (plain : Host.IsPlainText host.toList)
    (port : UInt16) : '@' ∉ (placeText host port).toList := fun mem =>
  forall_mem_placeText (P := fun c => c ≠ '@') plain port (by decide) (by decide) (by decide) '@'
    mem rfl

/-! ## Reading -/

namespace ProxyUri

variable {scheme host text : String} {port : UInt16} {info : Url.Userinfo}

/-- **The URI of a proxy stands for a place.** -/
theorem exists_parse {url : Url} (read : Url.parse text = .ok url)
    (addresses : url.Addresses scheme info host.toList port) :
    ∃ uri, parse text = .ok uri ∧ uri.url = url := by
  have hierarchical : url.isOpaque = false := by
    rcases addresses.path_eq with path | path <;> rw [Url.isOpaque, path]
  have hosted : url.hostText?.isSome = true := by rw [addresses.hostText?_eq]; rfl
  refine ⟨⟨url, hierarchical, hosted⟩, ?_, rfl⟩
  simp only [parse, read, ofUrl?, dif_pos (And.intro hierarchical hosted)]

/-- The scheme of such a proxy is the one that it is written with. -/
theorem scheme_of_addresses {uri : ProxyUri}
    (addresses : uri.url.Addresses scheme info host.toList port) : uri.scheme = scheme :=
  addresses.scheme_eq

/-- The host of such a proxy is the host of the place. -/
theorem host_of_addresses {uri : ProxyUri}
    (addresses : uri.url.Addresses scheme info host.toList port) : uri.host = host := by
  have same := uri.hostText?_eq.symm.trans addresses.hostText?_eq
  rw [Option.some.inj same, String.ofList_toList]

/-- Its port is the port of the place, whether it is written or not. -/
theorem port?_of_addresses {uri : ProxyUri}
    (addresses : uri.url.Addresses scheme info host.toList port) : uri.port? = some port := by
  rw [port?, Url.effectivePort?, addresses.port_eq, addresses.scheme_eq]
  split
  · next own => rw [own, Option.none_or]
  · rfl

/-- So its key is the place. -/
theorem authority_of_addresses {uri : ProxyUri}
    (addresses : uri.url.Addresses scheme info host.toList port) :
    uri.authority = placeText host port := by
  rw [authority, host_of_addresses addresses, port?_of_addresses addresses, key_eq_placeText]

/-- **A bare place is read under every scheme.** -/
theorem exists_parse_place (written : Url.IsWrittenScheme scheme)
    (plain : Host.IsPlainText host.toList) (port : UInt16) :
    ∃ uri, parse (scheme ++ "://" ++ placeText host port) = .ok uri ∧
      uri.url.Addresses scheme ⟨"", none⟩ host.toList port := by
  have chars := isAuthorityChar_of_mem_placeText plain port
  have whole : (scheme ++ "://" ++ placeText host port).toList =
      scheme.toList ++ ':' :: '/' :: '/' :: (placeText host port).toList := by
    simp only [String.toList_append, List.append_assoc]
    rfl
  have split : ∀ special, Url.splitUserinfo special (placeText host port).toList =
      .ok (⟨"", none⟩, host.toList ++ ':' :: Nat.toDigits 10 port.toNat) := by
    intro special
    rw [Url.splitUserinfo_of_not_mem special chars (at_not_mem_placeText plain port),
      toList_placeText]
  obtain ⟨url, read, addresses⟩ := Url.exists_parse written plain port chars split whole
  obtain ⟨uri, done, rfl⟩ := exists_parse read addresses
  exact ⟨uri, done, addresses⟩

/-- **A place behind a login is read with the login.** -/
theorem exists_parse_login (written : Url.IsWrittenScheme scheme) {username password : String}
    (login : IsLoginPart username) (secret : IsLoginPart password)
    (plain : Host.IsPlainText host.toList) (port : UInt16) :
    ∃ uri, parse (scheme ++ "://" ++ username ++ ":" ++ password ++ "@" ++ placeText host port) =
        .ok uri ∧
      uri.url.Addresses scheme ⟨username, some password⟩ host.toList port := by
  have colon : ':' ∉ username.toList := login.not_mem (by decide)
  have char : ∀ {part : String}, IsLoginPart part →
      ∀ c ∈ part.toList, Url.isAuthorityChar c = true :=
    fun login => login.forall_mem (P := fun c => Url.isAuthorityChar c = true) (by decide)
  have chars : ∀ c ∈ username.toList ++ ':' :: password.toList ++ '@' :: (placeText host port).toList,
      Url.isAuthorityChar c = true := by
    intro c mem
    simp only [List.mem_append, List.mem_cons] at mem
    rcases mem with (mem | rfl | mem) | rfl | mem
    · exact char login c mem
    · decide
    · exact char secret c mem
    · decide
    · exact isAuthorityChar_of_mem_placeText plain port c mem
  have whole : (scheme ++ "://" ++ username ++ ":" ++ password ++ "@" ++ placeText host port).toList =
      scheme.toList ++ ':' :: '/' :: '/' ::
        (username.toList ++ ':' :: password.toList ++ '@' :: (placeText host port).toList) := by
    simp only [String.toList_append, List.append_assoc]
    rfl
  have split : ∀ special, Url.splitUserinfo special
      (username.toList ++ ':' :: password.toList ++ '@' :: (placeText host port).toList) =
      .ok (⟨username, some password⟩, host.toList ++ ':' :: Nat.toDigits 10 port.toNat) := by
    intro special
    rw [Url.splitUserinfo_of_login special chars colon secret.1
      (at_not_mem_placeText plain port), login.encodeUserinfo_eq,
      secret.encodeUserinfo_eq, toList_placeText]
  obtain ⟨url, read, addresses⟩ := Url.exists_parse written plain port chars split whole
  obtain ⟨uri, done, rfl⟩ := exists_parse read addresses
  exact ⟨uri, done, addresses⟩

/-! ## Writing -/

/-- **A proxy at a place is written with the credential that it carries**, and without the port
where it is the scheme's own. -/
theorem text_carrying {uri : ProxyUri}
    (addresses : uri.url.Addresses scheme info host.toList port) {credential : Credential}
    (login : IsLoginPart credential.username) (secret : IsLoginPart credential.password) :
    (uri.carrying credential).text =
      scheme ++ "://" ++ credential.username ++ ":" ++ credential.password ++ "@" ++ host ++
        (if Scheme.defaultPort? scheme = some port then "" else ":" ++ toString port.toNat) := by
  have named : credential.username ≠ "" := fun h => login.1 (by rw [h]; rfl)
  have userinfo : (uri.carrying credential).userinfoText id =
      credential.username ++ ":" ++ credential.password ++ "@" := by
    simp only [userinfoText, carrying, login.encodeUserinfo_eq, secret.encodeUserinfo_eq, if_neg named, id]
  have portText : Url.portText uri.url.port =
      if Scheme.defaultPort? scheme = some port then "" else ":" ++ toString port.toNat := by
    rw [addresses.port_eq]
    split <;> rfl
  have tail : Url.tailText "?" uri.url.query = "" := by
    rw [addresses.query_eq]
    rfl
  rw [text, render, userinfo, host_carrying, host_of_addresses addresses, scheme_carrying,
    scheme_of_addresses addresses]
  simp only [carrying, portText, tail, String.append_empty, String.append_assoc]
  rcases addresses.path_eq with path | path
  · have empty : uri.url.path.text = "" := by rw [path]; rfl
    simp only [empty, ite_self, String.append_empty]
  · have slash : uri.url.path.text = "/" := by rw [path]; rfl
    simp only [slash, if_true, String.append_empty]

end ProxyUri

end ProxyAutoConfig
