import ProxyAutoConfig.Proofs.Idna.Ascii
import ProxyAutoConfig.Proofs.Proxy.RoundTrip

/-!
# Addresses with a scheme of their own

An address that shows a word of a scheme is read as it stands. The words are looked for in small
letters, while the scheme of a URL may be in any letters, and so may the word of a mode. **The
law**, `parseDecision_own_scheme`: an address that begins with a scheme is read as what the scheme
in it says where the address shows a word in small letters, as it does when its own scheme is in
small letters.

An address that shows no such word gets a second scheme in front. It is not refused then: the
scheme that it had is taken for the host, the two slashes behind it for the path, and the proxy to
which a client connects is a host of the scheme's name at the port of the mode's scheme.
-/

namespace ProxyAutoConfig

open ProxyAutoConfig.Text

/-! ## Words in any letters -/

/-- **A word of a scheme, in any letters.** -/
def Candidate.IsSchemeWord (scheme : List Char) : Prop :=
  ∃ word ∈ schemeWords, scheme.map Char.toLower = word.toList

namespace Candidate.IsSchemeWord

variable {scheme : List Char}

/-- It consists of letters and numerals. -/
theorem isAlphanum (word : IsSchemeWord scheme) : ∀ c ∈ scheme, c.isAlphanum = true := by
  obtain ⟨word, known, same⟩ := word
  have plain := List.all_eq_true.mp
    ((by decide : ∀ word ∈ schemeWords, word.toList.all Char.isAlphanum = true) word known)
  intro c mem
  have small : c.toLower.isAlphanum = true := plain _ (same ▸ List.mem_map_of_mem mem)
  by_cases upper : c.isUpper = true
  · exact Bool.or_eq_true_iff.mpr (.inl (Bool.or_eq_true_iff.mpr (.inl upper)))
  · have kept : c.toLower = c := dif_neg (of_decide_eq_false (Bool.eq_false_iff.mpr upper))
    rwa [kept] at small

/-- So what holds for letters and numerals holds throughout. -/
theorem forall_mem {P : Char → Prop} (word : IsSchemeWord scheme)
    (each : ∀ n < 0x80, (Char.ofNat n).isAlphanum = true → P (Char.ofNat n)) :
    ∀ c ∈ scheme, P c :=
  fun c mem => of_isAlphanum each (word.isAlphanum c mem)

/-- Small letters stay as they are. -/
theorem toLower_toLower (word : IsSchemeWord scheme) :
    (scheme.map Char.toLower).map Char.toLower = scheme.map Char.toLower := by
  rw [List.map_map]
  exact List.map_congr_left
    (word.forall_mem (P := fun c => c.toLower.toLower = c.toLower) (by decide))

/-- Other characters do not stand in it. -/
theorem not_mem (word : IsSchemeWord scheme) {c : Char} (strange : c.isAlphanum = false) :
    c ∉ scheme := by
  intro mem
  rw [word.isAlphanum c mem] at strange
  cases strange

/-- It is not empty. -/
theorem ne_nil (word : IsSchemeWord scheme) : scheme ≠ [] := by
  obtain ⟨word, known, same⟩ := word
  rintro rfl
  have given := (by decide : ∀ word ∈ schemeWords, word.toList ≠ []) word known
  exact given same.symm

/-- Its ASCII form is the word in small letters. -/
theorem toAscii? (word : IsSchemeWord scheme) :
    Idna.toAscii? scheme = some (scheme.map Char.toLower) := by
  have ascii := word.forall_mem (P := fun c => c.toNat < 0x80) (by decide)
  have small : ∀ c ∈ scheme.map Char.toLower, c.toNat < 0x80 := by
    intro c mem
    obtain ⟨d, here, rfl⟩ := List.mem_map.mp mem
    exact word.forall_mem (P := fun c => c.toLower.toNat < 0x80) (by decide) d here
  have canonical : Idna.canonical? scheme = Idna.canonical? (scheme.map Char.toLower) := by
    rw [Idna.canonical?_of_ascii ascii, Idna.canonical?_of_ascii small, word.toLower_toLower]
  have own : Idna.toAscii? (['.'].intercalate [scheme.map Char.toLower]) =
      some (['.'].intercalate [scheme.map Char.toLower]) := by
    refine Idna.toAscii?_intercalate (List.cons_ne_nil _ _) ?_
    refine List.forall_mem_singleton.mpr fun c mem => ?_
    obtain ⟨d, here, rfl⟩ := List.mem_map.mp mem
    exact word.forall_mem (P := fun c => isPlain c.toLower = true) (by decide) d here
  rw [List.intercalate_singleton] at own
  rw [← own, Idna.toAscii?, Idna.toAscii?, canonical]

/-- It does not end in a number. -/
theorem endsInNumber (word : IsSchemeWord scheme) :
    Net.Ipv4.endsInNumber (scheme.map Char.toLower) = false := by
  obtain ⟨word, known, same⟩ := word
  rw [same]
  exact (by decide +kernel : ∀ word ∈ schemeWords, Net.Ipv4.endsInNumber word.toList = false)
    word known

end Candidate.IsSchemeWord

/-! ## A word in the place of the host -/

namespace Host

/-- A domain whose ASCII form does not end in a number is named by this form. -/
theorem ofDomain_of_toAscii? {cs name : List Char} (bracketless : '[' ∉ cs) (escapeless : '%' ∉ cs)
    (ascii : Idna.toAscii? cs = some name) (nonempty : name ≠ [])
    (wordy : Net.Ipv4.endsInNumber name = false) :
    ∃ isName, ofDomain cs = .ok (.named (String.ofList name) isName) := by
  refine ⟨isName_of_toAscii? ascii (mt List.isEmpty_iff.mp nonempty), ?_⟩
  have decoded := decodeLossy_of_escapeless escapeless
  rw [ofDomain, bracketed?_eq_none bracketless]
  simp only
  split
  · next refused => rw [decoded, ascii] at refused; cases refused
  · next found read =>
    obtain rfl := Option.some.inj (ascii.symm.trans (decoded ▸ read))
    rw [dif_neg (mt List.isEmpty_iff.mp nonempty), wordy]
    rfl

/-- **A word of a scheme is a host**: under a scheme with rules in small letters, and as it stands
under one without. -/
theorem exists_reading_of_isSchemeWord {scheme : List Char} (word : Candidate.IsSchemeWord scheme)
    (special : Bool) : ∃ name isName, reading special scheme = .ok (.named name isName) ∧
      name.toList.map Char.toLower = scheme.map Char.toLower := by
  have bracketless : '[' ∉ scheme := word.not_mem (by decide)
  have given : scheme.isEmpty = false := List.isEmpty_eq_false_iff.mpr word.ne_nil
  cases special with
  | true =>
    obtain ⟨isName, read⟩ := ofDomain_of_toAscii? bracketless (word.not_mem (by decide))
      word.toAscii? (mt List.map_eq_nil_iff.mp word.ne_nil) word.endsInNumber
    refine ⟨_, isName, ?_, ?_⟩
    · rw [reading, if_pos rfl, given]
      exact read
    · rw [String.toList_ofList, word.toLower_toLower]
  | false =>
    have allowed : ¬ scheme.any isRefused = true := by
      rw [Bool.not_eq_true, List.any_eq_false]
      exact word.forall_mem (P := fun c => ¬ isRefused c = true) (by decide)
    have kept : Percent.encode Percent.isControl scheme = scheme := Percent.encode_of_plain
      (word.forall_mem (P := fun c => c.toNat < 0x80 ∧ Percent.isControl c = false) (by decide))
    refine ⟨_, isName_encode allowed (Bool.eq_false_iff.mp given), ?_, ?_⟩
    · simp only [reading, Bool.false_eq_true, if_false, ofText, bracketed?_eq_none bracketless,
        dif_neg allowed, given]
      rfl
    · rw [kept, String.toList_ofList]

end Host

namespace Url

variable {front : String} {scheme : List Char}

/-- A port without digits is no port. -/
theorem readPort_slash (own : Option UInt16) (rest : List Char) :
    readPort own (':' :: '/' :: rest) = .ok (none, '/' :: rest) :=
  have cut : cutBefore (fun c => !c.isDigit) ('/' :: rest) = ([], '/' :: rest) := rfl
  readPort_of_ends cut (by rintro c ⟨rfl⟩; rfl)

/-- **A word of a scheme behind another scheme is read as the host.** The slashes behind it begin
the path, and no port is written. -/
theorem exists_parse_second_scheme (written : IsWrittenScheme front)
    (word : Candidate.IsSchemeWord scheme) (rest : List Char) {text : String}
    (whole : text.toList = front.toList ++ ':' :: '/' :: '/' :: (scheme ++ ':' :: '/' :: rest)) :
    ∃ url name isName, parse text = .ok url ∧ url.scheme = front ∧ url.isOpaque = false ∧
      url.host = some (.named name isName) ∧
      name.toList.map Char.toLower = scheme.map Char.toLower ∧ url.port = none := by
  obtain ⟨name, isName, named, small⟩ :=
    Host.exists_reading_of_isSchemeWord word (Scheme.kind front).isSpecial
  have slash : isPadding '/' = false := by decide
  have visible : kept scheme = scheme :=
    kept_of_visible (word.forall_mem (P := fun c => isPadding c = false) (by decide))
  have chars : ∀ c ∈ scheme ++ [':'], isAuthorityChar c = true :=
    List.forall_mem_append.mpr
      ⟨word.forall_mem (P := fun c => isAuthorityChar c = true) (by decide),
        List.forall_mem_singleton.mpr (by decide)⟩
  have back : relevantBack ('/' :: '/' :: (scheme ++ ':' :: '/' :: rest)) =
      '/' :: '/' :: (scheme ++ ':' :: '/' :: relevantBack rest) := by
    rw [relevantBack_cons slash, relevantBack_cons slash, relevantBack_append (by decide), visible,
      relevantBack_cons slash]
  have goesOn : ∀ c ∈ (scheme ++ ':' :: '/' :: relevantBack rest).head?,
      endsAuthority (Scheme.kind front).isSpecial c = false := by
    rw [List.head?_append_of_ne_nil _ word.ne_nil]
    exact fun c mem => endsAuthority_of_isAuthorityChar
      (chars c (List.mem_append_left _ (List.mem_of_mem_head? mem))) _
  have ends : ∀ c ∈ ('/' :: relevantBack rest).head?,
      endsAuthority (Scheme.kind front).isSpecial c = true := by
    rintro c ⟨rfl⟩
    rfl
  have cut := cutBefore_append (fun c mem => endsAuthority_of_isAuthorityChar (chars c mem) _) ends
  rw [List.append_assoc, List.singleton_append] at cut
  have single : '@' ∉ scheme ++ [':'] := by
    rw [List.mem_append, List.mem_singleton]
    rintro (own | sign)
    · exact word.not_mem (by decide) own
    · cases sign
  have split : splitUserinfo (Scheme.kind front).isSpecial
      (scheme ++ ':' :: '/' :: relevantBack rest) =
        .ok (⟨"", none⟩, scheme ++ ':' :: '/' :: relevantBack rest) := by
    simp only [splitUserinfo, cut, cutLast?_eq_none single]
  have read := (readHierarchical_eq_ok written.notFile).mpr ⟨_, _, _, _, _, _, _, split,
    splitHost_append _ (List.forall_mem_append.mp chars).1 (word.not_mem (by decide))
      (word.not_mem (by decide)) _,
    named, Host.noConfusion, readPort_slash _ _, rfl⟩
  have parsed : parse text =
      readHierarchical front (scheme ++ ':' :: '/' :: relevantBack rest) := by
    rw [parse_append whole written.colon, schemeOf?_of_isWrittenScheme written]
    simp only
    rw [back, readBehind_slashes goesOn, if_neg written.notFile]
  exact ⟨_, name, isName, parsed.trans read, rfl, isOpaque_ofText .., rfl, small, rfl⟩

end Url

/-! ## Decisions -/

namespace Candidate

variable {mode : Mode} {front : String} {scheme rest : List Char}

/-- An address that begins with a scheme. -/
def schemedAddress (scheme rest : List Char) : List Char :=
  scheme ++ ':' :: '/' :: '/' :: rest

/-- A scheme in small letters is a word that shows that the address has one. -/
theorem namesScheme_schemedAddress (word : IsSchemeWord scheme)
    (small : scheme.map Char.toLower = scheme) (rest : List Char) :
    namesScheme (schemedAddress scheme rest) = true := by
  obtain ⟨word, known, same⟩ := word
  rw [small] at same
  exact List.any_eq_true.mpr ⟨word, known, holds_iff.mpr ⟨[], _, by rw [same]; rfl⟩⟩

/-- The word of a mode and an address with a scheme of its own are the fields of a directive. -/
theorem parseDecision_schemedAddress (mode : Mode) (word : IsSchemeWord scheme)
    (solid : ∀ c ∈ rest, isBlank c = false ∧ c ≠ ';') :
    parseDecision (mode.word ++ " " ++ String.ofList (schemedAddress scheme rest)) =
      (ofAddress mode (schemedAddress scheme rest)).map ([·]) := by
  obtain ⟨-, plain⟩ := solid_word mode
  have address : ∀ c ∈ schemedAddress scheme rest, isBlank c = false ∧ c ≠ ';' :=
    List.forall_mem_append.mpr
      ⟨word.forall_mem (P := fun c => isBlank c = false ∧ c ≠ ';') (by decide),
        List.forall_mem_cons.mpr ⟨by decide, List.forall_mem_cons.mpr ⟨by decide,
          List.forall_mem_cons.mpr ⟨by decide, solid⟩⟩⟩⟩
  have chars : (mode.word ++ " " ++ String.ofList (schemedAddress scheme rest)).toList =
      mode.word.toList ++ ' ' :: schemedAddress scheme rest := by
    simp only [String.toList_append, String.toList_ofList, List.append_assoc]
    rfl
  have single : ';' ∉ mode.word.toList ++ ' ' :: schemedAddress scheme rest := by
    rw [List.mem_append, List.mem_cons]
    rintro (own | blank | mem)
    · exact (plain _ own).2 rfl
    · cases blank
    · exact (address _ mem).2 rfl
  have nonempty : schemedAddress scheme rest ≠ [] :=
    List.append_ne_nil_of_left_ne_nil word.ne_nil _
  rw [parseDecision_of_not_mem (chars ▸ single), chars,
    ofDirective_word_address mode nonempty fun c mem => (address c mem).1]

/-- **A scheme of its own keeps an address as it is where a word of a scheme is seen in it.** The
words are seen in small letters, and a scheme in small letters is one of them. Where no word is
seen, the directive is read too, but with the scheme of the mode in front: the host is then the
address's own scheme, and the port is that of the mode's scheme, whatever host and port the address
says. -/
theorem parseDecision_own_scheme (brings : mode.defaultScheme? = some front)
    (word : IsSchemeWord scheme) (solid : ∀ c ∈ rest, isBlank c = false ∧ c ≠ ';')
    {uri : ProxyUri}
    (read : ProxyUri.parse (String.ofList (schemedAddress scheme rest)) = .ok uri) :
    (scheme.map Char.toLower = scheme → namesScheme (schemedAddress scheme rest) = true) ∧
    ∃ candidate,
      parseDecision (mode.word ++ " " ++ String.ofList (schemedAddress scheme rest)) =
        .ok [candidate] ∧ candidate.mode = mode ∧
      (namesScheme (schemedAddress scheme rest) = true →
        candidate.address = String.ofList (schemedAddress scheme rest) ∧
          candidate.uri? = some uri) ∧
      (namesScheme (schemedAddress scheme rest) = false →
        candidate.address = front ++ "://" ++ String.ofList (schemedAddress scheme rest) ∧
          ∃ other, candidate.uri? = some other ∧ other.scheme = front ∧
            other.host.toList.map Char.toLower = scheme.map Char.toLower ∧
            other.port? = Scheme.defaultPort? front) := by
  have proxied : mode ≠ .direct := by
    rintro rfl
    cases brings
  refine ⟨fun small => namesScheme_schemedAddress word small rest, ?_⟩
  rw [parseDecision_schemedAddress mode word solid, ofAddress_eq]
  cases named : namesScheme (schemedAddress scheme rest) with
  | true =>
    rw [withScheme_of_plain (.inr named), read]
    exact ⟨_, rfl, rfl, fun _ => ⟨rfl, if_neg proxied⟩, nofun⟩
  | false =>
    have whole : (front ++ "://" ++ String.ofList (schemedAddress scheme rest)).toList =
        front.toList ++ ':' :: '/' :: '/' :: (scheme ++ ':' :: '/' :: '/' :: rest) := by
      simp only [String.toList_append, String.toList_ofList, List.append_assoc]
      rfl
    obtain ⟨url, name, isName, parsed, own, hierarchical, host, small, port⟩ :=
      Url.exists_parse_second_scheme (Mode.isWrittenScheme_of_defaultScheme? brings) word
        ('/' :: rest) whole
    have text : url.hostText? = some name := Url.hostText?_eq_some host nofun
    have hosted : url.hostText?.isSome = true := by rw [text]; rfl
    have taken : ProxyUri.parse (front ++ "://" ++ String.ofList (schemedAddress scheme rest)) =
        .ok ⟨url, hierarchical, hosted⟩ := ProxyUri.parse_eq_ok.mpr parsed
    rw [withScheme_of_wordless brings named, taken]
    refine ⟨_, rfl, rfl, nofun, fun _ => ⟨rfl, _, if_neg proxied, own, ?_, ?_⟩⟩
    · rw [ProxyUri.host]
      simp only [text, Option.get_some, small]
    · rw [ProxyUri.port?, Url.effectivePort?, port, Option.none_or, own]

/-- So a proxy may speak another scheme than the one that its mode brings. -/
theorem parseDecision_own_scheme_other :
    ∃ uri candidate, ProxyUri.parse "quic://h:1" = .ok uri ∧
      parseDecision "SOCKS quic://h:1" = .ok [candidate] ∧ candidate.mode = .socks ∧
      candidate.address = "quic://h:1" ∧ candidate.uri? = some uri := by
  have read : ProxyUri.parse "quic://h:1" = .ok
      ⟨⟨"quic", "", none, some (.named "h" ⟨by decide, by decide⟩), some 1, .segments [], none,
        none⟩, rfl, rfl⟩ := rfl
  have solid : ∀ c ∈ "h:1".toList, isBlank c = false ∧ c ≠ ';' :=
    List.all_iff_forall_prop.mp (by decide)
  have brings : Mode.socks.defaultScheme? = some "socks" := rfl
  have word : IsSchemeWord "quic".toList := ⟨"quic", by decide, by decide⟩
  obtain ⟨small, candidate, decided, mode, kept, -⟩ :=
    parseDecision_own_scheme brings word solid read
  obtain ⟨address, target⟩ := kept (small (by decide))
  exact ⟨_, candidate, read, decided, mode, address, target⟩

/-- **A scheme in capitals is not seen.** The proxy is then not the host of the address, but a host
of the scheme's name. -/
theorem parseDecision_scheme_in_capitals :
    ∃ uri candidate other, ProxyUri.parse "HTTP://h:1" = .ok uri ∧
      parseDecision "PROXY HTTP://h:1" = .ok [candidate] ∧
      candidate.address = "http://HTTP://h:1" ∧ candidate.uri? = some other ∧
      (uri.scheme, uri.host, uri.port?) = ("http", "h", some 1) ∧
      (other.scheme, other.host, other.port?) = ("http", "http", some 80) := by
  have read : ProxyUri.parse "HTTP://h:1" = .ok
      ⟨⟨"http", "", none, some (.named "h" ⟨by decide, by decide⟩), some 1, .segments [""], none,
        none⟩, rfl, rfl⟩ := rfl
  have decided : parseDecision "PROXY HTTP://h:1" = .ok [⟨.proxy, "http://HTTP://h:1", some
      ⟨⟨"http", "", none, some (.named "http" ⟨by decide, by decide⟩), none,
        .segments ["", "h:1"], none, none⟩, rfl, rfl⟩⟩] := rfl
  exact ⟨_, _, _, read, decided, rfl, rfl, rfl, rfl⟩

end Candidate

end ProxyAutoConfig
