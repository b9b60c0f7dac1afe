import ProxyAutoConfig.Proofs.Url.Written

/-!
# What is read from a written URL

Whatever is read from the text that a URL shows, if it has a host, is read from the parts of that
text (`Parts.Apart.readAs`). So the two conditions under which a URL is read from its text are
necessary ones (`IsWritten.of_parse_shown`): without them it is read with another host, or with
none.

A semicolon is not encoded wherever it may stand, but no part gets one that it is not read from,
unless it is decoded. So no text goes on with a semicolon behind the address that it is read from
(`shown_ne_append_semicolon`).
-/

namespace ProxyAutoConfig

open ProxyAutoConfig.Net ProxyAutoConfig.Text

/-! ## Hosts -/

namespace Host

variable {host again : Host} {special : Bool} {cs : List Char}

/-- No percent sign stands in a host under a scheme with rules. -/
theorem escapeless_text (read : reading true cs = .ok host) : '%' ∉ host.text.toList := by
  rcases of_ofDomain (reading_eq_ok_of_special.mp read).2 with
    ⟨bits, rfl⟩ | ⟨bits, rfl⟩ | ⟨name, isName, rfl, ascii, _⟩
  · exact fun mem => forall_mem_text_ipv6 (P := (· ≠ '%')) bits (by decide) (by decide) '%' mem rfl
  · rw [text, String.toList_ofList]
    exact (IsPlainText.address bits).not_mem (by decide)
  · rw [text, String.toList_ofList]
    exact fun mem => absurd (Idna.not_isRefusedInHost_of_toAscii? ascii '%' mem) (by decide)

/-- **A name that is read from its text is its own ASCII form.** -/
theorem isOwnAscii_of_reading_text (read : reading special cs = .ok host)
    (reread : reading special host.text.toList = .ok again) (same : again.text = host.text) :
    host.IsOwnAscii special := by
  cases host with
  | empty => trivial
  | ipv4 bits => trivial
  | ipv6 bits => trivial
  | named name isName =>
    rintro rfl
    have escapeless := escapeless_text read
    rcases of_ofDomain (reading_eq_ok_of_special.mp reread).2 with
      ⟨bits, rfl⟩ | ⟨bits, rfl⟩ | ⟨other, _, rfl, ascii, _⟩
    · have bracket : '[' ∈ (text (.named name isName)).toList := by
        rw [← same, text, String.toList_ofList]
        exact List.mem_cons_self
      exact absurd bracket (not_mem_name isName (by decide))
    · obtain rfl : String.ofList (Ipv4.text bits) = name := same
      rw [String.toList_ofList]
      exact (IsPlainText.address bits).toAscii?_eq
    · obtain rfl : String.ofList other = name := same
      rw [decodeLossy_of_escapeless escapeless, text] at ascii
      rwa [String.toList_ofList] at ascii ⊢

/-- Only a name has a semicolon. -/
theorem exists_name_of_semicolon (mem : ';' ∈ host.text.toList) :
    ∃ name isName, host = .named name isName := by
  cases host with
  | empty => cases mem
  | named name isName => exact ⟨name, isName, rfl⟩
  | ipv4 bits =>
    rw [text, String.toList_ofList] at mem
    exact absurd mem ((IsPlainText.address bits).not_mem (by decide))
  | ipv6 bits =>
    exact absurd rfl (forall_mem_text_ipv6 (P := (· ≠ ';')) bits (by decide) (by decide) ';' mem)

/-- **A semicolon stands in a host where it is read**, unless an escape does. -/
theorem semicolon_mem (read : reading special cs = .ok host) (ascii : ∀ c ∈ cs, c.toNat < 0x80)
    (escapeless : special = true → '%' ∉ cs) (mem : ';' ∈ host.text.toList) : ';' ∈ cs := by
  obtain ⟨name, isName, rfl⟩ := exists_name_of_semicolon mem
  cases special with
  | true =>
    rcases of_ofDomain (reading_eq_ok_of_special.mp read).2 with
      ⟨bits, other⟩ | ⟨bits, other⟩ | ⟨chars, _, other, form, _⟩
    · cases other
    · cases other
    · obtain rfl := (Host.named.inj other)
      rw [decodeLossy_of_escapeless (escapeless rfl)] at form
      rw [text, String.toList_ofList] at mem
      exact Idna.mem_of_mem_toAscii? ascii form mem (by decide) (by decide)
  | false =>
    rw [reading, if_neg Bool.false_ne_true] at read
    rcases of_ofText read with ⟨bits, other⟩ | other | ⟨_, other⟩
    · cases other
    · cases other
    · obtain rfl := (Host.named.inj other)
      rw [text, String.toList_ofList] at mem
      rcases Percent.mem_encode mem with own | escape
      · exact own
      · exact absurd escape (by decide)

end Host

namespace Url

variable {url again : Url} {scheme text : String} {parts : Parts} {special : Bool} {cs : List Char}
  {mark : Char}

/-! ## Parts -/

/-- What stands neither behind a path nor in escapes does not stand in the query. -/
theorem not_mem_readTail (escape : mark ∉ Percent.escapeChars) (absent : mark ∉ cs) :
    ∀ query ∈ (readTail special cs).1, mark ∉ query.toList := by
  intro query mem own
  simp only [readTail] at mem
  split at mem
  · obtain rfl := Option.some.inj mem
    rw [String.toList_ofList] at own
    rcases Percent.mem_encode own with here | there
    · exact absent (List.mem_cons_of_mem _ ((List.takeWhile_sublist _).subset here))
    · exact escape there
  · cases mem
  · cases mem

/-- **A URL that is read from parts**: each of its own parts is read from the one that stands
there. -/
structure Parts.ReadAs (scheme : String) (parts : Parts) (url : Url) : Prop where
  host : ∃ host, url.host = some host ∧
    Host.reading (Scheme.kind scheme).isSpecial parts.name = .ok host
  path : Scheme.kind scheme ≠ .file →
    url.path = Path.ofText (Scheme.kind scheme).isSpecial (pathOf parts.tail).1
  file : Scheme.kind scheme = .file →
    ∃ segments, driveSegments (dropSlash (pathOf parts.tail).1) = (segments, false) ∧
      url.path = Path.ofFile segments
  query : url.query = (readTail (Scheme.kind scheme).isSpecial (pathOf parts.tail).2).1

/-- **What is read from parts has a host, or is read from them so.** -/
theorem Parts.Apart.readAs (apart : parts.Apart scheme)
    (spelled : schemeOf? scheme.toList = some scheme)
    (chars : ∀ c ∈ scheme.toList, isSchemeChar c = true) (visible : ∀ c ∈ parts.text, IsVisible c)
    (whole : text.toList = scheme.toList ++ ':' :: '/' :: '/' :: parts.text)
    (read : parse text = .ok url) (hosted : url.hostText?.isSome = true) :
    parts.ReadAs scheme url := by
  rw [parse_parts spelled chars apart visible whole] at read
  split at read
  · next file =>
    obtain ⟨host, segments, -, reading, -, found, rfl⟩ :=
      (apart.readFileHost_text file hosted).mp read
    have special : (Scheme.kind scheme).isSpecial = true := by rw [file]; rfl
    rw [← special] at reading
    refine ⟨⟨host, rfl, reading⟩, fun notFile => absurd file notFile,
      fun _ => ⟨segments, found, rfl⟩, ?_⟩
    rw [special]
    rfl
  · next notFile =>
    obtain ⟨host, reading, rfl⟩ := (apart.readHierarchical_text notFile hosted).mp read
    exact ⟨⟨host, rfl, reading⟩, fun _ => rfl, fun file => absurd file notFile, rfl⟩

/-- A slash may be missing in front of the rest of a path. -/
theorem mem_of_mem_dropSlash (mem : mark ∈ dropSlash cs) : mark ∈ cs := by
  cases cs with
  | nil => exact mem
  | cons c rest =>
    rw [dropSlash] at mem
    split at mem
    · exact List.mem_cons_of_mem c mem
    · exact mem

/-- What stands neither in the tail nor in escapes stands neither in the path nor in the query. -/
theorem Parts.ReadAs.not_mem (readAs : parts.ReadAs scheme url) (slash : mark ≠ '/')
    (question : mark ≠ '?') (escape : mark ∉ Percent.escapeChars) (absent : mark ∉ parts.tail) :
    mark ∉ url.path.shown ++ queryText url.query := by
  have front : mark ∉ (pathOf parts.tail).1 := fun mem =>
    absent ((List.takeWhile_sublist _).subset mem)
  have behind : mark ∉ (pathOf parts.tail).2 := fun mem =>
    absent ((List.dropWhile_sublist _).subset mem)
  have path : mark ∉ url.path.text.toList := by
    by_cases file : Scheme.kind scheme = .file
    · obtain ⟨segments, found, same⟩ := readAs.file file
      obtain ⟨-, rfl⟩ := driveSegments_eq_false.mp found
      rw [same]
      refine Path.not_mem_text_ofFile slash fun segment mem own => ?_
      rcases Path.of_mem_resolve_splitOnP (List.forall_mem_nil _) segment mem mark own with
        here | there
      · exact front (mem_of_mem_dropSlash here)
      · exact escape there
    · rw [readAs.path file]
      exact Path.not_mem_text_ofText slash escape front
  intro mem
  rcases List.mem_append.mp mem with shown | shown
  · rw [Path.shown] at shown
    split at shown
    · cases shown
    · exact path shown
  · cases query : url.query with
    | none =>
      rw [query] at shown
      cases shown
    | some text =>
      rw [query] at shown
      rcases List.mem_cons.mp shown with same | own
      · exact question same
      · exact not_mem_readTail escape behind text (readAs.query ▸ query) own

/-! ## Whole URLs -/

/-- The scheme in front is the URL's. -/
theorem scheme_of_parse {rest : List Char} (written : IsWrittenScheme scheme)
    (whole : text.toList = scheme.toList ++ ':' :: rest) (read : parse text = .ok url) :
    url.scheme = scheme := by
  have hierarchical : ∀ {cs : List Char}, readHierarchical scheme cs = .ok url →
      url.scheme = scheme := by
    intro cs read
    obtain ⟨_, _, _, _, _, _, _, -, -, -, -, -, rfl⟩ :=
      (readHierarchical_eq_ok written.notFile).mp read
    rfl
  rw [parse_append whole written.colon, schemeOf?_of_isWrittenScheme written] at read
  simp only [readBehind] at read
  split at read
  · next file => exact absurd file written.notFile
  · exact hierarchical read
  · unfold readOther at read
    split at read
    · exact hierarchical read
    · obtain rfl := Except.ok.inj read
      rfl

/-- A host that has a text has its own. -/
theorem hostText?_of_isSome {host : Host} (here : url.host = some host)
    (hosted : url.hostText?.isSome = true) : url.hostText? = some host.text := by
  refine hostText?_eq_some here ?_
  rintro rfl
  rw [hostText?, here] at hosted
  cases hosted

/-- **A URL that is read from what it shows, with its host**, has a host that is its own ASCII form,
and no drive in front of its path if it is a file. -/
theorem IsWritten.of_parse_shown (written : url.IsWritten)
    (whole : text.toList = url.scheme.toList ++ ':' :: '/' :: '/' :: url.shown)
    (read : parse text = .ok again) (same : again.hostText? = url.hostText?) :
    (∀ host ∈ url.host, host.IsOwnAscii (Scheme.kind url.scheme).isSpecial) ∧
      (url.scheme = "file" → url.path.beginsWithDrive = false) := by
  obtain ⟨host, source, here, hosted, name, nonempty, reading⟩ := written.exists_host
  have hosted' : again.hostText?.isSome = true := by rw [same, hosted]; rfl
  have readAs := written.apart.readAs written.spelled written.chars written.isVisible_shown whole
    read hosted'
  constructor
  · obtain ⟨other, there, reread⟩ := readAs.host
    have texts : other.text = host.text := Option.some.inj
      ((hostText?_of_isSome there hosted').symm.trans (same.trans hosted))
    intro host' member
    obtain rfl := Option.some.inj (here.symm.trans member)
    exact Host.isOwnAscii_of_reading_text reading (name ▸ reread) texts
  · intro scheme
    have kind : Scheme.kind url.scheme = .file := by rw [scheme]; rfl
    obtain ⟨segments, found, -⟩ := readAs.file kind
    have tail : pathOf url.parts.tail = (url.path.shown, queryText url.query) :=
      pathOf_shown written.path url.query
    rw [tail] at found
    rw [← (driveSegments_shown (written.file kind).path).1, found]

/-- What is encoded in front of a host has no semicolon. -/
theorem Userinfo.IsWritten.semicolon_not_mem {info : Userinfo} (written : info.IsWritten) :
    ';' ∉ info.shown := by
  have username := not_mem_of_isEncoded written.username (c := ';') (by decide)
  intro mem
  rw [Userinfo.shown] at mem
  split at mem
  · cases mem
  · rcases List.mem_append.mp mem with login | sign
    · rcases List.mem_append.mp login with here | there
      · exact username here
      · cases given : info.password with
        | none =>
          rw [given] at there
          cases there
        | some password =>
          rw [given] at there
          rcases List.mem_cons.mp there with colon | own
          · cases colon
          · exact not_mem_of_isEncoded (written.password password given).2 (by decide) own
    · cases List.mem_singleton.mp sign

/-- A port has none. -/
theorem semicolon_not_mem_portText (port : Option UInt16) : ';' ∉ (portText port).toList := by
  cases port with
  | none => exact List.not_mem_nil
  | some port =>
    rw [toList_portText_some]
    intro mem
    rcases List.mem_cons.mp mem with colon | digit
    · cases colon
    · exact absurd (Ipv4.isDigit_of_mem_decimal digit) (by decide)

/-- What stands in front of a character in a tail is a tail. -/
theorem IsTail.of_append {front back : List Char} (isTail : IsTail (front ++ back)) :
    IsTail front := by
  cases front with
  | nil => exact nofun
  | cons c rest => exact isTail

/-- The front of a host that has a semicolon may stand in its place. -/
theorem Parts.Apart.front_of_semicolon {host : Host} {before after : List Char}
    (apart : parts.Apart scheme) (split : host.text.toList = before ++ ';' :: after) :
    Parts.Apart scheme ⟨parts.info, before, none, []⟩ := by
  have within : ∀ {c : Char}, c ∈ before → c ∈ host.text.toList := fun mem =>
    split ▸ List.mem_append_left _ mem
  obtain ⟨name, isName, rfl⟩ :=
    Host.exists_name_of_semicolon (split ▸ List.mem_append_right _ List.mem_cons_self)
  exact ⟨apart.info,
    .plain (fun mem => Host.not_mem_name isName (by decide) (within mem))
      (fun mem => Host.not_mem_name isName (by decide) (within mem)),
    fun c mem => (Host.goesOn_text _ c (within mem)).1,
    fun mem => (Host.goesOn_text _ '@' (within mem)).2.1 rfl,
    nofun, nofun, fun _ => rfl, fun file => ⟨(apart.file file).1, rfl⟩⟩

/-- The front of a tail may stand in its place. -/
theorem Parts.Apart.front_of_tail {before after : List Char} (apart : parts.Apart scheme)
    (split : parts.tail = before ++ after) (named : parts.name ≠ []) :
    Parts.Apart scheme ⟨parts.info, parts.name, parts.port, before⟩ :=
  ⟨apart.info, apart.delimited, apart.goesOn, apart.single, apart.port,
    (split ▸ apart.tail).of_append, fun nameless => absurd nameless named, apart.file⟩

/-! A URL that is read from its own text up to a semicolon; there is none, as the last of these
lemmas says. -/

section Semicolon

variable {front back : List Char} (written : url.IsWritten)
  (read : parse (String.ofList front) = .ok url) (hosted : url.hostText?.isSome = true)
  (absent : ';' ∉ front)
  (whole : url.scheme.toList ++ ':' :: '/' :: '/' :: url.shown = front ++ ';' :: back)

include written

/-- A scheme has no semicolon. -/
theorem IsWritten.semicolon_not_mem_scheme : ';' ∉ url.scheme.toList := fun mem =>
  absurd (written.chars ';' mem) (by decide)

include read hosted absent whole

/-- What stands in front of the semicolon gives the URL its parts. -/
theorem IsWritten.readAs_front {rest : List Char} (apart : parts.Apart url.scheme)
    (single : ';' ∉ parts.text) (shown : url.shown = parts.text ++ ';' :: rest) :
    parts.ReadAs url.scheme url := by
  have marked : ';' ∉ url.scheme.toList ++ ':' :: '/' :: '/' :: parts.text := by
    simp only [List.mem_append, List.mem_cons, not_or]
    exact ⟨written.semicolon_not_mem_scheme, by decide, by decide, by decide, single⟩
  have cut : url.scheme.toList ++ ':' :: '/' :: '/' :: parts.text ++ ';' :: rest =
      front ++ ';' :: back := by
    rw [← whole, shown]
    simp only [List.append_assoc, List.cons_append]
  obtain ⟨same, -⟩ := append_mark_inj marked absent cut
  refine apart.readAs written.spelled written.chars (fun c mem => ?_)
    (String.toList_ofList.trans same.symm) read hosted
  exact written.isVisible_shown c (shown ▸ List.mem_append_left _ mem)

/-- The host of such a URL has no semicolon: it would be read from what stands in front of it. -/
theorem IsWritten.semicolon_not_mem_name : ';' ∉ url.parts.name := by
  obtain ⟨host, source, here, -, name, -, reading⟩ := written.exists_host
  have info : ';' ∉ url.parts.info.shown := written.userinfo.semicolon_not_mem
  rw [name]
  intro inHost
  obtain ⟨before, after, split, first⟩ := List.eq_append_cons_of_mem inHost
  have within : ∀ {c : Char}, c ∈ before → c ∈ host.text.toList := fun mem =>
    split ▸ List.mem_append_left _ mem
  have text : Parts.text ⟨url.parts.info, before, none, []⟩ = url.parts.info.shown ++ before := by
    simp only [Parts.text, Parts.place, toList_portText_none, List.append_nil]
  have single : ';' ∉ Parts.text ⟨url.parts.info, before, none, []⟩ := by
    rw [text, List.mem_append]
    exact fun mem => mem.elim info first
  have cut : url.shown = Parts.text ⟨url.parts.info, before, none, []⟩ ++
      ';' :: (after ++ (portText url.parts.port).toList ++ url.parts.tail) := by
    rw [shown, text, Parts.text, Parts.place, name, split]
    simp only [List.append_assoc, List.cons_append]
  have readAs := written.readAs_front read hosted absent whole
    (written.apart.front_of_semicolon split) single cut
  obtain ⟨other, there, reread⟩ := readAs.host
  obtain rfl := Option.some.inj (here.symm.trans there)
  refine first (Host.semicolon_mem reread (fun c mem => ?_) (fun special mem => ?_) inHost)
  · exact (Host.isVisible_text reading c (within mem)).2
  · rw [special] at reading
    exact Host.escapeless_text reading (within mem)

/-- Nor has what stands behind the host: its path and query are read from what stands in front. -/
theorem IsWritten.semicolon_not_mem_tail
    (single : ';' ∉ url.parts.info.shown ++ url.parts.place) : ';' ∉ url.parts.tail := by
  obtain ⟨host, -, -, -, name, nonempty, -⟩ := written.exists_host
  intro inTail
  obtain ⟨before, after, split, first⟩ := List.eq_append_cons_of_mem inTail
  have text : Parts.text ⟨url.parts.info, url.parts.name, url.parts.port, before⟩ =
      url.parts.info.shown ++ url.parts.place ++ before := rfl
  have single' : ';' ∉ Parts.text ⟨url.parts.info, url.parts.name, url.parts.port, before⟩ := by
    rw [text, List.mem_append]
    exact fun mem => mem.elim single first
  have cut : url.shown = Parts.text ⟨url.parts.info, url.parts.name, url.parts.port, before⟩ ++
      ';' :: after := by
    rw [shown, text, Parts.text, split]
    simp only [List.append_assoc]
  have readAs := written.readAs_front read hosted absent whole
    (written.apart.front_of_tail split (name ▸ Host.toList_text_ne_nil nonempty)) single' cut
  exact readAs.not_mem (by decide) (by decide) (by decide) first inTail

end Semicolon

/-- **A text does not go on with a semicolon behind the address that it is read from.** -/
theorem shown_ne_append_semicolon {front back : List Char}
    (read : parse (String.ofList front) = .ok url) (hosted : url.hostText?.isSome = true)
    (absent : ';' ∉ front) :
    url.scheme.toList ++ ':' :: '/' :: '/' :: url.shown ≠ front ++ ';' :: back := by
  have written := isWritten_of_parse read hosted
  intro whole
  have place : ';' ∉ url.parts.info.shown ++ url.parts.place := by
    simp only [Parts.place, List.mem_append, not_or]
    exact ⟨written.userinfo.semicolon_not_mem,
      written.semicolon_not_mem_name read hosted absent whole, semicolon_not_mem_portText _⟩
  have tail := written.semicolon_not_mem_tail read hosted absent whole place
  have mem : ';' ∈ url.scheme.toList ++ ':' :: '/' :: '/' :: url.shown :=
    whole ▸ List.mem_append_right _ List.mem_cons_self
  rcases List.mem_append.mp mem with inScheme | behind
  · exact written.semicolon_not_mem_scheme inScheme
  · have inShown : ';' ∈ url.shown := by
      simpa only [List.mem_cons, (by decide : ';' ≠ ':'), (by decide : ';' ≠ '/'), false_or]
        using behind
    exact (List.mem_append.mp inShown).elim place tail

end Url

end ProxyAutoConfig
