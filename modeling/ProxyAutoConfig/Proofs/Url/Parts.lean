import ProxyAutoConfig.Proofs.Outcome
import ProxyAutoConfig.Proofs.Url.Path
import ProxyAutoConfig.Proofs.Url.Reading

/-!
# The parts of a URL that has been read

Whatever the text of a URL is, its parts are in the form in which they are written.
-/

namespace ProxyAutoConfig

open ProxyAutoConfig.Text

/-! ## Hosts -/

namespace Host

variable {cs : List Char} {host : Host}

/-- What stands between brackets is an IPv6 address. -/
theorem exists_of_ofBrackets {inside : Option (List Char)} (read : ofBrackets inside = .ok host) :
    ∃ bits, host = .ipv6 bits := by
  unfold ofBrackets at read
  split at read
  · next bits _ => exact ⟨bits, (Except.ok.inj read).symm⟩
  · cases read

/-- **A domain is an address or a name in ASCII** that does not end in a number. -/
theorem of_ofDomain (read : ofDomain cs = .ok host) :
    (∃ bits, host = .ipv6 bits) ∨ (∃ bits, host = .ipv4 bits) ∨
      ∃ name isName, host = .named (String.ofList name) isName ∧
        Idna.toAscii? (Utf8.decodeLossy (Percent.decode cs)) = some name ∧
        Net.Ipv4.endsInNumber name = false := by
  unfold ofDomain at read
  split at read
  · exact .inl (exists_of_ofBrackets read)
  · split at read
    · cases read
    · next name ascii =>
      split at read
      · cases read
      · split at read
        · split at read
          · next bits _ => exact .inr (.inl ⟨bits, (Except.ok.inj read).symm⟩)
          · cases read
        · next number =>
          exact .inr (.inr ⟨name, _, (Except.ok.inj read).symm, ascii,
            Bool.eq_false_iff.mpr number⟩)

/-- **Where there are no rules, a host is an address in brackets, or any name once its control
characters are encoded**, or empty. -/
theorem of_ofText (read : ofText cs = .ok host) :
    (∃ bits, host = .ipv6 bits) ∨ host = .empty ∨
      ∃ isName, host = .named (String.ofList (Percent.encode Percent.isControl cs)) isName := by
  unfold ofText at read
  split at read
  · exact .inl (exists_of_ofBrackets read)
  · split at read
    · cases read
    · split at read
      · exact .inr (.inl (Except.ok.inj read).symm)
      · exact .inr (.inr ⟨_, (Except.ok.inj read).symm⟩)

/-- A domain is not empty. -/
theorem ne_empty_of_ofDomain (read : ofDomain cs = .ok host) : host ≠ .empty := by
  rcases of_ofDomain read with ⟨bits, rfl⟩ | ⟨bits, rfl⟩ | ⟨_, _, rfl, _⟩ <;> exact nofun

/-- Under a scheme with rules of its own, a host is a domain that is written. -/
theorem reading_eq_ok_of_special :
    reading true cs = .ok host ↔ cs ≠ [] ∧ ofDomain cs = .ok host := by
  rw [reading, if_pos rfl]
  cases cs with
  | nil =>
    constructor
    · rintro ⟨⟩
    · rintro ⟨given, -⟩
      exact absurd rfl given
  | cons c rest =>
    rw [List.isEmpty_cons, if_neg Bool.false_ne_true]
    exact ⟨fun named => ⟨List.cons_ne_nil _ _, named⟩, And.right⟩

/-- So it is not empty. -/
theorem ne_empty_of_reading (read : reading true cs = .ok host) : host ≠ .empty :=
  ne_empty_of_ofDomain (reading_eq_ok_of_special.mp read).2

end Host

namespace Url

variable {scheme : String} {cs : List Char} {url : Url}

/-- A host that is not empty has a text. -/
theorem hostText?_eq_some {host : Host} (here : url.host = some host) (nonempty : host ≠ .empty) :
    url.hostText? = some host.text := by
  rw [hostText?, here]
  cases host with
  | empty => exact absurd rfl nonempty
  | named => rfl
  | ipv4 => rfl
  | ipv6 => rfl

/-! ## URLs with an authority -/

/-- A URL with an authority is hierarchical. -/
theorem isOpaque_ofText (scheme username : String) (password : Option String) (host : Option Host)
    (port : Option UInt16) (special : Bool) (path : List Char) (query fragment : Option String) :
    isOpaque ⟨scheme, username, password, host, port, Path.ofText special path, query, fragment⟩ =
      false := by
  cases path <;> rfl

/-- The text of a path in front of a query and a fragment. -/
def pathOf (cs : List Char) : List Char × List Char :=
  cutBefore (fun c => c == '?' || c == '#') cs

/-- **A URL with an authority, part by part**: user information, the text of a host, a port, and
what stands behind them. -/
theorem readHierarchical_eq_ok (notFile : Scheme.kind scheme ≠ .file) :
    readHierarchical scheme cs = .ok url ↔ ∃ info place name rest host port behind,
      splitUserinfo (Scheme.kind scheme).isSpecial cs = .ok (info, place) ∧
      splitHost (Scheme.kind scheme).isSpecial false place = (name, rest) ∧
      Host.reading (Scheme.kind scheme).isSpecial name = .ok host ∧
      (host = .empty → rest.head? ≠ some ':' ∧ info.isPresent = false) ∧
      readPort (ownPort (Scheme.kind scheme)) rest = .ok (port, behind) ∧
      url = ⟨scheme, info.username, info.password, some host, port,
        Path.ofText (Scheme.kind scheme).isSpecial (pathOf behind).1,
        (readTail (Scheme.kind scheme).isSpecial (pathOf behind).2).1,
        (readTail (Scheme.kind scheme).isSpecial (pathOf behind).2).2⟩ := by
  constructor
  · intro read
    unfold readHierarchical at read
    obtain ⟨⟨info, place⟩, split, read⟩ := Outcome.bind_eq_ok.mp read
    obtain ⟨⟨host, port, behind⟩, found, read⟩ := Outcome.bind_eq_ok.mp read
    obtain ⟨name, rest, parts⟩ : ∃ name rest,
        splitHost (Scheme.kind scheme).isSpecial false place = (name, rest) := ⟨_, _, rfl⟩
    rw [readHost_eq notFile parts] at found
    obtain ⟨own, named, found⟩ := Outcome.bind_eq_ok.mp found
    split at found
    · cases found
    · next noColon =>
      obtain ⟨⟨_, _⟩, numbered, same⟩ := Outcome.bind_eq_ok.mp found
      cases same
      simp only at read
      split at read
      · cases read
      · next noUser =>
        refine ⟨info, place, name, rest, _, _, _, split, parts, named, ?_, numbered,
          (Except.ok.inj read).symm⟩
        rintro rfl
        simpa using And.intro noColon noUser
  · rintro ⟨info, place, name, rest, host, port, behind, split, parts, named, empty, numbered, rfl⟩
    have colon : ¬ (host == .empty && rest.head? == some ':') = true := by
      simpa using fun h => (empty h).1
    have user : ¬ (host == .empty && info.isPresent) = true := by
      simpa using fun h => (empty h).2
    simp only [readHierarchical, split, Outcome.ok_bind, readHost_eq notFile parts, named,
      if_neg colon, numbered, if_neg user]
    rfl

/-- **User information as it is written**: encoded, and without a password that is empty. -/
structure Userinfo.IsWritten (info : Userinfo) : Prop where
  username : Percent.IsEncoded Percent.isUserinfoReserved info.username
  password : ∀ password ∈ info.password,
    password ≠ "" ∧ Percent.IsEncoded Percent.isUserinfoReserved password

/-- Where there is none, there is nothing to encode. -/
theorem Userinfo.isWritten_none : Userinfo.IsWritten ⟨"", none⟩ :=
  ⟨List.forall_mem_nil _, nofun⟩

/-- **User information is read as it is written.** -/
theorem isWritten_readUserinfo (cs : List Char) : (readUserinfo cs).IsWritten := by
  have encoded : ∀ cs, Percent.IsEncoded Percent.isUserinfoReserved (encodeUserinfo cs) :=
    Percent.isEncoded_encode Percent.keepsEscapes_userinfo
  unfold readUserinfo
  split
  · next username password _ =>
    refine ⟨encoded username, fun given mem => ?_⟩
    split at mem
    · cases mem
    · next nonempty =>
      obtain rfl := Option.some.inj mem
      refine ⟨fun nothing => ?_, encoded password⟩
      have chars := congrArg String.toList nothing
      rw [encodeUserinfo, String.toList_ofList] at chars
      exact Percent.encode_ne_nil (mt List.isEmpty_iff.mpr nonempty) chars
  · exact ⟨encoded cs, nofun⟩

/-- So is what stands in front of a host. -/
theorem isWritten_of_splitUserinfo {special : Bool} {info : Userinfo} {rest : List Char}
    (split : splitUserinfo special cs = .ok (info, rest)) : info.IsWritten := by
  simp only [splitUserinfo] at split
  cases cut : cutLast? '@' (cutBefore (endsAuthority special) cs).1 with
  | none =>
    rw [cut] at split
    cases split
    exact Userinfo.isWritten_none
  | some sides =>
    simp only [cut] at split
    split at split
    · cases split
    · cases split
      exact isWritten_readUserinfo _

/-- **A port that is read is not the one that the scheme stands for.** -/
theorem ne_own_of_readPort {own port : Option UInt16} {rest : List Char}
    (read : readPort own cs = .ok (port, rest)) : ∀ p ∈ port, own ≠ some p := by
  unfold readPort at read
  split at read
  · next digits =>
    simp only at read
    cases spelled : numberFrom? 10 0 (cutBefore (!·.isDigit) digits).1 with
    | none =>
      rw [spelled] at read
      cases read
    | some n =>
      simp only [spelled] at read
      generalize (decide (65535 < n) || !_) = refused at read
      cases refused with
      | true => cases read
      | false =>
        simp only [Bool.false_eq_true, if_false] at read
        split at read
        · cases read
          rintro _ ⟨⟩
        · next other =>
          cases read
          rintro p ⟨rfl⟩ same
          exact other (Bool.or_eq_true_iff.mpr (.inr (beq_iff_eq.mpr same)))
  · cases read
    rintro _ ⟨⟩

/-- What is reserved in the query of a URL. -/
def queryReserved (special : Bool) : Char → Bool :=
  if special then Percent.isSpecialQueryReserved else Percent.isQueryReserved

/-- **A query is read as it is written.** -/
theorem isEncoded_readTail (special : Bool) (cs : List Char) :
    ∀ query ∈ (readTail special cs).1, Percent.IsEncoded (queryReserved special) query := by
  intro query mem
  simp only [readTail] at mem
  rw [← queryReserved.eq_1] at mem
  split at mem
  · obtain rfl := Option.some.inj mem
    exact Percent.isEncoded_encode (Percent.keepsEscapes_query special) _
  · cases mem
  · cases mem

/-- **The URL of a file as it is written**: its host, which is not the machine itself, and its path
are all that stands in front of the query. -/
structure IsFile (url : Url) : Prop where
  username : url.username = ""
  password : url.password = none
  port : url.port = none
  remote : ∀ host ∈ url.host, host.text ≠ "localhost"
  path : Path.IsFile url.path

/-- **A URL with a host as it is written**, part by part. -/
structure IsWritten (url : Url) : Prop where
  spelled : schemeOf? url.scheme.toList = some url.scheme
  chars : ∀ c ∈ url.scheme.toList, isSchemeChar c = true
  userinfo : Userinfo.IsWritten ⟨url.username, url.password⟩
  host : ∃ host name, url.host = some host ∧ host ≠ .empty ∧
    Host.reading (Scheme.kind url.scheme).isSpecial name = .ok host
  port : ∀ port ∈ url.port, Scheme.defaultPort? url.scheme ≠ some port
  path : Path.IsWritten (Scheme.kind url.scheme).isSpecial url.path
  query : ∀ query ∈ url.query,
    Percent.IsEncoded (queryReserved (Scheme.kind url.scheme).isSpecial) query
  file : Scheme.kind url.scheme = .file → url.IsFile

/-- A URL with an authority is read as it is written, if it has a host. -/
theorem isWritten_of_readHierarchical (written : IsWrittenScheme scheme)
    (read : readHierarchical scheme cs = .ok url) (hosted : url.hostText?.isSome = true) :
    url.IsWritten := by
  obtain ⟨info, place, name, rest, host, port, behind, split, -, named, -, numbered, rfl⟩ :=
    (readHierarchical_eq_ok written.notFile).mp read
  refine ⟨schemeOf?_of_isWrittenScheme written, List.all_eq_true.mp written.chars,
    isWritten_of_splitUserinfo split, ⟨host, name, rfl, ?_, named⟩, ne_own_of_readPort numbered,
    Path.isWritten_ofText _ _, isEncoded_readTail _ _, fun file => absurd file written.notFile⟩
  rintro rfl
  cases hosted

/-- **What a scheme is read as is a scheme as it is written.** -/
theorem isWrittenScheme_of_readScheme? {name rest : List Char}
    (read : readScheme? cs = some (name, rest))
    (notFile : Scheme.kind (String.ofList name) ≠ .file) :
    IsWrittenScheme (String.ofList name) := by
  have small : ∀ {c : Char}, isSchemeChar c = true →
      isSchemeChar c.toLower = true ∧ c.toLower.toLower = c.toLower :=
    of_isSchemeChar (P := fun c =>
      isSchemeChar c.toLower = true ∧ c.toLower.toLower = c.toLower) (by decide)
  unfold readScheme? at read
  split at read
  · split at read
    · cases read
    · next c letters _ =>
      split at read
      · next valid =>
        obtain ⟨letter, chars⟩ := Bool.and_eq_true_iff.mp valid
        obtain ⟨rfl, rfl⟩ := Prod.mk.inj (Option.some.inj read)
        rw [List.all_eq_true] at chars
        refine ⟨?_, ?_, ?_, notFile⟩
        · rw [String.toList_ofList, List.map_cons, List.head?_cons, Option.any_some]
          exact of_ascii (P := fun c => c.isAlpha = true → c.toLower.isAlpha = true) (by decide)
            (ascii_of_isSchemeChar (chars c List.mem_cons_self)) letter
        · rw [String.toList_ofList, List.all_map, List.all_eq_true]
          exact fun d mem => (small (chars d mem)).1
        · rw [String.toList_ofList, List.map_map]
          exact List.map_congr_left fun d mem => (small (chars d mem)).2
      · cases read
  · cases read

/-- **No drive stands in front** of segments that are resolved as they are cut. -/
theorem driveSegments_eq_false {segments : List (List Char)} :
    driveSegments cs = (segments, false) ↔
      (∀ first ∈ (cs.splitOnP (Path.isSlash true)).head?, Path.isDrive first = false) ∧
        segments = Path.resolve [] (cs.splitOnP (Path.isSlash true)) := by
  obtain ⟨first, rest, parts⟩ :=
    List.exists_cons_of_ne_nil (List.splitOnP_ne_nil (Path.isSlash true) cs)
  rw [driveSegments, parts]
  cases drive : Path.isDrive first with
  | true =>
    simp only [drive, if_true, Prod.mk.injEq, Bool.true_eq_false, and_false, List.head?_cons,
      Option.mem_some_iff, forall_eq', false_and]
  | false =>
    simp only [drive, Bool.false_eq_true, if_false, Prod.mk.injEq, and_true, List.head?_cons,
      Option.mem_some_iff, forall_eq', true_and]
    exact eq_comm

/-- So they are written ones. -/
theorem isSegment_of_driveSegments {segments : List (List Char)}
    (found : driveSegments cs = (segments, false)) :
    ∀ segment ∈ segments, Path.IsSegment true segment := by
  obtain ⟨-, rfl⟩ := driveSegments_eq_false.mp found
  exact Path.isSegment_of_mem_resolve (List.forall_mem_nil _) fun segment mem c own =>
    (of_mem_splitOnP mem c own).2

/-- **A file with a host, part by part**: the host is neither a drive nor the machine itself, and no
drive stands in front of the path. -/
theorem readFileHost_eq_ok {name rest : List Char}
    (cut : cutBefore (endsAuthority true) cs = (name, rest))
    (hosted : url.hostText?.isSome = true) :
    readFileHost cs = .ok url ↔ ∃ host segments, Path.isDrive name = false ∧
      Host.reading true name = .ok host ∧ host.text ≠ "localhost" ∧
      driveSegments (dropSlash (pathOf rest).1) = (segments, false) ∧
      url = fileUrl host (Path.ofFile segments) (pathOf rest).2 := by
  have hostless : ∀ path tail, .ok (fileUrl .empty path tail) ≠ (.ok url : Except Flaw Url) := by
    rintro path tail ⟨rfl⟩
    cases hosted
  constructor
  · intro read
    simp only [readFileHost, cut] at read
    split at read
    · exact absurd read (hostless _ _)
    · next noDrive =>
      split at read
      · exact absurd read (hostless _ _)
      · next given =>
        split at read
        · cases read
        · next host named =>
          split at read
          · exact absurd read (hostless _ _)
          · next remote =>
            generalize found : driveSegments _ = sides at read
            obtain ⟨segments, drive⟩ := sides
            cases drive with
            | true => exact absurd read (hostless _ _)
            | false =>
              exact ⟨host, segments, Bool.eq_false_iff.mpr noDrive,
                Host.reading_eq_ok_of_special.mpr ⟨mt List.isEmpty_iff.mpr given, named⟩,
                mt beq_iff_eq.mpr remote, found, (Except.ok.inj read).symm⟩
  · rintro ⟨host, segments, noDrive, reading, remote, found, rfl⟩
    obtain ⟨given, named⟩ := Host.reading_eq_ok_of_special.mp reading
    have behind : driveSegments (dropSlash (cutBefore (fun c => c == '?' || c == '#') rest).1) =
        (segments, false) := found
    simp only [readFileHost, cut, noDrive, Bool.false_eq_true, if_false,
      List.isEmpty_eq_false_iff.mpr given, named, beq_eq_false_iff_ne.mpr remote, behind]
    rfl

/-- **A file with a host is read as it is written.** -/
theorem isWritten_of_readFileHost (read : readFileHost cs = .ok url)
    (hosted : url.hostText?.isSome = true) : url.IsWritten := by
  obtain ⟨host, segments, -, reading, remote, found, rfl⟩ :=
    (readFileHost_eq_ok rfl hosted).mp read
  have path := Path.isFile_ofFile (isSegment_of_driveSegments found)
  have spelled : schemeOf? "file".toList = some "file" := by decide
  have chars : "file".toList.all isSchemeChar = true := by decide
  refine ⟨spelled, List.all_eq_true.mp chars, Userinfo.isWritten_none,
    ⟨host, _, rfl, Host.ne_empty_of_reading reading, reading⟩, nofun, path.isWritten,
    isEncoded_readTail _ _, fun _ => ⟨rfl, rfl, rfl, ?_, path⟩⟩
  rintro _ ⟨rfl⟩ same
  exact remote same

/-- A file's URL with a host is read behind two slashes. -/
theorem isWritten_of_readFile (read : readFile cs = .ok url)
    (hosted : url.hostText?.isSome = true) : url.IsWritten := by
  have hostless : ∀ path tail, .ok (fileUrl .empty path tail) ≠ (.ok url : Except Flaw Url) := by
    rintro path tail ⟨rfl⟩
    cases hosted
  unfold readFile at read
  split at read
  · split at read
    · exact isWritten_of_readFileHost read hosted
    · simp only at read
      split at read
      · exact absurd read (hostless _ _)
      · exact absurd read (hostless _ _)
  · exact absurd read (hostless _ _)

/-- **A URL with a host is read as it is written.** -/
theorem isWritten_of_parse {text : String} (read : parse text = .ok url)
    (hosted : url.hostText?.isSome = true) : url.IsWritten := by
  rw [parse] at read
  split at read
  · cases read
  · next name rest spelled =>
    simp only at read
    split at read
    · exact isWritten_of_readFile read hosted
    · next port kind =>
      have notFile : Scheme.kind (String.ofList name) ≠ .file := by
        rw [kind]
        rintro ⟨⟩
      have written := isWrittenScheme_of_readScheme? spelled notFile
      exact isWritten_of_readHierarchical written read hosted
    · next kind =>
      have notFile : Scheme.kind (String.ofList name) ≠ .file := by
        rw [kind]
        rintro ⟨⟩
      have written := isWrittenScheme_of_readScheme? spelled notFile
      unfold readOther at read
      split at read
      · exact isWritten_of_readHierarchical written read hosted
      · obtain rfl := Except.ok.inj read
        cases hosted

end Url

end ProxyAutoConfig
