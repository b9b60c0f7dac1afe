import ProxyAutoConfig.Proofs.Idna.Ascii
import ProxyAutoConfig.Proofs.Net.Ipv6
import ProxyAutoConfig.Proofs.Proxy.Key
import ProxyAutoConfig.Proofs.Url.Tail

/-!
# Written URLs, read again

Behind two slashes a URL shows user information, a host, a port, a path and a query. Each of these
parts is found again where it was written, since no character that would end it stands in it, and is
read as it was. So what a URL shows is read as the URL (`parse_shown`), but for what is not shown: a
fragment, a lone slash, and a password without a user name.

Two things may change. A name that is not its own ASCII form is read as another name, and a drive
at the front of a file's path is read as taking the place of the host.
-/

namespace ProxyAutoConfig

open ProxyAutoConfig.Net ProxyAutoConfig.Text

/-! ## Hosts -/

namespace Host

variable {host : Host} {special : Bool} {cs : List Char}

/-- **The name of a domain is its own ASCII form.** Nothing is asked of a host that is no name, or
under a scheme without rules. -/
def IsOwnAscii (special : Bool) : Host → Prop
  | .named name _ => special = true → Idna.toAscii? name.toList = some name.toList
  | _ => True

instance decidableIsOwnAscii (special : Bool) : (host : Host) → Decidable (host.IsOwnAscii special)
  | .named name _ =>
    inferInstanceAs (Decidable (special = true → Idna.toAscii? name.toList = some name.toList))
  | .empty => isTrue trivial
  | .ipv4 _ => isTrue trivial
  | .ipv6 _ => isTrue trivial

/-- What stands between brackets is read for itself. -/
theorem bracketed?_append (inside : List Char) :
    bracketed? ('[' :: (inside ++ [']'])) = some (some inside) := by
  simp only [bracketed?, cutLast?_append inside List.not_mem_nil]

/-- An address in brackets is read back, whatever the scheme. -/
theorem reading_ipv6 (special : Bool) (bits : Ipv6) :
    reading special (text (.ipv6 bits)).toList = .ok (.ipv6 bits) := by
  have chars : (text (.ipv6 bits)).toList = '[' :: (Ipv6.text bits ++ [']']) := by
    rw [text, String.toList_ofList, List.cons_append]
  have inside : ofBrackets (some (Ipv6.text bits)) = .ok (.ipv6 bits) := by
    rw [ofBrackets, Option.bind_some, Ipv6.parse?_text]
  rw [chars, reading]
  cases special with
  | true =>
    rw [if_pos rfl, List.isEmpty_cons, if_neg Bool.false_ne_true, ofDomain, bracketed?_append]
    exact inside
  | false =>
    rw [if_neg Bool.false_ne_true, ofText, bracketed?_append]
    exact inside

/-- Neither a bracket nor a colon stands in a name, and no other character that no host holds. -/
theorem not_mem_name {name : String} (isName : IsName name) {c : Char}
    (refused : isRefused c = true) : c ∉ name.toList :=
  fun mem => List.any_eq_false.mp isName.2 c mem refused

/-- **A host is read from its text as it was**, if it is its own ASCII form. -/
theorem reading_text (read : reading special cs = .ok host) (nonempty : host ≠ .empty)
    (own : host.IsOwnAscii special) : reading special host.text.toList = .ok host := by
  cases special with
  | true =>
    obtain ⟨-, domain⟩ := reading_eq_ok_of_special.mp read
    refine reading_eq_ok_of_special.mpr ⟨toList_text_ne_nil nonempty, ?_⟩
    rcases of_ofDomain domain with ⟨bits, rfl⟩ | ⟨bits, rfl⟩ | ⟨name, isName, rfl, _, number⟩
    · exact (reading_eq_ok_of_special.mp (reading_ipv6 true bits)).2
    · rw [text, String.toList_ofList, ofDomain_address]
    · have ascii := own rfl
      have bracketless := not_mem_name isName (c := '[') (by decide)
      have given := isName.1
      rw [String.toList_ofList] at ascii bracketless given
      have escapeless : '%' ∉ name := fun mem =>
        absurd (Idna.not_isRefusedInHost_of_toAscii? ascii '%' mem) (by decide)
      rw [text, String.toList_ofList, ofDomain_of_ascii bracketless escapeless ascii given, number]
      rfl
  | false =>
    rw [reading, if_neg Bool.false_ne_true] at read
    rcases of_ofText read with ⟨bits, rfl⟩ | rfl | ⟨isName, rfl⟩
    · exact reading_ipv6 false bits
    · exact absurd rfl nonempty
    · have bracketless := not_mem_name isName (c := '[') (by decide)
      have allowed := isName.2
      have given := isName.1
      have encoded := Percent.isEncoded_encode Percent.keepsEscapes_control cs
      rw [String.toList_ofList] at bracketless allowed given
      rw [Percent.IsEncoded, String.toList_ofList] at encoded
      rw [text, String.toList_ofList, reading, if_neg Bool.false_ne_true, ofText,
        bracketed?_eq_none bracketless]
      simp only [Percent.encode_of_plain encoded]
      rw [dif_neg (Bool.eq_false_iff.mp allowed), dif_neg (mt List.isEmpty_iff.mp given)]

/-- What holds for the characters of an IPv6 address in brackets holds throughout it. -/
theorem forall_mem_text_ipv6 {P : Char → Prop} (bits : Ipv6)
    (brackets : P '[' ∧ P ']' ∧ P ':') (digits : ∀ d < 16, P (Nat.digitChar d)) :
    ∀ c ∈ (text (.ipv6 bits)).toList, P c := by
  intro c mem
  rw [text, String.toList_ofList] at mem
  rcases List.mem_append.mp mem with front | last
  · rcases List.mem_cons.mp front with rfl | inside
    · exact brackets.1
    · rcases Ipv6.eq_colon_or_digit_of_mem_text inside with rfl | ⟨d, hd, rfl⟩
      · exact brackets.2.2
      · exact digits d hd
  · obtain rfl := List.mem_singleton.mp last
    exact brackets.2.1

/-- **An authority goes on through a host**, and neither an at sign nor a bar stands in it. -/
theorem goesOn_text (host : Host) :
    ∀ c ∈ host.text.toList, Url.endsAuthority true c = false ∧ c ≠ '@' ∧ c ≠ '|' := by
  cases host with
  | empty => exact List.forall_mem_nil _
  | named name isName =>
    intro c mem
    have allowed := List.any_eq_false.mp isName.2 c mem
    refine ⟨Bool.eq_false_iff.mpr fun ends => allowed ?_, ?_, ?_⟩
    · simp only [Url.endsAuthority, Bool.true_and, Bool.or_eq_true, beq_iff_eq] at ends
      rcases ends with ((rfl | rfl) | rfl) | rfl <;> decide
    · rintro rfl
      exact allowed (by decide)
    · rintro rfl
      exact allowed (by decide)
  | ipv4 bits =>
    rw [text, String.toList_ofList]
    exact (IsPlainText.address bits).forall_mem
      (P := fun c => Url.endsAuthority true c = false ∧ c ≠ '@' ∧ c ≠ '|') (by decide) (by decide)
  | ipv6 bits => exact forall_mem_text_ipv6 bits (by decide) (by decide)

/-- No host is taken for a drive. -/
theorem isDrive_text (host : Host) : Path.isDrive host.text.toList = false := by
  have delimited := host.delimited_text
  have bar : '|' ∉ host.text.toList := fun mem => (host.goesOn_text '|' mem).2.2 rfl
  rw [← Bool.not_eq_true]
  intro drive
  unfold Path.isDrive at drive
  split at drive
  · next c d two =>
    rw [two] at delimited bar
    obtain ⟨letter, mark⟩ := Bool.and_eq_true_iff.mp drive
    generalize whole : [c, d] = cs at delimited
    cases delimited with
    | plain colon _ =>
      subst whole
      rcases Bool.or_eq_true_iff.mp mark with mark | mark <;>
        (obtain rfl := beq_iff_eq.mp mark; simp at colon bar)
    | bracketed _ =>
      obtain ⟨rfl, -⟩ := List.cons.inj whole
      cases letter
  · cases drive

/-- **A host that has been read is written in visible characters.** -/
theorem isVisible_text (read : reading special cs = .ok host) :
    ∀ c ∈ host.text.toList, IsVisible c := by
  cases special with
  | true =>
    rcases of_ofDomain (reading_eq_ok_of_special.mp read).2 with
      ⟨bits, rfl⟩ | ⟨bits, rfl⟩ | ⟨name, isName, rfl, ascii, _⟩
    · exact forall_mem_text_ipv6 bits (by decide) (by decide)
    · rw [text, String.toList_ofList]
      exact (IsPlainText.address bits).forall_mem (P := IsVisible) (by decide) (by decide)
    · rw [text, String.toList_ofList]
      intro c mem
      have allowed := Idna.not_isRefusedInHost_of_toAscii? ascii c mem
      simp only [Idna.isRefusedInHost, Bool.or_eq_false_iff, decide_eq_false_iff_not,
        Nat.not_le] at allowed
      exact ⟨allowed.1.1, Idna.ascii_of_toAscii? ascii c mem⟩
  | false =>
    rw [reading, if_neg Bool.false_ne_true] at read
    rcases of_ofText read with ⟨bits, rfl⟩ | rfl | ⟨isName, rfl⟩
    · exact forall_mem_text_ipv6 bits (by decide) (by decide)
    · exact List.forall_mem_nil _
    · intro c mem
      have space := not_mem_name isName (c := ' ') (by decide)
      obtain ⟨ascii, free⟩ := Percent.isEncoded_encode Percent.keepsEscapes_control cs c mem
      simp only [Percent.isControl, Bool.or_eq_false_iff, decide_eq_false_iff_not,
        Nat.not_lt] at free
      refine ⟨Nat.lt_of_le_of_ne free.1 fun same => space ?_, ascii⟩
      rwa [(Char.toNat_inj (d := ' ')).mp same.symm] at mem

end Host

namespace Url

variable {scheme : String} {special : Bool} {tail : List Char}

/-! ## Host and port -/

/-- A colon ends a host, and so does the end of an authority. -/
theorem splitHost_of_ends {rest : List Char} (ends : ∀ c ∈ rest.head?, c = ':') :
    splitHost true false rest = ([], rest) := by
  cases rest with
  | nil => rfl
  | cons c cs =>
    obtain rfl := ends c rfl
    rfl

/-- Between brackets a colon ends no host. -/
theorem splitHost_inside {inside : List Char} (goesOn : GoesOn inside) (bracket : ']' ∉ inside)
    {rest : List Char} (ends : ∀ c ∈ rest.head?, c = ':') :
    splitHost true true (inside ++ ']' :: rest) = (inside ++ [']'], rest) := by
  induction inside with
  | nil =>
    have closed : splitHost true true (']' :: rest) =
        (']' :: (splitHost true false rest).1, (splitHost true false rest).2) := rfl
    rw [List.nil_append, closed, splitHost_of_ends ends]
    rfl
  | cons c cs ih =>
    obtain ⟨here, behind⟩ := List.forall_mem_cons.mp goesOn
    obtain ⟨hc, hcs⟩ := List.ne_and_not_mem_of_not_mem_cons bracket
    have inside : (c == '[' || (true && c != ']')) = true := by
      rw [bne_iff_ne.mpr (Ne.symm hc), Bool.and_self, Bool.or_true]
    rw [List.cons_append, splitHost, here, inside, ih behind hcs]
    simp only [Bool.not_true, Bool.and_false, Bool.or_self, Bool.false_eq_true, if_false,
      List.cons_append]

/-- **A host is found in front of its port.** -/
theorem splitHost_of_delimited {name rest : List Char} (delimited : Host.Delimited name)
    (goesOn : GoesOn name) (ends : ∀ c ∈ rest.head?, c = ':') :
    splitHost true false (name ++ rest) = (name, rest) := by
  cases delimited with
  | @bracketed inside closed =>
    have goesOn' : GoesOn inside := fun c mem =>
      goesOn c (List.mem_cons_of_mem _ (List.mem_append_left _ mem))
    have opened : splitHost true false ('[' :: (inside ++ [']']) ++ rest) =
        ('[' :: (splitHost true true (inside ++ ']' :: rest)).1,
          (splitHost true true (inside ++ ']' :: rest)).2) := by
      rw [List.cons_append, List.append_assoc]
      rfl
    rw [opened, splitHost_inside goesOn' closed ends]
  | plain colon bracket =>
    induction name with
    | nil => exact splitHost_of_ends ends
    | cons c cs ih =>
      obtain ⟨here, behind⟩ := List.forall_mem_cons.mp goesOn
      obtain ⟨hc, hcs⟩ := List.ne_and_not_mem_of_not_mem_cons colon
      obtain ⟨hb, hbs⟩ := List.ne_and_not_mem_of_not_mem_cons bracket
      have noColon : (c == ':') = false := beq_eq_false_iff_ne.mpr (Ne.symm hc)
      have noBracket : (c == '[') = false := beq_eq_false_iff_ne.mpr (Ne.symm hb)
      simp only [List.cons_append, splitHost, noColon, noBracket, Bool.false_and, Bool.or_self,
        here, Bool.false_eq_true, if_false, ih behind hcs hbs]

/-- **A port is read from its text**, unless it is the scheme's own. -/
theorem readPort_portText {own port : Option UInt16} (other : ∀ p ∈ port, own ≠ some p)
    (isTail : IsTail tail) :
    readPort own ((portText port).toList ++ tail) = .ok (port, tail) := by
  cases port with
  | none =>
    cases tail with
    | nil => rfl
    | cons c cs =>
      refine readPort_of_ne ?_ own cs
      rcases isTail c rfl with rfl | rfl | rfl <;> decide
  | some port =>
    have digits := readPort_toDigits own port
    rw [if_neg (other port rfl)] at digits
    rw [toList_portText_some]
    cases tail with
    | nil => rwa [List.append_nil]
    | cons c cs =>
      rw [readPort_tail (isTail.endsAuthority_eq true c rfl), digits]
      rfl

/-! ## User information -/

/-- A user name, and a password behind a colon. -/
def Userinfo.login (info : Userinfo) : List Char :=
  info.username.toList ++ (info.password.elim [] fun password => ':' :: password.toList)

/-- User information as it is shown in front of a host; a password without a user name is left
out. -/
def Userinfo.shown (info : Userinfo) : List Char :=
  if info.username = "" then [] else info.login ++ ['@']

/-- What is left of user information once it has been shown. -/
def Userinfo.kept (info : Userinfo) : Userinfo :=
  if info.username = "" then ⟨"", none⟩ else info

/-- What is encoded is read as it stands. -/
theorem encodeUserinfo_of_isEncoded {part : String}
    (encoded : Percent.IsEncoded Percent.isUserinfoReserved part) :
    encodeUserinfo part.toList = part := by
  rw [encodeUserinfo, Percent.encode_of_plain encoded, String.ofList_toList]

/-- A character that has a meaning in user information does not stand in one of its parts. -/
theorem not_mem_of_isEncoded {reserved : Char → Bool} {part : String}
    (encoded : Percent.IsEncoded reserved part) {c : Char} (meaning : reserved c = true) :
    c ∉ part.toList := by
  intro mem
  rw [(encoded c mem).2] at meaning
  cases meaning

/-- An authority goes on through what is encoded. -/
theorem goesOn_of_isEncoded {part : String}
    (encoded : Percent.IsEncoded Percent.isUserinfoReserved part) : GoesOn part.toList := by
  intro c mem
  have free := not_mem_of_isEncoded encoded (c := c)
  rw [← Bool.not_eq_true]
  intro ends
  simp only [endsAuthority, Bool.true_and, Bool.or_eq_true, beq_iff_eq] at ends
  rcases ends with ((rfl | rfl) | rfl) | rfl <;> exact free (by decide) mem

/-- An authority goes on through a user name and a password. -/
theorem Userinfo.IsWritten.goesOn_login {info : Userinfo} (written : info.IsWritten) :
    GoesOn info.login := by
  refine List.forall_mem_append.mpr ⟨goesOn_of_isEncoded written.username, ?_⟩
  cases given : info.password with
  | none => exact List.forall_mem_nil _
  | some password =>
    exact List.forall_mem_cons.mpr ⟨rfl, goesOn_of_isEncoded (written.password password given).2⟩

/-- A user name and a password are read as they were. -/
theorem readUserinfo_login {info : Userinfo} (written : info.IsWritten) :
    readUserinfo info.login = info := by
  obtain ⟨username, password⟩ := info
  have colon : ':' ∉ username.toList := not_mem_of_isEncoded written.username (by decide)
  rw [Userinfo.login, readUserinfo]
  cases password with
  | none =>
    simp only [Option.elim_none, List.append_nil, cutFirst?_eq_none colon,
      encodeUserinfo_of_isEncoded written.username]
  | some password =>
    obtain ⟨given, encoded⟩ := written.password password rfl
    have nonempty : password.toList.isEmpty = false :=
      List.isEmpty_eq_false_iff.mpr (mt String.toList_eq_nil_iff.mp given)
    simp only [Option.elim_some, cutFirst?_append colon, nonempty, Bool.false_eq_true, if_false,
      encodeUserinfo_of_isEncoded written.username, encodeUserinfo_of_isEncoded encoded]

/-- **User information is read from what is shown of it**, and the place behind it is left. -/
theorem splitUserinfo_shown {info : Userinfo} {place : List Char} (written : info.IsWritten)
    (goesOn : GoesOn place) (single : '@' ∉ place) (isTail : IsTail tail) :
    splitUserinfo special (info.shown ++ place ++ tail) = .ok (info.kept, place ++ tail) := by
  have cut : ∀ {authority : List Char}, GoesOn authority →
      cutBefore (endsAuthority special) (authority ++ tail) = (authority, tail) := fun goesOn =>
    cutBefore_append (goesOn.endsAuthority_eq special) (isTail.endsAuthority_eq special)
  rw [Userinfo.shown, Userinfo.kept]
  by_cases nameless : info.username = ""
  · simp only [if_pos nameless, List.nil_append, splitUserinfo, cut goesOn,
      cutLast?_eq_none single]
  · have login : GoesOn (info.login ++ '@' :: place) :=
      List.forall_mem_append.mpr ⟨written.goesOn_login, List.forall_mem_cons.mpr ⟨rfl, goesOn⟩⟩
    have named : info.login.isEmpty = false := List.isEmpty_eq_false_iff.mpr
      (List.append_ne_nil_of_left_ne_nil (mt String.toList_eq_nil_iff.mp nameless) _)
    have shape : info.login ++ ['@'] ++ place = info.login ++ '@' :: place :=
      List.append_assoc _ _ _
    simp only [if_neg nameless, shape, splitUserinfo, cut login, cutLast?_append _ single, named,
      Bool.false_and, Bool.false_eq_true, if_false, readUserinfo_login written]

/-- An authority goes on through what is shown of user information. -/
theorem Userinfo.IsWritten.goesOn_shown {info : Userinfo} (written : info.IsWritten) :
    GoesOn info.shown := by
  rw [Userinfo.shown]
  split
  · exact List.forall_mem_nil _
  · exact List.forall_mem_append.mpr ⟨written.goesOn_login, List.forall_mem_singleton.mpr rfl⟩

/-! ## Behind the authority -/

/-- A query as it is shown. -/
def queryText (query : Option String) : List Char :=
  query.elim [] fun query => '?' :: query.toList

/-- A query is read back, and nothing behind it. -/
theorem readTail_queryText {query : Option String}
    (encoded : ∀ q ∈ query, Percent.IsEncoded (queryReserved special) q) :
    readTail special (queryText query) = (query, none) := by
  cases query with
  | none => rfl
  | some query =>
    have hash : ∀ c ∈ query.toList, (c == '#') = false := by
      intro c mem
      rw [beq_eq_false_iff_ne]
      rintro rfl
      exact not_mem_of_isEncoded (encoded query rfl) (by cases special <;> decide) mem
    simp only [queryText, Option.elim_some, readTail, ← queryReserved.eq_1,
      cutBefore_of_forall hash, Percent.encode_of_plain (encoded query rfl), String.ofList_toList]

/-- A path ends where a query begins. -/
theorem pathOf_shown {path : Path} (written : Path.IsWritten special path) (query : Option String) :
    pathOf (path.shown ++ queryText query) = (path.shown, queryText query) := by
  refine cutBefore_append (fun c mem => ?_) fun c mem => ?_
  · have free := (Path.plain_of_mem_shown written mem).2
    rw [← Bool.not_eq_true]
    intro ends
    rcases Bool.or_eq_true_iff.mp ends with mark | mark <;>
      (obtain rfl := beq_iff_eq.mp mark; cases free)
  · cases query with
    | none => cases mem
    | some query =>
      obtain rfl := Option.some.inj mem
      rfl

/-- A path and a query may stand behind an authority. -/
theorem isTail_shown {path : Path} (written : Path.IsWritten special path) (query : Option String) :
    IsTail (path.shown ++ queryText query) := by
  intro c mem
  rw [List.head?_append] at mem
  rcases Option.or_eq_some_iff.mp mem with front | ⟨-, behind⟩
  · exact .inl (Path.eq_slash_of_mem_head?_shown written front)
  · cases query with
    | none => cases behind
    | some query => exact .inr (.inl (Option.some.inj behind).symm)

/-- The segments of a file's path are found in what is shown of it. -/
theorem splitOnP_shown {segments : List (List Char)}
    (each : ∀ segment ∈ segments, Path.IsSegment true segment)
    (front : segments = [[]] ∨ ∃ first rest, segments = first :: rest ∧ first ≠ []) :
    (dropSlash (Path.ofSegments segments).shown).splitOnP (Path.isSlash true) = segments := by
  rw [Path.shown_ofSegments]
  rcases front with rfl | ⟨first, rest, rfl, nonempty⟩
  · rfl
  · have several : first :: rest ≠ [[]] := fun lone => nonempty (List.cons.inj lone).1
    rw [if_neg several]
    exact Path.splitOnP_joined first rest fun s mem => (each s mem).solid

/-- **A drive is found in front of what is shown of a file's path if it stands there**, and
otherwise the path is. -/
theorem driveSegments_shown {path : Path} (file : Path.IsFile path) :
    (driveSegments (dropSlash path.shown)).2 = path.beginsWithDrive ∧
      (path.beginsWithDrive = false →
        Path.ofFile (driveSegments (dropSlash path.shown)).1 = path) := by
  obtain ⟨segments, rfl, each, front⟩ := file
  rw [driveSegments, splitOnP_shown each front]
  rcases front with rfl | ⟨first, rest, rfl, nonempty⟩
  · exact ⟨rfl, fun _ => rfl⟩
  · have begins : (Path.ofSegments (first :: rest)).beginsWithDrive = Path.isDrive first := by
      rw [Path.ofSegments, List.map_cons, Path.beginsWithDrive, String.toList_ofList]
    rw [begins]
    cases drive : Path.isDrive first with
    | true => simp only [drive, if_true, Bool.true_eq_false, false_implies, and_self]
    | false =>
      simp only [drive, Bool.false_eq_true, if_false, true_and, forall_const,
        Path.resolve_of_isSegment (List.cons_ne_nil first rest) each, List.reverse_nil,
        List.nil_append]
      exact Path.ofFile_cons rest nonempty

/-- One scheme is that of files. -/
theorem eq_file_of_kind {scheme : String} (file : Scheme.kind scheme = .file) :
    scheme = "file" := by
  unfold Scheme.kind at file
  split at file <;> first | rfl | cases file

/-! ## The parts of what is shown -/

/-- A port goes on with an authority, and holds no at sign. -/
theorem goesOn_portText (port : Option UInt16) :
    GoesOn (portText port).toList ∧ '@' ∉ (portText port).toList := by
  cases port with
  | none => exact ⟨List.forall_mem_nil _, List.not_mem_nil⟩
  | some port =>
    have digits : ∀ c ∈ Nat.toDigits 10 port.toNat, c.isDigit = true := fun c mem =>
      Ipv4.isDigit_of_mem_decimal mem
    rw [toList_portText_some]
    refine ⟨List.forall_mem_cons.mpr ⟨rfl, goesOn_of_isDigit digits⟩, fun mem => ?_⟩
    rcases List.mem_cons.mp mem with sign | digit
    · exact absurd sign (by decide)
    · exact absurd (digits _ digit) (by decide)

/-- What may be shown behind two slashes: user information, the text of a host, a port, and a tail
of path and query. -/
structure Parts where
  info : Userinfo
  name : List Char
  port : Option UInt16
  tail : List Char

namespace Parts

variable {parts : Parts} {url : Url}

/-- A host and a port. -/
def place (parts : Parts) : List Char :=
  parts.name ++ (portText parts.port).toList

/-- The parts one after the other. -/
def text (parts : Parts) : List Char :=
  parts.info.shown ++ parts.place ++ parts.tail

/-- **Each part is found where it stands**: no character that ends a part stands in it. A file has
neither user information nor a port. -/
structure Apart (scheme : String) (parts : Parts) : Prop where
  info : parts.info.IsWritten
  delimited : Host.Delimited parts.name
  goesOn : GoesOn parts.name
  single : '@' ∉ parts.name
  port : ∀ p ∈ parts.port, Scheme.defaultPort? scheme ≠ some p
  tail : IsTail parts.tail
  front : parts.name = [] → parts.tail = []
  file : Scheme.kind scheme = .file → parts.info.shown = [] ∧ parts.port = none

namespace Apart

/-- An authority goes on through host and port. -/
theorem place (apart : parts.Apart scheme) : GoesOn parts.place ∧ '@' ∉ parts.place := by
  obtain ⟨goesOn, single⟩ := goesOn_portText parts.port
  exact ⟨List.forall_mem_append.mpr ⟨apart.goesOn, goesOn⟩, fun mem =>
    (List.mem_append.mp mem).elim apart.single single⟩

/-- It begins in front of the tail. -/
theorem endsAuthority_head (apart : parts.Apart scheme) (special : Bool) :
    ∀ c ∈ parts.text.head?, endsAuthority special c = false := by
  have goesOn : GoesOn (parts.info.shown ++ parts.place) :=
    List.forall_mem_append.mpr ⟨apart.info.goesOn_shown, apart.place.1⟩
  intro c mem
  by_cases nameless : parts.name = []
  · rw [text, apart.front nameless, List.append_nil] at mem
    exact goesOn.endsAuthority_eq special c (List.mem_of_mem_head? mem)
  · rw [text, Parts.place, List.head?_append_of_ne_nil _ (List.append_ne_nil_of_right_ne_nil _
      (List.append_ne_nil_of_left_ne_nil nameless _)), ← Parts.place] at mem
    exact goesOn.endsAuthority_eq special c (List.mem_of_mem_head? mem)

/-- **The parts of a URL with an authority are read for themselves**, if what is read is to have a
host. -/
theorem readHierarchical_text (apart : parts.Apart scheme) (notFile : Scheme.kind scheme ≠ .file)
    (hosted : url.hostText?.isSome = true) :
    readHierarchical scheme parts.text = .ok url ↔
      ∃ host, Host.reading (Scheme.kind scheme).isSpecial parts.name = .ok host ∧
        url = ⟨scheme, parts.info.kept.username, parts.info.kept.password, some host, parts.port,
          Path.ofText (Scheme.kind scheme).isSpecial (pathOf parts.tail).1,
          (readTail (Scheme.kind scheme).isSpecial (pathOf parts.tail).2).1,
          (readTail (Scheme.kind scheme).isSpecial (pathOf parts.tail).2).2⟩ := by
  obtain ⟨goesOn, single⟩ := apart.place
  have user : splitUserinfo (Scheme.kind scheme).isSpecial parts.text =
      .ok (parts.info.kept, parts.place ++ parts.tail) :=
    splitUserinfo_shown apart.info goesOn single apart.tail
  have named := splitHost_append_tail goesOn apart.tail (Scheme.kind scheme).isSpecial false
  rw [Parts.place, splitHost_of_delimited apart.delimited apart.goesOn
    fun c mem => eq_colon_of_mem_head?_portText mem] at named
  have ports := readPort_portText apart.port apart.tail
  rw [readHierarchical_eq_ok notFile]
  constructor
  · rintro ⟨info, place, name, rest, host, port, behind, split, cut, read, -, numbered, rfl⟩
    obtain ⟨rfl, rfl⟩ := Prod.mk.inj (Except.ok.inj (user.symm.trans split))
    obtain ⟨rfl, rfl⟩ := Prod.mk.inj (named.symm.trans cut)
    obtain ⟨rfl, rfl⟩ := Prod.mk.inj (Except.ok.inj (ports.symm.trans numbered))
    exact ⟨host, read, rfl⟩
  · rintro ⟨host, read, rfl⟩
    refine ⟨_, _, _, _, host, parts.port, _, user, named, read, fun empty => ?_, ports, rfl⟩
    rw [empty] at hosted
    cases hosted

/-- So are those of the URL of a file. -/
theorem readFileHost_text (apart : parts.Apart scheme) (file : Scheme.kind scheme = .file)
    (hosted : url.hostText?.isSome = true) :
    readFileHost parts.text = .ok url ↔ ∃ host segments, Path.isDrive parts.name = false ∧
      Host.reading true parts.name = .ok host ∧ host.text ≠ "localhost" ∧
      driveSegments (dropSlash (pathOf parts.tail).1) = (segments, false) ∧
      url = fileUrl host (Path.ofFile segments) (pathOf parts.tail).2 := by
  obtain ⟨nameless, portless⟩ := apart.file file
  rw [text, Parts.place, nameless, portless, toList_portText_none, List.append_nil, List.nil_append]
  exact readFileHost_eq_ok (cutBefore_append (apart.goesOn.endsAuthority_eq true)
    (apart.tail.endsAuthority_eq true)) hosted

end Apart

end Parts

/-- Nothing is tidied in a visible text. -/
theorem relevantBack_of_visible {cs : List Char} (visible : ∀ c ∈ cs, isPadding c = false) :
    relevantBack cs = cs := by
  have backwards : ∀ c ∈ cs.reverse, isPadding c = false :=
    fun c mem => visible c (List.mem_reverse.mp mem)
  rw [relevantBack, dropWhile_of_visible backwards, List.reverse_reverse, kept_of_visible visible]

/-- **Parts behind two slashes are read by the rules of the scheme.** -/
theorem parse_parts {parts : Parts} (spelled : schemeOf? scheme.toList = some scheme)
    (chars : ∀ c ∈ scheme.toList, isSchemeChar c = true) (apart : parts.Apart scheme)
    (visible : ∀ c ∈ parts.text, IsVisible c) {text : String}
    (whole : text.toList = scheme.toList ++ ':' :: '/' :: '/' :: parts.text) :
    parse text = if Scheme.kind scheme = .file then readFileHost parts.text
      else readHierarchical scheme parts.text := by
  have colon : ':' ∉ scheme.toList := fun mem => absurd (chars ':' mem) (by decide)
  have unpadded : ∀ c ∈ '/' :: '/' :: parts.text, isPadding c = false :=
    List.forall_mem_cons.mpr ⟨by decide, List.forall_mem_cons.mpr ⟨by decide, fun c mem =>
      decide_eq_false (Nat.not_le.mpr (visible c mem).1)⟩⟩
  rw [parse_append whole colon, spelled, relevantBack_of_visible unpadded]
  exact readBehind_slashes (apart.endsAuthority_head _)

/-! ## Whole URLs -/

/-- **The parts of what a URL shows.** -/
def parts (url : Url) : Parts where
  info := ⟨url.username, url.password⟩
  name := (url.hostText?.getD "").toList
  port := url.port
  tail := url.path.shown ++ queryText url.query

/-- **What a URL shows behind its two slashes.** -/
def shown (url : Url) : List Char :=
  url.parts.text

/-- **What a URL is read as once it has been shown**: it has no fragment, no password without a user
name, and no lone slash where the scheme does not ask for one. -/
def reread (url : Url) : Url :=
  let info := Userinfo.kept ⟨url.username, url.password⟩
  { url with
    username := info.username
    password := info.password
    path := Path.ofText (Scheme.kind url.scheme).isSpecial url.path.shown
    fragment := none }

namespace IsWritten

variable {url : Url}

/-- The name that a URL shows is its host's text. -/
theorem exists_host (written : url.IsWritten) :
    ∃ host source, url.host = some host ∧ url.hostText? = some host.text ∧
      url.parts.name = host.text.toList ∧ host ≠ .empty ∧
      Host.reading (Scheme.kind url.scheme).isSpecial source = .ok host := by
  obtain ⟨host, source, here, nonempty, read⟩ := written.host
  have hosted := hostText?_eq_some here nonempty
  exact ⟨host, source, here, hosted, by rw [parts, hosted]; rfl, nonempty, read⟩

/-- **What a URL shows falls into its parts.** -/
theorem apart (written : url.IsWritten) : url.parts.Apart url.scheme := by
  obtain ⟨host, -, -, -, name, nonempty, -⟩ := written.exists_host
  have chars := host.goesOn_text
  refine ⟨written.userinfo, name ▸ host.delimited_text, fun c mem => (chars c (name ▸ mem)).1,
    fun mem => (chars '@' (name ▸ mem)).2.1 rfl, written.port, isTail_shown written.path url.query,
    fun nameless => absurd (name ▸ nameless) (Host.toList_text_ne_nil nonempty), fun file => ?_⟩
  have isFile := written.file file
  exact ⟨if_pos isFile.username, isFile.port⟩

/-- **Whatever a URL shows is visible.** -/
theorem isVisible_shown (written : url.IsWritten) : ∀ c ∈ url.shown, IsVisible c := by
  obtain ⟨host, _, -, -, name, -, read⟩ := written.exists_host
  have encoded : ∀ {part : String}, Percent.IsEncoded Percent.isUserinfoReserved part →
      ∀ c ∈ part.toList, IsVisible c := fun encoded c mem =>
    isVisible_of_free (by decide) (encoded c mem).1 (encoded c mem).2
  have login : ∀ c ∈ url.parts.info.shown, IsVisible c := by
    rw [Userinfo.shown]
    split
    · exact List.forall_mem_nil _
    · refine List.forall_mem_append.mpr ⟨List.forall_mem_append.mpr
        ⟨encoded written.userinfo.username, ?_⟩, List.forall_mem_singleton.mpr (by decide)⟩
      cases given : url.parts.info.password with
      | none => exact List.forall_mem_nil _
      | some password =>
        exact List.forall_mem_cons.mpr
          ⟨by decide, encoded (written.userinfo.password password given).2⟩
  have port : ∀ c ∈ (portText url.port).toList, IsVisible c := by
    cases url.port with
    | none => exact List.forall_mem_nil _
    | some port =>
      rw [toList_portText_some]
      refine List.forall_mem_cons.mpr ⟨by decide, fun c mem => ?_⟩
      exact of_isPlain (P := IsVisible) (by decide)
        (Bool.or_eq_true_iff.mpr (.inr (Ipv4.isDigit_of_mem_decimal mem)))
  have path : ∀ c ∈ url.path.shown, IsVisible c := fun c mem =>
    have plain := Path.plain_of_mem_shown written.path mem
    isVisible_of_free (by decide) plain.1 plain.2
  have query : ∀ c ∈ queryText url.query, IsVisible c := by
    cases given : url.query with
    | none => exact List.forall_mem_nil _
    | some query =>
      refine List.forall_mem_cons.mpr ⟨by decide, fun c mem => ?_⟩
      obtain ⟨ascii, free⟩ := written.query query given c mem
      refine isVisible_of_free ?_ ascii free
      cases (Scheme.kind url.scheme).isSpecial <;> decide
  rw [shown, Parts.text, Parts.place, name]
  exact List.forall_mem_append.mpr ⟨List.forall_mem_append.mpr
    ⟨login, List.forall_mem_append.mpr ⟨Host.isVisible_text read, port⟩⟩,
    List.forall_mem_append.mpr ⟨path, query⟩⟩

/-- **What a URL shows is read as it was, part by part.** -/
theorem readHierarchical_shown (written : url.IsWritten) (notFile : Scheme.kind url.scheme ≠ .file)
    (own : ∀ host ∈ url.host, host.IsOwnAscii (Scheme.kind url.scheme).isSpecial) :
    readHierarchical url.scheme url.shown = .ok url.reread := by
  obtain ⟨host, _, here, hosted, name, nonempty, read⟩ := written.exists_host
  have tail : pathOf url.parts.tail = (url.path.shown, queryText url.query) :=
    pathOf_shown written.path url.query
  have hosted : url.reread.hostText?.isSome = true := Option.isSome_iff_exists.mpr ⟨_, hosted⟩
  refine (written.apart.readHierarchical_text notFile hosted).mpr
    ⟨host, name ▸ Host.reading_text read nonempty (own host here), ?_⟩
  rw [tail, readTail_queryText written.query, reread, here]
  rfl

/-- **What the URL of a file shows is read as it was**, unless a drive stands in front of its
path. -/
theorem readFileHost_shown (written : url.IsWritten) (scheme : url.scheme = "file")
    (own : ∀ host ∈ url.host, host.IsOwnAscii true) (driveless : url.path.beginsWithDrive = false) :
    readFileHost url.shown = .ok url.reread := by
  have kind : Scheme.kind url.scheme = .file := by rw [scheme]; rfl
  have special : (Scheme.kind url.scheme).isSpecial = true := by rw [kind]; rfl
  have file := written.file kind
  obtain ⟨host, _, here, hosted, name, nonempty, read⟩ := written.exists_host
  have path := written.path
  have query := written.query
  rw [special] at read path query
  obtain ⟨drive, same⟩ := driveSegments_shown file.path
  have tail : pathOf url.parts.tail = (url.path.shown, queryText url.query) :=
    pathOf_shown path url.query
  have hosted : url.reread.hostText?.isSome = true := Option.isSome_iff_exists.mpr ⟨_, hosted⟩
  refine (written.apart.readFileHost_text kind hosted).mpr
    ⟨host, (driveSegments (dropSlash url.path.shown)).1, name ▸ host.isDrive_text,
      name ▸ Host.reading_text read nonempty (own host here), file.remote host here, ?_, ?_⟩
  · rw [tail, ← driveless, ← drive]
  · rw [tail, same driveless, fileUrl, readTail_queryText query, reread, file.username,
      file.password, file.port, special, Path.ofText_shown path, here, scheme]
    rfl

/-- **What a URL with a host shows is read as the URL.** Asked for are the two things that may
change: that the name of the host is its own ASCII form, and that no drive stands in front of the
path of a file. -/
theorem parse_shown (written : url.IsWritten)
    (own : ∀ host ∈ url.host, host.IsOwnAscii (Scheme.kind url.scheme).isSpecial)
    (driveless : url.scheme = "file" → url.path.beginsWithDrive = false) {text : String}
    (whole : text.toList = url.scheme.toList ++ ':' :: '/' :: '/' :: url.shown) :
    parse text = .ok url.reread := by
  rw [parse_parts written.spelled written.chars written.apart written.isVisible_shown whole]
  split
  · next file =>
    rw [file] at own
    exact written.readFileHost_shown (eq_file_of_kind file) own (driveless (eq_file_of_kind file))
  · next notFile => exact written.readHierarchical_shown notFile own

end IsWritten

end Url

end ProxyAutoConfig
