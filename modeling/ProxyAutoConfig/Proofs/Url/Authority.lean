import ProxyAutoConfig.Proofs.Outcome
import ProxyAutoConfig.Proofs.Text.Cut
import ProxyAutoConfig.Proofs.Text.Digits
import ProxyAutoConfig.Proofs.Url.Host
import ProxyAutoConfig.Proofs.Url.Spelling

/-!
# Reading plain addresses

A plain address is a scheme, two slashes, perhaps a user name and a password, a plain host and a
port. It is read into the parts that it is written from, with the port left out where it is the
scheme's own (`exists_parse`); schemes with rules and schemes without differ only in the path,
which is empty or a slash.
-/

namespace ProxyAutoConfig.Url

open ProxyAutoConfig.Text

variable {cs : List Char}

/-- A character that an authority may consist of: visible, and none that ends it. -/
def isAuthorityChar (c : Char) : Bool :=
  0x20 < c.toNat && !endsAuthority true c

/-- A character that ends no authority where the scheme has rules ends none elsewhere. -/
theorem endsAuthority_of_isAuthorityChar {c : Char} (char : isAuthorityChar c = true)
    (special : Bool) : endsAuthority special c = false := by
  have none_special := (Bool.and_eq_true_iff.mp char).2
  cases special with
  | true => simpa using none_special
  | false =>
    simp only [endsAuthority, Bool.true_and, Bool.not_eq_true', Bool.or_eq_false_iff] at none_special
    simp only [endsAuthority, Bool.false_and, Bool.or_false, none_special]

/-- Such a character is visible. -/
theorem visible_of_isAuthorityChar {c : Char} (char : isAuthorityChar c = true) :
    isPadding c = false := by
  have visible := of_decide_eq_true (Bool.and_eq_true_iff.mp char).1
  exact decide_eq_false (Nat.not_le.mpr visible)

/-! ## Around the authority -/

/-- Visible characters all count. -/
theorem relevant_of_visible (visible : ∀ c ∈ cs, isPadding c = false) : relevant cs = cs := by
  have backwards : ∀ c ∈ cs.reverse, isPadding c = false :=
    fun c mem => visible c (List.mem_reverse.mp mem)
  rw [relevant, dropWhile_of_visible visible, dropWhile_of_visible backwards, List.reverse_reverse]
  exact kept_of_visible visible

/-- A text is cut where it does not go on. -/
theorem cutBefore_append {stop : Char → Bool} {front back : List Char}
    (on : ∀ c ∈ front, stop c = false) (ends : ∀ c ∈ back.head?, stop c = true) :
    cutBefore stop (front ++ back) = (front, back) := by
  have all : ∀ c ∈ front, (!stop c) = true := fun c mem => by rw [on c mem]; rfl
  have stops : ∀ c ∈ back.head?, (!stop c) = false := fun c mem => by rw [ends c mem]; rfl
  rw [cutBefore, takeWhile_append_of_ends all stops, dropWhile_append_of_ends all stops]

/-- A text without a stop is not cut. -/
theorem cutBefore_of_forall {stop : Char → Bool} (on : ∀ c ∈ cs, stop c = false) :
    cutBefore stop cs = (cs, []) := by
  have whole := cutBefore_append on (nofun : ∀ c ∈ [].head?, stop c = true)
  rwa [List.append_nil] at whole

/-! ## User information -/

/-- Without an at sign there is no user information. -/
theorem splitUserinfo_of_not_mem (special : Bool) (chars : ∀ c ∈ cs, isAuthorityChar c = true)
    (absent : '@' ∉ cs) : splitUserinfo special cs = .ok (⟨"", none⟩, cs) := by
  have whole := cutBefore_of_forall
    fun c mem => endsAuthority_of_isAuthorityChar (chars c mem) special
  simp only [splitUserinfo, whole, cutLast?_eq_none absent]

/-- In front of an at sign stand a user name and a password. -/
theorem splitUserinfo_of_login (special : Bool) {username password place : List Char}
    (chars : ∀ c ∈ username ++ ':' :: password ++ '@' :: place, isAuthorityChar c = true)
    (colon : ':' ∉ username) (nonempty : password ≠ []) (absent : '@' ∉ place) :
    splitUserinfo special (username ++ ':' :: password ++ '@' :: place) =
      .ok (⟨encodeUserinfo username, some (encodeUserinfo password)⟩, place) := by
  have whole := cutBefore_of_forall
    fun c mem => endsAuthority_of_isAuthorityChar (chars c mem) special
  have present : (username ++ ':' :: password).isEmpty = false := by
    cases username <;> rfl
  have given : password.isEmpty = false := List.isEmpty_eq_false_iff.mpr nonempty
  simp only [splitUserinfo, whole, cutLast?_append _ absent, present, Bool.false_and,
    Bool.false_eq_true, if_false, readUserinfo, cutFirst?_append colon, given, List.append_nil]

/-! ## Host and port -/

/-- A host ends at the colon in front of its port. -/
theorem splitHost_append (special : Bool) {name : List Char}
    (chars : ∀ c ∈ name, isAuthorityChar c = true) (colon : ':' ∉ name) (bracket : '[' ∉ name)
    (rest : List Char) : splitHost special false (name ++ ':' :: rest) = (name, ':' :: rest) := by
  induction name with
  | nil => rfl
  | cons c cs ih =>
    obtain ⟨here, behind⟩ := List.forall_mem_cons.mp chars
    obtain ⟨hc, hcs⟩ := List.ne_and_not_mem_of_not_mem_cons colon
    obtain ⟨hb, hbs⟩ := List.ne_and_not_mem_of_not_mem_cons bracket
    have noColon : (c == ':') = false := beq_eq_false_iff_ne.mpr (Ne.symm hc)
    have noBracket : (c == '[') = false := beq_eq_false_iff_ne.mpr (Ne.symm hb)
    simp only [List.cons_append, splitHost, noColon, noBracket, Bool.false_and, Bool.or_self,
      endsAuthority_of_isAuthorityChar here, Bool.false_eq_true, if_false, ih behind hcs hbs]

/-- **A port is read from its digits**, unless it is the scheme's own. -/
theorem readPort_toDigits (defaultPort : Option UInt16) (port : UInt16) :
    readPort defaultPort (':' :: Nat.toDigits 10 port.toNat) =
      .ok (if defaultPort = some port then none else some port, []) := by
  have digits : ∀ c ∈ Nat.toDigits 10 port.toNat, (!c.isDigit) = false := by
    intro c mem
    rw [Net.Ipv4.isDigit_of_mem_decimal mem]
    rfl
  have small : ¬ 65535 < port.toNat := Nat.not_lt.mpr (Nat.le_of_lt_succ port.toNat_lt)
  have nonempty : (Nat.toDigits 10 port.toNat).isEmpty = false :=
    List.isEmpty_eq_false_iff.mpr Nat.toDigits_ne_nil
  simp only [readPort, cutBefore_of_forall digits,
    numberFrom?_toDigits (by decide : 1 < 10) (by decide : 10 ≤ 16), small, decide_false,
    Bool.not_true, Bool.or_self, Bool.false_eq_true, if_false, nonempty, Bool.false_or,
    UInt16.ofNat_toNat, beq_iff_eq]
  split <;> rfl

/-- **A place is read as its host and its port**, whatever the kind of its scheme. -/
theorem exists_readHost {scheme : String} (notFile : Scheme.kind scheme ≠ .file)
    {name : List Char} (plain : Host.IsPlainText name) (port : UInt16) :
    ∃ host, host ≠ .empty ∧ host.text = String.ofList name ∧
      readHost (Scheme.kind scheme) (name ++ ':' :: Nat.toDigits 10 port.toNat) =
        .ok (host, if Scheme.defaultPort? scheme = some port then none else some port, []) := by
  have chars := plain.forall_mem (P := fun c => isAuthorityChar c = true) (by decide) (by decide)
  have colon : ':' ∉ name := plain.not_mem (by decide)
  have bracket : '[' ∉ name := plain.not_mem (by decide)
  have given : name.isEmpty = false := List.isEmpty_eq_false_iff.mpr plain.ne_nil
  cases kind : Scheme.kind scheme with
  | file => exact absurd kind notFile
  | network default =>
    obtain ⟨host, read, nonempty, text⟩ := Host.ofDomain_of_isPlainText plain
    have own : Scheme.defaultPort? scheme = some default := by rw [Scheme.defaultPort?, kind]
    refine ⟨host, nonempty, text, ?_⟩
    simp only [readHost, splitHost_append _ chars colon bracket, given, Bool.false_eq_true, if_false,
      read, Outcome.ok_bind, beq_eq_false_iff_ne.mpr nonempty, Bool.false_and, readPort_toDigits, own]
  | other =>
    obtain ⟨host, read, nonempty, text⟩ := Host.ofText_of_isPlainText plain
    have own : Scheme.defaultPort? scheme = none := by rw [Scheme.defaultPort?, kind]
    refine ⟨host, nonempty, text, ?_⟩
    simp only [readHost, splitHost_append _ chars colon bracket, Bool.false_eq_true, if_false,
      read, Outcome.ok_bind, beq_eq_false_iff_ne.mpr nonempty, Bool.false_and, readPort_toDigits, own]

/-! ## A whole address -/

/-- **A URL addresses a place and nothing in it**: its parts are a scheme, user information, a host
and a port; the port is left out where it is the scheme's own, and nothing follows. -/
structure Addresses (url : Url) (scheme : String) (info : Userinfo) (name : List Char)
    (port : UInt16) : Prop where
  scheme_eq : url.scheme = scheme
  username_eq : url.username = info.username
  password_eq : url.password = info.password
  hostText?_eq : url.hostText? = some (String.ofList name)
  port_eq : url.port = if Scheme.defaultPort? scheme = some port then none else some port
  path_eq : url.path = .segments [] ∨ url.path = .segments [""]
  query_eq : url.query = none

/-- An authority of a plain place is read as the address of this place. -/
theorem exists_readHierarchical {scheme : String} (notFile : Scheme.kind scheme ≠ .file)
    {authority name : List Char} {info : Userinfo} (plain : Host.IsPlainText name) (port : UInt16)
    (split : splitUserinfo (Scheme.kind scheme).isSpecial authority =
      .ok (info, name ++ ':' :: Nat.toDigits 10 port.toNat)) :
    ∃ url, readHierarchical scheme authority = .ok url ∧ url.Addresses scheme info name port := by
  obtain ⟨host, nonempty, text, read⟩ := exists_readHost notFile plain port
  have done : readHierarchical scheme authority = .ok ⟨scheme, info.username, info.password,
      some host, if Scheme.defaultPort? scheme = some port then none else some port,
      Path.ofText (Scheme.kind scheme).isSpecial [], none, none⟩ := by
    simp only [readHierarchical, split, Outcome.ok_bind, read, beq_eq_false_iff_ne.mpr nonempty,
      Bool.false_and, Bool.false_eq_true, if_false]
    rfl
  refine ⟨_, done, rfl, rfl, rfl, ?_, rfl, ?_, rfl⟩
  · rw [← text]
    cases host with
    | empty => exact absurd rfl nonempty
    | named => rfl
    | ipv4 => rfl
    | ipv6 => rfl
  · cases (Scheme.kind scheme).isSpecial with
    | false => exact .inl rfl
    | true => exact .inr rfl

/-- **A scheme as it is written**: a letter and more characters of schemes, in small letters; files
are left out. -/
structure IsWrittenScheme (scheme : String) : Prop where
  letter : scheme.toList.head?.any Char.isAlpha = true
  chars : scheme.toList.all isSchemeChar = true
  small : scheme.toList.map Char.toLower = scheme.toList
  notFile : Scheme.kind scheme ≠ .file

/-- No colon stands in a scheme. -/
theorem IsWrittenScheme.colon {scheme : String} (written : IsWrittenScheme scheme) :
    ':' ∉ scheme.toList := fun mem =>
  absurd (List.all_eq_true.mp written.chars ':' mem) (by decide)

/-- A scheme is read as it is written. -/
theorem readScheme?_append {scheme : String} (written : IsWrittenScheme scheme)
    (rest : List Char) :
    readScheme? (scheme.toList ++ ':' :: rest) = some (scheme.toList, rest) := by
  have letter := written.letter
  have small := written.small
  rw [readScheme?, cutFirst?_append written.colon]
  cases front : scheme.toList with
  | nil => rw [front] at letter; cases letter
  | cons c cs =>
    rw [front, List.head?_cons, Option.any_some] at letter
    have chars := written.chars
    rw [front] at chars small
    simp only [letter, chars, Bool.and_self, if_true, small]

/-- The characters of a scheme are in ASCII. -/
theorem ascii_of_isSchemeChar {c : Char} (char : isSchemeChar c = true) : c.toNat < 0x80 := by
  simp only [isSchemeChar, Bool.or_eq_true, beq_iff_eq] at char
  rcases char with ((alphanum | rfl) | rfl) | rfl
  · exact ascii_of_isAlphanum alphanum
  · decide
  · decide
  · decide

/-- What holds for them is settled by looking at all of them. -/
theorem of_isSchemeChar {P : Char → Prop}
    (each : ∀ n < 0x80, isSchemeChar (Char.ofNat n) = true → P (Char.ofNat n)) {c : Char}
    (char : isSchemeChar c = true) : P c :=
  of_ascii (P := fun c => isSchemeChar c = true → P c) each (ascii_of_isSchemeChar char) char

/-- The characters of a scheme are visible. -/
theorem IsWrittenScheme.visible {scheme : String} (written : IsWrittenScheme scheme) :
    ∀ c ∈ scheme.toList, isPadding c = false := fun c mem =>
  of_isSchemeChar (P := fun c => isPadding c = false) (by decide)
    (List.all_eq_true.mp written.chars c mem)

/-- The slashes in front of an authority are passed over. -/
theorem dropWhile_slashes (chars : ∀ c ∈ cs, isAuthorityChar c = true) :
    ('/' :: '/' :: cs).dropWhile (fun c => c == '/' || c == '\\') = cs := by
  show (['/', '/'] ++ cs).dropWhile _ = cs
  have slashes : ['/', '/'].all (fun c => c == '/' || c == '\\') = true := by decide
  refine dropWhile_append_of_ends (List.all_eq_true.mp slashes) fun c mem => ?_
  have goesOn := endsAuthority_of_isAuthorityChar (chars c (List.mem_of_mem_head? mem)) true
  simp only [endsAuthority, Bool.true_and, Bool.or_eq_false_iff] at goesOn
  rw [goesOn.1.1.1, goesOn.2, Bool.or_self]

/-- **A plain address is read as the address of its place.** -/
theorem exists_parse {scheme text : String} (written : IsWrittenScheme scheme)
    {authority name : List Char} {info : Userinfo} (plain : Host.IsPlainText name) (port : UInt16)
    (chars : ∀ c ∈ authority, isAuthorityChar c = true)
    (split : ∀ special, splitUserinfo special authority =
      .ok (info, name ++ ':' :: Nat.toDigits 10 port.toNat))
    (whole : text.toList = scheme.toList ++ ':' :: '/' :: '/' :: authority) :
    ∃ url, parse text = .ok url ∧ url.Addresses scheme info name port := by
  obtain ⟨url, read, addresses⟩ := exists_readHierarchical written.notFile plain port (split _)
  refine ⟨url, ?_, addresses⟩
  have visible : ∀ c ∈ text.toList, isPadding c = false := by
    rw [whole]
    intro c mem
    rcases List.mem_append.mp mem with mem | mem
    · exact written.visible c mem
    · rcases List.mem_cons.mp mem with rfl | mem
      · decide
      · rcases List.mem_cons.mp mem with rfl | mem
        · decide
        · rcases List.mem_cons.mp mem with rfl | mem
          · decide
          · exact visible_of_isAuthorityChar (chars c mem)
  have front := readScheme?_append written ('/' :: '/' :: authority)
  rw [← whole, ← relevant_of_visible visible] at front
  rw [parse, front]
  simp only [String.ofList_toList]
  cases kind : Scheme.kind scheme with
  | file => exact absurd kind written.notFile
  | network default => simp only [dropWhile_slashes chars, read]
  | other => exact read

end ProxyAutoConfig.Url
