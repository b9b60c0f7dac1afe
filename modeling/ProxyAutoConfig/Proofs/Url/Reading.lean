import ProxyAutoConfig.Proofs.Url.Authority
import ProxyAutoConfig.Proofs.Url.Sign
import ProxyAutoConfig.Proofs.Url.Spelling

/-!
# One text under several schemes

Whatever stands behind the two slashes, up to the path, is taken apart in one way under all schemes
but that of files: user information in front of the last at sign, digits behind the last colon, and
the text of a host between them. The digits are the port, which is left out where it is the scheme's
own. Only the host's text is read by the scheme's rules, where it has some (`Host.reading`).

`places_of_parse` says so of every text with a port that is read as a URL; nothing is asked of the
host's text but that the authority goes on through it and no at sign stands in it.
-/

namespace ProxyAutoConfig

open ProxyAutoConfig.Text

/-- The host that a text is, under a scheme with rules of its own or without. -/
def Host.reading (special : Bool) (cs : List Char) : Except Url.Flaw Host :=
  if special then (if cs.isEmpty then .error .emptyHost else ofDomain cs) else ofText cs

namespace Url

variable {special : Bool} {scheme : String} {cs front digits place tail authority : List Char}

/-- What may stand behind an authority: nothing, or a path, a query or a fragment. -/
def IsTail (tail : List Char) : Prop :=
  ∀ c ∈ tail.head?, c = '/' ∨ c = '?' ∨ c = '#'

/-- An authority goes on throughout a text, under every scheme. -/
def GoesOn (cs : List Char) : Prop :=
  ∀ c ∈ cs, endsAuthority true c = false

/-- Where an authority goes on under the rules of some schemes, it goes on without them. -/
theorem GoesOn.endsAuthority_eq (goesOn : GoesOn cs) (special : Bool) :
    ∀ c ∈ cs, endsAuthority special c = false := by
  intro c mem
  have inside := goesOn c mem
  cases special with
  | true => exact inside
  | false =>
    simp only [endsAuthority, Bool.true_and, Bool.or_eq_false_iff] at inside
    simp only [endsAuthority, Bool.false_and, inside.1, Bool.or_self]

/-- A tail ends an authority. -/
theorem IsTail.endsAuthority_eq (isTail : IsTail tail) (special : Bool) :
    ∀ c ∈ tail.head?, endsAuthority special c = true := by
  intro c mem
  rcases isTail c mem with rfl | rfl | rfl <;> cases special <;> rfl

/-! ## User information -/

/-- The user information of an authority, and the place behind it. -/
def userinfoOf (authority : List Char) : Userinfo × List Char :=
  match cutLast? '@' authority with
  | none => (⟨"", none⟩, authority)
  | some (info, place) => (readUserinfo info, place)

/-- The place is a part of the authority. -/
theorem mem_of_mem_userinfoOf {c : Char} (mem : c ∈ (userinfoOf authority).2) : c ∈ authority := by
  unfold userinfoOf at mem
  cases cut : cutLast? '@' authority with
  | none => rwa [cut] at mem
  | some sides =>
    rw [cut] at mem
    rw [(eq_of_cutLast? cut).1]
    exact List.mem_append_right _ (List.mem_cons_of_mem _ mem)

/-- User information is told from the authority alone. -/
theorem eq_of_splitUserinfo (goesOn : GoesOn authority) (isTail : IsTail tail)
    {info : Userinfo} {rest : List Char}
    (split : splitUserinfo special (authority ++ tail) = .ok (info, rest)) :
    info = (userinfoOf authority).1 ∧ rest = (userinfoOf authority).2 ++ tail := by
  have cutOff :=
    cutBefore_append (goesOn.endsAuthority_eq special) (isTail.endsAuthority_eq special)
  simp only [splitUserinfo, cutOff] at split
  unfold userinfoOf
  cases cut : cutLast? '@' authority with
  | none =>
    rw [cut] at split
    cases split
    exact ⟨rfl, rfl⟩
  | some sides =>
    rw [cut] at split
    simp only at split
    split at split
    · cases split
    · cases split
      exact ⟨rfl, rfl⟩

/-! ## Host and port -/

/-- Where a host ends is told from the place alone. -/
theorem splitHost_append_tail (goesOn : GoesOn place) (isTail : IsTail tail)
    (special inside : Bool) :
    splitHost special inside (place ++ tail) =
      ((splitHost true inside place).1, (splitHost true inside place).2 ++ tail) := by
  induction place generalizing inside with
  | nil =>
    cases tail with
    | nil => rfl
    | cons c cs =>
      have ends := isTail.endsAuthority_eq special c rfl
      simp only [List.nil_append, splitHost, ends, Bool.or_true, if_true]
  | cons c cs ih =>
    obtain ⟨here, behind⟩ := List.forall_mem_cons.mp goesOn
    have here' := goesOn.endsAuthority_eq special c List.mem_cons_self
    rw [List.cons_append, splitHost, splitHost, here, here', Bool.or_false]
    split
    · rfl
    · rw [ih behind]

/-- A place is its host and what stands behind, which is nothing or begins with a colon. -/
theorem eq_of_splitHost (goesOn : GoesOn place) {inside : Bool} {name rest : List Char}
    (split : splitHost true inside place = (name, rest)) :
    place = name ++ rest ∧ (rest = [] ∨ ∃ behind, rest = ':' :: behind) := by
  induction place generalizing inside name with
  | nil =>
    cases split
    exact ⟨rfl, .inl rfl⟩
  | cons c cs ih =>
    obtain ⟨here, behind⟩ := List.forall_mem_cons.mp goesOn
    rw [splitHost, here, Bool.or_false] at split
    split at split
    · next colon =>
      cases split
      obtain rfl := beq_iff_eq.mp (Bool.and_eq_true_iff.mp colon).1
      exact ⟨rfl, .inr ⟨cs, rfl⟩⟩
    · obtain ⟨rfl, rfl⟩ := Prod.mk.inj split
      obtain ⟨whole, ends⟩ := ih behind rfl
      exact ⟨congrArg (c :: ·) whole, ends⟩

/-- A port in front of what may stand behind an authority. -/
theorem readPort_of_ends {own : Option UInt16} {left : List Char}
    (cut : cutBefore (fun c => !c.isDigit) cs = (digits, left))
    (ends : ∀ c ∈ left.head?, endsAuthority true c = true) :
    readPort own (':' :: cs) =
      match numberFrom? 10 0 digits with
      | some n =>
        if 65535 < n then .error .portNumber
        else if digits.isEmpty || own == some n.toUInt16 then .ok (none, left)
        else .ok (some n.toUInt16, left)
      | none => .error .portNumber := by
  cases left with
  | nil =>
    cases spelled : numberFrom? 10 0 digits <;>
      simp only [readPort, cut, spelled, Bool.not_true, Bool.or_false, decide_eq_true_eq]
  | cons c rest =>
    cases spelled : numberFrom? 10 0 digits <;>
      simp only [readPort, cut, spelled, ends c rfl, Bool.not_true, Bool.or_false,
        decide_eq_true_eq]

/-- What is no digit stops a port, and does not end the authority as a tail would. -/
theorem readPort_of_mixed (goesOn : GoesOn digits) (mixed : ¬ ∀ c ∈ digits, c.isDigit = true)
    (own : Option UInt16) (tail : List Char) :
    readPort own (':' :: (digits ++ tail)) = .error .portNumber := by
  obtain ⟨front, c, back, rfl, digit, other⟩ := exists_first mixed
  have inside : endsAuthority true c = false :=
    goesOn c (List.mem_append_right _ List.mem_cons_self)
  have stops : ∀ d ∈ (c :: (back ++ tail)).head?, (!d.isDigit) = true := by
    rintro d ⟨rfl⟩
    rw [other]
    rfl
  have cut := cutBefore_append (fun d mem => by rw [digit d mem]; rfl) stops
  rw [List.append_assoc, List.cons_append]
  simp only [readPort, cut, inside, Bool.not_false, Bool.or_true, if_true]
  split <;> rfl

/-- **A port is read from digits alone**, up to the tail. -/
theorem eq_of_readPort (goesOn : GoesOn digits) (isTail : IsTail tail) {own port : Option UInt16}
    {rest : List Char} (read : readPort own (':' :: (digits ++ tail)) = .ok (port, rest)) :
    (∀ c ∈ digits, c.isDigit = true) ∧ ∃ n, numberFrom? 10 0 digits = some n ∧
      port = if digits.isEmpty || own == some n.toUInt16 then none else some n.toUInt16 := by
  have all : ∀ c ∈ digits, c.isDigit = true := by
    by_contra mixed
    rw [readPort_of_mixed goesOn mixed] at read
    cases read
  have noDigit : ∀ c ∈ tail.head?, (!c.isDigit) = true := by
    intro c mem
    rcases isTail c mem with rfl | rfl | rfl <;> decide
  have cut := cutBefore_append (fun c mem => by rw [all c mem]; rfl) noDigit
  rw [readPort_of_ends cut (isTail.endsAuthority_eq true)] at read
  refine ⟨all, ?_⟩
  cases spelled : numberFrom? 10 0 digits with
  | none =>
    rw [spelled] at read
    cases read
  | some n =>
    rw [spelled] at read
    simp only at read
    refine ⟨n, rfl, ?_⟩
    split at read
    · cases read
    · split at read
      · next own =>
        rw [if_pos own]
        exact (Prod.mk.inj (Except.ok.inj read)).1.symm
      · next other =>
        rw [if_neg other]
        exact (Prod.mk.inj (Except.ok.inj read)).1.symm

/-- Digits end no text in brackets, and a colon stands only in such a text. -/
theorem reading_of_port (special : Bool) (nonempty : digits ≠ [])
    (each : ∀ c ∈ digits, c.isDigit = true) (host : Host) :
    Host.reading special (front ++ ':' :: digits) ≠ .ok host := by
  have named : (front ++ ':' :: digits).isEmpty = false := by cases front <;> rfl
  have colon : ':' ∈ front ++ ':' :: digits := List.mem_append_right _ List.mem_cons_self
  have open_bracket : ∀ inside, Host.bracketed? (front ++ ':' :: digits) = some inside →
      Host.ofBrackets inside = .error .ipv6Address := by
    intro inside read
    refine Host.ofBrackets_of_forall ?_
    rintro text ⟨rfl⟩
    have whole := congrArg List.getLast? (Host.eq_of_bracketed? read)
    rw [← List.cons_append, List.getLast?_concat, List.getLast?_append_cons,
      List.getLast?_cons_of_ne_nil nonempty] at whole
    exact absurd (each _ (List.mem_of_getLast? whole)) (by decide)
  intro read
  rw [Host.reading, named] at read
  simp only [Bool.false_eq_true, if_false] at read
  cases special with
  | true =>
    simp only [if_true] at read
    cases bracketed : Host.bracketed? (front ++ ':' :: digits) with
    | none => rw [Host.ofDomain_of_isSign (by decide) bracketed colon] at read; cases read
    | some inside =>
      rw [Host.ofDomain, bracketed] at read
      simp only [open_bracket inside bracketed] at read
      cases read
  | false =>
    simp only [Bool.false_eq_true, if_false] at read
    rw [Host.ofText] at read
    cases bracketed : Host.bracketed? (front ++ ':' :: digits) with
    | none =>
      have refused : (front ++ ':' :: digits).any Host.isRefused = true :=
        List.any_eq_true.mpr ⟨':', colon, by decide⟩
      rw [bracketed] at read
      simp only [dif_pos refused] at read
      cases read
    | some inside =>
      rw [bracketed] at read
      simp only [open_bracket inside bracketed] at read
      cases read

/-- The port that a kind of schemes stands for. -/
def ownPort : Scheme.Kind → Option UInt16
  | .network port => some port
  | _ => none

/-- The host is read from its own text, and the port from what stands behind it. -/
theorem readHost_eq {kind : Scheme.Kind} (notFile : kind ≠ .file) {name rest : List Char}
    (split : splitHost kind.isSpecial false cs = (name, rest)) :
    readHost kind cs = (do
      let host ← Host.reading kind.isSpecial name
      if host == .empty && rest.head? == some ':' then .error .emptyHost
      else
        let (port, rest) ← readPort (ownPort kind) rest
        .ok (host, port, rest)) := by
  cases kind with
  | file => exact absurd rfl notFile
  | network port =>
    rw [readHost, split]
    simp only [Host.reading, Scheme.Kind.isSpecial, ownPort, if_true]
    split <;> rfl
  | other =>
    rw [readHost, split]
    · simp only [Host.reading, Scheme.Kind.isSpecial, ownPort, Bool.false_eq_true, if_false]
    · intro port same
      cases same

/-- Digits do not end an authority. -/
theorem goesOn_of_isDigit (each : ∀ c ∈ digits, c.isDigit = true) : GoesOn digits := by
  intro c mem
  have plain : isPlain c = true := Bool.or_eq_true_iff.mpr (.inr (each c mem))
  exact of_isPlain (P := fun c => endsAuthority true c = false) (by decide) plain

/-- **A host and a port are told from the place**: digits behind the last colon are the port, and
all that is in front of it is the host's text. -/
theorem eq_of_readHost {kind : Scheme.Kind} (notFile : kind ≠ .file) (goesOn : GoesOn front)
    (nonempty : digits ≠ []) (each : ∀ c ∈ digits, c.isDigit = true) (isTail : IsTail tail)
    {host : Host} {port : Option UInt16} {rest : List Char}
    (read : readHost kind (front ++ ':' :: digits ++ tail) = .ok (host, port, rest)) :
    Host.reading kind.isSpecial front = .ok host ∧ ∃ n, numberFrom? 10 0 digits = some n ∧
      port = if ownPort kind = some n.toUInt16 then none else some n.toUInt16 := by
  have goesOnPlace : GoesOn (front ++ ':' :: digits) := by
    intro c mem
    rcases List.mem_append.mp mem with here | behind
    · exact goesOn c here
    · rcases List.mem_cons.mp behind with rfl | behind
      · decide
      · exact goesOn_of_isDigit each c behind
  have noColon : ∀ {ds : List Char}, (∀ c ∈ ds, c.isDigit = true) → ':' ∉ ds :=
    fun each mem => absurd (each ':' mem) (by decide)
  cases split : splitHost true false (front ++ ':' :: digits) with
  | mk name left =>
    obtain ⟨whole, ends⟩ := eq_of_splitHost goesOnPlace split
    have split' := splitHost_append_tail goesOnPlace isTail kind.isSpecial false
    rw [split] at split'
    rw [readHost_eq notFile split'] at read
    obtain ⟨own, hosted, read⟩ := Outcome.bind_eq_ok.mp read
    split at read
    · cases read
    · -- The name ends at the last colon: without a port it would hold one, which no host does.
      rcases ends with rfl | ⟨behind, rfl⟩
      · rw [List.append_nil] at whole
        exact absurd (whole ▸ hosted) (reading_of_port _ nonempty each own)
      · obtain ⟨⟨_, _⟩, found, same⟩ := Outcome.bind_eq_ok.mp read
        cases same
        have goesOnBehind : GoesOn behind := fun c mem =>
          goesOnPlace c (whole ▸ List.mem_append_right _ (List.mem_cons_of_mem _ mem))
        obtain ⟨each', n, spelled, ported⟩ := eq_of_readPort goesOnBehind isTail found
        have same := congrArg (cutLast? ':') whole
        rw [cutLast?_append _ (noColon each), cutLast?_append _ (noColon each')] at same
        obtain ⟨rfl, rfl⟩ := Prod.mk.inj (Option.some.inj same)
        refine ⟨hosted, n, spelled, ?_⟩
        rw [ported, List.isEmpty_eq_false_iff.mpr nonempty, Bool.false_or]
        simp only [beq_iff_eq]

/-! ## Whole URLs -/

/-- **The parts that a place is read as**, behind user information: a host that the text in front
of the last colon is under the URL's scheme, and the port that the digits behind it spell. -/
structure Places (url : Url) (scheme : String) (info : Userinfo) (front digits : List Char) :
    Prop where
  scheme_eq : url.scheme = scheme
  username_eq : url.username = info.username
  password_eq : url.password = info.password
  host : ∃ host, url.host = some host ∧
    Host.reading (Scheme.kind scheme).isSpecial front = .ok host
  port : ∃ n, numberFrom? 10 0 digits = some n ∧ url.effectivePort? = some n.toUInt16

/-- An authority that is read has user information, a host and a port. -/
theorem places_of_readHierarchical (notFile : Scheme.kind scheme ≠ .file)
    (goesOn : GoesOn authority) (shape : (userinfoOf authority).2 = front ++ ':' :: digits)
    (nonempty : digits ≠ []) (each : ∀ c ∈ digits, c.isDigit = true) (isTail : IsTail tail)
    {url : Url}
    (read : readHierarchical scheme (authority ++ tail) = .ok url) :
    url.Places scheme (userinfoOf authority).1 front digits := by
  have goesOn' : GoesOn front := fun c mem =>
    goesOn c (mem_of_mem_userinfoOf (shape ▸ List.mem_append_left _ mem))
  unfold readHierarchical at read
  obtain ⟨⟨info, rest⟩, split, read⟩ := Outcome.bind_eq_ok.mp read
  obtain ⟨rfl, rfl⟩ := eq_of_splitUserinfo goesOn isTail split
  obtain ⟨⟨host, port, rest⟩, hosted, read⟩ := Outcome.bind_eq_ok.mp read
  simp only at hosted read
  rw [shape] at hosted
  split at read
  · cases read
  · cases read
    obtain ⟨reading, n, spelled, rfl⟩ :=
      eq_of_readHost notFile goesOn' nonempty each isTail hosted
    refine ⟨rfl, rfl, rfl, ⟨host, rfl, reading⟩, n, spelled, ?_⟩
    have own : Scheme.defaultPort? scheme = ownPort (Scheme.kind scheme) := rfl
    rw [effectivePort?, own]
    split
    · next default => rw [Option.none_or, default]
    · rfl

/-! ## Whole texts -/

/-- The text of a URL with a host and a port; user information may stand in front of the host, and
a path behind the port. -/
def placedText (scheme : String) (info front digits tail : List Char) : String :=
  String.ofList
    (scheme.toList ++ ':' :: '/' :: '/' :: (info ++ front ++ ':' :: (digits ++ tail)))

/-- **User information, a host and a port**: the at sign of the user information is the last one,
and the port is not left out. -/
structure IsPlaced (info front digits : List Char) : Prop where
  ends : info = [] ∨ ∃ login, info = login ++ ['@']
  single : '@' ∉ front
  goesOn : GoesOn (info ++ front)
  nonempty : digits ≠ []
  each : ∀ c ∈ digits, c.isDigit = true

/-- User information ends at its at sign. -/
theorem userinfoOf_append {info : List Char} (ends : info = [] ∨ ∃ login, info = login ++ ['@'])
    (single : '@' ∉ place) : userinfoOf (info ++ place) = ((userinfoOf info).1, place) := by
  unfold userinfoOf
  rcases ends with rfl | ⟨login, rfl⟩
  · rw [List.nil_append, cutLast?_eq_none single]
    rfl
  · rw [List.append_assoc, List.singleton_append, cutLast?_append login single,
      cutLast?_append login List.not_mem_nil]

/-- A visible character in front of a last part stays as it is. -/
theorem relevantBack_cons {c : Char} (visible : isPadding c = false) (back : List Char) :
    relevantBack (c :: back) = c :: relevantBack back :=
  @relevantBack_append c [] back visible

/-- And so do digits. -/
theorem relevantBack_digits (each : ∀ c ∈ digits, c.isDigit = true) (tail : List Char) :
    relevantBack (digits ++ tail) = digits ++ relevantBack tail := by
  induction digits with
  | nil => rfl
  | cons c cs ih =>
    obtain ⟨here, behind⟩ := List.forall_mem_cons.mp each
    have visible : isPadding c = false :=
      of_isPlain (P := fun c => isPadding c = false) (by decide)
        (Bool.or_eq_true_iff.mpr (.inr here))
    rw [List.cons_append, relevantBack_cons visible, ih behind, List.cons_append]

/-- What counts of a tail is a tail. -/
theorem IsTail.relevantBack (isTail : IsTail tail) : IsTail (relevantBack tail) := by
  cases tail with
  | nil => exact isTail
  | cons c cs =>
    have mark := isTail c rfl
    have visible : isPadding c = false := by
      rcases mark with rfl | rfl | rfl <;> decide
    rw [relevantBack_cons visible]
    rintro d ⟨rfl⟩
    exact mark

/-- What counts of user information, a host and a port. -/
theorem relevantBack_placed {info : List Char} (each : ∀ c ∈ digits, c.isDigit = true) :
    relevantBack ('/' :: '/' :: (info ++ front ++ ':' :: (digits ++ tail))) =
      '/' :: '/' :: (kept info ++ (kept front ++ ':' :: digits) ++ relevantBack tail) := by
  have colon : isPadding ':' = false := by decide
  have slash : isPadding '/' = false := by decide
  rw [relevantBack_cons slash, relevantBack_cons slash, relevantBack_append colon,
    relevantBack_digits each, kept_append]
  simp only [List.append_assoc, List.cons_append]

/-- A written scheme is the scheme of the URL. -/
theorem schemeOf?_of_isWrittenScheme (written : IsWrittenScheme scheme) :
    schemeOf? scheme.toList = some scheme := by
  have front : relevantFront scheme.toList = scheme.toList := by
    rw [relevantFront, dropWhile_of_visible written.visible, kept_of_visible written.visible]
  rw [schemeOf?, front, readScheme?_append written, Option.map_some, String.ofList_toList]

/-- **A URL with a port is read part by part.** -/
theorem places_of_parse (written : IsWrittenScheme scheme) {info : List Char}
    (placed : IsPlaced info front digits) (isTail : IsTail tail) {url : Url}
    (read : parse (placedText scheme info front digits tail) = .ok url) :
    url.Places scheme (userinfoOf (kept info)).1 (kept front) digits := by
  have goesOn : ∀ c ∈ kept info ++ (kept front ++ ':' :: digits), endsAuthority true c = false := by
    intro c mem
    rcases List.mem_append.mp mem with login | mem
    · exact placed.goesOn c (List.mem_append_left _ (mem_of_mem_kept login))
    · rcases List.mem_append.mp mem with host | mem
      · exact placed.goesOn c (List.mem_append_right _ (mem_of_mem_kept host))
      · rcases List.mem_cons.mp mem with rfl | digit
        · decide
        · exact goesOn_of_isDigit placed.each c digit
  have ends : kept info = [] ∨ ∃ login, kept info = login ++ ['@'] := by
    rcases placed.ends with rfl | ⟨login, rfl⟩
    · exact .inl rfl
    · exact .inr ⟨kept login, kept_append⟩
  have single : '@' ∉ kept front ++ ':' :: digits := by
    intro mem
    rcases List.mem_append.mp mem with host | mem
    · exact placed.single (mem_of_mem_kept host)
    · rcases List.mem_cons.mp mem with sign | digit
      · exact absurd sign (by decide)
      · exact absurd (placed.each _ digit) (by decide)
  have split := userinfoOf_append ends single
  rw [placedText, parse_append String.toList_ofList written.colon,
    schemeOf?_of_isWrittenScheme written, relevantBack_placed placed.each] at read
  simp only at read
  rw [readBehind_slashes, if_neg written.notFile] at read
  · have places := places_of_readHierarchical written.notFile goesOn (congrArg Prod.snd split)
      placed.nonempty placed.each isTail.relevantBack read
    rwa [split] at places
  · intro c mem
    have nonempty : kept info ++ (kept front ++ ':' :: digits) ≠ [] :=
      List.append_ne_nil_of_right_ne_nil _
        (List.append_ne_nil_of_right_ne_nil _ (List.cons_ne_nil _ _))
    rw [List.head?_append_of_ne_nil _ nonempty] at mem
    exact GoesOn.endsAuthority_eq goesOn _ c (List.mem_of_mem_head? mem)

end Url

end ProxyAutoConfig
