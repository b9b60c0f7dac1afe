import ProxyAutoConfig.Proofs.Native.Membership
import ProxyAutoConfig.Proofs.Script.TextMethods

/-!
# The library's tests on host names

Four functions of the library look at the dots of a host, and at a domain that it may end in or begin.
They are written with what the language has for texts: the place of a part, the rest behind a place, the
number of pieces. Each is followed from its call to what it returns, in a machine with everything in its
place (`isPlainHostName_answers` and so on).

**The law** (`Library.hostRelations`): what they return is whether the domain is a suffix of the host,
whether the host is the full name or a prefix of it up to a dot, and how many dots there are.

A script counts exactly up to a bound, and an array has no more than 4294967295 places: of a text with
more pieces `dnsDomainLevels` counts those that have one (`dnsDomainLevels_answers`).
-/

namespace ProxyAutoConfig

open ProxyAutoConfig.Script ProxyAutoConfig.Text Eval

namespace Library

/-- The names of a function of a host while it is under way. -/
def hostNames (h : Units) : List (Units × Binding) :=
  [(Units.ofString "host", ⟨some (.text h), .free⟩)]

/-- The names of a function of a host and a domain. -/
def pairNames (domain : String) (h d : Units) : List (Units × Binding) :=
  [(Units.ofString "host", ⟨some (.text h), .free⟩), (Units.ofString domain, ⟨some (.text d), .free⟩)]

end Library

namespace Script.Machine.Furnished

variable {m : Machine} (furnished : m.Furnished) (w : World) (rounds levels : Nat) {h d : Units}
include furnished

/-! ## One host -/

/-- The host is taken as a text. -/
theorem hostText_yields (s : Nat) : Library.Gives m w rounds (levels + 1) s (Library.hostNames h)
    (Library.textOf (Library.var "host")) (.text h) := by
  obtain ⟨_, maker⟩ := furnished.text
  exact Library.textOf_yields (Running.knows m s _) maker rfl rfl

/-- **Whether a host has no dot.** -/
theorem isPlainHostName_answers (small : h.length ≤ Number.bound) :
    m.Answers (Library.around w rounds (levels + 2)).call (Units.ofString "isPlainHostName") [.text h]
      (.bool (decide (0x2E ∉ h))) := by
  obtain ⟨_, indexOf⟩ := @textMethod m furnished "indexOf" .indexOf 1 (by decide)
  obtain ⟨i, negative, place⟩ := exists_textMethod_indexOf small 0x2E
  refine @answers m furnished Library.isPlainHostName _ rfl (by simp [Library.program]) _ _ _ _
    fun s => ?_
  show Leads (Running m s (Library.hostNames h)) _ _
  have found : Library.Gives m w rounds (levels + 1) s (Library.hostNames h)
      (Library.method (Library.textOf (Library.var "host")) "indexOf" [Library.str "."])
      (.number (.int i)) :=
    Expr.textMethod_yields (Running.knows m s _) indexOf rfl (by decide)
      (furnished.hostText_yields w rounds levels s)
      (Expr.evalAll_cons_yields (Expr.text_yields _) Expr.evalAll_nil_yields) place
  refine Library.Gives.returned (Expr.binary_yields found (Expr.number_yields _) ?_)
  rw [Number.ofNat_eq (Nat.zero_le _), less_eq, ← decide_eq_decide.mpr negative]
  exact .pure _ _

/-- **The number of dots of a host** is one less than that of its pieces. The pieces stand in an array,
which has no more than 4294967295 places. -/
theorem dnsDomainLevels_answers :
    m.Answers (Library.around w rounds (levels + 2)).call (Units.ofString "dnsDomainLevels") [.text h]
      (.number (.int (min (h.count 0x2E) 4294967294 : Nat))) := by
  obtain ⟨_, split⟩ := @textMethod m furnished "split" .split 2 (by decide)
  refine @answers m furnished Library.dnsDomainLevels _ rfl (by simp [Library.program]) _ _ _ _
    fun s => ?_
  show Leads (Running m s (Library.hostNames h)) _ _
  have count : (((Units.split [0x2E] h).map Value.text).take 4294967295).length =
      min (h.count 0x2E) 4294967294 + 1 := by
    rw [List.length_take, List.length_map, Units.length_split]
    omega
  have small : min (h.count 0x2E) 4294967294 + 1 ≤ Number.bound :=
    Nat.le_trans (Nat.succ_le_succ (Nat.min_le_right _ _)) (by decide)
  have pieces : Library.Gives m w rounds (levels + 1) s (Library.hostNames h)
      (Library.dot (Library.method (Library.textOf (Library.var "host")) "split" [Library.str "."])
        "length")
      (.number (.int (min (h.count 0x2E) 4294967294 + 1 : Nat))) := by
    rw [← Number.ofNat_eq small, ← count]
    exact Expr.arrayLength_yields (Expr.split_leads (Running.knows m s _) split
      (furnished.hostText_yields w rounds levels s))
  refine Library.Gives.returned (Expr.binary_yields pieces (Expr.number_yields _) ?_)
  rw [Number.ofNat_eq (by decide), sub_eq (Nat.le_add_left _ _) small, Nat.add_sub_cancel]
  exact .pure _ _

/-! ## A host and a domain -/

/-- **Both arguments are taken as texts** before anything else is done with them. -/
theorem texts_leads {domain : String} (other : Units.ofString domain ≠ Units.ofString "host")
    (other' : Units.ofString domain ≠ Units.ofString "String") {s : Nat} {rest : List Stmt}
    {U : Completion → Machine → Prop}
    (others : Leads (Running m s (Library.pairNames domain h d))
      (Stmt.execAll (Library.around w rounds (levels + 1)) rest (Library.frame s)) U) :
    Leads (Running m s (Library.pairNames domain h d))
      (Stmt.execAll (Library.around w rounds (levels + 1))
        (Library.set "host" (Library.textOf (Library.var "host")) ::
          Library.set domain (Library.textOf (Library.var domain)) :: rest) (Library.frame s)) U := by
  obtain ⟨_, maker⟩ := furnished.text
  let names := Library.pairNames domain h d
  have knows : Running.Knows m (Library.frame s).scope names (Running m s names) :=
    Running.knows m s names
  have absent : names.lookup (Units.ofString "String") = none := by
    have apart : (Units.ofString "String" == Units.ofString "host") = false := by decide
    simp only [names, Library.pairNames, List.lookup_cons, List.lookup_nil, apart,
      beq_eq_false_iff_ne.mpr other'.symm]
  -- A name that is given the text that it stands for stands for what it stood for.
  have taken {x : String} {t : Units}
      (own : names.lookup (Units.ofString x) = some ⟨some (.text t), .free⟩)
      (kept : Scope.insert (Units.ofString x) ⟨some (.text t), .free⟩ names = names) :
      Leads (Running m s names)
        ((Library.set x (Library.textOf (Library.var x))).exec (Library.around w rounds (levels + 1)) []
          (Library.frame s)) fun c m' => c = .normal ∧ Running m s names m' := by
    refine (Stmt.set_yields (x := Units.ofString x) knows own
      (Library.textOf_yields knows maker absent own)).mono fun c m' holds => ⟨holds.1, ?_⟩
    exact kept ▸ holds.2
  have second : names.lookup (Units.ofString domain) = some ⟨some (.text d), .free⟩ := by
    simp only [names, Library.pairNames, List.lookup_cons, beq_eq_false_iff_ne.mpr other,
      beq_self_eq_true]
  have kept : Scope.insert (Units.ofString domain) ⟨some (.text d), .free⟩ names = names := by
    simp only [names, Library.pairNames, Scope.insert, if_neg other.symm, if_true]
  exact Stmt.execAll_cons_leads (taken rfl rfl) (Stmt.execAll_cons_leads (taken second kept) others)

/-- **Whether a host ends in a domain.** -/
theorem dnsDomainIs_answers (small : h.length ≤ Number.bound) (small' : d.length ≤ Number.bound) :
    m.Answers (Library.around w rounds (levels + 2)).call (Units.ofString "dnsDomainIs")
      [.text h, .text d] (.bool (decide (d <:+ h))) := by
  obtain ⟨_, substring⟩ := @textMethod m furnished "substring" .substring 2 (by decide)
  refine @answers m furnished Library.dnsDomainIs _ rfl (by simp [Library.program]) _ _ _ _
    fun s => ?_
  show Leads (Running m s (Library.pairNames "domain" h d)) _ _
  refine furnished.texts_leads w rounds levels (by decide) (by decide) ?_
  have knows := Running.knows m s (Library.pairNames "domain" h d)
  have host : Library.Gives m w rounds (levels + 1) s (Library.pairNames "domain" h d)
      (Library.var "host") (.text h) := Expr.name_yields knows rfl
  have domain : Library.Gives m w rounds (levels + 1) s (Library.pairNames "domain" h d)
      (Library.var "domain") (.text d) := Expr.name_yields knows rfl
  have lengths := And.intro (Expr.length_yields host) (Expr.length_yields domain)
  rw [Number.ofNat_eq small, Number.ofNat_eq small'] at lengths
  have longer : Library.Gives m w rounds (levels + 1) s (Library.pairNames "domain" h d)
      (.binary .greaterEqual (Library.dot (Library.var "host") "length")
        (Library.dot (Library.var "domain") "length")) (.bool (decide (d.length ≤ h.length))) := by
    refine Expr.binary_yields lengths.1 lengths.2 ?_
    rw [greaterEqual_eq, decide_eq_decide.mpr Int.ofNat_le]
    exact .pure _ _
  have ending (within : d.length ≤ h.length) :
      Library.Gives m w rounds (levels + 1) s (Library.pairNames "domain" h d)
        (.binary .same (Library.method (Library.var "host") "substring" [.binary .sub
          (Library.dot (Library.var "host") "length") (Library.dot (Library.var "domain") "length")])
            (Library.var "domain"))
        (.bool (h.drop (h.length - d.length) == d)) := by
    have start := Expr.binary_yields lengths.1 lengths.2
      (by rw [sub_eq within small]; exact .pure _ _)
    have rest : Library.Gives m w rounds (levels + 1) s (Library.pairNames "domain" h d)
        (Library.method (Library.var "host") "substring" [.binary .sub
          (Library.dot (Library.var "host") "length") (Library.dot (Library.var "domain") "length")])
        (.text (h.drop (h.length - d.length))) :=
      Expr.textMethod_yields knows substring rfl (by decide) host
        (Expr.evalAll_cons_yields start Expr.evalAll_nil_yields)
        fun call => textMethod_substring small (Nat.sub_le _ _)
    exact Expr.binary_yields rest domain (.pure _ _)
  have both := Expr.and_yields longer fun holds => ending (of_decide_eq_true holds)
  have suffix : (decide (d.length ≤ h.length) && (h.drop (h.length - d.length) == d)) =
      decide (d <:+ h) := by
    rw [Bool.eq_iff_iff, Bool.and_eq_true, decide_eq_true_eq, beq_iff_eq, decide_eq_true_eq,
      List.suffix_iff_eq_drop]
    exact ⟨fun both => both.2.symm,
      fun same => ⟨(List.suffix_iff_eq_drop.mpr same).length_le, same.symm⟩⟩
  rw [suffix] at both
  exact Library.Gives.returned both

/-- **Whether a host is a full name**, or what stands in it before a dot. -/
theorem localHostOrDomainIs_answers :
    m.Answers (Library.around w rounds (levels + 2)).call (Units.ofString "localHostOrDomainIs")
      [.text h, .text d] (.bool (decide (h = d ∨ h ++ [0x2E] <+: d))) := by
  obtain ⟨_, lastIndexOf⟩ := @textMethod m furnished "lastIndexOf" .lastIndexOf 1 (by decide)
  refine @answers m furnished Library.localHostOrDomainIs _ rfl (by simp [Library.program]) _ _ _ _
    fun s => ?_
  show Leads (Running m s (Library.pairNames "hostdom" h d)) _ _
  refine furnished.texts_leads w rounds levels (by decide) (by decide) ?_
  have knows := Running.knows m s (Library.pairNames "hostdom" h d)
  have host : Library.Gives m w rounds (levels + 1) s (Library.pairNames "hostdom" h d)
      (Library.var "host") (.text h) := Expr.name_yields knows rfl
  have domain : Library.Gives m w rounds (levels + 1) s (Library.pairNames "hostdom" h d)
      (Library.var "hostdom") (.text d) := Expr.name_yields knows rfl
  have zero : Library.Gives m w rounds (levels + 1) s (Library.pairNames "hostdom" h d)
      (Library.int 0) (.number (.int 0)) := by
    rw [Library.int_eq (Nat.zero_le _)]
    exact Expr.number_yields _
  have dotted : Library.Gives m w rounds (levels + 1) s (Library.pairNames "hostdom" h d)
      (.binary .add (Library.var "host") (Library.str ".")) (.text (h ++ [0x2E])) :=
    Expr.binary_yields host (Expr.text_yields _) (.pure _ _)
  have place : Library.Gives m w rounds (levels + 1) s (Library.pairNames "hostdom" h d)
      (Library.method (Library.var "hostdom") "lastIndexOf"
        [.binary .add (Library.var "host") (Library.str "."), Library.int 0])
      (.number (.int (if (h ++ [0x2E]).isPrefixOf d then 0 else -1))) :=
    Expr.textMethod_yields knows lastIndexOf rfl (by decide) domain
      (Expr.evalAll_cons_yields dotted (Expr.evalAll_cons_yields zero Expr.evalAll_nil_yields))
      fun call => textMethod_lastIndexOf
  have same : Library.Gives m w rounds (levels + 1) s (Library.pairNames "hostdom" h d)
      (.binary .same (Library.var "host") (Library.var "hostdom")) (.bool (h == d)) :=
    Expr.binary_yields host domain (.pure _ _)
  have begins : Library.Gives m w rounds (levels + 1) s (Library.pairNames "hostdom" h d)
      (.binary .same (Library.method (Library.var "hostdom") "lastIndexOf"
        [.binary .add (Library.var "host") (Library.str "."), Library.int 0]) (Library.int 0))
      (.bool ((h ++ [0x2E]).isPrefixOf d)) := by
    refine Expr.binary_yields place zero ?_
    cases (h ++ [0x2E]).isPrefixOf d <;> exact .pure _ _
  have either := Expr.or_yields same fun _ => begins
  have relation : (h == d || (h ++ [0x2E]).isPrefixOf d) = decide (h = d ∨ h ++ [0x2E] <+: d) := by
    rw [Bool.eq_iff_iff, Bool.or_eq_true, beq_iff_eq, List.isPrefixOf_iff_prefix, decide_eq_true_eq]
  rw [relation] at either
  exact Library.Gives.returned either

end Script.Machine.Furnished

/-! ## Asked from outside -/

namespace Library

/-- **What the tests on host names stand for.** Two of them count the characters of a text, which a
script does exactly up to a bound; the levels are counted in an array of the pieces. -/
structure HostRelations (e : Engine) (w : World) (h d : Units) : Prop where
  /-- A plain name has no dot. -/
  plain : h.length ≤ Number.bound →
    (e.ask w "isPlainHostName" [.text h]).1 = .ok (.bool (decide (h.count 0x2E = 0)))
  /-- A host is in the domain that it ends in. -/
  domain : h.length ≤ Number.bound → d.length ≤ Number.bound →
    (e.ask w "dnsDomainIs" [.text h, .text d]).1 = .ok (.bool (decide (d <:+ h)))
  /-- A host is meant by the full names that are the host, or begin with it and a dot. -/
  localHost : (e.ask w "localHostOrDomainIs" [.text h, .text d]).1 =
    .ok (.bool (decide (h = d ∨ h ++ [0x2E] <+: d)))
  /-- Every dot is a level. -/
  levels : h.count 0x2E < 4294967295 →
    (e.ask w "dnsDomainLevels" [.text h]).1 = .ok (.number (.int (h.count 0x2E)))
  /-- A full name that means another host has more levels than the host. -/
  deeper : d.count 0x2E < 4294967295 →
    (e.ask w "localHostOrDomainIs" [.text h, .text d]).1 = .ok (.bool true) → h ≠ d →
    ∃ few many : Nat, (e.ask w "dnsDomainLevels" [.text h]).1 = .ok (.number (.int few)) ∧
      (e.ask w "dnsDomainLevels" [.text d]).1 = .ok (.number (.int many)) ∧ few < many

variable {e : Engine} (furnished : e.Furnished) (w : World) {h d t : Units}
include furnished

/-- The levels of a host are asked for. -/
theorem ask_dnsDomainLevels_eq (few : t.count 0x2E < 4294967295) :
    (e.ask w "dnsDomainLevels" [.text t]).1 = .ok (.number (.int (t.count 0x2E))) := by
  have answered := Engine.ask_eq furnished w fun levels =>
    furnished.machine.dnsDomainLevels_answers w e.limits.rounds (levels + 1) (h := t)
  rwa [Nat.min_eq_left (Nat.le_of_lt_succ few)] at answered

/-- Whether a host is a full name, or stands in it before a dot, is asked for. -/
theorem ask_localHostOrDomainIs_eq : (e.ask w "localHostOrDomainIs" [.text h, .text d]).1 =
    .ok (.bool (decide (h = d ∨ h ++ [0x2E] <+: d))) :=
  Engine.ask_eq furnished w fun levels =>
    furnished.machine.localHostOrDomainIs_answers w e.limits.rounds (levels + 1)

/-- **The tests on host names are relations of texts.** -/
theorem hostRelations : HostRelations e w h d where
  plain short := by
    have plain := Engine.ask_eq furnished w fun levels =>
      furnished.machine.isPlainHostName_answers w e.limits.rounds (levels + 1) short
    rwa [← decide_eq_decide.mpr List.count_eq_zero] at plain
  domain short short' := Engine.ask_eq furnished w fun levels =>
    furnished.machine.dnsDomainIs_answers w e.limits.rounds (levels + 1) short short'
  localHost := ask_localHostOrDomainIs_eq furnished w
  levels := ask_dnsDomainLevels_eq furnished w
  deeper few yes other := by
    rw [ask_localHostOrDomainIs_eq furnished w] at yes
    have relation := of_decide_eq_true (Value.bool.inj (Except.ok.inj yes))
    have dots := (relation.resolve_left other).sublist.count_le 0x2E
    rw [List.count_append, List.count_singleton_self] at dots
    exact ⟨_, _, ask_dnsDomainLevels_eq furnished w (Nat.lt_of_succ_lt (Nat.lt_of_le_of_lt dots few)),
      ask_dnsDomainLevels_eq furnished w few, dots⟩

omit furnished in
/-- So they are, in an engine that has just started, for a host and its full name. -/
theorem hostRelations_fullName : ∃ e : Engine, let w := World.isolated 0 0
    Engine.start .standard .standard w "" = .ok e ∧
    HostRelations e w (Units.ofString "www") (Units.ofString "www.example.net") ∧
    ∃ few many : Nat,
      (e.ask w "dnsDomainLevels" [.text (Units.ofString "www")]).1 = .ok (.number (.int few)) ∧
      (e.ask w "dnsDomainLevels" [.text (Units.ofString "www.example.net")]).1 =
        .ok (.number (.int many)) ∧ few < many := by
  obtain ⟨e, started, furnished⟩ := Engine.exists_start_empty
  have relations := hostRelations furnished (World.isolated 0 0) (h := Units.ofString "www")
    (d := Units.ofString "www.example.net")
  have begins : Units.ofString "www" ++ [0x2E] <+: Units.ofString "www.example.net" := by decide
  refine ⟨e, started, relations, relations.deeper (by decide) ?_ (by decide)⟩
  rw [relations.localHost, decide_eq_true (.inr begins)]

end Library

end ProxyAutoConfig
