import ProxyAutoConfig.Proofs.Native.Dotted
import ProxyAutoConfig.Proofs.Native.Furnished

/-!
# The library's test on networks

`isInNet` is followed from its call to what it returns, in a machine with everything in its place. Its
first step finds the text whose bits count (`Library.reached?`): the host where a script takes it for an
address, and else the address that `dnsResolve` gives. `convert_addr` turns texts into bits
(`convertAddr_answers`).

**The law** (`isInNet_answers`, `isInNet_answers_none`): where such a text is found the call compares its
bits with those of the network under the mask, and where none is found the host is in no network, whatever
the other arguments are.
-/

namespace ProxyAutoConfig

open ProxyAutoConfig.Net ProxyAutoConfig.Script ProxyAutoConfig.Text Eval

/-! ## The bits of an address -/

namespace Library

variable {before : Machine} {frame : Frame} {names : List (Units × Binding)} {S : Machine → Prop}
  {h : Embedding} {levels rounds : Nat} {u : Units} {q : Ref}

/-- A small number stands in the syntax as it is. -/
theorem int_eq {n : Nat} (small : n ≤ Number.bound) : int n = .number (.int n) := by
  rw [int, Number.ofNat, Number.ofInt, if_pos (by rwa [Int.natAbs_natCast])]

/-- The array of the pieces of a text. -/
def piecesObject (u : Units) : Object :=
  ⟨.array (((pieces u).take 4294967295).map some).toArray, some Well.array, []⟩

/-- A piece is no object. -/
theorem ref?_piece (u : Units) (i : Nat) : ((pieces u)[i]?.getD .undefined).ref? = none := by
  rw [pieces, List.getElem?_map]
  cases (Units.split (Units.ofString ".") u)[i]? <;> rfl

/-- **A byte of a dotted text**, moved to its place. -/
theorem byte_yields {w : Surroundings} (knows : Running.Knows before frame.scope names S) {f : Fixity}
    (own : names.lookup (Units.ofString "bytes") = some ⟨some (.object q), f⟩)
    (lacks : ∀ i, before.Lacks (.index i) Well.array)
    (there : ∀ m, S m → m.objects[q]? = some (piecesObject u)) {i shift : Nat} (small : i < 32)
    (near : shift < 32) :
    Yields S ((byte i shift).eval w frame) (.number (.ofBits (octetBits u i <<< shift))) := by
  have item : Yields S ((Expr.member (var "bytes") (int i)).eval w frame)
      ((pieces u)[i]?.getD .undefined) := by
    rw [int_eq (Nat.le_of_lt (Nat.lt_of_lt_of_le small (by decide))),
      ← List.getElem?_take_of_lt (by omega : i < 4294967295)]
    exact Expr.item_yields knows own (by omega) (lacks i) there
  have masked : Yields S ((Expr.binary .bitAnd (.member (var "bytes") (int i)) (int 0xFF)).eval w frame)
      (.number (.ofBits (octetBits u i))) := by
    refine Expr.binary_yields item (Expr.number_yields _) ?_
    rw [binary, arithmetic_eq _ (ref?_piece u i) rfl]
    exact .pure S _
  unfold byte
  dsimp only
  split
  next zero =>
    rw [zero, BitVec.shiftLeft_zero]
    exact masked
  next =>
    refine Expr.binary_yields masked (Expr.number_yields _) ?_
    have count : Number.shiftCount (Number.ofNat shift) = shift :=
      (by decide : ∀ n < 32, Number.shiftCount (Number.ofNat n) = n) shift near
    rw [binary, arithmetic_eq _ rfl rfl, Value.plainNumber, Value.plainNumber, Number.shiftLeft,
      Number.toBits_ofBits, count]
    exact .pure S _

/-- The four bytes of a dotted text, side by side. -/
def bytes : Expr :=
  .binary .bitOr (.binary .bitOr (.binary .bitOr (byte 0 24) (byte 1 16)) (byte 2 8)) (byte 3 0)

/-- **The four bytes are put side by side.** -/
theorem bytes_yields {w : Surroundings} (knows : Running.Knows before frame.scope names S) {f : Fixity}
    (own : names.lookup (Units.ofString "bytes") = some ⟨some (.object q), f⟩)
    (lacks : ∀ i, before.Lacks (.index i) Well.array)
    (there : ∀ m, S m → m.objects[q]? = some (piecesObject u)) :
    Yields S (bytes.eval w frame) (.number (.ofBits (addressBits u))) := by
  have part (i shift : Nat) (small : i < 32) (near : shift < 32) :=
    byte_yields (w := w) knows own lacks there small near
  have join {a b : Expr} {x y : BitVec 32} (first : Yields S (a.eval w frame) (.number (.ofBits x)))
      (second : Yields S (b.eval w frame) (.number (.ofBits y))) :
      Yields S ((Expr.binary .bitOr a b).eval w frame) (.number (.ofBits (x ||| y))) := by
    refine Expr.binary_yields first second ?_
    rw [binary, bitwise_eq]
    exact .pure S _
  have whole := join (join (join (part 0 24 (by decide) (by decide)) (part 1 16 (by decide) (by decide)))
    (part 2 8 (by decide) (by decide))) (part 3 0 (by decide) (by decide))
  rwa [BitVec.shiftLeft_zero] at whole

/-- **A text is made of a text** by the maker of texts. -/
theorem textOf_yields {x : String} {f : Fixity} {r : Ref}
    (knows : Running.Knows before frame.scope names S)
    (maker : before.Supplies (Units.ofString "String") r (.builtin (.make .text)))
    (absent : names.lookup (Units.ofString "String") = none)
    (own : names.lookup (Units.ofString x) = some ⟨some (.text u), f⟩) :
    Yields S ((textOf (var x)).eval ⟨caller h (levels + 1), rounds⟩ frame) (.text u) := by
  refine Expr.call_yields knows absent
    (Expr.evalAll_cons_yields (Expr.name_yields knows own) Expr.evalAll_nil_yields) maker
    fun m running => ⟨m, ?_, .refl m⟩
  obtain ⟨o, there, held⟩ := (maker.keep running.toKeeps).function
  exact call_builtin there held _ _

end Library

/-- How the body of a function of the library runs in a world. -/
abbrev Library.around (w : World) (rounds levels : Nat) : Surroundings :=
  ⟨caller (NativeTable.standard.embedding w rounds) levels, rounds⟩

/-- Where it runs. -/
abbrev Library.frame (s : Nat) : Frame :=
  ⟨s, .object Well.global⟩

/-- What an expression gives while a function of the library with these names is under way. -/
abbrev Library.Gives (m : Machine) (w : World) (rounds levels s : Nat) (names : List (Units × Binding))
    (e : Expr) (v : Value) : Prop :=
  Yields (Running m s names) (e.eval (Library.around w rounds levels) (Library.frame s)) v

/-- The last statement of a function returns what its expression gives. -/
theorem Library.Gives.returned {m : Machine} {w : World} {rounds levels s : Nat}
    {names : List (Units × Binding)} {e : Expr} {v : Value}
    (gives : Library.Gives m w rounds levels s names e v) :
    Leads (Running m s names)
      (Stmt.execAll (Library.around w rounds levels) [.ret e] (Library.frame s))
      fun c m' => c = .returned v ∧ ∃ names, Running m s names m' :=
  (Stmt.execAll_cons_returned (Stmt.ret_leads gives)).mono fun _ _ holds => ⟨holds.1, _, holds.2⟩

/-- The names of `convert_addr` while it is under way. -/
def Library.convertNames (u : Units) (bytes : Value) : List (Units × Binding) :=
  [(Units.ofString "ipchars", ⟨some (.text u), .free⟩), (Units.ofString "bytes", ⟨some bytes, .free⟩)]

/-- The value is an array of the pieces. -/
def Library.ArePieces (u : Units) (a : Value) (objects : Array Object) : Prop :=
  ∃ q, a = .object q ∧ objects[q]? = some (piecesObject u)

namespace Script.Machine.Furnished

variable {m : Machine} (furnished : m.Furnished) (w : World) (rounds levels : Nat)
include furnished

/-- **The bits of a text** are found for it. -/
theorem convertAddr_answers (u : Units) :
    m.Answers (Library.around w rounds (levels + 2)).call (Units.ofString "convert_addr") [.text u]
      (.number (.ofBits (addressBits u))) := by
  obtain ⟨_, maker⟩ := furnished.text
  obtain ⟨_, split⟩ := @textMethod m furnished "split" .split 2 (by decide)
  refine @answers m furnished Library.convertAddr _ rfl (by simp [Library.program]) _ _ _ _ fun s => ?_
  show Leads (Running m s (Library.convertNames u .undefined)) _ _
  have cut : Leads (Running m s (Library.convertNames u .undefined))
      ((Library.method (Library.textOf (Library.var "ipchars")) "split" [Library.str "."]).eval
        (Library.around w rounds (levels + 1)) (Library.frame s))
      fun a m' => Running m s (Library.convertNames u .undefined) m' ∧
        Library.ArePieces u a m'.objects :=
    have knows := Running.knows m s (Library.convertNames u .undefined)
    Expr.split_leads knows split (Library.textOf_yields knows maker rfl rfl)
  refine Stmt.execAll_cons_leads (Stmt.declare_leads (x := Units.ofString "bytes") rfl cut)
    (.of_exists fun a => ?_)
  rintro m' ⟨running, q, rfl, there⟩
  -- From here on the array is known besides what every call of the function knows.
  let S (m' : Machine) : Prop := Running m s (Library.convertNames u (.object q)) m' ∧
    m'.objects[q]? = some (Library.piecesObject u)
  have knows : Running.Knows m (Library.frame s).scope (Library.convertNames u (.object q)) S :=
    (Running.knows m s _).and_object q _
  have bits : Yields S (Library.bytes.eval (Library.around w rounds (levels + 1)) (Library.frame s))
      (.number (.ofBits (addressBits u))) :=
    Library.bytes_yields knows rfl furnished.lacks fun _ holds => holds.2
  have returned : Leads S
      (Stmt.execAll (Library.around w rounds (levels + 1)) [.ret Library.bytes] (Library.frame s))
      fun c m' => c = .returned (.number (.ofBits (addressBits u))) ∧ S m' :=
    Stmt.execAll_cons_returned (Stmt.ret_leads bits)
  obtain ⟨c, after, ran, value, holds⟩ := returned m' ⟨running, there⟩
  exact ⟨c, after, ran, value, _, holds.1⟩

end Script.Machine.Furnished

/-! ## The functions that tell of addresses -/

/-- The text whose bits decide whether a host lies in a network: the host itself where a script takes it
for an address, and else the address that is found for it. -/
def Library.reached? (w : World) (u : Units) : Option Units :=
  if (dottedPattern.find? u 0).isSome then some u
  else (HostFunction.dnsResolve w (Units.toEscapedString u)).map Units.ofString

/-- Where no address was found, the test on networks is at its end. -/
def Library.check : Stmt :=
  .ifElse (.binary .same (var "ipaddr") .null) (.block [.ret (.bool false)]) .empty

/-- The first step of the test on networks. -/
def Library.reach : Stmt :=
  .ifElse (.unary .not (method (.pattern dottedPattern) "test" [var "ipaddr"]))
    (.block [set "ipaddr" (.call (var "dnsResolve") [var "ipaddr"]), check]) .empty

/-- The names of the test on networks while it is under way. -/
def Library.isInNetNames (address pattern mask bits : Value) : List (Units × Binding) :=
  [(Units.ofString "ipaddr", ⟨some address, .free⟩), (Units.ofString "pattern", ⟨some pattern, .free⟩),
    (Units.ofString "maskstr", ⟨some mask, .free⟩), (Units.ofString "mask", ⟨some bits, .free⟩)]

namespace Script.Machine.Furnished

variable {m : Machine} (furnished : m.Furnished) (w : World) (rounds levels : Nat)
include furnished

/-- **A host function answers** what it gives for the arguments. -/
theorem host_answers {i : Nat} {native : Native} (entry : NativeTable.standard[i]? = some native)
    {arguments : List Value} {v : Value}
    (gives : ∀ call, native.run w (toText call) arguments m = .ok v m) :
    m.Answers (Library.around w rounds (levels + 1)).call (Units.ofString native.name) arguments v := by
  obtain ⟨r, supplied⟩ := furnished.host i native entry
  refine ⟨r, _, m, supplied, ?_, .refl m⟩
  refine (call_host supplied arguments).trans ?_
  simp only [NativeTable.embedding, entry]
  exact gives _

/-- The address of a host is asked for. -/
theorem dnsResolve_answers (u : Units) :
    m.Answers (Library.around w rounds (levels + 1)).call (Units.ofString "dnsResolve") [.text u]
      (Native.optional (HostFunction.dnsResolve w (Units.toEscapedString u))) :=
  furnished.host_answers w rounds levels (i := 0) rfl fun _ => rfl

/-- A network is asked whether it holds an address. -/
theorem isInNetEx_answers (a n : Units) :
    m.Answers (Library.around w rounds (levels + 1)).call (Units.ofString "isInNetEx")
      [.text a, .text n]
      (.bool (HostFunction.isInNetEx (Units.toEscapedString a) (Units.toEscapedString n))) :=
  furnished.host_answers w rounds levels (i := 6) rfl fun _ => rfl

section

variable (s : Nat) (a b c : Value)

/-- Whether a script takes the host for an address. -/
theorem test_yields (u : Units) :
    Yields (Running m s (Library.isInNetNames (.text u) a b c))
      ((Expr.unary .not (Library.method (.pattern Library.dottedPattern) "test"
        [Library.var "ipaddr"])).eval (Library.around w rounds (levels + 1)) (Library.frame s))
      (.bool !(Library.dottedPattern.find? u 0).isSome) := by
  obtain ⟨_, test⟩ := @patternMethod m furnished "test" .test 1 (by decide)
  have knows := Running.knows m s (Library.isInNetNames (.text u) a b c)
  refine Expr.unary_yields (Expr.test_yields knows rfl rfl test fun q o => ?_) (.pure _ _)
  exact Expr.name_yields (knows.and_object q o) rfl

/-- The address of a host takes the place of its name. -/
theorem resolve_leads (u : Units) :
    Leads (Running m s (Library.isInNetNames (.text u) a b c))
      ((Library.set "ipaddr" (.call (Library.var "dnsResolve") [Library.var "ipaddr"])).exec
        (Library.around w rounds (levels + 1)) [] (Library.frame s))
      fun d m' => d = .normal ∧ Running m s (Library.isInNetNames
        (Native.optional (HostFunction.dnsResolve w (Units.toEscapedString u))) a b c) m' := by
  obtain ⟨_, _, _, supplied, _⟩ := furnished.dnsResolve_answers w rounds levels u
  have knows := Running.knows m s (Library.isInNetNames (.text u) a b c)
  have asked : Yields (Running m s (Library.isInNetNames (.text u) a b c))
      ((Expr.call (Library.var "dnsResolve") [Library.var "ipaddr"]).eval
        (Library.around w rounds (levels + 1)) (Library.frame s))
      (Native.optional (HostFunction.dnsResolve w (Units.toEscapedString u))) :=
    Expr.answered_yields knows rfl
      (Expr.evalAll_cons_yields (Expr.name_yields knows rfl) Expr.evalAll_nil_yields) supplied
      fun m' running => (furnished.keep running.toKeeps).dnsResolve_answers w rounds levels u
  exact Stmt.set_yields (x := Units.ofString "ipaddr") knows rfl asked

/-- **Where the host is no address for a script, one is asked for**, and looked at. -/
theorem reach_leads_of_undotted {u : Units} (undotted : ¬ (Library.dottedPattern.find? u 0).isSome)
    {U : Completion → Machine → Prop}
    (checked : Leads (Running m s (Library.isInNetNames
        (Native.optional (HostFunction.dnsResolve w (Units.toEscapedString u))) a b c))
      (Stmt.execAll (Library.around w rounds (levels + 1)) [Library.check] (Library.frame s)) U) :
    Leads (Running m s (Library.isInNetNames (.text u) a b c))
      (Library.reach.exec (Library.around w rounds (levels + 1)) [] (Library.frame s)) U := by
  refine Stmt.ifElse_leads (furnished.test_yields w rounds levels s a b c u) ?_
  rw [Bool.eq_false_iff.mpr undotted]
  exact Stmt.block_leads ⟨rfl, rfl⟩
    (Stmt.execAll_cons_leads (furnished.resolve_leads w rounds levels s a b c u) checked)

omit furnished in
/-- Whether no address was found. -/
theorem none_yields (v : Value) :
    Yields (Running m s (Library.isInNetNames v a b c))
      ((Expr.binary .same (Library.var "ipaddr") .null).eval (Library.around w rounds levels)
        (Library.frame s))
      (.bool (v.same .null)) :=
  Expr.binary_yields (Expr.name_yields (Running.knows m s _) rfl) Expr.null_yields (.pure _ _)

/-- **The address of the host is found**, where it has one, -/
theorem reach_leads {u t : Units} (reached : Library.reached? w u = some t) :
    Leads (Running m s (Library.isInNetNames (.text u) a b c))
      (Library.reach.exec (Library.around w rounds (levels + 1)) [] (Library.frame s))
      fun d m' => d = .normal ∧ Running m s (Library.isInNetNames (.text t) a b c) m' := by
  unfold Library.reached? at reached
  split at reached
  next dotted =>
    obtain rfl : u = t := Option.some.inj reached
    refine Stmt.ifElse_leads (furnished.test_yields w rounds levels s a b c u) ?_
    rw [dotted]
    exact Stmt.empty_leads
  next undotted =>
    obtain ⟨address, found, rfl⟩ := Option.map_eq_some_iff.mp reached
    refine furnished.reach_leads_of_undotted w rounds levels s a b c undotted ?_
    rw [found]
    have given := none_yields w rounds (levels + 1) (m := m) s a b c (.text (Units.ofString address))
    exact Stmt.execAll_cons_leads (Stmt.ifElse_leads given Stmt.empty_leads) Stmt.execAll_nil_leads

/-- and where it has none it is in no network. -/
theorem reach_leads_none {u : Units} (unreached : Library.reached? w u = none) :
    Leads (Running m s (Library.isInNetNames (.text u) a b c))
      (Library.reach.exec (Library.around w rounds (levels + 1)) [] (Library.frame s))
      fun d m' => d = .returned (.bool false) ∧
        Running m s (Library.isInNetNames .null a b c) m' := by
  unfold Library.reached? at unreached
  split at unreached
  next => cases unreached
  next undotted =>
    refine furnished.reach_leads_of_undotted w rounds levels s a b c undotted ?_
    rw [Option.map_eq_none_iff.mp unreached]
    have missing := none_yields w rounds (levels + 1) (m := m) s a b c .null
    refine Stmt.execAll_cons_returned (Stmt.ifElse_leads missing ?_)
    refine Stmt.block_leads ⟨rfl, rfl⟩ (Stmt.execAll_cons_returned (Stmt.ret_leads ?_))
    exact Expr.bool_yields false

section

variable {x : String} {names : List (Units × Binding)} {u k : Units} {f : Fixity}
  (own : names.lookup (Units.ofString x) = some ⟨some (.text u), f⟩)
  (absent : names.lookup (Units.ofString "convert_addr") = none)
include own absent

/-- The bits of a text that a name stands for. -/
theorem convert_yields : Yields (Running m s names)
    ((Expr.call (Library.var "convert_addr") [Library.var x]).eval (Library.around w rounds (levels + 2))
      (Library.frame s)) (.number (.ofBits (addressBits u))) := by
  obtain ⟨_, _, _, supplied, _⟩ := furnished.convertAddr_answers w rounds levels u
  have knows := Running.knows m s names
  exact Expr.answered_yields knows absent
    (Expr.evalAll_cons_yields (Expr.name_yields knows own) Expr.evalAll_nil_yields) supplied
    fun m' running => (furnished.keep running.toKeeps).convertAddr_answers w rounds levels u

/-- The bits of an address that count in a network. -/
theorem masked_yields {g : Fixity}
    (mask : names.lookup (Units.ofString "mask") = some ⟨some (.number (.ofBits (addressBits k))), g⟩) :
    Yields (Running m s names)
      ((Library.masked x).eval (Library.around w rounds (levels + 2)) (Library.frame s))
      (.number (.ofBits (addressBits u &&& addressBits k))) := by
  have bits := furnished.convert_yields w rounds levels s own absent
  refine Expr.binary_yields bits (Expr.name_yields (Running.knows m s names) mask) ?_
  rw [binary, bitwise_eq]
  exact .pure _ _

end

/-- **A host that has no address is in no network**, whatever the network is said to be. -/
theorem isInNet_answers_none {u : Units} (unreached : Library.reached? w u = none) (pattern mask : Value) :
    m.Answers (Library.around w rounds (levels + 3)).call (Units.ofString "isInNet")
      [.text u, pattern, mask] (.bool false) := by
  refine @answers m furnished Library.isInNet _ rfl (by simp [Library.program]) _ _ _ _ fun s => ?_
  show Leads (Running m s (Library.isInNetNames (.text u) pattern mask .undefined)) _ _
  refine Leads.mono (Stmt.execAll_cons_returned (furnished.reach_leads_none w rounds (levels + 1) s pattern
    mask .undefined unreached)) fun d m' holds => ⟨holds.1, _, holds.2⟩

/-- **A host that has an address is in the network** when the bits of the address are those of the
network, as far as the mask has ones. -/
theorem isInNet_answers {u t : Units} (reached : Library.reached? w u = some t) (pattern mask : Units) :
    m.Answers (Library.around w rounds (levels + 3)).call (Units.ofString "isInNet")
      [.text u, .text pattern, .text mask]
      (.bool (addressBits t &&& addressBits mask == addressBits pattern &&& addressBits mask)) := by
  refine @answers m furnished Library.isInNet _ rfl (by simp [Library.program]) _ _ _ _ fun s => ?_
  show Leads (Running m s (Library.isInNetNames (.text u) (.text pattern) (.text mask) .undefined)) _ _
  refine Stmt.execAll_cons_leads (furnished.reach_leads w rounds (levels + 1) s (.text pattern)
    (.text mask) .undefined reached) ?_
  have knows := Running.knows m s
    (Library.isInNetNames (.text t) (.text pattern) (.text mask) .undefined)
  refine Stmt.execAll_cons_leads (Stmt.declare_yields (x := Units.ofString "mask") knows rfl
    (furnished.convert_yields w rounds levels s (x := "maskstr") rfl rfl)) ?_
  let names := Library.isInNetNames (.text t) (.text pattern) (.text mask)
    (.number (.ofBits (addressBits mask)))
  show Leads (Running m s names) _ _
  have masked {x : String} {u : Units}
      (own : names.lookup (Units.ofString x) = some ⟨some (.text u), .free⟩) :
      Yields (Running m s names)
        ((Library.masked x).eval (Library.around w rounds (levels + 2)) (Library.frame s))
        (.number (.ofBits (addressBits u &&& addressBits mask))) :=
    furnished.masked_yields w rounds levels s own rfl rfl
  have compared : Library.Gives m w rounds (levels + 2) s names
      (.binary .same (Library.masked "ipaddr") (Library.masked "pattern"))
      (.bool (addressBits t &&& addressBits mask == addressBits pattern &&& addressBits mask)) := by
    refine Expr.binary_yields (masked rfl) (masked rfl) ?_
    rw [binary, Value.same, Number.equal_ofBits]
    exact .pure _ _
  exact compared.returned

end

end Script.Machine.Furnished

end ProxyAutoConfig
