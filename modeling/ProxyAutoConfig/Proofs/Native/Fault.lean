import ProxyAutoConfig.Native.Table

/-!
# Faults of a table

A table of host functions has a fault where scripts could not write the name of an entry, and where an
entry has the name of an earlier one. The check goes through the table entry by entry and keeps the
names it has seen, so what it reports is the fault at the first place that has one
(`flaw?_eq_some_iff`), and what it lets pass is a table of identifiers that all differ
(`flaw?_eq_none_iff`).
-/

namespace ProxyAutoConfig.NativeTable

variable {table rest : NativeTable} {native : Native} {seen : List String} {name reason : String}
  {i : Nat}

/-! ## Identifiers -/

/-- A letter of ASCII, an underscore or a dollar sign. -/
def IsNameStart (c : Char) : Prop :=
  ('A' ≤ c ∧ c ≤ 'Z') ∨ ('a' ≤ c ∧ c ≤ 'z') ∨ c = '_' ∨ c = '$'

/-- **An identifier** of ASCII: one such character, and behind it such characters and digits. -/
def IsIdentifier (name : String) : Prop :=
  ∃ c cs, name.toList = c :: cs ∧ IsNameStart c ∧ ∀ d ∈ cs, IsNameStart d ∨ ('0' ≤ d ∧ d ≤ '9')

theorem beginsName_iff {c : Char} : beginsName c = true ↔ IsNameStart c := by
  have upper : c.isUpper = true ↔ 'A' ≤ c ∧ c ≤ 'Z' := decide_eq_true_iff
  have lower : c.isLower = true ↔ 'a' ≤ c ∧ c ≤ 'z' :=
    Bool.and_eq_true_iff.trans (and_congr decide_eq_true_iff decide_eq_true_iff)
  have parts : beginsName c = (c.isUpper || c.isLower || c == '_' || c == '$') := rfl
  rw [parts, Bool.or_eq_true, Bool.or_eq_true, Bool.or_eq_true, upper, lower, beq_iff_eq, beq_iff_eq,
    or_assoc, or_assoc]
  rfl

/-- **The check of a name** is the check for an identifier. -/
theorem isName_iff : isName name = true ↔ IsIdentifier name := by
  have digit : ∀ c : Char, c.isDigit = true ↔ '0' ≤ c ∧ c ≤ '9' := fun c =>
    Bool.and_eq_true_iff.trans (and_congr decide_eq_true_iff decide_eq_true_iff)
  unfold isName IsIdentifier
  cases name.toList with
  | nil => simp
  | cons c cs => simp [beginsName_iff, digit, and_assoc]

/-! ## Places -/

/-- **A fault at a place of a table**: the name of the entry there and what is wrong with it. An entry
whose name is no identifier counts as such also where the name has been there before; `seen` are the
names in front of the table. -/
inductive FaultAt (seen : List String) (table : NativeTable) (i : Nat) : String → String → Prop
  | unwritable {native : Native} : table[i]? = some native → ¬ IsIdentifier native.name →
      FaultAt seen table i native.name "not a valid identifier"
  | repeated {native : Native} : table[i]? = some native → IsIdentifier native.name →
      native.name ∈ seen ∨ native.name ∈ names (table.take i) →
      FaultAt seen table i native.name "registered twice"

/-- One thing is wrong at a place. -/
theorem FaultAt.unique {name' reason' : String} (fault : FaultAt seen table i name reason)
    (other : FaultAt seen table i name' reason') : name' = name ∧ reason' = reason := by
  cases fault with
  | unwritable here unwritable =>
    cases other with
    | unwritable there _ =>
      cases here.symm.trans there
      exact ⟨rfl, rfl⟩
    | repeated there written _ =>
      cases here.symm.trans there
      exact absurd written unwritable
  | repeated here written _ =>
    cases other with
    | unwritable there unwritable =>
      cases here.symm.trans there
      exact absurd written unwritable
    | repeated there _ _ =>
      cases here.symm.trans there
      exact ⟨rfl, rfl⟩

/-- An identifier that has not been seen is no fault at the first place. -/
theorem not_faultAt_zero (written : IsIdentifier native.name) (fresh : native.name ∉ seen)
    (name reason : String) : ¬ FaultAt seen (native :: rest) 0 name reason := by
  rintro (⟨here, unwritable⟩ | ⟨here, -, known | before⟩)
  · cases here
    exact unwritable written
  · cases here
    exact fresh known
  · cases before

/-- A fault at a later place is one of the rest, with the first name among those in front. -/
theorem faultAt_succ : FaultAt seen (native :: rest) (i + 1) name reason ↔
    FaultAt (native.name :: seen) rest i name reason := by
  have front : ∀ name : String, (name ∈ seen ∨ name ∈ names ((native :: rest).take (i + 1))) ↔
      (name ∈ native.name :: seen ∨ name ∈ names (rest.take i)) := by
    intro name
    rw [names, names, List.take_succ_cons, List.map_cons, List.mem_cons, List.mem_cons,
      or_left_comm, or_assoc]
  constructor
  · rintro (⟨here, unwritable⟩ | ⟨here, written, before⟩)
    · exact .unwritable here unwritable
    · exact .repeated here written ((front _).mp before)
  · rintro (⟨here, unwritable⟩ | ⟨here, written, before⟩)
    · exact .unwritable here unwritable
    · exact .repeated here written ((front _).mpr before)

/-- **The first fault of a table**: a fault at a place without one in front. -/
def FirstFault (seen : List String) (table : NativeTable) (name reason : String) : Prop :=
  ∃ i, FaultAt seen table i name reason ∧
    ∀ j < i, ∀ other wrong, ¬ FaultAt seen table j other wrong

/-- A fault of the first entry is the first one. -/
theorem firstFault_of_head {name' reason' : String}
    (head : FaultAt seen (native :: rest) 0 name' reason') :
    FirstFault seen (native :: rest) name reason ↔ name = name' ∧ reason = reason' := by
  constructor
  · rintro ⟨i, fault, earlier⟩
    cases i with
    | zero => exact head.unique fault
    | succ i => exact absurd head (earlier 0 (Nat.zero_lt_succ i) name' reason')
  · rintro ⟨rfl, rfl⟩
    exact ⟨0, head, fun j before => absurd before (Nat.not_lt_zero j)⟩

/-- Where the first entry has none, it is the first one of the rest. -/
theorem firstFault_cons (clean : ∀ other wrong, ¬ FaultAt seen (native :: rest) 0 other wrong) :
    FirstFault seen (native :: rest) name reason ↔
      FirstFault (native.name :: seen) rest name reason := by
  constructor
  · rintro ⟨i, fault, earlier⟩
    cases i with
    | zero => exact absurd fault (clean name reason)
    | succ i =>
      refine ⟨i, faultAt_succ.mp fault, fun j before other wrong there => ?_⟩
      exact earlier (j + 1) (Nat.succ_lt_succ before) other wrong (faultAt_succ.mpr there)
  · rintro ⟨i, fault, earlier⟩
    refine ⟨i + 1, faultAt_succ.mpr fault, fun j before other wrong there => ?_⟩
    cases j with
    | zero => exact clean other wrong there
    | succ j => exact earlier j (Nat.lt_of_succ_lt_succ before) other wrong (faultAt_succ.mp there)

/-! ## The check -/

/-- A name that scripts could not write is reported, -/
theorem flaw?_of_unwritable (unwritable : ¬ IsIdentifier native.name) :
    flaw? seen (native :: rest) = some (native.name, "not a valid identifier") := by
  rw [flaw?, Bool.eq_false_iff.mpr (mt isName_iff.mp unwritable)]
  rfl

/-- or else a name that is known, -/
theorem flaw?_of_known (written : IsIdentifier native.name) (known : native.name ∈ seen) :
    flaw? seen (native :: rest) = some (native.name, "registered twice") := by
  rw [flaw?, isName_iff.mpr written, List.contains_iff_mem.mpr known]
  rfl

/-- and with any other the check goes on. -/
theorem flaw?_of_fresh (written : IsIdentifier native.name) (fresh : native.name ∉ seen) :
    flaw? seen (native :: rest) = flaw? (native.name :: seen) rest := by
  have unknown : seen.contains native.name = false :=
    Bool.eq_false_iff.mpr (mt List.contains_iff_mem.mp fresh)
  rw [flaw?, isName_iff.mpr written, unknown]
  rfl

/-- **What is reported of a table is its first fault.** -/
theorem flaw?_eq_some_iff :
    flaw? seen table = some (name, reason) ↔ FirstFault seen table name reason := by
  induction table generalizing seen with
  | nil =>
    constructor
    · nofun
    · rintro ⟨i, ⟨here, -⟩ | ⟨here, -, -⟩, -⟩ <;> cases here
  | cons native rest ih =>
    have reported : ∀ reason', some (native.name, reason') = some (name, reason) ↔
        name = native.name ∧ reason = reason' := by
      intro reason'
      rw [Option.some.injEq, Prod.mk.injEq, eq_comm, @eq_comm _ reason']
    by_cases written : IsIdentifier native.name
    · by_cases known : native.name ∈ seen
      · rw [flaw?_of_known written known, reported,
          firstFault_of_head (.repeated rfl written (.inl known))]
      · rw [flaw?_of_fresh written known, ih, firstFault_cons (not_faultAt_zero written known)]
    · rw [flaw?_of_unwritable written, reported, firstFault_of_head (.unwritable rfl written)]

/-- **What is let through is a table of identifiers that all differ**, also from the names that were
seen before. -/
theorem flaw?_eq_none_iff : flaw? seen table = none ↔
    (∀ native ∈ table, IsIdentifier native.name) ∧ table.names.Nodup ∧
      ∀ name ∈ table.names, name ∉ seen := by
  induction table generalizing seen with
  | nil => simp only [flaw?, names, List.map_nil, List.nodup_nil, List.not_mem_nil, false_implies,
      implies_true, and_self]
  | cons native rest ih =>
    have parts : names (native :: rest) = native.name :: names rest := rfl
    rw [parts, List.nodup_cons, List.forall_mem_cons, List.forall_mem_cons]
    constructor
    · intro clean
      by_cases written : IsIdentifier native.name
      · by_cases known : native.name ∈ seen
        · rw [flaw?_of_known written known] at clean
          cases clean
        · rw [flaw?_of_fresh written known, ih] at clean
          obtain ⟨identifiers, distinct, fresh⟩ := clean
          refine ⟨⟨written, identifiers⟩, ⟨fun again => ?_, distinct⟩, known, fun name mem old => ?_⟩
          · exact fresh native.name again List.mem_cons_self
          · exact fresh name mem (List.mem_cons_of_mem _ old)
      · rw [flaw?_of_unwritable written] at clean
        cases clean
    · rintro ⟨⟨written, identifiers⟩, ⟨single, distinct⟩, known, fresh⟩
      rw [flaw?_of_fresh written known, ih]
      refine ⟨identifiers, distinct, fun name mem old => ?_⟩
      rcases List.mem_cons.mp old with rfl | old
      · exact single mem
      · exact fresh name mem old

end ProxyAutoConfig.NativeTable
