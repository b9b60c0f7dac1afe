import ProxyAutoConfig.Proofs.Native.Fault
import ProxyAutoConfig.Proofs.Native.Serving

/-!
# Giving scripts a table

The table is checked as a whole before the first host function is added, so a table with a fault changes
nothing. Of a table without one the host functions are added in order, each as a new object and as a
property of the global object under its name. The check does not know which names the global object has
for good: at one of them the adding ends, with the functions in front of it added.

**The law** (`enrol_checks_first`): what comes of giving scripts a table, and what it leaves behind.
-/

namespace ProxyAutoConfig

open ProxyAutoConfig.Script ProxyAutoConfig.Text

/-! ## Host functions in order -/

namespace NativeTable

variable {table front rest : NativeTable} {native : Native} {m after : Machine} {index i : Nat}

/-- Give scripts the functions of a table from a place on, and keep the machine that is left, also where
one of them cannot be given. -/
def give (m : Machine) (index : Nat) : NativeTable → Outcome Unit × Machine
  | [] => (.ok (), m)
  | native :: rest =>
    match Eval.finish (Realm.addHost native.name native.length index) m with
    | (.ok _, m) => give m (index + 1) rest
    | (.error (.shown text), m) | (.error (.broken text), m) =>
      (.error (.nativeRegistration native.name text), m)

/-- It ends as giving the table does. -/
theorem register_eq : register m index table =
    match give m index table with
    | (.ok _, after) => .ok after
    | (.error failure, _) => .error failure := by
  induction table generalizing m index with
  | nil => rfl
  | cons native rest ih =>
    rw [register, give]
    rcases Eval.finish (Realm.addHost native.name native.length index) m with
      ⟨⟨text | message⟩ | added, after⟩
    · rfl
    · rfl
    · exact ih

/-- **Scripts have been given a table** from a place on: every entry is a new object, in the order of
the table, and the property of its name holds it. The other properties of the global object, the other
objects and the scopes are those that were there. -/
structure Given (m : Machine) (index : Nat) (table : NativeTable) (after : Machine) : Prop where
  function : ∀ i native, table[i]? = some native →
    after.objects[m.objects.size + i]? = some (native.object (index + i))
  property : ∀ i native, table[i]? = some native →
    after.global? native.key = some (.hidden (.object (m.objects.size + i)))
  others : ∀ k, (∀ native ∈ table, native.key ≠ k) → after.global? k = m.global? k
  objects : ∀ r < m.objects.size, r ≠ Well.global → after.objects[r]? = m.objects[r]?
  scopes : after.scopes = m.scopes
  global : after.HasGlobal

theorem Given.nil (global : m.HasGlobal) : Given m index [] m :=
  ⟨nofun, nofun, fun _ _ => rfl, fun _ _ _ => rfl, rfl, global⟩

/-- One more host function in front. -/
theorem Given.cons (had : m.HasGlobal) (single : ∀ other ∈ rest, other.key ≠ native.key)
    (given : Given (native.addedTo index m) (index + 1) rest after) :
    Given m index (native :: rest) after := by
  constructor
  case function =>
    intro i other entry
    cases i with
    | zero =>
      cases entry
      have old : m.objects.size < (native.addedTo index m).objects.size :=
        Native.size_addedTo ▸ Nat.lt_succ_self _
      exact (given.objects _ old (Nat.ne_of_gt had.lt)).trans (Native.getElem?_addedTo_self had)
    | succ i =>
      have later := given.function i other entry
      rwa [Native.size_addedTo, Nat.succ_add_eq_add_succ, Nat.succ_add_eq_add_succ] at later
  case property =>
    intro i other entry
    cases i with
    | zero =>
      cases entry
      rw [given.others _ single, Native.global?_addedTo had, if_pos rfl]
      rfl
    | succ i =>
      have later := given.property i other entry
      rwa [Native.size_addedTo, Nat.succ_add_eq_add_succ] at later
  case others =>
    intro k apart
    obtain ⟨here, behind⟩ := List.forall_mem_cons.mp apart
    rw [given.others k behind, Native.global?_addedTo had, if_neg (Ne.symm here)]
  case objects =>
    intro r old other
    have later : r < (native.addedTo index m).objects.size :=
      Native.size_addedTo ▸ Nat.lt_succ_of_lt old
    rw [given.objects r later other, Native.getElem?_addedTo old other]
  case scopes => exact given.scopes
  case global => exact given.global

/-- An object that is made besides changes none of this. -/
theorem Given.withObject (given : Given m index table after) (o : Object) :
    Given m index table (after.withObject o) := by
  have kept : ∀ {r o'}, after.objects[r]? = some o' → (after.withObject o).objects[r]? = some o' :=
    fun there => (Machine.getElem?_withObject (Array.getElem?_eq_some_iff.mp there).1).trans there
  constructor
  case function => exact fun i native entry => kept (given.function i native entry)
  case property =>
    intro i native entry
    rw [Machine.global?_withObject given.global, given.property i native entry]
  case others =>
    intro k apart
    rw [Machine.global?_withObject given.global, given.others k apart]
  case objects =>
    intro r old other
    have there := given.objects r old other
    rw [Array.getElem?_eq_getElem old] at there ⊢
    exact kept there
  case scopes => exact given.scopes
  case global => exact given.global.withObject o

/-- **A table is given as a whole** where no name in it is one that the global object has for good. -/
theorem exists_give (index : Nat) (had : m.HasGlobal) (distinct : table.names.Nodup)
    (free : ∀ native ∈ table, ¬ m.Fixes native.key) :
    ∃ after, give m index table = (.ok (), after) ∧ Given m index table after := by
  induction table generalizing m index with
  | nil => exact ⟨m, rfl, .nil had⟩
  | cons native rest ih =>
    obtain ⟨new, distinct⟩ := List.nodup_cons.mp distinct
    obtain ⟨here, behind⟩ := List.forall_mem_cons.mp free
    have single : ∀ other ∈ rest, other.key ≠ native.key := fun other mem same =>
      new (List.mem_map.mpr ⟨other, mem, Native.name_eq_of_key_eq same⟩)
    have free' : ∀ other ∈ rest, ¬ (native.addedTo index m).Fixes other.key := by
      rintro other mem ⟨p, found, fixed⟩
      rw [Native.global?_addedTo had, if_neg (single other mem)] at found
      exact behind other mem ⟨p, found, fixed⟩
    obtain ⟨after, gave, given⟩ :=
      ih (index + 1) (Native.hasGlobal_addedTo had) distinct free'
    refine ⟨after, ?_, .cons had single given⟩
    rw [give, Eval.finish, Native.addHost_of_free here]
    exact gave

/-- The front of a table is given first. -/
theorem give_append (gave : give m index front = (.ok (), after)) :
    give m index (front ++ rest) = give after (index + front.length) rest := by
  induction front generalizing m index with
  | nil =>
    cases gave
    rfl
  | cons native front ih =>
    rw [List.cons_append, give]
    rw [give] at gave
    split at gave
    · next m' added =>
      rw [ih gave, List.length_cons, Nat.succ_add_eq_add_succ]
    · cases gave
    · cases gave

/-- **At a name that the global object has for good the giving ends**, with what stands in front of it
given. -/
theorem exists_give_of_fixed {entry : Native} (index : Nat) (had : m.HasGlobal)
    (distinct : (names (front ++ entry :: rest)).Nodup)
    (fixed : m.Fixes entry.key) (free : ∀ earlier ∈ front, ¬ m.Fixes earlier.key) :
    ∃ text after, give m index (front ++ entry :: rest) =
        (.error (.nativeRegistration entry.name text), after) ∧ Given m index front after := by
  have parts : names (front ++ entry :: rest) = names front ++ names (entry :: rest) :=
    List.map_append
  obtain ⟨first, -, apart⟩ := List.nodup_append.mp (parts ▸ distinct)
  obtain ⟨before, gave, given⟩ := exists_give index had first free
  have others : ∀ earlier ∈ front, earlier.key ≠ entry.key := fun earlier mem same =>
    apart _ (List.mem_map_of_mem mem) _ List.mem_cons_self (Native.name_eq_of_key_eq same)
  have fixed' : before.Fixes entry.key := by
    obtain ⟨p, found, fixed⟩ := fixed
    exact ⟨p, (given.others _ others).trans found, fixed⟩
  obtain ⟨text, o, refused⟩ := Native.exists_finish_addHost fixed' (i := index + front.length)
  refine ⟨text, before.withObject o, ?_, given.withObject o⟩
  rw [give_append gave, give, refused]

/-! ## The whole table -/

/-- Check a table, and then give it to scripts, with the machine that is left. -/
def enrol (m : Machine) (table : NativeTable) : Outcome Unit × Machine :=
  match table.flaw? [] with
  | some (name, reason) => (.error (.nativeRegistration name reason), m)
  | none => give m 0 table

/-- The names that the global object has for good. -/
def fixedNames : List String :=
  ["undefined", "NaN", "Infinity"]

/-- What every script finds has a global object -/
theorem hasGlobal_initial : Realm.initial.HasGlobal :=
  (Engine.initial_apart []).1.plain

/-- that has three properties for good. -/
theorem fixes_initial_iff : Realm.initial.Fixes native.key ↔ native.name ∈ fixedNames := by
  have each : (Realm.initial.objects[Well.global]?.getD default).properties.all fun entry =>
      entry.2.configurable ||
        (fixedNames.map fun name => Key.ofUnits (Units.ofString name)).contains entry.1 := by
    decide +kernel
  have here : fixedNames.all fun name =>
      (Realm.initial.global? (Key.ofUnits (Units.ofString name))).any (!·.configurable) := by
    decide +kernel
  obtain ⟨o, there, plain⟩ := hasGlobal_initial
  constructor
  · rintro ⟨p, found, fixed⟩
    rw [Machine.global?, there, Option.getD_some, Object.own?_of_plain plain] at found
    rw [there, Option.getD_some] at each
    obtain ⟨before, behind, same, -⟩ := List.lookup_eq_some_iff.mp found
    have kept := List.all_eq_true.mp each (native.key, p)
      (same ▸ List.mem_append_right before List.mem_cons_self)
    rw [fixed, Bool.false_or, List.contains_iff_mem] at kept
    obtain ⟨name, mem, same⟩ := List.mem_map.mp kept
    rwa [← Units.ofString_injective (Key.ofUnits_injective same)]
  · intro mem
    have fixed := List.all_eq_true.mp here _ mem
    cases found : Realm.initial.global? native.key with
    | none =>
      rw [← Native.key, found] at fixed
      cases fixed
    | some p =>
      rw [← Native.key, found] at fixed
      exact ⟨p, found, by simpa using fixed⟩

/-- **What comes of giving scripts a table**, and the machine that it leaves: the report of its first
fault, and nothing is changed; or it has none, and its entries are given up to the first one of a fixed
name, which is refused; or there is no such name, and all its entries are given. -/
inductive Registers (m : Machine) (table : NativeTable) : Outcome Unit → Machine → Prop
  | faulty {name reason : String} : FirstFault [] table name reason →
      Registers m table (.error (.nativeRegistration name reason)) m
  | refused {front rest : NativeTable} {entry : Native} {text : String} {after : Machine} :
      (∀ native ∈ table, IsIdentifier native.name) → table.names.Nodup →
      table = front ++ entry :: rest → entry.name ∈ fixedNames →
      (∀ earlier ∈ front, earlier.name ∉ fixedNames) → Given m 0 front after →
      Registers m table (.error (.nativeRegistration entry.name text)) after
  | given {after : Machine} :
      (∀ native ∈ table, IsIdentifier native.name) → table.names.Nodup →
      (∀ native ∈ table, native.name ∉ fixedNames) → Given m 0 table after →
      Registers m table (.ok ()) after

/-- Where there is a fixed name, there is a first one. -/
theorem exists_first_fixed (fixed : ¬ ∀ native ∈ table, native.name ∉ fixedNames) :
    ∃ front entry rest, table = front ++ entry :: rest ∧ entry.name ∈ fixedNames ∧
      ∀ earlier ∈ front, earlier.name ∉ fixedNames := by
  cases found : table.find? fun native => decide (native.name ∈ fixedNames) with
  | none =>
    refine absurd (fun native mem => ?_) fixed
    simpa using List.find?_eq_none.mp found native mem
  | some entry =>
    obtain ⟨here, front, rest, split, earlier⟩ := List.find?_eq_some_iff_append.mp found
    refine ⟨front, entry, rest, split, of_decide_eq_true here, fun other mem => ?_⟩
    simpa using earlier other mem

/-- The check lets a table of different identifiers through, and no other. -/
theorem flaw?_nil_eq_none_iff : flaw? [] table = none ↔
    (∀ native ∈ table, IsIdentifier native.name) ∧ table.names.Nodup := by
  rw [flaw?_eq_none_iff]
  exact and_congr_right fun _ => and_iff_left fun _ _ => List.not_mem_nil

/-- **A table is given to a machine in one of these ways**, where its global object has the fixed names
and no other for good. -/
theorem registers_enrol (had : m.HasGlobal)
    (fixes : ∀ native : Native, m.Fixes native.key ↔ native.name ∈ fixedNames)
    (table : NativeTable) : Registers m table (enrol m table).1 (enrol m table).2 := by
  cases report : table.flaw? [] with
  | some entry =>
    rw [enrol, report]
    exact .faulty (flaw?_eq_some_iff.mp report)
  | none =>
    obtain ⟨identifiers, distinct⟩ := flaw?_nil_eq_none_iff.mp report
    have same : enrol m table = give m 0 table := by rw [enrol, report]
    rw [same]
    by_cases free : ∀ native ∈ table, native.name ∉ fixedNames
    · obtain ⟨after, gave, given⟩ := exists_give 0 had distinct
        fun native mem => mt (fixes native).mp (free native mem)
      rw [gave]
      exact .given identifiers distinct free given
    · obtain ⟨front, entry, rest, rfl, fixed, earlier⟩ := exists_first_fixed free
      obtain ⟨text, after, gave, given⟩ := exists_give_of_fixed 0 had distinct
        ((fixes entry).mpr fixed) fun other mem => mt (fixes other).mp (earlier other mem)
      rw [gave]
      exact .refused identifiers distinct rfl fixed earlier given

/-- An engine starts by giving scripts its table. -/
theorem start_eq_enrol (limits : Limits) (w : World) (content : String) :
    Engine.start table limits w content =
      match enrol Realm.initial table with
      | (.error failure, _) => .error failure
      | (.ok _, registered) => do
        let furnished ← Engine.loadLibrary table limits w registered
        let m ← Engine.loadScript table limits w content furnished
        return ⟨m, table, limits⟩ := by
  rw [Engine.start_eq, enrol]
  cases flaw? [] table with
  | some entry => rfl
  | none =>
    simp only [register_eq]
    rcases give Realm.initial 0 table with ⟨failure | _, after⟩ <;> rfl

/-- **A table is checked as a whole before it is given.** The check fails where some name is no
identifier or stands twice. What comes of the table is then the report of its first fault, with nothing
changed; and otherwise the entries are given in order, all of them or those in front of a fixed name. An
engine starts with what comes of it. -/
theorem enrol_checks_first (table : NativeTable) :
    (table.flaw? [] ≠ none ↔
      (∃ native ∈ table, ¬ IsIdentifier native.name) ∨ ¬ table.names.Nodup) ∧
    Registers Realm.initial table (enrol Realm.initial table).1 (enrol Realm.initial table).2 ∧
    ∀ limits w content, Engine.start table limits w content =
      match enrol Realm.initial table with
      | (.error failure, _) => .error failure
      | (.ok _, registered) => do
        let furnished ← Engine.loadLibrary table limits w registered
        let m ← Engine.loadScript table limits w content furnished
        return ⟨m, table, limits⟩ := by
  refine ⟨?_, registers_enrol hasGlobal_initial (fun _ => fixes_initial_iff) table, start_eq_enrol⟩
  rw [ne_eq, flaw?_nil_eq_none_iff, not_and_or]
  refine or_congr_left ?_
  simp only [not_forall, exists_prop]

/-- **The check lets a name through that cannot be given**: a table with the name `undefined` has no
fault, and no engine starts with it. -/
theorem not_registers_undefined :
    NativeTable.flaw? [] [Session.echo "undefined"] = none ∧
    ∃ text, (enrol Realm.initial [Session.echo "undefined"]).1 =
        .error (.nativeRegistration "undefined" text) ∧
      ∀ limits w content, Engine.start [Session.echo "undefined"] limits w content =
        .error (.nativeRegistration "undefined" text) := by
  have clean : NativeTable.flaw? [] [Session.echo "undefined"] = none := by decide +kernel
  obtain ⟨text, after, gave, -⟩ :=
    @exists_give_of_fixed [] [] Realm.initial (Session.echo "undefined") 0 hasGlobal_initial
      (by decide) (fixes_initial_iff.mpr List.mem_cons_self) (List.forall_mem_nil _)
  have enrolled : enrol Realm.initial [Session.echo "undefined"] =
      (.error (.nativeRegistration "undefined" text), after) := by
    rw [enrol, clean]
    exact gave
  refine ⟨clean, text, by rw [enrolled], fun limits w content => ?_⟩
  rw [start_eq_enrol, enrolled]

end NativeTable

end ProxyAutoConfig
