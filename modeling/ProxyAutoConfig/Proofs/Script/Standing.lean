import ProxyAutoConfig.Proofs.Script.Discipline.Calls
import ProxyAutoConfig.Proofs.Script.GlobalObject
import ProxyAutoConfig.Proofs.Script.Names

/-!
# Names that stand for a function

A name stands for a function when the property of the global object under its key holds a reference
to that function (`Stands`). It goes on to stand for the function as long as all syntax that runs
spares the name: syntax that neither declares the name nor assigns to it, and that writes to no
member of the global object that has the name for its key (`Touch.Spares`). Where the name is free
and stands for a function, a call of the name is a call of that function (`Stands.call_name`).

Functions may still have the name for themselves, as a parameter or a variable, as long as they do
nothing else with it than to assign to it, and make no functions (`Touch.Confines`): their calls have
the name in a scope of their own, and nothing else sees that scope.
-/

namespace ProxyAutoConfig.Script

open ProxyAutoConfig.Text

variable {x : Units}

/-! ## Syntax that spares a name -/

/-- **The member is not the name's property**: where its object turns out to be the global object,
its key turns out to be another one. -/
def Expr.Misses (x : Units) (o k : Expr) : Prop :=
  ∀ w frame m key after,
    (Target.member o k).eval w frame m = .ok (.member (.object Well.global) key) after →
      key ≠ Key.ofUnits x

/-- The key of a member, where it can be read off the syntax. -/
def Expr.key? : Expr → Option Key
  | .text u => some (Key.ofUnits u)
  | .number (.int n) => if 0 ≤ n ∧ n < 4294967295 then some (.index n.toNat) else none
  | _ => none

theorem Expr.eval_key? {k : Expr} {key found : Key} (known : k.key? = some key) {w : Surroundings}
    {frame : Frame} {v : Value} {m middle after : Machine} {call : Caller}
    (read : k.eval w frame m = .ok v middle)
    (converted : Eval.toKey call v middle = .ok found after) : found = key := by
  unfold Expr.key? at known
  split at known
  next u =>
    cases known
    simp only [Expr.eval] at read
    cases read
    cases converted
    rfl
  next n =>
    split at known
    next range =>
      cases known
      simp only [Expr.eval] at read
      cases read
      simp only [Eval.toKey, if_pos range] at converted
      cases converted
      rfl
    next => cases known
  next => cases known

/-- A member whose key can be read off the syntax, and is another one. -/
theorem Expr.misses_of_key? (o : Expr) {k : Expr} {key : Key} (known : k.key? = some key)
    (ne : key ≠ Key.ofUnits x) : Expr.Misses x o k := by
  intro w frame m found after outcome
  simp only [Target.eval] at outcome
  obtain ⟨object, _, _, behind⟩ := Outcome.exists_of_bind_ok outcome
  obtain ⟨v, _, read, converts⟩ := Outcome.exists_of_bind_ok behind
  obtain ⟨_, _, converted, last⟩ := Outcome.exists_of_bind_ok converts
  cases last
  unfold Eval.memberKey at converted
  split at converted
  · obtain ⟨_, _, failed, _⟩ := Outcome.exists_of_bind_ok converted
    obtain ⟨_, _, _, thrown⟩ := Outcome.exists_of_bind_ok failed
    cases thrown
  · rw [Expr.eval_key? known read converted]
    exact ne

/-- **The syntax spares the name**: this touch of it does. -/
def Touch.Spares (x : Units) : Touch → Prop
  | .declare y | .assign y => y ≠ x
  | .write o k => Expr.Misses x o k
  | .closure => True

/-- It can be seen that the syntax spares the name. -/
def Touch.seenToSpare (x : Units) : Touch → Bool
  | .declare y | .assign y => y != x
  | .write _ k => k.key?.any (· != Key.ofUnits x)
  | .closure => true

theorem Touch.spares_of_seenToSpare {t : Touch} (seen : t.seenToSpare x) : t.Spares x := by
  cases t with
  | declare y | assign y => exact bne_iff_ne.mp seen
  | closure => trivial
  | write o k =>
    rw [Touch.seenToSpare] at seen
    cases known : k.key? with
    | none =>
      rw [known] at seen
      cases seen
    | some key =>
      rw [known] at seen
      exact Expr.misses_of_key? o known (bne_iff_ne.mp seen)

/-- The syntax assigns to the name at most, and makes no functions. -/
def Touch.Confines (x : Units) : Touch → Prop
  | .declare _ | .closure => False
  | .assign _ => True
  | .write o k => Expr.Misses x o k

/-- **A function that spares the name**, with all functions in it. -/
def Function.Spares (f : Function) (x : Units) : Prop :=
  ∀ t ∈ f.touches, t.Spares x

/-- A function that spares the name does not have it in the scope of its calls. -/
theorem Function.Spares.absent {f : Function} (spares : f.Spares x) (arguments : List Value)
    {all : Option Value} (given : all.isSome = (f.info.usesArguments && !f.info.arrow)) :
    (Eval.functionNames f arguments all).lookup x = none := by
  have named {y : Units} (mem : y ∈ f.info.names) : y ≠ x :=
    spares (.declare y) (Function.declare_mem_touches mem)
  have declared {y : Units} (mem : .declare y ∈ Stmt.allTouches f.body) : y ≠ x :=
    spares (.declare y) (f.body_subset_touches mem)
  rw [← Option.not_isSome_iff_eq_none, Scope.isSome_lookup_functionNames]
  rintro (mem | ⟨seen, same⟩ | mem | ⟨g, mem, same⟩ | ⟨b, mem, same⟩)
  · exact named (by simp [FunctionInfo.names, mem]) rfl
  · rw [given] at seen
    exact named (by simp [FunctionInfo.names, seen]) same.symm
  · exact named (by simp [FunctionInfo.names, mem]) rfl
  · refine declared (Stmt.touches_subset_of_mem_functions mem ?_) same.symm
    rw [Stmt.touches]
    exact List.mem_cons_self
  · exact declared (Stmt.declare_mem_of_mem_unstarted mem) same.symm

/-- A function that has the name for itself. -/
def Function.Confines (f : Function) (x : Units) : Prop :=
  x ∈ f.info.parameters ++ f.info.hoisted ∧ ∀ t ∈ Stmt.allTouches f.body, t.Confines x

/-- **A program that spares the name.** -/
def Program.Spares (program : Program) (x : Units) : Prop :=
  ∀ t ∈ program.touches, t.Spares x

theorem Program.spares_of_seenToSpare {program : Program}
    (seen : program.touches.all (Touch.seenToSpare x)) : program.Spares x :=
  fun t mem => Touch.spares_of_seenToSpare (List.all_eq_true.mp seen t mem)

/-! ## The discipline -/

/-- What a name may stand for in a function that is in the heap. -/
structure Function.Lawful (x : Units) (scopes : Array Scope) (f : Function) (s : Nat) : Prop where
  free : Scope.Free x scopes s
  tame : f.Spares x ∨ f.Confines x

/-- **The name is left alone**: all functions of scripts spare the name or have it for themselves,
and the global object is one that holds nothing but its properties. -/
structure Apart (x : Units) (objects : Array Object) (scopes : Array Scope) : Prop where
  plain : ∃ o, objects[Well.global]? = some o ∧ o.kind = .plain
  lawful : ∀ (q : Ref) (o : Object) f s self, objects[q]? = some o → o.code? = some (.script f s self) →
    f.Lawful x scopes s

/-- The property of the global object under the name holds a reference to the function. -/
structure Refers (x : Units) (r : Ref) (code : Code) (objects : Array Object) : Prop where
  global : ∃ o p, objects[Well.global]? = some o ∧ o.properties.lookup (Key.ofUnits x) = some p ∧
    p.value = .object r
  function : ∃ o, objects[r]? = some o ∧ o.code? = some code

/-- **The name stands for the function**, and is left alone. -/
structure Stands (x : Units) (r : Ref) (code : Code) (objects : Array Object)
    (scopes : Array Scope) : Prop extends Apart x objects scopes, Refers x r code objects

namespace Apart

variable {q : Ref} {objects : Array Object} {scopes : Array Scope} (apart : Apart x objects scopes)
include apart

theorem global_lt : Well.global < objects.size := by
  obtain ⟨_, there, _⟩ := apart.plain
  exact (Array.getElem?_eq_some_iff.mp there).1

theorem later {scopes' : Array Scope} (later : Scope.Later x scopes scopes') :
    Apart x objects scopes' :=
  ⟨apart.plain, fun q o f s self there held =>
    have lawful := apart.lawful q o f s self there held
    ⟨later.free lawful.free, lawful.tame⟩⟩

/-- An object is made. -/
theorem push {o : Object}
    (lawful : ∀ f s self, o.code? = some (.script f s self) → f.Lawful x scopes s) :
    Apart x (objects.push o) scopes := by
  refine ⟨?_, fun q' o' f s self there held => ?_⟩
  · rw [Array.getElem?_push, if_neg (Nat.ne_of_lt apart.global_lt)]
    exact apart.plain
  · rw [Array.getElem?_push] at there
    split at there
    · cases there
      exact lawful f s self held
    · exact apart.lawful q' o' f s self there held

/-- **An object is changed**: it becomes no function, and the global object stays what it is. -/
theorem modify {g : Object → Object} (tame : Object.Tame g)
    (plain : q = Well.global → ∀ o, o.kind = .plain → (g o).kind = .plain) :
    Apart x (objects.modify q g) scopes := by
  refine ⟨?_, fun q' o' f s self there held => ?_⟩
  · obtain ⟨o, there, kind⟩ := apart.plain
    rw [Array.getElem?_modify]
    split
    next same => exact ⟨g o, by rw [there, Option.map_some], plain same o kind⟩
    next => exact ⟨o, there, kind⟩
  · rw [Array.getElem?_modify] at there
    split at there
    next same =>
      obtain ⟨before, here, rfl⟩ := Option.map_eq_some_iff.mp there
      rcases tame before with uncalled | kept
      · rw [uncalled] at held
        cases held
      · exact apart.lawful q' before f s self here (kept ▸ held)
    next => exact apart.lawful q' o' f s self there held

end Apart

namespace Refers

section

variable {r q : Ref} {code : Code} {objects : Array Object} (refers : Refers x r code objects)
include refers

theorem function_lt : r < objects.size := by
  obtain ⟨_, there, _⟩ := refers.function
  exact (Array.getElem?_eq_some_iff.mp there).1

theorem push (o : Object) : Refers x r code (objects.push o) := by
  obtain ⟨_, _, there, _⟩ := refers.global
  have within : Well.global < objects.size := (Array.getElem?_eq_some_iff.mp there).1
  refine ⟨?_, ?_⟩
  · rw [Array.getElem?_push, if_neg (Nat.ne_of_lt within)]
    exact refers.global
  · rw [Array.getElem?_push, if_neg (Nat.ne_of_lt refers.function_lt)]
    exact refers.function

/-- **An object is changed**: the function keeps its code, and the global object its property. -/
theorem modify {g : Object → Object} (function : q = r → ∀ o, (g o).code? = o.code?)
    (global : q = Well.global → ∀ o,
      (g o).properties.lookup (Key.ofUnits x) = o.properties.lookup (Key.ofUnits x)) :
    Refers x r code (objects.modify q g) := by
  refine ⟨?_, ?_⟩
  · obtain ⟨o, p, there, known, value⟩ := refers.global
    rw [Array.getElem?_modify]
    split
    next same =>
      exact ⟨g o, p, by rw [there, Option.map_some], (global same o).trans known, value⟩
    next => exact ⟨o, p, there, known, value⟩
  · obtain ⟨o, there, held⟩ := refers.function
    rw [Array.getElem?_modify]
    split
    next same => exact ⟨g o, by rw [there, Option.map_some], (function same o).trans held⟩
    next => exact ⟨o, there, held⟩

end

/-- The global object gets a property that holds a reference to a function. -/
theorem of_define {r : Ref} {code : Code} {objects : Array Object} {p : Property}
    (global : ∃ o, objects[Well.global]? = some o)
    (function : ∃ o, objects[r]? = some o ∧ o.code? = some code) (value : p.value = .object r) :
    Refers x r code (objects.modify Well.global (·.define (Key.ofUnits x) p)) := by
  refine ⟨?_, ?_⟩
  · obtain ⟨o, there⟩ := global
    refine ⟨o.define (Key.ofUnits x) p, p, ?_, Object.lookup_insert_self _ _ _, value⟩
    rw [Array.getElem?_modify, if_pos rfl, there, Option.map_some]
  · obtain ⟨o, there, held⟩ := function
    rw [Array.getElem?_modify]
    split
    next => exact ⟨o.define (Key.ofUnits x) p, by rw [there, Option.map_some], held⟩
    next => exact ⟨o, there, held⟩

end Refers

/-- **The discipline of a name** that is left alone, and stands for the function if one is known. -/
def Discipline.about (x : Units) (known : Option (Ref × Code)) : Discipline where
  holds objects scopes :=
    Apart x objects scopes ∧ ∀ r code, known = some (r, code) → Refers x r code objects
  later := Scope.Later x
  mine q := q ≠ Well.global ∧ ∀ r code, known = some (r, code) → q ≠ r
  free k := known.isSome → k ≠ Key.ofUnits x
  lawful scopes f s := f.Lawful x scopes s
  later_refl := .refl x
  later_trans := .trans
  holds_later later holds := ⟨holds.1.later later, holds.2⟩
  lawful_later later lawful := ⟨later.free lawful.free, lawful.tame⟩
  mine_new holds := ⟨Nat.ne_of_gt holds.1.global_lt,
    fun r code same => Nat.ne_of_gt (holds.2 r code same).function_lt⟩
  mine_held {objects scopes q o} holds there special uncalled := by
    refine ⟨?_, ?_⟩
    · rintro rfl
      obtain ⟨_, same, plain⟩ := holds.1.plain
      rw [there] at same
      cases same
      exact special plain
    · rintro r code same rfl
      obtain ⟨_, here, held⟩ := (holds.2 q code same).function
      rw [there] at here
      cases here
      rw [uncalled] at held
      cases held
  free_of_mine mine global := absurd global mine.1
  lawful_held holds there held := holds.1.lawful _ _ _ _ _ there held
  push holds code := ⟨holds.1.push code, fun r c same => (holds.2 r c same).push _⟩
  modify holds mine tame := ⟨holds.1.modify tame fun same => absurd same mine.1, fun r code same =>
    (holds.2 r code same).modify (fun is => absurd is (mine.2 r code same))
      fun is => absurd is mine.1⟩
  modify_within holds free within :=
    ⟨holds.1.modify (fun o => .inr (within.code o)) fun _ => within.plain, fun r code same =>
      (holds.2 r code same).modify (fun _ => within.code) fun is o =>
        within.others o _ (free is (same ▸ rfl)).symm⟩

/-- **The discipline under which the name stands for the function.** -/
def Discipline.standing (x : Units) (r : Ref) (code : Code) : Discipline :=
  .about x (some (r, code))

/-- Where no function is known, that the name is left alone is all there is to it. -/
theorem Apart.about_none {objects : Array Object} {scopes : Array Scope}
    (apart : Apart x objects scopes) : (Discipline.about x none).holds objects scopes :=
  ⟨apart, fun _ _ known => absurd known (Option.some_ne_none _).symm⟩

theorem Discipline.standing_holds {r : Ref} {code : Code} {objects : Array Object}
    {scopes : Array Scope} :
    (standing x r code).holds objects scopes ↔ Stands x r code objects scopes := by
  constructor
  · rintro ⟨apart, refers⟩
    exact ⟨apart, refers r code rfl⟩
  · intro stands
    refine ⟨stands.toApart, ?_⟩
    rintro _ _ ⟨⟩
    exact stands.toRefers

namespace Discipline.about

/-- As long as no function is known, the global object may have whatever it likes. -/
theorem free_none (x : Units) (k : Key) : (Discipline.about x none).free k :=
  fun known => absurd known Bool.false_ne_true

variable (x) (known : Option (Ref × Code))

/-- The scopes in which the name is free, with syntax that spares it. -/
def site : (Discipline.about x known).Site where
  here s := ⟨fun scopes => Scope.Free x scopes s, fun later => later.free⟩
  allows t := t.Spares x
  child {scopes s names} free some' allowed := by
    have absent : names.lookup x = none := by
      rw [List.lookup_eq_none_iff]
      exact fun b mem => bne_iff_ne.mpr (allowed b mem).symm
    exact ⟨.push x scopes _, free.child absent⟩
  copy {scopes s} free := by
    obtain ⟨scope, here, _⟩ := free.exists_scope
    rw [here]
    exact ⟨.push x scopes scope, free.copy here⟩
  bind b _ allowed := .bind b fun same => absurd same allowed
  assign b _ allowed _ := .bind b fun same => absurd same allowed
  outside _ allowed _ := fun _ same => allowed (Key.ofUnits_injective same)
  global allowed := fun _ same => allowed (Key.ofUnits_injective same)
  function free _ touches := ⟨free, .inl touches⟩
  write misses outcome := fun _ => misses _ _ _ _ _ outcome

/-- The scopes that know the name themselves, with syntax that assigns to it at most. -/
def confined : (Discipline.about x known).Site where
  here s := ⟨fun scopes => Scope.Knows x scopes s, fun later => later.knows⟩
  allows t := t.Confines x
  child {scopes s names} knows some' allowed := by
    obtain ⟨b, rest, rfl⟩ := List.exists_cons_of_ne_nil some'
    exact (allowed b List.mem_cons_self).elim
  copy {scopes s} knows := by
    obtain ⟨scope, here, held⟩ := knows
    rw [here]
    exact ⟨.push x scopes scope, .child held⟩
  bind _ _ allowed := allowed.elim
  assign {scopes s y t old} b knows _ found := by
    refine .bind b ?_
    rintro rfl
    obtain ⟨_, same⟩ := knows.find_eq_some scopes.size
    rw [same] at found
    cases found
    exact knows
  outside {scopes s y} knows _ unknown := by
    intro _ same
    obtain ⟨_, found⟩ := knows.find_eq_some scopes.size
    rw [Key.ofUnits_injective same, found] at unknown
    cases unknown
  global allowed := allowed.elim
  function _ allowed := allowed.elim
  write misses outcome := fun _ => misses _ _ _ _ _ outcome

/-- **Every function runs at one of the two sites.** -/
theorem enters : (Discipline.about x known).Enters := by
  intro f
  by_cases spares : f.Spares x
  · refine ⟨site x known, fun scopes s lawful => ⟨?_, fun arguments all given => ?_⟩⟩
    · exact fun t mem => spares t (f.body_subset_touches mem)
    · exact ⟨.push x scopes _, lawful.free.child (spares.absent arguments given)⟩
  · refine ⟨confined x known, fun scopes s lawful => ?_⟩
    obtain ⟨known, touches⟩ := lawful.tame.resolve_left spares
    refine ⟨touches, fun arguments all _ => ⟨.push x scopes _, .child ?_⟩⟩
    rw [Scope.isSome_lookup_functionNames]
    rcases List.mem_append.mp known with mem | mem
    · exact .inl mem
    · exact .inr (.inr (.inl mem))

end Discipline.about

/-! ## Calls of the name -/

/-- A call of a function runs its code. -/
theorem Eval.perform_apply {m : Machine} {r : Ref} {o : Object} {code : Code}
    (there : m.objects[r]? = some o) (held : o.code? = some code) (h : Embedding)
    (lower beside : Caller) (self : Value) (arguments : List Value) :
    perform h lower beside (.apply (.object r) self arguments) m =
      applyCode h lower beside code self arguments m := by
  have known : code? (.object r) m = .ok (some code) m := by
    show EStateM.Result.ok (Object.code? (m.objects[r]?.getD default)) m = _
    rw [there, Option.getD_some, held]
  rw [perform, Outcome.bind_of_ok known]

/-- **A name that is free is read from the global object.** -/
theorem Refers.lookup_eq {r : Ref} {code : Code} {m : Machine} (refers : Refers x r code m.objects)
    (plain : ∃ o, m.objects[Well.global]? = some o ∧ o.kind = .plain) {s : Nat}
    (free : Scope.Free x m.scopes s) : Eval.lookup s x m = .ok (.object r) m := by
  obtain ⟨o, p, there, held, value⟩ := refers.global
  have plain : o.kind = .plain := by
    obtain ⟨_, same, plain⟩ := plain
    rw [there] at same
    cases same
    exact plain
  have own : o.own? (Key.ofUnits x) = some p := (Object.own?_of_plain plain).trans held
  have found : Eval.findProperty m.objects (Key.ofUnits x) (m.objects.size + 1) Well.global =
      some p := by
    simp only [Eval.findProperty, there, own]
  have known : Eval.lookup? s x m = .ok (some (.object r)) m := by
    rw [Eval.lookup?, Eval.bind_binding?, free.find_eq_none]
    show EStateM.Result.ok ((Eval.findProperty _ _ _ _).map _) _ = _
    rw [found, Option.map_some, value]
  rw [Eval.lookup, Outcome.bind_of_ok known]
  rfl

namespace Stands

variable {r : Ref} {code : Code} {m : Machine} (stands : Stands x r code m.objects m.scopes)
include stands

/-- **A call of the name is a call of the function** that it stands for. -/
theorem call_name {w : Surroundings} {frame : Frame} (free : Scope.Free x m.scopes frame.scope)
    (arguments : List Expr) :
    (Expr.call (.name x) arguments).eval w frame m =
      (do
        let values ← Expr.evalAll w arguments frame
        w.call (.apply (.object r) .undefined values)) m := by
  simp only [Expr.eval]
  exact Outcome.bind_of_ok (stands.toRefers.lookup_eq stands.plain free)

end Stands

end ProxyAutoConfig.Script
