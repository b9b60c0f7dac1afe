import Mathlib.Data.List.Basic
import ProxyAutoConfig.Script.Calls

/-!
# Names in scopes

A name is free in a scope when neither the scope knows it nor any scope around (`Scope.Free`), and
then it stands for the property of the global object that has its key. Whether a name is free in the
scope of a function's calls depends on the names that the function declares
(`isSome_lookup_functionNames`).
-/

namespace ProxyAutoConfig.Script

open ProxyAutoConfig.Text

/-! ## Keys and scopes -/

/-- A text is the text of its key. -/
theorem Key.text_ofUnits (u : Units) : (Key.ofUnits u).text = u := by
  unfold Key.ofUnits
  split
  · split
    next canonical => exact canonical.2
    next => rfl
  · rfl

/-- **Two names have two keys.** -/
theorem Key.ofUnits_injective : Function.Injective Key.ofUnits :=
  Function.LeftInverse.injective Key.text_ofUnits

namespace Scope

theorem lookup_insert (x y : Units) (b : Binding) (names : List (Units × Binding)) :
    (insert y b names).lookup x = if x = y then some b else names.lookup x := by
  have mark (z : Units) : (x == z) = decide (x = z) := beq_eq_decide x z
  induction names with
  | nil =>
    rw [insert, List.lookup_cons, mark]
    by_cases same : x = y <;> simp only [same, decide_true, decide_false, if_true, if_false]
  | cons head rest ih =>
    obtain ⟨z, c⟩ := head
    rw [insert]
    by_cases here : z = y
    · subst here
      rw [if_pos rfl, List.lookup_cons, List.lookup_cons, mark]
      by_cases same : x = z <;> simp only [same, decide_true, decide_false, if_true, if_false]
    · rw [if_neg here, List.lookup_cons, List.lookup_cons, ih, mark]
      by_cases same : x = z
      · have other : x ≠ y := same ▸ here
        simp only [same, decide_true, if_neg (same ▸ other)]
      · simp only [same, decide_false]

/-- **The name is free in the scope**: neither the scope knows it nor any scope around. -/
inductive Free (x : Units) (scopes : Array Scope) : Nat → Prop
  | mk {s : Nat} {scope : Scope} : scopes[s]? = some scope → scope.names.lookup x = none →
      (∀ p, scope.parent = some p → Free x scopes p) → Free x scopes s

/-- The scope itself knows the name. -/
def Knows (x : Units) (scopes : Array Scope) (s : Nat) : Prop :=
  ∃ scope, scopes[s]? = some scope ∧ (scope.names.lookup x).isSome

variable {x : Units} {scopes : Array Scope} {s : Nat}

theorem Free.exists_scope (free : Free x scopes s) :
    ∃ scope, scopes[s]? = some scope ∧ scope.names.lookup x = none := by
  cases free with
  | mk here absent _ => exact ⟨_, here, absent⟩

/-- Nothing is found under a name that is free. -/
theorem Free.find_eq_none (free : Free x scopes s) (fuel : Nat) : find scopes x fuel s = none := by
  induction free generalizing fuel with
  | @mk s scope here absent _ ih =>
    cases fuel with
    | zero => rfl
    | succ fuel =>
      simp only [find, here, absent]
      cases parent : scope.parent with
      | none => rfl
      | some p => exact ih p parent fuel

/-- A name that the scope itself knows is found in it. -/
theorem Knows.find_eq_some (knows : Knows x scopes s) (fuel : Nat) :
    ∃ b, find scopes x (fuel + 1) s = some (s, b) := by
  obtain ⟨scope, here, held⟩ := knows
  obtain ⟨b, same⟩ := Option.isSome_iff_exists.mp held
  exact ⟨b, by simp only [find, here, same]⟩

theorem Free.push (free : Free x scopes s) (scope : Scope) : Free x (scopes.push scope) s := by
  induction free with
  | @mk s _ here absent _ ih =>
    have within : s < scopes.size := (Array.getElem?_eq_some_iff.mp here).1
    exact .mk (by rw [Array.getElem?_push, if_neg (Nat.ne_of_lt within), here]) absent ih

theorem Knows.push (knows : Knows x scopes s) (scope : Scope) : Knows x (scopes.push scope) s := by
  obtain ⟨_, here, held⟩ := knows
  have within : s < scopes.size := (Array.getElem?_eq_some_iff.mp here).1
  exact ⟨_, by rw [Array.getElem?_push, if_neg (Nat.ne_of_lt within), here], held⟩

/-- A name stays free when another name is bound, and when it is bound itself in a scope that knows
it already. -/
theorem Free.bind (free : Free x scopes s) {t : Nat} {y : Units} (b : Binding)
    (apart : y = x → Knows x scopes t) : Free x (scopes.modify t (·.bind y b)) s := by
  induction free with
  | @mk s scope here absent _ ih =>
    by_cases same : t = s
    · subst same
      have other : x ≠ y := by
        rintro rfl
        obtain ⟨_, there, held⟩ := apart rfl
        rw [here] at there
        cases there
        rw [absent] at held
        cases held
      refine @Free.mk x _ t (scope.bind y b) ?_ ?_ ih
      · rw [Array.getElem?_modify, if_pos rfl, here, Option.map_some]
      · rw [Scope.bind, lookup_insert, if_neg other, absent]
    · exact .mk (by rw [Array.getElem?_modify, if_neg same, here]) absent ih

theorem Knows.bind (knows : Knows x scopes s) (t : Nat) (y : Units) (b : Binding) :
    Knows x (scopes.modify t (·.bind y b)) s := by
  obtain ⟨scope, here, held⟩ := knows
  by_cases same : t = s
  · refine ⟨scope.bind y b, by rw [Array.getElem?_modify, if_pos same, here, Option.map_some], ?_⟩
    rw [Scope.bind, lookup_insert]
    split
    · rfl
    · exact held
  · exact ⟨scope, by rw [Array.getElem?_modify, if_neg same, here], held⟩

/-- **What stays true of a name in the scopes**: it stays free where it is free, and known where it
is known. -/
structure Later (x : Units) (a b : Array Scope) : Prop where
  free : ∀ {s}, Free x a s → Free x b s
  knows : ∀ {s}, Knows x a s → Knows x b s

namespace Later

theorem refl (x : Units) (scopes : Array Scope) : Later x scopes scopes :=
  ⟨id, id⟩

theorem trans {a b c : Array Scope} (first : Later x a b) (second : Later x b c) : Later x a c :=
  ⟨fun free => second.free (first.free free), fun knows => second.knows (first.knows knows)⟩

theorem push (x : Units) (scopes : Array Scope) (scope : Scope) :
    Later x scopes (scopes.push scope) :=
  ⟨fun free => free.push scope, fun knows => knows.push scope⟩

theorem bind {t : Nat} {y : Units} (b : Binding) (apart : y = x → Knows x scopes t) :
    Later x scopes (scopes.modify t (·.bind y b)) :=
  ⟨fun free => free.bind b apart, fun knows => knows.bind t y b⟩

end Later

/-- In a new scope within one in which the name is free, it is free unless the new one knows it. -/
theorem Free.child (free : Free x scopes s) {names : List (Units × Binding)}
    (absent : names.lookup x = none) :
    Free x (scopes.push ⟨names, some s⟩) scopes.size := by
  refine @Free.mk x _ _ ⟨names, some s⟩ ?_ absent ?_
  · rw [Array.getElem?_push, if_pos rfl]
  · rintro _ ⟨⟩
    exact free.push _

/-- In a copy of a scope the same names are free. -/
theorem Free.copy (free : Free x scopes s) {scope : Scope} (here : scopes[s]? = some scope) :
    Free x (scopes.push scope) scopes.size := by
  cases free with
  | mk there absent around =>
    rw [here] at there
    cases there
    refine @Free.mk x _ _ scope ?_ absent fun p parent => (around p parent).push scope
    rw [Array.getElem?_push, if_pos rfl]

theorem Knows.child {scope : Scope} (held : (scope.names.lookup x).isSome) :
    Knows x (scopes.push scope) scopes.size :=
  ⟨scope, by rw [Array.getElem?_push, if_pos rfl], held⟩

/-! ## The names of a function -/

theorem isSome_lookup_insert (x y : Units) (b : Binding) (names : List (Units × Binding)) :
    ((insert y b names).lookup x).isSome ↔ (names.lookup x).isSome ∨ x = y := by
  rw [lookup_insert]
  by_cases same : x = y <;> simp [same]

theorem isSome_lookup_of_any {y : Units} {names : List (Units × Binding)}
    (known : names.any (·.1 == y)) : (names.lookup y).isSome := by
  obtain ⟨b, mem, same⟩ := List.any_eq_true.mp known
  exact List.lookup_isSome_iff.mpr ⟨b, mem, beq_iff_eq.mpr (beq_iff_eq.mp same).symm⟩

/-- Names that are added one after the other are known besides those before. -/
theorem isSome_lookup_foldl {α : Type} {f : List (Units × Binding) → α → List (Units × Binding)}
    (key : α → Units) {x : Units}
    (step : ∀ names a, ((f names a).lookup x).isSome ↔ (names.lookup x).isSome ∨ x = key a)
    (added : List α) (names : List (Units × Binding)) :
    ((added.foldl f names).lookup x).isSome ↔ (names.lookup x).isSome ∨ ∃ a ∈ added, x = key a := by
  induction added generalizing names with
  | nil => simp
  | cons a rest ih => rw [List.foldl_cons, ih, step, List.exists_mem_cons_iff, or_assoc]

/-- **What a function knows in the scope of its calls**: its parameters and variables, its arguments
where it sees them, its own functions, and the names of its outermost block. -/
theorem isSome_lookup_functionNames (x : Units) (f : Function) (arguments : List Value)
    (all : Option Value) :
    ((Eval.functionNames f arguments all).lookup x).isSome ↔
      x ∈ f.info.parameters ∨ (all.isSome ∧ x = Eval.argumentsName) ∨ x ∈ f.info.hoisted ∨
        (∃ g ∈ Stmt.functions f.body, x = g.info.name) ∨
        ∃ b ∈ Eval.unstarted f.body, x = b.1 := by
  have add (names : List (Units × Binding)) (y : Units) (v : Value) (again : Bool) :
      ((if names.any (·.1 == y) && !again then names
        else insert y ⟨some v, .free⟩ names).lookup x).isSome ↔ (names.lookup x).isSome ∨ x = y := by
    split
    next known =>
      have known := isSome_lookup_of_any (Bool.and_eq_true_iff.mp known).1
      constructor
      · exact .inl
      · rintro (held | rfl)
        · exact held
        · exact known
    next => exact isSome_lookup_insert x y _ names
  have parameters : ((f.info.parameters.zipIdx.foldl (fun names parameter =>
      if names.any (·.1 == parameter.1) && !true then names
      else insert parameter.1 ⟨some (Eval.argument arguments parameter.2), .free⟩ names)
        []).lookup x).isSome ↔
        x ∈ f.info.parameters := by
    rw [isSome_lookup_foldl Prod.fst fun names a => add names a.1 _ true]
    conv => rhs; rw [← List.zipIdx_map_fst 0 f.info.parameters, List.mem_map]
    simp only [List.lookup_nil, Option.isSome_none, Bool.false_eq_true, false_or, eq_comm]
  unfold Eval.functionNames
  dsimp only
  rw [isSome_lookup_foldl Prod.fst fun names b => isSome_lookup_insert x b.1 b.2 names,
    isSome_lookup_foldl id fun names y => add names y .undefined false]
  have declared : (∃ y ∈ f.info.hoisted ++ (Stmt.functions f.body).map (·.info.name), x = id y) ↔
      x ∈ f.info.hoisted ∨ ∃ g ∈ Stmt.functions f.body, x = g.info.name := by
    simp only [id, exists_eq_right', List.mem_append, List.mem_map, eq_comm]
  cases all with
  | none =>
    rw [parameters, declared]
    simp only [Option.isSome_none, Bool.false_eq_true, false_and, false_or, or_assoc]
  | some v =>
    dsimp only
    rw [add, parameters, declared]
    simp only [Option.isSome_some, true_and, or_assoc]

end Scope

end ProxyAutoConfig.Script
