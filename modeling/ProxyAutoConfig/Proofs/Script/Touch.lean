import ProxyAutoConfig.Script.Program

/-!
# What syntax touches

The names that a piece of syntax declares or assigns to, the members that it gives values or takes
away, and whether it makes functions, in the functions within it too. Everything else that syntax
does looks at names and members only.

All of this is one list, so that a condition on what a piece of syntax touches is a condition on the
elements of the list, and the parts of the syntax meet it where the whole does.
-/

namespace ProxyAutoConfig.Script

open ProxyAutoConfig.Text

/-- A way in which syntax can change what a name or a member stands for. -/
inductive Touch where
  /-- A name is declared, in whatever scope. -/
  | declare (x : Units)
  /-- A name is assigned to or deleted. -/
  | assign (x : Units)
  /-- A member is assigned to or deleted. -/
  | write (object key : Expr)
  /-- A function is made. -/
  | closure

/-- The names that a function declares besides those which the statements of its body declare. -/
def FunctionInfo.names (info : FunctionInfo) : List Units :=
  info.parameters ++ info.hoisted ++
    (if info.usesArguments && !info.arrow then [Eval.argumentsName] else []) ++
    (if info.ownName then [info.name] else [])

mutual

/-- What an expression touches. -/
def Expr.touches : Expr → List Touch
  | .undefined | .null | .bool _ | .number _ | .text _ | .pattern _ | .name _ | .thisValue | .hole
  | .typeOfName _ => []
  | .array items => Expr.allTouches items
  | .object entries => Entry.allTouches entries
  | .function f => .closure :: f.touches
  | .unary _ e => e.touches
  | .delete t | .update _ _ t => t.touches
  | .binary _ a b | .logical _ a b | .sequence a b | .member a b => a.touches ++ b.touches
  | .conditional c a b => c.touches ++ a.touches ++ b.touches
  | .assign t e | .assignBinary _ t e | .assignLogical _ t e => t.touches ++ e.touches
  | .call f arguments | .new f arguments => f.touches ++ Expr.allTouches arguments
  | .callMember o k arguments => o.touches ++ k.touches ++ Expr.allTouches arguments

/-- What some expressions touch. -/
def Expr.allTouches : List Expr → List Touch
  | [] => []
  | e :: rest => e.touches ++ Expr.allTouches rest

/-- What a target touches once something is done to it. -/
def Target.touches : Target → List Touch
  | .name x => [.assign x]
  | .member o k => .write o k :: (o.touches ++ k.touches)

/-- What the entries of an object touch. -/
def Entry.allTouches : List Entry → List Touch
  | [] => []
  | .mk _ e :: rest => e.touches ++ Entry.allTouches rest

/-- What a function touches: the names that it declares, and what its body touches. -/
def Function.touches : Function → List Touch
  | .mk info body => info.names.map .declare ++ Stmt.allTouches body

/-- What a statement touches. -/
def Stmt.touches : Stmt → List Touch
  | .empty | .leave _ | .next _ => []
  | .expr e | .ret e | .throw e => e.touches
  | .declare kind x e => (if kind = .var then .assign x else .declare x) :: e.touches
  | .function f => .declare f.info.name :: .closure :: f.touches
  | .emptyClass x => [.declare x]
  | .many body | .block body => Stmt.allTouches body
  | .ifElse c a b => c.touches ++ a.touches ++ b.touches
  | .whileLoop c body | .doLoop body c => c.touches ++ body.touches
  | .forLoop start _ c update body =>
    start.touches ++ c.touches ++ update.touches ++ body.touches
  | .switch subject cases => subject.touches ++ Case.allTouches cases
  | .tryCatch body parameter handler =>
    parameter.toList.map .declare ++ Stmt.allTouches body ++ Stmt.allTouches handler
  | .tryFinally body last => body.touches ++ last.touches
  | .labeled _ body => body.touches

/-- What some statements touch. -/
def Stmt.allTouches : List Stmt → List Touch
  | [] => []
  | s :: rest => s.touches ++ Stmt.allTouches rest

/-- What the cases of a switch touch. -/
def Case.allTouches : List Case → List Touch
  | [] => []
  | .test e body :: rest => e.touches ++ Stmt.allTouches body ++ Case.allTouches rest
  | .default body :: rest => Stmt.allTouches body ++ Case.allTouches rest

end

/-- What a program touches: the names that it declares for the whole script, and what its statements
touch. -/
def Program.touches (program : Program) : List Touch :=
  program.hoisted.map .declare ++ Stmt.allTouches program.body

/-! ## Parts of syntax -/

theorem Function.touches_eq (f : Function) :
    f.touches = f.info.names.map .declare ++ Stmt.allTouches f.body := by
  cases f with
  | mk info body => simp only [Function.touches, Function.info, Function.body]

theorem Function.declare_mem_touches {f : Function} {x : Units} (mem : x ∈ f.info.names) :
    .declare x ∈ f.touches := by
  rw [f.touches_eq]
  exact List.mem_append_left _ (List.mem_map_of_mem mem)

theorem Function.body_subset_touches (f : Function) : Stmt.allTouches f.body ⊆ f.touches := by
  rw [f.touches_eq]
  exact List.subset_append_right _ _

namespace Stmt

theorem touches_subset_of_mem {body : List Stmt} {s : Stmt} (mem : s ∈ body) :
    s.touches ⊆ allTouches body := by
  induction body with
  | nil => cases mem
  | cons head rest ih =>
    rw [allTouches]
    rcases List.mem_cons.mp mem with rfl | mem
    · exact List.subset_append_left _ _
    · exact List.subset_append_of_subset_right _ (ih mem)

/-- What a function touches that statements declare, its name included. -/
theorem touches_subset_of_mem_functions {body : List Stmt} {f : Function}
    (mem : f ∈ functions body) : (Stmt.function f).touches ⊆ allTouches body := by
  obtain ⟨s, inBody, same⟩ := List.mem_filterMap.mp mem
  cases s <;> cases same
  exact touches_subset_of_mem inBody

theorem declare_mem_of_mem_declaresOne {s : Stmt} {kind : DeclarationKind} {x : Units}
    (mem : (kind, x) ∈ s.declaresOne) (ne : kind ≠ .var) : .declare x ∈ s.touches := by
  cases s with
  | declare _ _ e =>
    obtain ⟨rfl, rfl⟩ : kind = _ ∧ x = _ := by simpa only [declaresOne, List.mem_singleton,
      Prod.mk.injEq] using mem
    rw [touches, if_neg ne]
    exact List.mem_cons_self
  | emptyClass _ =>
    obtain ⟨rfl, rfl⟩ : kind = _ ∧ x = _ := by simpa only [declaresOne, List.mem_singleton,
      Prod.mk.injEq] using mem
    rw [touches]
    exact List.mem_cons_self
  | _ => cases mem

/-- The names of a block are declared by its statements. -/
theorem declare_mem_of_mem_unstarted {body : List Stmt} {b : Units × Binding}
    (mem : b ∈ Eval.unstarted body) : .declare b.1 ∈ allTouches body := by
  obtain ⟨⟨kind, x⟩, declared, rfl⟩ := List.mem_map.mp mem
  obtain ⟨declared, ne⟩ := List.mem_filter.mp declared
  obtain ⟨s, inBody, declared⟩ := List.mem_flatMap.mp declared
  have ne : kind ≠ .var := by simpa using ne
  refine touches_subset_of_mem inBody ?_
  cases s with
  | many parts =>
    obtain ⟨s, inParts, declared⟩ := List.mem_flatMap.mp declared
    rw [touches]
    exact touches_subset_of_mem inParts (declare_mem_of_mem_declaresOne declared ne)
  | _ => exact declare_mem_of_mem_declaresOne declared ne

theorem allTouches_append (a b : List Stmt) :
    allTouches (a ++ b) = allTouches a ++ allTouches b := by
  induction a with
  | nil => rw [allTouches, List.nil_append, List.nil_append]
  | cons s rest ih => rw [List.cons_append, allTouches, allTouches, ih, List.append_assoc]

/-- The cases of a switch share one block. -/
theorem allTouches_cases_subset (cases : List Case) :
    allTouches (cases.flatMap Case.statements) ⊆ Case.allTouches cases := by
  induction cases with
  | nil => exact List.Subset.refl _
  | cons c rest ih =>
    rw [List.flatMap_cons, allTouches_append]
    cases c with
    | test e body =>
      rw [Case.statements, Case.allTouches]
      exact List.append_subset.mpr
        ⟨List.subset_append_of_subset_left _ (List.subset_append_right _ _),
          List.subset_append_of_subset_right _ ih⟩
    | default body =>
      rw [Case.statements, Case.allTouches]
      exact List.append_subset.mpr
        ⟨List.subset_append_left _ _, List.subset_append_of_subset_right _ ih⟩

end Stmt

end ProxyAutoConfig.Script
