import ProxyAutoConfig.Proofs.Script.Standing

/-!
# Functions under way

What a call of a function does is told along its syntax, one rule for each form that occurs
(`Stmt.declare_yields`, `Expr.call_yields` and so on). A rule is about all machines of a kind: from each
of them the computation gives a value, and it leads to a machine of another kind (`Eval.Leads`).

A call only adds to the machine: what was there before is there afterwards (`Machine.Extends`). While a
function is under way its own scope is the one thing that changes (`Running`), and the names that it
does not have itself stand for what they stood for when it was called. So a name of the outermost scope
that stands for a function (`Machine.Supplies`) and a method that an object has (`Machine.HasMethod`)
are found wherever they are looked for.
-/

namespace ProxyAutoConfig.Script

open ProxyAutoConfig.Text

variable {α β : Type} {x : Units} {r q : Ref} {code : Code} {before m middle after : Machine}
  {v u : Value}

/-! ## Machines that grow -/

/-- **A machine has all that another one has**: its objects and its scopes. -/
structure Machine.Keeps (before after : Machine) : Prop where
  objects : ∀ (q : Ref) (o : Object), before.objects[q]? = some o → after.objects[q]? = some o
  scopes : ∀ (s : Nat) (scope : Scope), before.scopes[s]? = some scope → after.scopes[s]? = some scope

/-- **A machine extends another one**: it has all that that one has, and as many calls are under way. -/
structure Machine.Extends (before after : Machine) : Prop extends Keeps before after where
  depth : after.depth = before.depth

namespace Machine

theorem Keeps.trans (first : before.Keeps middle) (second : middle.Keeps after) :
    before.Keeps after :=
  ⟨fun q o there => second.objects q o (first.objects q o there),
    fun s scope there => second.scopes s scope (first.scopes s scope there)⟩

namespace Extends

theorem refl (m : Machine) : m.Extends m :=
  ⟨⟨fun _ _ => id, fun _ _ => id⟩, rfl⟩

theorem trans (first : before.Extends middle) (second : middle.Extends after) :
    before.Extends after :=
  ⟨first.toKeeps.trans second.toKeeps, second.depth.trans first.depth⟩

/-- An object is made. -/
theorem allocate (o : Object) (m : Machine) :
    m.Extends { m with objects := m.objects.push o } := by
  refine ⟨⟨fun q other there => ?_, fun _ _ => id⟩, rfl⟩
  have within : q < m.objects.size := (Array.getElem?_eq_some_iff.mp there).1
  rw [Array.getElem?_push, if_neg (Nat.ne_of_lt within), there]

end Extends

end Machine

theorem Scope.Free.keep {s : Nat} (free : Scope.Free x before.scopes s) (keeps : before.Keeps after) :
    Scope.Free x after.scopes s := by
  induction free with
  | mk here absent _ ih => exact .mk (keeps.scopes _ _ here) absent ih

/-! ## What is supplied -/

/-- **The name stands for the function** in the outermost scope. -/
structure Machine.Supplies (m : Machine) (x : Units) (r : Ref) (code : Code) : Prop
    extends Refers x r code m.objects where
  plain : ∃ o, m.objects[Well.global]? = some o ∧ o.kind = .plain
  free : Scope.Free x m.scopes globalScope

/-- **The object has the function for a method.** -/
structure Machine.HasMethod (m : Machine) (owner : Ref) (k : Key) (r : Ref) (b : Builtin) : Prop where
  method : ∃ o p, m.objects[owner]? = some o ∧ o.own? k = some p ∧ p.value = .object r
  function : ∃ f, m.objects[r]? = some f ∧ f.code? = some (.builtin b)

namespace Machine

theorem Supplies.keep (supplies : before.Supplies x r code) (keeps : before.Keeps after) :
    after.Supplies x r code := by
  obtain ⟨⟨⟨o, p, there, held, value⟩, ⟨f, here, known⟩⟩, ⟨g, global, plain⟩, free⟩ := supplies
  exact ⟨⟨⟨o, p, keeps.objects _ _ there, held, value⟩, ⟨f, keeps.objects _ _ here, known⟩⟩,
    ⟨g, keeps.objects _ _ global, plain⟩, free.keep keeps⟩

variable {owner : Ref} {k : Key} {b : Builtin}

theorem HasMethod.keep (method : before.HasMethod owner k r b) (keeps : before.Keeps after) :
    after.HasMethod owner k r b := by
  obtain ⟨⟨o, p, there, held, value⟩, ⟨f, here, known⟩⟩ := method
  exact ⟨⟨o, p, keeps.objects _ _ there, held, value⟩, ⟨f, keeps.objects _ _ here, known⟩⟩

/-- The method is found in the object, and in an object without one of its own whose parent it is. -/
theorem HasMethod.get_eq (method : m.HasMethod owner k r b) : Eval.get owner k m = .ok (.object r) m := by
  obtain ⟨o, p, there, held, value⟩ := method.method
  have found : Eval.findProperty m.objects k (m.objects.size + 1) owner = some p := by
    simp only [Eval.findProperty, there, held]
  have known : Eval.property? owner k m = .ok (some p) m := by rw [Eval.property?, found]
  rw [Eval.get, Outcome.bind_of_ok known, ← value]
  rfl

theorem HasMethod.get_child_eq (method : m.HasMethod owner k r b) {o : Object}
    (there : m.objects[q]? = some o) (parent : o.parent = some owner) (absent : o.own? k = none) :
    Eval.get q k m = .ok (.object r) m := by
  obtain ⟨above, p, beyond, held, value⟩ := method.method
  have some' : 0 < m.objects.size := Nat.zero_lt_of_lt (Array.getElem?_eq_some_iff.mp there).1
  obtain ⟨n, size⟩ := Nat.exists_eq_add_one.mpr some'
  have found : Eval.findProperty m.objects k (m.objects.size + 1) q = some p := by
    simp only [Eval.findProperty, there, absent, parent, size, beyond, held]
  have known : Eval.property? q k m = .ok (some p) m := by rw [Eval.property?, found]
  rw [Eval.get, Outcome.bind_of_ok known, ← value]
  rfl

end Machine

/-! ## Computations from machines of a kind -/

namespace Eval

variable {S T : Machine → Prop} {c : α → Machine → Prop}

/-- **From a machine of the kind** the computation gives a value, and leads to a machine that goes with
the value. -/
def Leads (S : Machine → Prop) (z : Eval α) (T : α → Machine → Prop) : Prop :=
  ∀ m, S m → ∃ a after, z m = .ok a after ∧ T a after

/-- **From a machine of the kind** the computation gives this value, and leads to a machine of the
kind. -/
def Yields (S : Machine → Prop) (z : Eval α) (a : α) : Prop :=
  Leads S z fun b m => b = a ∧ S m

theorem Leads.bind {z : Eval α} {f : α → Eval β} {U : β → Machine → Prop} (first : Leads S z c)
    (next : ∀ a, Leads (c a) (f a) U) : Leads S (z >>= f) U := by
  intro m holds
  obtain ⟨a, middle, ran, there⟩ := first m holds
  obtain ⟨b, after, then', done⟩ := next a middle there
  exact ⟨b, after, (Outcome.bind_of_ok ran).trans then', done⟩

/-- Where something is known of the machine for some thing or other. -/
theorem Leads.of_exists {S : β → Machine → Prop} {z : Eval α} (each : ∀ b, Leads (S b) z c) :
    Leads (fun m => ∃ b, S b m) z c :=
  fun m ⟨b, holds⟩ => each b m holds

theorem Leads.mono {z : Eval α} {U : α → Machine → Prop} (leads : Leads S z c)
    (weaker : ∀ a m, c a m → U a m) : Leads S z U := by
  intro m holds
  obtain ⟨a, after, ran, there⟩ := leads m holds
  exact ⟨a, after, ran, weaker a after there⟩

theorem Leads.pure {a : α} (now : ∀ m, S m → c a m) : Leads S (pure a) c :=
  fun m holds => ⟨a, m, rfl, now m holds⟩

/-- What a computation leads to another one leads to that does the same from every machine of the kind. -/
theorem Leads.congr {z z' : Eval α} (same : ∀ m, S m → z m = z' m) (leads : Leads S z' c) :
    Leads S z c := by
  intro m holds
  obtain ⟨a, after, ran, there⟩ := leads m holds
  exact ⟨a, after, (same m holds).trans ran, there⟩

theorem Yields.pure (S : Machine → Prop) (a : α) : Yields S (pure a) a :=
  Leads.pure fun _ holds => ⟨rfl, holds⟩

/-- After a value that is known comes the rest with that value. -/
theorem Yields.leads {z : Eval α} {a : α} {f : α → Eval β} {U : β → Machine → Prop}
    (first : Yields S z a) (next : Leads S (f a) U) : Leads S (z >>= f) U :=
  .bind first fun b m holds => by
    obtain ⟨rfl, holds⟩ := holds
    exact next m holds

theorem Yields.bind {z : Eval α} {a : α} {f : α → Eval β} {b : β} (first : Yields S z a)
    (next : Yields S (f a) b) : Yields S (z >>= f) b :=
  first.leads next

/-- A computation that is known to give a value without a change. -/
theorem Yields.of_eq {z : Eval α} {a : α} (same : ∀ m, S m → z m = .ok a m) : Yields S z a :=
  fun m holds => ⟨a, m, same m holds, rfl, holds⟩

end Eval

open Eval

/-! ## Functions that are called -/

/-- **A call of the name with these arguments gives the value**, and adds to the machine at most. -/
def Machine.Answers (m : Machine) (call : Caller) (x : Units) (arguments : List Value) (v : Value) :
    Prop :=
  ∃ r code after, m.Supplies x r code ∧
    call (.apply (.object r) .undefined arguments) m = .ok v after ∧ m.Extends after

/-- A name stands for one function. -/
theorem Refers.unique {other : Code} {objects : Array Object} (first : Refers x r code objects)
    (second : Refers x q other objects) : r = q := by
  obtain ⟨o, p, there, held, value⟩ := first.global
  obtain ⟨o', p', there', held', value'⟩ := second.global
  cases there.symm.trans there'
  cases held.symm.trans held'
  exact Value.object.inj (value.symm.trans value')

/-- What the name stands for is what answers. -/
theorem Machine.Answers.call_eq {call : Caller} {arguments : List Value} {other : Code}
    (answers : m.Answers call x arguments v) (refers : Refers x r other m.objects) :
    ∃ after, call (.apply (.object r) .undefined arguments) m = .ok v after ∧ m.Extends after := by
  obtain ⟨q, _, after, supplied, ran, extends'⟩ := answers
  exact ⟨after, refers.unique supplied.toRefers ▸ ran, extends'⟩

/-- **The call is under way**: the machine has what it had before, the call is counted, and the scope of
the call has these names. -/
structure Running (before : Machine) (s : Nat) (names : List (Units × Binding)) (m : Machine) : Prop
    extends before.Keeps m where
  depth : m.depth = before.depth + 1
  scope : m.scopes[s]? = some ⟨names, some globalScope⟩
  new : before.scopes.size ≤ s

namespace Running

variable {s : Nat} {names : List (Units × Binding)}

theorem extend (running : Running before s names m) (extends' : m.Extends after) :
    Running before s names after :=
  ⟨running.toKeeps.trans extends'.toKeeps, extends'.depth.trans running.depth,
    extends'.scopes _ _ running.scope, running.new⟩

/-- A name of the function has its value. -/
theorem lookup_own {f : Fixity} (own : names.lookup x = some ⟨some v, f⟩)
    (running : Running before s names m) : lookup s x m = .ok v m := by
  have found : Scope.find m.scopes x (m.scopes.size + 1) s = some (s, ⟨some v, f⟩) := by
    simp only [Scope.find, running.scope, own]
  have known : lookup? s x m = .ok (some v) m := by
    rw [lookup?, bind_binding?, found]
    rfl
  rw [lookup, Outcome.bind_of_ok known]
  rfl

/-- A name that the function does not have is looked up outside. -/
theorem free (absent : names.lookup x = none) (free : Scope.Free x before.scopes globalScope)
    (running : Running before s names m) : Scope.Free x m.scopes s := by
  refine .mk running.scope absent ?_
  rintro _ ⟨⟩
  exact free.keep running.toKeeps

/-- **A name of the function is given another value**; no object changes. -/
theorem assign_own {old : Value} (own : names.lookup x = some ⟨some old, .free⟩) (v : Value)
    (running : Running before s names m) :
    ∃ after, assign s x v m = .ok () after ∧
      Running before s (Scope.insert x ⟨some v, .free⟩ names) after ∧ after.objects = m.objects := by
  have found : Scope.find m.scopes x (m.scopes.size + 1) s = some (s, ⟨some old, .free⟩) := by
    simp only [Scope.find, running.scope, own]
  refine ⟨{ m with scopes := m.scopes.modify s (·.bind x ⟨some v, .free⟩) }, ?_, ?_, rfl⟩
  · rw [assign, bind_binding?, found]
    rfl
  · refine ⟨⟨running.objects, fun t scope there => ?_⟩, running.depth, ?_, running.new⟩
    · -- The scopes from before are other ones than that of the call.
      have earlier : t < before.scopes.size := (Array.getElem?_eq_some_iff.mp there).1
      rw [Array.getElem?_modify, if_neg (Nat.ne_of_gt (Nat.lt_of_lt_of_le earlier running.new))]
      exact running.scopes t scope there
    · rw [Array.getElem?_modify, if_pos rfl, running.scope]
      rfl

/-- **What is known while the call is under way**, and stays known while the machine grows. -/
structure Knows (before : Machine) (s : Nat) (names : List (Units × Binding)) (S : Machine → Prop) :
    Prop where
  running : ∀ m, S m → Running before s names m
  stable : ∀ m after, S m → m.Extends after → S after

/-- Nothing else is known. -/
theorem knows (before : Machine) (s : Nat) (names : List (Units × Binding)) :
    Knows before s names (Running before s names) :=
  ⟨fun _ => id, fun _ _ => extend⟩

/-- An object is known besides. -/
theorem Knows.and_object {S : Machine → Prop} (knows : Knows before s names S) (q : Ref) (o : Object) :
    Knows before s names fun m => S m ∧ m.objects[q]? = some o :=
  ⟨fun m holds => knows.running m holds.1, fun m after holds extends' =>
    ⟨knows.stable m after holds.1 extends', extends'.objects q o holds.2⟩⟩

end Running

/-! ## Expressions -/

namespace Expr

variable {w : Surroundings} {frame : Frame} {names : List (Units × Binding)} {S : Machine → Prop}

theorem text_yields (t : Units) : Yields S ((Expr.text t).eval w frame) (.text t) := by
  simp only [Expr.eval]
  exact .pure S _

theorem number_yields (n : Number) : Yields S ((Expr.number n).eval w frame) (.number n) := by
  simp only [Expr.eval]
  exact .pure S _

theorem null_yields : Yields S (Expr.null.eval w frame) .null := by
  simp only [Expr.eval]
  exact .pure S _

theorem bool_yields (b : Bool) : Yields S ((Expr.bool b).eval w frame) (.bool b) := by
  simp only [Expr.eval]
  exact .pure S _

theorem unary_yields {op : UnaryOp} {e : Expr} (operand : Yields S (e.eval w frame) v)
    (operation : Yields S (Eval.unary w.call op v) u) : Yields S ((Expr.unary op e).eval w frame) u := by
  simp only [Expr.eval]
  exact operand.bind operation

theorem binary_yields {op : BinaryOp} {a b : Expr} {v₁ v₂ : Value}
    (first : Yields S (a.eval w frame) v₁) (second : Yields S (b.eval w frame) v₂)
    (operation : Yields S (Eval.binary w.call op v₁ v₂) u) :
    Yields S ((Expr.binary op a b).eval w frame) u := by
  simp only [Expr.eval]
  exact first.bind (second.bind operation)

theorem evalAll_nil_yields : Yields S (Expr.evalAll w [] frame) [] := by
  simp only [Expr.evalAll]
  exact .pure S _

theorem evalAll_cons_yields {e : Expr} {rest : List Expr} {values : List Value}
    (first : Yields S (e.eval w frame) v) (others : Yields S (Expr.evalAll w rest frame) values) :
    Yields S (Expr.evalAll w (e :: rest) frame) (v :: values) := by
  simp only [Expr.evalAll]
  exact first.bind (others.bind (.pure S _))

section

variable (knows : Running.Knows before frame.scope names S)
include knows

/-- A name of the function. -/
theorem name_yields {f : Fixity} (own : names.lookup x = some ⟨some v, f⟩) :
    Yields S ((Expr.name x).eval w frame) v := by
  simp only [Expr.eval]
  exact .of_eq fun m holds => (knows.running m holds).lookup_own own

/-- **A call of a name that the function does not have itself.** -/
theorem call_yields {arguments : List Expr} {values : List Value} (absent : names.lookup x = none)
    (given : Yields S (Expr.evalAll w arguments frame) values) (supplied : before.Supplies x r code)
    (answers : ∀ m, Running before frame.scope names m → ∃ after,
      w.call (.apply (.object r) .undefined values) m = .ok v after ∧ m.Extends after) :
    Yields S ((Expr.call (.name x) arguments).eval w frame) v := by
  have function : Yields S (lookup frame.scope x) (.object r) := by
    refine .of_eq fun m holds => ?_
    have running := knows.running m holds
    have now := supplied.keep running.toKeeps
    exact now.toRefers.lookup_eq now.plain (running.free absent supplied.free)
  simp only [Expr.eval]
  refine function.bind (given.bind fun m holds => ?_)
  obtain ⟨after, called, extends'⟩ := answers m (knows.running m holds)
  exact ⟨v, after, called, rfl, knows.stable m after holds extends'⟩

/-- **A call of a name whose function answers.** -/
theorem answered_yields {arguments : List Expr} {values : List Value} (absent : names.lookup x = none)
    (given : Yields S (Expr.evalAll w arguments frame) values) (supplied : before.Supplies x r code)
    (answers : ∀ m, Running before frame.scope names m → m.Answers w.call x values v) :
    Yields S ((Expr.call (.name x) arguments).eval w frame) v :=
  call_yields knows absent given supplied fun m running =>
    (answers m running).call_eq (supplied.keep running.toKeeps).toRefers

end

end Expr

/-! ## Statements -/

namespace Stmt

variable {w : Surroundings} {frame : Frame} {names : List (Units × Binding)} {s : Stmt}
  {body rest : List Stmt} {own : List Units} {S T : Machine → Prop} {e : Expr}

theorem execAll_nil_leads : Leads S (Stmt.execAll w [] frame) fun c m => c = .normal ∧ S m := by
  simp only [Stmt.execAll]
  exact .pure fun m holds => ⟨rfl, holds⟩

/-- After a statement that ends normally come the others. -/
theorem execAll_cons_leads {U : Completion → Machine → Prop}
    (first : Leads S (s.exec w [] frame) fun c m => c = .normal ∧ T m)
    (others : Leads T (Stmt.execAll w rest frame) U) : Leads S (Stmt.execAll w (s :: rest) frame) U := by
  simp only [Stmt.execAll]
  refine first.bind fun c m holds => ?_
  obtain ⟨rfl, holds⟩ := holds
  exact others m holds

/-- **After a statement that returns a value come no others.** -/
theorem execAll_cons_returned
    (first : Leads S (s.exec w [] frame) fun c m => c = .returned v ∧ T m) :
    Leads S (Stmt.execAll w (s :: rest) frame) fun c m => c = .returned v ∧ T m := by
  simp only [Stmt.execAll]
  refine first.bind fun c m holds => ?_
  obtain ⟨rfl, holds⟩ := holds
  exact ⟨_, m, rfl, rfl, holds⟩

theorem ret_leads (value : Yields S (e.eval w frame) v) :
    Leads S ((Stmt.ret e).exec w own frame) fun c m => c = .returned v ∧ S m := by
  simp only [Stmt.exec]
  exact value.leads (.pure fun m holds => ⟨rfl, holds⟩)

theorem empty_leads : Leads S (Stmt.empty.exec w own frame) fun c m => c = .normal ∧ S m := by
  simp only [Stmt.exec]
  exact .pure fun m holds => ⟨rfl, holds⟩

/-- **A name of the function is given a value** of which something is known besides. -/
theorem assign_leads {old : Value} (known : names.lookup x = some ⟨some old, .free⟩)
    {C : Value → Array Object → Prop}
    (value : Leads S (e.eval w frame) fun a m => Running before frame.scope names m ∧ C a m.objects) :
    Leads S (do let a ← e.eval w frame; assign frame.scope x a) fun _ m =>
      ∃ a, Running before frame.scope (Scope.insert x ⟨some a, .free⟩ names) m ∧ C a m.objects := by
  refine value.bind fun a m holds => ?_
  obtain ⟨after, ran, there, same⟩ := holds.1.assign_own known a
  exact ⟨(), after, ran, a, there, same ▸ holds.2⟩

/-- A variable of the function gets its value where it is declared. -/
theorem declare_leads {old : Value} (known : names.lookup x = some ⟨some old, .free⟩)
    {C : Value → Array Object → Prop}
    (value : Leads S (e.eval w frame) fun a m => Running before frame.scope names m ∧ C a m.objects) :
    Leads S ((Stmt.declare .var x e).exec w own frame) fun c m => c = .normal ∧
      ∃ a, Running before frame.scope (Scope.insert x ⟨some a, .free⟩ names) m ∧ C a m.objects := by
  simp only [Stmt.exec, if_true]
  rw [← bind_assoc]
  exact (assign_leads known value).bind fun _ => .pure fun m holds => ⟨rfl, holds⟩

section

variable (knows : Running.Knows before frame.scope names S)
include knows

/-- Where its value is known, -/
theorem declare_yields {old : Value} (known : names.lookup x = some ⟨some old, .free⟩)
    (value : Yields S (e.eval w frame) v) :
    Leads S ((Stmt.declare .var x e).exec w own frame) fun c m =>
      c = .normal ∧ Running before frame.scope (Scope.insert x ⟨some v, .free⟩ names) m := by
  have value := value.mono fun a m holds => And.intro (knows.running m holds.2) holds.1
  refine (declare_leads (C := fun a _ => a = v) known value).mono fun c m holds => ⟨holds.1, ?_⟩
  obtain ⟨_, _, running, rfl⟩ := holds
  exact running

/-- and where another one is assigned to it. -/
theorem set_yields {old : Value} (known : names.lookup x = some ⟨some old, .free⟩)
    (value : Yields S (e.eval w frame) v) :
    Leads S ((Stmt.expr (.assign (.name x) e)).exec w own frame) fun c m =>
      c = .normal ∧ Running before frame.scope (Scope.insert x ⟨some v, .free⟩ names) m := by
  simp only [Stmt.exec, Expr.eval, Target.eval, pure_bind, bind_assoc, writeSpot]
  rw [← bind_assoc]
  have assigned := assign_leads (C := fun a _ => a = v) known
    (value.mono fun a m holds => ⟨knows.running m holds.2, holds.1⟩)
  refine assigned.bind fun _ => .pure fun m holds => ⟨rfl, ?_⟩
  obtain ⟨_, running, rfl⟩ := holds
  exact running

end

theorem ifElse_leads {a b : Stmt} {U : Completion → Machine → Prop}
    (condition : Yields S (e.eval w frame) v)
    (branch : Leads S ((if v.isTrue then a else b).exec w [] frame) U) :
    Leads S ((Stmt.ifElse e a b).exec w own frame) U := by
  simp only [Stmt.exec]
  refine condition.leads ?_
  split at branch
  next yes => rwa [if_pos yes]
  next no => rwa [if_neg no]

/-- A block that declares no names of its own. -/
theorem block_leads {U : Completion → Machine → Prop}
    (plain : Eval.unstarted body = [] ∧ Stmt.functions body = [])
    (inside : Leads S (Stmt.execAll w body frame) U) :
    Leads S ((Stmt.block body).exec w own frame) U := by
  have entered : Eval.enterBlock body frame = pure frame := by
    simp only [Eval.enterBlock, plain.1, plain.2, List.map_nil, List.append_nil]
  simp only [Stmt.exec, entered, pure_bind]
  exact inside

end Stmt

/-! ## Calls -/

namespace Eval

/-- **A call of a function of a script** that declares no functions in turn gives what its body returns,
from wherever the call is under way with the function's names. -/
theorem call_script {h : Embedding} {levels : Nat} {f : Function} {own : Value}
    (supplied : before.Supplies x r (.script f globalScope own)) (arrow : f.info.arrow = false)
    (usesArguments : f.info.usesArguments = false) (functions : Stmt.functions f.body = [])
    {arguments : List Value}
    (body : ∀ s, Leads (Running before s (functionNames f arguments none))
      (Stmt.execAll ⟨caller h levels, h.rounds⟩ f.body ⟨s, .object Well.global⟩)
      fun c m => c = .returned v ∧ ∃ names, Running before s names m) :
    ∃ after, caller h (levels + 1) (.apply (.object r) .undefined arguments) before = .ok v after ∧
      before.Extends after := by
  obtain ⟨o, there, held⟩ := supplied.function
  let start : Machine := { before with
    scopes := before.scopes.push ⟨functionNames f arguments none, some globalScope⟩
    depth := before.depth + 1
    rounds := 0 }
  have running : Running before before.scopes.size (functionNames f arguments none) start := by
    refine ⟨⟨fun _ _ => id, fun s scope there => ?_⟩, rfl, ?_, Nat.le_refl _⟩
    · have within : s < before.scopes.size := (Array.getElem?_eq_some_iff.mp there).1
      exact (Array.getElem?_push.trans (if_neg (Nat.ne_of_lt within))).trans there
    · exact Array.getElem?_push.trans (if_pos rfl)
  obtain ⟨_, after, ran, rfl, names, ended⟩ := body _ start running
  refine ⟨{ after with depth := before.depth, rounds := before.rounds }, ?_,
    ⟨ended.objects, ended.scopes⟩, rfl⟩
  have runs : runFunction ⟨caller h levels, h.rounds⟩ f globalScope (.object Well.global) arguments
      { before with depth := before.depth + 1, rounds := 0 } = .ok v after := by
    simp only [runFunction, usesArguments, Bool.false_and, Bool.false_eq_true, if_false, pure_bind,
      startFunctions, functions]
    exact Outcome.bind_of_ok ran
  have nests : nested (runFunction ⟨caller h levels, h.rounds⟩ f globalScope (.object Well.global)
      arguments) before = .ok v { after with depth := before.depth, rounds := before.rounds } := by
    simp only [nested, runs]
  rw [caller, nesting, callerBeside, perform_apply there held, applyCode, arrow]
  exact nests

/-- **A call of a host function** runs it. -/
theorem call_host {h : Embedding} {levels i : Nat} (supplied : before.Supplies x r (.host i))
    (arguments : List Value) :
    caller h (levels + 1) (.apply (.object r) .undefined arguments) before =
      h.run i (callerBeside h (caller h levels) (nesting - 1)) arguments before := by
  obtain ⟨o, there, held⟩ := supplied.function
  rw [caller, nesting, callerBeside, perform_apply there held]
  rfl

/-- **A call of a function that every script has.** -/
theorem call_builtin {h : Embedding} {levels : Nat} {b : Builtin} {o : Object}
    (there : m.objects[r]? = some o) (held : o.code? = some (.builtin b)) (self : Value)
    (arguments : List Value) :
    caller h (levels + 1) (.apply (.object r) self arguments) m =
      applyBuiltin (callerBeside h (caller h levels) (nesting - 1)) b self arguments m := by
  rw [caller, nesting, callerBeside, perform_apply there held]
  rfl

end Eval

end ProxyAutoConfig.Script
