import ProxyAutoConfig.Proofs.Script.Activation
import ProxyAutoConfig.Proofs.Script.Numbers

/-!
# Methods that functions call

A method is found in the parent of what it is called on, and a call of it runs the function that every
script has for it. So the pieces of a text stand in an array that is new (`Expr.split_leads`), whose
items are read one by one (`Expr.item_yields`), and a pattern that stands in the syntax is asked whether
it matches (`Expr.test_yields`).
-/

namespace ProxyAutoConfig.Script

open ProxyAutoConfig.Text Eval

variable {before m : Machine} {r q : Ref} {u : Units} {v : Value} {k : Key} {h : Embedding}
  {levels rounds : Nat} {frame : Frame} {names : List (Units × Binding)} {S : Machine → Prop} {e : Expr}

/-! ## Members -/

/-- **Neither the object has the property nor any of its parents.** -/
inductive Machine.Lacks (m : Machine) (k : Key) : Ref → Prop
  | mk {q : Ref} {o : Object} : m.objects[q]? = some o → o.own? k = none →
      (∀ p, o.parent = some p → Lacks m k p) → Lacks m k q

namespace Machine.Lacks

theorem keep {after : Machine} (lacks : before.Lacks k q) (keeps : before.Keeps after) :
    after.Lacks k q := by
  induction lacks with
  | mk there absent _ ih => exact .mk (keeps.objects _ _ there) absent ih

theorem findProperty_eq (lacks : m.Lacks k q) (fuel : Nat) :
    findProperty m.objects k fuel q = none := by
  induction lacks generalizing fuel with
  | @mk q o there absent _ ih =>
    cases fuel with
    | zero => rfl
    | succ fuel =>
      simp only [findProperty, there, absent]
      cases parent : o.parent with
      | none => rfl
      | some p => exact ih p parent fuel

end Machine.Lacks

namespace Eval

/-- The key of a member that has a name. -/
theorem memberKey_text {call : Caller} (there : v.isMissing = false) (t : Units) :
    memberKey call v (.text t) = pure (Key.ofUnits t) := by
  simp only [memberKey, there, Bool.false_eq_true, if_false]
  rfl

/-- **A method of a text** is found in the parent of all texts. -/
theorem getMember_text {name : Units} {tm : TextMethod} (method : m.HasMethod Well.text k r (.text tm))
    (named : k = .name name) (other : k ≠ lengthKey) :
    getMember (.text u) k m = .ok (.object r) m := by
  subst named
  rw [getMember]
  simp only [if_neg other]
  exact method.get_eq

/-- **An item of an array.** Where there is none, its parents are asked. -/
theorem get_item {items : List Value} {i : Nat}
    (there : m.objects[q]? = some ⟨.array (items.map some).toArray, some Well.array, []⟩)
    (lacks : m.Lacks (.index i) Well.array) :
    get q (.index i) m = .ok (items[i]?.getD .undefined) m := by
  have found : (findProperty m.objects (.index i) (m.objects.size + 1) q).map (·.value) =
      items[i]? := by
    cases item : items[i]? with
    | some v => simp [findProperty, there, Object.own?, item, Property.open]
    | none => simp [findProperty, there, Object.own?, item, lacks.findProperty_eq]
  have known : property? q (.index i) m =
      .ok (findProperty m.objects (.index i) (m.objects.size + 1) q) m := rfl
  rw [get, Outcome.bind_of_ok known, ← found]
  cases findProperty m.objects (.index i) (m.objects.size + 1) q <;> rfl

end Eval

/-! ## Operators -/

/-- The object that a value refers to. -/
def Value.ref? : Value → Option Ref
  | object r => some r
  | _ => none

theorem Value.eq_of_ref? {v : Value} {r : Ref} (known : v.ref? = some r) : v = .object r := by
  cases v <;> cases known
  rfl

namespace Eval

variable {call : Caller} {a b : Value}

/-- A value that is no object is converted as it is. -/
theorem toNumber_eq (plain : a.ref? = none) : toNumber call a = pure a.plainNumber := by
  cases a with
  | object r => cases plain
  | _ => rfl

/-- **An operation on the numbers of values** that are no objects. -/
theorem arithmetic_eq (f : Number → Number → Number) (plain : a.ref? = none)
    (plain' : b.ref? = none) :
    arithmetic call f a b = pure (.number (f a.plainNumber b.plainNumber)) := by
  rw [arithmetic, toNumber_eq plain, pure_bind, toNumber_eq plain', pure_bind]

/-- **An operation on bits.** -/
theorem bitwise_eq (f : BitVec 32 → BitVec 32 → BitVec 32) (x y : BitVec 32) :
    arithmetic call (.bitwise f) (.number (.ofBits x)) (.number (.ofBits y)) =
      pure (.number (.ofBits (f x y))) := by
  rw [arithmetic_eq _ rfl rfl, Value.plainNumber, Value.plainNumber, Number.bitwise,
    Number.toBits_ofBits, Number.toBits_ofBits]

end Eval

/-! ## Calls of methods -/

namespace Expr

variable (knows : Running.Knows before frame.scope names S)
include knows

/-- **A call of a method of a text** runs the method. -/
theorem textMethod_leads {tm : TextMethod} {name : Units} {arguments : List Expr} {values : List Value}
    {U : Value → Machine → Prop}
    (method : before.HasMethod Well.text (Key.ofUnits name) r (.text tm))
    (named : Key.ofUnits name = .name name) (other : Key.ofUnits name ≠ lengthKey)
    (object : Yields S (e.eval ⟨caller h (levels + 1), rounds⟩ frame) (.text u))
    (given : Yields S (evalAll ⟨caller h (levels + 1), rounds⟩ arguments frame) values)
    (runs : Leads S (textMethod (callerBeside h (caller h levels) (nesting - 1)) tm (.text u) values) U) :
    Leads S ((Expr.callMember e (.text name) arguments).eval ⟨caller h (levels + 1), rounds⟩ frame)
      U := by
  have now {m : Machine} (holds : S m) := method.keep (knows.running m holds).toKeeps
  have function : Yields S (getMember (.text u) (Key.ofUnits name)) (.object r) :=
    .of_eq fun m holds => getMember_text (now holds) named other
  simp only [Expr.eval, pure_bind]
  refine object.leads ?_
  rw [memberKey_text rfl, pure_bind]
  refine function.leads (given.leads (runs.congr fun m holds => ?_))
  obtain ⟨f, there, held⟩ := (now holds).function
  exact call_builtin there held _ _

/-- **The pieces of a text** stand in a new array. -/
theorem split_leads {separator : Units}
    (method : before.HasMethod Well.text (Key.ofString "split") r (.text .split))
    (object : Yields S (e.eval ⟨caller h (levels + 1), rounds⟩ frame) (.text u)) :
    Leads S ((Expr.callMember e (.text (Units.ofString "split")) [.text separator]).eval
        ⟨caller h (levels + 1), rounds⟩ frame) fun a m =>
      S m ∧ ∃ q, a = .object q ∧ m.objects[q]? = some ⟨.array
        ((((Units.split separator u).map Value.text).take 4294967295).map some).toArray,
        some Well.array, []⟩ := by
  have method : before.HasMethod Well.text (Key.ofUnits (Units.ofString "split")) r (.text .split) :=
    method
  refine textMethod_leads knows method rfl (by decide) object
    (evalAll_cons_yields (text_yields separator) evalAll_nil_yields) ?_
  intro m holds
  refine ⟨.object m.objects.size, _, rfl, knows.stable m _ holds (.allocate _ m), _, rfl, ?_⟩
  exact Array.getElem?_push.trans (if_pos rfl)

/-- **An item of an array that a name stands for.** -/
theorem item_yields {w : Surroundings} {x : Units} {f : Fixity} {items : List Value} {i : Nat}
    (own : names.lookup x = some ⟨some (.object q), f⟩) (small : i < 4294967295)
    (lacks : before.Lacks (.index i) Well.array)
    (there : ∀ m, S m →
      m.objects[q]? = some ⟨.array (items.map some).toArray, some Well.array, []⟩) :
    Yields S ((Expr.member (.name x) (.number (.int i))).eval w frame)
      (items[i]?.getD .undefined) := by
  have key {call : Caller} : memberKey call (.object q) (.number (.int i)) = pure (.index i) := by
    have range : (0 : Int) ≤ i ∧ (i : Int) < 4294967295 := by omega
    simp only [memberKey, Value.isMissing, Bool.false_eq_true, if_false, toKey, if_pos range,
      Int.toNat_natCast]
  simp only [Expr.eval, pure_bind]
  refine Yields.bind (.of_eq fun m holds => (knows.running m holds).lookup_own own) ?_
  rw [key, pure_bind]
  exact .of_eq fun m holds => get_item (there m holds) (lacks.keep (knows.running m holds).toKeeps)

/-- **A pattern that stands in the syntax is asked** whether it matches somewhere. -/
theorem test_yields {p : Regex.Pattern} (plain : p.global = false) (free : p.sticky = false)
    (method : before.HasMethod Well.pattern (Key.ofString "test") r (.pattern .test))
    (given : ∀ (q : Ref) (o : Object), Yields (fun m => S m ∧ m.objects[q]? = some o)
      (e.eval ⟨caller h (levels + 1), rounds⟩ frame) (.text u)) :
    Yields S ((Expr.callMember (.pattern p) (.text (Units.ofString "test")) [e]).eval
      ⟨caller h (levels + 1), rounds⟩ frame) (.bool (p.find? u 0).isSome) := by
  let o : Object := ⟨.pattern p, some Well.pattern, [(lastIndexKey, ⟨.ofNat 0, true, false, false⟩)]⟩
  have made : Leads S (newPattern p) fun a m => ∃ q, a = .object q ∧ S m ∧ m.objects[q]? = some o :=
    fun m holds => ⟨.object m.objects.size, _, rfl, _, rfl, knows.stable m _ holds (.allocate _ m),
      Array.getElem?_push.trans (if_pos rfl)⟩
  simp only [Expr.eval, Expr.evalAll, pure_bind, bind_assoc]
  refine Leads.bind made fun a => ?_
  rintro m ⟨q, rfl, holds⟩
  revert holds
  revert m
  have absent : o.own? (Key.ofString "test") = none := rfl
  have now {m : Machine} (holds : S m ∧ m.objects[q]? = some o) :=
    method.keep (knows.running m holds.1).toKeeps
  have function : Yields (fun m => S m ∧ m.objects[q]? = some o)
      (getMember (.object q) (Key.ofString "test")) (.object r) :=
    .of_eq fun m holds => (now holds).get_child_eq holds.2 rfl absent
  rw [memberKey_text rfl, pure_bind]
  refine function.leads ((given q o).leads fun m holds => ?_)
  obtain ⟨f, there, held⟩ := (now holds).function
  have read : Eval.object q m = .ok o m := by
    rw [Eval.object, holds.2, Option.getD_some]
  have asked : Eval.pattern? (.object q) m = .ok (some (q, p)) m := Outcome.bind_of_ok read
  refine ⟨_, m, ?_, rfl, holds.1⟩
  rw [call_builtin there held, applyBuiltin, patternMethod, Outcome.bind_of_ok asked]
  simp only [matchPattern, plain, free, Bool.false_or, Bool.false_eq_true, if_false]
  rfl

end Expr

end ProxyAutoConfig.Script
