import ProxyAutoConfig.Proofs.Outcome
import ProxyAutoConfig.Proofs.Script.Discipline.Basic
import ProxyAutoConfig.Script.Program

/-!
# The global object

What the global object of a machine has under a key, and what becomes of it when an object is made and
when the global object is given a property (`Machine.global?_withGlobal`). The text that is shown for an
error is only read off the machine (`Eval.onlyReads_thrownText`).
-/

namespace ProxyAutoConfig.Script

open ProxyAutoConfig.Text

/-- A plain object has nothing but its properties. -/
theorem Object.own?_of_plain {o : Object} {k : Key} (plain : o.kind = .plain) :
    o.own? k = o.properties.lookup k := by
  unfold own?
  rw [plain]

namespace Machine

variable {m : Machine} {k k' : Key} {p : Property} {o : Object} {r : Ref}

/-- What the global object has under a key. -/
def global? (m : Machine) (k : Key) : Option Property :=
  (m.objects[Well.global]?.getD default).own? k

/-- The global object has a property for good. -/
def Fixes (m : Machine) (k : Key) : Prop :=
  ∃ p, m.global? k = some p ∧ p.configurable = false

/-- The global object is one that holds nothing but its properties. -/
def HasGlobal (m : Machine) : Prop :=
  ∃ o, m.objects[Well.global]? = some o ∧ o.kind = .plain

/-- The machine with one more object. -/
def withObject (m : Machine) (o : Object) : Machine :=
  { m with objects := m.objects.push o }

/-- The machine with a property of its global object. -/
def withGlobal (m : Machine) (k : Key) (p : Property) : Machine :=
  { m with objects := m.objects.modify Well.global (·.define k p) }

theorem HasGlobal.lt (global : m.HasGlobal) : Well.global < m.objects.size := by
  obtain ⟨_, there, _⟩ := global
  exact (Array.getElem?_eq_some_iff.mp there).1

/-- Another object leaves those alone that are there, -/
theorem getElem?_withObject (old : r < m.objects.size) :
    (m.withObject o).objects[r]? = m.objects[r]? := by
  rw [withObject, Array.getElem?_push, if_neg (Nat.ne_of_lt old)]

theorem HasGlobal.withObject (global : m.HasGlobal) (o : Object) : (m.withObject o).HasGlobal := by
  have same := getElem?_withObject (o := o) global.lt
  obtain ⟨g, there, plain⟩ := global
  exact ⟨g, same.trans there, plain⟩

theorem global?_withObject (global : m.HasGlobal) (o : Object) (k : Key) :
    (m.withObject o).global? k = m.global? k := by
  rw [global?, global?, getElem?_withObject global.lt]

/-- and so does a property of the global object. -/
theorem getElem?_withGlobal (other : r ≠ Well.global) :
    (m.withGlobal k p).objects[r]? = m.objects[r]? := by
  rw [withGlobal, Array.getElem?_modify, if_neg (Ne.symm other)]

theorem getElem?_withGlobal_self (there : m.objects[Well.global]? = some o) :
    (m.withGlobal k p).objects[Well.global]? = some (o.define k p) := by
  rw [withGlobal, Array.getElem?_modify, if_pos rfl, there, Option.map_some]

theorem HasGlobal.withGlobal (global : m.HasGlobal) (k : Key) (p : Property) :
    (m.withGlobal k p).HasGlobal := by
  obtain ⟨o, there, plain⟩ := global
  exact ⟨_, getElem?_withGlobal_self there, plain⟩

/-- **The global object has the property under its key**, and under all others what it had. -/
theorem global?_withGlobal (global : m.HasGlobal) (k : Key) (p : Property) (k' : Key) :
    (m.withGlobal k p).global? k' = if k' = k then some p else m.global? k' := by
  obtain ⟨o, there, plain⟩ := global
  have plain' : (o.define k p).kind = .plain := plain
  rw [global?, global?, getElem?_withGlobal_self there, there, Option.getD_some, Option.getD_some,
    Object.own?_of_plain plain, Object.own?_of_plain plain', Object.define]
  split
  · next same => rw [same, Object.lookup_insert_self]
  · next other => rw [Object.lookup_insert_of_ne other]

end Machine

/-! ## Texts of errors -/

namespace Eval

/-- **A computation that only reads**: it returns, and leaves the machine as it found it. -/
def OnlyReads {α : Type} (x : Eval α) : Prop :=
  ∀ m, ∃ a, x m = .ok a m

variable {α β : Type} {x : Eval α} {f : α → Eval β}

theorem OnlyReads.pure (a : α) : OnlyReads (pure a : Eval α) :=
  fun _ => ⟨a, rfl⟩

theorem OnlyReads.bind (first : OnlyReads x) (next : ∀ a, OnlyReads (f a)) : OnlyReads (x >>= f) := by
  intro m
  obtain ⟨a, read⟩ := first m
  obtain ⟨b, last⟩ := next a m
  exact ⟨b, (Outcome.bind_of_ok read).trans last⟩

theorem onlyReads_object (r : Ref) : OnlyReads (object r) :=
  fun m => ⟨m.objects[r]?.getD default, rfl⟩

theorem onlyReads_get (r : Ref) (k : Key) : OnlyReads (get r k) := by
  refine .bind (fun m => ⟨findProperty m.objects k (m.objects.size + 1) r, rfl⟩) fun found => ?_
  cases found with
  | none => exact .pure _
  | some p => exact .pure _

/-- What is shown for a thrown value is read off the machine. -/
theorem onlyReads_thrownText (v : Value) : OnlyReads (thrownText v) := by
  cases v with
  | object r =>
    refine .bind (onlyReads_object r) fun o => ?_
    cases o.kind with
    | error =>
      -- the name of the error and its message are found in the same way
      refine .bind ?_ fun name => .bind ?_ fun message => .pure _
      all_goals
        refine .bind (onlyReads_get r _) fun v => ?_
        cases v <;> exact .pure _
    | _ => exact .pure _
  | _ => exact .pure _

end Eval

end ProxyAutoConfig.Script
