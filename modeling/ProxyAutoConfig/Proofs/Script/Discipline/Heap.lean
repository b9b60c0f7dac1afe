import ProxyAutoConfig.Proofs.Script.Discipline.Basic
import ProxyAutoConfig.Script.Operator

/-!
# Disciplines and the heap

What is done to objects keeps every discipline where it concerns an object of the script's own
making, or a key of the global object that is free. Conversions and operators call methods, and keep
a discipline where calls do.
-/

namespace ProxyAutoConfig.Script.Discipline

open ProxyAutoConfig.Text Condition

variable {D : Discipline} {α : Type} {depth top : Nat} {P : D.Condition}

/-! ## Objects -/

/-- The key may be written to in the object. -/
def Open (D : Discipline) (r : Ref) (k : Key) : Prop :=
  r = Well.global → D.free k

theorem Open.of_mine {r : Ref} (mine : D.mine r) (k : Key) : D.Open r k :=
  fun global => D.free_of_mine mine global

/-- A value whose member may be written to. -/
def OpenMember (D : Discipline) (v : Value) (k : Key) : Prop :=
  ∀ r, v = .object r → D.Open r k

/-- An object of a new value is the script's own. -/
def Made (D : Discipline) (v : Value) : Prop :=
  ∀ r, v = .object r → D.mine r

theorem Made.openMember {v : Value} (made : D.Made v) (k : Key) : D.OpenMember v k :=
  fun r same => .of_mine (made r same) k

/-- **An object is made.** A function of the script is made in a scope in which it may be called. -/
theorem allocate_yields {o : Object}
    (code : ∀ f s self, o.code? = some (.script f s self) → P.Has (.lawful f s)) :
    D.Yields depth top P D.mine (Eval.allocate o) :=
  ⟨fun _ found holds here =>
    ⟨found, D.push holds fun f s self same => code f s self same _ here, D.later_refl _,
      D.mine_new holds⟩⟩

/-- An object is made that is no function. -/
theorem allocate_yields_other {o : Object} (code : o.code? = none) :
    D.Yields depth top P D.mine (Eval.allocate o) :=
  allocate_yields fun _ _ _ same => absurd (code.symm.trans same) (Option.some_ne_none _).symm

theorem newObject_yields : D.Yields depth top P D.mine Eval.newObject :=
  allocate_yields_other rfl

theorem newArray_yields (items : List Value) :
    D.Yields depth top P D.Made (Eval.newArray items) := by
  refine (allocate_yields_other rfl).bind_yields fun r mine => .pure ?_
  rintro _ ⟨⟩
  exact mine

theorem newFunction_yields {code : Code} (name : Units) (length : Nat)
    (lawful : ∀ f s self, code = .script f s self → P.Has (.lawful f s)) :
    D.Yields depth top P D.mine (Eval.newFunction code name length) :=
  allocate_yields fun f s self same => lawful f s self (Option.some.inj same)

namespace Keeps

@[grind .] theorem object (r : Ref) : D.Keeps depth top P (Eval.object r) :=
  .read _

@[grind .] theorem property? (r : Ref) (k : Key) : D.Keeps depth top P (Eval.property? r k) :=
  .read _

/-- **An object is changed as a whole**, which makes no function of it. -/
theorem change {r : Ref} {g : Object → Object} (mine : D.mine r) (tame : Object.Tame g) :
    D.Keeps depth top P (Eval.change r g) :=
  ⟨fun _ found holds _ => ⟨found, D.modify holds mine tame, D.later_refl _, trivial⟩⟩

/-- **An object is changed in one property.** -/
theorem change_within {r : Ref} {k : Key} {g : Object → Object} (free : D.Open r k)
    (within : Object.Within k g) : D.Keeps depth top P (Eval.change r g) :=
  ⟨fun _ found holds _ => ⟨found, D.modify_within holds free within, D.later_refl _, trivial⟩⟩

@[grind .] theorem newObject : D.Keeps depth top P Eval.newObject :=
  newObject_yields.keeps

@[grind .] theorem newArray (items : List Value) : D.Keeps depth top P (Eval.newArray items) :=
  (newArray_yields items).keeps

@[grind .] theorem newError (kind : ErrorKind) (message : Units) :
    D.Keeps depth top P (Eval.newError kind message) :=
  .bind (allocate_yields_other rfl).keeps fun _ => .pure _

@[grind .] theorem fail (kind : ErrorKind) (message : String) :
    D.Keeps depth top P (Eval.fail kind message : Eval α) := by
  unfold Eval.fail
  grind

/-- What has failed has no result. -/
theorem fail_yields {q : α → Prop} (kind : ErrorKind) (message : String) :
    D.Yields depth top P q (Eval.fail kind message) :=
  (fail kind message).yields fun _ _ _ failed => by cases failed

@[grind .] theorem get (r : Ref) (k : Key) : D.Keeps depth top P (Eval.get r k) := by
  unfold Eval.get
  grind

theorem set {r : Ref} {k : Key} (free : D.Open r k) (v : Value) :
    D.Keeps depth top P (Eval.set r k v) := by
  have put : D.Keeps depth top P (Eval.change r (·.put k v)) :=
    change_within free (Object.within_put k v)
  unfold Eval.set
  grind

@[grind .] theorem getMember (v : Value) (k : Key) : D.Keeps depth top P (Eval.getMember v k) := by
  unfold Eval.getMember
  grind

theorem setMember {v : Value} {k : Key} (free : D.OpenMember v k) (x : Value) :
    D.Keeps depth top P (Eval.setMember v k x) := by
  unfold Eval.setMember
  cases v with
  | object r => exact set (free r rfl) x
  | _ => grind

theorem deleteMember {v : Value} {k : Key} (free : D.OpenMember v k) :
    D.Keeps depth top P (Eval.deleteMember v k) := by
  unfold Eval.deleteMember
  cases v with
  | object r =>
    have removed : D.Keeps depth top P (Eval.change r (·.remove k)) :=
      change_within (free r rfl) (Object.within_remove k)
    grind
  | _ => grind

@[grind .] theorem code? (v : Value) : D.Keeps depth top P (Eval.code? v) := by
  unfold Eval.code?
  grind

@[grind .] theorem box (v : Value) : D.Keeps depth top P (Eval.box v) := by
  have made {o : Object} (code : o.code? = none) : D.Keeps depth top P (Eval.allocate o) :=
    (allocate_yields_other code).keeps
  unfold Eval.box
  cases v with
  | bool b | number n | text u => exact .bind (made rfl) fun _ => .pure _
  | _ => grind

/-! ## Looking names up -/

@[grind .] theorem binding? (s : Nat) (x : Units) : D.Keeps depth top P (Eval.binding? s x) :=
  .read _

@[grind .] theorem lookup? (s : Nat) (x : Units) : D.Keeps depth top P (Eval.lookup? s x) := by
  unfold Eval.lookup? Eval.tooEarly
  grind

@[grind .] theorem lookup (s : Nat) (x : Units) : D.Keeps depth top P (Eval.lookup s x) := by
  unfold Eval.lookup
  grind

/-! ## Conversions and operators -/

section

variable {call : Caller} (calls : D.KeepsCalls depth top call)
include calls

@[grind .] theorem methodValue (r : Ref) (keys : List Key) :
    D.Keeps depth top P (Eval.methodValue call r keys) := by
  induction keys with
  | nil => exact .fail _ _
  | cons k keys ih =>
    unfold Eval.methodValue
    grind

@[grind .] theorem toPlain (v : Value) : D.Keeps depth top P (Eval.toPlain call v) := by
  unfold Eval.toPlain
  grind

@[grind .] theorem toText (v : Value) : D.Keeps depth top P (Eval.toText call v) := by
  unfold Eval.toText
  grind

@[grind .] theorem toNumber (v : Value) : D.Keeps depth top P (Eval.toNumber call v) := by
  unfold Eval.toNumber
  grind

@[grind .] theorem toKey (v : Value) : D.Keeps depth top P (Eval.toKey call v) := by
  unfold Eval.toKey
  grind

@[grind .] theorem looseEqual (a b : Value) : D.Keeps depth top P (Eval.looseEqual call a b) := by
  unfold Eval.looseEqual
  grind

@[grind .] theorem unary (op : UnaryOp) (v : Value) :
    D.Keeps depth top P (Eval.unary call op v) := by
  unfold Eval.unary Eval.typeWord
  grind

@[grind .] theorem add (a b : Value) : D.Keeps depth top P (Eval.add call a b) := by
  unfold Eval.add
  grind

@[grind .] theorem arithmetic (f : Number → Number → Number) (a b : Value) :
    D.Keeps depth top P (Eval.arithmetic call f a b) := by
  unfold Eval.arithmetic
  grind

omit calls in
@[grind .] theorem instanceOf (a b : Value) : D.Keeps depth top P (Eval.instanceOf a b) := by
  unfold Eval.instanceOf
  refine .bind (.code? b) fun code => ?_
  split
  · exact .fail _ _
  · refine .bind (.get _ _) fun held => ?_
    cases held with
    | object p => exact .read _
    | _ => exact .fail _ _
  · exact .pure false

@[grind .] theorem isIn (a b : Value) : D.Keeps depth top P (Eval.isIn call a b) := by
  unfold Eval.isIn
  grind

@[grind .] theorem binary (op : BinaryOp) (a b : Value) :
    D.Keeps depth top P (Eval.binary call op a b) := by
  unfold Eval.binary
  cases op <;> grind

end

end Keeps

end ProxyAutoConfig.Script.Discipline
