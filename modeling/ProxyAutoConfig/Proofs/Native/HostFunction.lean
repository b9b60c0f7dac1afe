import ProxyAutoConfig.Native.Table
import ProxyAutoConfig.Proofs.Script.GlobalObject
import ProxyAutoConfig.Proofs.Script.Names
import ProxyAutoConfig.Proofs.Text.Units

/-!
# Adding a host function

A host function is added as a new object and as a property of the global object (`Native.addedTo`),
unless the global object has a property of its name for good.
-/

namespace ProxyAutoConfig

open ProxyAutoConfig.Script ProxyAutoConfig.Text

namespace Native

variable {native : Native} {m : Machine} {i : Nat}

/-- The key of the property that holds a host function. -/
def key (native : Native) : Key :=
  Key.ofUnits (Units.ofString native.name)

/-- The function that scripts see of the host function at a place. -/
def object (native : Native) (i : Nat) : Object :=
  ⟨.function (.host i), some Well.function,
    [(lengthKey, ⟨.ofNat native.length, false, false, true⟩),
      (nameKey, ⟨.text (Units.ofString native.name), false, false, true⟩)]⟩

/-- The machine with the host function at a place: a new object, and a property that holds it. -/
def addedTo (native : Native) (i : Nat) (m : Machine) : Machine :=
  (m.withObject (native.object i)).withGlobal native.key (.hidden (.object m.objects.size))

/-- Host functions with one key have one name. -/
theorem name_eq_of_key_eq {other : Native} (same : native.key = other.key) : native.name = other.name :=
  Units.ofString_injective (Key.ofUnits_injective same)

section Added

variable (had : m.HasGlobal)
include had

/-- There is a new object behind those that were there, -/
theorem getElem?_addedTo_self :
    (native.addedTo i m).objects[m.objects.size]? = some (native.object i) := by
  have other : m.objects.size ≠ Well.global := Nat.ne_of_gt had.lt
  rw [addedTo, Machine.getElem?_withGlobal other, Machine.withObject, Array.getElem?_push, if_pos rfl]

/-- the global object holds it, -/
theorem global?_addedTo (k : Key) : (native.addedTo i m).global? k =
    if k = native.key then some (.hidden (.object m.objects.size)) else m.global? k := by
  rw [addedTo, Machine.global?_withGlobal (had.withObject _), Machine.global?_withObject had]

/-- and still is one that holds nothing but its properties. -/
theorem hasGlobal_addedTo : (native.addedTo i m).HasGlobal :=
  (had.withObject _).withGlobal _ _

end Added

theorem size_addedTo : (native.addedTo i m).objects.size = m.objects.size + 1 := by
  rw [addedTo, Machine.withGlobal, Machine.withObject, Array.size_modify, Array.size_push]

theorem getElem?_addedTo {r : Ref} (old : r < m.objects.size) (other : r ≠ Well.global) :
    (native.addedTo i m).objects[r]? = m.objects[r]? := by
  rw [addedTo, Machine.getElem?_withGlobal other, Machine.getElem?_withObject old]

/-- To add a host function is to look at what the global object has under its name. -/
theorem addHost_eq : Realm.addHost native.name native.length i m =
    (match m.global? native.key with
      | some ⟨_, _, _, false⟩ => Eval.fail .typeError "a fixed property cannot be redefined"
      | _ => do
        let r ← Eval.newFunction (.host i) (Units.ofString native.name) native.length
        Eval.change Well.global (·.define native.key (Property.hidden (.object r)))) m :=
  rfl

/-- It is added where the object has nothing there for good. -/
theorem addHost_of_free (free : ¬ m.Fixes native.key) :
    Realm.addHost native.name native.length i m = .ok () (native.addedTo i m) := by
  rw [addHost_eq]
  rcases found : m.global? native.key with _ | ⟨value, writable, enumerable, _ | _⟩
  · rfl
  · exact absurd ⟨_, found, rfl⟩ free
  · rfl

/-- Where it has one, an error is made and thrown, -/
theorem exists_addHost_of_fixed (fixed : m.Fixes native.key) :
    ∃ o, Realm.addHost native.name native.length i m =
      .error (.thrown (.object m.objects.size)) (m.withObject o) := by
  obtain ⟨⟨value, writable, enumerable, configurable⟩, found, rfl⟩ := fixed
  rw [addHost_eq, found]
  exact ⟨_, rfl⟩

/-- and nothing else happens while it is told. -/
theorem exists_finish_addHost (fixed : m.Fixes native.key) :
    ∃ text o, Eval.finish (Realm.addHost native.name native.length i) m =
      (.error (.shown text), m.withObject o) := by
  obtain ⟨o, thrown⟩ := exists_addHost_of_fixed fixed (i := i)
  obtain ⟨u, shown⟩ := Eval.onlyReads_thrownText (.object m.objects.size) (m.withObject o)
  refine ⟨Units.toEscapedString u, o, ?_⟩
  simp only [Eval.finish, thrown, shown]

end Native

end ProxyAutoConfig
