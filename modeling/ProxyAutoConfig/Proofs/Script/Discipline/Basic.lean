import ProxyAutoConfig.Proofs.Outcome
import ProxyAutoConfig.Proofs.Script.Touch

/-!
# Disciplines

A discipline is an invariant of the heap that scripts keep, whatever they do, as long as their
syntax touches nothing that the invariant forbids. It says what holds of the objects and the scopes
(`Discipline.holds`), and what the few steps that change them have to meet so that it goes on to
hold: an object is made, an object is changed as a whole or in one property, a scope is made, a name
in a scope is given another value.

A computation keeps a discipline (`Discipline.Keeps`) when it leaves the heap as the discipline wants
it, however it ends. It also keeps the count of the calls that are under way: as it found it, or, where
a host function has broken down, as the discipline allows (`Discipline.fallen`), but below a bound. A
computation that starts in some scope counts on that
scope, and so do all the steps behind the first one; what they count on is a condition on the scopes
that stays true (`Discipline.Condition`).

Keeping a discipline passes from the steps to what they are put together to (`Keeps.bind`,
`Keeps.capture`, `Keeps.mapM`). The lemmas are marked for `grind`, which goes along the steps and the
branches of a definition.
-/

namespace ProxyAutoConfig.Script

open ProxyAutoConfig.Text

/-! ## Changes of an object -/

namespace Object

/-- A change that makes no function of an object. -/
def Tame (g : Object → Object) : Prop :=
  ∀ o, (g o).code? = none ∨ (g o).code? = o.code?

/-- **A change of a single property**: the object stays what it is besides, up to the items of an
array, and its other properties stay too. -/
structure Within (k : Key) (g : Object → Object) : Prop where
  code : ∀ o, (g o).code? = o.code?
  plain : ∀ o, o.kind = .plain → (g o).kind = .plain
  others : ∀ o k', k' ≠ k → (g o).properties.lookup k' = o.properties.lookup k'

theorem lookup_insert_of_ne {k k' : Key} (ne : k' ≠ k) (p : Property)
    (properties : List (Key × Property)) :
    (insert k p properties).lookup k' = properties.lookup k' := by
  have miss : (k' == k) = false := beq_eq_false_iff_ne.mpr ne
  induction properties with
  | nil => rw [insert, List.lookup_cons, miss]
  | cons head rest ih =>
    obtain ⟨j, q⟩ := head
    rw [insert]
    split
    case isTrue same => rw [same, List.lookup_cons, List.lookup_cons, miss]
    case isFalse other => rw [List.lookup_cons, List.lookup_cons, ih]

theorem lookup_insert_self (k : Key) (p : Property) (properties : List (Key × Property)) :
    (insert k p properties).lookup k = some p := by
  induction properties with
  | nil => rw [insert, List.lookup_cons_self]
  | cons head rest ih =>
    obtain ⟨j, q⟩ := head
    rw [insert]
    split
    case isTrue same => rw [List.lookup_cons_self]
    case isFalse other =>
      rw [List.lookup_cons, beq_eq_false_iff_ne.mpr (Ne.symm other), ih]

theorem lookup_filter_of_ne {k k' : Key} (ne : k' ≠ k) (properties : List (Key × Property)) :
    (properties.filter (·.1 ≠ k)).lookup k' = properties.lookup k' := by
  induction properties with
  | nil => rfl
  | cons head rest ih =>
    obtain ⟨j, q⟩ := head
    by_cases same : j = k
    · rw [List.filter_cons_of_neg (by simpa using same), List.lookup_cons, ih, same,
        beq_eq_false_iff_ne.mpr ne]
    · rw [List.filter_cons_of_pos (by simpa using same), List.lookup_cons, List.lookup_cons, ih]

theorem within_define (k : Key) (p : Property) : Within k (·.define k p) where
  code _ := rfl
  plain _ plain := plain
  others o _ ne := lookup_insert_of_ne ne p o.properties

/-- Other items of an array are no change of its properties. -/
theorem within_put (k : Key) (v : Value) : Within k (·.put k v) where
  code o := by
    unfold put
    split <;> grind [code?, define]
  plain o plain := by
    unfold put
    rw [plain]
    exact plain
  others o k' ne := by
    have defined (p : Property) := (within_define k p).others o k' ne
    unfold put
    split <;> grind

theorem within_remove (k : Key) : Within k (·.remove k) where
  code o := by
    unfold remove
    split <;> grind [code?]
  plain o plain := by
    unfold remove
    rw [plain]
  others o k' ne := by
    unfold remove
    split <;> exact lookup_filter_of_ne ne o.properties

end Object

/-! ## Disciplines -/

/-- **A discipline**: an invariant of the heap, with what keeps it. -/
structure Discipline where
  /-- What holds of the objects and the scopes. -/
  holds : Array Object → Array Scope → Prop
  /-- What has become of the scopes while the invariant was kept. -/
  later : Array Scope → Array Scope → Prop
  /-- Anything but a function may become of the object. -/
  mine : Ref → Prop
  /-- The global object may have whatever it likes under the key. -/
  free : Key → Prop
  /-- The function may be called in the scope. -/
  lawful : Array Scope → Function → Nat → Prop
  /-- Of calls down to a bound so many may be counted, where a host function has broken down behind as
  many as the first number says. -/
  fallen : Nat → Nat → Nat → Prop := fun _ top count => count < top
  fallen_here : ∀ {depth top}, depth < top → fallen depth top depth := by exact id
  fallen_deeper : ∀ {depth top count}, fallen (depth + 1) top count → fallen depth top count := by
    exact id
  fallen_lt : ∀ {depth top count}, fallen depth top count → count < top := by exact id
  later_refl : ∀ scopes, later scopes scopes
  later_trans : ∀ {a b c}, later a b → later b c → later a c
  holds_later : ∀ {objects a b}, later a b → holds objects a → holds objects b
  lawful_later : ∀ {a b f s}, later a b → lawful a f s → lawful b f s
  mine_new : ∀ {objects scopes}, holds objects scopes → mine objects.size
  mine_held : ∀ {objects scopes} {r : Ref} {o : Object}, holds objects scopes → objects[r]? = some o →
    o.kind ≠ .plain → o.code? = none → mine r
  free_of_mine : ∀ {r k}, mine r → r = Well.global → free k
  lawful_held : ∀ {objects scopes} {r : Ref} {o : Object} {f s self}, holds objects scopes → objects[r]? = some o →
    o.code? = some (.script f s self) → lawful scopes f s
  push : ∀ {objects scopes} {o : Object}, holds objects scopes →
    (∀ f s self, o.code? = some (.script f s self) → lawful scopes f s) →
    holds (objects.push o) scopes
  modify : ∀ {objects scopes r g}, holds objects scopes → mine r → Object.Tame g →
    holds (objects.modify r g) scopes
  modify_within : ∀ {objects scopes r k g}, holds objects scopes →
    (r = Well.global → free k) → Object.Within k g → holds (objects.modify r g) scopes

namespace Discipline

variable {D : Discipline}

/-- **What a computation counts on**: something that is true of the scopes, and stays so. -/
structure Condition (D : Discipline) where
  on : Array Scope → Prop
  stable : ∀ {a b}, D.later a b → on a → on b

namespace Condition

/-- Nothing to count on. -/
def any : D.Condition :=
  ⟨fun _ => True, fun _ => id⟩

/-- Both conditions. -/
def both (P Q : D.Condition) : D.Condition :=
  ⟨fun scopes => P.on scopes ∧ Q.on scopes, fun h => And.imp (P.stable h) (Q.stable h)⟩

/-- Something that has nothing to do with scopes. -/
def fact (p : Prop) : D.Condition :=
  ⟨fun _ => p, fun _ => id⟩

/-- The function may be called in the scope. -/
def lawful (f : Function) (s : Nat) : D.Condition :=
  ⟨fun scopes => D.lawful scopes f s, D.lawful_later⟩

/-- Who counts on the one can count on the other. -/
def Has (P Q : D.Condition) : Prop :=
  ∀ scopes, P.on scopes → Q.on scopes

@[grind .] theorem Has.refl (P : D.Condition) : P.Has P :=
  fun _ => id

@[grind .] theorem Has.any (P : D.Condition) : P.Has any :=
  fun _ _ => trivial

@[grind .] theorem Has.right (P Q : D.Condition) : (P.both Q).Has Q :=
  fun _ => And.right

@[grind .] theorem Has.left {P Q : D.Condition} (has : P.Has Q) (R : D.Condition) :
    (P.both R).Has Q :=
  fun scopes h => has scopes h.1

end Condition

open Condition

section

variable {α β : Type} (D) (depth top : Nat)

/-- **How a computation ends that keeps a discipline.** Where a host function has broken down, nothing
is left that counts on the scopes. -/
def Ends (scopes : Array Scope) (Q : α → D.Condition) : EStateM.Result Halt Machine α → Prop
  | .ok a m => m.depth = depth ∧ D.holds m.objects m.scopes ∧ D.later scopes m.scopes ∧
      (Q a).on m.scopes
  | .error (.broken _) m => D.fallen depth top m.depth ∧ D.holds m.objects m.scopes
  | .error _ m => m.depth = depth ∧ D.holds m.objects m.scopes ∧ D.later scopes m.scopes

/-- A computation that keeps a discipline, counting on `P`; of its result, `Q` is true. -/
structure Gives (P : D.Condition) (Q : α → D.Condition) (x : Eval α) : Prop where
  ends : ∀ m, m.depth = depth → D.holds m.objects m.scopes → P.on m.scopes →
    D.Ends depth top m.scopes Q (x m)

/-- A computation that keeps a discipline, and whose result has a property. -/
def Yields (P : D.Condition) (q : α → Prop) (x : Eval α) : Prop :=
  D.Gives depth top P (fun a => fact (q a)) x

/-- **A computation that keeps a discipline.** -/
def Keeps (P : D.Condition) (x : Eval α) : Prop :=
  D.Gives depth top P (fun _ => any) x

/-- Calls that keep a discipline, whatever is called. -/
def KeepsCalls (call : Caller) : Prop :=
  ∀ P c, D.Keeps depth top P (call c)

end

variable {α β : Type} {depth top : Nat} {P : D.Condition} {x : Eval α}

/-! ## Weaker statements -/

/-- A halt is the same whatever the computation would have returned, and the scopes before the last
steps are earlier than those at the end. -/
theorem Ends.error {before scopes : Array Scope} {Q : α → D.Condition} {R : β → D.Condition}
    {halt : Halt} {m : Machine} (ends : D.Ends depth top scopes Q (.error halt m))
    (earlier : D.later before scopes) : D.Ends depth top before R (.error halt m) := by
  cases halt with
  | broken message => exact ends
  | limit | thrown v =>
    obtain ⟨count, holds, later⟩ := ends
    exact ⟨count, holds, D.later_trans earlier later⟩

/-- What ends well for the later scopes ends well for the earlier ones. -/
theorem Ends.mono {before scopes : Array Scope} {Q R : α → D.Condition}
    {result : EStateM.Result Halt Machine α} (ends : D.Ends depth top scopes Q result)
    (earlier : D.later before scopes) (weaker : ∀ a, (Q a).Has (R a)) :
    D.Ends depth top before R result := by
  cases result with
  | error halt m => exact ends.error earlier
  | ok a m =>
    obtain ⟨count, holds, later, here⟩ := ends
    exact ⟨count, holds, D.later_trans earlier later, weaker a _ here⟩

theorem Gives.mono {P' : D.Condition} {Q R : α → D.Condition} (gives : D.Gives depth top P Q x)
    (stronger : P'.Has P) (weaker : ∀ a, (Q a).Has (R a)) : D.Gives depth top P' R x :=
  ⟨fun m found holds here =>
    (gives.ends m found holds (stronger _ here)).mono (D.later_refl _) weaker⟩

theorem Gives.keeps {Q : α → D.Condition} (gives : D.Gives depth top P Q x) :
    D.Keeps depth top P x :=
  gives.mono (.refl P) fun _ => .any _

theorem Yields.keeps {q : α → Prop} (yields : D.Yields depth top P q x) : D.Keeps depth top P x :=
  Gives.keeps yields

theorem Keeps.mono {P' : D.Condition} (keeps : D.Keeps depth top P x) (stronger : P'.Has P) :
    D.Keeps depth top P' x :=
  Gives.mono keeps stronger fun _ => .refl _

/-- A computation that keeps a discipline has a result of which all is true that is true of every
result. -/
theorem Keeps.yields {q : α → Prop} (keeps : D.Keeps depth top P x)
    (always : ∀ m a after, x m = .ok a after → q a) : D.Yields depth top P q x := by
  refine ⟨fun m found holds here => ?_⟩
  have ends := keeps.ends m found holds here
  cases outcome : x m with
  | ok a after =>
    rw [outcome] at ends
    obtain ⟨count, holds, later, _⟩ := ends
    exact ⟨count, holds, later, always m a after outcome⟩
  | error halt after =>
    rw [outcome] at ends
    exact ends.error (D.later_refl _)

/-! ## Putting computations together -/

/-- **One step after another.** The second one may count on what is true of the first one's result. -/
theorem Gives.bind {Q : α → D.Condition} {R : β → D.Condition} {f : α → Eval β}
    (first : D.Gives depth top P Q x) (next : ∀ a, D.Gives depth top (P.both (Q a)) R (f a)) :
    D.Gives depth top P R (x >>= f) := by
  refine ⟨fun m found holds here => ?_⟩
  have ends := first.ends m found holds here
  cases outcome : x m with
  | ok a after =>
    rw [outcome] at ends
    obtain ⟨count, holds, later, result⟩ := ends
    rw [Outcome.bind_of_ok outcome]
    exact ((next a).ends after count holds ⟨P.stable later here, result⟩).mono later
      fun _ => .refl _
  | error halt after =>
    rw [outcome] at ends
    rw [Outcome.bind_of_error outcome]
    exact ends.error (D.later_refl _)

theorem Gives.bind_keeps {Q : α → D.Condition} {f : α → Eval β}
    (first : D.Gives depth top P Q x) (next : ∀ a, D.Keeps depth top (P.both (Q a)) (f a)) :
    D.Keeps depth top P (x >>= f) :=
  first.bind next

theorem Gives.pure {Q : α → D.Condition} (a : α) (here : P.Has (Q a)) :
    D.Gives depth top P Q (Pure.pure a) :=
  ⟨fun _ found holds on => ⟨found, holds, D.later_refl _, here _ on⟩⟩

/-- A fact holds once and for all. -/
theorem Gives.of_fact {p : Prop} {R : β → D.Condition} {y : Eval β}
    (gives : p → D.Gives depth top P R y) : D.Gives depth top (P.both (fact p)) R y :=
  ⟨fun m found holds here => (gives here.2).ends m found holds here.1⟩

namespace Yields

theorem pure {q : α → Prop} {a : α} (has : q a) : D.Yields depth top P q (Pure.pure a) :=
  Gives.pure a fun _ _ => has

/-- The next step may count on the property of the result. -/
theorem bind_gives {q : α → Prop} {R : β → D.Condition} {f : α → Eval β}
    (first : D.Yields depth top P q x) (next : ∀ a, q a → D.Gives depth top P R (f a)) :
    D.Gives depth top P R (x >>= f) :=
  Gives.bind first fun a => .of_fact (next a)

theorem bind_yields {q : α → Prop} {q' : β → Prop} {f : α → Eval β}
    (first : D.Yields depth top P q x) (next : ∀ a, q a → D.Yields depth top P q' (f a)) :
    D.Yields depth top P q' (x >>= f) :=
  first.bind_gives next

@[grind .] theorem bind {q : α → Prop} {f : α → Eval β}
    (first : D.Yields depth top P q x) (next : ∀ a, q a → D.Keeps depth top P (f a)) :
    D.Keeps depth top P (x >>= f) :=
  first.bind_gives next

end Yields

namespace Keeps

@[grind .] theorem pure (a : α) : D.Keeps depth top P (Pure.pure a : Eval α) :=
  Gives.pure a (.any P)

@[grind .] theorem throwValue (v : Value) : D.Keeps depth top P (Eval.throwValue v : Eval α) :=
  ⟨fun _ found holds _ => ⟨found, holds, D.later_refl _⟩⟩

@[grind .] theorem limit : D.Keeps depth top P (throw .limit : Eval α) :=
  ⟨fun _ found holds _ => ⟨found, holds, D.later_refl _⟩⟩

/-- A host function may break down where a level is left. -/
theorem broken (left : depth < top) (message : String) :
    D.Keeps depth top P (throw (.broken message) : Eval α) := by
  refine ⟨?_⟩
  rintro m rfl holds -
  exact ⟨D.fallen_here left, holds⟩

theorem bind_gives {R : β → D.Condition} {f : α → Eval β} (first : D.Keeps depth top P x)
    (next : ∀ a, D.Gives depth top P R (f a)) : D.Gives depth top P R (x >>= f) :=
  Gives.bind first fun a => (next a).mono (.left (.refl P) _) fun _ => .refl _

/-- **One step after another.** -/
@[grind .] theorem bind {f : α → Eval β} (first : D.Keeps depth top P x)
    (next : ∀ a, D.Keeps depth top P (f a)) : D.Keeps depth top P (x >>= f) :=
  bind_gives first next

/-- A value that is thrown and caught leaves what it found. -/
@[grind .] theorem capture (keeps : D.Keeps depth top P x) :
    D.Keeps depth top P (Eval.capture x) := by
  refine ⟨fun m found holds here => ?_⟩
  have ends := keeps.ends m found holds here
  rw [Eval.capture]
  cases outcome : x m with
  | ok a after =>
    rw [outcome] at ends
    exact ends
  | error halt after =>
    rw [outcome] at ends
    cases halt with
    | broken message => exact ends
    | limit => exact ends
    | thrown v =>
      obtain ⟨count, holds, later⟩ := ends
      exact ⟨count, holds, later, trivial⟩

/-- A look at the machine. -/
theorem read (f : Machine → α) : D.Keeps depth top P (fun m => .ok (f m) m) :=
  ⟨fun _ found holds _ => ⟨found, holds, D.later_refl _, trivial⟩⟩

@[grind .] theorem mapM {f : α → Eval β} (each : ∀ a, D.Keeps depth top P (f a))
    (as : List α) : D.Keeps depth top P (as.mapM f) := by
  induction as with
  | nil => exact .pure []
  | cons a as ih =>
    rw [List.mapM_cons]
    exact (each a).bind fun b => ih.bind fun bs => .pure (b :: bs)

@[grind .] theorem filterM {f : α → Eval Bool} (each : ∀ a, D.Keeps depth top P (f a))
    (as : List α) : D.Keeps depth top P (as.filterM f) := by
  have collected : ∀ kept, D.Keeps depth top P (as.filterAuxM f kept) := by
    induction as with
    | nil => exact fun kept => .pure kept
    | cons a as ih => exact fun kept => (each a).bind fun keep => ih _
  exact (collected []).bind fun kept => .pure kept.reverse

theorem forM_mem {f : α → Eval PUnit} {as : List α}
    (each : ∀ a ∈ as, D.Keeps depth top P (f a)) : D.Keeps depth top P (as.forM f) := by
  induction as with
  | nil => exact .pure PUnit.unit
  | cons a as ih =>
    obtain ⟨here, behind⟩ := List.forall_mem_cons.mp each
    exact here.bind fun _ => ih behind

@[grind .] theorem forM {f : α → Eval PUnit} (each : ∀ a, D.Keeps depth top P (f a))
    (as : List α) : D.Keeps depth top P (as.forM f) :=
  forM_mem fun a _ => each a

end Keeps

@[grind =] theorem keepsCalls_iff {call : Caller} :
    D.KeepsCalls depth top call ↔ ∀ P c, D.Keeps depth top P (call c) :=
  Iff.rfl

end Discipline

end ProxyAutoConfig.Script
