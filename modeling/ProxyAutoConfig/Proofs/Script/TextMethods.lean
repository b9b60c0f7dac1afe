import ProxyAutoConfig.Proofs.Script.Methods
import ProxyAutoConfig.Proofs.Text.Units

/-!
# Places in texts

What the methods of texts that look for a part, or take one out, give for whole numbers: the place
where a part stands (`textMethod_indexOf`), whether a text begins with a part
(`textMethod_lastIndexOf`), and the end of a text (`textMethod_substring`). A length is such a number
(`Expr.length_yields`), as long as it is no more than a script counts exactly.
-/

namespace ProxyAutoConfig.Script

open ProxyAutoConfig.Text Eval

variable {before : Machine} {h : Embedding} {levels rounds : Nat} {frame : Frame}
  {names : List (Units × Binding)} {S : Machine → Prop} {u v : Value} {t part : Units} {e : Expr}
  {w : Surroundings} {call : Caller}

/-! ## Whole numbers -/

namespace Number

/-- A number that is small enough is kept as it is. -/
theorem ofNat_eq {n : Nat} (small : n ≤ bound) : ofNat n = int n := by
  rw [ofNat, ofInt, if_pos (by rwa [Int.natAbs_natCast])]

/-- What is no number is no place behind the first one. -/
theorem clamp_nan (n : Nat) : (nan.clamp 0 n).toNat = 0 := by
  have zero : nan.truncate? = some 0 := by decide +kernel
  rw [clamp, zero]
  simp only
  omega

/-- A place within a text. -/
theorem clamp_int {i n : Nat} (within : i ≤ n) : ((int i).clamp 0 n).toNat = i := by
  simp only [clamp, truncate?]
  omega

end Number

namespace Eval

/-- Whole numbers are subtracted. -/
theorem sub_eq {a b : Nat} (within : b ≤ a) (small : a ≤ Number.bound) :
    binary call .sub (.number (.int a)) (.number (.int b)) =
      pure (.number (.int (a - b : Nat))) := by
  have difference : (Number.int a).sub (.int b) = .ofNat (a - b) := by
    rw [Number.sub, Number.ofNat, Int.ofNat_sub within]
  rw [binary, arithmetic_eq _ rfl rfl, Value.plainNumber, Value.plainNumber, difference,
    Number.ofNat_eq (Nat.le_trans (Nat.sub_le a b) small)]

/-- Whole numbers are compared. -/
theorem less_eq {a b : Int} :
    binary call .less (.number (.int a)) (.number (.int b)) = pure (.bool (decide (a < b))) := by
  have less : binary call .less (.number (.int a)) (.number (.int b)) =
      pure (.bool (some (decide (a < b)) == some true)) := rfl
  rw [less]
  cases decide (a < b) <;> rfl

theorem greaterEqual_eq {a b : Int} :
    binary call .greaterEqual (.number (.int a)) (.number (.int b)) = pure (.bool (decide (b ≤ a))) := by
  have less : binary call .greaterEqual (.number (.int a)) (.number (.int b)) =
      pure (.bool (some (decide (a < b)) == some false)) := rfl
  rw [less]
  by_cases lt : a < b
  · rw [decide_eq_true lt, decide_eq_false (Int.not_le.mpr lt)]
    rfl
  · rw [decide_eq_false lt, decide_eq_true (Int.not_lt.mp lt)]
    rfl

/-! ## Methods -/

/-- **Where a part first stands in a text.** -/
theorem textMethod_indexOf :
    textMethod call .indexOf (.text t) [.text part] =
      pure (.number (match Units.indexFrom? part t 0 with
        | some i => .ofNat i
        | none => .int (-1))) := by
  have method : textMethod call .indexOf (.text t) [.text part] =
      pure (.number (match Units.indexFrom? part t (Number.nan.clamp 0 t.length).toNat with
        | some i => .ofNat i
        | none => .int (-1))) := rfl
  rw [method, Number.clamp_nan]

/-- So it is told whether a unit stands in a text: its place is negative where it does not. -/
theorem exists_textMethod_indexOf (small : t.length ≤ Number.bound) (x : UInt16) :
    ∃ i : Int, (i < 0 ↔ x ∉ t) ∧ ∀ call,
      textMethod call .indexOf (.text t) [.text [x]] = pure (.number (.int i)) := by
  cases found : Units.indexFrom? [x] t 0 with
  | none =>
    have absent : x ∉ t := Units.indexFrom?_singleton_eq_none.mp found
    exact ⟨-1, iff_of_true (by decide) absent, fun call => by rw [textMethod_indexOf, found]⟩
  | some i =>
    obtain ⟨within, here⟩ := Units.indexFrom?_spec found
    have mem : x ∈ t := List.mem_of_mem_drop (here.subset (List.mem_singleton_self x))
    refine ⟨i, iff_of_false (Int.not_lt.mpr (Int.natCast_nonneg i)) (not_not_intro mem), fun call => ?_⟩
    rw [textMethod_indexOf, found]
    simp only [Number.ofNat_eq (Nat.le_trans within small)]

/-- **Where a part last stands**, looked for at the first place only. -/
theorem textMethod_lastIndexOf :
    textMethod call .lastIndexOf (.text t) [.text part, .number (.int 0)] =
      pure (.number (.int (if part.isPrefixOf t then 0 else -1))) := by
  have method : textMethod call .lastIndexOf (.text t) [.text part, .number (.int 0)] =
      pure (.number (match Units.lastIndexFrom? part t ((Number.int 0).clamp 0 t.length).toNat with
        | some i => .ofNat i
        | none => .int (-1))) := rfl
  have limit : ((Number.int 0).clamp 0 t.length).toNat = 0 := Number.clamp_int (Nat.zero_le _)
  rw [method, limit, Units.lastIndexFrom?_zero]
  cases part.isPrefixOf t <;> rfl

/-- **The end of a text.** -/
theorem textMethod_substring {n : Nat} (small : t.length ≤ Number.bound) (within : n ≤ t.length) :
    textMethod call .substring (.text t) [.number (.int n)] = pure (.text (t.drop n)) := by
  let first := ((Number.int n).clamp 0 t.length).toNat
  let last := ((Number.ofNat t.length).clamp 0 t.length).toNat
  have method : textMethod call .substring (.text t) [.number (.int n)] =
      pure (.text (between t (min first last) (max first last))) := rfl
  have begins : first = n := Number.clamp_int within
  have ends : last = t.length := by
    simp only [last, Number.ofNat_eq small]
    exact Number.clamp_int (Nat.le_refl _)
  rw [method, begins, ends, Nat.min_eq_left within, Nat.max_eq_right within, between,
    List.take_of_length_le (by rw [List.length_drop])]

end Eval

/-! ## Expressions -/

namespace Expr

/-- **A method of a text gives a value** where it does so whatever is called. -/
theorem textMethod_yields (knows : Running.Knows before frame.scope names S) {r : Ref} {tm : TextMethod}
    {name : Units} {arguments : List Expr} {values : List Value}
    (method : before.HasMethod Well.text (Key.ofUnits name) r (.text tm))
    (named : Key.ofUnits name = .name name) (other : Key.ofUnits name ≠ lengthKey)
    (object : Yields S (e.eval ⟨caller h (levels + 1), rounds⟩ frame) (.text t))
    (given : Yields S (evalAll ⟨caller h (levels + 1), rounds⟩ arguments frame) values)
    (gives : ∀ call, textMethod call tm (.text t) values = pure v) :
    Yields S ((Expr.callMember e (.text name) arguments).eval ⟨caller h (levels + 1), rounds⟩ frame)
      v := by
  refine textMethod_leads knows method named other object given ?_
  rw [gives]
  exact Yields.pure S v

/-- **The length of a text.** -/
theorem length_yields (text : Yields S (e.eval w frame) (.text t)) :
    Yields S ((Expr.member e (.text (Units.ofString "length"))).eval w frame)
      (.number (.ofNat t.length)) := by
  simp only [Expr.eval, pure_bind]
  refine text.bind ?_
  rw [memberKey_text rfl, pure_bind]
  exact .pure S _

/-- **The length of an array.** -/
theorem arrayLength_yields {items : List Value}
    (array : Leads S (e.eval w frame) fun a m => S m ∧ ∃ q, a = .object q ∧
      m.objects[q]? = some ⟨.array (items.map some).toArray, some Well.array, []⟩) :
    Yields S ((Expr.member e (.text (Units.ofString "length"))).eval w frame)
      (.number (.ofNat items.length)) := by
  simp only [Expr.eval, pure_bind]
  refine Leads.bind array fun a => ?_
  rintro m ⟨holds, q, rfl, there⟩
  rw [memberKey_text rfl, pure_bind]
  let o : Object := ⟨.array (items.map some).toArray, some Well.array, []⟩
  have size : (items.map some).toArray.size = items.length := by
    rw [List.size_toArray, List.length_map]
  have own : o.own? lengthKey = some ⟨.ofNat items.length, true, false, false⟩ := by
    rw [← size]
    rfl
  have found : findProperty m.objects lengthKey (m.objects.size + 1) q =
      some ⟨.ofNat items.length, true, false, false⟩ := by
    simp only [findProperty, there]
    rw [own]
  have known : property? q lengthKey m = .ok (some ⟨.ofNat items.length, true, false, false⟩) m := by
    rw [property?, found]
  exact ⟨_, m, Outcome.bind_of_ok known, rfl, holds⟩

/-- Where the first operand holds, the second one is asked, -/
theorem and_yields {a b : Expr} {p q : Bool} (first : Yields S (a.eval w frame) (.bool p))
    (second : p = true → Yields S (b.eval w frame) (.bool q)) :
    Yields S ((Expr.logical .and a b).eval w frame) (.bool (p && q)) := by
  simp only [Expr.eval]
  refine first.bind ?_
  cases p with
  | true => exact second rfl
  | false => exact .pure S _

/-- and where it does not hold. -/
theorem or_yields {a b : Expr} {p q : Bool} (first : Yields S (a.eval w frame) (.bool p))
    (second : p = false → Yields S (b.eval w frame) (.bool q)) :
    Yields S ((Expr.logical .or a b).eval w frame) (.bool (p || q)) := by
  simp only [Expr.eval]
  refine first.bind ?_
  cases p with
  | true => exact .pure S _
  | false => exact second rfl

end Expr

end ProxyAutoConfig.Script
