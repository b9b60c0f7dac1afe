import ProxyAutoConfig.Proofs.Script.Discipline.Heap
import ProxyAutoConfig.Script.Methods.Basic

/-!
# Disciplines and the functions that every script has

The functions that every script has keep every discipline where the calls do that they make. What
they change themselves are arrays and patterns, which are never the global object or a function.
-/

namespace ProxyAutoConfig.Script.Discipline

open ProxyAutoConfig.Text Condition

variable {D : Discipline} {depth top : Nat} {P : D.Condition}

/-! ## Arrays and patterns -/

/-- What is known of an object that something has been found out about. -/
theorem object_yields (r : Ref) :
    D.Yields depth top P (fun o => o.kind ≠ .plain → o.code? = none → D.mine r)
      (Eval.object r) := by
  refine ⟨fun m found holds _ => ⟨found, holds, D.later_refl _, fun special code => ?_⟩⟩
  cases there : m.objects[r]? with
  | none => simp only [there, Option.getD_none] at special; exact absurd rfl special
  | some o =>
    simp only [there, Option.getD_some] at special code
    exact D.mine_held holds there special code

theorem newPattern_yields (p : Regex.Pattern) :
    D.Yields depth top P D.Made (Eval.newPattern p) := by
  refine (allocate_yields_other rfl).bind_yields fun r mine => .pure ?_
  rintro _ ⟨⟩
  exact mine

/-- The reference that goes with a result is that of the script's own object. -/
def Own {β : Type} (D : Discipline) (found : Option (Ref × β)) : Prop :=
  ∀ r b, found = some (r, b) → D.mine r

theorem Own.none {β : Type} : D.Own (none : Option (Ref × β)) := by
  rintro _ _ ⟨⟩

theorem Own.some {β : Type} {r : Ref} (mine : D.mine r) (b : β) : D.Own (some (r, b)) := by
  rintro _ _ ⟨⟩
  exact mine

/-- An array is never a function or the global object. -/
theorem arrayItems?_yields (v : Value) : D.Yields depth top P D.Own (Eval.arrayItems? v) := by
  unfold Eval.arrayItems?
  cases v with
  | object r =>
    refine (object_yields r).bind_yields fun o mine => ?_
    cases kind : o.kind with
    | array items => exact .pure (.some (mine (by simp [kind]) (by simp [Object.code?, kind])) _)
    | _ => exact .pure .none
  | _ => exact .pure .none

/-- A pattern is never a function or the global object. -/
theorem pattern?_yields (v : Value) : D.Yields depth top P D.Own (Eval.pattern? v) := by
  unfold Eval.pattern?
  cases v with
  | object r =>
    refine (object_yields r).bind_yields fun o mine => ?_
    cases kind : o.kind with
    | pattern p => exact .pure (.some (mine (by simp [kind]) (by simp [Object.code?, kind])) _)
    | _ => exact .pure .none
  | _ => exact .pure .none

namespace Keeps

@[grind .] theorem heldValue (v : Value) : D.Keeps depth top P (Eval.heldValue v) := by
  unfold Eval.heldValue
  grind

@[grind .] theorem newPattern (p : Regex.Pattern) : D.Keeps depth top P (Eval.newPattern p) :=
  (newPattern_yields p).keeps

@[grind .] theorem pattern? (v : Value) : D.Keeps depth top P (Eval.pattern? v) :=
  (pattern?_yields v).keeps

@[grind .] theorem heldText (v : Value) : D.Keeps depth top P (Eval.heldText v) := by
  unfold Eval.heldText
  grind

@[grind .] theorem arrayItems? (v : Value) : D.Keeps depth top P (Eval.arrayItems? v) :=
  (arrayItems?_yields v).keeps

theorem setItems {r : Ref} (mine : D.mine r) (items : List (Option Value)) :
    D.Keeps depth top P (Eval.setItems r items) :=
  change mine fun _ => .inl rfl

/-- An array with these items is made. -/
theorem fillArray (items : List (Option Value)) :
    D.Keeps depth top P (do
      let made ← Eval.newArray []
      if let .object r := made then Eval.setItems r items
      return made) :=
  (newArray_yields []).bind fun made own => by
    cases made with
    | object r => exact .bind (setItems (own r rfl) items) fun _ => .pure _
    | _ => exact .bind (.pure _) fun _ => .pure _

@[grind .] theorem matchArray (u : Units) (m : Regex.Match) :
    D.Keeps depth top P (Eval.matchArray u m) :=
  (newArray_yields _).bind fun _ made =>
    .bind (setMember (made.openMember _) _) fun _ =>
    .bind (setMember (made.openMember _) _) fun _ => .pure _

@[grind .] theorem makeArray (arguments : List Value) :
    D.Keeps depth top P (Eval.makeArray arguments) := by
  have sized (v : Value) : D.Keeps depth top P (do
      let made ← Eval.newArray []
      Eval.setMember made lengthKey v
      return made) :=
    (newArray_yields []).bind fun made own =>
      .bind (setMember (own.openMember _) v) fun _ => .pure _
  unfold Eval.makeArray
  split
  · split
    · split
      · exact .bind (.fail _ _) fun _ => sized _
      · exact sized _
    · exact .fail _ _
  · exact .newArray _

theorem changeArray (m : ArrayMethod) {r : Ref} (mine : D.mine r) (items : List (Option Value))
    (arguments : List Value) : D.Keeps depth top P (Eval.changeArray m r items arguments) := by
  have set (items : List (Option Value)) : D.Keeps depth top P (Eval.setItems r items) :=
    setItems mine items
  unfold Eval.changeArray
  cases m with
  | push =>
    refine .bind (.forM (fun v => change mine fun o => ?_) _) fun _ => .pure _
    grind [Object.code?]
  | _ => grind

section

variable {call : Caller} (calls : D.KeepsCalls depth top call)
include calls

/-! ## Patterns -/

theorem matchPattern {r : Ref} (mine : D.mine r) (p : Regex.Pattern) (u : Units) :
    D.Keeps depth top P (Eval.matchPattern call r p u) := by
  have set (k : Key) (v : Value) : D.Keeps depth top P (Eval.set r k v) := set (.of_mine mine k) v
  unfold Eval.matchPattern
  grind

@[grind .] theorem patternMethod (m : PatternMethod) (self : Value) (arguments : List Value) :
    D.Keeps depth top P (Eval.patternMethod call m self arguments) := by
  refine (pattern?_yields self).bind fun found own => ?_
  cases found with
  | none => exact .fail _ _
  | some found =>
    obtain ⟨r, p⟩ := found
    have matched (u : Units) : D.Keeps depth top P (Eval.matchPattern call r p u) :=
      matchPattern calls (own r p rfl) p u
    cases m <;> grind

/-! ## Texts -/

@[grind .] theorem numberOr (v : Value) (n : Number) :
    D.Keeps depth top P (Eval.numberOr call v n) := by
  unfold Eval.numberOr
  grind

@[grind .] theorem plainPart (v : Value) : D.Keeps depth top P (Eval.plainPart call v) := by
  unfold Eval.plainPart
  grind

@[grind .] theorem replaceMatches (u : Units) (replacement : Value) (function : Bool)
    (start : Nat) (found : List Regex.Match) :
    D.Keeps depth top P (Eval.replaceMatches call u replacement function start found) := by
  induction found generalizing start with
  | nil => exact .pure _
  | cons m rest ih =>
    unfold Eval.replaceMatches
    grind

@[grind .] theorem replaceText (u : Units) (what replacement : Value) :
    D.Keeps depth top P (Eval.replaceText call u what replacement) := by
  refine (pattern?_yields what).bind fun found own => ?_
  cases found with
  | none => grind
  | some found =>
    obtain ⟨r, p⟩ := found
    have mine := own r p rfl
    have matched : D.Keeps depth top P (Eval.matchPattern call r p u) := matchPattern calls mine p u
    have rewound : D.Keeps depth top P (Eval.set r lastIndexKey (.ofNat 0)) :=
      set (.of_mine mine _) _
    grind

@[grind .] theorem splitText (u : Units) (separator : Value) :
    D.Keeps depth top P (Eval.splitText call u separator) := by
  unfold Eval.splitText
  grind

/-- What a text is matched against is an object of the script's own. -/
theorem patternOf_yields (v : Value) :
    D.Yields depth top P (fun found => D.mine found.1) (Eval.patternOf call v) := by
  refine (pattern?_yields v).bind_yields fun found own => ?_
  cases found with
  | some found =>
    obtain ⟨r, p⟩ := found
    exact .pure (own r p rfl)
  | none =>
    cases v
    all_goals
      refine Keeps.bind_gives (by first | exact .pure _ | exact toText calls _) fun source => ?_
      dsimp only
      split
      · refine (newPattern_yields _).bind_yields fun made own => ?_
        cases made with
        | object r => exact .pure (own r rfl)
        | _ => exact fail_yields _ _
      · exact fail_yields _ _

omit calls in
/-- What comes behind a check. -/
theorem guarded {c : Prop} [Decidable c] (kind : ErrorKind) (message : String) {y : Eval Value}
    (keeps : D.Keeps depth top P y) :
    D.Keeps depth top P (if c then do
      Eval.fail kind message
      y
    else y) := by
  split
  · exact .bind (.fail _ _) fun _ => keeps
  · exact keeps

@[grind .] theorem textMethod (m : TextMethod) (self : Value) (arguments : List Value) :
    D.Keeps depth top P (Eval.textMethod call m self arguments) := by
  unfold Eval.textMethod
  cases m with
  | «match» =>
    refine guarded _ _ (.bind (.toText calls self) fun u =>
      (patternOf_yields calls _).bind fun found mine => ?_)
    obtain ⟨r, p⟩ := found
    have matched : D.Keeps depth top P (Eval.matchPattern call r p u) := matchPattern calls mine p u
    have rewound : D.Keeps depth top P (Eval.set r lastIndexKey (.ofNat 0)) :=
      set (.of_mine mine _) _
    grind
  | search =>
    exact guarded _ _ (.bind (.toText calls self) fun u =>
      .bind (patternOf_yields calls _).keeps fun _ => .pure _)
  | _ => grind

/-! ## Arrays -/

@[grind .] theorem placed (v : Value) : D.Keeps depth top P (Eval.placed call v) := by
  unfold Eval.placed
  grind

@[grind .] theorem joinItems (separator : Units) (items : List (Option Value)) :
    D.Keeps depth top P (Eval.joinItems call separator items) := by
  unfold Eval.joinItems
  grind

@[grind .] theorem callback (f self array : Value) (item : Nat × Value) :
    D.Keeps depth top P (Eval.callback call f self array item) := by
  unfold Eval.callback
  grind

@[grind .] theorem anyItem (f self array : Value) (wish : Bool) (items : List (Nat × Value)) :
    D.Keeps depth top P (Eval.anyItem call f self array wish items) := by
  induction items with
  | nil => exact .pure false
  | cons item rest ih =>
    unfold Eval.anyItem
    grind

@[grind .] theorem arrayMethod (m : ArrayMethod) (self : Value) (arguments : List Value) :
    D.Keeps depth top P (Eval.arrayMethod call m self arguments) := by
  unfold Eval.arrayMethod
  cases m with
  | push | pop | shift | unshift | reverse =>
    refine (arrayItems?_yields self).bind fun found own => ?_
    cases found with
    | none => exact .fail _ _
    | some found =>
      obtain ⟨r, items⟩ := found
      exact changeArray _ (own r items rfl) _ _
  | map =>
    refine .bind (placed calls self) fun items => .bind (.code? _) fun code =>
      guarded _ _ (.bind (.mapM (fun item => ?_) _) fun mapped => fillArray mapped)
    obtain ⟨v, i⟩ := item
    cases v with
    | some v => exact .bind (callback calls _ _ _ _) fun _ => .pure _
    | none => exact .pure _
  | slice =>
    exact .bind (placed calls self) fun items => .bind (.toNumber calls _) fun a =>
      .bind (numberOr calls _ _) fun b => fillArray _
  | concat =>
    refine .bind (.mapM (fun v => .bind (.arrayItems? v) fun found => ?_) _) fun parts =>
      fillArray _
    cases found <;> exact .pure _
  | _ => grind

/-! ## Numbers, objects and functions -/

@[grind .] theorem numberFunction (m : NumberFunction) (arguments : List Value) :
    D.Keeps depth top P (Eval.numberFunction call m arguments) := by
  unfold Eval.numberFunction
  cases m <;> grind

@[grind .] theorem errorPart (r : Ref) (k : Key) (other : String) :
    D.Keeps depth top P (Eval.errorPart call r k other) := by
  unfold Eval.errorPart
  grind

@[grind .] theorem objectMethod (m : ObjectMethod) (self : Value) (arguments : List Value) :
    D.Keeps depth top P (Eval.objectMethod call m self arguments) := by
  unfold Eval.objectMethod
  cases m <;> grind

@[grind .] theorem functionMethod (m : FunctionMethod) (self : Value) (arguments : List Value) :
    D.Keeps depth top P (Eval.functionMethod call m self arguments) := by
  unfold Eval.functionMethod
  cases m <;> grind

/-! ## Makers -/

@[grind .] theorem makeError (kind : ErrorKind) (message : Value) :
    D.Keeps depth top P (Eval.makeError call kind message) := by
  have bare : D.Keeps depth top P (Eval.allocate ⟨.error, some (Well.error kind), []⟩) :=
    (allocate_yields_other rfl).keeps
  unfold Eval.makeError
  grind

@[grind .] theorem readPattern (source : Units) (flags : Value) :
    D.Keeps depth top P (Eval.makePattern.read call source flags) := by
  unfold Eval.makePattern.read
  grind

@[grind .] theorem makePattern (arguments : List Value) :
    D.Keeps depth top P (Eval.makePattern call arguments) := by
  unfold Eval.makePattern
  grind

@[grind .] theorem make (m : Maker) (new : Bool) (arguments : List Value) :
    D.Keeps depth top P (Eval.make call m new arguments) := by
  unfold Eval.make
  cases m <;> grind

@[grind .] theorem makerFunction (m : MakerFunction) (arguments : List Value) :
    D.Keeps depth top P (Eval.makerFunction call m arguments) := by
  unfold Eval.makerFunction
  cases m <;> grind

/-! ## All functions -/

/-- **The functions that every script has keep every discipline.** -/
@[grind .] theorem applyBuiltin (b : Builtin) (self : Value) (arguments : List Value) :
    D.Keeps depth top P (Eval.applyBuiltin call b self arguments) := by
  unfold Eval.applyBuiltin
  cases b <;> grind

@[grind .] theorem constructBuiltin (b : Builtin) (arguments : List Value) :
    D.Keeps depth top P (Eval.constructBuiltin call b arguments) := by
  unfold Eval.constructBuiltin
  cases b <;> grind

end

end Keeps

end ProxyAutoConfig.Script.Discipline
