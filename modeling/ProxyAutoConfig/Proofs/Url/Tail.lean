import ProxyAutoConfig.Proofs.TwoRuns
import ProxyAutoConfig.Proofs.Url.Parts

/-!
# What stands behind an authority

An authority ends at a character of its own kind, and what stands behind this character is not
looked at until user information, host and port have been told. So two texts that are the same up to
this character are read as URLs with one host, or are refused with one flaw
(`readHierarchical_tail`), whatever their paths are.
-/

namespace ProxyAutoConfig.Url

open ProxyAutoConfig.Text

variable {special : Bool} {stop : Char}

/-- Where a text is cut in front of a character is told from what stands in front of one. -/
theorem cutBefore_tail {p : Char → Bool} (stops : p stop = true) (front tail : List Char) :
    cutBefore p (front ++ stop :: tail) =
      ((cutBefore p front).1, (cutBefore p front).2 ++ stop :: tail) := by
  induction front with
  | nil =>
    simp only [cutBefore, List.nil_append, List.takeWhile_cons, List.dropWhile_cons, stops,
      Bool.not_true, Bool.false_eq_true, if_false, List.takeWhile_nil, List.dropWhile_nil]
  | cons c front ih =>
    simp only [cutBefore, Prod.mk.injEq] at ih
    simp only [cutBefore, List.cons_append, List.takeWhile_cons, List.dropWhile_cons]
    cases p c with
    | true => simp only [Bool.not_true, Bool.false_eq_true, if_false, List.cons_append]
    | false => simp only [Bool.not_false, if_true, ih]

/-- The text of a host is told from there too. -/
theorem splitHost_tail (stops : endsAuthority special stop = true) (inside : Bool)
    (front tail : List Char) :
    splitHost special inside (front ++ stop :: tail) =
      ((splitHost special inside front).1,
        (splitHost special inside front).2 ++ stop :: tail) := by
  induction front generalizing inside with
  | nil => simp only [List.nil_append, splitHost, stops, Bool.or_true, if_true]
  | cons c front ih =>
    rw [List.cons_append, splitHost, splitHost]
    split
    · rfl
    · rw [ih]

/-- What ends an authority ends a port. -/
theorem of_endsAuthority {c : Char} (ends : endsAuthority special c = true) :
    c.isDigit = false ∧ c ≠ ':' ∧ endsAuthority true c = true := by
  simp only [endsAuthority, Bool.or_eq_true, beq_iff_eq, Bool.and_eq_true] at ends
  rcases ends with ((rfl | rfl) | rfl) | ⟨-, rfl⟩ <;> decide

/-- Without a colon in front there is no port. -/
theorem readPort_of_ne {c : Char} (noColon : c ≠ ':') (own : Option UInt16) (cs : List Char) :
    readPort own (c :: cs) = .ok (none, c :: cs) := by
  unfold readPort
  split
  · next same => exact absurd (List.cons.inj same).1 noColon
  · rfl

/-- And so is the port. -/
theorem readPort_tail (stops : endsAuthority special stop = true) (own : Option UInt16)
    (front tail : List Char) :
    readPort own (front ++ stop :: tail) =
      (readPort own front).map fun found => (found.1, found.2 ++ stop :: tail) := by
  obtain ⟨noDigit, noColon, ends⟩ := of_endsAuthority stops
  cases front with
  | nil => exact readPort_of_ne noColon own tail
  | cons c front =>
    by_cases colon : c = ':'
    · subst colon
      have cut := cutBefore_tail (p := fun c => !c.isDigit) (by rw [noDigit]; rfl) front tail
      cases parts : cutBefore (fun c => !c.isDigit) front with
      | mk digits behind =>
        rw [parts] at cut
        -- Whether the digits end well is seen at the next character, which is `stop` where the text
        -- in front of it has been used up.
        cases behind <;>
          simp only [List.cons_append, readPort, cut, parts, List.nil_append, ends] <;>
          cases numberFrom? 10 0 digits with
          | none => rfl
          | some n =>
            simp only
            split
            · rfl
            · split <;> rfl
    · rw [List.cons_append, readPort_of_ne colon, readPort_of_ne colon]
      rfl

/-- User information is told from there as well. -/
theorem exists_splitUserinfo_tail (stops : endsAuthority special stop = true)
    (front : List Char) :
    ∃ outcome : Except Flaw (Userinfo × List Char), ∀ tail,
      splitUserinfo special (front ++ stop :: tail) =
        outcome.map fun found => (found.1, found.2 ++ stop :: tail) := by
  have cut := cutBefore_tail stops front
  cases parts : cutBefore (endsAuthority special) front with
  | mk authority behind =>
    simp only [parts] at cut
    cases last : cutLast? '@' authority with
    | none =>
      refine ⟨.ok (⟨"", none⟩, front), fun tail => ?_⟩
      simp only [splitUserinfo, cut, last, Except.map]
    | some sides =>
      obtain ⟨info, host⟩ := sides
      have left : ∀ tail, (behind ++ stop :: tail).isEmpty = false := by
        intro tail
        cases behind <;> rfl
      refine ⟨if info.isEmpty && host.isEmpty then .error .emptyHost
        else .ok (readUserinfo info, host ++ behind), fun tail => ?_⟩
      simp only [splitUserinfo, cut, last, left, Bool.not_false, Bool.and_true]
      split
      · rfl
      · simp only [Except.map, List.append_assoc]

/-- **What stands behind an authority matters neither for the host nor for any flaw.** -/
theorem readHierarchical_tail {scheme : String} (notFile : Scheme.kind scheme ≠ .file)
    (stops : endsAuthority (Scheme.kind scheme).isSpecial stop = true)
    (front tail tail' : List Char) :
    Outcome.Alike (fun a b => a.host = b.host ∧ a.isOpaque = b.isOpaque)
      (readHierarchical scheme (front ++ stop :: tail))
      (readHierarchical scheme (front ++ stop :: tail')) := by
  obtain ⟨outcome, split⟩ := exists_splitUserinfo_tail stops front
  cases outcome with
  | error flaw =>
    simp only [readHierarchical, split]
    exact .error flaw
  | ok found =>
    obtain ⟨info, place⟩ := found
    cases named : Host.reading (Scheme.kind scheme).isSpecial
        (splitHost (Scheme.kind scheme).isSpecial false place).1 with
    | error flaw =>
      simp only [readHierarchical, split, Except.map, Outcome.ok_bind,
        readHost_eq notFile (splitHost_tail stops false place _), named, Outcome.error_bind]
      exact .error flaw
    | ok host =>
      simp only [readHierarchical, split, Except.map, Outcome.ok_bind,
        readHost_eq notFile (splitHost_tail stops false place _), named, Outcome.ok_bind,
        List.head?_append, List.head?_cons, readPort_tail stops]
      split
      · exact .error _
      · cases readPort (ownPort (Scheme.kind scheme))
            (splitHost (Scheme.kind scheme).isSpecial false place).2 with
        | error flaw => exact .error flaw
        | ok found =>
          simp only [Outcome.ok_bind]
          split
          · exact .error _
          · refine .ok ⟨rfl, ?_⟩
            rw [isOpaque_ofText, isOpaque_ofText]

end ProxyAutoConfig.Url
