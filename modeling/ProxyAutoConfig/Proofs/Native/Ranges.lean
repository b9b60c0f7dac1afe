import ProxyAutoConfig.Native.Table
import ProxyAutoConfig.Proofs.Native.Dates
import ProxyAutoConfig.Proofs.Native.Terms
import ProxyAutoConfig.Proofs.Native.Times
import ProxyAutoConfig.Proofs.Outcome
import ProxyAutoConfig.Proofs.Text.Units

/-!
# What is a range

The arguments of a function that is asked about a range become terms, one after another (`Native.Reads`),
and the terms are the parts of the range, but for a `GMT` at their end (`Parts`). The parts have to be one or
two weekdays (`IsWeekdays`), one part of a date or two halves (`IsDates`), or an hour or two times
(`IsTimes`), and then they hold some day, date or time (`isWeekdays_iff`, `exists_of_isDates`, `isTimes_iff`).

**The law** (`Native.no_range`): what is no range holds no moment. Dates make an exception: two halves of the
same kinds are compared although a kind comes twice, and **no part at all holds every moment**
(`Native.dateRange_without_parts`).
-/

namespace ProxyAutoConfig

open ProxyAutoConfig.Script ProxyAutoConfig.Text ProxyAutoConfig.Calendar

namespace Range

/-- **The parts of a range**: its terms, but for one `GMT` at their end. -/
inductive Parts : List Term → List Term → Prop
  | all {terms : List Term} (local' : ∀ t, terms.getLast? = some t → ¬ t.Is "GMT") : Parts terms terms
  | before {parts : List Term} {t : Term} (gmt : t.Is "GMT") : Parts (parts ++ [t]) parts

/-- There is one way to part terms. -/
theorem parts_iff {terms parts : List Term} : Parts terms parts ↔ (universal terms).1 = parts := by
  constructor
  · intro parted
    cases parted with
    | all local' =>
      unfold universal
      split
      next t last => rw [if_neg (mt Term.isUniversal_iff.mp (local' t last))]
      next => rfl
    | @before _ t gmt =>
      rw [universal, List.getLast?_concat]
      simp only [if_pos (Term.isUniversal_iff.mpr gmt), List.dropLast_concat]
  · rintro rfl
    unfold universal
    split
    next t last =>
      split
      next gmt =>
        obtain ⟨front, rfl⟩ := List.getLast?_eq_some_iff.mp last
        rw [List.dropLast_concat]
        exact .before (Term.isUniversal_iff.mp gmt)
      next other =>
        refine .all fun s last' gmt => other (Term.isUniversal_iff.mpr ?_)
        rw [last] at last'
        exact Option.some.inj last' ▸ gmt
    next none' =>
      refine .all fun s last => ?_
      rw [none'] at last
      cases last

/-- **Weekdays**: one, or two. -/
structure IsWeekdays (parts : List Term) : Prop where
  length : parts.length = 1 ∨ parts.length = 2
  each : ∀ t ∈ parts, ∃ day ∈ weekdays, t.Is day

/-- **Times of day**: an hour, or two times. -/
def IsTimes (parts : List Term) : Prop :=
  ∃ numbers, List.Forall₂ Term.Gives parts numbers ∧
    ((∃ h ≤ 23, numbers = [h]) ∨ ∃ a b, Spells numbers a b)

/-- **Dates**: one part, or two halves. -/
def IsDates (parts : List Term) : Prop :=
  ∃ named, List.Forall₂ Term.Names parts named ∧
    ((∃ p, named = [p]) ∨ ∃ A B, named = A ++ B ∧ Halves A B)

/-- Two times one, two or three parts of dates, that name the same kinds and one of them twice. -/
def Repeats (parts : List Term) : Prop :=
  ∃ named, List.Forall₂ Term.Names parts named ∧ ∃ A B, named = A ++ B ∧ A.length ≤ 3 ∧
    (A.map DatePart.rank).Perm (B.map DatePart.rank) ∧ ¬ (A.map DatePart.rank).Nodup

/-- Halves of the same kinds are as long. -/
theorem length_eq_of_perm {A B : List DatePart}
    (same : (A.map DatePart.rank).Perm (B.map DatePart.rank)) : A.length = B.length := by
  rw [← List.length_map, same.length_eq, List.length_map]

variable {parts : List Term}

/-- A range holds its start. -/
theorem within_start {α : Type} {le : α → α → Bool} {start : α} (self : le start start = true)
    (finish : α) : within le start finish start = true := by
  unfold within
  split
  next ends => rw [self, ends, Bool.true_and]
  next => rw [self, Bool.true_or]

/-- A term has a place among the weekdays when it is one of them. -/
theorem exists_placeIn?_iff {t : Term} :
    (∃ i, t.placeIn? weekdays = some i) ↔ ∃ day ∈ weekdays, t.Is day := by
  constructor
  · rintro ⟨i, found⟩
    obtain ⟨day, there, is⟩ := (Term.placeIn?_eq_some_iff Term.isVocabulary_weekdays).mp found
    exact ⟨day, List.mem_of_getElem? there, is⟩
  · rintro ⟨day, mem, is⟩
    obtain ⟨i, there⟩ := List.getElem?_of_mem mem
    exact ⟨i, (Term.placeIn?_eq_some_iff Term.isVocabulary_weekdays).mpr ⟨day, there, is⟩⟩

/-- Between two weekdays, and only there, lies a weekday. -/
theorem exists_holdsWeekday_iff {first last : Term} :
    (∃ today : Date, holdsWeekday today.weekday first last = true) ↔
      (∃ day ∈ weekdays, first.Is day) ∧ ∃ day ∈ weekdays, last.Is day := by
  rw [← exists_placeIn?_iff, ← exists_placeIn?_iff]
  constructor
  · rintro ⟨today, holds⟩
    unfold holdsWeekday at holds
    split at holds
    next start finish first last => exact ⟨⟨start, first⟩, finish, last⟩
    next => cases holds
  · rintro ⟨⟨start, first⟩, finish, last⟩
    refine ⟨⟨0, 0, 0, start⟩, ?_⟩
    rw [holdsWeekday, first, last]
    exact within_start (decide_eq_true (Nat.le_refl start)) finish

/-- **Weekdays hold a day, and nothing else does.** -/
theorem isWeekdays_iff : IsWeekdays parts ↔ ∃ today, weekdayRange parts today = true := by
  constructor
  · rintro ⟨length, each⟩
    match parts, length with
    | [day], _ =>
      have is := each day List.mem_cons_self
      exact exists_holdsWeekday_iff.mpr ⟨is, is⟩
    | [first, last], _ =>
      have start := each first List.mem_cons_self
      have finish := each last (List.mem_cons_of_mem _ List.mem_cons_self)
      exact exists_holdsWeekday_iff.mpr ⟨start, finish⟩
  · rintro ⟨today, holds⟩
    unfold weekdayRange at holds
    split at holds
    next day =>
      obtain ⟨is, _⟩ := exists_holdsWeekday_iff.mp ⟨today, holds⟩
      exact ⟨.inl rfl, List.forall_mem_singleton.mpr is⟩
    next first last =>
      obtain ⟨start, finish⟩ := exists_holdsWeekday_iff.mp ⟨today, holds⟩
      exact ⟨.inr rfl, List.forall_mem_cons.mpr ⟨start, List.forall_mem_singleton.mpr finish⟩⟩
    next => cases holds

/-- **Times of day hold a time, and nothing else does.** -/
theorem isTimes_iff : IsTimes parts ↔ ∃ now : Nat, now < 86400 ∧ timeRange parts now = true := by
  constructor
  · rintro ⟨numbers, given, shape⟩
    have read := (mapM_eq_some_iff Term.word?_eq_some_iff).mpr given
    rcases shape with ⟨h, small, rfl⟩ | ⟨a, b, spelled⟩
    · refine ⟨h * 3600, by omega, ?_⟩
      rw [timeRange, read]
      exact beq_iff_eq.mpr (Nat.mul_div_cancel h (by decide))
    · refine ⟨a.time, a.time_lt, ?_⟩
      rw [timeRange, read]
      show holdsTime a.time numbers = true
      rw [holdsTime_spelled spelled]
      exact within_start (decide_eq_true (Nat.le_refl a.time)) b.time
  · rintro ⟨now, day, holds⟩
    unfold timeRange at holds
    split at holds
    next numbers read =>
      refine ⟨numbers, (mapM_eq_some_iff Term.word?_eq_some_iff).mp read, ?_⟩
      unfold holdsTime at holds
      split at holds
      next h =>
        have same : now / 3600 = h := beq_iff_eq.mp holds
        exact .inl ⟨h, by omega, rfl⟩
      next =>
        split at holds
        next start finish ends =>
          obtain ⟨a, b, spelled, _⟩ := timeEnds?_eq_some_iff.mp ends
          exact .inr ⟨a, b, spelled⟩
        next => cases holds
    next => cases holds

/-- What holds a date is one part, or has two halves that name kinds equally often. -/
theorem halves_of_holdsDate {today : Date} {named : List DatePart}
    (holds : holdsDate today named = true) :
    (∃ p, named = [p]) ∨
      ∃ A B, named = A ++ B ∧ A.length ≤ 3 ∧ (A.map DatePart.rank).Perm (B.map DatePart.rank) := by
  unfold holdsDate at holds
  split at holds
  next p => exact .inl ⟨p, rfl⟩
  next =>
    split at holds
    next few =>
      have same := beq_iff_eq.mp (Bool.and_eq_true_iff.mp holds).1
      have sorted (half : List DatePart) :
          ((ordered half).map DatePart.rank).Perm (half.map DatePart.rank) :=
        (List.mergeSort_perm half _).map _
      have half : (named.take (named.length / 2)).length ≤ 3 := by
        rw [List.length_take]
        omega
      refine .inr ⟨_, _, (List.take_append_drop _ _).symm, half, (sorted _).symm.trans ?_⟩
      rw [same]
      exact sorted _
    next => cases holds

/-- **What holds a date** is made of dates, but for halves with kinds that come twice, and for nothing. -/
theorem isDates_of_holds {today : Date} (holds : dateRange parts today = true) (some' : parts ≠ [])
    (once : ¬ Repeats parts) : IsDates parts := by
  unfold dateRange at holds
  split at holds
  next named read =>
    have names := (mapM_eq_some_iff Term.ofTerm?_eq_some_iff).mp read
    refine ⟨named, names, ?_⟩
    rcases halves_of_holdsDate holds with single | ⟨A, B, rfl, few, same⟩
    · exact .inl single
    · have distinct : (A.map DatePart.rank).Nodup := by
        by_contra twice
        exact once ⟨_, names, A, B, rfl, few, same, twice⟩
      have length := length_eq_of_perm same
      have nonempty : A ≠ [] := by
        rintro rfl
        obtain rfl : B = [] := List.length_eq_zero_iff.mp length.symm
        exact some' (List.forall₂_nil_right_iff.mp names)
      refine .inr ⟨A, B, rfl, ⟨nonempty, distinct⟩, ⟨?_, same.nodup_iff.mp distinct⟩, fun k => same.mem_iff⟩
      rintro rfl
      exact nonempty (List.length_eq_zero_iff.mp length)
  next => cases holds

/-- The numbers of a half are not greater than they are. -/
theorem lexAtMost_refl (as : List Int) : lexAtMost as as = true := by
  induction as with
  | nil => rfl
  | cons a as ih => rw [lexAtMost, if_pos rfl, ih]

/-- **Dates hold a date.** -/
theorem exists_of_isDates (dates : IsDates parts) : ∃ today, dateRange parts today = true := by
  obtain ⟨named, names, shape⟩ := dates
  have read := (mapM_eq_some_iff Term.ofTerm?_eq_some_iff).mpr names
  have halves : ∃ A B, Halves A B ∧ ∀ today, dateRange parts today = holdsDate today (A ++ B) := by
    rcases shape with ⟨p, rfl⟩ | ⟨A, B, rfl, halves⟩
    · refine ⟨[p], [p], ⟨?_, ?_, fun _ => Iff.rfl⟩, fun today => ?_⟩
      · exact ⟨List.cons_ne_nil _ _, List.nodup_singleton _⟩
      · exact ⟨List.cons_ne_nil _ _, List.nodup_singleton _⟩
      · rw [dateRange, read]
        exact holdsDate_one today p
    · exact ⟨A, B, halves, fun today => by rw [dateRange, read]⟩
  obtain ⟨A, B, halves, same⟩ := halves
  -- The date that the first half names, with what it leaves out set to zero.
  let today : Date :=
    ⟨(field? A 0).getD 0, ((field? A 1).getD 0).toNat, ((field? A 2).getD 0).toNat, 0⟩
  have start : (ordered A).map (DatePart.ofDate today) = (ordered A).map DatePart.value := by
    refine List.map_congr_left fun p mem => ?_
    have mem : p ∈ A := (List.mergeSort_perm A _).mem_iff.mp mem
    have field : field? A p.rank = some p.value := by
      rw [field?, (part?_eq_some_iff halves.first).mpr ⟨mem, rfl⟩, Option.map_some]
    cases p with
    | day n => exact congrArg (fun o : Option Int => ((o.getD 0).toNat : Int)) field
    | month n => exact congrArg (fun o : Option Int => ((o.getD 0).toNat : Int)) field
    | year n => exact congrArg (fun o : Option Int => o.getD 0) field
  refine ⟨today, ?_⟩
  rw [same, holdsDate_append today halves.length.1 halves.length.2, map_rank_ordered halves,
    beq_self_eq_true, Bool.true_and, start]
  exact within_start (lexAtMost_refl _) _

/-- No part at all holds every date. -/
theorem dateRange_nil (today : Date) : dateRange [] today = true := by
  have sorted : ordered [] = [] := List.mergeSort_nil
  have both := holdsDate_append (A := []) (B := []) today rfl (by decide)
  rw [sorted] at both
  exact both

end Range

/-! ## Arguments -/

namespace Native

open ProxyAutoConfig.Range

/-- **Arguments become terms**, one after another: undefined is none, a number loses its fraction, and
anything else is turned into text. -/
inductive Reads (toText : Value → Eval Units) :
    List Value → Machine → List Term → Machine → Prop
  | none (m : Machine) : Reads toText [] m [] m
  | undefined {arguments m terms after} (rest : Reads toText arguments m terms after) :
      Reads toText (.undefined :: arguments) m terms after
  | number (n : Number) {arguments m terms after} (rest : Reads toText arguments m terms after) :
      Reads toText (.number n :: arguments) m
        (.number (n.clamp (-0x8000000000000000) 0x7FFFFFFFFFFFFFFF) :: terms) after
  | text {v : Value} {u : Units} {arguments m between terms after} (some' : v ≠ .undefined)
      (other : ∀ n, v ≠ .number n) (spelled : toText v m = .ok u between)
      (rest : Reads toText arguments between terms after) :
      Reads toText (v :: arguments) m (.text (Units.escaped u) :: terms) after

variable {toText : Value → Eval Units} {arguments : List Value} {m after : Machine} {terms' : List Term}

theorem terms_number (n : Number) : terms toText (.number n :: arguments) =
    (do return .number (n.clamp (-0x8000000000000000) 0x7FFFFFFFFFFFFFFF) :: (← terms toText arguments)) := by
  rw [terms, List.filter_cons_of_pos rfl, List.mapM_cons]
  rfl

theorem terms_text {v : Value} (some' : v ≠ .undefined) (other : ∀ n, v ≠ .number n) :
    terms toText (v :: arguments) = (do
      let u ← toText v
      return .text (Units.escaped u) :: (← terms toText arguments)) := by
  cases v with
  | undefined => exact absurd rfl some'
  | number n => exact absurd rfl (other n)
  | _ =>
    rw [terms, List.filter_cons_of_pos rfl, List.mapM_cons, bind_assoc]
    rfl

/-- **What arguments become.** -/
theorem terms_eq_ok_iff :
    terms toText arguments m = .ok terms' after ↔ Reads toText arguments m terms' after := by
  constructor
  · intro done
    induction arguments generalizing m terms' with
    | nil =>
      cases done
      exact .none after
    | cons v arguments ih =>
      -- What is neither undefined nor a number is turned into text.
      have spelled (some' : v ≠ .undefined) (other : ∀ n, v ≠ .number n) :
          Reads toText (v :: arguments) m terms' after := by
        rw [terms_text some' other] at done
        obtain ⟨u, between, here, done⟩ := Outcome.exists_of_bind_ok done
        obtain ⟨rest, _, behind, done⟩ := Outcome.exists_of_bind_ok done
        cases done
        exact .text some' other here (ih behind)
      cases v with
      | undefined => exact .undefined (ih done)
      | number n =>
        rw [terms_number] at done
        obtain ⟨rest, _, behind, done⟩ := Outcome.exists_of_bind_ok done
        cases done
        exact .number n (ih behind)
      | _ => exact spelled nofun nofun
  · intro reads
    induction reads with
    | none m => rfl
    | undefined _ ih => exact ih
    | number n _ ih =>
      rw [terms_number, Outcome.bind_of_ok ih]
      rfl
    | text some' other spelled _ ih =>
      rw [terms_text some' other, Outcome.bind_of_ok spelled, Outcome.bind_of_ok ih]
      rfl

/-- **The function that serves a name** in the standard table. -/
structure Serves (native : Native) (name : String) : Prop where
  mem : native ∈ NativeTable.standard
  named : native.name = name

section

variable {native : Native} {w : World} {name : String} {length : Nat} {f : World → List Term → Bool}
  (serves : native.Serves name) (entry : ofRange name length f ∈ NativeTable.standard)
include serves entry

/-- No name of the table stands for two functions. -/
theorem Serves.eq_ofRange : native = ofRange name length f := by
  have distinct : (NativeTable.standard.map (·.name)).Nodup := by decide
  exact List.inj_on_of_nodup_map distinct serves.mem entry serves.named

/-- **What is asked of a range** is asked of the terms, -/
theorem Serves.run_eq (reads : Reads toText arguments m terms' after) :
    native.run w toText arguments m = .ok (.bool (f w terms')) after := by
  rw [serves.eq_ofRange entry]
  show (terms toText arguments >>= fun terms => pure (Value.bool (f w terms))) m = _
  rw [Outcome.bind_of_ok (terms_eq_ok_iff.mpr reads)]
  rfl

/-- and arguments that do not become terms make the call fail. -/
theorem Serves.run_fails (unread : ¬ ∃ terms' after, Reads toText arguments m terms' after) :
    ∃ halt after, native.run w toText arguments m = .error halt after := by
  rw [serves.eq_ofRange entry]
  cases failed : terms toText arguments m with
  | ok terms' after => exact absurd ⟨_, _, terms_eq_ok_iff.mp failed⟩ unread
  | error halt after => exact ⟨halt, after, Outcome.bind_of_error failed⟩

end

theorem weekdayRange_mem : ofRange "weekdayRange" 3 HostFunction.weekdayRange ∈ NativeTable.standard :=
  List.mem_of_getElem? (i := 8) rfl

theorem dateRange_mem : ofRange "dateRange" 7 HostFunction.dateRange ∈ NativeTable.standard :=
  List.mem_of_getElem? (i := 9) rfl

theorem timeRange_mem : ofRange "timeRange" 7 HostFunction.timeRange ∈ NativeTable.standard :=
  List.mem_of_getElem? (i := 10) rfl

/-- **What is no range holds no moment.** Arguments that become terms, of which the parts are not one or two
weekdays, not one part of a date or two halves, or not an hour or two times, are answered with false at
every moment; of dates there has to be a part, and no kind may come twice in two halves that name the same
kinds. Arguments that do not become terms are not answered. -/
theorem no_range (w : World) (toText : Value → Eval Units) (arguments : List Value) (m : Machine) :
    (∀ terms after, Reads toText arguments m terms after → ∀ parts, Parts terms parts →
      (∀ native : Native, native.Serves "weekdayRange" → ¬ IsWeekdays parts →
        native.run w toText arguments m = .ok (.bool false) after) ∧
      (∀ native : Native, native.Serves "dateRange" → ¬ IsDates parts → parts ≠ [] → ¬ Repeats parts →
        native.run w toText arguments m = .ok (.bool false) after) ∧
      ∀ native : Native, native.Serves "timeRange" → ¬ IsTimes parts →
        native.run w toText arguments m = .ok (.bool false) after) ∧
    ((¬ ∃ terms after, Reads toText arguments m terms after) →
      ∀ native : Native, ∀ name ∈ ["weekdayRange", "dateRange", "timeRange"], native.Serves name →
        ∃ halt after, native.run w toText arguments m = .error halt after) := by
  constructor
  · intro terms after reads parts parted
    obtain rfl := parts_iff.mp parted
    refine ⟨?_, ?_, ?_⟩
    · intro native serves none'
      have missed : HostFunction.weekdayRange w terms = false :=
        Bool.eq_false_iff.mpr fun holds => none' (isWeekdays_iff.mpr ⟨_, holds⟩)
      rw [serves.run_eq weekdayRange_mem reads, missed]
    · intro native serves none' some' once
      have missed : HostFunction.dateRange w terms = false :=
        Bool.eq_false_iff.mpr fun holds => none' (isDates_of_holds holds some' once)
      rw [serves.run_eq dateRange_mem reads, missed]
    · intro native serves none'
      have missed : HostFunction.timeRange w terms = false :=
        Bool.eq_false_iff.mpr fun holds => none' (isTimes_iff.mpr ⟨_, timeOfDay_lt _, holds⟩)
      rw [serves.run_eq timeRange_mem reads, missed]
  · intro unread native name mem serves
    simp only [List.mem_cons, List.not_mem_nil, or_false] at mem
    rcases mem with rfl | rfl | rfl
    · exact serves.run_fails weekdayRange_mem unread
    · exact serves.run_fails dateRange_mem unread
    · exact serves.run_fails timeRange_mem unread

/-- So two days and a month, in universal time, are no range of any kind, and what cannot be turned into
text is not answered. -/
theorem no_range_three :
    let w := World.isolated 0 0
    let toText := Eval.toText fun _ => return .undefined
    let arguments : List Value :=
      [.undefined, .number (.int 1), .ofString "JAN", .number (.int 2), .ofString "gmt"]
    let parts : List Term := [.number 1, .text "JAN".toList, .number 2]
    Reads toText arguments Realm.initial (parts ++ [.text "gmt".toList]) Realm.initial ∧
    Parts (parts ++ [.text "gmt".toList]) parts ∧ ¬ IsWeekdays parts ∧ ¬ IsDates parts ∧ ¬ Repeats parts ∧
    ¬ IsTimes parts ∧
    (∀ native : Native, ∀ name ∈ ["weekdayRange", "dateRange", "timeRange"], native.Serves name →
      native.run w toText arguments Realm.initial = .ok (.bool false) Realm.initial) ∧
    ∀ native : Native, native.Serves "dateRange" → ∃ halt after,
      native.run w (fun _ => throw .limit) [.null] Realm.initial = .error halt after := by
  intro w toText arguments parts
  have word (s : String) {arguments : List Value} {terms : List Term}
      (rest : Reads toText arguments Realm.initial terms Realm.initial) :
      Reads toText (.ofString s :: arguments) Realm.initial (.text s.toList :: terms) Realm.initial := by
    rw [← Units.escaped_ofChars s.toList]
    exact .text (v := .text (Units.ofString s)) nofun nofun rfl rest
  have reads : Reads toText arguments Realm.initial (parts ++ [.text "gmt".toList]) Realm.initial :=
    .undefined (.number (.int 1) (word "JAN" (.number (.int 2) (word "gmt" (.none _)))))
  have parted : Parts (parts ++ [.text "gmt".toList]) parts := .before ⟨_, rfl, by decide⟩
  have noWeekdays : ¬ IsWeekdays parts := fun is => absurd is.length (by decide)
  have noDates : ¬ IsDates parts := by
    rintro ⟨named, names, ⟨p, rfl⟩ | ⟨A, B, rfl, halves⟩⟩
    · exact absurd names.length_eq (by simp [parts])
    · have length : 3 = (A ++ B).length := names.length_eq
      rw [List.length_append, ← halves.length.1] at length
      omega
  have once : ¬ Repeats parts := by
    rintro ⟨named, names, A, B, rfl, _, same, _⟩
    have length : 3 = (A ++ B).length := names.length_eq
    rw [List.length_append, ← length_eq_of_perm same] at length
    omega
  have noTimes : ¬ IsTimes parts := by
    rintro ⟨numbers, given, ⟨h, _, rfl⟩ | ⟨a, b, spelled⟩⟩
    · exact absurd given.length_eq (by simp [parts])
    · have length : 3 = numbers.length := given.length_eq
      cases spelled <;> cases length
  obtain ⟨answered, _⟩ := no_range w toText arguments Realm.initial
  obtain ⟨weekdays, dates, times⟩ := answered _ _ reads _ parted
  refine ⟨reads, parted, noWeekdays, noDates, once, noTimes, ?_, ?_⟩
  · intro native name mem serves
    simp only [List.mem_cons, List.not_mem_nil, or_false] at mem
    rcases mem with rfl | rfl | rfl
    · exact weekdays native serves noWeekdays
    · exact dates native serves noDates (List.cons_ne_nil _ _) once
    · exact times native serves noTimes
  · intro native serves
    refine (no_range w (fun _ => throw .limit) [.null] Realm.initial).2 ?_ native "dateRange" (by decide) serves
    rintro ⟨terms, after, _ | _ | _ | ⟨_, _, thrown, _⟩⟩
    cases thrown

/-- **A range of dates without a part holds a moment**, though it is no range; and one whose halves name the
day twice does. -/
theorem dateRange_without_parts :
    let toText := Eval.toText fun _ => return .undefined
    let twice : List Value :=
      [.number (.int 1), .number (.int 1), .number (.int 31), .number (.int 31)]
    let parts : List Term := [.number 1, .number 1, .number 31, .number 31]
    Reads toText [] Realm.initial [] Realm.initial ∧ Parts [] [] ∧ ¬ IsDates [] ∧
    Reads toText twice Realm.initial parts Realm.initial ∧ Parts parts parts ∧ Repeats parts ∧
    ∃ native : Native, native.Serves "dateRange" ∧
      native.run (World.isolated 0 0) toText [] Realm.initial = .ok (.bool true) Realm.initial ∧
      native.run (World.isolated 86400 0) toText twice Realm.initial =
        .ok (.bool true) Realm.initial := by
  intro toText twice parts
  have reads : Reads toText [] Realm.initial [] Realm.initial := .none _
  have reads' : Reads toText twice Realm.initial parts Realm.initial :=
    .number (.int 1) (.number (.int 1) (.number (.int 31) (.number (.int 31) (.none _))))
  have none' : ¬ IsDates [] := by
    rintro ⟨named, names, ⟨p, rfl⟩ | ⟨A, B, rfl, halves⟩⟩
    · cases names
    · have empty : A ++ B = [] := List.forall₂_nil_left_iff.mp names
      exact halves.first.nonempty (List.append_eq_nil_iff.mp empty).1
  have first : Term.Names (.number 1) (.day 1) := .day (.number (by decide)) (by decide) (by decide)
  have last : Term.Names (.number 31) (.day 31) := .day (.number (by decide)) (by decide) (by decide)
  have repeats : Repeats parts :=
    ⟨_, .cons first (.cons first (.cons last (.cons last .nil))), [.day 1, .day 1], [.day 31, .day 31], rfl,
      by decide, .refl _, by decide⟩
  have holds : Range.dateRange parts (dateOfDay 1) = true := by
    have read : parts.mapM DatePart.ofTerm? =
        some ([.day 1, .day 1] ++ [.day 31, .day 31]) := by decide
    have sorted (n : Nat) : ordered [.day n, .day n] = [.day n, .day n] :=
      List.mergeSort_of_pairwise (by simp)
    rw [Range.dateRange, read]
    show holdsDate _ _ = true
    rw [holdsDate_append (A := [.day 1, .day 1]) (B := [.day 31, .day 31]) _ rfl (by decide), sorted, sorted]
    decide
  have serves : Serves (ofRange "dateRange" 7 HostFunction.dateRange) "dateRange" := ⟨dateRange_mem, rfl⟩
  refine ⟨reads, parts_iff.mpr rfl, none', reads', parts_iff.mpr rfl, repeats,
    ofRange "dateRange" 7 HostFunction.dateRange, serves, ?_, ?_⟩
  · rw [serves.run_eq dateRange_mem reads]
    exact congrArg (fun b => EStateM.Result.ok (Value.bool b) Realm.initial) (dateRange_nil _)
  · rw [serves.run_eq dateRange_mem reads']
    exact congrArg (fun b => EStateM.Result.ok (Value.bool b) Realm.initial) holds

end Native

end ProxyAutoConfig
