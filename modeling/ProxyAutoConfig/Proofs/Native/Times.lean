import Mathlib.Algebra.Group.Nat.Defs
import ProxyAutoConfig.Native.Range

/-!
# Ranges of times of day

A range is written as two times with as much of each as is needed: hours, hours and minutes, or hours,
minutes and seconds (`Spells`). What is no such time is never read as one (`timeEnds?_eq_some_iff`).

**The law** (`holdsTime_cyclic`): a range is an interval of the day's cycle. It holds the times that one
reaches from its start no later than its end, going on past midnight where the end lies before the start;
so it leaves out exactly what lies from the second after its end to the second before its start.
-/

namespace ProxyAutoConfig

open ProxyAutoConfig.Calendar

/-- Time of day is less than a day. -/
theorem Calendar.timeOfDay_lt (seconds : Int) : timeOfDay seconds < 86400 := by
  show (seconds % 86400).toNat < 86400
  omega

namespace Range

/-! ## Times as they are written -/

/-- **An hour, a minute and a second** of a day. -/
structure Clock where
  hour : Nat
  minute : Nat
  second : Nat
  hour_le : hour ≤ 23
  minute_le : minute ≤ 59
  second_le : second ≤ 59

namespace Clock

/-- The seconds since midnight. -/
def time (c : Clock) : Nat :=
  c.hour * 3600 + c.minute * 60 + c.second

theorem time_lt (c : Clock) : c.time < 86400 := by
  have hour := c.hour_le
  have minute := c.minute_le
  have second := c.second_le
  show c.hour * 3600 + c.minute * 60 + c.second < 86400
  omega

/-- What a clock shows at a number of seconds after some midnight, or before it. -/
def ofSeconds (seconds : Int) : Clock where
  hour := (seconds % dayLength).toNat / 3600
  minute := (seconds % dayLength).toNat / 60 % 60
  second := (seconds % dayLength).toNat % 60
  hour_le := by
    rw [dayLength]
    omega
  minute_le := by omega
  second_le := by omega

/-- It shows the time of day. -/
theorem time_at (seconds : Int) : (ofSeconds seconds).time = (seconds % dayLength).toNat := by
  show (seconds % 86400).toNat / 3600 * 3600 + (seconds % 86400).toNat / 60 % 60 * 60 +
    (seconds % 86400).toNat % 60 = (seconds % 86400).toNat
  omega

end Clock

/-- **Two times, as they are written**: what is left out of both of them is zero. -/
inductive Spells : List Nat → Clock → Clock → Prop
  | hours {a b : Clock} (first : a.minute = 0 ∧ a.second = 0) (last : b.minute = 0 ∧ b.second = 0) :
      Spells [a.hour, b.hour] a b
  | minutes {a b : Clock} (first : a.second = 0) (last : b.second = 0) :
      Spells [a.hour, a.minute, b.hour, b.minute] a b
  | seconds (a b : Clock) :
      Spells [a.hour, a.minute, a.second, b.hour, b.minute, b.second] a b

/-- **What is read as a time of day.** -/
theorem time?_eq_some_iff {h m s : Nat} {t : TimeOfDay} :
    time? h m s = some t ↔ ∃ c : Clock, h = c.hour ∧ m = c.minute ∧ s = c.second ∧ t = c.time := by
  constructor
  · intro read
    unfold time? at read
    split at read
    next fits => exact ⟨⟨h, m, s, fits.1, fits.2.1, fits.2.2⟩, rfl, rfl, rfl, (Option.some.inj read).symm⟩
    next => cases read
  · rintro ⟨c, rfl, rfl, rfl, rfl⟩
    exact if_pos ⟨c.hour_le, c.minute_le, c.second_le⟩

theorem time?_clock (c : Clock) : time? c.hour c.minute c.second = some c.time :=
  time?_eq_some_iff.mpr ⟨c, rfl, rfl, rfl, rfl⟩

/-- **What is read as the ends of a range.** -/
theorem timeEnds?_eq_some_iff {numbers : List Nat} {start finish : TimeOfDay} :
    timeEnds? numbers = some (start, finish) ↔
      ∃ a b, Spells numbers a b ∧ start = a.time ∧ finish = b.time := by
  have both {x y : Option TimeOfDay} (read : timeEnds?.both x y = some (start, finish)) :
      x = some start ∧ y = some finish := by
    unfold timeEnds?.both at read
    split at read
    next =>
      obtain ⟨rfl, rfl⟩ := Prod.mk.inj (Option.some.inj read)
      exact ⟨rfl, rfl⟩
    next => cases read
  constructor
  · intro read
    unfold timeEnds? at read
    split at read
    next h k =>
      obtain ⟨a, rfl, m, s, rfl⟩ := time?_eq_some_iff.mp (both read).1
      obtain ⟨b, rfl, n, t, rfl⟩ := time?_eq_some_iff.mp (both read).2
      exact ⟨a, b, .hours ⟨m.symm, s.symm⟩ ⟨n.symm, t.symm⟩, rfl, rfl⟩
    next h m k n =>
      obtain ⟨a, rfl, rfl, s, rfl⟩ := time?_eq_some_iff.mp (both read).1
      obtain ⟨b, rfl, rfl, t, rfl⟩ := time?_eq_some_iff.mp (both read).2
      exact ⟨a, b, .minutes s.symm t.symm, rfl, rfl⟩
    next h m s k n t =>
      obtain ⟨a, rfl, rfl, rfl, rfl⟩ := time?_eq_some_iff.mp (both read).1
      obtain ⟨b, rfl, rfl, rfl, rfl⟩ := time?_eq_some_iff.mp (both read).2
      exact ⟨a, b, .seconds a b, rfl, rfl⟩
    next => cases read
  · rintro ⟨a, b, spelled, rfl, rfl⟩
    have first := time?_clock a
    have last := time?_clock b
    cases spelled with
    | hours zero zero' =>
      rw [zero.1, zero.2] at first
      rw [zero'.1, zero'.2] at last
      rw [timeEnds?, first, last]
      rfl
    | minutes zero zero' =>
      rw [zero] at first
      rw [zero'] at last
      rw [timeEnds?, first, last]
      rfl
    | seconds =>
      rw [timeEnds?, first, last]
      rfl

/-! ## Words -/

/-- A number that is a word of thirty-two bits. -/
def fits? (n : Nat) : Option Nat :=
  if n < 2 ^ 32 then some n else none

/-- **The time of day, step by step in words**: each product and each sum has to be a word. -/
def timeInWords? (h m s : Nat) : Option (Option TimeOfDay) :=
  if h ≤ 23 ∧ m ≤ 59 ∧ s ≤ 59 then do
    let hours ← fits? (h * 3600)
    let minutes ← fits? (m * 60)
    let both ← fits? (hours + minutes)
    let all ← fits? (both + s)
    return some all
  else return none

/-- **No step overflows**: what is too large is refused before it is multiplied. -/
theorem timeInWords?_eq (h m s : Nat) : timeInWords? h m s = some (time? h m s) := by
  by_cases small : h ≤ 23 ∧ m ≤ 59 ∧ s ≤ 59
  · have word {n : Nat} (le : n ≤ 86399) : fits? n = some n := if_pos (Nat.lt_of_le_of_lt le (by decide))
    have hours : fits? (h * 3600) = some (h * 3600) := word (by omega)
    have minutes : fits? (m * 60) = some (m * 60) := word (by omega)
    have both : fits? (h * 3600 + m * 60) = some (h * 3600 + m * 60) := word (by omega)
    have all : fits? (h * 3600 + m * 60 + s) = some (h * 3600 + m * 60 + s) := word (by omega)
    rw [timeInWords?, if_pos small, time?, if_pos small]
    simp only [hours, minutes, both, all, Option.bind_eq_bind, Option.bind_some]
    rfl
  · rw [timeInWords?, if_neg small, time?, if_neg small]
    rfl

/-! ## The cycle of the day -/

section

variable {start finish : Nat} (t : Nat)

/-- Numbers between two others, or outside of them. -/
theorem within_atMost_iff : within atMost start finish t = true ↔
    if start ≤ finish then start ≤ t ∧ t ≤ finish else start ≤ t ∨ t ≤ finish := by
  by_cases le : start ≤ finish
  · simp only [within, atMost, le, decide_true, if_true, Bool.and_eq_true, decide_eq_true_eq]
  · simp only [within, atMost, le, decide_false, Bool.false_eq_true, if_false, Bool.or_eq_true,
      decide_eq_true_eq]

/-- **Between two ends** lies what is reached from the start no later than the end. -/
theorem within_iff_cyclic (hs : start < 86400) (hf : finish < 86400) (ht : t < 86400) :
    within atMost start finish t = true ↔
      ((t : Int) - start) % dayLength ≤ ((finish : Int) - start) % dayLength := by
  rw [within_atMost_iff, dayLength]
  split
  next le => omega
  next lt => omega

end

/-- A range that is written as two times. -/
theorem holdsTime_spelled {numbers : List Nat} {first last : Clock} (spelled : Spells numbers first last)
    (t : TimeOfDay) : holdsTime t numbers = within atMost first.time last.time t := by
  have ends := timeEnds?_eq_some_iff.mpr ⟨first, last, spelled, rfl, rfl⟩
  cases spelled <;> simp only [holdsTime, ends]

/-- An hour stands for all of its seconds. -/
theorem holdsTime_hour {h : Nat} (small : h ≤ 23) (t : Nat) :
    holdsTime t [h] = holdsTime t [h, 0, 0, h, 59, 59] := by
  have whole := holdsTime_spelled (.seconds ⟨h, 0, 0, small, by decide, by decide⟩
    ⟨h, 59, 59, small, by decide, by decide⟩) t
  have single : holdsTime t [h] = true ↔ t / 3600 = h := beq_iff_eq
  have le : h * 3600 + 0 * 60 + 0 ≤ h * 3600 + 59 * 60 + 59 := by omega
  rw [whole, Bool.eq_iff_iff, single, within_atMost_iff]
  simp only [Clock.time, le, if_true]
  omega

/-- **A range that leaves something out, and what it leaves out**: of the two intervals of a cycle one
holds each moment. -/
theorem cyclic_complement {first last : Int} (apart : first % dayLength ≠ (last + 1) % dayLength)
    (t : Int) :
    (t - first) % dayLength ≤ (last - first) % dayLength ↔
      ¬ (t - (last + 1) % dayLength) % dayLength ≤
        ((first - 1) % dayLength - (last + 1) % dayLength) % dayLength := by
  rw [dayLength] at *
  omega

/-- **Ranges of times of day are intervals of the day's cycle.** A range of two times holds what is
reached from its start no later than its end. An hour stands for all of its seconds, and for nothing when
the day has no such hour. A range that leaves out anything, and the one from the second after its end to the
second before its start, hold each time of day between them, and only one of them holds it. Whatever the
numbers are, nothing overflows where a time is made of them. -/
theorem holdsTime_cyclic {t : TimeOfDay} (day : t < 86400) :
    (∀ numbers first last, Spells numbers first last →
      (holdsTime t numbers = true ↔
        ((t : Int) - first.time) % dayLength ≤ ((last.time : Int) - first.time) % dayLength)) ∧
    (∀ h ≤ 23, holdsTime t [h] = holdsTime t [h, 0, 0, h, 59, 59]) ∧
    (∀ h > 23, holdsTime t [h] = false) ∧
    (∀ numbers others first last, Spells numbers first last →
      Spells others (.ofSeconds (last.time + 1)) (.ofSeconds (first.time - 1)) →
      (first.time : Int) % dayLength ≠ (last.time + 1) % dayLength →
      holdsTime t numbers = !holdsTime t others) ∧
    ∀ h m s, timeInWords? h m s = some (time? h m s) := by
  have cyclic {numbers : List Nat} {first last : Clock} (spelled : Spells numbers first last) :
      holdsTime t numbers = true ↔
        ((t : Int) - first.time) % dayLength ≤ ((last.time : Int) - first.time) % dayLength := by
    rw [holdsTime_spelled spelled]
    exact within_iff_cyclic t first.time_lt last.time_lt day
  refine ⟨fun _ _ _ => cyclic, ?_, ?_, ?_, timeInWords?_eq⟩
  · intro h small
    exact holdsTime_hour small t
  · intro h large
    have other : ¬ t / 3600 = h := by
      intro same
      have below : t / 3600 < 24 := Nat.div_lt_of_lt_mul day
      exact absurd (same ▸ below) (Nat.not_lt_of_le large)
    exact beq_eq_false_iff_ne.mpr other
  · intro numbers others first last spelled spelled' apart
    have shown (seconds : Int) : ((Clock.ofSeconds seconds).time : Int) = seconds % dayLength := by
      rw [Clock.time_at, Int.toNat_of_nonneg (Int.emod_nonneg _ (by decide))]
    rw [Bool.eq_iff_iff, Bool.not_eq_true', ← Bool.not_eq_true, cyclic spelled, cyclic spelled', shown,
      shown]
    exact cyclic_complement apart t

/-- So a range from ten in the evening to two in the morning holds an hour before midnight, and what it
leaves out does not. -/
theorem holdsTime_cyclic_midnight : 82800 < 86400 ∧ holdsTime 82800 [22, 2] = true ∧
    Spells [2, 0, 1, 21, 59, 59] (.ofSeconds 7201) (.ofSeconds 79199) ∧
    holdsTime 82800 [22, 2] = !holdsTime 82800 [2, 0, 1, 21, 59, 59] ∧
    holdsTime 82800 [23] = holdsTime 82800 [23, 0, 0, 23, 59, 59] ∧ holdsTime 82800 [47] = false := by
  have day : 82800 < 86400 := by decide
  have evening : Spells [22, 2] _ _ := @Spells.hours ⟨22, 0, 0, by decide, by decide, by decide⟩
    ⟨2, 0, 0, by decide, by decide, by decide⟩ ⟨rfl, rfl⟩ ⟨rfl, rfl⟩
  have others : Spells [2, 0, 1, 21, 59, 59] (.ofSeconds 7201) (.ofSeconds 79199) := by
    let first := Clock.ofSeconds 7201
    let last := Clock.ofSeconds 79199
    have numbers : [first.hour, first.minute, first.second, last.hour, last.minute, last.second] =
        [2, 0, 1, 21, 59, 59] := by decide
    exact numbers ▸ Spells.seconds first last
  obtain ⟨cyclic, hour, none', complement, _⟩ := holdsTime_cyclic day
  exact ⟨day, (cyclic _ _ _ evening).mpr (by decide), others,
    complement _ _ _ _ evening others (by decide), hour 23 (by decide), none' 47 (by decide)⟩

end Range

end ProxyAutoConfig
