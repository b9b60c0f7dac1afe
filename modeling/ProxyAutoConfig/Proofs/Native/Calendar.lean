import ProxyAutoConfig.Native.Calendar

/-!
# The calendar, day by day

A date has a number: the days of the years, of the months and of the days before it, counted so that the
first day of 1970 is zero (`Date.number`). The date of a day is the one with the number of the day
(`dateOfDay_number`), so that every date of the calendar has a day and every day has a date, and the next
day has the next date (`dateOfDay_succ`).

**The order of days is that of dates** (`Date.number_lt_of_lt`): a year comes before a month and a month
before a day.
-/

namespace ProxyAutoConfig.Calendar

/-! ## Years and months -/

/-- A leap year. -/
def isLeap (y : Int) : Bool :=
  y % 4 = 0 && (y % 100 ≠ 0 || y % 400 = 0)

/-- The days of a year. -/
def yearLength (leap : Bool) : Nat :=
  if leap then 366 else 365

/-- The days of a month, counted from zero for January. -/
def monthLength (leap : Bool) (m : Nat) : Nat :=
  if m = 1 then if leap then 29 else 28
  else if m = 3 ∨ m = 5 ∨ m = 8 ∨ m = 10 then 30
  else 31

/-- The days from the start of the year one to the start of a year. -/
def yearStart (y : Int) : Int :=
  365 * (y - 1) + (y - 1) / 4 - (y - 1) / 100 + (y - 1) / 400

/-- The days from the start of the year to the start of a month. -/
def monthStart (leap : Bool) : Nat → Nat
  | 0 => 0
  | m + 1 => monthStart leap m + monthLength leap m

/-- A year is as long as its days are. -/
theorem yearStart_succ (y : Int) : yearStart (y + 1) = yearStart y + yearLength (isLeap y) := by
  rw [yearStart, yearStart, yearLength, isLeap]
  by_cases four : y % 4 = 0
  · by_cases hundred : y % 100 = 0
    · by_cases fourHundred : y % 400 = 0
      · simp [four, hundred, fourHundred]
        omega
      · simp [four, hundred, fourHundred]
        omega
    · simp [four, hundred]
      omega
  · simp [four]
    omega

theorem yearStart_mono {y z : Int} (le : y ≤ z) : yearStart y ≤ yearStart z := by
  rw [yearStart, yearStart]
  omega

/-- The months of a year fill it. -/
theorem monthStart_twelve : ∀ leap, monthStart leap 12 = yearLength leap := by
  decide

theorem monthStart_mono (leap : Bool) {m n : Nat} (le : m ≤ n) : monthStart leap m ≤ monthStart leap n := by
  induction le with
  | refl => exact Nat.le_refl _
  | step _ ih => exact Nat.le_trans ih (Nat.le_add_right _ _)

/-! ## Dates -/

namespace Date

/-- **A date of the calendar**: a day that its month has. -/
structure Valid (d : Date) : Prop where
  month : d.month < 12
  day : 1 ≤ d.day ∧ d.day ≤ monthLength (isLeap d.year) d.month

/-- **The number of a date**, counted from the start of 1970. -/
def number (d : Date) : Int :=
  yearStart d.year + monthStart (isLeap d.year) d.month + (d.day - 1) - 719162

/-- The date of the next day. -/
def tomorrow (d : Date) : Date :=
  let weekday := (d.weekday + 1) % 7
  if d.day < monthLength (isLeap d.year) d.month then { d with day := d.day + 1, weekday }
  else if d.month < 11 then { d with month := d.month + 1, day := 1, weekday }
  else { year := d.year + 1, month := 0, day := 1, weekday }

variable {d : Date}

/-- A day later there is a date again, with the next number. -/
theorem Valid.tomorrow (valid : d.Valid) : d.tomorrow.Valid ∧ d.tomorrow.number = d.number + 1 := by
  obtain ⟨month, first, last⟩ := valid
  have long : ∀ leap, ∀ m < 12, 1 ≤ monthLength leap m := by decide
  rw [Date.tomorrow]
  by_cases within : d.day < monthLength (isLeap d.year) d.month
  · simp only [if_pos within]
    refine ⟨⟨month, Nat.le_add_left _ _, within⟩, ?_⟩
    simp only [number]
    omega
  · have all : monthLength (isLeap d.year) d.month = d.day := by omega
    by_cases more : d.month < 11
    · simp only [if_neg within, if_pos more]
      refine ⟨⟨Nat.succ_lt_succ more, Nat.le_refl _, long _ _ (Nat.succ_lt_succ more)⟩, ?_⟩
      simp only [number, monthStart]
      omega
    · simp only [if_neg within, if_neg more]
      refine ⟨⟨Nat.zero_lt_succ _, Nat.le_refl _, long _ _ (Nat.zero_lt_succ _)⟩, ?_⟩
      have december : d.month = 11 := by omega
      have year : monthStart (isLeap d.year) 11 + monthLength (isLeap d.year) 11 =
          yearLength (isLeap d.year) := monthStart_twelve _
      have january : monthStart (isLeap (d.year + 1)) 0 = 0 := rfl
      rw [december] at all
      simp only [number, yearStart_succ, december, january]
      omega

/-- Every number is that of a date. -/
theorem exists_number (n : Int) : ∃ d : Date, d.Valid ∧ d.number = n := by
  have early : yearStart (min n 0 + 1) - 719162 ≤ n := by
    rw [yearStart]
    omega
  -- From a new year before the day one comes to the day by going on day after day.
  have later : ∀ k : Nat, ∃ d : Date, d.Valid ∧ d.number = yearStart (min n 0 + 1) - 719162 + k := by
    intro k
    induction k with
    | zero =>
      refine ⟨⟨min n 0 + 1, 0, 1, 0⟩, ⟨Nat.zero_lt_succ _, Nat.le_refl _, ?_⟩, ?_⟩
      · exact (by decide : ∀ leap, 1 ≤ monthLength leap 0) _
      · simp [number, monthStart]
    | succ k ih =>
      obtain ⟨d, valid, number⟩ := ih
      refine ⟨d.tomorrow, valid.tomorrow.1, ?_⟩
      rw [valid.tomorrow.2, number]
      omega
  obtain ⟨d, valid, number⟩ := later (n - (yearStart (min n 0 + 1) - 719162)).toNat
  exact ⟨d, valid, by omega⟩

/-! ## The order of dates -/

/-- **An earlier date has a smaller number.** -/
theorem number_lt_of_lt {a b : Date} (ha : a.Valid) (hb : b.Valid)
    (lt : a.year < b.year ∨ a.year = b.year ∧ (a.month < b.month ∨ a.month = b.month ∧ a.day < b.day)) :
    a.number < b.number := by
  obtain ⟨month, first, last⟩ := ha
  obtain ⟨_, first', _⟩ := hb
  have full : monthStart (isLeap a.year) (a.month + 1) =
      monthStart (isLeap a.year) a.month + monthLength (isLeap a.year) a.month := rfl
  rw [number, number]
  rcases lt with year | ⟨year, before | ⟨same, day⟩⟩
  · have rest : monthStart (isLeap a.year) (a.month + 1) ≤ monthStart (isLeap a.year) 12 :=
      monthStart_mono _ month
    have years := yearStart_mono (Int.add_one_le_of_lt year)
    rw [monthStart_twelve] at rest
    rw [yearStart_succ] at years
    omega
  · have months : monthStart (isLeap a.year) (a.month + 1) ≤ monthStart (isLeap a.year) b.month :=
      monthStart_mono _ before
    rw [← year]
    omega
  · rw [← year, ← same]
    omega

end Date

/-! ## From days to dates

Years of an era begin in March. A day of an era belongs to the year that its number gives when the leap
days are taken out. -/

/-- The days of an era up to a day, without the leap days. -/
def commonDays (day : Nat) : Nat :=
  day - day / 1460 + day / 36524 - day / 146096

theorem commonDays_mono {m n : Nat} (le : m ≤ n) : commonDays m ≤ commonDays n := by
  have step (k : Nat) : commonDays k ≤ commonDays (k + 1) := by
    rw [commonDays, commonDays]
    omega
  induction le with
  | refl => exact Nat.le_refl _
  | step _ ih => exact Nat.le_trans ih (step _)

/-- The first day of a year of an era. -/
def marchStart (y : Nat) : Nat :=
  365 * y + y / 4 - y / 100

/-- **A day of a year of an era belongs to that year.** -/
theorem commonDays_div {y r : Nat} (era : y < 400) (fits : r < yearLength (isLeap (y + 1))) :
    commonDays (marchStart y + r) / 365 = y := by
  have ends : ∀ y < 400, y * 365 ≤ commonDays (marchStart y) ∧
      commonDays (marchStart y + (yearLength (isLeap (y + 1)) - 1)) < (y + 1) * 365 := by
    decide +kernel
  have first : commonDays (marchStart y) ≤ commonDays (marchStart y + r) :=
    commonDays_mono (Nat.le_add_right _ _)
  have last : commonDays (marchStart y + r) ≤
      commonDays (marchStart y + (yearLength (isLeap (y + 1)) - 1)) :=
    commonDays_mono (Nat.add_le_add_left (Nat.le_sub_one_of_lt fits) _)
  exact Nat.div_eq_of_lt_le (Nat.le_trans (ends y era).1 first) (Nat.lt_of_le_of_lt last (ends y era).2)

/-- Leap years come round with the eras. -/
theorem isLeap_emod (y : Int) : isLeap (y % 400 + 1) = isLeap (y + 1) := by
  have four : (y % 400 + 1) % 4 = (y + 1) % 4 := by omega
  have hundred : (y % 400 + 1) % 100 = (y + 1) % 100 := by omega
  have fourHundred : (y % 400 + 1) % 400 = (y + 1) % 400 := by omega
  rw [isLeap, isLeap, four, hundred, fourHundred]

/-- **The date of a day of a year that begins in March.** -/
theorem dateOfDay_of_march {n y : Int} {r : Nat} (fits : r < yearLength (isLeap (y + 1)))
    (whole : n + epoch = yearStart (y + 1) + r) :
    dateOfDay n =
      { year := y + (if ((5 * r + 2) / 153 + 2) % 12 < 2 then 1 else 0)
        month := ((5 * r + 2) / 153 + 2) % 12
        day := r - (153 * ((5 * r + 2) / 153) + 2) / 5 + 1
        weekday := ((n + 4) % 7).toNat } := by
  obtain ⟨k, place⟩ : ∃ k : Nat, (k : Int) = y % 400 := ⟨(y % 400).toNat, by omega⟩
  have era : k < 400 := by omega
  have start : n + epoch = 146097 * (y / 400) + (marchStart k + r : Nat) := by
    rw [whole, yearStart, marchStart]
    omega
  have longest : ∀ leap, yearLength leap ≤ 366 := by decide
  have short : r < 366 := Nat.lt_of_lt_of_le fits (longest _)
  have bound : marchStart k + r < 146097 := by
    rw [marchStart]
    omega
  have eras : (n + epoch) / eraLength = y / 400 := by
    rw [start, eraLength]
    omega
  have day : ((n + epoch) % eraLength).toNat = marchStart k + r := by
    rw [start, eraLength]
    omega
  rw [← isLeap_emod, ← place] at fits
  have year : (marchStart k + r - (marchStart k + r) / 1460 + (marchStart k + r) / 36524 -
      (marchStart k + r) / 146096) / 365 = k := commonDays_div era fits
  have rest : marchStart k + r - (365 * k + k / 4 - k / 100) = r := Nat.add_sub_cancel_left _ _
  have years : y / 400 * 400 + k = y := by omega
  simp only [dateOfDay, eras, day, year, rest, years]

/-- The place of a month in a year that begins in March. -/
def marchPlace (m : Nat) : Nat :=
  (m + 10) % 12

/-- The days from the start of March to a day of a month. -/
def marchDay (m day : Nat) : Nat :=
  (153 * marchPlace m + 2) / 5 + (day - 1)

/-- **Months of a year that begins in March** lie on a straight line: a day tells its month, -/
theorem march_place : ∀ leap : Bool, ∀ m < 12, ∀ day < 32, 1 ≤ day ∧ day ≤ monthLength leap m →
    (5 * marchDay m day + 2) / 153 = marchPlace m := by
  decide +kernel

/-- and the days before the month leave its day over. -/
theorem marchDay_sub (m : Nat) {day : Nat} (first : 1 ≤ day) :
    marchDay m day - (153 * marchPlace m + 2) / 5 + 1 = day := by
  rw [marchDay]
  omega

/-- January and February are the last months of the year before. -/
theorem marchDay_early : ∀ leap : Bool, ∀ m < 2, ∀ day < 32, 1 ≤ day ∧ day ≤ monthLength leap m →
    marchDay m day < yearLength leap ∧ monthStart leap m + (day - 1) + 306 = marchDay m day := by
  decide +kernel

/-- The other months come first. -/
theorem marchDay_late : ∀ leap : Bool, ∀ m < 12, ∀ day < 32, 1 ≤ day ∧ day ≤ monthLength leap m →
    2 ≤ m → marchDay m day < 365 ∧
      monthStart leap m + (day - 1) + 306 = yearLength leap + marchDay m day := by
  decide +kernel

/-- **The day of a date** has the date. -/
theorem dateOfDay_number {d : Date} (valid : d.Valid) :
    dateOfDay d.number = { d with weekday := ((d.number + 4) % 7).toNat } := by
  obtain ⟨month, day⟩ := valid
  have longest : ∀ leap, ∀ m < 12, monthLength leap m < 32 := by decide
  have short : d.day < 32 := Nat.lt_of_le_of_lt day.2 (longest _ _ month)
  have place := march_place (isLeap d.year) d.month month d.day short day
  have back : (marchPlace d.month + 2) % 12 = d.month := by
    rw [marchPlace]
    omega
  by_cases early : d.month < 2
  · obtain ⟨fits, days⟩ := marchDay_early (isLeap d.year) d.month early d.day short day
    obtain ⟨y, year⟩ : ∃ y, d.year = y + 1 := ⟨d.year - 1, by omega⟩
    rw [year] at fits days
    rw [dateOfDay_of_march fits]
    · rw [place, back, marchDay_sub _ day.1, if_pos early, ← year]
    · rw [Date.number, year, epoch]
      omega
  · obtain ⟨fits, days⟩ :=
      marchDay_late (isLeap d.year) d.month month d.day short day (Nat.le_of_not_lt early)
    have shortest : ∀ leap, 365 ≤ yearLength leap := by decide
    rw [dateOfDay_of_march (y := d.year) (Nat.lt_of_lt_of_le fits (shortest _))]
    · rw [place, back, marchDay_sub _ day.1, if_neg early, Int.add_zero]
    · rw [yearStart_succ, Date.number, epoch]
      omega

/-! ## Days and dates -/

/-- **Every day has a date of the calendar**, whose number is that of the day. -/
theorem valid_dateOfDay (n : Int) : (dateOfDay n).Valid ∧ (dateOfDay n).number = n := by
  obtain ⟨d, valid, rfl⟩ := Date.exists_number n
  rw [dateOfDay_number valid]
  exact ⟨⟨valid.month, valid.day⟩, rfl⟩

/-- **A day later it is the next date.** -/
theorem dateOfDay_succ (n : Int) : dateOfDay (n + 1) = (dateOfDay n).tomorrow := by
  obtain ⟨valid, number⟩ := valid_dateOfDay n
  obtain ⟨valid', number'⟩ := valid.tomorrow
  have weekday : (dateOfDay n).tomorrow.weekday = ((n + 1 + 4) % 7).toNat := by
    have today : (dateOfDay n).weekday = ((n + 4) % 7).toNat := rfl
    have next : (dateOfDay n).tomorrow.weekday = ((dateOfDay n).weekday + 1) % 7 := by
      rw [Date.tomorrow]
      split
      · rfl
      · split <;> rfl
    rw [next, today]
    omega
  have same := dateOfDay_number valid'
  rw [number', number, ← weekday] at same
  exact same

end ProxyAutoConfig.Calendar
