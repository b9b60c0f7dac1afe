import ProxyAutoConfig.Native.Calendar
import ProxyAutoConfig.Text.Blank
import ProxyAutoConfig.Text.Number

/-!
# Ranges of time

Ranges of weekdays, dates and times of day, as a script writes them: by words and numbers. Both
ends of a range belong to it, and a range whose end lies before its start goes on past the end of
the week, the year or the day. What cannot be understood holds no moment.
-/

namespace ProxyAutoConfig.Range

open ProxyAutoConfig.Calendar ProxyAutoConfig.Text

/-- A word or a number of a range. -/
inductive Term where
  | number (n : Int)
  | text (cs : List Char)
  deriving DecidableEq, Repr

/-- The word asks for universal time. -/
def Term.isUniversal : Term → Bool
  | .text cs => cs.map Char.toUpper == "GMT".toList
  | .number _ => false

/-- The terms of a range without a word at their end that asks for universal time, and whether
there is one. -/
def universal (terms : List Term) : List Term × Bool :=
  match terms.getLast? with
  | some t => if t.isUniversal then (terms.dropLast, true) else (terms, false)
  | none => (terms, false)

namespace Term

/-- A term in capitals. -/
def capitals : Term → List Char
  | number n => (if n < 0 then ['-'] else []) ++ decimal n.natAbs
  | text cs => cs.map Char.toUpper

/-- The place of a word in a list of words. -/
def placeIn? (words : List String) (t : Term) : Option Nat :=
  words.findIdx? fun w => w.toList == t.capitals

/-- The number that a term spells. -/
def word? : Term → Option Nat
  | number n => if 0 ≤ n ∧ n < 0x100000000 then some n.toNat else none
  | text cs => Text.word? (trim cs)

end Term

/-- The value lies between the ends, or outside of them where the end lies before the start. -/
def within {α : Type} (le : α → α → Bool) (start last now : α) : Bool :=
  if le start last then le start now && le now last else le start now || le now last

/-- Not greater. -/
def atMost (a b : Nat) : Bool :=
  a ≤ b

/-! ## Weekdays -/

/-- The names of the weekdays. -/
def weekdays : List String :=
  ["SUN", "MON", "TUE", "WED", "THU", "FRI", "SAT"]

/-- The weekday lies between two others. -/
def holdsWeekday (today : Nat) (first last : Term) : Bool :=
  match first.placeIn? weekdays, last.placeIn? weekdays with
  | some start, some finish => within atMost start finish today
  | _, _ => false

/-- A range of weekdays holds a date. -/
def weekdayRange (terms : List Term) (today : Date) : Bool :=
  match terms with
  | [day] => holdsWeekday today.weekday day day
  | [first, last] => holdsWeekday today.weekday first last
  | _ => false

/-! ## Dates -/

/-- The names of the months. -/
def months : List String :=
  ["JAN", "FEB", "MAR", "APR", "MAY", "JUN", "JUL", "AUG", "SEP", "OCT", "NOV", "DEC"]

/-- A part of a date. -/
inductive DatePart where
  | day (n : Nat)
  /-- Counted from zero. -/
  | month (n : Nat)
  | year (n : Int)
  deriving DecidableEq, Repr

namespace DatePart

/-- The part of a date that a term spells: a number above thirty-one is a year. -/
def ofTerm? (t : Term) : Option DatePart :=
  match t.placeIn? months with
  | some m => some (month m)
  | none =>
    match t.word? with
    | some n =>
      if 1 ≤ n ∧ n ≤ 31 then some (day n)
      else if 31 < n ∧ n < 0x80000000 then some (year n)
      else none
    | none => none

/-- The place of a part among the others, the most significant first. -/
def rank : DatePart → Nat
  | year _ => 0
  | month _ => 1
  | day _ => 2

/-- The number of a part. -/
def value : DatePart → Int
  | day n | month n => n
  | year n => n

/-- The number of a date in the same place. -/
def ofDate (today : Date) : DatePart → Int
  | day _ => today.day
  | month _ => today.month
  | year _ => today.year

end DatePart

/-- The parts of a date with the most significant first. -/
def ordered (parts : List DatePart) : List DatePart :=
  parts.mergeSort fun a b => a.rank ≤ b.rank

/-- Not greater, at the first place where the two differ. -/
def lexAtMost : List Int → List Int → Bool
  | [], _ => true
  | _ :: _, [] => false
  | a :: as, b :: bs => if a = b then lexAtMost as bs else a < b

/-- A range of dates holds a date: one part, or two halves of parts of the same kinds. -/
def holdsDate (today : Date) (parts : List DatePart) : Bool :=
  match parts with
  | [p] => p.ofDate today == p.value
  | parts =>
    if parts.length % 2 = 0 ∧ parts.length ≤ 6 then
      let start := ordered (parts.take (parts.length / 2))
      let finish := ordered (parts.drop (parts.length / 2))
      start.map (·.rank) == finish.map (·.rank) &&
        within lexAtMost (start.map (·.value)) (finish.map (·.value)) (start.map (·.ofDate today))
    else false

/-- A range of dates holds a date. -/
def dateRange (terms : List Term) (today : Date) : Bool :=
  match terms.mapM DatePart.ofTerm? with
  | some parts => holdsDate today parts
  | none => false

/-! ## Times of day -/

/-- The time of day of an hour, a minute and a second. -/
def time? (h m s : Nat) : Option TimeOfDay :=
  if h ≤ 23 ∧ m ≤ 59 ∧ s ≤ 59 then some (h * 3600 + m * 60 + s) else none

/-- The ends of a range of times of day. -/
def timeEnds? : List Nat → Option (TimeOfDay × TimeOfDay)
  | [h, k] => both (time? h 0 0) (time? k 0 0)
  | [h, m, k, n] => both (time? h m 0) (time? k n 0)
  | [h, m, s, k, n, t] => both (time? h m s) (time? k n t)
  | _ => none
where
  /-- Two ends, if there are both. -/
  both (a b : Option TimeOfDay) : Option (TimeOfDay × TimeOfDay) :=
    match a, b with
    | some a, some b => some (a, b)
    | _, _ => none

/-- A range of times of day holds a time: an hour, or what lies between two ends. -/
def holdsTime (now : TimeOfDay) (numbers : List Nat) : Bool :=
  match numbers with
  | [h] => hour now == h
  | numbers =>
    match timeEnds? numbers with
    | some (start, finish) => within atMost start finish now
    | none => false

/-- A range of times of day holds a time. -/
def timeRange (terms : List Term) (now : TimeOfDay) : Bool :=
  match terms.mapM Term.word? with
  | some numbers => holdsTime now numbers
  | none => false

end ProxyAutoConfig.Range
