/-!
# Punycode

Text in ASCII letters, digits and hyphens. The ASCII characters of a text come first, then a
hyphen if there are any, then the other characters as a run of numbers: each number says how far
to go, through all places of the text and all code points, until the next insertion. A number is
written in digits of base 36, the least first, with thresholds that follow the size of the
numbers so far (`adapt`).
-/

namespace ProxyAutoConfig.Idna.Punycode

/-- The threshold of the digit at place `place` (counted from one) under a bias. -/
def threshold (place bias : Nat) : Nat :=
  if 36 * place ≤ bias then 1
  else if bias + 26 ≤ 36 * place then 26
  else 36 * place - bias

/-- No threshold is zero. -/
theorem threshold_pos (place bias : Nat) : 0 < threshold place bias := by
  unfold threshold
  split
  · omega
  · split <;> omega

/-- The number of times a delta is to be divided, and what is left of it then. -/
def shrink (delta : Nat) : Nat × Nat :=
  if _h : 455 < delta then
    let (times, rest) := shrink (delta / 35)
    (times + 1, rest)
  else (0, delta)
termination_by delta
decreasing_by omega

/-- The bias after a number: it was written for the `count`th character, and is damped the more
if it was the first. -/
def adapt (delta count : Nat) (first : Bool) : Nat :=
  let delta := if first then delta / 700 else delta / 2
  let (times, rest) := shrink (delta + delta / count)
  36 * times + 36 * rest / (rest + 38)

/-- The value of a digit. -/
def value? (c : Char) : Option Nat :=
  if 'a' ≤ c ∧ c ≤ 'z' then some (c.toNat - 'a'.toNat)
  else if 'A' ≤ c ∧ c ≤ 'Z' then some (c.toNat - 'A'.toNat)
  else if '0' ≤ c ∧ c ≤ '9' then some (c.toNat - '0'.toNat + 26)
  else none

/-- The digit of a value below 36. -/
def digit (n : Nat) : Char :=
  if n < 26 then Char.ofNat ('a'.toNat + n) else Char.ofNat ('0'.toNat + (n - 26))

/-! ## Reading -/

/-- Read one number from its digits: what it adds up to, and the digits after it. Numbers stay
below two to the thirty-two. -/
def readNumber (bias place weight : Nat) : List Char → Option (Nat × List Char)
  | [] => none
  | c :: cs => do
    let d ← value? c
    let t := threshold place bias
    if 0x100000000 ≤ d * weight then none
    else if d < t then some (d * weight, cs)
    else if 0x100000000 ≤ weight * (36 - t) then none
    else
      let (n, rest) ← readNumber bias (place + 1) (weight * (36 - t)) cs
      some (d * weight + n, rest)

/-- Reading a number uses up at least one digit. -/
theorem length_of_readNumber {bias place weight n : Nat} {cs rest : List Char}
    (h : readNumber bias place weight cs = some (n, rest)) : rest.length < cs.length := by
  induction cs generalizing place weight n with
  | nil => simp [readNumber] at h
  | cons c cs ih =>
    rw [readNumber] at h
    cases hv : value? c with
    | none => simp [hv] at h
    | some d =>
      simp only [hv, Option.bind_eq_bind, Option.bind_some] at h
      split at h
      · simp at h
      · split at h
        · simp only [Option.some.injEq, Prod.mk.injEq] at h
          simp [h.2]
        · split at h
          · simp at h
          · cases hr : readNumber bias (place + 1)
                (weight * (36 - threshold place bias)) cs with
            | none => simp [hr] at h
            | some p =>
              obtain ⟨m, r⟩ := p
              simp only [hr, Option.bind_some, Option.some.injEq, Prod.mk.injEq] at h
              obtain ⟨_, rfl⟩ := h
              have hlt := ih hr
              simp only [List.length_cons]
              omega

/-- Insert the characters that the numbers in `cs` tell into `done`. The next insertion is
sought from place `place` and code point `point`. -/
def insertAll (done : List Char) (place point bias : Nat) (first : Bool) (cs : List Char) :
    Option (List Char) :=
  match cs with
  | [] => some done
  | c :: cs' =>
    match _h : readNumber bias 1 1 (c :: cs') with
    | none => none
    | some (delta, rest) =>
      let count := done.length + 1
      let point := point + (place + delta) / count
      let place := (place + delta) % count
      if (Char.ofNat point).toNat = point ∧ point ≠ 0 then
        insertAll (done.insertIdx place (Char.ofNat point)) (place + 1) point
          (adapt delta count first) false rest
      else none
termination_by cs.length
decreasing_by exact length_of_readNumber _h

/-- The text of a label's letters, digits and hyphens. -/
def decode (cs : List Char) : Option (List Char) :=
  let digits := (cs.reverse.takeWhile (· ≠ '-')).reverse
  let front := cs.take (cs.length - digits.length - 1)
  if digits.length < cs.length ∧ front.isEmpty then none
  else if front.all (·.toNat < 0x80) then insertAll front 0 0x80 72 true digits
  else none

/-! ## Writing -/

/-- The digits of a number. -/
def writeNumber (bias place n : Nat) : List Char :=
  if _h : n < threshold place bias then [digit n]
  else
    let t := threshold place bias
    digit (t + (n - t) % (36 - t)) :: writeNumber bias (place + 1) ((n - t) / (36 - t))
termination_by n
decreasing_by
  have hd := Nat.div_le_self (n - threshold place bias) (36 - threshold place bias)
  have hp := threshold_pos place bias
  omega

/-- How far writing has come: the distance from the last insertion, the bias, and the number of
characters that are in place. -/
structure Progress where
  delta : Nat
  bias : Nat
  placed : Nat

/-- Pass over a text and write a number at each place of the character with code point `point`. -/
def writePoint (point basic : Nat) (s : Progress) : List Char → List Char × Progress
  | [] => ([], s)
  | c :: cs =>
    if c.toNat < point then writePoint point basic { s with delta := s.delta + 1 } cs
    else if c.toNat = point then
      let next : Progress :=
        ⟨0, adapt s.delta (s.placed + 1) (s.placed == basic), s.placed + 1⟩
      let (digits, last) := writePoint point basic next cs
      (writeNumber s.bias 1 s.delta ++ digits, last)
    else writePoint point basic s cs

/-- Write the insertions of the code points `points`, which go up, for the text `cs`; `current`
is the first code point not yet dealt with. -/
def writePoints (cs : List Char) (basic current : Nat) (s : Progress) : List Nat → List Char
  | [] => []
  | point :: points =>
    let start := { s with delta := s.delta + (point - current) * (s.placed + 1) }
    let (digits, last) := writePoint point basic start cs
    digits ++ writePoints cs basic (point + 1) { last with delta := last.delta + 1 } points

/-- Put a number into its place among numbers that go up, unless it is there. -/
def insertPoint (n : Nat) : List Nat → List Nat
  | [] => [n]
  | m :: ms => if n < m then n :: m :: ms else if n = m then m :: ms else m :: insertPoint n ms

/-- The label of a text. -/
def encode (cs : List Char) : List Char :=
  let basic := cs.filter (·.toNat < 0x80)
  let points := (cs.filter (0x80 ≤ ·.toNat)).foldr (fun c ps => insertPoint c.toNat ps) []
  basic ++ (if basic.isEmpty then [] else ['-']) ++
    writePoints cs basic.length 0x80 ⟨0, 72, basic.length⟩ points

end ProxyAutoConfig.Idna.Punycode
