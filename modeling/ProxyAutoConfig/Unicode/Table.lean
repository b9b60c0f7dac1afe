import Std.Data.TreeMap

/-!
# Tables of characters

The Unicode standard gives its character data as long lists. Here such a list is a text of
words, each word a few hexadecimal numbers with commas between them, and the three readers of
this module turn it into a map or a set that is searched by bisection:

* `CharSet`: ranges, one or two numbers a word;
* `NumberMap`: ranges with a number, three numbers a word;
* `CharMap`: runs with an offset (first, last, step, offset), and characters with the sequence
  that each of them stands for.
-/

namespace ProxyAutoConfig.Unicode

/-- The value of a capital hexadecimal digit; anything else counts as zero. -/
def digitValue (c : Char) : Nat :=
  if '0' ≤ c ∧ c ≤ '9' then c.toNat - '0'.toNat
  else if 'A' ≤ c ∧ c ≤ 'F' then c.toNat - 'A'.toNat + 10
  else 0

/-- The number that capital hexadecimal digits spell, with `-` in front of a negative one. -/
def readNumber : List Char → Int
  | '-' :: digits => -(digits.foldl (fun n c => n * 0x10 + digitValue c) 0 : Nat)
  | digits => (digits.foldl (fun n c => n * 0x10 + digitValue c) 0 : Nat)

/-- The words of a table, each as its numbers. -/
def readWords (text : String) : List (List Int) :=
  ((text.toList.splitOnP (fun c => c == ' ' || c == '\n')).filter (!·.isEmpty)).map
    fun word => (word.splitOn ',').map readNumber

/-- The last entry of a sorted array whose first number is at most `n`: a bisection of the
entries from `low` up to `high`. -/
def findEntry {α : Type} (entries : Array (Nat × α)) (n low high : Nat) : Option (Nat × α) :=
  if _h : low < high then
    let mid := (low + high) / 2
    match entries[mid]? with
    | some e =>
      if n < e.1 then findEntry entries n low mid
      else if mid + 1 = high then some e
      else (findEntry entries n (mid + 1) high).or (some e)
    | none => none
  else none
termination_by high - low

/-- Ranges of characters, sorted. -/
structure CharSet where
  ranges : Array (Nat × Nat)

/-- Read ranges of one or two numbers. -/
def CharSet.ofText (text : String) : CharSet :=
  ⟨((readWords text).map fun
    | [a, b] => (a.toNat, b.toNat)
    | a :: _ => (a.toNat, a.toNat)
    | [] => (0, 0)).toArray⟩

/-- Whether a range of the set holds the character. -/
def CharSet.contains (s : CharSet) (c : Char) : Bool :=
  match findEntry s.ranges c.toNat 0 s.ranges.size with
  | some (_, last) => c.toNat ≤ last
  | none => false

/-- Ranges of characters with a number each, sorted. -/
structure NumberMap where
  ranges : Array (Nat × Nat × Nat)

/-- Read ranges of three numbers: first, last, value. -/
def NumberMap.ofText (text : String) : NumberMap :=
  ⟨((readWords text).map fun
    | [a, b, k] => (a.toNat, b.toNat, k.toNat)
    | _ => (0, 0, 0)).toArray⟩

/-- The number of the range that holds the character. -/
def NumberMap.find? (m : NumberMap) (c : Char) : Option Nat :=
  match findEntry m.ranges c.toNat 0 m.ranges.size with
  | some (_, last, k) => if c.toNat ≤ last then some k else none
  | none => none

/-- A run of characters that one offset maps: every `step`-th from `first` to `last`. -/
structure Run where
  last : Nat
  step : Nat
  offset : Int

/-- Characters and what each of them stands for. -/
structure CharMap where
  runs : Array (Nat × Run)
  sequences : Array (Nat × List Char)

/-- Read runs of four numbers, and sequences whose first number is the character. -/
def CharMap.ofText (runs sequences : String) : CharMap where
  runs := ((readWords runs).map fun
    | [a, b, s, d] => (a.toNat, ⟨b.toNat, s.toNat, d⟩)
    | _ => (0, ⟨0, 1, 0⟩)).toArray
  sequences := ((readWords sequences).map fun
    | a :: rest => (a.toNat, rest.map fun n => Char.ofNat n.toNat)
    | [] => (0, [])).toArray

/-- The character that a run maps to. -/
def CharMap.viaRun? (m : CharMap) (n : Nat) : Option (List Char) :=
  match findEntry m.runs n 0 m.runs.size with
  | some (first, r) =>
    if n ≤ r.last ∧ (n - first) % r.step = 0 then some [Char.ofNat ((n : Int) + r.offset).toNat]
    else none
  | none => none

/-- What the character stands for, when the map lists it. -/
def CharMap.find? (m : CharMap) (c : Char) : Option (List Char) :=
  match findEntry m.sequences c.toNat 0 m.sequences.size with
  | some (first, parts) => if first = c.toNat then some parts else m.viaRun? c.toNat
  | none => m.viaRun? c.toNat

end ProxyAutoConfig.Unicode
