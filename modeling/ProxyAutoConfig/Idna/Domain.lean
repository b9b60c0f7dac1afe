import ProxyAutoConfig.Idna.Mapping
import ProxyAutoConfig.Idna.Punycode
import ProxyAutoConfig.Unicode.Direction
import ProxyAutoConfig.Unicode.Normal

/-!
# Domain names in ASCII

A domain name may be written in any script; its ASCII form is what addresses and tables use.
The name is mapped and brought to its normal form, and cut into labels at dots. A label that
begins with `xn--` is read back to the text it stands for and must be written as that text
would be. Every label is then checked: it does not begin with a mark, invisible joiners stand
where scripts need them, and in a name with text from right to left every label keeps to one
direction. What is not ASCII is written in Punycode behind `xn--`.
-/

namespace ProxyAutoConfig.Idna

open ProxyAutoConfig.Unicode

/-- Only ASCII. -/
def isAscii (cs : List Char) : Bool :=
  cs.all (·.toNat < 0x80)

/-- A text mapped and in normal form. -/
def canonical? (cs : List Char) : Option (List Char) :=
  (mapText cs).map normalForm

/-- What the ASCII form of a label that is not ASCII begins with. -/
def marker : List Char :=
  ['x', 'n', '-', '-']

/-- The text that a label of a mapped name stands for. -/
def readLabel (label : List Char) : Option (List Char) :=
  if marker.isPrefixOf label then
    if 2000 < label.length - 4 then none
    else
      match Punycode.decode (label.drop 4) with
      | none => none
      | some text =>
        if text.isEmpty || isAscii text || canonical? text != some text then none else some text
  else some label

/-! ## Joiners -/

/-- The characters in front, nearest first, let a non-joiner stand behind them. -/
def joinsBack : List Char → Bool
  | [] => false
  | c :: cs => if joinsThrough.contains c then joinsBack cs else joinsAfter.contains c

/-- The characters behind let a non-joiner stand in front of them. -/
def joinsOn : List Char → Bool
  | [] => false
  | c :: cs => if joinsThrough.contains c then joinsOn cs else joinsBefore.contains c

/-- A mark that makes a consonant join stands directly in front. -/
def afterVirama : List Char → Bool
  | [] => false
  | c :: _ => viramas.contains c

/-- Joiners stand where they may; `done` is the text in front, nearest first. -/
def joinersFit (done : List Char) : List Char → Bool
  | [] => true
  | c :: cs =>
    (if c = '\u200c' then afterVirama done || (joinsBack done && joinsOn cs)
      else if c = '\u200d' then afterVirama done
      else true) &&
    joinersFit (c :: done) cs

/-! ## Direction -/

/-- The name has text from right to left. -/
def runsRight (cs : List Char) : Bool :=
  cs.any fun c => direction c == .right || direction c == .rightDigit

/-- The last direction of a label but for the marks at its end. -/
def lastDirection? (directions : List Direction) : Option Direction :=
  (directions.reverse.dropWhile (· == .mark)).head?

/-- A label keeps to one direction. -/
def directionsFit (label : List Char) : Bool :=
  let directions := label.map direction
  match directions.head?, lastDirection? directions with
  | some .right, some last =>
    directions.all (fun d => d != .left && d != .other) &&
      (last == .right || last == .digit || last == .rightDigit) &&
      !(directions.contains .digit && directions.contains .rightDigit)
  | some .left, some last =>
    directions.all (fun d => d != .right && d != .rightDigit && d != .other) &&
      (last == .left || last == .digit)
  | none, _ => true
  | _, _ => false

/-! ## Names -/

/-- A label begins with no mark and its joiners stand where they may. -/
def labelFits (label : List Char) : Bool :=
  !label.head?.any isMark && joinersFit [] label

/-- The ASCII form of a label. -/
def writeLabel (label : List Char) : Option (List Char) :=
  if isAscii label then some label
  else if marker.isPrefixOf label || 1000 < label.length then none
  else some (marker ++ Punycode.encode label)

/-- Characters that no host name holds in its ASCII form. -/
def isRefusedInHost (c : Char) : Bool :=
  c.toNat ≤ 0x20 || c.toNat == 0x7F ||
    ['%', '#', '/', ':', '<', '>', '?', '@', '[', '\\', ']', '^', '|'].contains c

/-- Labels joined by dots. -/
def joinLabels : List (List Char) → List Char
  | [] => []
  | [label] => label
  | label :: labels => label ++ '.' :: joinLabels labels

/-- The ASCII form of a domain name. -/
def toAscii? (name : List Char) : Option (List Char) := do
  let labels ← ((← canonical? name).splitOn '.').mapM readLabel
  if !labels.all labelFits || (labels.any runsRight && !labels.all directionsFit) then none
  else
    let text := joinLabels (← labels.mapM writeLabel)
    if text.any isRefusedInHost then none else some text

/-- The ASCII form of a domain name holds no refused character. -/
theorem not_isRefusedInHost_of_toAscii? {name text : List Char} (read : toAscii? name = some text) :
    ∀ c ∈ text, isRefusedInHost c = false := by
  simp only [toAscii?, Option.bind_eq_bind, Option.bind_eq_some_iff] at read
  obtain ⟨_, _, _, _, read⟩ := read
  split at read
  · cases read
  · obtain ⟨labels, _, written⟩ := Option.bind_eq_some_iff.mp read
    split at written
    · cases written
    · next plain =>
      cases written
      simpa only [List.any_eq_true, not_exists, not_and, Bool.not_eq_true] using plain

end ProxyAutoConfig.Idna
