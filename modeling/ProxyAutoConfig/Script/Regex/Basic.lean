import ProxyAutoConfig.Text.Units
import ProxyAutoConfig.Unicode.Letters

/-!
# Patterns of scripts

A pattern describes texts unit by unit. `Node.run` tries to match one from a position and hands
on to what has to match after it, so that a choice made early can be taken back when the rest
does not fit: the first way to match that is found, in the order in which the pattern prefers
them, is the one that counts. A repetition goes on only while it moves forward.
-/

namespace ProxyAutoConfig.Script.Regex

open ProxyAutoConfig.Text

/-- Some units: a range, or a named class or its opposite. -/
inductive Item where
  | range (first last : UInt16)
  | digits (negated : Bool)
  | words (negated : Bool)
  | blanks (negated : Bool)
  deriving DecidableEq, Repr

/-- A part of a pattern. -/
inductive Node where
  | empty
  | unit (u : UInt16)
  /-- Any unit that ends no line. -/
  | any
  | set (negated : Bool) (items : List Item)
  | lineStart
  | lineEnd
  | boundary (negated : Bool)
  /-- A part whose match is kept under a number. -/
  | capture (index : Nat) (n : Node)
  | seq (a b : Node)
  | alt (a b : Node)
  /-- A part from `least` to `most` times; its captures are those from `first` on, `count` many. -/
  | times (n : Node) (least : Nat) (most : Option Nat) (greedy : Bool) (first count : Nat)
  | ahead (negated : Bool) (n : Node)
  | backReference (index : Nat)
  deriving Repr

/-- A pattern with its flags. -/
structure Pattern where
  source : Units
  flags : Units
  node : Node
  /-- The number of captures. -/
  captures : Nat
  ignoreCase : Bool
  multiline : Bool
  dotAll : Bool
  global : Bool
  sticky : Bool
  deriving Repr

/-! ## Units -/

/-- The unit ends a line. -/
def endsLine (u : UInt16) : Bool :=
  u == 0x0A || u == 0x0D || u == 0x2028 || u == 0x2029

/-- A decimal digit. -/
def isDigit (u : UInt16) : Bool :=
  0x30 ≤ u && u ≤ 0x39

/-- A letter or digit of ASCII, or an underscore. -/
def isWord (u : UInt16) : Bool :=
  isDigit u || (0x41 ≤ u && u ≤ 0x5A) || (0x61 ≤ u && u ≤ 0x7A) || u == 0x5F

/-- A blank or a line end. -/
def isBlank (u : UInt16) : Bool :=
  (9 ≤ u && u ≤ 13) || u == 0x20 || u == 0xA0 || u == 0x1680 || (0x2000 ≤ u && u ≤ 0x200A) ||
    u == 0x2028 || u == 0x2029 || u == 0x202F || u == 0x205F || u == 0x3000 || u == 0xFEFF

/-- The unit that stands for a unit and its other case. -/
def fold (u : UInt16) : UInt16 :=
  match Unicode.toUpper (Char.ofNat u.toNat) with
  | [c] =>
    if c.toNat < 0x10000 && !(0x80 ≤ u && c.toNat < 0x80) && c.toNat != 0 then c.toNat.toUInt16
    else u
  | _ => u

/-- The units of an item. -/
def Item.holds : Item → UInt16 → Bool
  | range first last, u => first ≤ u && u ≤ last
  | digits negated, u => isDigit u != negated
  | words negated, u => isWord u != negated
  | blanks negated, u => isBlank u != negated

/-- An item holds the unit, or one that differs from it in case alone. -/
def Item.holdsFolded (item : Item) (u : UInt16) : Bool :=
  item.holds u ||
    match item with
    | range first last =>
      (List.range (min (last.toNat + 1 - first.toNat) 0x400)).any fun i =>
        fold (first + i.toUInt16) == fold u
    | _ => false

/-! ## Matching -/

/-- How far a match has come. -/
structure Progress where
  position : Nat
  /-- Where each capture begins and ends. -/
  captures : List (Option (Nat × Nat))

/-- What is matched against. -/
structure Subject where
  units : Array UInt16
  ignoreCase : Bool
  multiline : Bool
  dotAll : Bool

/-- What has to match next. -/
abbrev Rest := Progress → Option Progress

namespace Subject

/-- Two units count as one. -/
def same (s : Subject) (a b : UInt16) : Bool :=
  a == b || (s.ignoreCase && fold a == fold b)

/-- One unit that satisfies `p`. -/
def one (s : Subject) (p : UInt16 → Bool) (rest : Rest) (here : Progress) : Option Progress :=
  match s.units[here.position]? with
  | some u => if p u then rest { here with position := here.position + 1 } else none
  | none => none

/-- A word unit stands at the place. -/
def wordAt (s : Subject) (i : Nat) : Bool :=
  (s.units[i]?).any isWord

/-- A word unit stands in front of the place. -/
def wordBefore (s : Subject) (i : Nat) : Bool :=
  0 < i && s.wordAt (i - 1)

/-- A line starts at the place. -/
def startsLine (s : Subject) (i : Nat) : Bool :=
  i == 0 || (s.multiline && (s.units[i - 1]?).any endsLine)

/-- A line ends at the place. -/
def endsLineAt (s : Subject) (i : Nat) : Bool :=
  i == s.units.size || (s.multiline && (s.units[i]?).any endsLine)

/-- The units from `first` up to `last` stand again at the place. -/
def repeatsAt (s : Subject) (first last i : Nat) : Bool :=
  i + (last - first) ≤ s.units.size &&
    (List.range (last - first)).all fun k =>
      match s.units[first + k]?, s.units[i + k]? with
      | some a, some b => s.same a b
      | _, _ => false

end Subject

/-- Up to `most` further rounds of a step that moves forward. -/
def rounds (step : Rest → Rest) (greedy : Bool) (rest : Rest) : Nat → Rest
  | 0 => rest
  | most + 1 => fun here =>
    let more := step (fun there =>
      if there.position = here.position then none else rounds step greedy rest most there)
    if greedy then (more here).or (rest here) else (rest here).or (more here)

/-- `least` rounds of a step, and what follows. -/
def atLeast (step : Rest → Rest) (rest : Rest) : Nat → Rest
  | 0 => rest
  | least + 1 => step (atLeast step rest least)

/-- Progress in which captures are forgotten. -/
def forget (first count : Nat) (p : Progress) : Progress :=
  { p with captures := p.captures.mapIdx fun i c =>
      if first ≤ i && i < first + count then none else c }

/-- Match a part and then the rest. -/
def Node.run (s : Subject) : Node → Rest → Rest
  | empty, rest => rest
  | unit u, rest => s.one (s.same u) rest
  | any, rest => s.one (fun u => s.dotAll || !endsLine u) rest
  | set negated items, rest =>
    s.one (fun u =>
      items.any (fun i => if s.ignoreCase then i.holdsFolded u else i.holds u) != negated) rest
  | lineStart, rest => fun p => if s.startsLine p.position then rest p else none
  | lineEnd, rest => fun p => if s.endsLineAt p.position then rest p else none
  | boundary negated, rest => fun p =>
    if (s.wordBefore p.position != s.wordAt p.position) != negated then rest p else none
  | capture index n, rest => fun p =>
    n.run s (fun q =>
      rest { q with captures := q.captures.set index (some (p.position, q.position)) }) p
  | seq a b, rest => a.run s (b.run s rest)
  | alt a b, rest => fun p => (a.run s rest p).or (b.run s rest p)
  | times n least most greedy first count, rest =>
    let step (rest : Rest) : Rest := fun p => n.run s rest (forget first count p)
    let more := match most with
      | some m => min (m - least) (s.units.size + 1)
      | none => s.units.size + 1
    atLeast step (rounds step greedy rest more) least
  | ahead negated n, rest => fun p =>
    match n.run s some p with
    | some q => if negated then none else rest { q with position := p.position }
    | none => if negated then rest p else none
  | backReference index, rest => fun p =>
    match p.captures[index]? with
    | some (some (first, last)) =>
      if s.repeatsAt first last p.position then
        rest { p with position := p.position + (last - first) }
      else none
    | _ => rest p

/-- A match: where it begins and ends, and its captures. -/
structure Match where
  first : Nat
  last : Nat
  captures : List (Option (Nat × Nat))

/-- Match a pattern that begins at a place. -/
def Pattern.matchAt (p : Pattern) (text : Array UInt16) (start : Nat) : Option Match :=
  let s : Subject := ⟨text, p.ignoreCase, p.multiline, p.dotAll⟩
  (p.node.run s some ⟨start, List.replicate p.captures none⟩).map fun q =>
    ⟨start, q.position, q.captures⟩

/-- The first match that begins at a place or behind it; there are `count` places to try. -/
def Pattern.search (p : Pattern) (text : Array UInt16) (start : Nat) : Nat → Option Match
  | 0 => none
  | count + 1 => (p.matchAt text start).or (p.search text (start + 1) count)

/-- The first match in a text from a place on; a sticky pattern matches there or nowhere. -/
def Pattern.find? (p : Pattern) (text : Units) (start : Nat) : Option Match :=
  let units := text.toArray
  if units.size < start then none
  else p.search units start (if p.sticky then 1 else units.size + 1 - start)

/-- The matches in a text from a place on, one behind the other, at most `count` of them. -/
def Pattern.findAll (p : Pattern) (text : Units) : Nat → Nat → List Match
  | 0, _ => []
  | count + 1, start =>
    match p.find? text start with
    | some m =>
      m :: p.findAll text count (if m.last = m.first then m.last + 1 else m.last)
    | none => []

/-- The pattern matches somewhere in the text. -/
def Pattern.test (p : Pattern) (text : Units) : Bool :=
  (p.find? text 0).isSome

end ProxyAutoConfig.Script.Regex
