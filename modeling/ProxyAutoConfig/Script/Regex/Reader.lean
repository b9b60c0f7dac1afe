import ProxyAutoConfig.Script.Regex.Basic
import ProxyAutoConfig.Text.Number

/-!
# Reading patterns

The written form of patterns: alternatives between bars, parts one after the other, quantifiers
behind a part, groups in parentheses, classes in brackets, and a backslash in front of what is
meant otherwise than it is written. A brace that begins no quantifier stands for itself.

Reading is bounded by the length of the text: every part that is read takes characters away.
-/

namespace ProxyAutoConfig.Script.Regex

open ProxyAutoConfig.Text

/-- Parts one after the other. -/
def Node.ofUnits : Units → Node
  | [] => .empty
  | [u] => .unit u
  | u :: rest => .seq (.unit u) (Node.ofUnits rest)

/-- Four hexadecimal digits in front. -/
def readHex (count : Nat) (cs : List Char) : Option (Nat × List Char) :=
  let digits := cs.take count
  if digits.length = count then (number? 16 digits).map fun n => (n, cs.drop count) else none

/-- The class that a letter behind a backslash names. -/
def namedClass? (c : Char) : Option Item :=
  match c with
  | 'd' => some (.digits false)
  | 'D' => some (.digits true)
  | 'w' => some (.words false)
  | 'W' => some (.words true)
  | 's' => some (.blanks false)
  | 'S' => some (.blanks true)
  | _ => none

/-- The unit that a letter behind a backslash names. -/
def namedUnit? (c : Char) : Option UInt16 :=
  match c with
  | 't' => some 9
  | 'n' => some 10
  | 'v' => some 11
  | 'f' => some 12
  | 'r' => some 13
  | _ => none

/-- The units behind a backslash, and what follows them. -/
def readEscape (c : Char) (rest : List Char) : Units × List Char :=
  match namedUnit? c with
  | some u => ([u], rest)
  | none =>
    if c == 'x' then
      match readHex 2 rest with
      | some (n, after) => ([n.toUInt16], after)
      | none => (Units.ofChar c, rest)
    else if c == 'u' then
      match readHex 4 rest with
      | some (n, after) => ([n.toUInt16], after)
      | none => (Units.ofChar c, rest)
    else if c == '0' then ([0], rest)
    else if c == 'c' then
      match rest with
      | l :: after =>
        if l.isAlpha then ([(l.toNat % 32).toUInt16], after) else ([0x5C], c :: rest)
      | [] => ([0x5C], [c])
    else (Units.ofChar c, rest)

/-! ## Classes -/

/-- One member of a class: an item, or units of which the last may begin a range. -/
def readMember (c : Char) (rest : List Char) : Option ((Item ⊕ Units) × List Char) :=
  if c == '\\' then
    match rest with
    | [] => none
    | e :: after =>
      match namedClass? e with
      | some item => some (.inl item, after)
      | none =>
        if e == 'b' then some (.inr [8], after)
        else
          let (units, after) := readEscape e after
          some (.inr units, after)
  else some (.inr (Units.ofChar c), rest)

/-- The items of single units. -/
def singles (u : Units) : List Item :=
  u.map fun x => .range x x

/-- Read the members of a class up to its closing bracket. -/
def readClass (items : List Item) : Nat → List Char → Option (List Item × List Char)
  | 0, _ => none
  | _, [] => none
  | fuel + 1, c :: rest =>
    if c == ']' then some (items, rest)
    else
      match readMember c rest with
      | none => none
      | some (.inl item, after) => readClass (items ++ [item]) fuel after
      | some (.inr units, after) =>
        match after, units.getLast? with
        | '-' :: d :: more, some low =>
          if d == ']' then readClass (items ++ singles units) fuel after
          else
            match readMember d more with
            | none => none
            | some (.inl item, more) =>
              readClass (items ++ singles units ++ [.range 0x2D 0x2D, item]) fuel more
            | some (.inr ends, more) =>
              match ends with
              | [] => none
              | high :: others =>
                if high < low then none
                else
                  readClass (items ++ singles units.dropLast ++ [.range low high] ++
                    singles others) fuel more
        | _, _ => readClass (items ++ singles units) fuel after

/-! ## Quantifiers -/

/-- The bounds of a quantifier in front. -/
def readBounds (cs : List Char) : Option ((Nat × Option Nat) × List Char) :=
  match cs with
  | '*' :: rest => some ((0, none), rest)
  | '+' :: rest => some ((1, none), rest)
  | '?' :: rest => some ((0, some 1), rest)
  | '\x7b' :: rest =>
    let least := rest.takeWhile Char.isDigit
    match decimal? least, rest.dropWhile Char.isDigit with
    | some n, '\x7d' :: after => some ((n, some n), after)
    | some n, ',' :: after =>
      let most := after.takeWhile Char.isDigit
      match after.dropWhile Char.isDigit with
      | '\x7d' :: last =>
        if most.isEmpty then some ((n, none), last)
        else (decimal? most).map fun m => ((n, some m), last)
      | _ => none
    | _, _ => none
  | _ => none

/-- A part with the quantifier behind it. Reading the part has numbered its captures from
`first` up to `next`. -/
def quantify (n : Node) (first next : Nat) (cs : List Char) : Option (Node × List Char) :=
  match readBounds cs with
  | none => some (n, cs)
  | some ((least, most), rest) =>
    if most.any (· < least) then none
    else
      match rest with
      | '?' :: rest => some (.times n least most false first (next - first), rest)
      | _ => some (.times n least most true first (next - first), rest)

/-! ## Parts -/

/-- A part that is read: the part, the number of the next capture, and what follows. -/
abbrev Reading := Option (Node × Nat × List Char)

/-- A part that is no group, and whether a quantifier may follow. -/
def readAtom (c : Char) (rest : List Char) : Option (Node × Bool × List Char) :=
  match c with
  | '.' => some (.any, true, rest)
  | '^' => some (.lineStart, false, rest)
  | '$' => some (.lineEnd, false, rest)
  | '[' =>
    match rest with
    | '^' :: rest =>
      (readClass [] (rest.length + 1) rest).map fun (items, after) =>
        (.set true items, true, after)
    | _ =>
      (readClass [] (rest.length + 1) rest).map fun (items, after) =>
        (.set false items, true, after)
  | '\\' =>
    match rest with
    | [] => none
    | e :: after =>
      if e == 'b' then some (.boundary false, false, after)
      else if e == 'B' then some (.boundary true, false, after)
      else if '1' ≤ e && e ≤ '9' then
        let digits := rest.takeWhile Char.isDigit
        (decimal? digits).map fun n =>
          (.backReference (n - 1), true, rest.dropWhile Char.isDigit)
      else
        match namedClass? e with
        | some item => some (.set false [item], true, after)
        | none =>
          let (units, after) := readEscape e after
          some (Node.ofUnits units, true, after)
  | '*' | '+' | '?' => none
  | c => if (readBounds (c :: rest)).isSome then none else
    some (Node.ofUnits (Units.ofChar c), true, rest)

mutual

/-- Read alternatives up to a closing parenthesis or the end. -/
def readAlternatives : Nat → Nat → List Char → Reading
  | 0, _, _ => none
  | fuel + 1, next, cs =>
    match readSequence fuel next cs with
    | none => none
    | some (a, next, rest) =>
      match rest with
      | '|' :: rest =>
        match readAlternatives fuel next rest with
        | some (b, next, rest) => some (.alt a b, next, rest)
        | none => none
      | _ => some (a, next, rest)

/-- Read parts one after the other up to a bar, a closing parenthesis or the end. -/
def readSequence : Nat → Nat → List Char → Reading
  | 0, _, _ => none
  | _, next, [] => some (.empty, next, [])
  | fuel + 1, next, c :: rest =>
    if c == '|' || c == ')' then some (.empty, next, c :: rest)
    else
      match readPart fuel next c rest with
      | none => none
      | some (n, next, rest) =>
        match readSequence fuel next rest with
        | none => none
        | some (.empty, next, rest) => some (n, next, rest)
        | some (more, next, rest) => some (.seq n more, next, rest)

/-- Read one part and its quantifier. -/
def readPart : Nat → Nat → Char → List Char → Reading
  | 0, _, _, _ => none
  | fuel + 1, next, c, rest =>
    if c == '(' then
      match rest with
      | '?' :: ':' :: rest => readGroup fuel next next rest id
      | '?' :: '=' :: rest => readGroup fuel next next rest (.ahead false)
      | '?' :: '!' :: rest => readGroup fuel next next rest (.ahead true)
      | '?' :: _ => none
      | _ => readGroup fuel next (next + 1) rest (.capture next)
    else
      match readAtom c rest with
      | none => none
      | some (n, quantified, rest) =>
        if quantified then
          (quantify n next next rest).map fun (n, rest) => (n, next, rest)
        else if (readBounds rest).isSome then none
        else some (n, next, rest)

/-- Read the inside of a group, its closing parenthesis and its quantifier. -/
def readGroup : Nat → Nat → Nat → List Char → (Node → Node) → Reading
  | 0, _, _, _, _ => none
  | fuel + 1, first, next, cs, wrap =>
    match readAlternatives fuel next cs with
    | some (n, next, ')' :: rest) =>
      (quantify (wrap n) first next rest).map fun (n, rest) => (n, next, rest)
    | _ => none

end

/-- A pattern from its text and its flags; a flag stands once. -/
def Pattern.ofText? (source flags : List Char) : Option Pattern :=
  if !flags.all (fun f => ['g', 'i', 'm', 's', 'u', 'y', 'd'].contains f) || !flags.Nodup then none
  else
    match readAlternatives (4 * source.length + 4) 0 source with
    | some (node, captures, []) =>
      some ⟨Units.ofChars source, Units.ofChars flags, node, captures, flags.contains 'i',
        flags.contains 'm', flags.contains 's', flags.contains 'g', flags.contains 'y'⟩
    | _ => none

end ProxyAutoConfig.Script.Regex
