import ProxyAutoConfig.Script.Methods.Pattern
import ProxyAutoConfig.Script.Regex.Reader

/-!
# Methods of texts

The value that a method is called on is converted to a text first. Places in a text count its
units.
-/

namespace ProxyAutoConfig.Script

open ProxyAutoConfig.Text

namespace Eval

/-- A place counted from the end where it is negative, held within a length. -/
def place (n : Number) (length : Nat) : Nat :=
  let i := n.clamp (-length) length
  (if i < 0 then length + i else i).toNat

/-- The number of an argument, or one for an argument that is not given. -/
def numberOr (call : Caller) (v : Value) (n : Number) : Eval Number :=
  match v with
  | .undefined => pure n
  | v => toNumber call v

/-- The text of an argument that must not be a pattern. -/
def plainPart (call : Caller) (v : Value) : Eval Units := do
  if (← pattern? v).isSome then fail .typeError "a pattern stands where a text is needed"
  else toText call v

/-- What a character of a text becomes; surrogates that stand alone stay. -/
def mapText (f : Char → List Char) (u : Units) : Units :=
  (Units.scalars u).flatMap fun
    | .inl c => Units.ofChars (f c)
    | .inr s => [s]

/-- The unit that announces a part of the text in a template. -/
def dollar : UInt16 := 0x24

/-- The value of a digit. -/
def digit? (u : UInt16) : Option Nat :=
  if Regex.isDigit u then some (u.toNat - 0x30) else none

/-- What the units behind a dollar stand for, and how many of them. -/
def reference? (u : Units) (m : Regex.Match) : Units → Option (Units × Nat)
  | [] => none
  | y :: rest =>
    if y == dollar then some ([dollar], 1)
    else if y == 0x26 then some (between u m.first m.last, 1)
    else if y == 0x60 then some (u.take m.first, 1)
    else if y == 0x27 then some (u.drop m.last, 1)
    else
      let capture (n : Nat) : Option Units :=
        if n = 0 then none
        else (m.captures[n - 1]?).map fun
          | some (first, last) => between u first last
          | none => []
      match digit? y with
      | none => none
      | some d =>
        let two := (rest.head?.bind digit?).bind fun e => capture (10 * d + e)
        match two with
        | some found => some (found, 2)
        | none => (capture d).map fun found => (found, 1)

/-- What a match is replaced with: a dollar in the template, with what follows it, stands for a
part of the text. `skip` counts the units that have been used already. -/
def expand (u : Units) (m : Regex.Match) : Nat → Units → Units
  | _, [] => []
  | skip + 1, _ :: rest => expand u m skip rest
  | 0, x :: rest =>
    if x != dollar then x :: expand u m 0 rest
    else
      match reference? u m rest with
      | some (new, count) => new ++ expand u m count rest
      | none => x :: expand u m 0 rest

/-- A text in which matches are replaced; `start` is where the part
behind the last match begins. -/
def replaceMatches (call : Caller) (u : Units) (replacement : Value) (function : Bool) :
    Nat → List Regex.Match → Eval Units
  | start, [] => pure (u.drop start)
  | start, m :: rest => do
    let new ←
      if function then do
        let v ← call (.apply replacement .undefined
          (.text (between u m.first m.last) :: captureValues u m ++ [.ofNat m.first, .text u]))
        toText call v
      else pure (expand u m 0 replacement.plainText)
    return between u start m.first ++ new ++ (← replaceMatches call u replacement function m.last rest)

/-- A text in which what is found is replaced. -/
def replaceText (call : Caller) (u : Units) (what replacement : Value) : Eval Units := do
  let found ← match ← pattern? what with
    | some (r, p) =>
      if p.global then do
        set r lastIndexKey (.ofNat 0)
        pure (p.findAll u (u.length + 1) 0)
      else pure (← matchPattern call r p u).toList
    | none => do
      let part ← toText call what
      pure ((Units.indexFrom? part u 0).map fun i => ⟨i, i + part.length, []⟩).toList
  if (← code? replacement).isSome then replaceMatches call u replacement true 0 found
  else replaceMatches call u (.text (← toText call replacement)) false 0 found

/-- The pieces of a text between the matches of a pattern, and the captures of the matches;
`first` is where the piece at hand begins, and a match is looked for at `here`. -/
def splitAtMatches (p : Regex.Pattern) (u : Units) (units : Array UInt16) :
    Nat → Nat → Nat → List Value
  | 0, first, _ => [.text (u.drop first)]
  | fuel + 1, first, here =>
    if units.size ≤ here then [.text (u.drop first)]
    else
      match p.matchAt units here with
      | some m =>
        if m.last = first then splitAtMatches p u units fuel first (here + 1)
        else .text (between u first here) :: captureValues u m ++
          splitAtMatches p u units fuel m.last m.last
      | none => splitAtMatches p u units fuel first (here + 1)

/-- The pieces of a text. -/
def splitText (call : Caller) (u : Units) (separator : Value) : Eval (List Value) := do
  match ← pattern? separator with
  | some (_, p) =>
    if u.isEmpty then return if (p.find? u 0).isSome then [] else [.text u]
    else return splitAtMatches p u u.toArray (2 * u.length + 2) 0 0
  | none =>
    match separator with
    | .undefined => return [.text u]
    | v => return (Units.split (← toText call v) u).map .text

/-- A pattern for an argument: itself, or the one that its text spells. -/
def patternOf (call : Caller) (v : Value) : Eval (Ref × Regex.Pattern) := do
  match ← pattern? v with
  | some found => return found
  | none =>
    let source ← match v with
      | .undefined => pure (Units.ofString "(?:)")
      | v => toText call v
    match Regex.Pattern.ofText? (Units.escaped source) [] with
    | some p =>
      match ← newPattern p with
      | .object r => return (r, p)
      | _ => fail .typeError "a pattern is no object"
    | none => fail .syntaxError "a pattern cannot be read"

/-- The text that a value is, or that an object holds. -/
def heldText (self : Value) : Eval Units := do
  match ← heldValue self with
  | .text u => return u
  | _ => fail .typeError "a method of texts is called on something else"

/-- The methods of texts. -/
def textMethod (call : Caller) (m : TextMethod) (self : Value) (arguments : List Value) :
    Eval Value := do
  if self.isMissing then fail .typeError "a method of texts is called on nothing"
  let u ← match m with
    | .toText => heldText self
    | _ => toText call self
  let first := argument arguments 0
  let second := argument arguments 1
  match m with
  | .toText => return .text u
  | .charAt =>
    let i := (← toNumber call first).clamp (-1) u.length
    return .text (if i < 0 then [] else (u[i.toNat]?).toList)
  | .charCodeAt =>
    let i := (← toNumber call first).clamp (-1) u.length
    match if i < 0 then none else u[i.toNat]? with
    | some x => return .ofNat x.toNat
    | none => return .number .nan
  | .indexOf =>
    let part ← toText call first
    let start := ((← toNumber call second).clamp 0 u.length).toNat
    return .number (match Units.indexFrom? part u start with
      | some i => .ofNat i
      | none => .int (-1))
  | .lastIndexOf =>
    let part ← toText call first
    let n ← toNumber call second
    let limit := if n.isNaN then u.length else (n.clamp 0 u.length).toNat
    return .number (match Units.lastIndexFrom? part u limit with
      | some i => .ofNat i
      | none => .int (-1))
  | .substring =>
    let a := ((← toNumber call first).clamp 0 u.length).toNat
    let b := ((← numberOr call second (.ofNat u.length)).clamp 0 u.length).toNat
    return .text (between u (min a b) (max a b))
  | .slice =>
    let a := place (← toNumber call first) u.length
    let b := place (← numberOr call second (.ofNat u.length)) u.length
    return .text (between u a b)
  | .split =>
    let limit ← match second with
      | .undefined => pure (4294967295 : Nat)
      | v => do pure (← toNumber call v).toBits.toNat
    let pieces ← splitText call u first
    newArray (pieces.take limit)
  | .replace => return .text (← replaceText call u first second)
  | .lower => return .text (mapText Unicode.toLower u)
  | .upper => return .text (mapText Unicode.toUpper u)
  | .trim =>
    return .text ((u.dropWhile Regex.isBlank).reverse.dropWhile Regex.isBlank).reverse
  | .concat =>
    let parts ← arguments.mapM (toText call)
    return .text (u ++ parts.flatten)
  | .startsWith =>
    let part ← plainPart call first
    let start := ((← toNumber call second).clamp 0 u.length).toNat
    return .bool (part.isPrefixOf (u.drop start))
  | .endsWith =>
    let part ← plainPart call first
    let last := ((← numberOr call second (.ofNat u.length)).clamp 0 u.length).toNat
    return .bool (part.isSuffixOf (u.take last))
  | .includes =>
    let part ← plainPart call first
    let start := ((← toNumber call second).clamp 0 u.length).toNat
    return .bool (Units.indexFrom? part u start).isSome
  | .match =>
    let (r, p) ← patternOf call first
    if p.global then
      set r lastIndexKey (.ofNat 0)
      match p.findAll u (u.length + 1) 0 with
      | [] => return .null
      | found => newArray (found.map fun m => .text (between u m.first m.last))
    else
      match ← matchPattern call r p u with
      | some found => matchArray u found
      | none => return .null
  | .search =>
    let (_, p) ← patternOf call first
    return .number (match p.find? u 0 with
      | some m => .ofNat m.first
      | none => .int (-1))

end Eval

end ProxyAutoConfig.Script
