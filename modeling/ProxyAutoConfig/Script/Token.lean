import ProxyAutoConfig.Script.Number
import ProxyAutoConfig.Text.Units
import ProxyAutoConfig.Unicode.Name

/-!
# Tokens of scripts

A script is read as words, numbers, quoted texts and marks, with blanks, line ends and comments
between them. Whether a line ends in front of a token is kept with it: statements may end there.

A slash is always read as a mark. Where an operand has to stand, whoever reads the script reads a
pattern from the slash on (`readPatternText`).
-/

namespace ProxyAutoConfig.Script

open ProxyAutoConfig.Text ProxyAutoConfig.Unicode

/-- A token. -/
inductive Token where
  | word (w : String)
  | number (n : Number)
  | text (u : Units)
  | mark (m : String)
  | done

namespace Token

/-- The token is this mark. -/
def isMark (t : Token) (m : String) : Bool :=
  match t with
  | mark m' => m' == m
  | _ => false

/-- The token is this word. -/
def isWord (t : Token) (w : String) : Bool :=
  match t with
  | word w' => w' == w
  | _ => false

/-! ## Between tokens -/

/-- The character ends a line. -/
def endsLine (c : Char) : Bool :=
  c == '\n' || c == '\r' || c == '\u2028' || c == '\u2029'

/-- What is being passed over. -/
inductive Gap where
  | blanks
  | lineComment
  /-- A comment between marks; `star` says that a star has just been passed. -/
  | blockComment (star : Bool)

/-- Pass over what stands between tokens: whether a line ended, and what follows. A comment that
does not end is no gap. -/
def skip : Gap → Bool → List Char → Option (Bool × List Char)
  | .blanks, ended, [] => some (ended, [])
  | .blanks, ended, c :: cs =>
    if endsLine c then skip .blanks true cs
    else if Number.isScriptBlank c then skip .blanks ended cs
    else if c == '/' then
      match cs with
      | '/' :: rest => skip .lineComment ended rest
      | '*' :: rest => skip (.blockComment false) ended rest
      | _ => some (ended, c :: cs)
    else some (ended, c :: cs)
  | .lineComment, ended, [] => some (ended, [])
  | .lineComment, ended, c :: cs =>
    if endsLine c then skip .blanks true cs else skip .lineComment ended cs
  | .blockComment _, _, [] => none
  | .blockComment star, ended, c :: cs =>
    if star && c == '/' then skip .blanks ended cs
    else skip (.blockComment (c == '*')) (ended || endsLine c) cs

/-! ## Quoted texts -/

/-- What has been read of an escape. -/
inductive Escape where
  | none
  /-- A backslash. -/
  | backslash
  /-- So many hexadecimal digits are still to come behind those that make up the number. -/
  | digits (count value : Nat)
  /-- `u` and perhaps a brace with digits. -/
  | unicode
  | braces (value : Nat) (any : Bool)
  /-- Octal digits that make up the number; so many may still follow. -/
  | octal (value count : Nat)
  /-- A carriage return that goes on with the line. -/
  | carriage

/-- The units of a code point. -/
def unitsOfPoint (n : Nat) : Units :=
  if 0xD800 ≤ n ∧ n < 0xE000 then [n.toUInt16] else Units.ofChar (Char.ofNat n)

/-- Read a quoted text behind its opening quote: its units and what follows the closing one. -/
def readQuoted (quote : Char) (done : Units) : Escape → List Char → Option (Units × List Char)
  | _, [] => Option.none
  | .none, c :: cs =>
    if c == quote then some (done.reverse, cs)
    else if c == '\\' then readQuoted quote done .backslash cs
    else if c == '\n' || c == '\r' then Option.none
    else readQuoted quote ((Units.ofChar c).reverse ++ done) .none cs
  | .backslash, c :: cs =>
    if c == 'n' then readQuoted quote (10 :: done) .none cs
    else if c == 't' then readQuoted quote (9 :: done) .none cs
    else if c == 'r' then readQuoted quote (13 :: done) .none cs
    else if c == 'b' then readQuoted quote (8 :: done) .none cs
    else if c == 'v' then readQuoted quote (11 :: done) .none cs
    else if c == 'f' then readQuoted quote (12 :: done) .none cs
    else if c == 'x' then readQuoted quote done (.digits 2 0) cs
    else if c == 'u' then readQuoted quote done .unicode cs
    else if '0' ≤ c && c ≤ '7' then
      readQuoted quote done (.octal (c.toNat - 48) (if c ≤ '3' then 2 else 1)) cs
    else if c == '\r' then readQuoted quote done .carriage cs
    else if endsLine c then readQuoted quote done .none cs
    else readQuoted quote ((Units.ofChar c).reverse ++ done) .none cs
  | .carriage, c :: cs =>
    if c == '\n' then readQuoted quote done .none cs
    else if c == quote then some (done.reverse, cs)
    else if c == '\\' then readQuoted quote done .backslash cs
    else if c == '\r' then Option.none
    else readQuoted quote ((Units.ofChar c).reverse ++ done) .none cs
  | .unicode, c :: cs =>
    if c == '\x7b' then readQuoted quote done (.braces 0 false) cs
    else
      match Percent.hexValue? c with
      | some d => readQuoted quote done (.digits 3 d) cs
      | Option.none => Option.none
  | .digits count value, c :: cs =>
    match Percent.hexValue? c with
    | some d =>
      let value := value * 16 + d
      if count ≤ 1 then readQuoted quote (value.toUInt16 :: done) .none cs
      else readQuoted quote done (.digits (count - 1) value) cs
    | Option.none => Option.none
  | .braces value any, c :: cs =>
    if c == '\x7d' then
      if any then readQuoted quote ((unitsOfPoint value).reverse ++ done) .none cs
      else Option.none
    else
      match Percent.hexValue? c with
      | some d =>
        if 0x10FFFF < value * 16 + d then Option.none
        else readQuoted quote done (.braces (value * 16 + d) true) cs
      | Option.none => Option.none
  | .octal value count, c :: cs =>
    if 0 < count && '0' ≤ c && c ≤ '7' then
      readQuoted quote done (.octal (value * 8 + (c.toNat - 48)) (count - 1)) cs
    else
      let done := value.toUInt16 :: done
      if c == quote then some (done.reverse, cs)
      else if c == '\\' then readQuoted quote done .backslash cs
      else if c == '\n' || c == '\r' then Option.none
      else readQuoted quote ((Units.ofChar c).reverse ++ done) .none cs

/-! ## Numbers and marks -/

/-- Digits with single underscores between them, taken out; what follows them. -/
def dropSeparators (cs : List Char) : List Char :=
  cs.filter (· != '_')

/-- Read a number. -/
def readNumber (cs : List Char) : Option (Number × List Char) :=
  match cs with
  | '0' :: m :: rest =>
    if m == 'x' || m == 'X' || m == 'o' || m == 'O' || m == 'b' || m == 'B' then
      let digits := rest.takeWhile fun c => c.isAlphanum || c == '_'
      (Number.readMarked? ('0' :: m :: dropSeparators digits)).map fun n =>
        (n, rest.drop digits.length)
    else if m.isDigit then
      let digits := (m :: rest).takeWhile Char.isDigit
      match number? 8 digits with
      | some n => some (Number.ofDecimal n 0, (m :: rest).drop digits.length)
      | Option.none => Number.readDecimal? cs
    else Number.readDecimal? cs
  | _ => Number.readDecimal? cs

/-- The marks, longer ones first. -/
def marks : List String :=
  [">>>=", "...", "===", "!==", "**=", "<<=", ">>=", ">>>", "&&=", "||=", "??=", "=>", "==", "!=",
    "<=", ">=", "&&", "||", "??", "++", "--", "+=", "-=", "*=", "/=", "%=", "&=", "|=", "^=",
    "<<", ">>", "**", "\x7b", "\x7d", "(", ")", "[", "]", ";", ",", "<", ">", "+", "-", "*", "/",
    "%", "&", "|", "^", "!", "~", "?", ":", "=", "."]

/-- The marks as characters. -/
def markTexts : List (String × List Char) :=
  marks.map fun m => (m, m.toList)

/-- Read a mark. -/
def readMark (cs : List Char) : Option (Token × List Char) :=
  (markTexts.find? fun entry => entry.2.isPrefixOf cs).map fun entry =>
    (mark entry.1, cs.drop entry.2.length)

/-- Read the token in front. -/
def read (cs : List Char) : Option (Token × List Char) :=
  match cs with
  | [] => some (done, [])
  | c :: rest =>
    if beginsName c then
      some (word (String.ofList (cs.takeWhile continuesName)), cs.dropWhile continuesName)
    else if c == '"' || c == '\'' then
      (readQuoted c [] .none rest).map fun (u, after) => (text u, after)
    else if c.isDigit || (c == '.' && (rest.head?).any Char.isDigit) then
      match readNumber cs with
      | some (n, after) => if after.head?.any continuesName then Option.none else
        some (number n, after)
      | Option.none => Option.none
    else readMark cs

/-! ## Patterns -/

/-- Read the text of a pattern up to its closing slash; `inClass` says that a bracket is open. -/
def readPatternText (text : List Char) (inClass escaped : Bool) :
    List Char → Option (List Char × List Char)
  | [] => Option.none
  | c :: cs =>
    if endsLine c then Option.none
    else if escaped then readPatternText (c :: text) inClass false cs
    else if c == '\\' then readPatternText (c :: text) inClass true cs
    else if c == '[' then readPatternText (c :: text) true false cs
    else if c == ']' then readPatternText (c :: text) false false cs
    else if c == '/' && !inClass then some (text.reverse, cs)
    else readPatternText (c :: text) inClass false cs

end Token

end ProxyAutoConfig.Script
