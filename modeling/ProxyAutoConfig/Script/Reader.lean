import ProxyAutoConfig.Script.Regex.Reader
import ProxyAutoConfig.Script.Syntax
import ProxyAutoConfig.Script.Token

/-!
# Reading scripts

From text to syntax, by descent along the grammar. A text that is no script has no reading; why
is not told, for all that a caller learns of it is that the syntax is wrong.

What the language forbids without running anything is refused here too: a name that is declared
twice in one block, a constant without a value, a jump without a loop, a `return` outside a
function, an assignment to what holds no value.

A semicolon may be left out in front of a closing brace, at the end, and where a line ends.

Reading is bounded by the length of the text (`Program.parse?`): no step of the grammar goes more
than a fixed number of levels down without taking a token.

**What it leaves out.** Loops over keys or items (`for` with `in` or `of`), template texts, default
and rest parameters, spread, destructuring, computed keys, getters and setters, `?.`, classes with
members, generators, `async`, `with` and modules have no reading: a script that uses one of them is
refused here, as if its syntax were wrong. Every script is read in the loose mode of the language: a
text that asks for the strict one is a statement like others.
-/

namespace ProxyAutoConfig.Script

open ProxyAutoConfig.Text

/-- What is left of a script, and what has been seen of the function that is being read. -/
structure Reader where
  token : Token
  /-- A line ended in front of the token. -/
  newline : Bool
  /-- The text from the token on. -/
  start : List Char
  /-- The text behind the token. -/
  rest : List Char
  /-- The names that `var` has declared, the last one first. -/
  hoisted : List Units
  /-- The function names `arguments`. -/
  usesArguments : Bool

/-- A reading, or none. -/
abbrev Read := StateT Reader Option

/-- Where a statement or an expression stands. -/
structure Place where
  inFunction : Bool
  inLoop : Bool
  inSwitch : Bool
  labels : List Units
  loopLabels : List Units
  /-- `in` is no operator, for it belongs to a loop's head. -/
  noIn : Bool

namespace Place

/-- The outermost place of a script. -/
def top : Place :=
  ⟨false, false, false, [], [], false⟩

/-- The outermost place of a function. -/
def function : Place :=
  ⟨true, false, false, [], [], false⟩

/-- The body of a loop; `own` are the loop's labels. -/
def loop (p : Place) (own : List Units) : Place :=
  { p with inLoop := true, loopLabels := own ++ p.loopLabels, noIn := false }

end Place

namespace Read

/-! ## Tokens -/

/-- Go on to the next token. -/
def advance : Read Unit := fun s =>
  match Token.skip .blanks false s.rest with
  | none => none
  | some (newline, start) =>
    match Token.read start with
    | none => none
    | some (token, rest) => some ((), { s with token, newline, start, rest })

/-- The token at hand. -/
def peek : Read Token := fun s =>
  some (s.token, s)

/-- The token at hand is this mark. -/
def atMark (m : String) : Read Bool := fun s =>
  some (s.token.isMark m, s)

/-- The token at hand is this word. -/
def atWord (w : String) : Read Bool := fun s =>
  some (s.token.isWord w, s)

/-- Pass a mark, if it is at hand. -/
def eat (m : String) : Read Bool := do
  if ← atMark m then
    advance
    return true
  else return false

/-- Pass a word, if it is at hand. -/
def eatWord (w : String) : Read Bool := do
  if ← atWord w then
    advance
    return true
  else return false

/-- Pass a mark that has to stand here. -/
def expect (m : String) : Read Unit := do
  if ← eat m then return else failure

/-- Pass a word that has to stand here. -/
def expectWord (w : String) : Read Unit := do
  if ← eatWord w then return else failure

/-- A line ended in front of the token at hand. -/
def newline : Read Bool := fun s =>
  some (s.newline, s)

/-- Try a reading; where there is none, nothing has been read. -/
def attempt {α : Type} (r : Read α) : Read (Option α) := fun s =>
  match r s with
  | some (a, s) => some (some a, s)
  | none => some (none, s)

/-- The reading succeeds from here; nothing has been read. -/
def ahead {α : Type} (r : Read α) : Read Bool := fun s =>
  some ((r s).isSome, s)

/-- The end of a statement. -/
def endStatement : Read Unit := do
  if ← eat ";" then return
  match ← peek with
  | .done => return
  | token =>
    if token.isMark "\x7d" then return
    else if ← newline then return
    else failure

/-- Words that name nothing. -/
def reserved : List String :=
  ["break", "case", "catch", "class", "const", "continue", "debugger", "default", "delete", "do",
    "else", "enum", "export", "extends", "false", "finally", "for", "function", "if", "import",
    "in", "instanceof", "new", "null", "return", "super", "switch", "this", "throw", "true",
    "try", "typeof", "var", "void", "while", "with"]

/-- Read a name. -/
def name : Read Units := do
  match ← peek with
  | .word w =>
    if reserved.contains w then failure
    else
      advance
      return Units.ofString w
  | _ => failure

/-- Keep in mind that a name has been used. -/
def noteName (x : Units) : Read Unit := fun s =>
  some ((), { s with usesArguments := s.usesArguments || x == Units.ofString "arguments" })

/-- Keep in mind that `var` has declared a name. -/
def noteVariable (x : Units) : Read Unit := fun s =>
  some ((), { s with
    hoisted := if s.hoisted.contains x then s.hoisted else x :: s.hoisted })

/-! ## Names in blocks -/

/-- The names that statements declare for their block alone, functions aside. -/
def lexicalNames (body : List Stmt) : List Units :=
  (Stmt.lexical body).map (·.2)

/-- The names of the functions that statements declare. -/
def functionNames (body : List Stmt) : List Units :=
  (Stmt.functions body).map (·.info.name)

/-- Names declared for a block, `others` aside, are declared once and are not among `others`. -/
def namesFit (lexical others : List Units) : Bool :=
  lexical.Nodup && lexical.all fun x => !others.contains x

/-- A block may declare what it does; `hoisted` are the names that `var` declares in it. -/
def blockFits (body : List Stmt) (hoisted : List Units) : Bool :=
  let lexical := lexicalNames body
  let functions := functionNames body
  namesFit lexical (hoisted ++ functions) && functions.all fun f => !hoisted.contains f

/-- The outermost block of a function or script may declare what it does. -/
def topFits (body : List Stmt) (hoisted parameters : List Units) : Bool :=
  namesFit (lexicalNames body) (hoisted ++ parameters ++ functionNames body)

/-- Read what holds a block's statements and refuse it if they declare what they may not. -/
def inScope {α : Type} (statements : α → List Stmt) (r : Read α) : Read α := fun s =>
  match r { s with hoisted := [] } with
  | some (a, after) =>
    if blockFits (statements a) after.hoisted then
      let added := after.hoisted.filter fun x => !s.hoisted.contains x
      some (a, { after with hoisted := added ++ s.hoisted })
    else none
  | none => none

/-! ## Operators -/

/-- An operator on two operands. -/
inductive Operator where
  | binary (op : BinaryOp)
  | logical (op : LogicalOp)

/-- The operators between operands and how tightly they bind. -/
def operators : List (String × Nat × Operator) :=
  [("??", 1, .logical .coalesce), ("||", 2, .logical .or), ("&&", 3, .logical .and),
    ("|", 4, .binary .bitOr), ("^", 5, .binary .bitXor), ("&", 6, .binary .bitAnd),
    ("==", 7, .binary .equal), ("!=", 7, .binary .notEqual), ("===", 7, .binary .same),
    ("!==", 7, .binary .notSame), ("<", 8, .binary .less), ("<=", 8, .binary .lessEqual),
    (">", 8, .binary .greater), (">=", 8, .binary .greaterEqual),
    ("<<", 9, .binary .shiftLeft), (">>", 9, .binary .shiftRight),
    (">>>", 9, .binary .shiftRightZero), ("+", 10, .binary .add), ("-", 10, .binary .sub),
    ("*", 11, .binary .mul), ("/", 11, .binary .div), ("%", 11, .binary .rem),
    ("**", 12, .binary .pow)]

/-- The operator that a token is between operands. -/
def operator? (noIn : Bool) : Token → Option (Nat × Operator)
  | .mark m => operators.lookup m
  | .word "in" => if noIn then none else some (8, .binary .isIn)
  | .word "instanceof" => some (8, .binary .instanceOf)
  | _ => none

/-- Whether an operator settles how two sides of a choice are told apart: `??` does it in one way,
`||` and `&&` in another, and the two ways do not go together without parentheses. -/
def Operator.choice? : Operator → Option Bool
  | binary _ => none
  | logical .coalesce => some true
  | logical _ => some false

/-- How tightly the operand behind an operator binds. Powers are grouped from the right, and `??`
takes no `||` or `&&` for its operand. -/
def Operator.nextLevel (tightness : Nat) : Operator → Nat
  | binary .pow => tightness
  | logical .coalesce => 4
  | _ => tightness + 1

/-- Operators that stand in front of an operand which is then no base of a power. -/
def standsInFront : Token → Bool
  | .mark m => ["!", "~", "+", "-"].contains m
  | .word w => ["void", "typeof", "delete"].contains w
  | _ => false

/-- Two operands under an operator. -/
def Operator.apply (a b : Expr) : Operator → Expr
  | binary op => .binary op a b
  | logical op => .logical op a b

/-- What an assignment does with the value at hand. -/
inductive Assignment where
  | plain
  | binary (op : BinaryOp)
  | logical (op : LogicalOp)

/-- The assignments by their marks. -/
def assignments : List (String × Assignment) :=
  [("=", .plain), ("+=", .binary .add), ("-=", .binary .sub), ("*=", .binary .mul),
    ("/=", .binary .div), ("%=", .binary .rem), ("**=", .binary .pow),
    ("<<=", .binary .shiftLeft), (">>=", .binary .shiftRight),
    (">>>=", .binary .shiftRightZero), ("&=", .binary .bitAnd), ("|=", .binary .bitOr),
    ("^=", .binary .bitXor), ("&&=", .logical .and), ("||=", .logical .or),
    ("??=", .logical .coalesce)]

/-- The assignment that a token is. -/
def assignment? : Token → Option Assignment
  | .mark m => assignments.lookup m
  | _ => none

/-- An expression as something that can be assigned to. -/
def target : Expr → Read Target
  | .name x => return .name x
  | .member o k => return .member o k
  | _ => failure

/-- Give a function without a name one. -/
def nameFunction (x : Units) : Expr → Expr
  | .function (.mk info body) =>
    if info.name.isEmpty then .function (.mk { info with name := x } body)
    else .function (.mk info body)
  | e => e

/-- An assignment. -/
def assign (a : Assignment) (t : Target) (e : Expr) : Expr :=
  let e := match t with
    | .name x => nameFunction x e
    | .member _ _ => e
  match a with
  | .plain => .assign t e
  | .binary op => .assignBinary op t e
  | .logical op => .assignLogical op t e

/-- A call: of a member with its object, or of a value. -/
def call (f : Expr) (arguments : List Expr) : Expr :=
  match f with
  | .member o k => .callMember o k arguments
  | f => .call f arguments

/-- The key behind a point. -/
def memberName : Read Expr := do
  match ← peek with
  | .word w =>
    advance
    return .text (Units.ofString w)
  | _ => failure

/-- Read a pattern; the token at hand begins with its slash. -/
def pattern : Read Expr := fun s =>
  match Token.readPatternText [] false false (s.start.drop 1) with
  | none => none
  | some (source, after) =>
    let flags := after.takeWhile Unicode.continuesName
    match Regex.Pattern.ofText? source flags with
    | none => none
    | some p =>
      (advance { s with rest := after.dropWhile Unicode.continuesName }).map fun (_, s) =>
        (.pattern p, s)

/-- Read names up to a closing parenthesis, which is passed. -/
def names : Nat → Read (List Units)
  | 0 => failure
  | fuel + 1 => do
    if ← eat ")" then return []
    let x ← name
    if ← eat "," then return x :: (← names fuel)
    else
      expect ")"
      return [x]

/-- The parameters of an arrow function, up to its arrow, which is passed. -/
def arrowParameters (fuel : Nat) : Read (List Units) := do
  let parameters ←
    if ← eat "(" then names fuel
    else do
      let x ← name
      pure [x]
  if ← newline then failure
  expect "=>"
  if parameters.Nodup then return parameters else failure

/-- A label in front of a statement, with its colon. -/
def label : Read Units := do
  let x ← name
  expect ":"
  return x

/-- Statements read as the body of a function: what is known of the function besides. -/
def enclose (fname : Units) (parameters : List Units) (arrow ownName : Bool)
    (r : Read (List Stmt)) : Read Function := fun s =>
  match r { s with hoisted := [], usesArguments := false } with
  | none => none
  | some (body, after) =>
    if topFits body after.hoisted parameters then
      some (.mk
        { name := fname, parameters, hoisted := after.hoisted.reverse, arrow, ownName
          usesArguments := after.usesArguments } body,
        { after with
          hoisted := s.hoisted
          usesArguments := s.usesArguments || (arrow && after.usesArguments) })
    else none

/-! ## Expressions and statements -/

mutual

/-- Read expressions between commas. -/
def expression : Nat → Place → Read Expr
  | 0, _ => failure
  | fuel + 1, p => do
    let e ← assignmentExpression fuel p
    moreExpressions fuel p e

/-- Read further expressions behind commas. -/
def moreExpressions : Nat → Place → Expr → Read Expr
  | 0, _, _ => failure
  | fuel + 1, p, e => do
    if ← eat "," then
      let next ← assignmentExpression fuel p
      moreExpressions fuel p (.sequence e next)
    else return e

/-- Read an assignment, an arrow function, or what binds more tightly. -/
def assignmentExpression : Nat → Place → Read Expr
  | 0, _ => failure
  | fuel + 1, p => do
    match ← attempt (arrowParameters fuel) with
    | some parameters =>
      if ← atMark "\x7b" then
        return .function (← enclose [] parameters true false (functionBody fuel))
      else
        return .function (← enclose [] parameters true false do
          let e ← assignmentExpression fuel { Place.function with noIn := p.noIn }
          return [.ret e])
    | none =>
      let e ← conditionalExpression fuel p
      match assignment? (← peek) with
      | none => return e
      | some a =>
        let t ← target e
        advance
        return assign a t (← assignmentExpression fuel p)

/-- Read a choice between two expressions, or what binds more tightly. -/
def conditionalExpression : Nat → Place → Read Expr
  | 0, _ => failure
  | fuel + 1, p => do
    let c ← binaryExpression fuel p 1
    if ← eat "?" then
      let a ← assignmentExpression fuel { p with noIn := false }
      expect ":"
      return .conditional c a (← assignmentExpression fuel p)
    else return c

/-- Read operands between operators that bind at least as tightly as `level`. -/
def binaryExpression : Nat → Place → Nat → Read Expr
  | 0, _, _ => failure
  | fuel + 1, p, level => do
    let inFront := standsInFront (← peek)
    let e ← unaryExpression fuel p
    if inFront && (← atMark "**") then failure
    moreOperands fuel p level none e

/-- Read further operands behind operators; `choice` is the choice that they have settled. -/
def moreOperands : Nat → Place → Nat → Option Bool → Expr → Read Expr
  | 0, _, _, _, _ => failure
  | fuel + 1, p, level, choice, a => do
    match operator? p.noIn (← peek) with
    | none => return a
    | some (tightness, op) =>
      if tightness < level then return a
      else if choice.isSome && op.choice?.isSome && choice != op.choice? then failure
      else
        advance
        let b ← binaryExpression fuel p (op.nextLevel tightness)
        moreOperands fuel p level (op.choice?.or choice) (op.apply a b)

/-- Read an operand with the operators in front of it. -/
def unaryExpression : Nat → Place → Read Expr
  | 0, _ => failure
  | fuel + 1, p => do
    match ← peek with
    | .mark "!" => advance; return .unary .not (← unaryExpression fuel p)
    | .mark "~" => advance; return .unary .complement (← unaryExpression fuel p)
    | .mark "+" => advance; return .unary .plus (← unaryExpression fuel p)
    | .mark "-" => advance; return .unary .minus (← unaryExpression fuel p)
    | .mark "++" => advance; return .update true true (← target (← unaryExpression fuel p))
    | .mark "--" => advance; return .update false true (← target (← unaryExpression fuel p))
    | .word "void" => advance; return .unary .discard (← unaryExpression fuel p)
    | .word "typeof" =>
      advance
      match ← unaryExpression fuel p with
      | .name x => return .typeOfName x
      | e => return .unary .typeOf e
    | .word "delete" =>
      advance
      match ← unaryExpression fuel p with
      | .name x => return .delete (.name x)
      | .member o k => return .delete (.member o k)
      | e => return .sequence e (.bool true)
    | _ =>
      let e ← suffixes fuel p true (← operand fuel p)
      if ← newline then return e
      else if ← atMark "++" then
        let t ← target e
        advance
        return .update true false t
      else if ← atMark "--" then
        let t ← target e
        advance
        return .update false false t
      else return e

/-- Read members and calls behind an operand; `calls` tells whether calls belong to it. -/
def suffixes : Nat → Place → Bool → Expr → Read Expr
  | 0, _, _, _ => failure
  | fuel + 1, p, calls, e => do
    if ← eat "." then suffixes fuel p calls (.member e (← memberName))
    else if ← eat "[" then
      let key ← expression fuel { p with noIn := false }
      expect "]"
      suffixes fuel p calls (.member e key)
    else if calls then
      if ← eat "(" then suffixes fuel p calls (call e (← expressions fuel p ")"))
      else return e
    else return e

/-- Read expressions between commas up to a closing mark, which is passed. -/
def expressions : Nat → Place → String → Read (List Expr)
  | 0, _, _ => failure
  | fuel + 1, p, close => do
    if ← eat close then return []
    let e ← assignmentExpression fuel { p with noIn := false }
    if ← eat "," then return e :: (← expressions fuel p close)
    else
      expect close
      return [e]

/-- Read the items of an array up to its closing bracket, which is passed. -/
def items : Nat → Place → Read (List Expr)
  | 0, _ => failure
  | fuel + 1, p => do
    if ← eat "]" then return []
    if ← eat "," then return .hole :: (← items fuel p)
    let e ← assignmentExpression fuel { p with noIn := false }
    if ← eat "," then return e :: (← items fuel p)
    else
      expect "]"
      return [e]

/-- Read the entries of an object up to its closing brace, which is passed. -/
def entries : Nat → Place → Read (List Entry)
  | 0, _ => failure
  | fuel + 1, p => do
    if ← eat "\x7d" then return []
    let e ← entry fuel p
    if ← eat "," then return e :: (← entries fuel p)
    else
      expect "\x7d"
      return [e]

/-- Read one entry of an object. -/
def entry : Nat → Place → Read Entry
  | 0, _ => failure
  | fuel + 1, p => do
    let token ← peek
    let key ← match token with
      | .word w => pure (Units.ofString w)
      | .text u => pure u
      | .number n => pure (Units.ofChars n.text)
      | _ => failure
    advance
    if ← eat ":" then
      return .mk key (nameFunction key (← assignmentExpression fuel { p with noIn := false }))
    else if ← atMark "(" then
      return .mk key (.function (← functionRest fuel key false))
    else
      match token with
      | .word w =>
        if reserved.contains w then failure
        else
          noteName key
          return .mk key (.name key)
      | _ => failure

/-- Read an operand. -/
def operand : Nat → Place → Read Expr
  | 0, _ => failure
  | fuel + 1, p => do
    match ← peek with
    | .number n => advance; return .number n
    | .text u => advance; return .text u
    | .mark "(" =>
      advance
      let e ← expression fuel { p with noIn := false }
      expect ")"
      return e
    | .mark "[" => advance; return .array (← items fuel p)
    | .mark "\x7b" => advance; return .object (← entries fuel p)
    | .mark "/" => pattern
    | .mark "/=" => pattern
    | .word "this" => advance; return .thisValue
    | .word "null" => advance; return .null
    | .word "true" => advance; return .bool true
    | .word "false" => advance; return .bool false
    | .word "function" =>
      advance
      if ← atMark "(" then return .function (← functionRest fuel [] false)
      else
        let x ← name
        return .function (← functionRest fuel x true)
    | .word "new" =>
      advance
      let f ← suffixes fuel p false (← operand fuel p)
      if ← eat "(" then return .new f (← expressions fuel p ")")
      else return .new f []
    | _ =>
      let x ← name
      noteName x
      return .name x

/-- Read the parameters and the body of a function. -/
def functionRest : Nat → Units → Bool → Read Function
  | 0, _, _ => failure
  | fuel + 1, x, ownName => do
    expect "("
    let parameters ← names fuel
    enclose x parameters false ownName (functionBody fuel)

/-- Read the body of a function with its braces. -/
def functionBody : Nat → Read (List Stmt)
  | 0 => failure
  | fuel + 1 => do
    expect "\x7b"
    let body ← statements fuel .function
    expect "\x7d"
    return body

/-- Read statements up to a closing brace, a case, or the end. -/
def statements : Nat → Place → Read (List Stmt)
  | 0, _ => failure
  | fuel + 1, p => do
    match ← peek with
    | .done => return []
    | token =>
      if token.isMark "\x7d" || token.isWord "case" || token.isWord "default" then return []
      else
        let s ← statementOrDeclaration fuel p
        return s :: (← statements fuel p)

/-- Read a statement, or a declaration for the block around it. -/
def statementOrDeclaration : Nat → Place → Read Stmt
  | 0, _ => failure
  | fuel + 1, p => do
    if ← eatWord "function" then
      let x ← name
      return .function (← functionRest fuel x false)
    else if ← eatWord "class" then
      let x ← name
      expect "\x7b"
      expect "\x7d"
      return .emptyClass x
    else if ← eatWord "const" then
      let s ← declarations fuel p .const
      endStatement
      return s
    else if ← atWord "let" then
      if ← ahead (do advance; name) then
        advance
        let s ← declarations fuel p .let
        endStatement
        return s
      else statement fuel p []
    else statement fuel p []

/-- Read declared names with their values. -/
def declarations : Nat → Place → DeclarationKind → Read Stmt
  | 0, _, _ => failure
  | fuel + 1, p, kind => do
    let ds ← declarators fuel p kind
    match ds with
    | [d] => return d
    | ds => return .many ds

/-- Read declared names between commas. -/
def declarators : Nat → Place → DeclarationKind → Read (List Stmt)
  | 0, _, _ => failure
  | fuel + 1, p, kind => do
    if kind != .var && (← atWord "let") then failure
    let x ← name
    if kind == .var then noteVariable x
    let here ←
      if ← eat "=" then do
        let e ← assignmentExpression fuel p
        pure [Stmt.declare kind x (nameFunction x e)]
      else
        match kind with
        | .var => pure []
        | .let => pure [Stmt.declare .let x .undefined]
        | .const => failure
    if ← eat "," then return here ++ (← declarators fuel p kind)
    else return here

/-- Read a statement; `own` are the labels in front of it. -/
def statement : Nat → Place → List Units → Read Stmt
  | 0, _, _ => failure
  | fuel + 1, p, own => do
    match ← peek with
    | .mark ";" => advance; return .empty
    | .mark "\x7b" => return .block (← block fuel p)
    | .word "var" =>
      advance
      let s ← declarations fuel p .var
      endStatement
      return s
    | .word "if" =>
      advance
      expect "("
      let c ← expression fuel p
      expect ")"
      let a ← branch fuel p
      if ← eatWord "else" then return .ifElse c a (← branch fuel p)
      else return .ifElse c a .empty
    | .word "while" =>
      advance
      expect "("
      let c ← expression fuel p
      expect ")"
      return .whileLoop c (← statement fuel (p.loop own) [])
    | .word "do" =>
      advance
      let body ← statement fuel (p.loop own) []
      expectWord "while"
      expect "("
      let c ← expression fuel p
      expect ")"
      let _ ← eat ";"
      return .doLoop body c
    | .word "for" => advance; forLoop fuel p own
    | .word "return" =>
      if !p.inFunction then failure
      advance
      match ← peek with
      | .done => return .ret .undefined
      | token =>
        if token.isMark ";" || token.isMark "\x7d" || (← newline) then
          endStatement
          return .ret .undefined
        else
          let e ← expression fuel p
          endStatement
          return .ret e
    | .word "break" => advance; jump p true
    | .word "continue" => advance; jump p false
    | .word "throw" =>
      advance
      if ← newline then failure
      let e ← expression fuel p
      endStatement
      return .throw e
    | .word "try" =>
      advance
      let body ← block fuel p
      let caught ←
        if ← eatWord "catch" then handler fuel p body
        else if ← atWord "finally" then pure (.block body)
        else failure
      if ← eatWord "finally" then return .tryFinally caught (.block (← block fuel p))
      else return caught
    | .word "switch" =>
      advance
      expect "("
      let e ← expression fuel p
      expect ")"
      expect "\x7b"
      let cs ← inScope (List.flatMap Case.statements) (cases fuel { p with inSwitch := true } false)
      expect "\x7d"
      return .switch e cs
    | .word "debugger" => advance; endStatement; return .empty
    | _ =>
      match ← attempt label with
      | some x =>
        if p.labels.contains x then failure
        return .labeled x (← statement fuel { p with labels := x :: p.labels } (x :: own))
      | none =>
        if (← atWord "function") || (← atWord "class") then failure
        let e ← expression fuel p
        endStatement
        return .expr e

/-- Read a branch of a choice: a statement, or a function as if it stood in a block. -/
def branch : Nat → Place → Read Stmt
  | 0, _ => failure
  | fuel + 1, p => do
    if ← eatWord "function" then
      let x ← name
      return .block [.function (← functionRest fuel x false)]
    else statement fuel p []

/-- Read a jump behind its word, out of a loop or to its next round. -/
def jump (p : Place) (out : Bool) : Read Stmt := do
  let target ← if ← newline then pure none else attempt name
  endStatement
  match target with
  | some x =>
    if out then (if p.labels.contains x then return .leave (some x) else failure)
    else if p.loopLabels.contains x then return .next (some x)
    else failure
  | none =>
    if out then (if p.inLoop || p.inSwitch then return .leave none else failure)
    else if p.inLoop then return .next none
    else failure

/-- Read a block with its braces. -/
def block : Nat → Place → Read (List Stmt)
  | 0, _ => failure
  | fuel + 1, p => do
    expect "\x7b"
    let body ← inScope id (statements fuel { p with noIn := false })
    expect "\x7d"
    return body

/-- Read what handles a throw. -/
def handler : Nat → Place → List Stmt → Read Stmt
  | 0, _, _ => failure
  | fuel + 1, p, body => do
    if ← eat "(" then
      let x ← name
      expect ")"
      let handling ← block fuel p
      if (lexicalNames handling ++ functionNames handling).contains x then failure
      return .tryCatch body (some x) handling
    else return .tryCatch body none (← block fuel p)

/-- Read the head and the body of a counting loop. -/
def forLoop : Nat → Place → List Units → Read Stmt
  | 0, _, _ => failure
  | fuel + 1, p, own => do
    expect "("
    let head := { p with noIn := true }
    let start ←
      if ← atMark ";" then pure .empty
      else if ← eatWord "var" then declarations fuel head .var
      else if ← eatWord "const" then declarations fuel head .const
      else if ← (do return (← atWord "let") && (← ahead (do advance; name))) then do
        advance
        declarations fuel head .let
      else do
        let e ← expression fuel head
        pure (.expr e)
    expect ";"
    let c ← if ← atMark ";" then pure (.bool true) else expression fuel p
    expect ";"
    let update ← if ← atMark ")" then pure .undefined else expression fuel p
    expect ")"
    let body ← statement fuel (p.loop own) []
    let fresh := lexicalNames [start]
    if fresh.Nodup then return .forLoop start fresh c update body else failure

/-- Read the cases of a switch; `seen` tells that the default case has been read. -/
def cases : Nat → Place → Bool → Read (List Case)
  | 0, _, _ => failure
  | fuel + 1, p, seen => do
    if ← eatWord "case" then
      let e ← expression fuel p
      expect ":"
      let body ← statements fuel p
      return .test e body :: (← cases fuel p seen)
    else if ← eatWord "default" then
      if seen then failure
      expect ":"
      let body ← statements fuel p
      return .default body :: (← cases fuel p true)
    else return []

end

/-- Read a whole script. -/
def script (fuel : Nat) : Read (List Stmt) := do
  advance
  let body ← statements fuel .top
  match ← peek with
  | .done => return body
  | _ => failure

end Read

/-- A script: its statements, and the names that `var` declares anywhere in it. -/
structure Program where
  body : List Stmt
  hoisted : List Units

/-- A text without a first line that tells another program to run it. -/
def withoutRunner : List Char → List Char
  | '#' :: '!' :: cs => cs.dropWhile fun c => !Token.endsLine c
  | cs => cs

/-- The script that a text spells. -/
def Program.parse? (cs : List Char) : Option Program :=
  match Read.script (16 * cs.length + 64) ⟨.done, false, [], withoutRunner cs, [], false⟩ with
  | some (body, s) =>
    if Read.topFits body s.hoisted [] then some ⟨body, s.hoisted.reverse⟩ else none
  | none => none

end ProxyAutoConfig.Script
