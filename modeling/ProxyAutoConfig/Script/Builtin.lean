/-!
# The functions that every script has

The methods of texts, arrays, patterns, objects and functions, the functions that make values of
each kind, and a few functions on numbers. Each family is a type, with a list that gives every
function its name and the number of its parameters.
-/

namespace ProxyAutoConfig.Script

/-- The kinds of errors. -/
inductive ErrorKind where
  | error | typeError | referenceError | rangeError | syntaxError | evalError | uriError
  deriving DecidableEq, Repr

namespace ErrorKind

/-- The name of a kind of error. -/
def name : ErrorKind → String
  | error => "Error"
  | typeError => "TypeError"
  | referenceError => "ReferenceError"
  | rangeError => "RangeError"
  | syntaxError => "SyntaxError"
  | evalError => "EvalError"
  | uriError => "URIError"

/-- The kinds of errors. -/
def all : List ErrorKind :=
  [error, typeError, referenceError, rangeError, syntaxError, evalError, uriError]

end ErrorKind

/-- The functions that make values of a kind, or convert to it. -/
inductive Maker where
  | object | function | text | number | bool | array | pattern
  | error (kind : ErrorKind)
  deriving DecidableEq, Repr

/-- The methods of texts. -/
inductive TextMethod where
  | toText | charAt | charCodeAt | indexOf | lastIndexOf | substring | slice | split | replace
  | lower | upper | trim | concat | startsWith | endsWith | includes | match | search
  deriving DecidableEq, Repr

/-- The names of the methods of texts, and how many parameters they have. -/
def TextMethod.all : List (String × TextMethod × Nat) :=
  [("toString", toText, 0), ("valueOf", toText, 0), ("charAt", charAt, 1),
    ("charCodeAt", charCodeAt, 1), ("indexOf", indexOf, 1), ("lastIndexOf", lastIndexOf, 1),
    ("substring", substring, 2), ("slice", slice, 2), ("split", split, 2),
    ("replace", replace, 2), ("toLowerCase", lower, 0), ("toUpperCase", upper, 0),
    ("trim", trim, 0), ("concat", concat, 1), ("startsWith", startsWith, 1),
    ("endsWith", endsWith, 1), ("includes", includes, 1), ("match", .match, 1),
    ("search", search, 1)]

/-- The methods of arrays. -/
inductive ArrayMethod where
  | toText | join | push | pop | shift | unshift | reverse | slice | concat | indexOf
  | forEach | map | filter | some | every
  deriving DecidableEq, Repr

/-- The names of the methods of arrays, and how many parameters they have. -/
def ArrayMethod.all : List (String × ArrayMethod × Nat) :=
  [("toString", toText, 0), ("join", join, 1), ("push", push, 1), ("pop", pop, 0),
    ("shift", shift, 0), ("unshift", unshift, 1), ("reverse", reverse, 0), ("slice", slice, 2),
    ("concat", concat, 1), ("indexOf", indexOf, 1), ("forEach", forEach, 1), ("map", map, 1),
    ("filter", filter, 1), ("some", some, 1), ("every", every, 1)]

/-- The methods of patterns. -/
inductive PatternMethod where
  | test | exec | toText
  deriving DecidableEq, Repr

/-- The names of the methods of patterns, and how many parameters they have. -/
def PatternMethod.all : List (String × PatternMethod × Nat) :=
  [("test", test, 1), ("exec", exec, 1), ("toString", toText, 0)]

/-- The methods of functions. -/
inductive FunctionMethod where
  | toText | call | apply
  deriving DecidableEq, Repr

/-- The names of the methods of functions, and how many parameters they have. -/
def FunctionMethod.all : List (String × FunctionMethod × Nat) :=
  [("toString", toText, 0), ("call", call, 1), ("apply", apply, 2)]

/-- The methods that all other values have. -/
inductive ObjectMethod where
  | toText | toValue | hasOwn
  | numberToText | numberToValue | boolToText | boolToValue | errorToText
  deriving DecidableEq, Repr

/-- The functions of numbers. -/
inductive NumberFunction where
  | parseInteger | parseDecimal | isNaN | isFinite
  | floor | ceil | round | abs | min | max | pow | sqrt
  deriving DecidableEq, Repr

/-- The names of the functions of numbers that scripts call without an object. -/
def NumberFunction.globals : List (String × NumberFunction × Nat) :=
  [("parseInt", parseInteger, 2), ("parseFloat", parseDecimal, 1), ("isNaN", isNaN, 1),
    ("isFinite", isFinite, 1)]

/-- The names of the functions of numbers that are members of one object. -/
def NumberFunction.members : List (String × NumberFunction × Nat) :=
  [("floor", floor, 1), ("ceil", ceil, 1), ("round", round, 1), ("abs", abs, 1), ("min", min, 2),
    ("max", max, 2), ("pow", pow, 2), ("sqrt", sqrt, 1)]

/-- The functions that belong to makers. -/
inductive MakerFunction where
  | keys | isArray | fromCodes
  deriving DecidableEq, Repr

/-- A function that every script has. -/
inductive Builtin where
  | make (m : Maker)
  | maker (m : MakerFunction)
  | text (m : TextMethod)
  | array (m : ArrayMethod)
  | pattern (m : PatternMethod)
  | function (m : FunctionMethod)
  | object (m : ObjectMethod)
  | number (m : NumberFunction)
  deriving DecidableEq, Repr

end ProxyAutoConfig.Script
