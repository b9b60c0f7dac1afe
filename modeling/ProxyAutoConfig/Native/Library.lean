import ProxyAutoConfig.Script.Program

/-!
# The library of scripts

Functions that scripts find besides the host functions, written in the script's own language:
tests on host names, and the test whether an address lies in a network. They are given here as
syntax. A script may redefine whatever they use, `dnsResolve` and `String` among them, and it may
redefine the functions themselves.
-/

namespace ProxyAutoConfig.Library

open ProxyAutoConfig.Script ProxyAutoConfig.Text

/-! ## Writing syntax -/

/-- A name. -/
def var (x : String) : Expr :=
  .name (Units.ofString x)

/-- A text. -/
def str (s : String) : Expr :=
  .text (Units.ofString s)

/-- A whole number. -/
def int (n : Nat) : Expr :=
  .number (Number.ofNat n)

/-- A member by its name. -/
def dot (o : Expr) (x : String) : Expr :=
  .member o (str x)

/-- A call of a method. -/
def method (o : Expr) (x : String) (arguments : List Expr) : Expr :=
  .callMember o (str x) arguments

/-- A value as text. -/
def textOf (e : Expr) : Expr :=
  .call (var "String") [e]

/-- Assign to a name. -/
def set (x : String) (e : Expr) : Stmt :=
  .expr (.assign (.name (Units.ofString x)) e)

/-- Declare a variable. -/
def declare (x : String) (e : Expr) : Stmt :=
  .declare .var (Units.ofString x) e

/-- A function with its parameters and variables. -/
def function (name : String) (parameters hoisted : List String) (body : List Stmt) : Stmt :=
  .function (.mk
    { name := Units.ofString name
      parameters := parameters.map Units.ofString
      hoisted := hoisted.map Units.ofString
      arrow := false
      ownName := false
      usesArguments := false } body)

/-! ## Host names -/

/-- The host has no dot. -/
def isPlainHostName : Stmt :=
  function "isPlainHostName" ["host"] []
    [.ret (.binary .less (method (textOf (var "host")) "indexOf" [str "."]) (int 0))]

/-- The host ends in the domain. -/
def dnsDomainIs : Stmt :=
  function "dnsDomainIs" ["host", "domain"] []
    [set "host" (textOf (var "host")),
      set "domain" (textOf (var "domain")),
      .ret (.logical .and
        (.binary .greaterEqual (dot (var "host") "length") (dot (var "domain") "length"))
        (.binary .same
          (method (var "host") "substring"
            [.binary .sub (dot (var "host") "length") (dot (var "domain") "length")])
          (var "domain")))]

/-- The host is the full name, or its part in front of a dot. -/
def localHostOrDomainIs : Stmt :=
  function "localHostOrDomainIs" ["host", "hostdom"] []
    [set "host" (textOf (var "host")),
      set "hostdom" (textOf (var "hostdom")),
      .ret (.logical .or
        (.binary .same (var "host") (var "hostdom"))
        (.binary .same
          (method (var "hostdom") "lastIndexOf" [.binary .add (var "host") (str "."), int 0])
          (int 0)))]

/-- The number of dots in the host. -/
def dnsDomainLevels : Stmt :=
  function "dnsDomainLevels" ["host"] []
    [.ret (.binary .sub (dot (method (textOf (var "host")) "split" [str "."]) "length") (int 1))]

/-! ## Networks -/

/-- A byte of a dotted address, moved to its place. -/
def byte (i shift : Nat) : Expr :=
  let b := Expr.binary .bitAnd (.member (var "bytes") (int i)) (int 0xFF)
  if shift = 0 then b else .binary .shiftLeft b (int shift)

/-- The bits of a dotted address. -/
def convertAddr : Stmt :=
  function "convert_addr" ["ipchars"] ["bytes"]
    [declare "bytes" (method (textOf (var "ipchars")) "split" [str "."]),
      .ret (.binary .bitOr (.binary .bitOr (.binary .bitOr (byte 0 24) (byte 1 16)) (byte 2 8))
        (byte 3 0))]

/-- One to three digits. -/
def digits : Regex.Node :=
  .times (.set false [.digits false]) 1 (some 3) true 0 0

/-- A dot behind a part. -/
def thenDot (n rest : Regex.Node) : Regex.Node :=
  .seq n (.seq (.unit 0x2E) rest)

/-- Four runs of digits between dots. -/
def dottedPattern : Regex.Pattern :=
  let run := "\\d\x7b1,3\x7d"
  { source := Units.ofString ("^" ++ "\\.".intercalate [run, run, run, run] ++ "$")
    flags := []
    node := .seq .lineStart
      (thenDot digits (thenDot digits (thenDot digits (.seq digits .lineEnd))))
    captures := 0
    ignoreCase := false
    multiline := false
    dotAll := false
    global := false
    sticky := false }

/-- The bits of an address that count in a network. -/
def masked (address : String) : Expr :=
  .binary .bitAnd (.call (var "convert_addr") [var address]) (var "mask")

/-- The host, or its address where it is a name, lies in the network. -/
def isInNet : Stmt :=
  function "isInNet" ["ipaddr", "pattern", "maskstr"] ["mask"]
    [.ifElse (.unary .not (method (.pattern dottedPattern) "test" [var "ipaddr"]))
        (.block [set "ipaddr" (.call (var "dnsResolve") [var "ipaddr"]),
          .ifElse (.binary .same (var "ipaddr") .null) (.block [.ret (.bool false)]) .empty])
        .empty,
      declare "mask" (.call (var "convert_addr") [var "maskstr"]),
      .ret (.binary .same (masked "ipaddr") (masked "pattern"))]

/-- A message that nobody sees. -/
def alert : Stmt :=
  function "alert" ["message"] [] []

/-- The library. -/
def program : Program :=
  ⟨[isPlainHostName, dnsDomainIs, localHostOrDomainIs, dnsDomainLevels, convertAddr, isInNet,
    alert], []⟩

end ProxyAutoConfig.Library
