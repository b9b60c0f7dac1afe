import ProxyAutoConfig.Url.Host
import ProxyAutoConfig.Url.Path

/-!
# Reading URLs

Control characters and blanks around a URL do not count, and neither do tabs and line ends
within it. The scheme decides how to go on:

* a network scheme is followed by an authority, after any number of slashes;
* a file has a host only behind two slashes, and none when the host names a drive or the
  machine itself;
* any other scheme is followed by an authority behind two slashes, by a path behind one, and
  otherwise by a text without structure.

Reading a URL that has been written gives it back; there is no base to complete a relative one.
-/

namespace ProxyAutoConfig.Url

open ProxyAutoConfig.Text

/-! ## Around the parts -/

/-- A control character or a space. -/
def isPadding (c : Char) : Bool :=
  c.toNat ≤ 0x20

/-- A character that is passed over wherever it stands. -/
def isSkipped (c : Char) : Bool :=
  c == '\t' || c == '\n' || c == '\r'

/-- The characters of a URL that count. -/
def relevant (cs : List Char) : List Char :=
  (((cs.dropWhile isPadding).reverse.dropWhile isPadding).reverse).filter (!isSkipped ·)

/-- A character of a scheme behind its first letter. -/
def isSchemeChar (c : Char) : Bool :=
  c.isAlphanum || c == '+' || c == '-' || c == '.'

/-- The scheme in small letters, and what follows its colon. -/
def readScheme? (cs : List Char) : Option (List Char × List Char) :=
  match cutFirst? ':' cs with
  | some (scheme, rest) =>
    match scheme with
    | [] => none
    | c :: _ =>
      if c.isAlpha && scheme.all isSchemeChar then some (scheme.map Char.toLower, rest) else none
  | none => none

/-- A character that ends an authority. -/
def endsAuthority (special : Bool) (c : Char) : Bool :=
  c == '/' || c == '?' || c == '#' || (special && c == '\\')

/-- A text cut in front of the first character that satisfies `stop`. -/
def cutBefore (stop : Char → Bool) (cs : List Char) : List Char × List Char :=
  (cs.takeWhile (!stop ·), cs.dropWhile (!stop ·))

/-- The query and the fragment behind a path. -/
def readTail (special : Bool) (cs : List Char) : Option String × Option String :=
  let reserved := if special then Percent.isSpecialQueryReserved else Percent.isQueryReserved
  let fragment (rest : List Char) : String :=
    String.ofList (Percent.encode Percent.isFragmentReserved rest)
  match cs with
  | '?' :: rest =>
    let (query, rest) := cutBefore (· == '#') rest
    (some (String.ofList (Percent.encode reserved query)),
      match rest with
      | _ :: rest => some (fragment rest)
      | [] => none)
  | '#' :: rest => (none, some (fragment rest))
  | _ => (none, none)

/-! ## The authority -/

/-- A user name and perhaps a password, encoded. -/
structure Userinfo where
  username : String
  password : Option String

/-- User information in its encoded form. -/
def encodeUserinfo (cs : List Char) : String :=
  String.ofList (Percent.encode Percent.isUserinfoReserved cs)

/-- Read user information: the first colon cuts it, and an empty password counts as none. -/
def readUserinfo (cs : List Char) : Userinfo :=
  match cutFirst? ':' cs with
  | some (username, password) =>
    ⟨encodeUserinfo username, if password.isEmpty then none else some (encodeUserinfo password)⟩
  | none => ⟨encodeUserinfo cs, none⟩

/-- There is a user name or a password. -/
def Userinfo.isPresent (info : Userinfo) : Bool :=
  info.username != "" || info.password.isSome

/-- The host's text and what follows it: it ends at a colon outside brackets. -/
def splitHost (special inside : Bool) : List Char → List Char × List Char
  | [] => ([], [])
  | c :: cs =>
    if (c == ':' && !inside) || endsAuthority special c then ([], c :: cs)
    else
      let (host, rest) := splitHost special (c == '[' || (inside && c != ']')) cs
      (c :: host, rest)

/-- The port behind the host, unless it is the scheme's own, and what follows it. -/
def readPort (defaultPort : Option UInt16) (cs : List Char) :
    Except Flaw (Option UInt16 × List Char) :=
  match cs with
  | ':' :: rest =>
    let (digits, rest) := cutBefore (!·.isDigit) rest
    let ends := match rest with
      | [] => true
      | c :: _ => endsAuthority true c
    match numberFrom? 10 0 digits with
    | some n =>
      if 65535 < n || !ends then .error .portNumber
      else if digits.isEmpty || defaultPort == some n.toUInt16 then .ok (none, rest)
      else .ok (some n.toUInt16, rest)
    | none => .error .portNumber
  | _ => .ok (none, cs)

/-- Host and port behind the user information, and what follows them. -/
def readHost (kind : Scheme.Kind) (cs : List Char) :
    Except Flaw (Host × Option UInt16 × List Char) := do
  let (name, rest) := splitHost kind.isSpecial false cs
  let host ←
    match kind with
    | .network _ => if name.isEmpty then .error .emptyHost else Host.ofDomain name
    | _ => Host.ofText name
  if host == .empty && rest.head? == some ':' then .error .emptyHost
  else
    let defaultPort :=
      match kind with
      | .network port => some port
      | _ => none
    let (port, rest) ← readPort defaultPort rest
    .ok (host, port, rest)

/-- The user information in front of the last at sign of an authority, and what follows it. -/
def splitUserinfo (special : Bool) (cs : List Char) : Except Flaw (Userinfo × List Char) :=
  let (authority, rest) := cutBefore (endsAuthority special) cs
  match cutLast? '@' authority with
  | none => .ok (⟨"", none⟩, cs)
  | some (info, host) =>
    if info.isEmpty && host.isEmpty && !rest.isEmpty then .error .emptyHost
    else .ok (readUserinfo info, host ++ rest)

/-- Read a URL with an authority; `cs` stands behind the slashes. -/
def readHierarchical (scheme : String) (cs : List Char) : Except Flaw Url := do
  let kind := Scheme.kind scheme
  let (info, rest) ← splitUserinfo kind.isSpecial cs
  let (host, port, rest) ← readHost kind rest
  if host == .empty && info.isPresent then .error .emptyHost
  else
    let (path, tail) := cutBefore (fun c => c == '?' || c == '#') rest
    let (query, fragment) := readTail kind.isSpecial tail
    .ok ⟨scheme, info.username, info.password, some host, port,
      Path.ofText kind.isSpecial path, query, fragment⟩

/-! ## Files -/

/-- A file URL with a host, a path and what follows the path. -/
def fileUrl (host : Host) (path : Path) (tail : List Char) : Url :=
  let (query, fragment) := readTail true tail
  ⟨"file", "", none, some host, none, path, query, fragment⟩

/-- The segments of a file's path behind its first slash. -/
def fileSegments (cs : List Char) : List (List Char) :=
  Path.resolve [] (cs.splitOnP (Path.isSlash true))

/-- The segments of a path in which a first segment that names a drive gets a colon, and whether
there is one. -/
def driveSegments (cs : List Char) : List (List Char) × Bool :=
  match cs.splitOnP (Path.isSlash true) with
  | first :: rest =>
    if Path.isDrive first then (Path.resolve [Path.driveWithColon first] rest, true)
    else (Path.resolve [] (first :: rest), false)
  | [] => ([], false)

/-- A text without the slash in front. -/
def dropSlash (cs : List Char) : List Char :=
  match cs with
  | c :: rest => if Path.isSlash true c then rest else cs
  | [] => []

/-- Read a file URL behind two slashes: a host, unless a drive stands in its place, and a path.
A drive at the front of the path behind a host takes the host's place too. -/
def readFileHost (cs : List Char) : Except Flaw Url :=
  let (name, rest) := cutBefore (endsAuthority true) cs
  if Path.isDrive name then
    let (path, tail) := cutBefore (fun c => c == '?' || c == '#') cs
    .ok (fileUrl .empty (Path.ofFile (driveSegments path).1) tail)
  else
    let (path, tail) := cutBefore (fun c => c == '?' || c == '#') rest
    if name.isEmpty then .ok (fileUrl .empty (Path.ofFile (fileSegments (dropSlash path))) tail)
    else
      match Host.ofDomain name with
      | .error flaw => .error flaw
      | .ok host =>
        if host.text == "localhost" then
          .ok (fileUrl .empty (Path.ofFile (fileSegments (dropSlash path))) tail)
        else
          let (segments, drive) := driveSegments (dropSlash path)
          .ok (fileUrl (if drive then .empty else host) (Path.ofFile segments) tail)

/-- Read a file URL behind its scheme. -/
def readFile (cs : List Char) : Except Flaw Url :=
  match cs with
  | a :: b :: rest =>
    if Path.isSlash true a && Path.isSlash true b then readFileHost rest
    else
      let (path, tail) := cutBefore (fun c => c == '?' || c == '#') cs
      if Path.isSlash true a then
        .ok (fileUrl .empty (Path.ofFile (fileSegments (dropSlash path))) tail)
      else .ok (fileUrl .empty (Path.ofFile (driveSegments path).1) tail)
  | _ =>
    let (path, tail) := cutBefore (fun c => c == '?' || c == '#') cs
    .ok (fileUrl .empty (Path.ofFile (fileSegments (dropSlash path))) tail)

/-! ## All schemes -/

/-- Read a URL of a scheme without rules of its own. -/
def readOther (scheme : String) (cs : List Char) : Except Flaw Url :=
  match cs with
  | '/' :: '/' :: rest => readHierarchical scheme rest
  | _ =>
    let (path, tail) := cutBefore (fun c => c == '?' || c == '#') cs
    let (query, fragment) := readTail false tail
    let path :=
      match path with
      | '/' :: _ => Path.ofText false path
      | _ => Path.ofOpaque path
    .ok ⟨scheme, "", none, none, none, path, query, fragment⟩

/-- Read a URL. -/
def parse (text : String) : Except Flaw Url :=
  match readScheme? (relevant text.toList) with
  | none => .error .relative
  | some (name, rest) =>
    let scheme := String.ofList name
    match Scheme.kind scheme with
    | .file => readFile rest
    | .network _ => readHierarchical scheme (rest.dropWhile fun c => c == '/' || c == '\\')
    | .other => readOther scheme rest

end ProxyAutoConfig.Url
