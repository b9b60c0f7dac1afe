import ProxyAutoConfig.Text.Percent
import ProxyAutoConfig.Url.Basic

/-!
# Reading the path of a URL

The text of a path is cut into segments at slashes, and the segments are taken one after the
other: a single dot stands for nothing, a double dot takes the segment before it away, and any
other segment is encoded and kept. Either kind of dot at the end leaves an empty last segment.

A segment that names a drive (`C:`) is never taken away.
-/

namespace ProxyAutoConfig.Path

open ProxyAutoConfig.Text

/-- A letter and a colon, or a letter and a bar. -/
def isDrive (cs : List Char) : Bool :=
  match cs with
  | [c, d] => c.isAlpha && (d == ':' || d == '|')
  | _ => false

/-- A dot, plain or as an escape. -/
def afterDot? : List Char → Option (List Char)
  | '.' :: rest => some rest
  | '%' :: '2' :: 'e' :: rest => some rest
  | '%' :: '2' :: 'E' :: rest => some rest
  | _ => none

/-- A segment of one dot. -/
def isDot (cs : List Char) : Bool :=
  afterDot? cs == some []

/-- A segment of two dots. -/
def isDoubleDot (cs : List Char) : Bool :=
  (afterDot? cs).bind afterDot? == some []

/-- Take away the last of the segments that are done, given in reverse. -/
def dropLast (done : List (List Char)) : List (List Char) :=
  match done with
  | [] => []
  | last :: earlier => if isDrive last then done else earlier

/-- Take segments one after the other; `done` holds those kept so far, in reverse. -/
def resolve (done : List (List Char)) : List (List Char) → List (List Char)
  | [] => done.reverse
  | [last] =>
    if isDoubleDot last then ([] :: dropLast done).reverse
    else if isDot last then ([] :: done).reverse
    else (Percent.encode Percent.isPathReserved last :: done).reverse
  | segment :: rest =>
    if isDoubleDot segment then resolve (dropLast done) rest
    else if isDot segment then resolve done rest
    else resolve (Percent.encode Percent.isPathReserved segment :: done) rest

/-- A character that ends a segment. -/
def isSlash (special : Bool) (c : Char) : Bool :=
  c == '/' || (special && c == '\\')

/-- The path that a text spells; the text stands behind the path's first slash. -/
def ofSegments (segments : List (List Char)) : Path :=
  .segments (segments.map String.ofList)

/-- The path behind an authority. -/
def ofText (special : Bool) (cs : List Char) : Path :=
  match cs with
  | [] => ofSegments (if special then [[]] else [])
  | c :: rest =>
    ofSegments (resolve [] ((if isSlash special c then rest else cs).splitOnP (isSlash special)))

/-- The path of a URL without structure. -/
def ofOpaque (cs : List Char) : Path :=
  .opaqueText (String.ofList (Percent.encode Percent.isControl cs))

/-- A drive with its bar made a colon. -/
def driveWithColon (cs : List Char) : List Char :=
  match cs with
  | [c, _] => [c, ':']
  | _ => cs

/-- The path of a file: empty segments in front do not count. -/
def ofFile (segments : List (List Char)) : Path :=
  match segments.dropWhile List.isEmpty with
  | [] => ofSegments [[]]
  | kept => ofSegments kept

end ProxyAutoConfig.Path
