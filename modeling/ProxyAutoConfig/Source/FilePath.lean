import ProxyAutoConfig.Failure
import ProxyAutoConfig.Text.Blank
import ProxyAutoConfig.Redaction
import ProxyAutoConfig.Url.Parser

/-!
# File specifiers

A script file is named by a path, or by a URI that holds `file://`. The path of a URI is what it
spells once its escapes are undone; a path that begins with a drive behind a slash (`/C:/`)
begins with the drive.
-/

namespace ProxyAutoConfig.Source

open ProxyAutoConfig.Text

/-- The path begins with a slash, a drive and a slash. -/
def beginsWithDrive (path : List Char) : Bool :=
  match path with
  | '/' :: c :: ':' :: '/' :: _ => c.isAlpha
  | _ => false

/-- The specifier as a URI that cannot be used, in redacted form. -/
def refusedUrl (specifier reason : String) : Failure :=
  .invalidUrl (Redaction.uriText specifier) reason

/-- The path of the file that a specifier names. -/
def filePath (specifier : String) : Outcome String :=
  let cs := specifier.toList
  if !holds "file://".toList cs then .ok specifier
  else
    match Url.parse (String.ofList (trim cs)) with
    | .error flaw => .error (refusedUrl specifier flaw.message)
    | .ok url =>
      match Percent.decodeText url.path.text.toList with
      | .error flaw => .error (refusedUrl specifier flaw.message)
      | .ok path => .ok (String.ofList (if beginsWithDrive path then path.drop 1 else path))

end ProxyAutoConfig.Source
