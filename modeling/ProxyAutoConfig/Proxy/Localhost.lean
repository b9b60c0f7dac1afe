import ProxyAutoConfig.Url.Parser

/-!
# The local host

Three host names stand for the machine itself. A credential that is declared for one of them
serves the others too.
-/

namespace ProxyAutoConfig.Localhost

/-- The names, in the order in which credentials are looked up. -/
def names : List String :=
  ["127.0.0.1", "localhost", "0.0.0.0"]

/-- The text in small ASCII letters. -/
def fold (s : String) : List Char :=
  s.toList.map Char.toLower

/-- The host is one of the names, in any case. -/
def isName (host : String) : Bool :=
  names.any fun name => fold name == fold host

/-- The URL's host is one of the names. -/
def isLocal (url : Url) : Bool :=
  url.hostText?.any isName

/-- Both hosts are among the names. -/
def bothLocal (a b : Url) : Bool :=
  isLocal a && isLocal b

end ProxyAutoConfig.Localhost
