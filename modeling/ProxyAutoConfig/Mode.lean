import ProxyAutoConfig.Failure
import ProxyAutoConfig.Text.Cut
import ProxyAutoConfig.Unicode.Letters

/-!
# Proxy modes

What a directive asks for. Scripts decorate the mode word in many ways (`PROXY:`, `xSOCKS5v`), so
a token is sorted by the leftmost mode word that stands anywhere in its capitals; of the two
words that begin in the same place, the longer one wins.
-/

namespace ProxyAutoConfig

/-- The way a directive tells a client to connect. -/
inductive Mode where
  | direct
  | proxy
  | socks
  | socks5
  deriving DecidableEq, Repr

namespace Mode

/-- The word of a mode. -/
def word : Mode → String
  | direct => "DIRECT"
  | proxy => "PROXY"
  | socks => "SOCKS"
  | socks5 => "SOCKS5"

/-- The scheme of an address that has none of its own; a direct connection has no address. -/
def defaultScheme? : Mode → Option String
  | direct => none
  | proxy => some "http"
  | socks => some "socks"
  | socks5 => some "socks5"

/-- The modes in the order in which their words are tried at one place. -/
def all : List Mode :=
  [socks5, socks, direct, proxy]

/-- The mode whose word begins the text. -/
def atFront? (cs : List Char) : Option Mode :=
  all.find? fun mode => mode.word.toList.isPrefixOf cs

/-- The mode of the leftmost word in a text of capitals. -/
def leftmost? : List Char → Option Mode
  | [] => none
  | c :: cs => (atFront? (c :: cs)).or (leftmost? cs)

/-- The mode of a token. -/
def classify? (token : String) : Option Mode :=
  leftmost? (Unicode.upperText token.toList)

/-- A mode word stands somewhere in the token, in any case. -/
def isToken (token : String) : Bool :=
  all.any fun mode => Text.holds mode.word.toList (Unicode.upperText token.toList)

/-- The mode of a token, or the failure to find one. -/
def parse (token : String) : Outcome Mode :=
  match classify? token with
  | some mode => .ok mode
  | none => .error (.invalidDirective ("unknown mode `" ++ token ++ "`"))

end Mode

end ProxyAutoConfig
