import ProxyAutoConfig.Idna.Domain
import ProxyAutoConfig.Text.Percent
import ProxyAutoConfig.Url.Basic

/-!
# Reading the host of a URL

Between brackets stands an IPv6 address. Where the scheme has rules of its own, any other host is
a domain: escapes are undone, the name is brought to ASCII, and a name that ends in a number must
be an IPv4 address. Where the scheme has none, a host is any text without the characters that
have a meaning in a URL.
-/

namespace ProxyAutoConfig

open ProxyAutoConfig.Net ProxyAutoConfig.Text

/-- Why a text is no URL. -/
inductive Url.Flaw where
  | emptyHost
  | internationalName
  | portNumber
  | ipv4Address
  | ipv6Address
  | domainCharacter
  | relative
  deriving DecidableEq, Repr

/-- The wording of a flaw. -/
def Url.Flaw.message : Url.Flaw → String
  | emptyHost => "empty host"
  | internationalName => "invalid international domain name"
  | portNumber => "invalid port number"
  | ipv4Address => "invalid IPv4 address"
  | ipv6Address => "invalid IPv6 address"
  | domainCharacter => "invalid domain character"
  | relative => "relative URL without a base"

namespace Host

/-- What stands between brackets, if the text begins with one. -/
def bracketed? (cs : List Char) : Option (Option (List Char)) :=
  match cs with
  | '[' :: rest =>
    match cutLast? ']' rest with
    | some (inside, []) => some (some inside)
    | _ => some none
  | _ => none

/-- Characters none of which is refused name a host. -/
theorem isName_ofList {cs : List Char} (nonempty : cs ≠ []) (plain : cs.any isRefused = false) :
    IsName (String.ofList cs) := by
  simpa only [IsName, String.toList_ofList] using ⟨nonempty, plain⟩

/-- A text without a refused character names a host once its control characters are encoded. -/
theorem isName_encode {cs : List Char} (plain : ¬ cs.any isRefused = true)
    (nonempty : ¬ cs.isEmpty = true) :
    IsName (String.ofList (Percent.encode Percent.isControl cs)) := by
  refine isName_ofList (Percent.encode_ne_nil (mt List.isEmpty_iff.mpr nonempty)) ?_
  rw [Bool.not_eq_true, List.any_eq_false] at plain
  rw [List.any_eq_false]
  intro c mem
  rcases Percent.mem_encode mem with own | escape
  · exact plain c own
  · have allowed : Percent.escapeChars.any isRefused = false := by decide
    exact List.any_eq_false.mp allowed c escape

/-- An ASCII domain names a host. -/
theorem isName_of_toAscii? {name text : List Char} (read : Idna.toAscii? name = some text)
    (nonempty : ¬ text.isEmpty = true) : IsName (String.ofList text) := by
  refine isName_ofList (mt List.isEmpty_iff.mpr nonempty) ?_
  rw [List.any_eq_false]
  intro c mem refused
  have both : refusedChars.all Idna.isRefusedInHost = true := by decide
  have kept := Idna.not_isRefusedInHost_of_toAscii? read c mem
  rw [List.all_eq_true.mp both c (List.contains_iff_mem.mp refused)] at kept
  cases kept

/-- The host that a text between brackets is. -/
def ofBrackets (inside : Option (List Char)) : Except Url.Flaw Host :=
  match inside.bind Ipv6.parse? with
  | some bits => .ok (.ipv6 bits)
  | none => .error .ipv6Address

/-- A host where the scheme has no rules of its own. -/
def ofText (cs : List Char) : Except Url.Flaw Host :=
  match bracketed? cs with
  | some inside => ofBrackets inside
  | none =>
    if refused : cs.any isRefused then .error .domainCharacter
    else if empty : cs.isEmpty then .ok .empty
    else .ok (.named (String.ofList (Percent.encode Percent.isControl cs))
      (isName_encode refused empty))

/-- A host where the scheme has rules of its own. -/
def ofDomain (cs : List Char) : Except Url.Flaw Host :=
  match bracketed? cs with
  | some inside => ofBrackets inside
  | none =>
    match read : Idna.toAscii? (Utf8.decodeLossy (Percent.decode cs)) with
    | none => .error .internationalName
    | some name =>
      if empty : name.isEmpty then .error .emptyHost
      else if Ipv4.endsInNumber name then
        match Ipv4.parseHost? name with
        | some bits => .ok (.ipv4 bits)
        | none => .error .ipv4Address
      else .ok (.named (String.ofList name) (isName_of_toAscii? read empty))

end Host

end ProxyAutoConfig
