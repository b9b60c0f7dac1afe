import ProxyAutoConfig.Text.Percent

/-!
# Quoted text

Text between double quotes, on one line: a quote and a backslash take a backslash in front, the
common control characters have a letter each, and the other ones are written by number.
-/

namespace ProxyAutoConfig.Text

/-- The digits of a number in base sixteen, small letters, without leading zeros. -/
def smallHex (n : Nat) : List Char :=
  Nat.toDigits 16 n

/-- How a character is written between quotes. -/
def quoteChar (c : Char) : List Char :=
  match c with
  | '"' => ['\\', '"']
  | '\\' => ['\\', '\\']
  | '\n' => ['\\', 'n']
  | '\r' => ['\\', 'r']
  | '\t' => ['\\', 't']
  | '\x00' => ['\\', '0']
  | c =>
    if Percent.isControl c || (0x80 ≤ c.toNat && c.toNat < 0xA0) then
      '\\' :: 'u' :: '\x7b' :: smallHex c.toNat ++ ['\x7d']
    else [c]

/-- A text between quotes. -/
def quoted (s : String) : String :=
  String.ofList ('"' :: s.toList.flatMap quoteChar ++ ['"'])

end ProxyAutoConfig.Text
