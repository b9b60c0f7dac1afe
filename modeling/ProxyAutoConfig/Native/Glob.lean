/-!
# Globs

Matching a whole value against a glob: a star stands for any run of characters, a question mark
for one character, and every other character for itself. Neither of the two stands for a line
feed.

The glob is gone through from its end. At each step it is known at which places of the value the
rest of the glob matches what is left (`column`), so the work is the product of the two lengths.
-/

namespace ProxyAutoConfig.Glob

/-- The character can be part of what a star or a question mark stands for. -/
def isFree (c : Char) : Bool :=
  c != '\n'

/-- Where a glob that begins with `mark` matches, at each place of a value and at its end;
`after` tells the same of the glob behind the mark. -/
def column (mark : Char) : List Char → List Bool → List Bool
  | c :: cs, here :: after =>
    let rest := column mark cs after
    if mark = '*' then (here || (isFree c && rest.headD false)) :: rest
    else if mark = '?' then (isFree c && after.headD false) :: rest
    else (c == mark && after.headD false) :: rest
  | _, after => if mark = '*' then after else [false]

/-- Where a glob matches what is left of a value, at each of its places and at its end. -/
def table (value : List Char) : List Char → List Bool
  | [] => List.replicate value.length false ++ [true]
  | mark :: glob => column mark value (table value glob)

/-- A glob matches a whole value. -/
def holds (glob value : List Char) : Bool :=
  (table value glob).headD false

end ProxyAutoConfig.Glob
