/-!
Literals: texts between quotes inside a path.

A literal begins after an opening quote and ends at the first quote that does not come in a
pair; a pair stands for one quote of the text. `Literal.write` doubles every quote, and
`Literal.read?` follows the rule from the other side.
-/

namespace ErdDeploy.Literal

/-- The quote around literals. -/
def quote : Char := '\x27'

/-- A text as it stands between the quotes of a literal. -/
def write : List Char → List Char
  | [] => []
  | c :: cs => if c = quote then quote :: quote :: write cs else c :: write cs

/-- The text of a literal, from after its opening quote, and what follows the closing one. A
literal that is not closed is none. -/
def read? : List Char → Option (List Char × List Char)
  | [] => none
  | c :: cs =>
    if c = quote then
      match cs with
      | d :: rest =>
        if d = quote then (read? rest).map fun (text, after) => (quote :: text, after)
        else some ([], d :: rest)
      | [] => some ([], [])
    else (read? cs).map fun (text, after) => (c :: text, after)

end ErdDeploy.Literal
