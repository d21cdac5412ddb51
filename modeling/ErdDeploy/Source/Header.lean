import ErdDeploy.Text.Alphanumeric
import ErdDeploy.Text.Blank
import ErdDeploy.Text.Letter

/-!
Headers of blocks: a keyword, a name that may be quoted, settings that are passed over, and an
opening brace that may be missing.
-/

namespace ErdDeploy

/-- What a block declares. -/
inductive BlockKind
  | enum
  | table
  deriving DecidableEq, Repr

namespace BlockKind

/-- The keyword of a block, in lower case. -/
def keyword : BlockKind → String
  | .enum => "enum"
  | .table => "table"

/-- The keyword as it begins a sentence. -/
def title : BlockKind → String
  | .enum => "Enum"
  | .table => "Table"

end BlockKind

/-- What a header says. -/
structure Header where
  kind : BlockKind
  /-- The name, if a well-formed one follows the keyword. -/
  name : Option String
  /-- What follows the opening brace, if the line has one. -/
  tail : Option (List Char)
  deriving DecidableEq, Repr

namespace Header

/-- The characters that may quote a name. -/
def isQuote (c : Char) : Bool :=
  c = '"' || c = '\x27' || c = '\x60'

/-- The word characters at the front, none if there are none. -/
def leadingWord? (cs : List Char) : Option String :=
  match cs.takeWhile Text.isWord with
  | [] => none
  | word => some (String.ofList word)

/-- The name at the front. A quoted name holds word characters only and ends with the quote it
began with. -/
def name? : List Char → Option String
  | [] => none
  | c :: cs =>
    if isQuote c then
      match cs.dropWhile Text.isWord with
      | closing :: _ => if closing = c then leadingWord? cs else none
      | [] => none
    else leadingWord? (c :: cs)

/-- What follows the first opening brace. -/
def afterBrace? (cs : List Char) : Option (List Char) :=
  match cs.dropWhile (· != '\x7b') with
  | _ :: tail => some tail
  | [] => none

/-- What follows a keyword that stands as a word of its own. -/
def afterKeyword? (kind : BlockKind) (text : List Char) : Option (List Char) :=
  match Text.dropKeyword? kind.keyword.toList text with
  | some (c :: cs) => if Text.isWord c then none else some (c :: cs)
  | other => other

/-- Read a trimmed line as a header. -/
def read? (text : List Char) : Option Header :=
  match afterKeyword? .enum text, afterKeyword? .table text with
  | some rest, _ => some ⟨.enum, name? (rest.dropWhile Text.isBlank), afterBrace? rest⟩
  | none, some rest => some ⟨.table, name? (rest.dropWhile Text.isBlank), afterBrace? rest⟩
  | none, none => none

end Header

end ErdDeploy
