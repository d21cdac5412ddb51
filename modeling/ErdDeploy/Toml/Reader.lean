import ErdDeploy.Toml.Document
import ErdDeploy.Toml.Scalar

/-!
Reading TOML as plain data.

A document is a sequence of lines: the value of a name, the header of a table, or nothing; each
may end with a comment. Arrays may run over lines, tables written in place may not.
-/

namespace ErdDeploy.Toml

/-- A result, or the failure of a text with a flaw. -/
def orFlawed {α : Type} (flaw : Flaw) : Option α → Except Failure α
  | some value => .ok value
  | none => .error (.flawed flaw)

/-- A result, or the failure of malformed text. -/
def orMalformed {α : Type} : Option α → Except Failure α :=
  orFlawed .malformed

/-! ## Blanks, comments and names -/

/-- What follows a comment, if one stands at the front. -/
def dropComment (text : List Char) : Except Failure (List Char) :=
  match text with
  | '#' :: rest =>
    if (rest.takeWhile (· != '\n')).all isAllowed then .ok (rest.dropWhile (· != '\n'))
    else .error .malformed
  | _ => .ok text

/-- What follows blanks, breaks and comments. Each comment spends one unit of the allowance. -/
def dropFiller : (allowance : Nat) → List Char → Except Failure (List Char)
  | 0, _ => .error .malformed
  | allowance + 1, text =>
    match text.dropWhile isGapOrBreak with
    | '#' :: rest => do
      let after ← dropComment ('#' :: rest)
      dropFiller allowance after
    | after => .ok after

/-- A name, with or without quotes. -/
def readName (text : List Char) : Except Failure (String × List Char) :=
  match text with
  | '"' :: rest => (readBasic rest).map fun (cs, after) => (String.ofList cs, after)
  | '\x27' :: rest => (readLiteral rest).map fun (cs, after) => (String.ofList cs, after)
  | _ =>
    let name := text.takeWhile isNameChar
    if name.isEmpty then .error .malformed
    else .ok (String.ofList name, text.dropWhile isNameChar)

/-- Names with dots between them, and what follows the blanks after them. Each name spends one
unit of the allowance. -/
def readPath : (allowance : Nat) → List Char → Except Failure (Path × List Char)
  | 0, _ => .error .malformed
  | allowance + 1, text => do
    let (name, after) ← readName text
    match after.dropWhile isGap with
    | '.' :: rest =>
      let (path, after) ← readPath allowance (rest.dropWhile isGap)
      pure (name :: path, after)
    | after => pure ([name], after)

/-! ## Values

Arrays and tables written in place stand in each other to a limited depth: an array takes two
units of a fixed room, and a table three. What lies deeper is not looked at.
-/

/-- The room for arrays and tables in each other. The format knows no such limit: it belongs to an
interpreter whose calls stand in each other as the arrays and tables do, and leaves this many of
its calls to the reader. -/
def depthRoom : Nat := 985

mutual

/-- The value at the front. Each step down spends one unit of the allowance. -/
def readValue (room : Nat) : (allowance : Nat) → List Char → Except Failure (Value × List Char)
  | 0, _ => .error .malformed
  | allowance + 1, text =>
    match text with
    | '[' :: rest =>
      if room < 2 then .error .tooDeep
      else do
        let (items, after) ←
          readItems (room - 2) allowance (← dropFiller (rest.length + 1) rest)
        pure (.list items, after)
    | '\x7b' :: rest =>
      if room < 3 then .error .tooDeep
      else
        match rest.dropWhile isGap with
        | '\x7d' :: after => .ok (.record [], after)
        | inner => do
          let (members, after) ← readInline (room - 3) allowance .empty inner
          pure (.record members, after)
    | _ => readScalar text

/-- The items of an array up to its closing bracket. -/
def readItems (room : Nat) : (allowance : Nat) → List Char →
    Except Failure (List Value × List Char)
  | 0, _ => .error .malformed
  | allowance + 1, text =>
    match text with
    | ']' :: after => .ok ([], after)
    | _ => do
      let (item, rest) ← readValue room allowance text
      match ← dropFiller (rest.length + 1) rest with
      | ']' :: after => pure ([item], after)
      | ',' :: rest =>
        let (items, after) ← readItems room allowance (← dropFiller (rest.length + 1) rest)
        pure (item :: items, after)
      | _ => .error .malformed

/-- The members of a table that is written in place, up to its closing brace, added to those
read before. -/
def readInline (room : Nat) : (allowance : Nat) → Inline → List Char →
    Except Failure (Members × List Char)
  | 0, _, _ => .error .malformed
  | allowance + 1, table, text => do
    let (path, rest) ← readPath (text.length + 1) text
    let afterSign ← orMalformed (dropChar? '=' rest)
    let (value, rest) ← readValue room allowance (afterSign.dropWhile isGap)
    let table ← orMalformed (table.assign path value)
    match rest.dropWhile isGap with
    | '\x7d' :: after => pure (table.members, after)
    | ',' :: rest => readInline room allowance table (rest.dropWhile isGap)
    | _ => .error .malformed

end

/-! ## Lines -/

/-- The value of a name. -/
def readAssignment (document : Document) (text : List Char) :
    Except Failure (Document × List Char) := do
  let (path, rest) ← readPath (text.length + 1) text
  let afterSign ← orMalformed (dropChar? '=' rest)
  let (value, after) ←
    readValue depthRoom (2 * text.length + 2) (afterSign.dropWhile isGap)
  let document ← orMalformed (document.assign path value)
  pure (document, after)

/-- The header of a further item in a list of tables, after its two brackets. -/
def readItemHeader (document : Document) (text : List Char) :
    Except Failure (Document × List Char) := do
  let (path, rest) ← readPath (text.length + 1) (text.dropWhile isGap)
  let document ← orMalformed (document.openItem path)
  let after ← orFlawed .openItemHeader ((dropChar? ']' rest).bind (dropChar? ']'))
  pure (document, after)

/-- The header of a table, after its bracket. -/
def readTableHeader (document : Document) (text : List Char) :
    Except Failure (Document × List Char) := do
  let (path, rest) ← readPath (text.length + 1) (text.dropWhile isGap)
  let document ← orMalformed (document.openTable path)
  let after ← orFlawed .openHeader (dropChar? ']' rest)
  pure (document, after)

/-- What a line says, up to its comment. -/
def readStatement (document : Document) (text : List Char) :
    Except Failure (Document × List Char) :=
  match text with
  | [] => .ok (document, [])
  | '\n' :: _ => .ok (document, text)
  | '#' :: _ => .ok (document, text)
  | '[' :: '[' :: rest => readItemHeader document rest
  | '[' :: rest => readTableHeader document rest
  | _ => readAssignment document text

/-- The lines of a document. Each spends one unit of the allowance. -/
def readLines : (allowance : Nat) → Document → List Char → Except Failure Document
  | 0, _, _ => .error .malformed
  | allowance + 1, document, text => do
    let (document, after) ← readStatement document (text.dropWhile isGap)
    match ← dropComment (after.dropWhile isGap) with
    | [] => pure document
    | '\n' :: rest => readLines allowance document rest
    | _ => .error .malformed

/-- A carriage return before a break belongs to the break. -/
def unifyBreaks : List Char → List Char
  | '\r' :: '\n' :: rest => '\n' :: unifyBreaks rest
  | c :: rest => c :: unifyBreaks rest
  | [] => []

/-- The members of a TOML document. -/
def read (text : List Char) : Except Failure Members :=
  let unified := unifyBreaks text
  (readLines (unified.length + 1) .empty unified).map Document.members

end ErdDeploy.Toml
