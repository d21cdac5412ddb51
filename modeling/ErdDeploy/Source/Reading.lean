import ErdDeploy.Source.Finding
import ErdDeploy.Source.Header

/-!
Reading a source line by line.

The reader is a machine whose state, a `Mode`, says what the next line belongs to: a new
statement, a header that still lacks its brace, the body of a block, or a block that is passed
over. Each line moves it one step and yields findings; at the end of the source whatever is
still open is reported. Nothing else is remembered, so reading one text after another is
reading their concatenation as soon as the first leaves nothing open.
-/

namespace ErdDeploy

/-- A block whose header was read. -/
structure OpenBlock where
  kind : BlockKind
  name : Option String
  /-- The line of the header. -/
  line : Int
  /-- The column of the keyword. -/
  column : Nat
  /-- The column behind the header, where a brace was expected. -/
  endColumn : Nat
  deriving DecidableEq, Repr

/-- What the next line belongs to. -/
inductive Mode
  /-- A new statement. -/
  | statement
  /-- A header without a brace; the brace may open the next line. -/
  | awaitingBrace (block : OpenBlock)
  /-- A body, at some depth of braces, with the lines kept so far. -/
  | body (block : OpenBlock) (depth : Nat) (kept : List SourceLine)
  /-- A block of no known kind, opened on some line, that is passed over. -/
  | stray (line : Int) (depth : Nat)
  deriving DecidableEq, Repr

namespace OpenBlock

/-- The block opened by a header on a line. -/
def ofHeader (line : SourceLine) (header : Header) : OpenBlock :=
  let indent := Text.indent line.text
  ⟨header.kind, header.name, line.number, indent + 1,
    indent + (Text.trim line.text).length + 1⟩

/-- A brace is missing. -/
def missingBrace (block : OpenBlock) : Diagnostic :=
  ⟨block.line, block.endColumn,
    "Expected '\x7b' after " ++ block.kind.keyword ++ " header", .error⟩

/-- The closing brace is missing. -/
def unterminated (line : Int) : Diagnostic :=
  ⟨line, 1, "Unterminated block: missing '\x7d'", .error⟩

/-- What a closed block declares. -/
def close (block : OpenBlock) (body : List SourceLine) : Finding :=
  match block.name with
  | none =>
    .diagnostic ⟨block.line, block.column, block.kind.title ++ " block has no name", .error⟩
  | some name =>
    match block.kind with
    | .enum => .enum ⟨name, EnumBlock.valuesOf body, block.line⟩
    | .table => .table ⟨name, TableBlock.linesOf body, block.line⟩

end OpenBlock

namespace Mode

/-! ## Inside a body -/

/-- A block inside a body is passed over. -/
def nestedIgnored (line : SourceLine) : Diagnostic :=
  ⟨line.number, (line.text.takeWhile (· != '\x7b')).length + 1, "Nested block ignored", .warning⟩

/-- The part of a line before the first closing brace. -/
def beforeClosing (line : SourceLine) : SourceLine :=
  ⟨line.number, line.text.takeWhile (· != '\x7d')⟩

/-- One line of a body. A line that only closes the block may hold content before the brace; a
line that opens braces is reported and not kept. -/
def bodyStep (block : OpenBlock) (depth : Nat) (kept : List SourceLine) (line : SourceLine) :
    Mode × List Finding :=
  if depth = 1 ∧ line.opens = 0 ∧ 0 < line.closes then
    let last := beforeClosing line
    (.statement,
      [block.close (if Text.isBlankText last.text then kept else kept ++ [last])])
  else if depth + line.opens ≤ line.closes then
    (.statement, [block.close kept])
  else
    let next := depth + line.opens - line.closes
    if 0 < line.opens then (.body block next kept, [.diagnostic (nestedIgnored line)])
    else if next = 1 ∧ line.closes = 0 then (.body block next (kept ++ [line]), [])
    else (.body block next kept, [])

/-- Enter a body with what follows the opening brace on its line. -/
def enter (block : OpenBlock) (tail : List Char) : Mode × List Finding :=
  if Text.isBlankText tail then (.body block 1 [], [])
  else bodyStep block 1 [] ⟨block.line, tail⟩

/-- One line of a block that is passed over. -/
def strayStep (start : Int) (depth : Nat) (line : SourceLine) : Mode :=
  if depth + line.opens ≤ line.closes then .statement
  else .stray start (depth + line.opens - line.closes)

/-! ## Statements -/

/-- The kinds of statements, told by the first word of a line. -/
inductive Keyword
  | block
  | reference
  | unknown
  deriving DecidableEq, Repr

/-- The kind of statement that a trimmed line begins: its first word up to colons at the end,
in any case. -/
def keywordOf (trimmed : List Char) : Keyword :=
  let word :=
    String.ofList (Text.lower (Text.dropEndWhile (· == ':') (Text.firstWord trimmed)))
  if word = BlockKind.enum.keyword || word = BlockKind.table.keyword then .block
  else if word = "ref" then .reference
  else .unknown

/-- A line that begins a block. -/
def blockStep (line : SourceLine) : Mode × List Finding :=
  match Header.read? (Text.trim line.text) with
  | none =>
    (.statement, [.diagnostic
      ⟨line.number, Text.indent line.text + 1, "Malformed block header", .error⟩])
  | some header =>
    let block := OpenBlock.ofHeader line header
    match header.tail with
    | some tail => enter block tail
    | none => (.awaitingBrace block, [])

/-- The finding of a reference line. -/
def referenceFinding (line : SourceLine) : Finding :=
  let indent := Text.indent line.text
  match ReferenceShape.read? (Text.trim line.text) with
  | none =>
    .diagnostic ⟨line.number, indent + 1, "Malformed relationship line", .error⟩
  | some shape =>
    match shape.toReference? line.number with
    | some r => .reference r
    | none =>
      .diagnostic ⟨line.number, indent + shape.glyphOffset + 1,
        "Unrecognized relationship direction '" ++ shape.glyph ++ "'", .error⟩

/-- The diagnostic of a line that begins no known statement. -/
def unrecognized (line : SourceLine) : Diagnostic :=
  ⟨line.number, Text.indent line.text + 1,
    "Unrecognized statement '" ++ String.ofList (Text.firstWord line.text) ++ "'", .warning⟩

/-- Whether an unknown statement opens a block that has to be passed over. -/
def opensStray (line : SourceLine) : Bool :=
  0 < line.opens && line.closes == 0

/-- One line where a statement may begin. -/
def statementStep (line : SourceLine) : Mode × List Finding :=
  if line.isIdle then (.statement, [])
  else
    match keywordOf (Text.trim line.text) with
    | .block => blockStep line
    | .reference => (.statement, [referenceFinding line])
    | .unknown =>
      (if opensStray line then .stray line.number 1 else .statement,
        [.diagnostic (unrecognized line)])

/-- The line after a header without a brace: a brace at its front opens the body, anything else
begins a statement of its own. -/
def headerStep (block : OpenBlock) (line : SourceLine) : Mode × List Finding :=
  match Text.trim line.text with
  | '\x7b' :: tail => enter block tail
  | _ =>
    let (mode, findings) := statementStep line
    (mode, .diagnostic block.missingBrace :: findings)

/-! ## The machine -/

/-- Read one line. -/
def step : Mode → SourceLine → Mode × List Finding
  | .statement, line => statementStep line
  | .awaitingBrace block, line => headerStep block line
  | .body block depth kept, line => bodyStep block depth kept line
  | .stray start depth, line => (strayStep start depth line, [])

/-- What the end of the source leaves open. -/
def finish : Mode → List Finding
  | .statement => []
  | .awaitingBrace block => [.diagnostic block.missingBrace]
  | .body block _ _ => [.diagnostic (OpenBlock.unterminated block.line)]
  | .stray start _ => [.diagnostic (OpenBlock.unterminated start)]

/-- Read lines, and report what is open at their end. -/
def run : Mode → List SourceLine → List Finding
  | mode, [] => finish mode
  | mode, line :: lines => (step mode line).2 ++ run (step mode line).1 lines

end Mode

/-- The findings of numbered lines. -/
def findings (lines : List SourceLine) : List Finding :=
  Mode.run .statement lines

/-- The statements and diagnostics of a text. -/
def Extract.ofText (text : String) : Extract :=
  .ofFindings (findings (SourceLine.ofText text))

end ErdDeploy
