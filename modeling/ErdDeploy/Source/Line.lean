import ErdDeploy.Text.Blank
import ErdDeploy.Text.Lines

/-!
Source lines with their numbers, and what can be told of a line before it is understood.
-/

namespace ErdDeploy

/-- A line of a source, or a part of one, with the number of that line. -/
structure SourceLine where
  number : Int
  text : List Char
  deriving DecidableEq, Repr

namespace SourceLine

/-- Number lines from `first` on. -/
def numbered (first : Int) : List (List Char) → List SourceLine
  | [] => []
  | text :: texts => ⟨first, text⟩ :: numbered (first + 1) texts

/-- The lines of a text, numbered from one. -/
def ofText (text : String) : List SourceLine :=
  numbered 1 (Text.splitLines text.toList)

/-- The same text some lines further down. -/
def shift (offset : Int) (line : SourceLine) : SourceLine :=
  ⟨line.number + offset, line.text⟩

/-- A comment begins with two slashes. -/
def isComment (trimmed : List Char) : Bool :=
  Text.startsWith trimmed ['/', '/']

/-- Whether a line says nothing: it is blank or a comment. -/
def isIdle (line : SourceLine) : Bool :=
  let trimmed := Text.trim line.text
  trimmed.isEmpty || isComment trimmed

/-- How many braces open on the line. -/
def opens (line : SourceLine) : Nat :=
  line.text.count '\x7b'

/-- How many braces close on the line. -/
def closes (line : SourceLine) : Nat :=
  line.text.count '\x7d'

end SourceLine

end ErdDeploy
