import ErdDeploy.Text.Alphanumeric
import ErdDeploy.Text.Blank
import ErdDeploy.Text.Letter

/-!
Reference lines: `Ref name: "table"."field" < "table"."field" [settings]`.

The name, the quotes, the blanks around every mark and the settings may be missing. A reference
line is read in two steps: its shape first, with whatever glyph stands between the two ends, and
then the direction that the glyph means.
-/

namespace ErdDeploy

/-- Which side of a reference holds many rows. -/
inductive Direction
  /-- The right side holds many rows, each pointing at one row of the left side. -/
  | manyToOne
  /-- The inverse, which has no effect on the schema. -/
  | oneToMany
  deriving DecidableEq, Repr

namespace Direction

/-- The glyph of a direction. -/
def glyph : Direction → String
  | .manyToOne => "<"
  | .oneToMany => ">"

/-- The direction of a glyph. -/
def ofGlyph? (glyph : String) : Option Direction :=
  if glyph = "<" then some .manyToOne
  else if glyph = ">" then some .oneToMany
  else none

/-- A glyph means the direction that is written by it. -/
theorem ofGlyph?_eq_some_iff {glyph : String} {direction : Direction} :
    ofGlyph? glyph = some direction ↔ glyph = direction.glyph := by
  unfold ofGlyph?
  cases direction <;> simp only [Direction.glyph] <;> split
  · next left => simp [left]
  · next left => split <;> simp_all
  · next left => simp [left]
  · next left => split <;> simp_all

end Direction

/-- A declared reference between two fields. -/
structure Reference where
  fromTable : String
  fromField : String
  direction : Direction
  toTable : String
  toField : String
  line : Int
  deriving DecidableEq, Repr

namespace Reference

/-- Whether the reference has an effect on the schema. -/
def isManyToOne (r : Reference) : Bool :=
  r.direction == .manyToOne

/-- The name of the lookup field that the reference puts into the table of its many side. -/
def lookupName (r : Reference) : String :=
  Text.lowerString r.fromTable ++ "id"

/-- The same reference some lines further down. -/
def shift (offset : Int) (r : Reference) : Reference :=
  { r with line := r.line + offset }

end Reference

/-- A reference line before its glyph is understood. -/
structure ReferenceShape where
  fromTable : String
  fromField : String
  glyph : String
  /-- How many characters come before the glyph. -/
  glyphOffset : Nat
  toTable : String
  toField : String
  deriving DecidableEq, Repr

namespace ReferenceShape

/-- One or more word characters, and what follows them. -/
def word? (cs : List Char) : Option (String × List Char) :=
  match cs.takeWhile Text.isWord with
  | [] => none
  | word => some (String.ofList word, cs.dropWhile Text.isWord)

/-- Drop a double quote, if one is there. -/
def skipQuote : List Char → List Char
  | '"' :: cs => cs
  | cs => cs

/-- What follows a given character. -/
def expect? (mark : Char) : List Char → Option (List Char)
  | [] => none
  | c :: cs => if c = mark then some cs else none

/-- A name that may stand between double quotes, and what follows it. -/
def quotedWord? (cs : List Char) : Option (String × List Char) :=
  (word? (skipQuote cs)).map fun (word, rest) => (word, skipQuote rest)

/-- A table and a field with a point between them, and what follows. -/
def endpoint? (cs : List Char) : Option ((String × String) × List Char) := do
  let (table, afterTable) ← quotedWord? (cs.dropWhile Text.isBlank)
  let afterPoint ← expect? '.' (afterTable.dropWhile Text.isBlank)
  let (field, afterField) ← quotedWord? (afterPoint.dropWhile Text.isBlank)
  pure ((table, field), afterField)

/-- Drop the name of a reference with the blanks before it, if one is there. -/
def skipName (cs : List Char) : List Char :=
  match cs with
  | c :: _ =>
    if Text.isBlank c then
      match word? (cs.dropWhile Text.isBlank) with
      | some (_, rest) => rest
      | none => cs
    else cs
  | [] => []

/-- The characters a glyph is made of: neither blank nor quote nor word character. -/
def isGlyph (c : Char) : Bool :=
  !Text.isBlank c && c != '"' && !Text.isWord c

/-- The glyph at the front, and what follows it. -/
def glyph? (cs : List Char) : Option (String × List Char) :=
  match cs.takeWhile isGlyph with
  | [] => none
  | glyph => some (String.ofList glyph, cs.dropWhile isGlyph)

/-- Whether nothing but blanks, or settings in brackets, is left. -/
def isEnd (cs : List Char) : Bool :=
  match Text.trim cs with
  | [] => true
  | '[' :: rest => rest.getLast? == some ']'
  | _ => false

/-- Read a trimmed line as the shape of a reference. -/
def read? (text : List Char) : Option ReferenceShape := do
  let afterKeyword ← Text.dropKeyword? ['r', 'e', 'f'] text
  let afterColon ← expect? ':' ((skipName afterKeyword).dropWhile Text.isBlank)
  let (left, afterLeft) ← endpoint? afterColon
  let beforeGlyph := afterLeft.dropWhile Text.isBlank
  let (glyph, afterGlyph) ← glyph? beforeGlyph
  let (right, afterRight) ← endpoint? afterGlyph
  if isEnd afterRight then
    pure ⟨left.1, left.2, glyph, text.length - beforeGlyph.length, right.1, right.2⟩
  else none

/-- The reference on a given line, if the glyph means a direction. -/
def toReference? (shape : ReferenceShape) (line : Int) : Option Reference :=
  (Direction.ofGlyph? shape.glyph).map fun direction =>
    ⟨shape.fromTable, shape.fromField, direction, shape.toTable, shape.toField, line⟩

end ReferenceShape

end ErdDeploy
