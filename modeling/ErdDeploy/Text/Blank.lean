/-!
Spaces and blank characters, and the trimming and word splitting that is defined by them.

Every function works on a list of characters and keeps the order of what it keeps.
-/

namespace ErdDeploy.Text

/-- The spaces: tabs, line breaks, and the spaces of every width. A zero-width space and a byte
order mark are none. -/
def isSpace (c : Char) : Bool :=
  let n := c.toNat
  (9 ≤ n && n ≤ 13) || n == 32 || n == 0x85 || n == 0xA0 || n == 0x1680 ||
    (0x2000 ≤ n && n ≤ 0x200A) || n == 0x2028 || n == 0x2029 || n == 0x202F ||
    n == 0x205F || n == 0x3000

/-- The blank characters: spaces, and the four controls that separate. -/
def isBlank (c : Char) : Bool :=
  isSpace c || (28 ≤ c.toNat && c.toNat ≤ 31)

/-- A space is blank. -/
theorem isBlank_of_isSpace {c : Char} (h : isSpace c = true) : isBlank c = true := by
  simp [isBlank, h]

/-- A blank text holds blank characters only; the empty text is blank. -/
def isBlankText (cs : List Char) : Bool :=
  cs.all isBlank

/-- Drop the longest end whose characters all satisfy `p`. -/
def dropEndWhile (p : Char → Bool) (cs : List Char) : List Char :=
  (cs.reverse.dropWhile p).reverse

/-- Drop the longest beginning and the longest end whose characters all satisfy `p`. -/
def strip (p : Char → Bool) (cs : List Char) : List Char :=
  dropEndWhile p (cs.dropWhile p)

/-- The text without the blanks around it. -/
def trim (cs : List Char) : List Char :=
  strip isBlank cs

/-- The text without the spaces around it; controls that separate are kept. -/
def trimSpaces (cs : List Char) : List Char :=
  strip isSpace cs

/-- How many blanks stand before the first character that is not blank. -/
def indent (cs : List Char) : Nat :=
  (cs.takeWhile isBlank).length

/-- The first run of characters that are not blank. -/
def firstWord (cs : List Char) : List Char :=
  (cs.dropWhile isBlank).takeWhile fun c => !isBlank c

/-- What follows the first word, from its own first character that is not blank. -/
def afterFirstWord (cs : List Char) : List Char :=
  ((cs.dropWhile isBlank).dropWhile fun c => !isBlank c).dropWhile isBlank

/-- Whether a text begins with another. -/
def startsWith (cs beginning : List Char) : Bool :=
  beginning.isPrefixOf cs

end ErdDeploy.Text
