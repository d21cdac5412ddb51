import ErdDeploy.Text.Blank
import ErdDeploy.Text.Digit

/-!
Whole numbers that are written in a generous way.

Such a text is first brought to its plain form: spaces around it, a plus sign, zeros in front, a
fraction of zeros and underscores between digits are taken away, in this order. What is left has
to be the decimal digits of the number, after a minus sign if it is negative, and not too many.
Zeros in front may have underscores and a minus sign behind them.
-/

namespace ErdDeploy.IntegerText

/-- Why a text is not read as a whole number. -/
inductive Failure
  | malformed
  /-- The plain form has more than `Text.longestNumeral` characters. -/
  | tooLong
  deriving DecidableEq, Repr

/-! ## The plain form -/

/-- Whether a character may stand first in a number without zeros in front. -/
def opensNumber (c : Char) : Bool :=
  ('1' ≤ c && c ≤ '9') || c = '-'

/-- A text without the plus sign in front, which no minus sign may follow. -/
def dropPlus? (text : List Char) : Option (List Char) :=
  match text with
  | '+' :: '-' :: _ => none
  | '+' :: rest => some rest
  | _ => some text

/-- What is left of a text behind zeros and underscores, of which `last` is the last one. It is
kept where the text ends, and in front of a point. -/
def dropZerosAfter? (last : Char) : List Char → Option (List Char)
  | [] => some [last]
  | c :: cs =>
    if c = '0' || c = '_' then dropZerosAfter? c cs
    else if opensNumber c then some (c :: cs)
    else if c = '.' then some (last :: c :: cs)
    else none

/-- A text without zeros in front. -/
def dropZeros? (text : List Char) : Option (List Char) :=
  match text with
  | '0' :: cs => dropZerosAfter? '0' cs
  | c :: _ => if opensNumber c then some text else none
  | [] => none

/-- A text without a fraction of zeros. -/
def dropZeroFraction (text : List Char) : List Char :=
  match text.dropWhile (· != '.') with
  | _ :: '0' :: zeros => if zeros.all (· == '0') then text.takeWhile (· != '.') else text
  | _ => text

/-- Whether two underscores stand side by side. -/
def hasDoubleUnderscore : List Char → Bool
  | '_' :: '_' :: _ => true
  | _ :: cs => hasDoubleUnderscore cs
  | [] => false

/-- A text without underscores, if they stand one by one and none at an end. -/
def dropUnderscores (text : List Char) : List Char :=
  if text.head? = some '_' || text.getLast? = some '_' || hasDoubleUnderscore text then text
  else text.filter (· != '_')

/-- The plain form of a text. -/
def plain? (text : List Char) : Option (List Char) := do
  let unsigned ← dropPlus? (Text.trimSpaces text)
  let digits ← dropZeros? unsigned
  pure (dropUnderscores (dropZeroFraction digits))

/-! ## Reading -/

/-- The size of a number by its digits, which do not begin with a zero. With a sign in front there
is room for one digit less. Length is judged before anything that follows the digits. -/
def readSize (signs : Nat) (text : List Char) : Except Failure Nat :=
  let digits := text.takeWhile Char.isDigit
  if Text.longestNumeral < signs + digits.length then .error .tooLong
  else if digits.isEmpty || digits.length < text.length then .error .malformed
  else .ok (Text.ofPlaceValues (Text.leadingPlaceValues digits))

/-- Read a plain form. -/
def readPlain (text : List Char) : Except Failure Int :=
  match text with
  | ['0'] => .ok 0
  | ['-', '0'] => .ok 0
  | '0' :: _ => .error .malformed
  | '-' :: '0' :: _ => .error .malformed
  | '-' :: digits => (readSize 1 digits).map fun size => -(size : Int)
  | digits => (readSize 0 digits).map fun size => (size : Int)

/-- Read a whole number. -/
def read (text : List Char) : Except Failure Int :=
  match plain? text with
  | none => .error .malformed
  | some plain => readPlain plain

end ErdDeploy.IntegerText
