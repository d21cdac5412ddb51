import ErdDeploy.Text.DigitTable
import ErdDeploy.Text.Quoted

/-!
Reading whole numbers from digits of any script.

A numeral is read digit by digit up to the first character without a place value. Numerals of
more than `longestNumeral` digits are refused before anything else is looked at, so a reader
never spends more than a bounded effort on one.
-/

namespace ErdDeploy.Text

/-- The place value of a decimal digit. -/
def decimalValue? (c : Char) : Option Nat :=
  if c.isDigit then some (c.toNat - 48)
  else
    (decimalDigitRanges.find? fun range => range.1 ≤ c.toNat && c.toNat ≤ range.2).map
      fun range => (c.toNat - range.1) % 10

/-- Whether a character shows a digit, with or without a place value. -/
def isDigitLike (c : Char) : Bool :=
  (decimalValue? c).isSome || inRanges digitLikeRanges c.toNat

/-- The longest numeral that is read, in digits. -/
def longestNumeral : Nat := 4300

/-- Why a text of digits is not read as a number. -/
inductive NumeralError
  /-- A character shows a digit but has no place value. -/
  | noPlaceValue (text : List Char)
  /-- The numeral has more digits than `longestNumeral`. -/
  | tooLong (digits : Nat)
  deriving DecidableEq, Repr

/-- What is reported of a numeral that cannot be read. -/
def NumeralError.message : NumeralError → String
  | .noPlaceValue text =>
    "invalid literal for int() with base 10: " ++ String.ofList ((quoted text).take 200)
  | .tooLong digits =>
    s!"Exceeds the limit ({longestNumeral} digits) for integer string conversion: " ++
      s!"value has {digits} digits; use sys.set_int_max_str_digits() to increase the limit"

/-- The number written by a list of place values, most significant first. -/
def ofPlaceValues (values : List Nat) : Nat :=
  values.foldl (fun total value => 10 * total + value) 0

/-- The place values up to the first character that has none. -/
def leadingPlaceValues : List Char → List Nat
  | [] => []
  | c :: cs =>
    match decimalValue? c with
    | some value => value :: leadingPlaceValues cs
    | none => []

/-- Read a numeral. Its length is judged first, on the digits that come before any character
without a place value; only then is such a character refused. -/
def readNumeral (text : List Char) : Except NumeralError Nat :=
  let values := leadingPlaceValues text
  if longestNumeral < values.length then .error (.tooLong values.length)
  else if values.length < text.length || text.isEmpty then .error (.noPlaceValue text)
  else .ok (ofPlaceValues values)

end ErdDeploy.Text
