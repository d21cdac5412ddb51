import ErdDeploy.Number.Binary64
import ErdDeploy.Text.Blank
import ErdDeploy.Text.Digit

/-!
Decimal texts of double precision numbers.

`shortest` writes the fewest digits that read back as the same number, and of those the nearest;
`general` writes a fixed number of significant digits and drops the zeros at the end. Both lay
the digits out by a `Layout`, which says where positional notation ends. `read?` reads every
common spelling.
-/

namespace ErdDeploy.DecimalText

/-! ## Digits -/

/-- Digits of a positive number and the place of the point: `0.d₁d₂… · 10 ^ point`. -/
structure Digits where
  digits : List Char
  point : Int
  deriving DecidableEq, Repr

/-- The decimal digits of a whole number. -/
def digitsOf (n : Nat) : List Char :=
  Nat.toDigits 10 n

/-- The power of ten just above a positive quotient: the quotient is at least a tenth of it and
below it. -/
def pointOf (num den : Nat) : Int :=
  if den ≤ num then (digitsOf (num / den)).length
  else
    let places := (digitsOf (den / num)).length - 1
    if num * Binary64.tenTo places < den then -places else 1 - places

/-- A quotient in units of `10 ^ (point - count)`, as a numerator and a denominator. -/
def inUnits (num den count : Nat) (point : Int) : Nat × Nat :=
  let shift := (count : Int) - point
  if 0 ≤ shift then (num * Binary64.tenTo shift.toNat, den)
  else (num, den * Binary64.tenTo (-shift).toNat)

/-- Digits without the zeros at the end. -/
def dropZeros (digits : List Char) : List Char :=
  match Text.dropEndWhile (· == '0') digits with
  | [] => ['0']
  | kept => kept

/-- `count` significant digits of a quotient, rounded to nearest, a tie going to the even
digit. -/
def roundedDigits (num den count : Nat) : Digits :=
  let point := pointOf num den
  let (scaled, unit) := inUnits num den count point
  let rounded := Binary64.roundQuotient scaled unit
  if rounded = Binary64.tenTo count then ⟨digitsOf (rounded / 10), point + 1⟩
  else ⟨digitsOf rounded, point⟩

/-- Whether `units · 10 ^ (point - count)` reads back as the given number. -/
def readsBack (x : Binary64) (negative : Bool) (units count : Nat) (point : Int) : Bool :=
  Binary64.ofDecimal negative units (point - count) == x

/-- The nearest number of `count` digits that reads back, if any does. -/
def digitsReadingBack? (x : Binary64) (negative : Bool) (num den count : Nat) : Option Digits :=
  let point := pointOf num den
  let (scaled, unit) := inUnits num den count point
  let below := scaled / unit
  let above := below + 1
  let belowNearer := 2 * (scaled % unit) < unit || (2 * (scaled % unit) == unit && below % 2 == 0)
  let fitsBelow := readsBack x negative below count point
  let fitsAbove := readsBack x negative above count point
  let chosen :=
    if fitsBelow && (belowNearer || !fitsAbove) then some below
    else if fitsAbove then some above
    else none
  chosen.map fun units =>
    if units = Binary64.tenTo count then ⟨['1'], point + 1⟩ else ⟨dropZeros (digitsOf units), point⟩

/-- The shortest digits that read back, looked for from `count` digits on. Seventeen digits
always do. -/
def shortestDigits (x : Binary64) (negative : Bool) (num den : Nat) : (fuel count : Nat) → Digits
  | 0, count => roundedDigits num den count
  | fuel + 1, count =>
    match digitsReadingBack? x negative num den count with
    | some digits => digits
    | none => shortestDigits x negative num den fuel (count + 1)

/-! ## Layout -/

/-- Where positional notation ends, and whether a whole number keeps a fraction. -/
structure Layout where
  /-- Positional from this place of the point on. -/
  leastPoint : Int
  /-- Positional up to this place of the point. -/
  greatestPoint : Int
  /-- Whether a positional whole number is written with `.0`. -/
  keepsFraction : Bool

/-- An exponent: a sign and at least two digits. -/
def exponentText (exponent : Int) : List Char :=
  let digits := digitsOf exponent.natAbs
  (if exponent < 0 then '-' else '+') :: (if digits.length < 2 then '0' :: digits else digits)

/-- Write digits by a layout. -/
def Layout.write (layout : Layout) (d : Digits) : List Char :=
  let count : Int := d.digits.length
  if d.point < layout.leastPoint || layout.greatestPoint < d.point then
    let mantissa :=
      match d.digits with
      | first :: second :: rest => first :: '.' :: second :: rest
      | short => short
    mantissa ++ 'e' :: exponentText (d.point - 1)
  else if d.point ≤ 0 then
    '0' :: '.' :: List.replicate (-d.point).toNat '0' ++ d.digits
  else if count ≤ d.point then
    d.digits ++ List.replicate (d.point - count).toNat '0' ++
      (if layout.keepsFraction then ['.', '0'] else [])
  else
    d.digits.take d.point.toNat ++ '.' :: d.digits.drop d.point.toNat

/-- Shortest texts are positional from a ten-thousandth up to sixteen digits before the point,
and a whole number keeps a fraction. -/
def shortestLayout : Layout := ⟨-3, 16, true⟩

/-- General texts are positional from a ten-thousandth up to the number of digits kept, and a
whole number has no fraction. -/
def generalLayout (count : Nat) : Layout := ⟨-3, count, false⟩

/-- A sign in front of a text. -/
def signed (negative : Bool) (text : List Char) : String :=
  String.ofList (if negative then '-' :: text else text)

/-- The shortest text that reads back as the same number. -/
def shortest (x : Binary64) : String :=
  match x with
  | .nan => "nan"
  | .infinity negative => signed negative "inf".toList
  | .finite negative 0 _ => signed negative "0.0".toList
  | .finite negative mantissa exponent =>
    let (num, den) := Binary64.magnitude mantissa exponent
    signed negative (shortestLayout.write (shortestDigits x negative num den 16 1))

/-- The text with `count` significant digits, without zeros at the end. -/
def general (count : Nat) (x : Binary64) : String :=
  match x with
  | .nan => "nan"
  | .infinity negative => signed negative "inf".toList
  | .finite negative 0 _ => signed negative ['0']
  | .finite negative mantissa exponent =>
    let (num, den) := Binary64.magnitude mantissa exponent
    let d := roundedDigits num den count
    signed negative ((generalLayout count).write ⟨dropZeros d.digits, d.point⟩)

/-! ## Reading -/

/-- More digits after a digit, each with at most one underscore before it: their place values
and what follows. -/
def readMoreDigits : List Char → List Nat × List Char
  | [] => ([], [])
  | '_' :: c :: cs =>
    match Text.decimalValue? c with
    | some value =>
      let (values, after) := readMoreDigits cs
      (value :: values, after)
    | none => ([], '_' :: c :: cs)
  | c :: cs =>
    match Text.decimalValue? c with
    | some value =>
      let (values, after) := readMoreDigits cs
      (value :: values, after)
    | none => ([], c :: cs)

/-- Digits, in which a single underscore may stand between two: their place values and what
follows. Nothing is read where no digit stands. -/
def readDigits : List Char → List Nat × List Char
  | [] => ([], [])
  | c :: cs =>
    match Text.decimalValue? c with
    | some value =>
      let (values, after) := readMoreDigits cs
      (value :: values, after)
    | none => ([], c :: cs)

/-- A sign and what follows. -/
def readSign : List Char → Bool × List Char
  | '-' :: cs => (true, cs)
  | '+' :: cs => (false, cs)
  | cs => (false, cs)

/-- The exponent at the end of a number, zero if there is none. -/
def readExponent? : List Char → Option Int
  | [] => some 0
  | c :: cs =>
    if c == 'e' || c == 'E' then
      let (negative, cs) := readSign cs
      match readDigits cs with
      | (value :: values, []) =>
        let size : Int := Text.ofPlaceValues (value :: values)
        some (if negative then -size else size)
      | _ => none
    else none

/-- A number in positional or exponent notation, after its sign. -/
def readUnsigned? (negative : Bool) (cs : List Char) : Option Binary64 :=
  let (whole, cs) := readDigits cs
  let (fraction, cs) :=
    match cs with
    | '.' :: rest => readDigits rest
    | _ => ([], cs)
  if whole.isEmpty && fraction.isEmpty then none
  else
    (readExponent? cs).map fun exponent =>
      Binary64.ofDecimal negative (Text.ofPlaceValues (whole ++ fraction))
        (exponent - fraction.length)

/-- Read a number: spaces around it, a sign, digits of any script with underscores between
them, a fraction, an exponent, or one of the words for infinity and for what is not a number. -/
def read? (text : List Char) : Option Binary64 :=
  let (negative, cs) := readSign (Text.trimSpaces text)
  let word := String.ofList (cs.map Char.toLower)
  if word = "inf" || word = "infinity" then some (.infinity negative)
  else if word = "nan" then some .nan
  else readUnsigned? negative cs

end ErdDeploy.DecimalText
