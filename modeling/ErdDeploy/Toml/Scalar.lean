import ErdDeploy.Data.Value
import ErdDeploy.Json.Reader
import ErdDeploy.Text.Digit

/-!
Scalars of TOML: texts, numbers, truth values, dates and times.

Every reader takes what stands at the front and returns it with what follows. A reader of a
whole number may find it too long to read, which is another failure than being no TOML.
-/

namespace ErdDeploy.Toml

/-- What is wrong with a text that is no TOML. -/
inductive Flaw
  | malformed
  /-- The header of a table is not closed. -/
  | openHeader
  /-- The header of an item in a list of tables is not closed. -/
  | openItemHeader
  deriving DecidableEq, Repr

/-- What is reported of a flaw. -/
def Flaw.message : Flaw → String
  | .malformed => "malformed document"
  | .openHeader => "Expected ']' at the end of a table declaration"
  | .openItemHeader => "Expected ']]' at the end of an array declaration"

/-- Why a text is not read. -/
inductive Failure
  | flawed (flaw : Flaw)
  /-- A whole number has too many digits. -/
  | unreadableNumeral (cause : Text.NumeralError)
  /-- Arrays and tables stand too deep in each other. -/
  | tooDeep
  deriving DecidableEq, Repr

/-- The failure of a text without a flaw that is told apart. -/
def Failure.malformed : Failure :=
  .flawed .malformed

/-- What was read, with what follows, or why nothing was. -/
abbrev Reading (α : Type) := Except Failure (α × List Char)

/-- Put a character in front of a text that was read. -/
def Reading.cons (c : Char) (reading : Reading (List Char)) : Reading (List Char) :=
  reading.map fun (cs, after) => (c :: cs, after)

/-! ## Characters -/

/-- A blank within a line. -/
def isGap (c : Char) : Bool :=
  c = ' ' || c = '\t'

/-- A blank within a line, or the end of the line. -/
def isGapOrBreak (c : Char) : Bool :=
  isGap c || c = '\n'

/-- A character that may stand in a text and in a comment; controls may not, but for the tab. -/
def isAllowed (c : Char) : Bool :=
  c = '\t' || !(c.toNat < 32 || c.toNat = 127)

/-- A character of a name without quotes. -/
def isNameChar (c : Char) : Bool :=
  c.isAlphanum || c = '-' || c = '_'

/-! ## Texts -/

/-- The number that some hexadecimal digits write. -/
def hexNumber? (digits : List Char) : Option Nat :=
  digits.foldl (fun total c => total.bind fun n => (Json.hexValue? c).map (16 * n + ·)) (some 0)

/-- The character of a code point that hexadecimal digits write. -/
def scalar? (digits : List Char) : Option Char :=
  (hexNumber? digits).bind fun n => if n.isValidChar then some (Char.ofNat n) else none

/-- The character of an escape, after its backslash, and how many characters write it. -/
def escape? : List Char → Option (Char × Nat)
  | 'u' :: rest =>
    if 4 ≤ rest.length then (scalar? (rest.take 4)).map fun c => (c, 5) else none
  | 'U' :: rest =>
    if 8 ≤ rest.length then (scalar? (rest.take 8)).map fun c => (c, 9) else none
  | '/' :: _ => none
  | c :: _ => (Json.escaped? c).map fun c => (c, 1)
  | [] => none

/-- A text in double quotes, after the opening one. -/
def readBasic (text : List Char) : Reading (List Char) :=
  match text with
  | [] => .error .malformed
  | c :: rest =>
    if c = '"' then .ok ([], rest)
    else if c = '\\' then
      match escape? rest with
      | some (plain, size) => Reading.cons plain (readBasic (rest.drop size))
      | none => .error .malformed
    else if isAllowed c then Reading.cons c (readBasic rest)
    else .error .malformed
termination_by text.length
decreasing_by
  · simp only [List.length_cons, List.length_drop]; omega
  · simp

/-- A text in single quotes, after the opening one. Nothing is escaped in it. -/
def readLiteral : List Char → Reading (List Char)
  | [] => .error .malformed
  | c :: rest =>
    if c = '\x27' then .ok ([], rest)
    else if isAllowed c then Reading.cons c (readLiteral rest)
    else .error .malformed

/-- Up to two more quotes after three closing ones belong to the text. -/
def takeSpareQuotes (quote : Char) : List Char → List Char × List Char
  | c :: d :: rest =>
    if c = quote then if d = quote then ([c, d], rest) else ([c], d :: rest)
    else ([], c :: d :: rest)
  | [c] => if c = quote then ([c], []) else ([], [c])
  | [] => ([], [])

/-- Whether nothing but blanks stands before the end of the line. -/
def endsLine (text : List Char) : Bool :=
  match text.dropWhile isGap with
  | '\n' :: _ => true
  | _ => false

/-- A text of several lines in triple double quotes, after the opening ones. A backslash at the
end of a line joins it with the next text; while `joining`, blanks and breaks are passed over. -/
def readLongBasic (joining : Bool) (text : List Char) : Reading (List Char) :=
  match text with
  | [] => .error .malformed
  | c :: rest =>
    if joining && isGapOrBreak c then readLongBasic true rest
    else if c = '"' then
      if rest.take 2 = ['"', '"'] then .ok (takeSpareQuotes '"' (rest.drop 2))
      else Reading.cons c (readLongBasic false rest)
    else if c = '\\' then
      if endsLine rest then readLongBasic true rest
      else
        match escape? rest with
        | some (plain, size) => Reading.cons plain (readLongBasic false (rest.drop size))
        | none => .error .malformed
    else if isAllowed c || c = '\n' then Reading.cons c (readLongBasic false rest)
    else .error .malformed
termination_by text.length
decreasing_by
  all_goals simp only [List.length_cons, List.length_drop]
  all_goals omega

/-- A text of several lines in triple single quotes, after the opening ones. -/
def readLongLiteral : List Char → Reading (List Char)
  | '\x27' :: '\x27' :: '\x27' :: rest => .ok (takeSpareQuotes '\x27' rest)
  | c :: rest =>
    if isAllowed c || c = '\n' then Reading.cons c (readLongLiteral rest)
    else .error .malformed
  | [] => .error .malformed

/-- A break right after the opening quotes is not part of a text of several lines. -/
def dropFirstBreak : List Char → List Char
  | '\n' :: rest => rest
  | rest => rest

/-- The text at the front, if a text begins there. -/
def readText? : List Char → Option (Reading (List Char))
  | '"' :: '"' :: '"' :: rest => some (readLongBasic false (dropFirstBreak rest))
  | '"' :: rest => some (readBasic rest)
  | '\x27' :: '\x27' :: '\x27' :: rest => some (readLongLiteral (dropFirstBreak rest))
  | '\x27' :: rest => some (readLiteral rest)
  | _ => none

/-! ## Numbers -/

/-- Digits of some kind, in which a single underscore may stand between two. The underscores are
left out. -/
def spanDigits (isDigit : Char → Bool) : List Char → List Char × List Char
  | [] => ([], [])
  | c :: '_' :: d :: rest =>
    if isDigit c then
      if isDigit d then
        let (digits, after) := spanDigits isDigit (d :: rest)
        (c :: digits, after)
      else ([c], '_' :: d :: rest)
    else ([], c :: '_' :: d :: rest)
  | c :: rest =>
    if isDigit c then
      let (digits, after) := spanDigits isDigit rest
      (c :: digits, after)
    else ([], c :: rest)

/-- The bases that are told by a letter after a zero: the letter, the base and the
digits. -/
def letteredBases : List (Char × Nat × (Char → Bool)) :=
  [('x', 16, fun c => (Json.hexValue? c).isSome), ('o', 8, fun c => '0' ≤ c && c ≤ '7'),
    ('b', 2, fun c => c = '0' || c = '1')]

/-- A whole number in one of the bases with a letter. -/
def readLettered? : List Char → Option (Value × List Char)
  | '0' :: letter :: rest => do
    let (base, isDigit) ← letteredBases.lookup letter
    let (digits, after) := spanDigits isDigit rest
    if digits.isEmpty then none
    else
      let value : Nat :=
        digits.foldl (fun total c => base * total + (Json.hexValue? c).getD 0) 0
      some (.int value, after)
  | _ => none

/-- The whole part of a decimal number: a zero, or digits that do not begin with one. -/
def spanWhole (text : List Char) : List Char × List Char :=
  match text with
  | '0' :: rest => (['0'], rest)
  | _ => spanDigits Char.isDigit text

/-- A fraction with its point, if a digit follows the point. -/
def spanFraction (text : List Char) : List Char × List Char :=
  match text with
  | '.' :: rest =>
    let (digits, after) := spanDigits Char.isDigit rest
    if digits.isEmpty then ([], text) else ('.' :: digits, after)
  | _ => ([], text)

/-- An exponent with its letter, if it has a digit. -/
def spanExponent (text : List Char) : List Char × List Char :=
  match text with
  | c :: rest =>
    if c = 'e' || c = 'E' then
      let (sign, digitsOn) :=
        match rest with
        | '+' :: more => (['+'], more)
        | '-' :: more => (['-'], more)
        | more => ([], more)
      let (digits, after) := spanDigits Char.isDigit digitsOn
      if digits.isEmpty then ([], text) else (c :: sign ++ digits, after)
    else ([], text)
  | [] => ([], text)

/-- A decimal number, if one begins here. -/
def readDecimal? (text : List Char) : Option (Reading Value) :=
  let (negative, unsigned) := DecimalText.readSign text
  let (whole, afterWhole) := spanWhole unsigned
  if whole.isEmpty then none
  else
    let (fraction, afterFraction) := spanFraction afterWhole
    let (exponent, after) := spanExponent afterFraction
    if fraction.isEmpty && exponent.isEmpty then
      match Text.readNumeral whole with
      | .ok n => some (.ok (.int (if negative then -n else n), after))
      | .error cause => some (.error (.unreadableNumeral cause))
    else
      (DecimalText.readUnsigned? negative (whole ++ fraction ++ exponent)).map fun x =>
        .ok (.float x, after)

/-- What follows a word at the front. -/
def dropWord? (word : String) (text : List Char) : Option (List Char) :=
  if word.toList.isPrefixOf text then some (text.drop word.length) else none

/-- The words that stand for values. -/
def constants : List (String × Value) :=
  [("true", .bool true), ("false", .bool false), ("inf", .float (.infinity false)),
    ("+inf", .float (.infinity false)), ("-inf", .float (.infinity true)),
    ("nan", .float .nan), ("+nan", .float .nan), ("-nan", .float .nan)]

/-- The value of a word at the front. -/
def readConstant? (text : List Char) : Option (Value × List Char) :=
  constants.findSome? fun (word, value) => (dropWord? word text).map ((value, ·))

/-! ## Dates and times -/

/-- A number of exactly `size` digits within bounds. -/
def readField? (size least greatest : Nat) (text : List Char) : Option (Nat × List Char) :=
  let digits := text.take size
  if digits.length = size && digits.all Char.isDigit then
    let n := Text.ofPlaceValues (Text.leadingPlaceValues digits)
    if least ≤ n && n ≤ greatest then some (n, text.drop size) else none
  else none

/-- What follows a character at the front. -/
def dropChar? (c : Char) : List Char → Option (List Char)
  | d :: rest => if d = c then some rest else none
  | [] => none

/-- What follows a fraction of a second, if there is any. -/
def dropSecondFraction (text : List Char) : List Char :=
  match text with
  | '.' :: rest =>
    if (rest.takeWhile Char.isDigit).isEmpty then text else rest.dropWhile Char.isDigit
  | _ => text

/-- What follows a time of day. -/
def dropTime? (text : List Char) : Option (List Char) := do
  let (_, rest) ← readField? 2 0 23 text
  let (_, rest) ← readField? 2 0 59 (← dropChar? ':' rest)
  let (_, rest) ← readField? 2 0 59 (← dropChar? ':' rest)
  pure (dropSecondFraction rest)

/-- What follows an offset of hours and minutes. -/
def dropHoursMinutes? (text : List Char) : Option (List Char) := do
  let (_, rest) ← readField? 2 0 23 text
  let (_, rest) ← readField? 2 0 59 (← dropChar? ':' rest)
  pure rest

/-- What follows an offset, if there is any. -/
def dropOffset (text : List Char) : List Char :=
  match text with
  | 'Z' :: rest => rest
  | 'z' :: rest => rest
  | '+' :: rest => (dropHoursMinutes? rest).getD text
  | '-' :: rest => (dropHoursMinutes? rest).getD text
  | _ => text

/-- What follows a time of day that is joined to a date, if there is any. -/
def dropJoinedTime (text : List Char) : List Char :=
  match text with
  | c :: rest =>
    if c = 'T' || c = 't' || c = ' ' then ((dropTime? rest).map dropOffset).getD text else text
  | [] => text

/-- Whether a year has a leap day. -/
def isLeapYear (year : Nat) : Bool :=
  year % 4 = 0 && (year % 100 != 0 || year % 400 = 0)

/-- How many days a month has. -/
def daysIn (year month : Nat) : Nat :=
  if month = 2 then if isLeapYear year then 29 else 28
  else if month = 4 || month = 6 || month = 9 || month = 11 then 30
  else 31

/-- Year, month and day at the front, the day up to 31 in any month. -/
def readDate? (text : List Char) : Option ((Nat × Nat × Nat) × List Char) := do
  let (year, rest) ← readField? 4 0 9999 text
  let (month, rest) ← readField? 2 1 12 (← dropChar? '-' rest)
  let (day, rest) ← readField? 2 1 31 (← dropChar? '-' rest)
  pure ((year, month, day), rest)

/-- What was read before `after`. -/
def consumed (text after : List Char) : Value :=
  .moment (String.ofList (text.take (text.length - after.length)))

/-- The date, date with time, or time at the front, if one begins there. There is no year zero,
and a day has to exist. -/
def readMoment? (text : List Char) : Option (Reading Value) :=
  match readDate? text with
  | some ((year, month, day), rest) =>
    let after := dropJoinedTime rest
    if 1 ≤ year && day ≤ daysIn year month then some (.ok (consumed text after, after))
    else some (.error .malformed)
  | none => (dropTime? text).map fun after => .ok (consumed text after, after)

/-- The scalar at the front. -/
def readScalar (text : List Char) : Reading Value :=
  match readText? text with
  | some reading => reading.map fun (cs, after) => (.text (String.ofList cs), after)
  | none =>
    match readMoment? text with
    | some reading => reading
    | none =>
      match readLettered? text with
      | some read => .ok read
      | none =>
        match readDecimal? text with
        | some reading => reading
        | none =>
          match readConstant? text with
          | some read => .ok read
          | none => .error .malformed

end ErdDeploy.Toml
