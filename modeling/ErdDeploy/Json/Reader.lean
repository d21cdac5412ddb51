import ErdDeploy.Data.Value

/-!
Reading JSON text as plain data.

Of two members of one name the later gives the value and the earlier the place. The three words
for numbers that are not finite are read, and whole numbers stay whole whatever their size, up
to the longest numeral that is read anywhere. Half of a surrogate pair becomes the replacement
character. Lists and records stand in each other to a limited depth; what lies deeper is not
looked at, so that a text may be too deep and malformed at once and counts as the former.
-/

namespace ErdDeploy.Json

/-- The blanks between the tokens. -/
def isSpace (c : Char) : Bool :=
  c = ' ' || c = '\t' || c = '\n' || c = '\r'

/-- The value of a hexadecimal digit. -/
def hexValue? (c : Char) : Option Nat :=
  if c.isDigit then some (c.toNat - 48)
  else if 'a' ≤ c && c ≤ 'f' then some (c.toNat - 87)
  else if 'A' ≤ c && c ≤ 'F' then some (c.toNat - 55)
  else none

/-- The UTF-16 unit that four hexadecimal digits name. -/
def unit? (a b c d : Char) : Option Nat := do
  let a ← hexValue? a
  let b ← hexValue? b
  let c ← hexValue? c
  let d ← hexValue? d
  pure (((a * 16 + b) * 16 + c) * 16 + d)

/-- The first half of a surrogate pair. -/
def isHighUnit (n : Nat) : Bool :=
  0xD800 ≤ n && n < 0xDC00

/-- The second half of a surrogate pair. -/
def isLowUnit (n : Nat) : Bool :=
  0xDC00 ≤ n && n < 0xE000

/-- The character of a unit that stands alone. -/
def unitChar (n : Nat) : Char :=
  if isHighUnit n || isLowUnit n then Char.ofNat 0xFFFD else Char.ofNat n

/-- The character that a single-letter escape stands for. -/
def escaped? (c : Char) : Option Char :=
  if c = '"' || c = '\\' || c = '/' then some c
  else if c = 'n' then some '\n'
  else if c = 'r' then some '\r'
  else if c = 't' then some '\t'
  else if c = 'b' then some (Char.ofNat 8)
  else if c = 'f' then some (Char.ofNat 12)
  else none

/-- The text of a string up to its closing quote, and what follows the quote. -/
def readText : List Char → Option (List Char × List Char)
  | [] => none
  | '"' :: rest => some ([], rest)
  | '\\' :: 'u' :: a :: b :: c :: d :: '\\' :: 'u' :: e :: f :: g :: h :: rest =>
    match unit? a b c d, unit? e f g h with
    | some high, some low =>
      if isHighUnit high && isLowUnit low then
        (readText rest).map fun (cs, after) =>
          (Char.ofNat (0x10000 + (high - 0xD800) * 0x400 + (low - 0xDC00)) :: cs, after)
      else
        (readText ('\\' :: 'u' :: e :: f :: g :: h :: rest)).map fun (cs, after) =>
          (unitChar high :: cs, after)
    | some unit, none =>
      (readText ('\\' :: 'u' :: e :: f :: g :: h :: rest)).map fun (cs, after) =>
        (unitChar unit :: cs, after)
    | none, _ => none
  | '\\' :: 'u' :: a :: b :: c :: d :: rest =>
    match unit? a b c d with
    | some unit => (readText rest).map fun (cs, after) => (unitChar unit :: cs, after)
    | none => none
  | '\\' :: c :: rest =>
    match escaped? c with
    | some plain => (readText rest).map fun (cs, after) => (plain :: cs, after)
    | none => none
  | c :: rest =>
    if c.toNat < 32 || c = '\\' then none
    else (readText rest).map fun (cs, after) => (c :: cs, after)

/-- The ASCII digits at the front, and what follows them. -/
def spanDigits (cs : List Char) : List Char × List Char :=
  (cs.takeWhile Char.isDigit, cs.dropWhile Char.isDigit)

/-- The fraction at the front with its point, if a digit follows the point. -/
def spanFraction (cs : List Char) : List Char × List Char :=
  match cs with
  | '.' :: rest =>
    let (digits, after) := spanDigits rest
    if digits.isEmpty then ([], cs) else ('.' :: digits, after)
  | _ => ([], cs)

/-- The exponent at the front with its letter, if it has a digit. -/
def spanExponent (cs : List Char) : List Char × List Char :=
  match cs with
  | c :: rest =>
    if c = 'e' || c = 'E' then
      let (sign, digitsOn) :=
        match rest with
        | '+' :: more => (['+'], more)
        | '-' :: more => (['-'], more)
        | more => ([], more)
      let (digits, after) := spanDigits digitsOn
      if digits.isEmpty then ([], cs) else (c :: sign ++ digits, after)
    else ([], cs)
  | [] => ([], cs)

/-- The whole part at the front: a zero, or digits that do not begin with one. -/
def spanWhole (cs : List Char) : List Char × List Char :=
  match cs with
  | '0' :: rest => (['0'], rest)
  | _ => spanDigits cs

/-- A number, after its sign. -/
def readNumber (negative : Bool) (cs : List Char) : Option (Value × List Char) :=
  let (whole, afterWhole) := spanWhole cs
  let (fraction, afterFraction) := spanFraction afterWhole
  let (exponent, after) := spanExponent afterFraction
  if whole.isEmpty then none
  else if fraction.isEmpty && exponent.isEmpty then
    match Text.readNumeral whole with
    | .ok n => some (.int (if negative then -n else n), after)
    | .error _ => none
  else
    (DecimalText.readUnsigned? negative (whole ++ fraction ++ exponent)).map fun x =>
      (.float x, after)

/-- What follows a fixed word. -/
def dropWord? (word : String) (cs : List Char) : Option (List Char) :=
  if word.toList.isPrefixOf cs then some (cs.drop word.length) else none

/-- The words that stand for values. -/
def constants : List (String × Value) :=
  [("null", .null), ("true", .bool true), ("false", .bool false), ("NaN", .float .nan),
    ("Infinity", .float (.infinity false)), ("-Infinity", .float (.infinity true))]

/-- A number or a word. -/
def readScalar (cs : List Char) : Option (Value × List Char) :=
  match constants.findSome? fun (word, value) => (dropWord? word cs).map ((value, ·)) with
  | some found => some found
  | none =>
    match cs with
    | '-' :: rest => readNumber true rest
    | _ => readNumber false cs

/-- Why a text is not read. -/
inductive Failure
  | malformed
  /-- Lists and records stand in each other more than `depthLimit` deep. -/
  | tooDeep
  deriving DecidableEq, Repr

/-- How deep lists and records may stand in each other. The format knows no such limit: it belongs
to an interpreter whose calls stand in each other as the lists and records do, and leaves this many
of its calls to the reader. -/
def depthLimit : Nat := 987

/-- A result, or the failure of malformed text. -/
def orMalformed {α : Type} : Option α → Except Failure α
  | some found => .ok found
  | none => .error .malformed

mutual

/-- A value at the front, after blanks, and what follows it. There is room for `depth` lists and
records in each other. Each step down spends one unit of the allowance. -/
def readValue (depth : Nat) : (allowance : Nat) → List Char →
    Except Failure (Value × List Char)
  | 0, _ => .error .malformed
  | allowance + 1, cs =>
    match cs.dropWhile isSpace with
    | '"' :: rest => (orMalformed (readText rest)).map fun (s, after) =>
        (.text (String.ofList s), after)
    | '[' :: rest =>
      match depth, rest.dropWhile isSpace with
      | 0, _ => .error .tooDeep
      | _ + 1, ']' :: after => .ok (.list [], after)
      | depth + 1, _ => (readItems depth allowance rest).map fun (items, after) =>
          (.list items, after)
    | '\x7b' :: rest =>
      match depth, rest.dropWhile isSpace with
      | 0, _ => .error .tooDeep
      | _ + 1, '\x7d' :: after => .ok (.record [], after)
      | depth + 1, _ => (readMembers depth allowance [] rest).map fun (members, after) =>
          (.record members, after)
    | other => orMalformed (readScalar other)

/-- The items of an array up to its closing bracket. -/
def readItems (depth : Nat) : (allowance : Nat) → List Char →
    Except Failure (List Value × List Char)
  | 0, _ => .error .malformed
  | allowance + 1, cs => do
    let (item, after) ← readValue depth allowance cs
    match after.dropWhile isSpace with
    | ',' :: rest =>
      let (items, after) ← readItems depth allowance rest
      pure (item :: items, after)
    | ']' :: rest => pure ([item], rest)
    | _ => .error .malformed

/-- The members of an object up to its closing brace, added to those read before. -/
def readMembers (depth : Nat) : (allowance : Nat) → List (String × Value) → List Char →
    Except Failure (List (String × Value) × List Char)
  | 0, _, _ => .error .malformed
  | allowance + 1, before, cs =>
    match cs.dropWhile isSpace with
    | '"' :: rest => do
      let (name, after) ← orMalformed (readText rest)
      match after.dropWhile isSpace with
      | ':' :: rest =>
        let (value, after) ← readValue depth allowance rest
        let members := Value.putMember (String.ofList name) value before
        match after.dropWhile isSpace with
        | ',' :: rest => readMembers depth allowance members rest
        | '\x7d' :: rest => pure (members, rest)
        | _ => .error .malformed
      | _ => .error .malformed
    | _ => .error .malformed

end

/-- The value of a JSON text, with nothing but blanks around it. -/
def read (text : List Char) : Except Failure Value :=
  match readValue depthLimit (2 * text.length + 2) text with
  | .ok (value, after) => if after.all isSpace then .ok value else .error .malformed
  | .error failure => .error failure

end ErdDeploy.Json
