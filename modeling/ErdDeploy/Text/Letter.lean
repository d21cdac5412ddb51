import ErdDeploy.Text.CaseTable

/-!
Case: full lower-casing of a text, and comparison of a text with a lower-case keyword.

Lower-casing is by character with two exceptions: the dotted capital I becomes two characters,
and a capital sigma becomes a final sigma where it ends a word.
-/

namespace ErdDeploy.Text

/-- The capital sigma, the only letter whose lower case hangs on its neighbours. -/
def capitalSigma : Char := Char.ofNat 0x3A3

/-- Whether a character has a case and is looked at when a case context is read. -/
def isCased (c : Char) : Bool :=
  inRanges casedRanges c.toNat

/-- Whether a character is passed over when a case context is read. -/
def isCaseIgnorable (c : Char) : Bool :=
  inRanges caseIgnorableRanges c.toNat

/-- The lower case of one character, away from any context. -/
def lowerChar (c : Char) : List Char :=
  if c.toNat < 128 then [c.toLower]
  else if c.toNat = 0x130 then ['i', Char.ofNat 0x307]
  else
    match lowerCaseRuns.find? fun run => run.contains c.toNat with
    | some run => [Char.ofNat (Int.toNat (c.toNat + run.shift))]
    | none => [c]

/-- Whether the next character that is looked at has a case. -/
def startsCased (cs : List Char) : Bool :=
  match cs.find? fun c => !isCaseIgnorable c with
  | some c => isCased c
  | none => false

/-- Lower-case a text; `afterCased` says whether the last character looked at before it has a
case. -/
def lowerAfter (afterCased : Bool) : List Char → List Char
  | [] => []
  | c :: cs =>
    let lowered :=
      if c = capitalSigma then
        [Char.ofNat (if afterCased && !startsCased cs then 0x3C2 else 0x3C3)]
      else lowerChar c
    lowered ++ lowerAfter (if isCaseIgnorable c then afterCased else isCased c) cs

/-- The lower case of a text. -/
def lower (cs : List Char) : List Char :=
  lowerAfter false cs

/-- The lower case of a string. -/
def lowerString (s : String) : String :=
  String.ofList (lower s.toList)

/-! ## Keywords in any case -/

/-- Whether a character is the given lower-case ASCII letter up to case. Beside its two ASCII
forms, `i` has the dotted capital and the dotless small letter, `k` the Kelvin sign and `s` the
long s. -/
def isLetter (letter c : Char) : Bool :=
  c.toLower == letter ||
    (letter == 'i' && (c.toNat == 0x130 || c.toNat == 0x131)) ||
    (letter == 'k' && c.toNat == 0x212A) ||
    (letter == 's' && c.toNat == 0x17F)

/-- What follows a keyword that the text begins with, in any case. -/
def dropKeyword? : (keyword text : List Char) → Option (List Char)
  | [], text => some text
  | _ :: _, [] => none
  | letter :: letters, c :: cs =>
    if isLetter letter c then dropKeyword? letters cs else none

end ErdDeploy.Text
