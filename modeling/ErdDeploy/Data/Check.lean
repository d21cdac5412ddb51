import ErdDeploy.Data.OrderedMap
import ErdDeploy.Data.Value
import ErdDeploy.Number.IntegerText

/-!
Checking plain data against the shape of a type.

A check either yields a value or lists every issue it has with the data, each with the place
where it stands. Checks of the members of a record are combined so that the issues of all of
them come together in the order of the members.
-/

namespace ErdDeploy

/-- What can be wrong with a piece of data. -/
inductive IssueKind
  /-- A required member is absent. -/
  | missing
  | notText
  | notInteger
  /-- A text that does not write a whole number. -/
  | notIntegerText
  /-- A text or a number that is too large to be taken for a whole number. -/
  | integerTooLarge
  /-- A number with a fraction where a whole number is wanted. -/
  | hasFraction
  /-- A number that is not finite where a whole number is wanted. -/
  | notFinite
  | notBoolean
  /-- A text or number that does not stand for a truth value. -/
  | notBooleanText
  /-- A word outside a fixed set of words. -/
  | notMember
  /-- A word other than the only one allowed. -/
  | notLiteral
  | notTuple
  | notList
  | notMapping
  | notRecord
  /-- Data of which the variant cannot even be asked. -/
  | notVariantRecord
  /-- A record that does not say which variant it is. -/
  | variantMissing
  /-- A record that names no known variant. -/
  | variantUnknown
  /-- Well-typed data that breaks a rule of the domain. -/
  | ruleBroken
  deriving DecidableEq, Repr

/-- One thing wrong with a piece of data, and the names and positions that lead to it. -/
structure Issue where
  location : List String
  kind : IssueKind
  deriving DecidableEq, Repr

/-- A checked value, or what is wrong with the data. -/
inductive Checked (α : Type)
  | valid (value : α)
  | invalid (issues : List Issue)
  deriving DecidableEq, Repr

namespace Checked

variable {α β : Type}

/-- Reject data for one reason. -/
def reject (kind : IssueKind) : Checked α :=
  .invalid [⟨[], kind⟩]

/-- Apply a function to the value. -/
def map (f : α → β) : Checked α → Checked β
  | .valid value => .valid (f value)
  | .invalid issues => .invalid issues

/-- Combine two checks; the issues of both come together. -/
def apply (f : Checked (α → β)) (x : Unit → Checked α) : Checked β :=
  match f, x () with
  | .valid f, .valid value => .valid (f value)
  | .valid _, .invalid issues => .invalid issues
  | .invalid issues, .valid _ => .invalid issues
  | .invalid left, .invalid right => .invalid (left ++ right)

instance : Functor Checked where
  map := Checked.map

instance : Applicative Checked where
  pure := .valid
  seq := Checked.apply

/-- Go on with a check that needs the value. -/
def andThen (x : Checked α) (f : α → Checked β) : Checked β :=
  match x with
  | .valid value => f value
  | .invalid issues => .invalid issues

/-- Say where the data stood. -/
def under (place : String) : Checked α → Checked α
  | .valid value => .valid value
  | .invalid issues =>
    .invalid (issues.map fun issue => { issue with location := place :: issue.location })

end Checked

namespace Check

variable {α : Type}

/-! ## Single values -/

/-- A text. -/
def text : Value → Checked String
  | .text s => .valid s
  | _ => .reject .notText

/-- The result of reading a text that writes a whole number. -/
def ofIntegerText : Except IntegerText.Failure Int → Checked Int
  | .ok n => .valid n
  | .error .malformed => .reject .notIntegerText
  | .error .tooLong => .reject .integerTooLarge

/-- Whether a whole number fits into a word of 64 bits with a sign. -/
def fitsWord (n : Int) : Bool :=
  -9223372036854775808 ≤ n && n ≤ 9223372036854775807

/-- The whole number that a floating point number is. The bounds of a word are too large
themselves: as floating point numbers they stand for all numbers that round to them. -/
def wordOfFloat? (x : Binary64) : Option Int :=
  x.toInt?.filter fun n => n.natAbs < 9223372036854775808

/-- A whole number from a floating point number. -/
def integerOfFloat (x : Binary64) : Checked Int :=
  match x, x.toInt? with
  | .finite .., none => .reject .hasFraction
  | _, none => .reject .notFinite
  | _, some _ =>
    match wordOfFloat? x with
    | some n => .valid n
    | none => .reject .integerTooLarge

/-- A whole number. Truth values count as zero and one, and a number without a fraction and a
text that writes a whole number are taken for it. -/
def integer : Value → Checked Int
  | .int n => .valid n
  | .bool b => .valid (if b then 1 else 0)
  | .float x => integerOfFloat x
  | .text s => ofIntegerText (IntegerText.read s.toList)
  | _ => .reject .notInteger

/-- The words for truth values. -/
def booleanWords : List (String × Bool) :=
  [("true", true), ("t", true), ("yes", true), ("y", true), ("on", true), ("1", true),
    ("false", false), ("f", false), ("no", false), ("n", false), ("off", false),
    ("0", false)]

/-- The truth value that a whole number stands for. -/
def booleanOfInt (n : Int) : Checked Bool :=
  if n = 0 then .valid false
  else if n = 1 then .valid true
  else if fitsWord n then .reject .notBooleanText
  else .reject .notBoolean

/-- A truth value, or one of the words and numbers that stand for one. -/
def boolean : Value → Checked Bool
  | .bool b => .valid b
  | .int n => booleanOfInt n
  | .float x =>
    match wordOfFloat? x with
    | some n => booleanOfInt n
    | none => .reject .notBoolean
  | .text s =>
    match booleanWords.lookup (String.ofList (s.toList.map Char.toLower)) with
    | some b => .valid b
    | none => .reject .notBooleanText
  | _ => .reject .notBoolean

/-- A word of a fixed set, read by a function that knows the set. -/
def member (ofWord? : String → Option α) : Value → Checked α
  | .text s =>
    match ofWord? s with
    | some found => .valid found
    | none => .reject .notMember
  | _ => .reject .notMember

/-- Nothing, or data that passes a check. -/
def nullable (check : Value → Checked α) : Value → Checked (Option α)
  | .null => .valid none
  | value => (check value).map some

/-! ## Collections -/

/-- Check items one by one, from a position on. -/
def items (check : Value → Checked α) : (position : Nat) → List Value → Checked (List α)
  | _, [] => .valid []
  | position, value :: values =>
    List.cons <$> (check value).under (toString position) <*> items check (position + 1) values

/-- A list. -/
def list (check : Value → Checked α) : Value → Checked (List α)
  | .list values => items check 0 values
  | _ => .reject .notList

/-- A tuple of any length. -/
def tuple (check : Value → Checked α) : Value → Checked (List α)
  | .list values => items check 0 values
  | _ => .reject .notTuple

/-- Check the values of a mapping one by one. -/
def entries (check : Value → Checked α) :
    List (String × Value) → Checked (List (String × α))
  | [] => .valid []
  | (name, value) :: rest =>
    (fun value rest => (name, value) :: rest) <$> (check value).under name <*>
      entries check rest

/-- A mapping from names. -/
def mapping (check : Value → Checked α) : Value → Checked (OrderedMap α)
  | .record members => (entries check members).map .ofList
  | _ => .reject .notMapping

/-! ## Records -/

/-- The members of a record. -/
abbrev Members := List (String × Value)

/-- A record, checked by its members. -/
def record (check : Members → Checked α) : Value → Checked α
  | .record members => check members
  | _ => .reject .notRecord

/-- A member that has to be there. -/
def required (members : Members) (name : String) (check : Value → Checked α) : Checked α :=
  match members.lookup name with
  | some value => (check value).under name
  | none => (Checked.reject .missing).under name

/-- A member that may be absent. -/
def allowed (members : Members) (name : String) (absent : α) (check : Value → Checked α) :
    Checked α :=
  match members.lookup name with
  | some value => (check value).under name
  | none => .valid absent

/-- The one word that a member may have, if it is there. -/
def literal (members : Members) (name word : String) : Checked Unit :=
  allowed members name () fun value =>
    match value with
    | .text s => if s = word then .valid () else .reject .notLiteral
    | _ => .reject .notLiteral

end Check

end ErdDeploy
