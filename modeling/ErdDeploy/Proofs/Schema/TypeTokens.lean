import ErdDeploy.Proofs.Text.Words
import ErdDeploy.Schema.ColumnType

/-!
What a type token says, and when its length cannot be read.

A token applies a name to arguments if it is the name, perhaps blanks, and the arguments
in parentheses (`TypeToken.Applies`). Only the first argument of a type that takes a
length is read as a number, and only if every character of it shows a digit. Such a
numeral is refused if it is too long, or if one of its digits has no place value
(`Text.Unreadable`); everything else is read (`TypeToken.read_eq_error_iff`).
-/

namespace ErdDeploy

/-- A result fails after it was mapped exactly if it failed before. -/
theorem map_eq_error_iff {ε α β : Type} {f : α → β} {result : Except ε α} {cause : ε} :
    result.map f = .error cause ↔ result = .error cause := by
  cases result with
  | ok value => simp [Except.map]
  | error other => simp [Except.map]

namespace Text

/-! ## Numerals -/

/-- Whether a character has a place value. -/
def hasPlaceValue (c : Char) : Bool :=
  (decimalValue? c).isSome

/-- Why a numeral is not read. Its length is judged on the digits in front of the first one that
has no place value. -/
inductive Unreadable (digits : List Char) : NumeralError → Prop
  | tooLong : longestNumeral < (digits.takeWhile hasPlaceValue).length →
    Unreadable digits (.tooLong (digits.takeWhile hasPlaceValue).length)
  | noPlaceValue : (digits.takeWhile hasPlaceValue).length ≤ longestNumeral →
    (∃ c ∈ digits, decimalValue? c = none) → Unreadable digits (.noPlaceValue digits)

theorem length_leadingPlaceValues (digits : List Char) :
    (leadingPlaceValues digits).length = (digits.takeWhile hasPlaceValue).length := by
  induction digits with
  | nil => rfl
  | cons c digits ih =>
      rw [leadingPlaceValues]
      cases value : decimalValue? c with
      | some n =>
          rw [List.takeWhile_cons_of_pos (by rw [hasPlaceValue, value]; rfl), List.length_cons,
            List.length_cons, ih]
      | none =>
          rw [List.takeWhile_cons_of_neg (by rw [hasPlaceValue, value]; exact Bool.false_ne_true)]
          rfl

/-- Fewer digits lead than there are exactly if one of them has no place value. -/
theorem length_takeWhile_hasPlaceValue_lt_iff {digits : List Char} :
    (digits.takeWhile hasPlaceValue).length < digits.length ↔
      ∃ c ∈ digits, decimalValue? c = none := by
  have whole : (digits.takeWhile hasPlaceValue).length = digits.length ↔
      ∀ c ∈ digits, hasPlaceValue c = true := by
    rw [← List.takeWhile_eq_self_iff]
    exact ⟨(List.takeWhile_prefix _).eq_of_length, congrArg List.length⟩
  have short := (List.takeWhile_prefix hasPlaceValue (l := digits)).length_le
  rw [lt_iff_le_and_ne, and_iff_right short, ne_eq, whole]
  simp [hasPlaceValue]

/-- Digits are refused exactly if they are unreadable. -/
theorem readNumeral_eq_error_iff {digits : List Char} {cause : NumeralError}
    (some : digits ≠ []) : readNumeral digits = .error cause ↔ Unreadable digits cause := by
  have filled : digits.isEmpty = false := by simpa using some
  simp only [readNumeral, length_leadingPlaceValues, filled, Bool.or_false, decide_eq_true_eq]
  split
  · next long =>
    constructor
    · rintro ⟨⟩
      exact .tooLong long
    · rintro (- | ⟨short, -⟩)
      · rfl
      · omega
  · next fits =>
    split
    · next fewer =>
      constructor
      · rintro ⟨⟩
        exact .noPlaceValue (by omega) (length_takeWhile_hasPlaceValue_lt_iff.mp fewer)
      · rintro (long | -)
        · omega
        · rfl
    · next all =>
      constructor
      · rintro ⟨⟩
      · rintro (long | ⟨-, odd⟩)
        · omega
        · exact absurd (length_takeWhile_hasPlaceValue_lt_iff.mpr odd) all

end Text

theorem ColumnType.hasLength_iff {type : ColumnType} :
    type.hasLength = true ↔ type = .string ∨ type = .identifier := by
  cases type <;> simp [hasLength]

namespace TypeToken

/-! ## The shape of a token -/

/-- A token is a name with arguments in parentheses behind it. -/
structure Applies (token name arguments : List Char) : Prop where
  shape : ∃ gap, Text.AllBlank gap ∧
    Text.trim token = name ++ (gap ++ '(' :: (arguments ++ [')']))
  name_ne_nil : name ≠ []
  isNameChar : ∀ c ∈ name, isNameChar c = true
  closed : ')' ∉ arguments

theorem isNameChar_of_isBlank {c : Char} (blank : Text.isBlank c = true) :
    isNameChar c = false := by
  have noPoint : c ≠ '.' := by
    rintro rfl
    revert blank
    decide
  rw [TypeToken.isNameChar, Text.isWord_of_isBlank blank, Bool.false_or]
  simpa using noPoint

/-- A name ends where blanks or a parenthesis begin. -/
theorem name_span {name gap : List Char} (named : ∀ c ∈ name, isNameChar c = true)
    (blank : Text.AllBlank gap) (rest : List Char) :
    (name ++ (gap ++ '(' :: rest)).takeWhile isNameChar = name ∧
      (name ++ (gap ++ '(' :: rest)).dropWhile isNameChar = gap ++ '(' :: rest := by
  have stop : isNameChar '(' = false := by decide +kernel
  have ends : (gap ++ '(' :: rest).takeWhile isNameChar = [] ∧
      (gap ++ '(' :: rest).dropWhile isNameChar = gap ++ '(' :: rest := by
    cases gap with
    | nil => simp [stop]
    | cons c gap =>
        have other := isNameChar_of_isBlank (blank c List.mem_cons_self)
        simp [other]
  rw [List.takeWhile_append_of_pos named, List.dropWhile_append_of_pos named, ends.1, ends.2,
    List.append_nil]
  exact ⟨rfl, rfl⟩

/-- Tokens are split as they are written. -/
theorem split?_eq_some_iff {token name arguments : List Char} :
    split? (Text.trim token) = some (name, some arguments) ↔ Applies token name arguments := by
  constructor
  · intro found
    unfold split? at found
    simp only at found
    split at found
    · cases found
    · next some =>
      split at found
      · cases found
      · next inner opened =>
        split at found
        · next last closing =>
          cases found
          have close : last = ')' := by
            have stops := List.head_dropWhile_not (· != ')') (l := inner) (by rw [closing]; simp)
            simpa [closing] using stops
          refine ⟨⟨((Text.trim token).dropWhile isNameChar).takeWhile Text.isBlank,
            fun c member => List.mem_takeWhile_imp member, ?_⟩, ?_,
            fun c member => List.mem_takeWhile_imp member, ?_⟩
          · subst close
            rw [← closing, List.takeWhile_append_dropWhile, ← opened,
              List.takeWhile_append_dropWhile, List.takeWhile_append_dropWhile]
          · simpa using some
          · intro member
            simpa using List.mem_takeWhile_imp member
        · cases found
      · cases found
  · rintro ⟨⟨gap, blank, shape⟩, some, named, closed⟩
    have outer := name_span named blank (arguments ++ [')'])
    have stop : Text.isBlank '(' = false := by decide
    have inside : ∀ c ∈ arguments, (c != ')') = true := by
      intro c member
      simpa using fun same : c = ')' => closed (same ▸ member)
    rw [shape, split?]
    simp only [outer.1, outer.2, List.dropWhile_append_of_pos blank]
    rw [List.dropWhile_cons_of_neg (by simp [stop])]
    simp only [List.dropWhile_append_of_pos inside, List.takeWhile_append_of_pos inside]
    simp [some]

/-! ## Reading a token -/

/-- The argument that may be a length. -/
def lengthArgument (arguments : List Char) : List Char :=
  Text.trim (arguments.takeWhile (· != ','))

/-- A token is refused for a cause: it applies a type that takes a length to digits that are not
read as a number. -/
def Refused (token : List Char) (cause : Text.NumeralError) : Prop :=
  ∃ name arguments, Applies token name arguments ∧ (ColumnType.ofName name).hasLength = true ∧
    lengthArgument arguments ≠ [] ∧ (∀ c ∈ lengthArgument arguments, Text.isDigitLike c = true) ∧
    Text.Unreadable (lengthArgument arguments) cause

theorem length?_eq_error_iff {arguments : List Char} {cause : Text.NumeralError} :
    length? arguments = .error cause ↔ lengthArgument arguments ≠ [] ∧
      (∀ c ∈ lengthArgument arguments, Text.isDigitLike c = true) ∧
      Text.Unreadable (lengthArgument arguments) cause := by
  change (if (!(lengthArgument arguments).isEmpty &&
    (lengthArgument arguments).all Text.isDigitLike) = true then _ else _) = _ ↔ _
  split
  · next digits =>
    rw [Bool.and_eq_true, Bool.not_eq_true', List.isEmpty_eq_false_iff, List.all_eq_true] at digits
    rw [← Text.readNumeral_eq_error_iff digits.1]
    rw [← lengthArgument]
    cases Text.readNumeral (lengthArgument arguments) with
    | ok n =>
        constructor
        · rintro ⟨⟩
        · rintro ⟨-, -, ⟨⟩⟩
    | error other =>
        constructor
        · rintro ⟨⟩
          exact ⟨digits.1, digits.2, rfl⟩
        · rintro ⟨-, -, ⟨⟩⟩
          rfl
  · next other =>
    rw [Bool.and_eq_true, Bool.not_eq_true', List.isEmpty_eq_false_iff, List.all_eq_true] at other
    constructor
    · rintro ⟨⟩
    · rintro ⟨some, digits, -⟩
      exact absurd ⟨some, digits⟩ other

/-- A token is not read exactly if it is refused. -/
theorem read_eq_error_iff {token : List Char} {cause : Text.NumeralError} :
    read token = .error cause ↔ Refused token cause := by
  simp only [Refused, ← split?_eq_some_iff, read]
  cases split? (Text.trim token) with
  | none => simp
  | some parts =>
      obtain ⟨name, _ | arguments⟩ := parts
      · simp
      · simp only [Option.some.injEq, Prod.mk.injEq]
        split
        · next takes =>
          rw [map_eq_error_iff, length?_eq_error_iff]
          constructor
          · intro refused
            exact ⟨name, arguments, ⟨rfl, rfl⟩, takes, refused⟩
          · rintro ⟨_, _, ⟨rfl, rfl⟩, -, refused⟩
            exact refused
        · next without =>
          constructor
          · rintro ⟨⟩
          · rintro ⟨_, _, ⟨rfl, rfl⟩, takes, -⟩
            exact absurd takes without

/-- Only a type that takes a length is read with one. -/
theorem hasLength_of_read {token : List Char} {type : ColumnType} {length : Int}
    (found : read token = .ok (type, some length)) : type.hasLength = true := by
  unfold read at found
  split at found
  · cases found
  · next name arguments shape =>
    simp only at found
    split at found
    · cases found
    · split at found
      · next takes =>
        generalize length? _ = outcome at found
        cases outcome with
        | error cause => cases found
        | ok declared =>
            cases found
            exact takes
      · cases found

theorem nonneg_of_length? {arguments : List Char} {length : Int}
    (given : length? arguments = .ok (some length)) : 0 ≤ length := by
  unfold length? at given
  simp only at given
  split at given
  · generalize Text.readNumeral _ = numeral at given
    cases numeral with
    | error cause => cases given
    | ok n =>
        cases given
        exact Int.natCast_nonneg n
  · cases given

/-- A length is read from digits, so that it is not negative. -/
theorem nonneg_of_read {token : List Char} {type : ColumnType} {length : Int}
    (found : read token = .ok (type, some length)) : 0 ≤ length := by
  unfold read at found
  split at found
  · cases found
  · next name arguments shape =>
    simp only at found
    split at found
    · cases found
    · split at found
      · next arguments takes =>
        rcases given : length? arguments with cause | declared
        · rw [given] at found
          cases found
        · rw [given] at found
          cases found
          exact nonneg_of_length? given
      · cases found

end TypeToken

end ErdDeploy
