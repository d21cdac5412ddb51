import ErdDeploy.Proofs.Source.EnumValue
import ErdDeploy.Proofs.Source.Parts
import ErdDeploy.Proofs.Text.Blank
import ErdDeploy.Proofs.Text.Lines
import ErdDeploy.Proofs.Text.Words

/-!
Writing statements down.

A `Statement` is an enum, a table or a reference without a place in a source. Written down
(`Statement.written`) it takes one line or, if it is a block, a line for its header, one
for each line of its body, and one for the closing brace. `Extract.ofText_written`: reading
the written statements gives them back, in their order and with the numbers of their lines,
and nothing is reported.

From a new statement, the reader takes exactly the lines of a written statement, finds it,
and is at a new statement again (`Statement.run_written`), so the whole source is read by
induction on the statements.
-/

namespace ErdDeploy

/-- A statement without a place in a source. -/
inductive Statement
  | enum (name : String) (values : List String)
  | table (name : String) (lines : List (List Char))
  | reference (fromTable fromField : String) (direction : Direction) (toTable toField : String)
  deriving DecidableEq, Repr

namespace Statement

/-! ## Written statements -/

def headerLine (kind : BlockKind) (name : String) : List Char :=
  kind.title.toList ++ ' ' :: (name.toList ++ [' ', '\x7b'])

def quoted (name : String) : List Char :=
  '"' :: (name.toList ++ ['"'])

def referenceLine (fromTable fromField : String) (direction : Direction)
    (toTable toField : String) : List Char :=
  ['R', 'e', 'f', ':', ' '] ++ (quoted fromTable ++ '.' :: quoted fromField) ++
    ' ' :: (direction.glyph.toList ++ ' ' :: (quoted toTable ++ '.' :: quoted toField))

/-- A block with one line of its body below the other. -/
def block (header : List Char) (body : List (List Char)) : List (List Char) :=
  header :: (body ++ [['\x7d']])

/-- The lines of a statement. -/
def written : Statement → List (List Char)
  | enum name values => block (headerLine .enum name) (values.map String.toList)
  | table name lines => block (headerLine .table name) lines
  | reference fromTable fromField direction toTable toField =>
    [referenceLine fromTable fromField direction toTable toField]

/-- The text has no braces, and no line breaks in it. -/
def IsPlain (text : List Char) : Prop :=
  '\x7b' ∉ text ∧ '\x7d' ∉ text ∧ Text.IsUnbroken text

/-- The text may stand on a line of a body: it is plain, and neither blank nor a comment. -/
def FitsBody (text : List Char) : Prop :=
  IsPlain text ∧ Text.trim text ≠ [] ∧ SourceLine.isComment (Text.trim text) = false

/-- The text is a value as it is read: nothing is cleaned away. -/
def IsValue (value : List Char) : Prop :=
  IsPlain value ∧ value ≠ [] ∧ SourceLine.isComment value = false ∧
    EnumValue.clean value = value

/-- The names are words, the values of an enum are distinct values, and the lines of a table fit
into its body. -/
def Proper : Statement → Prop
  | enum name values =>
    Text.IsWord name.toList ∧ values.Nodup ∧ ∀ value ∈ values, IsValue value.toList
  | table name lines => Text.IsWord name.toList ∧ ∀ line ∈ lines, FitsBody line
  | reference fromTable fromField _ toTable toField =>
    Text.IsWord fromTable.toList ∧ Text.IsWord fromField.toList ∧ Text.IsWord toTable.toList ∧
      Text.IsWord toField.toList

instance {text : List Char} : Decidable (IsPlain text) :=
  inferInstanceAs (Decidable (_ ∧ _))

instance {text : List Char} : Decidable (FitsBody text) :=
  inferInstanceAs (Decidable (_ ∧ _))

instance {value : List Char} : Decidable (IsValue value) :=
  inferInstanceAs (Decidable (_ ∧ _))

instance : (statement : Statement) → Decidable statement.Proper
  | enum _ _ => inferInstanceAs (Decidable (_ ∧ _))
  | table _ _ => inferInstanceAs (Decidable (_ ∧ _))
  | reference .. => inferInstanceAs (Decidable (_ ∧ _))

/-! ## Statements in a source -/

/-- Statements that are written one below the other, with the numbers of the lines that they begin
on. -/
def placed (number : Int) : List Statement → List (Int × Statement)
  | [] => []
  | statement :: rest =>
    (number, statement) :: placed (number + statement.written.length) rest

/-- The statement as it is found on a line. -/
def found : Int × Statement → Finding
  | (number, enum name values) => .enum ⟨name, values, number⟩
  | (number, table name lines) => .table ⟨name, SourceLine.numbered (number + 1) lines, number⟩
  | (number, reference fromTable fromField direction toTable toField) =>
    .reference ⟨fromTable, fromField, direction, toTable, toField, number⟩

open Text

/-! ## Headers -/

section

variable {name : String} (kind : BlockKind)

theorem trim_headerLine (name : String) : trim (headerLine kind name) = headerLine kind name := by
  refine trim_eq_self ?_ ?_
  · cases kind <;> rfl
  · simp [headerLine, show isBlank '\x7b' = false by decide]

theorem keywordOf_headerLine (name : String) :
    Mode.keywordOf (headerLine kind name) = .block := by
  have word : firstWord (headerLine kind name) = kind.title.toList := by
    cases kind <;> rfl
  rw [Mode.keywordOf, word]
  cases kind <;> decide +kernel

theorem name?_word (word : IsWord name.toList) (rest : List Char) :
    Header.name? (name.toList ++ ' ' :: rest) = some name := by
  have leading : Header.leadingWord? (name.toList ++ ' ' :: rest) = some name := by
    rw [Header.leadingWord?, word.takeWhile_eq rest (by decide)]
    split
    · next none => exact absurd none word.1
    · rw [String.ofList_toList]
  obtain ⟨c, tail, text⟩ := List.exists_cons_of_ne_nil word.1
  have unquoted : Header.isQuote c = false := by
    have member : c ∈ name.toList := by
      rw [text]
      exact List.mem_cons_self
    have others : ∀ mark, isWord mark = false → c ≠ mark := by
      rintro mark other rfl
      exact word.not_mem other member
    simp [Header.isQuote, others '"' (by decide), others '\x27' (by decide),
      others '\x60' (by decide)]
  rw [text, List.cons_append] at leading ⊢
  rw [Header.name?, if_neg (by simp [unquoted]), leading]

theorem read?_headerLine (word : IsWord name.toList) :
    Header.read? (headerLine kind name) = some ⟨kind, some name, some []⟩ := by
  have named : Header.name? ((' ' :: (name.toList ++ [' ', '\x7b'])).dropWhile isBlank) =
      some name := by
    rw [List.dropWhile_cons_of_pos (by decide), word.dropWhile_isBlank, name?_word word]
  have brace : Header.afterBrace? (' ' :: (name.toList ++ [' ', '\x7b'])) = some [] := by
    have before : ∀ c ∈ ' ' :: (name.toList ++ [' ']), (c != '\x7b') = true := by
      intro c member
      have other : c ≠ '\x7b' := by
        rintro rfl
        have inside : '\x7b' ∈ name.toList := by simpa using member
        exact word.not_mem (by decide) inside
      simpa using other
    have split : ' ' :: (name.toList ++ [' ', '\x7b']) =
        ' ' :: (name.toList ++ [' ']) ++ ['\x7b'] := by
      simp
    rw [Header.afterBrace?, split, List.dropWhile_append_of_pos before]
    rfl
  cases kind with
  | enum =>
      have keyword : Header.afterKeyword? .enum (headerLine .enum name) =
          some (' ' :: (name.toList ++ [' ', '\x7b'])) := by
        rfl
      rw [Header.read?, keyword]
      simp only
      rw [named, brace]
  | table =>
      have other : Header.afterKeyword? .enum (headerLine .table name) = none := by
        rfl
      have keyword : Header.afterKeyword? .table (headerLine .table name) =
          some (' ' :: (name.toList ++ [' ', '\x7b'])) := by
        rfl
      rw [Header.read?, other, keyword]
      simp only
      rw [named, brace]

end

/-! ## References -/

section

variable {name : String}

theorem quotedWord?_quoted (word : IsWord name.toList) (rest : List Char) :
    ReferenceShape.quotedWord? (quoted name ++ rest) = some (name, rest) := by
  have read : ReferenceShape.word? (name.toList ++ '"' :: rest) = some (name, '"' :: rest) := by
    rw [ReferenceShape.word?, word.takeWhile_eq rest (by decide),
      word.dropWhile_eq rest (by decide)]
    split
    · next none => exact absurd none word.1
    · rw [String.ofList_toList]
  have text : ReferenceShape.skipQuote (quoted name ++ rest) = name.toList ++ '"' :: rest := by
    simp [quoted, ReferenceShape.skipQuote]
  rw [ReferenceShape.quotedWord?, text, read]
  rfl

theorem endpoint?_quoted {table field : String} (isTable : IsWord table.toList)
    (isField : IsWord field.toList) (rest : List Char) :
    ReferenceShape.endpoint? (' ' :: (quoted table ++ '.' :: quoted field) ++ rest) =
      some ((table, field), rest) := by
  have front : (' ' :: (quoted table ++ '.' :: quoted field) ++ rest).dropWhile isBlank =
      quoted table ++ '.' :: (quoted field ++ rest) := by
    simp [quoted, List.dropWhile, show isBlank ' ' = true by decide,
      show isBlank '"' = false by decide]
  have behind : (quoted field ++ rest).dropWhile isBlank = quoted field ++ rest := by
    rfl
  have point : ('.' :: (quoted field ++ rest)).dropWhile isBlank =
      '.' :: (quoted field ++ rest) := by
    rfl
  simp only [ReferenceShape.endpoint?, front, quotedWord?_quoted isTable, point,
    ReferenceShape.expect?, if_pos, behind, quotedWord?_quoted isField, Option.bind_eq_bind,
    Option.bind_some, Option.pure_def]

theorem trim_referenceLine (fromTable fromField : String) (direction : Direction)
    (toTable toField : String) :
    trim (referenceLine fromTable fromField direction toTable toField) =
      referenceLine fromTable fromField direction toTable toField := by
  refine trim_eq_self rfl ?_
  simp [referenceLine, quoted, show isBlank '"' = false by decide]

theorem keywordOf_referenceLine (fromTable fromField : String) (direction : Direction)
    (toTable toField : String) :
    Mode.keywordOf (referenceLine fromTable fromField direction toTable toField) = .reference := by
  have word : firstWord (referenceLine fromTable fromField direction toTable toField) =
      ['R', 'e', 'f', ':'] := rfl
  rw [Mode.keywordOf, word]
  decide +kernel

theorem read?_referenceLine {fromTable fromField toTable toField : String} (direction : Direction)
    (isFromTable : IsWord fromTable.toList) (isFromField : IsWord fromField.toList)
    (isToTable : IsWord toTable.toList) (isToField : IsWord toField.toList) :
    ∃ offset, ReferenceShape.read?
      (referenceLine fromTable fromField direction toTable toField) =
        some ⟨fromTable, fromField, direction.glyph, offset, toTable, toField⟩ := by
  have target := endpoint?_quoted isToTable isToField []
  rw [List.append_nil] at target
  have source := endpoint?_quoted isFromTable isFromField
    (' ' :: (direction.glyph.toList ++ ' ' :: (quoted toTable ++ '.' :: quoted toField)))
  -- No name stands between the keyword and the colon, so everything up to it can be computed.
  have colon : (Text.dropKeyword? ['r', 'e', 'f']
      (referenceLine fromTable fromField direction toTable toField)).bind (fun afterKeyword =>
        ReferenceShape.expect? ':'
          ((ReferenceShape.skipName afterKeyword).dropWhile isBlank)) =
      some (' ' :: (quoted fromTable ++ '.' :: quoted fromField) ++
        ' ' :: (direction.glyph.toList ++ ' ' :: (quoted toTable ++ '.' :: quoted toField))) := by
    rfl
  have glyph : ReferenceShape.glyph? ((' ' :: (direction.glyph.toList ++
      ' ' :: (quoted toTable ++ '.' :: quoted toField))).dropWhile isBlank) =
      some (direction.glyph, ' ' :: (quoted toTable ++ '.' :: quoted toField)) := by
    cases direction <;> rfl
  refine ⟨(referenceLine fromTable fromField direction toTable toField).length -
    ((' ' :: (direction.glyph.toList ++
      ' ' :: (quoted toTable ++ '.' :: quoted toField))).dropWhile isBlank).length, ?_⟩
  simp only [ReferenceShape.read?, Option.bind_eq_bind]
  rw [← Option.bind_assoc, colon, Option.bind_some, source, Option.bind_some, glyph,
    Option.bind_some, target]
  rfl

theorem referenceFinding_referenceLine {fromTable fromField toTable toField : String}
    (direction : Direction) (number : Int) (isFromTable : IsWord fromTable.toList)
    (isFromField : IsWord fromField.toList) (isToTable : IsWord toTable.toList)
    (isToField : IsWord toField.toList) :
    Mode.referenceFinding
        ⟨number, referenceLine fromTable fromField direction toTable toField⟩ =
      .reference ⟨fromTable, fromField, direction, toTable, toField, number⟩ := by
  obtain ⟨offset, read⟩ :=
    read?_referenceLine direction isFromTable isFromField isToTable isToField
  have meaning := Direction.ofGlyph?_eq_some_iff.mpr (rfl : direction.glyph = direction.glyph)
  rw [Mode.referenceFinding, trim_referenceLine, read]
  simp only [ReferenceShape.toReference?, meaning, Option.map_some]

end

/-! ## Bodies -/

theorem IsValue.fitsBody {value : List Char} (isValue : IsValue value) : FitsBody value := by
  obtain ⟨plain, some, speaks, clean⟩ := isValue
  have trimmed : trim value = value :=
    strip_eq_self_iff.mpr (EnumValue.clean_eq_self_iff.mp clean).visible
  rw [FitsBody, trimmed]
  exact ⟨plain, some, speaks⟩

theorem fitsBody_values {values : List String} (isValue : ∀ value ∈ values, IsValue value.toList) :
    ∀ line ∈ values.map String.toList, FitsBody line :=
  List.forall_mem_map.mpr fun value member => (isValue value member).fitsBody

section

variable {number : Int} {lines : List (List Char)}

theorem linesOf_numbered (fits : ∀ line ∈ lines, FitsBody line) :
    TableBlock.linesOf (SourceLine.numbered number lines) = SourceLine.numbered number lines := by
  induction lines generalizing number with
  | nil => rfl
  | cons line lines ih =>
      have fits := List.forall_mem_cons.mp fits
      have speaks : SourceLine.isIdle ⟨number, line⟩ = false := by
        simp [SourceLine.isIdle, fits.1.2.1, fits.1.2.2]
      rw [SourceLine.numbered, TableBlock.linesOf, List.filter_cons_of_pos (by simp [speaks])]
      exact congrArg _ (ih fits.2)

/-- Values that are new are added one by one. -/
theorem collect_values {values known : List String} (distinct : (known ++ values).Nodup)
    (isValue : ∀ value ∈ values, IsValue value.toList) :
    (SourceLine.numbered number (values.map String.toList)).foldl
      (fun values line => EnumValue.addNew values (EnumValue.clean line.text)) known =
        known ++ values := by
  induction values generalizing known number with
  | nil => exact (List.append_nil _).symm
  | cons value rest ih =>
      have isValue := List.forall_mem_cons.mp isValue
      obtain ⟨-, some, -, clean⟩ := isValue.1
      have notEmpty : value ≠ "" := by
        rintro rfl
        exact some rfl
      have notKnown : value ∉ known := fun member =>
        (List.nodup_append.mp distinct).2.2 value member value List.mem_cons_self rfl
      have new : EnumValue.addNew known value.toList = known ++ [value] := by
        simp [EnumValue.addNew, notEmpty, notKnown]
      rw [List.map_cons, SourceLine.numbered, List.foldl_cons, clean, new,
        ih (by simpa using distinct) isValue.2, List.append_assoc, List.singleton_append]

theorem valuesOf_numbered {values : List String} (distinct : values.Nodup)
    (isValue : ∀ value ∈ values, IsValue value.toList) :
    EnumBlock.valuesOf (SourceLine.numbered number (values.map String.toList)) = values := by
  change (TableBlock.linesOf _).foldl _ [] = values
  rw [linesOf_numbered (fitsBody_values isValue), collect_values _ isValue, List.nil_append]
  rwa [List.nil_append]

variable {block : OpenBlock} {kept : List SourceLine}

/-- The lines of a body are kept one by one. -/
theorem run_body (fits : ∀ line ∈ lines, FitsBody line) (rest : List SourceLine) :
    Mode.run (.body block 1 kept) (SourceLine.numbered number lines ++ rest) =
      Mode.run (.body block 1 (kept ++ SourceLine.numbered number lines)) rest := by
  induction lines generalizing kept number with
  | nil => rw [SourceLine.numbered, List.nil_append, List.append_nil]
  | cons line lines ih =>
      have fits := List.forall_mem_cons.mp fits
      have opens : SourceLine.opens ⟨number, line⟩ = 0 := List.count_eq_zero.mpr fits.1.1.1
      have closes : SourceLine.closes ⟨number, line⟩ = 0 := List.count_eq_zero.mpr fits.1.1.2.1
      have step : Mode.step (.body block 1 kept) ⟨number, line⟩ =
          (.body block 1 (kept ++ [⟨number, line⟩]), []) := by
        simp [Mode.step, Mode.bodyStep, opens, closes]
      rw [SourceLine.numbered, List.cons_append, Mode.run, step, ih fits.2, List.nil_append,
        List.append_assoc, List.singleton_append]

/-- From a new statement, a written block is read to its end. -/
theorem run_block {kind : BlockKind} {name : String} (word : IsWord name.toList)
    (fits : ∀ line ∈ lines, FitsBody line) (rest : List SourceLine) :
    Mode.run .statement
        (SourceLine.numbered number (Statement.block (headerLine kind name) lines) ++ rest) =
      (OpenBlock.ofHeader ⟨number, headerLine kind name⟩ ⟨kind, some name, some []⟩).close
          (SourceLine.numbered (number + 1) lines) ::
        Mode.run .statement rest := by
  have speaks : SourceLine.isIdle ⟨number, headerLine kind name⟩ = false := by
    rw [SourceLine.isIdle, trim_headerLine]
    cases kind <;> rfl
  have opened : Mode.step .statement ⟨number, headerLine kind name⟩ =
      (.body (.ofHeader ⟨number, headerLine kind name⟩ ⟨kind, some name, some []⟩) 1 [], []) := by
    rw [Mode.step, Mode.statementStep, if_neg (by simp [speaks])]
    simp only
    rw [trim_headerLine, keywordOf_headerLine]
    simp only [Mode.blockStep]
    rw [trim_headerLine, read?_headerLine kind word]
    rfl
  have closed : ∀ {block : OpenBlock} {kept : List SourceLine} {number : Int},
      Mode.run (.body block 1 kept) (⟨number, ['\x7d']⟩ :: rest) =
        block.close kept :: Mode.run .statement rest := rfl
  rw [Statement.block, SourceLine.numbered, SourceLine.numbered_append, List.cons_append,
    Mode.run, opened, List.nil_append, List.append_assoc, run_body fits, List.nil_append]
  exact closed

end

/-! ## Sources -/

/-- From a new statement, the reader takes a written statement and is at a new statement again. -/
theorem run_written {statement : Statement} (proper : statement.Proper) (number : Int)
    (rest : List SourceLine) :
    Mode.run .statement (SourceLine.numbered number statement.written ++ rest) =
      found (number, statement) :: Mode.run .statement rest := by
  cases statement with
  | enum name values =>
      obtain ⟨word, distinct, isValue⟩ := proper
      rw [written, run_block word (fitsBody_values isValue), OpenBlock.close]
      simp only [OpenBlock.ofHeader, valuesOf_numbered distinct isValue, found]
  | table name lines =>
      obtain ⟨word, fits⟩ := proper
      rw [written, run_block word fits, OpenBlock.close]
      simp only [OpenBlock.ofHeader, linesOf_numbered fits, found]
  | reference fromTable fromField direction toTable toField =>
      obtain ⟨isFromTable, isFromField, isToTable, isToField⟩ := proper
      have speaks : SourceLine.isIdle
          ⟨number, referenceLine fromTable fromField direction toTable toField⟩ = false := by
        rw [SourceLine.isIdle, trim_referenceLine]
        rfl
      have step : Mode.step .statement
          ⟨number, referenceLine fromTable fromField direction toTable toField⟩ =
            (.statement,
              [.reference ⟨fromTable, fromField, direction, toTable, toField, number⟩]) := by
        rw [Mode.step, Mode.statementStep, if_neg (by simp [speaks])]
        simp only
        rw [trim_referenceLine, keywordOf_referenceLine]
        simp only
        rw [referenceFinding_referenceLine direction number isFromTable isFromField isToTable
          isToField]
      rw [written, SourceLine.numbered, List.cons_append, Mode.run, step]
      rfl

variable {statements : List Statement}

theorem findings_written (proper : ∀ statement ∈ statements, statement.Proper) (number : Int) :
    Mode.run .statement (SourceLine.numbered number (statements.flatMap written)) =
      (placed number statements).map found := by
  induction statements generalizing number with
  | nil => rfl
  | cons statement rest ih =>
      have proper := List.forall_mem_cons.mp proper
      rw [List.flatMap_cons, SourceLine.numbered_append, run_written proper.1, ih proper.2,
        placed, List.map_cons]

/-! ## Texts -/

theorem unbroken_quoted {name : String} (word : IsWord name.toList) : IsUnbroken (quoted name) := by
  rw [quoted, isUnbroken_cons, isUnbroken_append]
  exact ⟨by decide, word.isUnbroken, by decide⟩

theorem unbroken_headerLine (kind : BlockKind) {name : String} (word : IsWord name.toList) :
    IsUnbroken (headerLine kind name) := by
  rw [headerLine, isUnbroken_append, isUnbroken_cons, isUnbroken_append]
  exact ⟨by cases kind <;> decide, by decide, word.isUnbroken, by decide⟩

theorem unbroken_endpoint {table field : String} (isTable : IsWord table.toList)
    (isField : IsWord field.toList) : IsUnbroken (quoted table ++ '.' :: quoted field) := by
  rw [isUnbroken_append, isUnbroken_cons]
  exact ⟨unbroken_quoted isTable, by decide, unbroken_quoted isField⟩

/-- No line of a written statement is empty or has a line break in it. -/
theorem lines_written {statement : Statement} (proper : statement.Proper) :
    ∀ line ∈ statement.written, IsUnbroken line ∧ line ≠ [] := by
  have blocks : ∀ {kind : BlockKind} {name : String} {lines : List (List Char)},
      IsWord name.toList → (∀ line ∈ lines, FitsBody line) →
      ∀ line ∈ Statement.block (headerLine kind name) lines, IsUnbroken line ∧ line ≠ [] := by
    intro kind name lines word fits line member
    rcases List.mem_cons.mp member with rfl | behind
    · exact ⟨unbroken_headerLine kind word, by simp [headerLine]⟩
    · rcases List.mem_append.mp behind with inside | closing
      · obtain ⟨plain, visible, -⟩ := fits line inside
        refine ⟨plain.2.2, ?_⟩
        rintro rfl
        exact visible rfl
      · rw [List.mem_singleton.mp closing]
        decide
  cases statement with
  | enum name values =>
      obtain ⟨word, -, isValue⟩ := proper
      exact blocks word (fitsBody_values isValue)
  | table name lines =>
      obtain ⟨word, fits⟩ := proper
      exact blocks word fits
  | reference fromTable fromField direction toTable toField =>
      obtain ⟨isFromTable, isFromField, isToTable, isToField⟩ := proper
      have behind : IsUnbroken (direction.glyph.toList ++
          ' ' :: (quoted toTable ++ '.' :: quoted toField)) := by
        rw [isUnbroken_append, isUnbroken_cons]
        exact ⟨by cases direction <;> decide, by decide, unbroken_endpoint isToTable isToField⟩
      intro line member
      rw [List.mem_singleton.mp member]
      refine ⟨?_, by simp [referenceLine]⟩
      rw [referenceLine, isUnbroken_append, isUnbroken_append]
      exact ⟨⟨by decide, unbroken_endpoint isFromTable isFromField⟩,
        isUnbroken_cons.mpr ⟨by decide, behind⟩⟩

/-- The text has the lines of the statements, one below the other, with or without a line feed at
the end. -/
def IsText (statements : List Statement) (text : String) : Prop :=
  text.toList = endLines (statements.flatMap written) ∨
    text.toList = joinLines (statements.flatMap written)

variable {statements : List Statement}

theorem splitLines_text (proper : ∀ statement ∈ statements, statement.Proper) {text : String}
    (isText : IsText statements text) :
    splitLines text.toList = statements.flatMap written := by
  have lines : ∀ line ∈ statements.flatMap written, IsUnbroken line ∧ line ≠ [] := by
    intro line member
    obtain ⟨statement, among, inside⟩ := List.mem_flatMap.mp member
    exact lines_written (proper statement among) line inside
  rcases isText with same | same
  · rw [same, splitLines_endLines fun line member => (lines line member).1]
  · rw [same, splitLines_joinLines fun line member => (lines line member).1]
    intro last
    exact (lines [] (List.mem_of_getLast? last)).2 rfl

end Statement

namespace Extract

open Statement

variable {statements : List Statement}

/-- **Reading what is written.** A text in which statements are written one below the other says
exactly these statements, each list in their order and on the lines that they begin on, and nothing
is reported. -/
theorem ofText_written (proper : ∀ statement ∈ statements, statement.Proper) {text : String}
    (isText : IsText statements text) :
    ofText text =
      { enums := (placed 1 statements).filterMap fun place => (found place).enum?
        tables := (placed 1 statements).filterMap fun place => (found place).table?
        references := (placed 1 statements).filterMap fun place => (found place).reference?
        diagnostics := [] } := by
  have silent : (placed 1 statements).filterMap (fun place => (found place).diagnostic?) = [] := by
    refine List.filterMap_eq_nil_iff.mpr fun place _ => ?_
    obtain ⟨number, statement⟩ := place
    cases statement <;> rfl
  rw [ofText_eq, splitLines_text proper isText, ofLines, findings, findings_written proper,
    ofFindings]
  simp only [List.filterMap_map, Function.comp_def, silent]

/-- An enum with a value of two words, and a reference in front of the table that it refers to. -/
theorem ofText_written_order :
    (∀ statement ∈ [.enum "Größe" ["Very big"], .reference "A" "id" .manyToOne "B" "a",
        .table "A" ["  id GUID [pk]".toList]], Proper statement) ∧
      IsText [.enum "Größe" ["Very big"], .reference "A" "id" .manyToOne "B" "a",
          .table "A" ["  id GUID [pk]".toList]]
        ("Enum Größe \x7b\nVery big\n\x7d\nRef: \"A\".\"id\" < \"B\".\"a\"\n" ++
          "Table A \x7b\n  id GUID [pk]\n\x7d\n") ∧
      ofText ("Enum Größe \x7b\nVery big\n\x7d\nRef: \"A\".\"id\" < \"B\".\"a\"\n" ++
          "Table A \x7b\n  id GUID [pk]\n\x7d\n") =
        { enums := [⟨"Größe", ["Very big"], 1⟩]
          tables := [⟨"A", [⟨6, "  id GUID [pk]".toList⟩], 5⟩]
          references := [⟨"A", "id", .manyToOne, "B", "a", 4⟩]
          diagnostics := [] } := by
  have proper : ∀ statement ∈ [.enum "Größe" ["Very big"], .reference "A" "id" .manyToOne "B" "a",
      .table "A" ["  id GUID [pk]".toList]], Proper statement := by
    decide +kernel
  have isText : IsText [.enum "Größe" ["Very big"], .reference "A" "id" .manyToOne "B" "a",
        .table "A" ["  id GUID [pk]".toList]]
      ("Enum Größe \x7b\nVery big\n\x7d\nRef: \"A\".\"id\" < \"B\".\"a\"\n" ++
        "Table A \x7b\n  id GUID [pk]\n\x7d\n") :=
    Or.inl (by decide +kernel)
  exact ⟨proper, isText, (ofText_written proper isText).trans (by decide +kernel)⟩

end Extract

end ErdDeploy
