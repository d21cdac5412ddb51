import ErdDeploy.Proofs.Source.BlockEnds
import ErdDeploy.Proofs.Source.Patterns

/-!
Which statement a line begins.

The kind of a statement is told by the first word of its line, up to colons at the end of this
word, and what the statement says is read by the pattern of its kind. The two need not agree. If
the first word is the keyword of a block, the line matches the pattern of headers. But the pattern
of references asks for no blank behind the colon, and where none stands there the first word is
longer than the keyword. Such a line is taken for no known statement and left out with a warning;
any other line that matches the pattern is read as the reference that it writes
(`statements_told`).
-/

namespace ErdDeploy.Mode

open Text

/-! ## The first word of a line -/

/-- The first word of a text up to colons at its end. -/
def bareWord (text : List Char) : List Char :=
  dropEndWhile (· == ':') (firstWord text)

/-- Behind a keyword stand colons only, up to a blank or the end. -/
def Loose (behind : List Char) : Prop :=
  ∃ colons rest, (∀ c ∈ colons, c = ':') ∧ Stops (fun c => !isBlank c) rest ∧
    behind = colons ++ rest

/-- The text begins with the keyword of references and a colon, and no blank follows. -/
def Glued (text : List Char) : Prop :=
  ∃ keyword c rest, Spells ['r', 'e', 'f'] keyword ∧ isBlank c = false ∧
    text = keyword ++ ':' :: c :: rest

section

variable {keyword text : List Char}

/-- A trimmed text is its bare word, and nothing but colons stands between this and a blank. -/
theorem exists_bareWord (front : text.dropWhile isBlank = text) :
    ∃ behind, Loose behind ∧ text = bareWord text ++ behind := by
  have word : firstWord text = bareWord text ++
      ((firstWord text).reverse.takeWhile (· == ':')).reverse := by
    rw [bareWord, dropEndWhile, ← List.reverse_append, List.takeWhile_append_dropWhile,
      List.reverse_reverse]
  have first : firstWord text = text.takeWhile (fun c => !isBlank c) := by rw [firstWord, front]
  have whole := List.takeWhile_append_dropWhile (p := fun c => !isBlank c) (l := text)
  rw [← first, word, List.append_assoc] at whole
  refine ⟨_, ⟨_, _, ?_, stops_dropWhile text, rfl⟩, whole.symm⟩
  intro c member
  have colon := List.mem_takeWhile_imp (List.mem_reverse.mp member)
  exact beq_iff_eq.mp colon

theorem bareWord_eq {word behind : List Char}
    (front : (word ++ behind).dropWhile isBlank = word ++ behind)
    (plain : ∀ c ∈ word, isBlank c = false ∧ c ≠ ':') (loose : Loose behind) :
    bareWord (word ++ behind) = word := by
  rcases loose with ⟨colons, rest, allColons, stops, rfl⟩
  have visible : ∀ c ∈ word ++ colons, (!isBlank c) = true := by
    intro c member
    rcases List.mem_append.mp member with among | colon
    · rw [(plain c among).1]
      rfl
    · rw [allColons c colon]
      rfl
  have first : firstWord (word ++ (colons ++ rest)) = word ++ colons := by
    rw [firstWord, front, ← List.append_assoc]
    exact takeWhile_run visible stops
  have stopsColons : Stops (· == ':') word.reverse := by
    intro c cs same
    have member : c ∈ word := by
      rw [← List.mem_reverse, same]
      exact List.mem_cons_self
    exact beq_eq_false_iff_ne.mpr (plain c member).2
  have allBack : ∀ c ∈ colons.reverse, (c == ':') = true := by
    intro c member
    exact beq_iff_eq.mpr (allColons c (List.mem_reverse.mp member))
  rw [bareWord, first, dropEndWhile, List.reverse_append, dropWhile_run allBack stopsColons,
    List.reverse_reverse]

/-- What spells a keyword holds neither blanks nor colons, if the keyword holds none. -/
theorem plain_of_spells {word : List Char}
    (letters : ∀ letter ∈ keyword, isBlank letter = false ∧ letter ≠ ':')
    (spells : Spells keyword word) : ∀ c ∈ word, isBlank c = false ∧ c ≠ ':' := by
  intro c member
  have letter : c.toLower ∈ keyword := by
    rw [← spells]
    exact List.mem_map_of_mem member
  by_cases upper : c.isUpper = true
  · have bounds := bounds_of_isUpper upper
    constructor
    · rw [Bool.eq_false_iff]
      intro blank
      have code := toNat_mem_blankCodes blank
      simp [blankCodes] at code
      omega
    · rintro rfl
      exact absurd upper (by decide)
  · rw [Char.toLower_eq_of_not_isUpper upper] at letter
    exact letters c letter

/-- The bare word spells a keyword exactly if the keyword is at the front of the text, with nothing
but colons between it and a blank or the end. -/
theorem spells_bareWord_iff (front : text.dropWhile isBlank = text)
    (letters : ∀ letter ∈ keyword, isBlank letter = false ∧ letter ≠ ':') :
    Spells keyword (bareWord text) ↔
      ∃ word behind, Spells keyword word ∧ Loose behind ∧ text = word ++ behind := by
  constructor
  · intro spells
    rcases exists_bareWord front with ⟨behind, loose, whole⟩
    exact ⟨_, behind, spells, loose, whole⟩
  · intro atFront
    rcases atFront with ⟨word, behind, spells, loose, rfl⟩
    rw [bareWord_eq front (plain_of_spells letters spells) loose]
    exact spells

/-- Only one word at the front of a text spells a keyword. -/
theorem exists_word_iff {word behind : List Char} {P : List Char → Prop}
    (spells : Spells keyword word) :
    (∃ word' behind', Spells keyword word' ∧ P behind' ∧ word ++ behind = word' ++ behind') ↔
      P behind := by
  constructor
  · intro found
    rcases found with ⟨word', behind', spells', holds, same⟩
    have length : word.length = word'.length := by
      have lengths := congrArg List.length (spells.trans spells'.symm)
      rwa [List.length_map, List.length_map] at lengths
    rw [(List.append_inj same length).2]
    exact holds
  · exact fun holds => ⟨word, behind, spells, holds, rfl⟩

theorem loose_of_blank {c : Char} {cs : List Char} (blank : isBlank c = true) :
    Loose (c :: cs) := by
  refine ⟨[], c :: cs, nofun, stops_cons ?_ cs, rfl⟩
  rw [blank]
  rfl

theorem loose_colon_iff {c : Char} {cs : List Char} (other : c ≠ ':') :
    Loose (':' :: c :: cs) ↔ isBlank c = true := by
  constructor
  · intro loose
    rcases loose with ⟨colons, rest, allColons, stops, whole⟩
    -- The first colon is one of the colons, and the next character is none.
    rcases colons with _ | ⟨colon, _ | ⟨second, colons⟩⟩
    · have blank := stops ':' (c :: cs) whole.symm
      cases blank
    · have blank := stops c cs (List.cons.inj whole).2.symm
      rwa [Bool.not_eq_false'] at blank
    · have same := (List.cons.inj (List.cons.inj whole).2).1
      exact absurd (same.trans (allColons second (by simp))) other
  · intro blank
    refine ⟨[':'], c :: cs, by simp, stops_cons ?_ cs, rfl⟩
    rw [blank]
    rfl

/-! ## What the first word tells -/

/-- The kind of a statement as the spelling of its bare word. -/
theorem keywordOf_eq (text : List Char) : keywordOf text =
    if ∃ kind : BlockKind, Spells kind.keyword.toList (bareWord text) then .block
    else if Spells ['r', 'e', 'f'] (bareWord text) then .reference
    else .unknown := by
  have told : ∀ word : String, IsOrdinary word.toList →
      (String.ofList (lower (bareWord text)) = word ↔ Spells word.toList (bareWord text)) := by
    intro word ordinary
    rw [← String.toList_inj, String.toList_ofList, lower_eq_iff ordinary]
  have enum := told BlockKind.enum.keyword (by decide)
  have table := told BlockKind.table.keyword (by decide)
  have reference := told "ref" (by decide)
  have block : (∃ kind : BlockKind, Spells kind.keyword.toList (bareWord text)) ↔
      Spells BlockKind.enum.keyword.toList (bareWord text) ∨
        Spells BlockKind.table.keyword.toList (bareWord text) := by
    constructor
    · intro some
      rcases some with ⟨kind, spells⟩
      cases kind with
      | enum => exact Or.inl spells
      | table => exact Or.inr spells
    · exact fun either => either.elim (fun spells => ⟨_, spells⟩) fun spells => ⟨_, spells⟩
  unfold keywordOf
  rw [← bareWord]
  simp only [Bool.or_eq_true, decide_eq_true_eq, enum, table, reference, block]
  rfl

theorem keywordOf_eq_reference_iff : keywordOf text = .reference ↔
    Spells ['r', 'e', 'f'] (bareWord text) := by
  rw [keywordOf_eq]
  constructor
  · intro told
    split at told
    · cases told
    · split at told
      · assumption
      · cases told
  · intro spells
    rw [if_neg, if_pos spells]
    intro block
    rcases block with ⟨kind, other⟩
    rw [Spells, spells] at other
    cases kind with
    | enum => exact absurd other (by decide)
    | table => exact absurd other (by decide)

/-- What is told to begin a block matches the pattern of headers. -/
theorem written_of_block (front : text.dropWhile isBlank = text)
    (told : keywordOf text = .block) : ∃ kind, Header.Written kind text := by
  rw [keywordOf_eq] at told
  split at told
  · next spells =>
    rcases spells with ⟨kind, spells⟩
    rcases exists_bareWord front with ⟨_, ⟨colons, rest, allColons, stops, rfl⟩, whole⟩
    have stopsWord : Stops isWord (colons ++ rest) := by
      cases colons with
      | cons c cs =>
          rw [allColons c List.mem_cons_self]
          exact stops_cons (by decide) _
      | nil =>
          rintro c cs rfl
          have blank := stops c cs rfl
          rw [Bool.not_eq_false'] at blank
          exact isWord_of_isBlank blank
    rw [← Header.exists_read?_iff]
    have found := Header.afterKeyword?_eq_some_iff.mpr ⟨_, spells, whole, stopsWord⟩
    exact Header.exists_read?_of_afterKeyword? found
  · split at told
    · cases told
    · cases told

/-- What is written behind the keyword of a reference begins with its colon or with a blank. -/
theorem front_of_title {title : List Char} (writes : WritesTitle title) :
    title = [] ∨ ∃ c cs, isBlank c = true ∧ title = c :: cs := by
  rcases writes with blank | ⟨before, word, behind, some, blankBefore, -, -, rfl⟩
  · cases title with
    | nil => exact Or.inl rfl
    | cons c cs => exact Or.inr ⟨c, cs, blank c List.mem_cons_self, rfl⟩
  · rcases List.exists_cons_of_ne_nil some with ⟨c, cs, rfl⟩
    exact Or.inr ⟨c, _, blankBefore c List.mem_cons_self, rfl⟩

/-- What is written behind the colon begins with a blank or with a name. -/
theorem front_of_endpoint {table field : String} {gap left : List Char} (blank : AllBlank gap)
    (writes : WritesEndpoint table field left) (rest : List Char) :
    ∃ c cs, c ≠ ':' ∧ gap ++ (left ++ rest) = c :: cs := by
  cases gap with
  | cons c cs =>
      refine ⟨c, cs ++ (left ++ rest), ?_, rfl⟩
      rintro rfl
      exact absurd (blank ':' List.mem_cons_self) (by decide)
  | nil =>
      rcases writes with ⟨first, before, behind, second, writesFirst, -, -, -, rfl⟩
      have noColon : ∀ c, isWord c = true → (c == ':') = false := by
        intro c word
        rw [beq_eq_false_iff_ne]
        rintro rfl
        exact absurd word (by decide)
      have stops := writesFirst.stops noColon (by decide) []
      rcases List.exists_cons_of_ne_nil writesFirst.ne_nil with ⟨c, cs, rfl⟩
      exact ⟨c, _, beq_eq_false_iff_ne.mp (stops c _ rfl), rfl⟩

theorem glued_append_iff {word behind : List Char} (spells : Spells ['r', 'e', 'f'] word) :
    Glued (word ++ behind) ↔ ∃ c rest, isBlank c = false ∧ behind = ':' :: c :: rest := by
  refine Iff.trans ?_ (exists_word_iff
    (P := fun behind => ∃ c rest, isBlank c = false ∧ behind = ':' :: c :: rest) spells)
  constructor
  · intro glued
    rcases glued with ⟨word', c, rest, spells', visible, same⟩
    exact ⟨word', _, spells', ⟨c, rest, visible, rfl⟩, same⟩
  · intro found
    rcases found with ⟨word', _, spells', ⟨c, rest, visible, rfl⟩, same⟩
    exact ⟨word', c, rest, spells', visible, same⟩

/-- A text that matches the pattern of references is told to begin one unless it is glued. -/
theorem keywordOf_eq_reference_iff_of_written {shape : ReferenceShape}
    (written : shape.Written text) (front : text.dropWhile isBlank = text) :
    keywordOf text = .reference ↔ ¬ Glued text := by
  have letters : ∀ letter ∈ ['r', 'e', 'f'], isBlank letter = false ∧ letter ≠ ':' := by
    intro letter member
    have among : letter = 'r' ∨ letter = 'e' ∨ letter = 'f' := by simpa using member
    rcases among with rfl | rfl | rfl <;> exact ⟨by decide, by decide⟩
  rw [keywordOf_eq_reference_iff, spells_bareWord_iff front letters]
  cases written with
  | @line keyword title gap left between behind right ending _ _ glyph _ _ spells writesTitle
      blankGap writesLeft =>
    rcases front_of_endpoint blankGap writesLeft (between ++ (glyph.toList ++ (behind ++
      (right ++ ending)))) with ⟨c, cs, other, begins⟩
    rw [begins, exists_word_iff spells, glued_append_iff spells]
    rcases front_of_title writesTitle with rfl | ⟨d, ds, blank, rfl⟩
    · rw [List.nil_append, loose_colon_iff other]
      constructor
      · rintro blank ⟨d, rest, visible, same⟩
        cases same
        rw [blank] at visible
        cases visible
      · intro notGlued
        by_contra visible
        exact notGlued ⟨c, cs, Bool.not_eq_true _ ▸ visible, rfl⟩
    · refine ⟨?_, fun _ => loose_of_blank blank⟩
      rintro - ⟨e, rest, -, same⟩
      rw [(List.cons.inj same).1] at blank
      cases blank

end

/-! ## References -/

section

variable {mode : Mode} {line : SourceLine} {r : Reference}

theorem toReference?_eq_some_iff {shape : ReferenceShape} {number : Int} :
    shape.toReference? number = some r ↔ ∃ direction : Direction,
      shape.glyph = direction.glyph ∧ r = ⟨shape.fromTable, shape.fromField, direction,
        shape.toTable, shape.toField, number⟩ := by
  rw [ReferenceShape.toReference?, Option.map_eq_some_iff]
  constructor
  · intro some
    rcases some with ⟨direction, means, rfl⟩
    exact ⟨direction, Direction.ofGlyph?_eq_some_iff.mp means, rfl⟩
  · intro some
    rcases some with ⟨direction, writes, rfl⟩
    exact ⟨direction, Direction.ofGlyph?_eq_some_iff.mpr writes, rfl⟩

theorem referenceFinding_eq_iff : referenceFinding line = .reference r ↔
    ∃ shape : ReferenceShape, shape.Written (trim line.text) ∧
      shape.toReference? line.number = some r := by
  simp only [referenceFinding, ← ReferenceShape.read?_eq_some_iff]
  constructor
  · intro found
    split at found
    · cases found
    · next shape read =>
      split at found
      · next means =>
        cases found
        exact ⟨shape, read, means⟩
      · cases found
  · intro some
    rcases some with ⟨shape, read, means⟩
    rw [read]
    simp only [means]

theorem not_reference_of_bodyMove {block : OpenBlock} {depth : Nat} {kept : List SourceLine}
    {next : Mode} {findings : List Finding} (move : BodyMove block depth kept line next findings) :
    .reference r ∉ findings := by
  cases move with
  | last => simpa using (block.close_ne_reference _ r).symm
  | closed => simpa using (block.close_ne_reference _ r).symm
  | nested => simp
  | kept => simp
  | passed => simp

/-- Only a line that is told to begin a reference yields one. -/
theorem reference_mem_iff (speaks : line.isIdle = false) :
    .reference r ∈ (statementStep line).2 ↔
      keywordOf (trim line.text) = .reference ∧ referenceFinding line = .reference r := by
  have move := @statementMove_statementStep line
  generalize (statementStep line).1 = next at move
  generalize (statementStep line).2 = findings at move
  cases move with
  | idle idle =>
      rw [speaks] at idle
      cases idle
  | malformed _ told => simp [told]
  | header _ told => simp [told]
  | block _ told _ _ entry =>
      simp only [told, reduceCtorEq, false_and, iff_false]
      cases entry with
      | blank => exact List.not_mem_nil
      | line _ move => exact not_reference_of_bodyMove move
  | reference _ told => simp [told, eq_comm]
  | stray _ told => simp [told]
  | unknown _ told => simp [told]

/-- A text does not match the patterns of both. -/
theorem not_block_of_written {text : List Char} {shape : ReferenceShape}
    (written : shape.Written text) (front : text.dropWhile isBlank = text) :
    keywordOf text ≠ .block := by
  intro told
  rcases written_of_block front told with ⟨kind, keyword, gap, name, settings, brace, tail, spells,
    -, -, -, -, -, whole⟩
  cases written with
  | @line keyword' _ _ _ _ _ _ _ _ _ _ _ _ spells' =>
      rcases keyword' with _ | ⟨c', keyword'⟩
      · cases spells'
      rcases keyword with _ | ⟨c, keyword⟩
      · cases kind with
        | enum => cases spells
        | table => cases spells
      have first : c' = c := (List.cons.inj whole).1
      have letter' : c'.toLower = 'r' := (List.cons.inj spells').1
      rw [first] at letter'
      cases kind with
      | enum =>
          have letter : c.toLower = 'e' := (List.cons.inj spells).1
          rw [letter] at letter'
          cases letter'
      | table =>
          have letter : c.toLower = 't' := (List.cons.inj spells).1
          rw [letter] at letter'
          cases letter'

end

/-! ## Lines and patterns -/

/-- No line is reported as a malformed header. -/
theorem Notice.message_ne {d : Diagnostic} (notice : Notice d) :
    d.message ≠ "Malformed block header" := by
  intro same
  have same := congrArg String.toList same
  cases notice with
  | @malformed line told none =>
      have written := written_of_block (dropWhile_isBlank_trim line.text) told
      rcases Header.exists_read?_iff.mpr written with ⟨header, read⟩
      rw [none] at read
      cases read
  | unnamed block => cases kind : block.kind <;> simp [kind, BlockKind.title] at same
  | lacking => simp [OpenBlock.missingBrace] at same
  | nested => simp [nestedIgnored] at same
  | unrecognized => simp [Mode.unrecognized] at same
  | relationship => simp at same
  | direction => simp at same

/-- What the patterns of statements tell of a line, where `found` is what is found on it. -/
structure Told (line : SourceLine) (found : List Finding) : Prop where
  header : keywordOf (trim line.text) = .block →
    (∃ kind, Header.Written kind (trim line.text)) ∧
      ∃ header, Header.read? (trim line.text) = some header
  wellFormed : ∀ d, .diagnostic d ∈ found → d.message ≠ "Malformed block header"
  reference_iff : ∀ r, .reference r ∈ found ↔ ¬ Glued (trim line.text) ∧
    ∃ (shape : ReferenceShape) (direction : Direction), shape.Written (trim line.text) ∧
      shape.glyph = direction.glyph ∧ r = ⟨shape.fromTable, shape.fromField, direction,
        shape.toTable, shape.toField, line.number⟩
  /-- A glued line is left out with a warning. -/
  glued : ∀ shape : ReferenceShape, shape.Written (trim line.text) → Glued (trim line.text) →
    .diagnostic (unrecognized line) ∈ found

/-- A line that matches the pattern of references does not always yield one. -/
theorem not_readsReferences :
    ¬ ∀ (mode : Mode) (line : SourceLine), Begins mode line → line.isIdle = false →
      ((∃ r, .reference r ∈ (step mode line).2) ↔
        ∃ (shape : ReferenceShape) (direction : Direction),
          shape.Written (trim line.text) ∧ shape.glyph = direction.glyph) := by
  intro readsReferences
  have read : ReferenceShape.read? (trim "Ref:A.id<B.aid".toList) =
      some ⟨"A", "id", "<", 8, "B", "aid"⟩ := by decide +kernel
  have found : (step .statement ⟨1, "Ref:A.id<B.aid".toList⟩).2 =
      [.diagnostic ⟨1, 1, "Unrecognized statement 'Ref:A.id<B.aid'", .warning⟩] := by
    decide +kernel
  have written := ReferenceShape.read?_eq_some_iff.mp read
  rcases (readsReferences .statement ⟨1, "Ref:A.id<B.aid".toList⟩ (Or.inl rfl)
    (by decide +kernel)).mpr ⟨_, .manyToOne, written, rfl⟩ with ⟨r, member⟩
  rw [found, List.mem_singleton] at member
  cases member

/-- **Dispatch.** A line that is told to begin a block matches the pattern of headers and is read as
one. It yields a reference exactly if it matches the pattern of references with a glyph that means
a direction, and a blank or nothing follows the first word that is the keyword with its colon; the
reference is the one that is written. If no blank follows the colon, the line is left out with
the warning of an unknown statement. -/
theorem statements_told {mode : Mode} {line : SourceLine} (begins : Begins mode line)
    (speaks : line.isIdle = false) : Told line (step mode line).2 := by
  have front := dropWhile_isBlank_trim line.text
  rcases begins.step_eq with ⟨lacking, stepped⟩
  have among : ∀ finding : Finding, (∀ d, finding ≠ .diagnostic d) →
      (finding ∈ (step mode line).2 ↔ finding ∈ (statementStep line).2) := by
    intro finding statement
    rw [stepped, List.mem_append, List.mem_map]
    constructor
    · intro member
      rcases member with ⟨block, -, same⟩ | here
      · exact absurd same.symm (statement block.missingBrace)
      · exact here
    · exact Or.inr
  refine ⟨fun told => ?_, fun d member => ?_, fun r => ?_, fun shape written glued => ?_⟩
  · have written := written_of_block front told
    exact ⟨written, Header.exists_read?_iff.mpr written⟩
  · exact ((move_step mode line).notice member).message_ne
  · rw [among (.reference r) (fun _ same => nomatch same), reference_mem_iff speaks,
      referenceFinding_eq_iff]
    constructor
    · intro told
      rcases told with ⟨told, shape, written, means⟩
      rcases toReference?_eq_some_iff.mp means with ⟨direction, writes, same⟩
      exact ⟨(keywordOf_eq_reference_iff_of_written written front).mp told, shape, direction,
        written, writes, same⟩
    · intro told
      rcases told with ⟨loose, shape, direction, written, writes, same⟩
      exact ⟨(keywordOf_eq_reference_iff_of_written written front).mpr loose, shape, written,
        toReference?_eq_some_iff.mpr ⟨direction, writes, same⟩⟩
  · have told : keywordOf (trim line.text) = .unknown := by
      cases kind : keywordOf (trim line.text) with
      | block => exact absurd kind (not_block_of_written written front)
      | reference =>
          exact absurd glued ((keywordOf_eq_reference_iff_of_written written front).mp kind)
      | unknown => rfl
    rw [stepped, statementStep_unknown speaks told]
    exact List.mem_append_right _ (List.mem_singleton_self _)

/-- A reference with a title and without quotes, behind a header that lacks its brace. -/
theorem statements_told_of_title :
    Begins (.awaitingBrace ⟨.table, some "T", 1, 1, 8⟩) ⟨2, " REF r : A.id > \"B\".aid".toList⟩ ∧
      SourceLine.isIdle ⟨2, " REF r : A.id > \"B\".aid".toList⟩ = false ∧
      Told ⟨2, " REF r : A.id > \"B\".aid".toList⟩
        (step (.awaitingBrace ⟨.table, some "T", 1, 1, 8⟩)
          ⟨2, " REF r : A.id > \"B\".aid".toList⟩).2 := by
  have begins : Begins (.awaitingBrace ⟨.table, some "T", 1, 1, 8⟩)
      ⟨2, " REF r : A.id > \"B\".aid".toList⟩ := by
    refine Or.inr ⟨_, rfl, fun tail brace => ?_⟩
    have first : (trim " REF r : A.id > \"B\".aid".toList).head? = some '\x7b' :=
      congrArg List.head? brace
    exact absurd first (by decide +kernel)
  have speaks : SourceLine.isIdle ⟨2, " REF r : A.id > \"B\".aid".toList⟩ = false := by
    decide +kernel
  exact ⟨begins, speaks, statements_told begins speaks⟩

end ErdDeploy.Mode
