import ErdDeploy.Proofs.Source.Patterns
import ErdDeploy.Proofs.Source.Succession

/-!
Where findings are placed in their source.

The number of a part of a body is that of a line which holds it, and a diagnostic points into its
line: what it speaks of stands at its column. Two places are missed, both because what follows an
opening brace is read as a line of its own under the number of the header. If the brace opens the
line behind the header, what follows it comes under the number of the wrong line
(`SourceLine.IsLate`); and the column of a block inside a body that opens behind the brace is
counted from the brace on, and not from the beginning of a line (`Diagnostic.Misses`). Nothing else
is misplaced (`Extract.ofText_placed`).
-/

namespace ErdDeploy

/-- The text stands in the line of its number. -/
def SourceLine.IsIn (lines : List SourceLine) (part : SourceLine) : Prop :=
  ∃ line ∈ lines, line.number = part.number ∧ part.text <:+: line.text

/-- The text stands behind a brace that opens the line behind the header, and has the number of the
header. -/
def SourceLine.IsLate (lines : List SourceLine) (part : SourceLine) : Prop :=
  ∃ (block : OpenBlock) (opened : SourceLine) (tail : List Char), Opening lines block opened tail ∧
    part.number = block.line ∧ opened.number = block.line + 1 ∧ part.text <+: tail ∧
    part.text <:+: opened.text

namespace Diagnostic

/-- The diagnostic points into a line, at the brace or the glyph if it speaks of one. -/
structure PointsInto (line : SourceLine) (d : Diagnostic) : Prop where
  number : line.number = d.line
  positive : 1 ≤ d.column
  inside : d.column ≤ line.text.length + 1
  brace : d.message = "Nested block ignored" → line.text[d.column - 1]? = some '\x7b'
  glyph : ∀ glyph : String, d.message = "Unrecognized relationship direction '" ++ glyph ++ "'" →
    glyph.toList <+: line.text.drop (d.column - 1)

/-- The diagnostic speaks of a brace behind the opening brace of a block, on its own line or the
next one, and counts its column from behind the opening brace. -/
def Misses (lines : List SourceLine) (d : Diagnostic) : Prop :=
  ∃ (block : OpenBlock) (opened : SourceLine) (tail before behind : List Char),
    Opening lines block opened tail ∧ (opened.number = d.line ∨ opened.number = d.line + 1) ∧
      opened.text = before ++ '\x7b' :: (tail ++ behind) ∧
      d = Mode.nestedIgnored ⟨block.line, tail⟩ ∧
      opened.text[before.length + d.column]? = some '\x7b'

end Diagnostic

/-- Where the parts of bodies and the diagnostics of a source are placed. -/
structure Extract.Placed (lines : List SourceLine) (e : Extract) : Prop where
  bodies : ∀ table ∈ e.tables, ∀ part ∈ table.lines,
    part.IsIn lines ∨ part.number = table.line ∧ part.IsLate lines
  within : ∀ d ∈ e.diagnostics, 1 ≤ d.line ∧ d.line ≤ lines.length ∧ 1 ≤ d.column
  diagnostics : ∀ d ∈ e.diagnostics, (∃ line ∈ lines, d.PointsInto line) ∨ d.Misses lines

section

variable {lines : List SourceLine} {line : SourceLine} {d : Diagnostic}

/-! ## Columns -/

theorem indent_le (cs : List Char) : Text.indent cs + (Text.trim cs).length ≤ cs.length := by
  rcases Text.exists_dropWhile_isBlank cs with ⟨right, rest, -⟩
  have split := congrArg List.length (List.takeWhile_append_dropWhile (p := Text.isBlank) (l := cs))
  rw [rest, List.length_append, List.length_append, ← Text.indent] at split
  omega

/-- The message speaks of no brace and of no glyph. -/
def IsPlain (message : String) : Prop :=
  message ≠ "Nested block ignored" ∧
    ∀ glyph : String, message ≠ "Unrecognized relationship direction '" ++ glyph ++ "'"

theorem pointsInto_of_isPlain (number : line.number = d.line) (positive : 1 ≤ d.column)
    (inside : d.column ≤ line.text.length + 1) (plain : IsPlain d.message) : d.PointsInto line :=
  ⟨number, positive, inside, fun same => absurd same plain.1,
    fun glyph same => absurd same (plain.2 glyph)⟩

/-- A diagnostic at the first visible character of a line. -/
theorem pointsInto_front {message : String} {severity : Severity} (plain : IsPlain message) :
    (⟨line.number, Text.indent line.text + 1, message, severity⟩ : Diagnostic).PointsInto line := by
  have inside := indent_le line.text
  refine pointsInto_of_isPlain rfl ?_ ?_ plain
  · change 1 ≤ Text.indent line.text + 1
    omega
  · change Text.indent line.text + 1 ≤ line.text.length + 1
    omega

theorem isPlain_malformed : IsPlain "Malformed block header" := by
  refine ⟨by decide, fun glyph same => ?_⟩
  simpa using congrArg String.toList same

theorem isPlain_missingBrace (block : OpenBlock) : IsPlain block.missingBrace.message := by
  unfold OpenBlock.missingBrace
  constructor
  · intro same
    simpa using congrArg String.toList same
  · intro glyph same
    simpa using congrArg String.toList same

theorem isPlain_unnamed (kind : BlockKind) : IsPlain (kind.title ++ " block has no name") := by
  cases kind with
  | enum =>
      refine ⟨by decide, fun glyph same => ?_⟩
      simpa [BlockKind.title] using congrArg String.toList same
  | table =>
      refine ⟨by decide, fun glyph same => ?_⟩
      simpa [BlockKind.title] using congrArg String.toList same

theorem isPlain_unterminated : IsPlain "Unterminated block: missing '\x7d'" := by
  refine ⟨by decide, fun glyph same => ?_⟩
  simpa using congrArg String.toList same

theorem isPlain_unrecognized (line : SourceLine) : IsPlain (Mode.unrecognized line).message := by
  unfold Mode.unrecognized
  constructor
  · intro same
    simpa using congrArg String.toList same
  · intro glyph same
    simpa using congrArg String.toList same

theorem isPlain_relationship : IsPlain "Malformed relationship line" := by
  refine ⟨by decide, fun glyph same => ?_⟩
  simpa using congrArg String.toList same

theorem pointsInto_missingBrace (line : SourceLine) (header : Header) :
    (OpenBlock.missingBrace (.ofHeader line header)).PointsInto line := by
  have inside := indent_le line.text
  refine pointsInto_of_isPlain rfl ?_ ?_ (isPlain_missingBrace _)
  · change 1 ≤ Text.indent line.text + (Text.trim line.text).length + 1
    omega
  · change Text.indent line.text + (Text.trim line.text).length + 1 ≤ line.text.length + 1
    omega

theorem pointsInto_nested (opens : 0 < line.opens) :
    (Mode.nestedIgnored line).PointsInto line := by
  have member : '\x7b' ∈ line.text := List.count_pos_iff.mp opens
  have front := (List.takeWhile_prefix (l := line.text) (· != '\x7b')).length_le
  refine ⟨rfl, Nat.succ_pos _, Nat.succ_le_succ front, fun _ => ?_, fun glyph same => ?_⟩
  · exact Text.getElem?_takeWhile_of_mem member
  · simpa [Mode.nestedIgnored] using congrArg String.toList same

/-- The glyph of a reference stands where its line says. -/
theorem exists_glyph {cs : List Char} {shape : ReferenceShape}
    (read : ReferenceShape.read? (Text.trim cs) = some shape) :
    ∃ front behind, cs = front ++ (shape.glyph.toList ++ behind) ∧
      front.length = Text.indent cs + shape.glyphOffset := by
  rcases (ReferenceShape.read?_eq_some_iff.mp read).exists_glyph with
    ⟨before, behind, trimmed, offset⟩
  rcases Text.exists_dropWhile_isBlank cs with ⟨right, rest, -⟩
  refine ⟨cs.takeWhile Text.isBlank ++ before, behind ++ right, ?_, ?_⟩
  · conv_lhs => rw [← List.takeWhile_append_dropWhile (p := Text.isBlank) (l := cs), rest, trimmed]
    simp only [List.append_assoc]
  · rw [List.length_append, offset, Text.indent]

/-- What is reported of a reference line points to its beginning or to its glyph. -/
theorem pointsInto_relationship (read : Mode.referenceFinding line = .diagnostic d) :
    d.PointsInto line := by
  unfold Mode.referenceFinding at read
  simp only at read
  split at read
  · cases read
    exact pointsInto_front isPlain_relationship
  · next shape matched =>
    split at read
    · cases read
    · cases read
      rcases exists_glyph matched with ⟨front, behind, whole, place⟩
      have inside : front.length ≤ line.text.length := by
        rw [whole, List.length_append]
        omega
      rw [← place]
      refine ⟨rfl, Nat.succ_pos _, Nat.succ_le_succ inside, fun same => ?_, fun glyph same => ?_⟩
      · simpa using congrArg String.toList same
      · have quoted : shape.glyph = glyph := by
          simpa using same
        rw [← quoted]
        change shape.glyph.toList <+: line.text.drop front.length
        rw [whole, List.drop_left]
        exact List.prefix_append _ _

/-! ## What follows an opening brace -/

section

variable {block : OpenBlock} {opened : SourceLine} {tail : List Char}

/-- The text behind an opening brace stands on the line of the brace. -/
theorem Opening.exists_text (opening : Opening lines block opened tail) :
    ∃ before behind, opened.text = before ++ '\x7b' :: (tail ++ behind) := by
  have padded : ∀ {cs front : List Char}, Text.trim cs = front ++ '\x7b' :: tail →
      ∃ before behind, cs = before ++ '\x7b' :: (tail ++ behind) := by
    intro cs front trimmed
    rcases Text.exists_padding cs with ⟨left, right, whole, -, -⟩
    refine ⟨left ++ front, right, ?_⟩
    rw [whole, trimmed]
    simp only [List.append_assoc, List.cons_append]
  cases opening with
  | header _ read brace =>
      rcases Header.exists_brace read brace with ⟨front, trimmed⟩
      exact padded trimmed
  | brace _ _ _ _ _ brace => exact @padded opened.text [] brace

/-- A part of a body stands in the line of its number, unless it is late. -/
theorem Opening.isIn_or_isLate (opening : Opening lines block opened tail) {part : SourceLine}
    (partOf : part.IsPartOf (⟨block.line, tail⟩ :: lines)) :
    part.IsIn lines ∨ part.number = block.line ∧ part.IsLate lines := by
  rcases partOf with ⟨source, among, number, beginning⟩
  rcases List.mem_cons.mp among with rfl | member
  · rcases opening.exists_text with ⟨before, behind, whole⟩
    have within : part.text <:+: opened.text := by
      rcases beginning with ⟨more, same⟩
      have same : part.text ++ more = tail := same
      refine ⟨before ++ ['\x7b'], more ++ behind, ?_⟩
      rw [whole, ← same]
      simp only [List.append_assoc, List.cons_append, List.nil_append]
    cases opening with
    | header member => exact Or.inl ⟨_, member, number.symm, within⟩
    | brace member member' next read lacks brace =>
        exact Or.inr ⟨number, _, _, tail, .brace member member' next read lacks brace, number, next,
          beginning, within⟩
  · exact Or.inl ⟨source, member, number.symm, beginning.isInfix⟩

theorem Opening.misses (opening : Opening lines block opened tail)
    (opens : 0 < SourceLine.opens ⟨block.line, tail⟩) :
    (Mode.nestedIgnored ⟨block.line, tail⟩).Misses lines := by
  rcases opening.exists_text with ⟨before, behind, whole⟩
  refine ⟨block, opened, tail, before, behind, opening, opening.number_eq, whole, rfl, ?_⟩
  have member : '\x7b' ∈ tail := List.count_pos_iff.mp opens
  have here := Text.getElem?_takeWhile_of_mem member
  have front := (List.getElem?_eq_some_iff.mp here).1
  rw [whole, List.getElem?_append_right (Nat.le_add_right _ _), Nat.add_sub_cancel_left]
  change (tail ++ behind)[(tail.takeWhile (· != '\x7b')).length]? = some '\x7b'
  rw [List.getElem?_append_left front, here]

end

/-! ## Places of all findings -/

theorem Reported.placed (reported : Reported lines d) :
    (∃ line ∈ lines, d.PointsInto line) ∨ d.Misses lines := by
  cases reported with
  | malformed member => exact Or.inl ⟨_, member, pointsInto_front isPlain_malformed⟩
  | lacking member => exact Or.inl ⟨_, member, pointsInto_missingBrace _ _⟩
  | nested member opens => exact Or.inl ⟨_, member, pointsInto_nested opens⟩
  | opening opening opens => exact Or.inr (opening.misses opens)
  | @unterminated line member =>
      have inside : 1 ≤ line.text.length + 1 := by omega
      exact Or.inl ⟨line, member,
        pointsInto_of_isPlain rfl (Nat.le_refl 1) inside isPlain_unterminated⟩
  | unrecognized member =>
      exact Or.inl ⟨_, member, pointsInto_front (isPlain_unrecognized _)⟩
  | relationship member read => exact Or.inl ⟨_, member, pointsInto_relationship read⟩

/-- A block that is made and not declared has no name, and is reported at its header. -/
theorem Made.placed {first last : Int} (made : Made lines first last (.diagnostic d)) :
    ∃ line ∈ lines, d.PointsInto line := by
  generalize same : Finding.diagnostic d = finding at made
  cases made with
  | @block block opened tail body opening =>
      rcases opening.exists_header with ⟨line, member, header, rfl⟩
      unfold OpenBlock.close at same
      split at same
      · cases same
        exact ⟨line, member, pointsInto_front (isPlain_unnamed _)⟩
      · split at same
        · cases same
        · cases same
  | reference => cases same

theorem InOrder.placed_of_mem {first : Int} {findings : List Finding}
    (inOrder : InOrder lines first findings) (member : .diagnostic d ∈ findings) :
    (∃ line ∈ lines, d.PointsInto line) ∨ d.Misses lines := by
  induction inOrder with
  | nil => cases member
  | reported reported _ ih =>
      rcases List.mem_cons.mp member with same | later
      · cases same
        exact reported.placed
      · exact ih later
  | made made _ ih =>
      rcases List.mem_cons.mp member with same | later
      · subst same
        exact Or.inl made.placed
      · exact ih later

theorem SourceLine.bounds_of_mem {number : Int} {texts : List (List Char)}
    (member : line ∈ numbered number texts) :
    number ≤ line.number ∧ line.number < number + (numbered number texts).length := by
  induction texts generalizing number with
  | nil => cases member
  | cons text texts ih =>
      rw [numbered, List.length_cons]
      rcases List.mem_cons.mp member with rfl | later
      · constructor
        · exact Int.le_refl _
        · change number < _
          omega
      · have bounds := ih later
        omega

/-- The findings of the lines of a source are placed in it. -/
theorem InOrder.placed {texts : List (List Char)} {first : Int} {findings : List Finding}
    (inOrder : InOrder (SourceLine.numbered 1 texts) first findings) :
    Extract.Placed (SourceLine.numbered 1 texts) (.ofFindings findings) := by
  have placed : ∀ d ∈ (Extract.ofFindings findings).diagnostics,
      (∃ line ∈ SourceLine.numbered 1 texts, d.PointsInto line) ∨
        d.Misses (SourceLine.numbered 1 texts) := by
    intro d member
    rcases List.mem_filterMap.mp member with ⟨finding, among, seen⟩
    rw [Finding.diagnostic?_eq_some_iff.mp seen] at among
    exact inOrder.placed_of_mem among
  refine ⟨fun table member part among => ?_, fun d member => ?_, placed⟩
  · rcases inOrder.exists_table member with ⟨body, last, same, occupies⟩
    rcases occupies.block with ⟨block, opened, tail, opening, starts, -, drawn⟩
    rw [same] at among
    rw [← starts] at drawn ⊢
    exact opening.isIn_or_isLate (drawn.parts part (List.mem_of_mem_filter among)).1
  · have within : ∃ line ∈ SourceLine.numbered 1 texts, line.number = d.line ∧ 1 ≤ d.column := by
      rcases placed d member with ⟨line, among, points⟩ | ⟨block, opened, tail, before, behind,
        opening, -, -, rfl, -⟩
      · exact ⟨line, among, points.number, points.positive⟩
      · rcases opening.exists_header with ⟨line, among, header, rfl⟩
        exact ⟨line, among, rfl, Nat.succ_pos _⟩
    rcases within with ⟨line, among, number, positive⟩
    have bounds := SourceLine.bounds_of_mem among
    exact ⟨by omega, by omega, positive⟩

end

/-- A text with two tables. The brace of the first one opens the line behind its header, and a block
inside the second one begins behind the opening brace. -/
def braces : String :=
  "Table A\n\x7b id GUID [pk]\n\x7d\nTable B \x7b note \x7b x \x7d\nid GUID [pk]\n\x7d"

/-- Not every part of a body stands in the line of its number, and not every diagnostic points into
its line. -/
theorem Extract.not_placed :
    (¬ ∀ text : String, ∀ table ∈ (ofText text).tables, ∀ part ∈ table.lines,
      part.IsIn (SourceLine.ofText text)) ∧
    ¬ ∀ text : String, ∀ d ∈ (ofText text).diagnostics,
      ∃ line ∈ SourceLine.ofText text, d.PointsInto line := by
  constructor
  · intro bodies
    have table : ⟨"A", [⟨1, " id GUID [pk]".toList⟩], 1⟩ ∈ (ofText braces).tables := by
      decide +kernel
    have elsewhere : ∀ line ∈ SourceLine.ofText braces, line.number = 1 →
        ¬ " id GUID [pk]".toList <:+: line.text := by decide +kernel
    rcases bodies braces _ table _ (List.mem_singleton_self _) with ⟨line, member, number, within⟩
    exact elsewhere line member number within
  · intro diagnostics
    have warning : ⟨4, 7, "Nested block ignored", .warning⟩ ∈ (ofText braces).diagnostics := by
      decide +kernel
    have elsewhere : ∀ line ∈ SourceLine.ofText braces, line.number = 4 →
        line.text[6]? ≠ some '\x7b' := by decide +kernel
    rcases diagnostics braces _ warning with ⟨line, member, points⟩
    exact elsewhere line member points.number (points.brace rfl)

/-- **Places.** The number of a part of a body is that of a line which holds it, unless the part
stands behind a brace that opens the line behind the header, when it is that of the header. Every
diagnostic has the number of a line and a column from one on. It points into that line, to the brace
or the glyph if it speaks of one, unless it speaks of a brace behind the opening brace of a block:
then its column counts from behind the opening brace. -/
theorem Extract.ofText_placed (text : String) : Placed (SourceLine.ofText text) (ofText text) :=
  (inOrder_findings (Text.splitLines text.toList)).placed

end ErdDeploy
