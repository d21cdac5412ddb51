import ErdDeploy.Proofs.Source.Parts
import ErdDeploy.Proofs.Text.Blank
import Mathlib.Data.List.Forall2

/-!
Sources that are read alike.

A `Likeness` says how the lines of two sources may differ in their numbers and texts. The
texts have to agree when they are trimmed, and whatever is left of them up to a closing
brace has to be alike again. The reader looks at nothing else: it takes corresponding
steps on both sources (`step_alike`), so it finds the same things in both, up to the
numbers of lines and columns and the texts of body lines (`run_alike`).

Lines of a body that say nothing are left out when the body is closed, so two readings
are alike as soon as they have kept the same lines apart from those.
-/

namespace ErdDeploy

/-- How the lines of two sources may differ. -/
structure Likeness where
  number : Int → Int → Prop
  column : Nat → Nat → Prop
  text : List Char → List Char → Prop
  column_refl : ∀ width, column width width
  text_refl : ∀ cs, text cs cs
  trim_eq : ∀ {cs cs'}, text cs cs' → Text.trim cs = Text.trim cs'
  beforeClosing : ∀ {cs cs'}, text cs cs' →
    text (cs.takeWhile (· != '\x7d')) (cs'.takeWhile (· != '\x7d'))
  indent : ∀ {cs cs'}, text cs cs' → ∀ width,
    column (Text.indent cs + width) (Text.indent cs' + width)
  opening : ∀ {cs cs'}, text cs cs' →
    column ((cs.takeWhile (· != '\x7b')).length + 1) ((cs'.takeWhile (· != '\x7b')).length + 1)

/-- Only texts matter: the numbers of lines and columns may be any. -/
def Likeness.ofTexts (text : List Char → List Char → Prop) (text_refl : ∀ cs, text cs cs)
    (trim_eq : ∀ {cs cs'}, text cs cs' → Text.trim cs = Text.trim cs')
    (beforeClosing : ∀ {cs cs'}, text cs cs' →
      text (cs.takeWhile (· != '\x7d')) (cs'.takeWhile (· != '\x7d'))) : Likeness where
  number _ _ := True
  column _ _ := True
  text := text
  column_refl _ := trivial
  text_refl := text_refl
  trim_eq := trim_eq
  beforeClosing := beforeClosing
  indent _ _ := trivial
  opening _ := trivial

/-- The same lines with the same texts, further down. -/
def Likeness.shift (offset : Int) : Likeness where
  number line line' := line' = line + offset
  column width width' := width' = width
  text cs cs' := cs' = cs
  column_refl _ := rfl
  text_refl _ := rfl
  trim_eq same := by rw [same]
  beforeClosing same := by rw [same]
  indent same _ := by rw [same]
  opening same := by rw [same]

/-- The same texts on lines with any numbers. -/
def Likeness.anywhere : Likeness :=
  .ofTexts (fun cs cs' => cs' = cs) (fun _ => rfl) (fun same => by rw [same])
    fun same => by rw [same]

variable {L : Likeness}

/-! ## What is alike -/

structure SourceLine.Alike (L : Likeness) (line line' : SourceLine) : Prop where
  number : L.number line.number line'.number
  text : L.text line.text line'.text

/-- The two bodies have the same lines, apart from those that say nothing. -/
def BodiesAlike (L : Likeness) (body body' : List SourceLine) : Prop :=
  List.Forall₂ (SourceLine.Alike L) (TableBlock.linesOf body) (TableBlock.linesOf body')

inductive Finding.Alike (L : Likeness) : Finding → Finding → Prop
  | enum {name : String} {values : List String} {line line' : Int} : L.number line line' →
    Alike L (.enum ⟨name, values, line⟩) (.enum ⟨name, values, line'⟩)
  | table {name : String} {lines lines' : List SourceLine} {line line' : Int} :
    List.Forall₂ (SourceLine.Alike L) lines lines' → L.number line line' →
    Alike L (.table ⟨name, lines, line⟩) (.table ⟨name, lines', line'⟩)
  | reference {fromTable fromField : String} {direction : Direction} {toTable toField : String}
    {line line' : Int} : L.number line line' →
    Alike L (.reference ⟨fromTable, fromField, direction, toTable, toField, line⟩)
      (.reference ⟨fromTable, fromField, direction, toTable, toField, line'⟩)
  | diagnostic {line line' : Int} {column column' : Nat} {message : String}
    {severity : Severity} : L.number line line' → L.column column column' →
    Alike L (.diagnostic ⟨line, column, message, severity⟩)
      (.diagnostic ⟨line', column', message, severity⟩)

structure OpenBlock.Alike (L : Likeness) (block block' : OpenBlock) : Prop where
  kind : block.kind = block'.kind
  name : block.name = block'.name
  line : L.number block.line block'.line
  column : L.column block.column block'.column
  endColumn : L.column block.endColumn block'.endColumn

/-- The two modes differ as the lines do. An open block has some depth. -/
inductive Mode.Alike (L : Likeness) : Mode → Mode → Prop
  | statement : Alike L .statement .statement
  | awaitingBrace {block block' : OpenBlock} : block.Alike L block' →
    Alike L (.awaitingBrace block) (.awaitingBrace block')
  | body {block block' : OpenBlock} {depth : Nat} {kept kept' : List SourceLine} :
    block.Alike L block' → 0 < depth → BodiesAlike L kept kept' →
    Alike L (.body block depth kept) (.body block' depth kept')
  | stray {start start' : Int} {depth : Nat} : L.number start start' → 0 < depth →
    Alike L (.stray start depth) (.stray start' depth)

/-- The two steps lead to like modes, and find like things. -/
structure StepsAlike (L : Likeness) (left right : Mode × List Finding) : Prop where
  mode : left.1.Alike L right.1
  findings : List.Forall₂ (Finding.Alike L) left.2 right.2

/-! ## Lines -/

namespace SourceLine.Alike

variable {line line' : SourceLine}

theorem trim_eq (alike : line.Alike L line') : Text.trim line.text = Text.trim line'.text :=
  L.trim_eq alike.text

theorem count_eq (alike : line.Alike L line') {c : Char} (visible : Text.isBlank c = false) :
    line.text.count c = line'.text.count c := by
  rw [← Text.count_trim _ visible, alike.trim_eq, Text.count_trim _ visible]

theorem opens_eq (alike : line.Alike L line') : line.opens = line'.opens :=
  alike.count_eq (by decide)

theorem closes_eq (alike : line.Alike L line') : line.closes = line'.closes :=
  alike.count_eq (by decide)

theorem isIdle_eq (alike : line.Alike L line') : line.isIdle = line'.isIdle := by
  unfold SourceLine.isIdle
  rw [alike.trim_eq]

theorem beforeClosing (alike : line.Alike L line') :
    (Mode.beforeClosing line).Alike L (Mode.beforeClosing line') :=
  ⟨alike.number, L.beforeClosing alike.text⟩

end SourceLine.Alike

/-! ## Bodies -/

theorem TableBlock.linesOf_append (body more : List SourceLine) :
    linesOf (body ++ more) = linesOf body ++ linesOf more :=
  List.filter_append body more

theorem TableBlock.linesOf_append_idle (body : List SourceLine) {line : SourceLine}
    (idle : line.isIdle = true) : linesOf (body ++ [line]) = linesOf body := by
  simp [linesOf, idle]

namespace BodiesAlike

variable {body body' more more' : List SourceLine}

theorem nil : BodiesAlike L [] [] :=
  List.Forall₂.nil

theorem append (first : BodiesAlike L body body') (rest : BodiesAlike L more more') :
    BodiesAlike L (body ++ more) (body' ++ more') := by
  rw [BodiesAlike, TableBlock.linesOf_append, TableBlock.linesOf_append]
  exact List.rel_append first rest

theorem singleton {line line' : SourceLine} (alike : line.Alike L line') :
    BodiesAlike L [line] [line'] := by
  unfold BodiesAlike TableBlock.linesOf
  cases idle : line.isIdle with
  | true => simp [idle, ← alike.isIdle_eq]
  | false => simp [idle, ← alike.isIdle_eq, alike]

/-- Lines that say nothing make no difference. -/
theorem append_idle {line line' : SourceLine} (alike : BodiesAlike L body body')
    (idle : line.isIdle = true) (idle' : line'.isIdle = true) :
    BodiesAlike L (body ++ [line]) (body' ++ [line']) := by
  rw [BodiesAlike, TableBlock.linesOf_append_idle body idle,
    TableBlock.linesOf_append_idle body' idle']
  exact alike

/-- Like bodies hold the same values. -/
theorem valuesOf_eq (alike : BodiesAlike L body body') :
    EnumBlock.valuesOf body = EnumBlock.valuesOf body' := by
  have step : ∀ {lines lines' : List SourceLine}, List.Forall₂ (SourceLine.Alike L) lines lines' →
      ∀ values, lines.foldl (fun values line =>
          EnumValue.addNew values (EnumValue.clean line.text)) values =
        lines'.foldl (fun values line =>
          EnumValue.addNew values (EnumValue.clean line.text)) values := by
    intro lines lines' related
    induction related with
    | nil => exact fun _ => rfl
    | cons here _ ih =>
        intro values
        rw [List.foldl_cons, List.foldl_cons, ih, EnumValue.clean, EnumValue.clean, here.trim_eq]
  exact step alike []

end BodiesAlike

/-- What is kept of a last line does not matter if it is blank. -/
theorem OpenBlock.close_last (block : OpenBlock) (kept : List SourceLine) (last : SourceLine) :
    block.close (if Text.isBlankText last.text then kept else kept ++ [last]) =
      block.close (kept ++ [last]) := by
  split
  · next blank =>
    have idle : last.isIdle = true := by
      simp [SourceLine.isIdle, Text.isBlankText_iff.mp blank]
    have lines := TableBlock.linesOf_append_idle kept idle
    have values : EnumBlock.valuesOf (kept ++ [last]) = EnumBlock.valuesOf kept :=
      congrArg (List.foldl _ []) lines
    rw [close, close, lines, values]
  · rfl

theorem OpenBlock.Alike.close {block block' : OpenBlock} {body body' : List SourceLine}
    (alike : block.Alike L block') (bodies : BodiesAlike L body body') :
    (block.close body).Alike L (block'.close body') := by
  unfold OpenBlock.close
  rw [← alike.name, ← alike.kind, bodies.valuesOf_eq]
  split
  · exact .diagnostic alike.line alike.column
  · split
    · exact .enum alike.line
    · exact .table bodies alike.line

theorem OpenBlock.Alike.missingBrace {block block' : OpenBlock} (alike : block.Alike L block') :
    (Finding.diagnostic block.missingBrace).Alike L (.diagnostic block'.missingBrace) := by
  unfold OpenBlock.missingBrace
  rw [← alike.kind]
  exact .diagnostic alike.line alike.endColumn

/-! ## Steps -/

namespace Mode

variable {line line' : SourceLine} {block block' : OpenBlock}

theorem bodyStep_alike {depth : Nat} {kept kept' : List SourceLine}
    (blocks : block.Alike L block') (bodies : BodiesAlike L kept kept')
    (lines : line.Alike L line') :
    StepsAlike L (bodyStep block depth kept line) (bodyStep block' depth kept' line') := by
  unfold bodyStep
  rw [← lines.opens_eq, ← lines.closes_eq]
  split
  · have last := bodies.append (.singleton lines.beforeClosing)
    simp only [OpenBlock.close_last]
    exact ⟨.statement, .cons (blocks.close last) .nil⟩
  · split
    · exact ⟨.statement, .cons (blocks.close bodies) .nil⟩
    · have stays : 0 < depth + line.opens - line.closes := by omega
      simp only
      split
      · have ignored : (Finding.diagnostic (nestedIgnored line)).Alike L
            (.diagnostic (nestedIgnored line')) := .diagnostic lines.number (L.opening lines.text)
        exact ⟨.body blocks stays bodies, .cons ignored .nil⟩
      · split
        · exact ⟨.body blocks stays (bodies.append (.singleton lines)), .nil⟩
        · exact ⟨.body blocks stays bodies, .nil⟩

theorem enter_alike (blocks : block.Alike L block') (tail : List Char) :
    StepsAlike L (enter block tail) (enter block' tail) := by
  unfold enter
  split
  · exact ⟨.body blocks Nat.one_pos .nil, .nil⟩
  · exact bodyStep_alike blocks .nil ⟨blocks.line, L.text_refl tail⟩

theorem ofHeader_alike (lines : line.Alike L line') (header : Header) :
    (OpenBlock.ofHeader line header).Alike L (OpenBlock.ofHeader line' header) := by
  refine ⟨rfl, rfl, lines.number, L.indent lines.text 1, ?_⟩
  rw [OpenBlock.ofHeader, OpenBlock.ofHeader, ← lines.trim_eq, Nat.add_assoc, Nat.add_assoc]
  exact L.indent lines.text _

theorem blockStep_alike (lines : line.Alike L line') :
    StepsAlike L (blockStep line) (blockStep line') := by
  unfold blockStep
  rw [← lines.trim_eq]
  split
  · exact ⟨.statement, .cons (.diagnostic lines.number (L.indent lines.text 1)) .nil⟩
  · simp only
    split
    · exact enter_alike (ofHeader_alike lines _) _
    · exact ⟨.awaitingBrace (ofHeader_alike lines _), .nil⟩

theorem referenceFinding_alike (lines : line.Alike L line') :
    (referenceFinding line).Alike L (referenceFinding line') := by
  unfold referenceFinding ReferenceShape.toReference?
  simp only
  rw [← lines.trim_eq]
  split
  · exact .diagnostic lines.number (L.indent lines.text 1)
  · next shape read =>
    cases Direction.ofGlyph? shape.glyph with
    | none =>
        simp only [Option.map_none, Nat.add_assoc]
        exact .diagnostic lines.number (L.indent lines.text _)
    | some direction => exact .reference lines.number

theorem unrecognized_alike (lines : line.Alike L line') :
    (Finding.diagnostic (unrecognized line)).Alike L (.diagnostic (unrecognized line')) := by
  unfold unrecognized
  rw [← Text.firstWord_trim, lines.trim_eq, Text.firstWord_trim]
  exact .diagnostic lines.number (L.indent lines.text 1)

theorem statementStep_alike (lines : line.Alike L line') :
    StepsAlike L (statementStep line) (statementStep line') := by
  unfold statementStep opensStray
  rw [← lines.isIdle_eq, ← lines.trim_eq, ← lines.opens_eq, ← lines.closes_eq]
  split
  · exact ⟨.statement, .nil⟩
  · split
    · exact blockStep_alike lines
    · exact ⟨.statement, .cons (referenceFinding_alike lines) .nil⟩
    · refine ⟨?_, .cons (unrecognized_alike lines) .nil⟩
      simp only
      split
      · exact .stray lines.number Nat.one_pos
      · exact .statement

theorem headerStep_alike (blocks : block.Alike L block') (lines : line.Alike L line') :
    StepsAlike L (headerStep block line) (headerStep block' line') := by
  unfold headerStep
  rw [← lines.trim_eq]
  split
  · exact enter_alike blocks _
  · have step := statementStep_alike lines
    exact ⟨step.mode, .cons blocks.missingBrace step.findings⟩

theorem strayStep_alike {start start' : Int} {depth : Nat} (starts : L.number start start')
    (lines : line.Alike L line') :
    (strayStep start depth line).Alike L (strayStep start' depth line') := by
  unfold strayStep
  rw [← lines.opens_eq, ← lines.closes_eq]
  split
  · exact .statement
  · exact .stray starts (by omega)

variable {mode mode' : Mode}

/-- The reader takes like steps on like lines. -/
theorem step_alike (modes : mode.Alike L mode') (lines : line.Alike L line') :
    StepsAlike L (step mode line) (step mode' line') := by
  cases modes with
  | statement => exact statementStep_alike lines
  | awaitingBrace blocks => exact headerStep_alike blocks lines
  | body blocks _ bodies => exact bodyStep_alike blocks bodies lines
  | stray starts => exact ⟨strayStep_alike starts lines, .nil⟩

theorem finish_alike (modes : mode.Alike L mode') :
    List.Forall₂ (Finding.Alike L) (finish mode) (finish mode') := by
  cases modes with
  | statement => exact .nil
  | awaitingBrace blocks => exact .cons blocks.missingBrace .nil
  | body blocks => exact .cons (.diagnostic blocks.line (L.column_refl 1)) .nil
  | stray starts => exact .cons (.diagnostic starts (L.column_refl 1)) .nil

/-- Like lines lead to like modes. -/
theorem after_alike {lines lines' : List SourceLine} (modes : mode.Alike L mode')
    (related : List.Forall₂ (SourceLine.Alike L) lines lines') :
    (after mode lines).Alike L (after mode' lines') := by
  induction related generalizing mode mode' with
  | nil => exact modes
  | cons here _ ih => exact ih (step_alike modes here).mode

/-- **Like readings.** From like modes, the reader finds like things on like lines. -/
theorem run_alike {lines lines' : List SourceLine} (modes : mode.Alike L mode')
    (related : List.Forall₂ (SourceLine.Alike L) lines lines') :
    List.Forall₂ (Finding.Alike L) (run mode lines) (run mode' lines') := by
  induction related generalizing mode mode' with
  | nil => exact finish_alike modes
  | cons here _ ih =>
      have step := step_alike modes here
      exact List.rel_append step.findings (ih step.mode)

end Mode

/-- Numbering keeps what is alike, if the numbers correspond all along. -/
theorem SourceLine.numbered_alike {texts texts' : List (List Char)} {number number' : Int}
    (related : List.Forall₂ L.text texts texts')
    (corresponds : ∀ offset : Nat, L.number (number + offset) (number' + offset)) :
    List.Forall₂ (Alike L) (numbered number texts) (numbered number' texts') := by
  induction related generalizing number number' with
  | nil => exact .nil
  | cons here _ ih =>
      refine .cons ⟨by simpa using corresponds 0, here⟩ (ih fun offset => ?_)
      have next := corresponds (offset + 1)
      rw [Int.natCast_add, Int.natCast_one, Int.add_comm (offset : Int), ← Int.add_assoc,
        ← Int.add_assoc] at next
      exact next

/-- If numbers do not matter, the mode that a source leads to is like itself. -/
theorem Source.ending_alike (free : ∀ number number', L.number number number')
    (lines : List (List Char)) : (ending lines).Alike L (ending lines) :=
  Mode.after_alike .statement (SourceLine.numbered_alike
    (List.forall₂_same.mpr fun _ _ => L.text_refl _) fun _ => free _ _)

end ErdDeploy
