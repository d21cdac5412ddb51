import ErdDeploy.Source.Reading

/-!
What one line does.

A line of a body closes its block, is kept, or is passed over (`BodyMove`). A line where
a statement may begin says nothing, is reported, is a reference, or opens a block
(`StatementMove`). Every step of the reader is one of these moves (`Move`), whichever
mode it is in (`move_step`), so what holds of all moves holds of all steps. In particular
there are few kinds of diagnostics that a step may yield (`Move.notice`).
-/

namespace ErdDeploy

/-- A closed block declares an enum or a table, and no reference. -/
theorem OpenBlock.close_ne_reference (block : OpenBlock) (body : List SourceLine) (r : Reference) :
    block.close body ≠ .reference r := by
  unfold OpenBlock.close
  split
  · exact fun same => nomatch same
  · split
    · exact fun same => nomatch same
    · exact fun same => nomatch same

namespace Mode

/-- What a line does in the body of a block. -/
inductive BodyMove (block : OpenBlock) (depth : Nat) (kept : List SourceLine)
    (line : SourceLine) : Mode → List Finding → Prop
  /-- It only closes the block, perhaps behind some content. -/
  | last : depth = 1 → line.opens = 0 → 0 < line.closes →
    BodyMove block depth kept line .statement
      [block.close (if Text.isBlankText (beforeClosing line).text then kept
        else kept ++ [beforeClosing line])]
  /-- It closes the block along with others. -/
  | closed : depth + line.opens ≤ line.closes →
    BodyMove block depth kept line .statement [block.close kept]
  /-- It opens a block inside the body. -/
  | nested : line.closes < depth + line.opens → 0 < line.opens →
    BodyMove block depth kept line (.body block (depth + line.opens - line.closes) kept)
      [.diagnostic (nestedIgnored line)]
  | kept : depth = 1 → line.opens = 0 → line.closes = 0 →
    BodyMove block depth kept line (.body block 1 (kept ++ [line])) []
  /-- It belongs to a block inside the body. -/
  | passed : line.closes < depth → line.opens = 0 → 1 < depth →
    BodyMove block depth kept line (.body block (depth - line.closes) kept) []

/-- How a body is entered with what follows the opening brace on its line. -/
inductive Entry (block : OpenBlock) (tail : List Char) : Mode → List Finding → Prop
  | blank : Text.isBlankText tail = true → Entry block tail (.body block 1 []) []
  | line {mode : Mode} {findings : List Finding} : Text.isBlankText tail = false →
    BodyMove block 1 [] ⟨block.line, tail⟩ mode findings → Entry block tail mode findings

/-- What a line does where a statement may begin. -/
inductive StatementMove (line : SourceLine) : Mode → List Finding → Prop
  | idle : line.isIdle = true → StatementMove line .statement []
  | malformed : line.isIdle = false → keywordOf (Text.trim line.text) = .block →
    Header.read? (Text.trim line.text) = none →
    StatementMove line .statement
      [.diagnostic ⟨line.number, Text.indent line.text + 1, "Malformed block header", .error⟩]
  | header {header : Header} : line.isIdle = false →
    keywordOf (Text.trim line.text) = .block →
    Header.read? (Text.trim line.text) = some header → header.tail = none →
    StatementMove line (.awaitingBrace (.ofHeader line header)) []
  | block {header : Header} {tail : List Char} {mode : Mode} {findings : List Finding} :
    line.isIdle = false → keywordOf (Text.trim line.text) = .block →
    Header.read? (Text.trim line.text) = some header → header.tail = some tail →
    Entry (.ofHeader line header) tail mode findings → StatementMove line mode findings
  | reference : line.isIdle = false → keywordOf (Text.trim line.text) = .reference →
    StatementMove line .statement [referenceFinding line]
  | stray : line.isIdle = false → keywordOf (Text.trim line.text) = .unknown →
    opensStray line = true →
    StatementMove line (.stray line.number 1) [.diagnostic (unrecognized line)]
  | unknown : line.isIdle = false → keywordOf (Text.trim line.text) = .unknown →
    opensStray line = false → StatementMove line .statement [.diagnostic (unrecognized line)]

/-- What a line does in any mode. -/
inductive Move : Mode → SourceLine → Mode → List Finding → Prop
  | statement {line : SourceLine} {mode : Mode} {findings : List Finding} :
    StatementMove line mode findings → Move .statement line mode findings
  /-- The brace of a header opens this line. -/
  | brace {block : OpenBlock} {line : SourceLine} {tail : List Char} {mode : Mode}
    {findings : List Finding} : Text.trim line.text = '\x7b' :: tail →
    Entry block tail mode findings → Move (.awaitingBrace block) line mode findings
  | lacking {block : OpenBlock} {line : SourceLine} {mode : Mode} {findings : List Finding} :
    (∀ tail, Text.trim line.text ≠ '\x7b' :: tail) → StatementMove line mode findings →
    Move (.awaitingBrace block) line mode (.diagnostic block.missingBrace :: findings)
  | body {block : OpenBlock} {depth : Nat} {kept : List SourceLine} {line : SourceLine}
    {mode : Mode} {findings : List Finding} : BodyMove block depth kept line mode findings →
    Move (.body block depth kept) line mode findings
  | strayClosed {start : Int} {depth : Nat} {line : SourceLine} :
    depth + line.opens ≤ line.closes → Move (.stray start depth) line .statement []
  | strayed {start : Int} {depth : Nat} {line : SourceLine} :
    line.closes < depth + line.opens →
    Move (.stray start depth) line (.stray start (depth + line.opens - line.closes)) []

/-! ## Every step is a move -/

section

variable {block : OpenBlock} {depth : Nat} {kept : List SourceLine} {line : SourceLine}

theorem bodyMove_bodyStep : BodyMove block depth kept line (bodyStep block depth kept line).1
    (bodyStep block depth kept line).2 := by
  unfold bodyStep
  split
  · next only => exact .last only.1 only.2.1 only.2.2
  · next more =>
    split
    · next closes => exact .closed closes
    · next stays =>
      simp only
      split
      · next opens => exact .nested (by omega) opens
      · split
        · next same =>
          have once : depth = 1 := by omega
          rw [same.1]
          exact .kept once (by omega) same.2
        · next deeper =>
          rw [show depth + line.opens - line.closes = depth - line.closes by omega]
          exact .passed (by omega) (by omega) (by omega)

theorem entry_enter (tail : List Char) :
    Entry block tail (enter block tail).1 (enter block tail).2 := by
  unfold enter
  split
  · next blank => exact .blank blank
  · next content =>
    rw [Bool.not_eq_true] at content
    exact .line content bodyMove_bodyStep

theorem statementMove_statementStep :
    StatementMove line (statementStep line).1 (statementStep line).2 := by
  unfold statementStep
  split
  · next idle => exact .idle idle
  · next speaks =>
    rw [Bool.not_eq_true] at speaks
    split
    · next keyword =>
      unfold blockStep
      split
      · next none => exact .malformed speaks keyword none
      · next header read =>
        simp only
        split
        · next tail brace => exact .block speaks keyword read brace (entry_enter tail)
        · next open' => exact .header speaks keyword read open'
    · next keyword => exact .reference speaks keyword
    · next keyword =>
      simp only
      split
      · next stray => exact .stray speaks keyword stray
      · next plain =>
        rw [Bool.not_eq_true] at plain
        exact .unknown speaks keyword plain

/-- Every step of the reader is a move. -/
theorem move_step (mode : Mode) (line : SourceLine) :
    Move mode line (step mode line).1 (step mode line).2 := by
  cases mode with
  | statement => exact .statement statementMove_statementStep
  | awaitingBrace block =>
      rw [step, headerStep]
      split
      · next tail brace => exact .brace brace (entry_enter tail)
      · next lacks => exact .lacking lacks statementMove_statementStep
  | body block depth kept => exact .body bodyMove_bodyStep
  | stray start depth =>
      rw [step, strayStep]
      split
      · next closes => exact .strayClosed closes
      · next stays => exact .strayed (by omega)

end

/-! ## What steps report -/

/-- What a step may report, of whichever line or block. -/
inductive Notice : Diagnostic → Prop
  | malformed {line : SourceLine} : keywordOf (Text.trim line.text) = .block →
    Header.read? (Text.trim line.text) = none →
    Notice ⟨line.number, Text.indent line.text + 1, "Malformed block header", .error⟩
  | unnamed (block : OpenBlock) : Notice
    ⟨block.line, block.column, block.kind.title ++ " block has no name", .error⟩
  | lacking (block : OpenBlock) : Notice block.missingBrace
  | nested (line : SourceLine) : Notice (nestedIgnored line)
  | unrecognized (line : SourceLine) : Notice (unrecognized line)
  | relationship (line : SourceLine) : Notice
    ⟨line.number, Text.indent line.text + 1, "Malformed relationship line", .error⟩
  | direction (line : SourceLine) (shape : ReferenceShape) : Notice
    ⟨line.number, Text.indent line.text + shape.glyphOffset + 1,
      "Unrecognized relationship direction '" ++ shape.glyph ++ "'", .error⟩

section

variable {line : SourceLine} {mode : Mode} {findings : List Finding} {d : Diagnostic}

theorem notice_of_close {block : OpenBlock} {body : List SourceLine}
    (same : block.close body = .diagnostic d) : Notice d := by
  unfold OpenBlock.close at same
  split at same
  · cases same
    exact .unnamed block
  · split at same
    · cases same
    · cases same

theorem notice_of_referenceFinding (same : referenceFinding line = .diagnostic d) : Notice d := by
  unfold referenceFinding at same
  simp only at same
  split at same
  · cases same
    exact .relationship line
  · next shape _ =>
    split at same
    · cases same
    · cases same
      exact .direction line shape

theorem BodyMove.notice {block : OpenBlock} {depth : Nat} {kept : List SourceLine}
    (move : BodyMove block depth kept line mode findings) (member : .diagnostic d ∈ findings) :
    Notice d := by
  cases move with
  | last => exact notice_of_close (List.mem_singleton.mp member).symm
  | closed => exact notice_of_close (List.mem_singleton.mp member).symm
  | nested =>
      cases List.mem_singleton.mp member
      exact .nested line
  | kept => cases member
  | passed => cases member

theorem Entry.notice {block : OpenBlock} {tail : List Char}
    (entry : Entry block tail mode findings) (member : .diagnostic d ∈ findings) : Notice d := by
  cases entry with
  | blank => cases member
  | line _ move => exact move.notice member

theorem StatementMove.notice (move : StatementMove line mode findings)
    (member : .diagnostic d ∈ findings) : Notice d := by
  cases move with
  | idle => cases member
  | malformed _ told none =>
      cases List.mem_singleton.mp member
      exact .malformed told none
  | header => cases member
  | block _ _ _ _ entry => exact entry.notice member
  | reference => exact notice_of_referenceFinding (List.mem_singleton.mp member).symm
  | stray =>
      cases List.mem_singleton.mp member
      exact .unrecognized line
  | unknown =>
      cases List.mem_singleton.mp member
      exact .unrecognized line

/-- What a step reports is of one of these kinds. -/
theorem Move.notice {next : Mode} (move : Move mode line next findings)
    (member : .diagnostic d ∈ findings) : Notice d := by
  cases move with
  | statement move => exact move.notice member
  | brace _ entry => exact entry.notice member
  | @lacking block _ _ _ _ move =>
      rcases List.mem_cons.mp member with same | later
      · cases same
        exact .lacking block
      · exact move.notice later
  | body move => exact move.notice member
  | strayClosed => cases member
  | strayed => cases member

end

end Mode

end ErdDeploy
