import ErdDeploy.Proofs.Source.HollowLines

/-!
The layout of a source.

Two sources differ in their layout (`Source.Relaid`) if the lines of one are those of the
other with other blanks around them, and with further blank lines between them. Only
directly behind a header that waits for its brace a blank line is no layout, as the brace
has to open the next line.

Sources that differ in their layout lead to like modes line by line, so the same is found
in both, in other places (`Relaid.findings_alike`).
-/

namespace ErdDeploy

/-- The same text between any blanks, on lines with any numbers. -/
def Likeness.trimmed : Likeness :=
  .ofTexts (fun cs cs' => Text.trim cs = Text.trim cs') (fun _ => rfl) (fun same => same)
    fun same => by
      rw [← Text.trim_takeWhile_ne (by decide), same, Text.trim_takeWhile_ne (by decide)]

namespace Source

/-- The second source has the lines of the first with any blanks around them, and further blank
lines, but none directly behind a header that lacks its brace. -/
inductive Relaid : List (List Char) → List (List Char) → Prop
  | nil : Relaid [] []
  | line {lines lines' : List (List Char)} {line line' : List Char} : Relaid lines lines' →
    Text.trim line = Text.trim line' → Relaid (lines ++ [line]) (lines' ++ [line'])
  | blank {lines lines' : List (List Char)} {line : List Char} : Relaid lines lines' →
    ¬ EndsInHeader lines' → Text.AllBlank line → Relaid lines (lines' ++ [line])

/-! ## One more line -/

theorem ending_append_line (lines : List (List Char)) (line : List Char) :
    ending (lines ++ [line]) = (Mode.step (ending lines) ⟨1 + lines.length, line⟩).1 := by
  rw [ending, SourceLine.numbered_append, Mode.after_append]
  rfl

theorem yields_append_line (lines : List (List Char)) (line : List Char) :
    Mode.yields .statement (SourceLine.numbered 1 (lines ++ [line])) =
      Mode.yields .statement (SourceLine.numbered 1 lines) ++
        (Mode.step (ending lines) ⟨1 + lines.length, line⟩).2 := by
  rw [SourceLine.numbered_append, Mode.yields_append, ending]
  simp [SourceLine.numbered, Mode.yields]

/-- A blank line does nothing, unless a header waits for its brace. -/
theorem step_blank {mode mode' : Mode} {line : SourceLine} (modes : mode.Alike .trimmed mode')
    (ready : ∀ block, mode' ≠ .awaitingBrace block) (blank : Text.AllBlank line.text) :
    mode.Alike .trimmed (Mode.step mode' line).1 ∧ (Mode.step mode' line).2 = [] := by
  have trimmed : Text.trim line.text = [] := Text.trim_eq_nil_iff.mpr blank
  have count : ∀ c, Text.isBlank c = false → line.text.count c = 0 := by
    intro c visible
    rw [← Text.count_trim _ visible, trimmed]
    rfl
  have opens : line.opens = 0 := count _ (by decide)
  have closes : line.closes = 0 := count _ (by decide)
  cases opened : mode.isOpen with
  | true =>
      obtain ⟨same, -, nothing⟩ := (Mode.move_step mode' line).of_hollow modes opened
        (SourceLine.isHollow_of_blank trimmed) (opens.trans closes.symm)
      exact ⟨same, nothing opens⟩
  | false =>
      cases modes with
      | statement =>
          have idle : line.isIdle = true := by simp [SourceLine.isIdle, trimmed]
          rw [Mode.step, Mode.statementStep, if_pos idle]
          exact ⟨.statement, rfl⟩
      | @awaitingBrace block block' => exact absurd rfl (ready block')
      | body => cases opened
      | stray => cases opened

/-! ## Whole sources -/

variable {lines lines' : List (List Char)}

theorem Relaid.yields_alike (relaid : Relaid lines lines') :
    (ending lines).Alike .trimmed (ending lines') ∧
      List.Forall₂ (Finding.Alike .trimmed)
        (Mode.yields .statement (SourceLine.numbered 1 lines))
        (Mode.yields .statement (SourceLine.numbered 1 lines')) := by
  -- Both sources grow at their ends, so the modes carried along are those before the next line.
  induction relaid with
  | nil => exact ⟨.statement, .nil⟩
  | @line lines lines' line line' _ same ih =>
      obtain ⟨modes, found⟩ := ih
      have step := Mode.step_alike modes
        (⟨trivial, same⟩ : SourceLine.Alike .trimmed ⟨1 + lines.length, line⟩
          ⟨1 + lines'.length, line'⟩)
      rw [ending_append_line, ending_append_line, yields_append_line, yields_append_line]
      exact ⟨step.mode, List.rel_append found step.findings⟩
  | @blank lines lines' line _ ready blank ih =>
      obtain ⟨modes, found⟩ := ih
      have ready : ∀ block, ending lines' ≠ .awaitingBrace block := fun block waits =>
        ready (endsInHeader_of_awaiting waits)
      have blank : Text.AllBlank (SourceLine.mk (1 + lines'.length) line).text := blank
      obtain ⟨same, nothing⟩ := step_blank modes ready blank
      rw [ending_append_line, yields_append_line, nothing, List.append_nil]
      exact ⟨same, found⟩

/-- **Layout.** In sources that differ in their layout the same is found, in other places. -/
theorem Relaid.findings_alike (relaid : Relaid lines lines') :
    List.Forall₂ (Finding.Alike .trimmed) (findings (SourceLine.numbered 1 lines))
      (findings (SourceLine.numbered 1 lines')) := by
  obtain ⟨modes, found⟩ := relaid.yields_alike
  rw [findings_eq, findings_eq]
  exact List.rel_append found (Mode.finish_alike modes)

end Source

end ErdDeploy
