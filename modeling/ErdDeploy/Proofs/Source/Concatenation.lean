import ErdDeploy.Proofs.Data.Lists
import ErdDeploy.Proofs.Source.Likeness

/-!
One source after another.

`Extract.ofLines_append`: lines that leave no block open, followed by other lines, say
what the first ones say and then what the others say, further down by the number of the
first lines. So nothing in a source, however malformed, hides or changes anything behind
it once its blocks are closed. The one exception is a header at the end of the first
lines that lacks its brace: it takes the brace that the other lines begin with.

Reading lines further down is reading lines with other numbers, so the numbers are moved
by the likeness `Likeness.shift`.
-/

namespace ErdDeploy

/-! ## Shifted findings -/

section

variable {offset : Int}

theorem SourceLine.Alike.eq_shift {line line' : SourceLine}
    (alike : line.Alike (.shift offset) line') : line' = line.shift offset := by
  obtain ⟨number, text⟩ := line
  obtain ⟨number', text'⟩ := line'
  have further : number' = number + offset := alike.number
  have same : text' = text := alike.text
  rw [further, same, SourceLine.shift]

theorem Finding.Alike.eq_shift {finding finding' : Finding}
    (alike : finding.Alike (.shift offset) finding') : finding' = finding.shift offset := by
  cases alike with
  | enum line =>
      cases line
      rfl
  | table lines line =>
      cases line
      rw [eq_map_of_forall₂ lines fun _ _ here => here.eq_shift, Finding.shift]
  | reference line =>
      cases line
      rfl
  | diagnostic line column =>
      cases line
      cases column
      rfl

end

/-- Lines that are read from a new statement are found the same wherever they stand. -/
theorem Mode.run_shift (offset : Int) (lines : List (List Char)) :
    run .statement (SourceLine.numbered (1 + offset) lines) =
      (findings (SourceLine.numbered 1 lines)).map (·.shift offset) := by
  have related : List.Forall₂ (Likeness.shift offset).text lines lines :=
    List.forall₂_same.mpr fun _ _ => rfl
  have lines : List.Forall₂ (SourceLine.Alike (.shift offset)) (SourceLine.numbered 1 lines)
      (SourceLine.numbered (1 + offset) lines) := by
    refine SourceLine.numbered_alike related fun width => ?_
    change 1 + offset + width = 1 + width + offset
    omega
  exact eq_map_of_forall₂ (run_alike .statement lines) fun _ _ here => here.eq_shift

/-- A header that lacks its brace is reported, and the lines behind it are read on their own. -/
theorem Mode.run_awaitingBrace {block : OpenBlock} {number : Int} {lines : List (List Char)}
    (other : ¬ Source.BeginsWithBrace lines) :
    run (.awaitingBrace block) (SourceLine.numbered number lines) =
      .diagnostic block.missingBrace :: run .statement (SourceLine.numbered number lines) := by
  cases lines with
  | nil => rfl
  | cons line rest =>
      have step : Mode.step (.awaitingBrace block) ⟨number, line⟩ =
          ((statementStep ⟨number, line⟩).1,
            .diagnostic block.missingBrace :: (statementStep ⟨number, line⟩).2) := by
        rw [Mode.step, headerStep]
        split
        · next tail brace =>
          exact absurd (Source.beginsWithBrace_cons.mpr ⟨tail, brace⟩) other
        · rfl
      rw [SourceLine.numbered, run, step, run, Mode.step, List.cons_append]

/-- Where the first lines leave nothing open, the other lines are read on their own. -/
theorem Source.findings_append_of_closed {first more : List (List Char)}
    (closed : ¬ LeavesOpen first) (apart : ¬ (EndsInHeader first ∧ BeginsWithBrace more)) :
    findings (SourceLine.numbered 1 (first ++ more)) =
      findings (SourceLine.numbered 1 first) ++
        (findings (SourceLine.numbered 1 more)).map (·.shift first.length) := by
  rw [findings_append, findings_eq, List.append_assoc, ← Mode.run_shift]
  congr 1
  rcases ending_cases first with statement | ⟨block, waits⟩ | isOpen
  · rw [statement]
    rfl
  · have other : ¬ BeginsWithBrace more := fun brace =>
      apart ⟨endsInHeader_of_awaiting waits, brace⟩
    rw [waits, Mode.run_awaitingBrace other]
    rfl
  · exact absurd isOpen closed

/-! ## Extracts -/

namespace Extract

/-- What one source says, and then what another says. -/
instance : Append Extract where
  append first more :=
    ⟨first.enums ++ more.enums, first.tables ++ more.tables, first.references ++ more.references,
      first.diagnostics ++ more.diagnostics⟩

/-- The same statements and diagnostics some lines further down. -/
def shift (offset : Int) (e : Extract) : Extract where
  enums := e.enums.map fun block => { block with line := block.line + offset }
  tables := e.tables.map fun block =>
    ⟨block.name, block.lines.map (·.shift offset), block.line + offset⟩
  references := e.references.map (·.shift offset)
  diagnostics := e.diagnostics.map fun d => { d with line := d.line + offset }

theorem ofFindings_append (first more : List Finding) :
    ofFindings (first ++ more) = ofFindings first ++ ofFindings more := by
  simp only [ofFindings, List.filterMap_append]
  rfl

theorem ofFindings_shift (offset : Int) (findings : List Finding) :
    ofFindings (findings.map (·.shift offset)) = (ofFindings findings).shift offset := by
  simp only [ofFindings, shift, List.filterMap_map, List.map_filterMap]
  congr 1 <;>
    · refine congrArg (fun view => findings.filterMap view) (funext fun finding => ?_)
      cases finding <;> rfl

/-- **Concatenation.** Lines that leave no block open, followed by other lines, say what the first
ones say and then, further down, what the others say, unless a header at the end of the first lines
finds its brace at the front of the others. -/
theorem ofLines_append {first more : List (List Char)} (closed : ¬ Source.LeavesOpen first)
    (apart : ¬ (Source.EndsInHeader first ∧ Source.BeginsWithBrace more)) :
    ofLines (first ++ more) = ofLines first ++ (ofLines more).shift first.length := by
  rw [ofLines, Source.findings_append_of_closed closed apart, ofFindings_append, ofFindings_shift]
  rfl

/-- A table without a name, and a header without a brace in front of a line that is no brace. -/
theorem ofLines_append_of_lacking_brace :
    ¬ Source.LeavesOpen ["Table \x7b".toList, "x int".toList, "\x7d".toList, "Enum S".toList] ∧
      ¬ (Source.EndsInHeader ["Table \x7b".toList, "x int".toList, "\x7d".toList,
          "Enum S".toList] ∧
        Source.BeginsWithBrace ["Enum R \x7b A".toList, "B \x7d".toList]) ∧
      ofLines (["Table \x7b".toList, "x int".toList, "\x7d".toList, "Enum S".toList] ++
          ["Enum R \x7b A".toList, "B \x7d".toList]) =
        ofLines ["Table \x7b".toList, "x int".toList, "\x7d".toList, "Enum S".toList] ++
          (ofLines ["Enum R \x7b A".toList, "B \x7d".toList]).shift 4 := by
  have closed : ¬ Source.LeavesOpen
      ["Table \x7b".toList, "x int".toList, "\x7d".toList, "Enum S".toList] := by
    decide +kernel
  have other : ¬ Source.BeginsWithBrace ["Enum R \x7b A".toList, "B \x7d".toList] := by
    decide +kernel
  exact ⟨closed, fun both => other both.2, ofLines_append closed fun both => other both.2⟩

end Extract

end ErdDeploy
