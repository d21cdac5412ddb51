import ErdDeploy.Proofs.Source.Steps

/-!
Reading a source in parts.

The reader remembers its mode and nothing else, so reading some lines and then some more
is reading the first ones, `Mode.yields`, and then the others from the mode that the
first ones lead to, `Mode.after` (`run_append`).

That mode can be told from what the lines report when they are read on their own. A
block is open exactly if they report an unterminated block (`leavesOpen_iff`), and a
header that still waits for its brace is reported as lacking it, on the last line
(`endsInHeader_of_awaiting`).
-/

namespace ErdDeploy

namespace Mode

/-- The mode that some lines lead to. -/
def after : Mode → List SourceLine → Mode
  | mode, [] => mode
  | mode, line :: lines => after (step mode line).1 lines

/-- What is found on some lines, without what their end would report. -/
def yields : Mode → List SourceLine → List Finding
  | _, [] => []
  | mode, line :: lines => (step mode line).2 ++ yields (step mode line).1 lines

theorem run_eq (mode : Mode) (lines : List SourceLine) :
    run mode lines = yields mode lines ++ finish (after mode lines) := by
  induction lines generalizing mode with
  | nil => rfl
  | cons line lines ih => rw [run, ih, yields, after, List.append_assoc]

/-- More lines are read from the mode that the first ones lead to. -/
theorem run_append (mode : Mode) (first more : List SourceLine) :
    run mode (first ++ more) = yields mode first ++ run (after mode first) more := by
  induction first generalizing mode with
  | nil => rfl
  | cons line lines ih => rw [List.cons_append, run, ih, yields, after, List.append_assoc]

theorem after_append (mode : Mode) (first more : List SourceLine) :
    after mode (first ++ more) = after (after mode first) more := by
  induction first generalizing mode with
  | nil => rfl
  | cons line lines ih => rw [List.cons_append, after, ih, after]

theorem yields_append (mode : Mode) (first more : List SourceLine) :
    yields mode (first ++ more) = yields mode first ++ yields (after mode first) more := by
  induction first generalizing mode with
  | nil => rfl
  | cons line lines ih => rw [List.cons_append, yields, ih, yields, after, List.append_assoc]

/-- A property of findings that every step has, all findings have. -/
theorem forall_yields {P : Finding → Prop}
    (steps : ∀ mode line, ∀ finding ∈ (step mode line).2, P finding) (mode : Mode)
    (lines : List SourceLine) : ∀ finding ∈ yields mode lines, P finding := by
  induction lines generalizing mode with
  | nil => exact fun _ none => nomatch none
  | cons line lines ih =>
      intro finding member
      rcases List.mem_append.mp member with here | later
      · exact steps mode line finding here
      · exact ih _ finding later

/-! ## Headers without a brace -/

theorem Entry.not_awaiting {block other : OpenBlock} {tail : List Char} {findings : List Finding}
    (entry : Entry block tail (.awaitingBrace other) findings) : False := by
  cases entry with
  | line _ move => cases move

/-- A header that waits for its brace stands on the line just read. -/
theorem Move.line_eq {mode : Mode} {line : SourceLine} {block : OpenBlock}
    {findings : List Finding} (move : Move mode line (.awaitingBrace block) findings) :
    block.line = line.number := by
  have header : ∀ {findings}, StatementMove line (.awaitingBrace block) findings →
      block.line = line.number := by
    intro findings move
    cases move with
    | header => rfl
    | block _ _ _ _ entry => exact entry.not_awaiting.elim
  cases move with
  | statement move => exact header move
  | brace _ entry => exact entry.not_awaiting.elim
  | lacking _ move => exact header move
  | body move => cases move

theorem line_of_step {mode : Mode} {line : SourceLine} {block : OpenBlock}
    (waits : (step mode line).1 = .awaitingBrace block) : block.line = line.number := by
  have move := move_step mode line
  rw [waits] at move
  exact move.line_eq

/-! ## Blocks that are not closed -/

/-- Whether a block, known or not, is open. -/
def isOpen : Mode → Bool
  | .body .. => true
  | .stray .. => true
  | _ => false

/-- The finding is no report of a block that is not closed. -/
def Spares (finding : Finding) : Prop :=
  ∀ d, finding = .diagnostic d → d.message ≠ "Unterminated block: missing '\x7d'"

theorem Notice.spares {d : Diagnostic} (notice : Notice d) : Spares (.diagnostic d) := by
  intro other found same
  cases found
  have same := congrArg String.toList same
  cases notice with
  | malformed => simp at same
  | unnamed block => cases kind : block.kind <;> simp [kind, BlockKind.title] at same
  | lacking => simp [OpenBlock.missingBrace] at same
  | nested => simp [nestedIgnored] at same
  | unrecognized => simp [Mode.unrecognized] at same
  | relationship => simp at same
  | direction => simp at same

end Mode

/-! ## Lines on their own -/

theorem SourceLine.numbered_append (number : Int) (first more : List (List Char)) :
    numbered number (first ++ more) =
      numbered number first ++ numbered (number + first.length) more := by
  induction first generalizing number with
  | nil => simp [numbered]
  | cons text texts ih =>
      have next : number + 1 + (texts.length : Int) = number + ((text :: texts).length : Int) := by
        rw [List.length_cons]
        omega
      rw [List.cons_append, numbered, ih, next, numbered, List.cons_append]

/-- The statements and diagnostics of some lines. -/
def Extract.ofLines (lines : List (List Char)) : Extract :=
  .ofFindings (findings (SourceLine.numbered 1 lines))

/-- A text says what its lines say. -/
theorem Extract.ofText_eq (text : String) :
    ofText text = ofLines (Text.splitLines text.toList) :=
  rfl

namespace Source

/-- The mode that a source leads to. -/
def ending (lines : List (List Char)) : Mode :=
  Mode.after .statement (SourceLine.numbered 1 lines)

/-- The lines report a block that is not closed. -/
def LeavesOpen (lines : List (List Char)) : Prop :=
  ∃ d ∈ (Extract.ofLines lines).diagnostics, d.message = "Unterminated block: missing '\x7d'"

/-- The lines report their last line as a header that lacks its brace. -/
def EndsInHeader (lines : List (List Char)) : Prop :=
  ∃ d ∈ (Extract.ofLines lines).diagnostics, d.line = lines.length ∧
    ∃ kind : BlockKind, d.message = "Expected '\x7b' after " ++ kind.keyword ++ " header"

/-- The first line begins with an opening brace. -/
def BeginsWithBrace (lines : List (List Char)) : Prop :=
  (lines.head?.bind fun line => (Text.trim line).head?) = some '\x7b'

variable {lines : List (List Char)}

instance {P : BlockKind → Prop} [DecidablePred P] : Decidable (∃ kind, P kind) :=
  decidable_of_iff (P .enum ∨ P .table) <| by
    constructor
    · exact fun either => either.elim (fun holds => ⟨_, holds⟩) fun holds => ⟨_, holds⟩
    · rintro ⟨kind, holds⟩
      cases kind with
      | enum => exact Or.inl holds
      | table => exact Or.inr holds

instance : Decidable (EndsInHeader lines) :=
  inferInstanceAs (Decidable (∃ d ∈ (Extract.ofLines lines).diagnostics, d.line = lines.length ∧
    ∃ kind : BlockKind, d.message = "Expected '\x7b' after " ++ kind.keyword ++ " header"))

instance : Decidable (LeavesOpen lines) :=
  inferInstanceAs (Decidable (∃ d ∈ (Extract.ofLines lines).diagnostics,
    d.message = "Unterminated block: missing '\x7d'"))

instance : Decidable (BeginsWithBrace lines) :=
  inferInstanceAs (Decidable (_ = some '\x7b'))

theorem beginsWithBrace_cons {line : List Char} {rest : List (List Char)} :
    BeginsWithBrace (line :: rest) ↔ ∃ tail, Text.trim line = '\x7b' :: tail :=
  List.head?_eq_some_iff

theorem findings_eq (lines : List (List Char)) : findings (SourceLine.numbered 1 lines) =
    Mode.yields .statement (SourceLine.numbered 1 lines) ++ Mode.finish (ending lines) :=
  Mode.run_eq _ _

theorem findings_append (first more : List (List Char)) :
    findings (SourceLine.numbered 1 (first ++ more)) =
      Mode.yields .statement (SourceLine.numbered 1 first) ++
        Mode.run (ending first) (SourceLine.numbered (1 + first.length) more) := by
  rw [findings, SourceLine.numbered_append, Mode.run_append, ending]

theorem mem_diagnostics_ofLines {d : Diagnostic} :
    d ∈ (Extract.ofLines lines).diagnostics ↔
      .diagnostic d ∈ Mode.yields .statement (SourceLine.numbered 1 lines) ∨
        .diagnostic d ∈ Mode.finish (ending lines) := by
  rw [← List.mem_append, ← findings_eq, Extract.ofLines, Extract.ofFindings, List.mem_filterMap]
  constructor
  · rintro ⟨finding, member, same⟩
    cases finding with
    | diagnostic other =>
        cases same
        exact member
    | _ => cases same
  · exact fun member => ⟨_, member, rfl⟩

/-- What is reported of a source: what a line reports, or that a block is open at the end. -/
theorem cases_of_mem_diagnostics {d : Diagnostic}
    (member : d ∈ (Extract.ofLines lines).diagnostics) :
    Mode.Notice d ∨ (ending lines).isOpen = true ∧ ∃ start, d = OpenBlock.unterminated start := by
  have notices : ∀ mode line, ∀ finding ∈ (Mode.step mode line).2,
      ∀ d, finding = .diagnostic d → Mode.Notice d := by
    intro mode line finding among d same
    subst same
    exact (Mode.move_step mode line).notice among
  rcases mem_diagnostics_ofLines.mp member with inside | atEnd
  · exact Or.inl (Mode.forall_yields notices _ _ _ inside d rfl)
  · cases mode : ending lines with
    | statement =>
        rw [mode] at atEnd
        cases atEnd
    | awaitingBrace block =>
        rw [mode, Mode.finish, List.mem_singleton, Finding.diagnostic.injEq] at atEnd
        rw [atEnd]
        exact Or.inl (.lacking block)
    | body block depth kept =>
        rw [mode, Mode.finish, List.mem_singleton, Finding.diagnostic.injEq] at atEnd
        exact Or.inr ⟨rfl, block.line, atEnd⟩
    | stray start depth =>
        rw [mode, Mode.finish, List.mem_singleton, Finding.diagnostic.injEq] at atEnd
        exact Or.inr ⟨rfl, start, atEnd⟩

/-- A block is open at the end exactly if the lines report one that is not closed. -/
theorem leavesOpen_iff : LeavesOpen lines ↔ (ending lines).isOpen = true := by
  constructor
  · rintro ⟨d, member, message⟩
    rcases cases_of_mem_diagnostics member with notice | ⟨isOpen, -⟩
    · exact absurd message (notice.spares d rfl)
    · exact isOpen
  · intro isOpen
    cases mode : ending lines with
    | statement => simp [mode, Mode.isOpen] at isOpen
    | awaitingBrace => simp [mode, Mode.isOpen] at isOpen
    | body block depth kept =>
        refine ⟨OpenBlock.unterminated block.line, mem_diagnostics_ofLines.mpr (Or.inr ?_), rfl⟩
        rw [mode]
        exact List.mem_singleton_self _
    | stray start depth =>
        refine ⟨OpenBlock.unterminated start, mem_diagnostics_ofLines.mpr (Or.inr ?_), rfl⟩
        rw [mode]
        exact List.mem_singleton_self _

/-- A header that waits for its brace is the last line. -/
theorem endsInHeader_of_awaiting {block : OpenBlock} (waits : ending lines = .awaitingBrace block) :
    EndsInHeader lines := by
  have reported : .diagnostic block.missingBrace ∈ Mode.finish (ending lines) := by
    rw [waits]
    exact List.mem_singleton_self _
  refine ⟨_, mem_diagnostics_ofLines.mpr (Or.inr reported), ?_, block.kind, rfl⟩
  rcases List.eq_nil_or_concat lines with rfl | ⟨before, last, rfl⟩
  · cases waits
  · rw [List.concat_eq_append, ending, SourceLine.numbered_append, Mode.after_append] at waits
    have here : block.line = 1 + before.length := Mode.line_of_step waits
    have length : (before.concat last).length = before.length + 1 := List.length_concat
    change block.line = _
    omega

/-- The mode at the end of a source is a new statement, or a header that waits for its brace, or an
open block. -/
theorem ending_cases (lines : List (List Char)) : ending lines = .statement ∨
    (∃ block, ending lines = .awaitingBrace block) ∨ LeavesOpen lines := by
  rw [leavesOpen_iff]
  cases ending lines with
  | statement => exact Or.inl rfl
  | awaitingBrace block => exact Or.inr (Or.inl ⟨block, rfl⟩)
  | body => exact Or.inr (Or.inr rfl)
  | stray => exact Or.inr (Or.inr rfl)

end Source

end ErdDeploy
