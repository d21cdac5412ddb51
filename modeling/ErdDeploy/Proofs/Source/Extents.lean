import ErdDeploy.Proofs.Source.Braces
import ErdDeploy.Proofs.Source.HollowLines

/-!
How far an open block goes.

While a block is open, known or not, the reader counts braces line by line. So the block ends with
the first line at whose end the count is even (`extent?_eq_some_iff`), and the lines behind
it are read as other statements (`OpenAt.run_of_extent`). If there is no such line, the
block is reported for the line of its statement (`OpenAt.run_of_unended`).

Every line of a body adds nothing to what is kept but a part of itself, so what a block declares
comes from its own lines (`declares_of_extent`).
-/

namespace ErdDeploy

/-- A part of one of some lines: the beginning of its text, under its number. -/
def SourceLine.IsPartOf (lines : List SourceLine) (part : SourceLine) : Prop :=
  ∃ line ∈ lines, part.number = line.number ∧ part.text <+: line.text

theorem SourceLine.IsPartOf.append {sources more : List SourceLine} {part : SourceLine}
    (partOf : part.IsPartOf sources) : part.IsPartOf (sources ++ more) := by
  rcases partOf with ⟨line, member, beginning⟩
  exact ⟨line, List.mem_append_left _ member, beginning⟩

namespace Mode

/-! ## How far a block goes -/

/-- How many lines belong to the block that is open, none if they do not end it. -/
def extent? : Mode → List SourceLine → Option Nat
  | mode, [] => if mode.isOpen then none else some 0
  | mode, line :: lines =>
    if mode.isOpen then (extent? (step mode line).1 lines).map (· + 1) else some 0

/-- A block of the statement on some line is open, so many braces deep. -/
inductive OpenAt (start : Int) (depth : Nat) : Mode → Prop
  | body {block : OpenBlock} {kept : List SourceLine} : block.line = start →
    OpenAt start depth (.body block depth kept)
  | stray : OpenAt start depth (.stray start depth)

section

variable {mode : Mode} {start : Int} {depth : Nat} {line : SourceLine} {lines : List SourceLine}

theorem OpenAt.isOpen (openAt : OpenAt start depth mode) : mode.isOpen = true := by
  cases openAt with
  | body => rfl
  | stray => rfl

theorem extent?_statement (lines : List SourceLine) : extent? .statement lines = some 0 := by
  cases lines with
  | nil => rfl
  | cons line lines => rfl

theorem OpenAt.extent?_nil (openAt : OpenAt start depth mode) : extent? mode [] = none := by
  rw [extent?, openAt.isOpen, if_pos rfl]

theorem OpenAt.extent?_cons (openAt : OpenAt start depth mode) (line : SourceLine)
    (lines : List SourceLine) :
    extent? mode (line :: lines) = (extent? (step mode line).1 lines).map (· + 1) := by
  rw [extent?, openAt.isOpen, if_pos rfl]

/-- A line on which as many braces close as are open and open ends the block. -/
theorem OpenAt.step_closed (openAt : OpenAt start depth mode)
    (closes : depth + line.opens ≤ line.closes) : (step mode line).1 = .statement := by
  cases openAt with
  | stray => rw [step, strayStep, if_pos closes]
  | @body block kept _ =>
      rw [step, bodyStep]
      by_cases only : depth = 1 ∧ line.opens = 0 ∧ 0 < line.closes
      · rw [if_pos only]
      · rw [if_neg only, if_pos closes]

/-- Any other line leaves the block open, as deep as is counted. -/
theorem OpenAt.step_open (openAt : OpenAt start depth mode)
    (stays : line.closes < depth + line.opens) :
    OpenAt start (depth + line.opens - line.closes) (step mode line).1 := by
  cases openAt with
  | stray =>
      rw [step, strayStep, if_neg (by omega)]
      exact .stray
  | @body block kept same =>
      rw [step, bodyStep, if_neg (by omega), if_neg (by omega)]
      simp only
      split
      · exact .body same
      · split
        · exact .body same
        · exact .body same

theorem OpenAt.step_closed_or_open (openAt : OpenAt start depth mode) (line : SourceLine) :
    (step mode line).1 = .statement ∨ ∃ depth, OpenAt start depth (step mode line).1 := by
  by_cases closes : depth + line.opens ≤ line.closes
  · exact Or.inl (openAt.step_closed closes)
  · exact Or.inr ⟨_, openAt.step_open (by omega)⟩

/-- A block ends with the first line at whose end the count of its braces is even. -/
theorem extent?_eq_some_iff (openAt : OpenAt start depth mode) (positive : 0 < depth) (n : Nat) :
    extent? mode lines = some n ↔ Braces.FirstEven depth lines n := by
  induction lines generalizing mode depth n with
  | nil =>
      rw [openAt.extent?_nil]
      exact ⟨nofun, fun first => absurd first (Braces.not_firstEven_nil positive)⟩
  | cons line lines ih =>
      rw [openAt.extent?_cons]
      by_cases closes : depth + line.opens ≤ line.closes
      · rw [openAt.step_closed closes, extent?_statement, Option.map_some, Option.some.injEq,
          Braces.firstEven_cons_of_closes positive closes]
        exact eq_comm
      · have stays : line.closes < depth + line.opens := by omega
        cases n with
        | zero =>
            have never : ¬ Braces.FirstEven depth (line :: lines) 0 :=
              Braces.not_firstEven_zero positive
            simp [never]
        | succ n =>
            rw [Braces.firstEven_cons_of_stays positive stays, Option.map_eq_some_iff,
              ← ih (openAt.step_open stays) (by omega) n]
            simp

/-- A block that ends leaves the lines behind it to other statements. -/
theorem OpenAt.run_of_extent (openAt : OpenAt start depth mode) {n : Nat}
    (ends : extent? mode lines = some n) :
    run mode lines = yields mode (lines.take n) ++ run .statement (lines.drop n) := by
  induction lines generalizing mode depth n with
  | nil =>
      rw [openAt.extent?_nil] at ends
      cases ends
  | cons line lines ih =>
      rw [openAt.extent?_cons] at ends
      rcases Option.map_eq_some_iff.mp ends with ⟨m, later, rfl⟩
      rw [List.take_succ_cons, List.drop_succ_cons, run, yields, List.append_assoc]
      congr 1
      rcases openAt.step_closed_or_open line with closed | ⟨_, openAt'⟩
      · rw [closed] at later ⊢
        rw [extent?_statement] at later
        cases later
        rfl
      · exact ih openAt' later

/-- A block that does not end is reported for the line of its statement. -/
theorem OpenAt.run_of_unended (openAt : OpenAt start depth mode)
    (never : extent? mode lines = none) : run mode lines =
      yields mode lines ++ [.diagnostic (OpenBlock.unterminated start)] := by
  induction lines generalizing mode depth with
  | nil =>
      cases openAt with
      | body same =>
          rw [← same]
          rfl
      | stray => rfl
  | cons line lines ih =>
      rw [openAt.extent?_cons, Option.map_eq_none_iff] at never
      rw [run, yields, List.append_assoc]
      rcases openAt.step_closed_or_open line with closed | ⟨_, openAt'⟩
      · rw [closed, extent?_statement] at never
        cases never
      · rw [ih openAt' never]

end

/-! ## What a block declares -/

/-- What is kept of a body that is open comes from some lines. -/
def KeepsFrom (sources : List SourceLine) : Mode → Prop
  | .body _ _ kept => ∀ part ∈ kept, part.IsPartOf sources
  | _ => True

/-- What is found, diagnostics apart, is what the block of the statement on some line declares, with
a body that comes from some lines. -/
def Declares (start : Int) (sources : List SourceLine) (finding : Finding) : Prop :=
  finding.isStatement = true → ∃ (block : OpenBlock) (body : List SourceLine),
    block.line = start ∧ finding = block.close body ∧ ∀ part ∈ body, part.IsPartOf sources

section

variable {sources : List SourceLine} {block : OpenBlock} {depth : Nat} {kept : List SourceLine}
  {line : SourceLine}

theorem isPartOf_last {part : SourceLine} (number : part.number = line.number)
    (beginning : part.text <+: line.text) : part.IsPartOf (sources ++ [line]) :=
  ⟨line, List.mem_append_right _ (List.mem_singleton_self line), number, beginning⟩

theorem declares_diagnostic (start : Int) (sources : List SourceLine) (d : Diagnostic) :
    Declares start sources (.diagnostic d) :=
  nofun

/-- A line of a body adds nothing to what is kept but a part of itself. -/
theorem BodyMove.keepsFrom {next : Mode} {findings : List Finding}
    (move : BodyMove block depth kept line next findings)
    (keeps : ∀ part ∈ kept, part.IsPartOf sources) :
    KeepsFrom (sources ++ [line]) next ∧
      ∀ finding ∈ findings, Declares block.line (sources ++ [line]) finding := by
  have still : ∀ part ∈ kept, part.IsPartOf (sources ++ [line]) :=
    fun part member => (keeps part member).append
  have closes : ∀ body, (∀ part ∈ body, part.IsPartOf (sources ++ [line])) →
      ∀ finding ∈ [block.close body], Declares block.line (sources ++ [line]) finding := by
    intro body within finding member _
    rw [List.mem_singleton] at member
    exact ⟨block, body, rfl, member, within⟩
  cases move with
  | last =>
      refine ⟨trivial, closes _ ?_⟩
      split
      · exact still
      · intro part member
        rcases List.mem_append.mp member with before | here
        · exact still part before
        · rw [List.mem_singleton] at here
          subst here
          exact isPartOf_last rfl (List.takeWhile_prefix _)
  | closed => exact ⟨trivial, closes kept still⟩
  | nested =>
      refine ⟨still, fun finding member => ?_⟩
      rw [List.mem_singleton] at member
      subst member
      exact declares_diagnostic _ _ _
  | kept =>
      refine ⟨fun part member => ?_, fun _ none => nomatch none⟩
      rcases List.mem_append.mp member with before | here
      · exact still part before
      · rw [List.mem_singleton] at here
        subst here
        exact isPartOf_last rfl List.prefix_rfl
  | passed => exact ⟨still, fun _ none => nomatch none⟩

theorem OpenAt.keepsFrom_step {start : Int} {mode : Mode} (openAt : OpenAt start depth mode)
    (keeps : KeepsFrom sources mode) (line : SourceLine) :
    KeepsFrom (sources ++ [line]) (step mode line).1 ∧
      ∀ finding ∈ (step mode line).2, Declares start (sources ++ [line]) finding := by
  cases openAt with
  | @body block kept same =>
      rw [← same]
      exact bodyMove_bodyStep.keepsFrom keeps
  | stray =>
      refine ⟨?_, fun _ none => nomatch none⟩
      rw [step, strayStep]
      split
      · trivial
      · trivial

/-- What a block declares comes from its lines. -/
theorem declares_of_extent {start : Int} {mode : Mode} {lines : List SourceLine} {n : Nat}
    (openAt : OpenAt start depth mode) (keeps : KeepsFrom sources mode)
    (ends : extent? mode lines = some n) :
    ∀ finding ∈ yields mode (lines.take n), Declares start (sources ++ lines.take n) finding := by
  induction lines generalizing mode depth sources n with
  | nil =>
      rw [openAt.extent?_nil] at ends
      cases ends
  | cons line lines ih =>
      rw [openAt.extent?_cons] at ends
      rcases Option.map_eq_some_iff.mp ends with ⟨m, later, rfl⟩
      rcases openAt.keepsFrom_step keeps line with ⟨keeps', declares⟩
      rw [List.take_succ_cons, yields, List.append_cons]
      intro finding member
      rcases List.mem_append.mp member with here | there
      · intro statement
        rcases declares finding here statement with ⟨block, body, same, found, within⟩
        exact ⟨block, body, same, found, fun part among => (within part among).append⟩
      · rcases openAt.step_closed_or_open line with closed | ⟨_, openAt'⟩
        · rw [closed, extent?_statement] at later
          cases later
          cases there
        · exact ih openAt' keeps' later finding there

end

end Mode

end ErdDeploy
