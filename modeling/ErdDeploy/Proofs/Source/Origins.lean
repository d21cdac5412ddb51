import ErdDeploy.Proofs.Source.Extents

/-!
What findings are made of.

The reader takes one line after the other and never goes back. So a block is made of the lines from
that of its header to the one that closes it, a reference of its own line, and every statement of
lines behind those of the statement before it (`InOrder`). What is known of a mode in front of a
line (`Mode.Amid`) says which lines went into what is open there. Every step keeps it, and puts its
findings in front of those of the lines behind (`Mode.Move.leads`), so the findings of a whole
source are in order (`inOrder_findings`).

A body is drawn from what follows the opening brace, under the number of the header, and from the
lines behind (`Drawn`). This holds as well where the brace opens the line behind the header, the
one place where a text comes under the number of another line.
-/

namespace ErdDeploy

/-- The brace of a block stands on a line of a source, that of the header or the one behind it, with
`tail` behind the brace. -/
inductive Opening (lines : List SourceLine) : OpenBlock → SourceLine → List Char → Prop
  | header {line : SourceLine} {header : Header} {tail : List Char} : line ∈ lines →
    Header.read? (Text.trim line.text) = some header → header.tail = some tail →
    Opening lines (.ofHeader line header) line tail
  | brace {line next : SourceLine} {header : Header} {tail : List Char} : line ∈ lines →
    next ∈ lines → next.number = line.number + 1 →
    Header.read? (Text.trim line.text) = some header → header.tail = none →
    Text.trim next.text = '\x7b' :: tail → Opening lines (.ofHeader line header) next tail

/-- A body is drawn from `first` and the lines of a source behind it, up to line `last`: each of its
parts is the beginning of one of them, each under a number of its own. -/
structure Drawn (lines : List SourceLine) (first : SourceLine) (last : Int)
    (body : List SourceLine) : Prop where
  parts : ∀ part ∈ body, part.IsPartOf (first :: lines) ∧ first.number ≤ part.number ∧
    part.number ≤ last
  increasing : body.Pairwise (·.number < ·.number)

/-- What is reported of the lines of a source. -/
inductive Reported (lines : List SourceLine) : Diagnostic → Prop
  | malformed {line : SourceLine} : line ∈ lines → Reported lines
    ⟨line.number, Text.indent line.text + 1, "Malformed block header", .error⟩
  | lacking {line : SourceLine} {header : Header} : line ∈ lines →
    Reported lines (OpenBlock.missingBrace (.ofHeader line header))
  | nested {line : SourceLine} : line ∈ lines → 0 < line.opens →
    Reported lines (Mode.nestedIgnored line)
  /-- A block inside a body that begins behind the opening brace. -/
  | opening {block : OpenBlock} {opened : SourceLine} {tail : List Char} :
    Opening lines block opened tail → 0 < SourceLine.opens ⟨block.line, tail⟩ →
    Reported lines (Mode.nestedIgnored ⟨block.line, tail⟩)
  | unterminated {line : SourceLine} : line ∈ lines →
    Reported lines (OpenBlock.unterminated line.number)
  | unrecognized {line : SourceLine} : line ∈ lines → Reported lines (Mode.unrecognized line)
  | relationship {line : SourceLine} {d : Diagnostic} : line ∈ lines →
    Mode.referenceFinding line = .diagnostic d → Reported lines d

/-- A statement is made of lines from `first` to `last`. -/
inductive Made (lines : List SourceLine) (first last : Int) : Finding → Prop
  | block {block : OpenBlock} {opened : SourceLine} {tail : List Char} {body : List SourceLine} :
    Opening lines block opened tail → first ≤ block.line → opened.number ≤ last →
    Drawn lines ⟨block.line, tail⟩ last body → Made lines first last (block.close body)
  | reference {line : SourceLine} {r : Reference} : line ∈ lines → first ≤ line.number →
    line.number ≤ last → Mode.referenceFinding line = .reference r →
    Made lines first last (.reference r)

/-- Findings of lines from `first` on, each statement of lines behind those of the one before. -/
inductive InOrder (lines : List SourceLine) : Int → List Finding → Prop
  | nil {first : Int} : InOrder lines first []
  | reported {first : Int} {d : Diagnostic} {findings : List Finding} : Reported lines d →
    InOrder lines first findings → InOrder lines first (.diagnostic d :: findings)
  | made {first last : Int} {finding : Finding} {findings : List Finding} :
    Made lines first last finding → InOrder lines (last + 1) findings →
    InOrder lines first (finding :: findings)

section

variable {lines body : List SourceLine} {first part : SourceLine} {last : Int}

theorem Opening.exists_header {block : OpenBlock} {opened : SourceLine} {tail : List Char}
    (opening : Opening lines block opened tail) :
    ∃ line ∈ lines, ∃ header, block = .ofHeader line header := by
  cases opening with
  | header member => exact ⟨_, member, _, rfl⟩
  | brace member => exact ⟨_, member, _, rfl⟩

theorem Opening.number_eq {block : OpenBlock} {opened : SourceLine} {tail : List Char}
    (opening : Opening lines block opened tail) :
    opened.number = block.line ∨ opened.number = block.line + 1 := by
  cases opening with
  | header => exact Or.inl rfl
  | brace _ _ next => exact Or.inr next

theorem drawn_nil : Drawn lines first last [] :=
  ⟨nofun, .nil⟩

theorem Drawn.mono {last' : Int} (drawn : Drawn lines first last body) (further : last ≤ last') :
    Drawn lines first last' body := by
  refine ⟨fun part member => ?_, drawn.increasing⟩
  rcases drawn.parts part member with ⟨source, notBefore, notAfter⟩
  exact ⟨source, notBefore, Int.le_trans notAfter further⟩

/-- A body that is drawn up to a line may go on with a part of this line. -/
theorem Drawn.append (drawn : Drawn lines first (part.number - 1) body)
    (source : part.IsPartOf (first :: lines)) (notBefore : first.number ≤ part.number) :
    Drawn lines first part.number (body ++ [part]) := by
  constructor
  · intro other member
    rcases List.mem_append.mp member with before | here
    · exact (drawn.mono (by omega)).parts other before
    · rw [List.mem_singleton] at here
      subst here
      exact ⟨source, notBefore, Int.le_refl _⟩
  · rw [List.pairwise_append]
    refine ⟨drawn.increasing, List.pairwise_singleton _ _, fun other member here among => ?_⟩
    rw [List.mem_singleton] at among
    subst among
    have bound := (drawn.parts other member).2.2
    omega

theorem Made.mono {first first' : Int} {finding : Finding} (made : Made lines first last finding)
    (earlier : first' ≤ first) : Made lines first' last finding := by
  cases made with
  | block opening starts ends drawn => exact .block opening (Int.le_trans earlier starts) ends drawn
  | reference member starts ends read =>
      exact .reference member (Int.le_trans earlier starts) ends read

theorem InOrder.mono {first first' : Int} {findings : List Finding}
    (inOrder : InOrder lines first findings) (earlier : first' ≤ first) :
    InOrder lines first' findings := by
  induction inOrder with
  | nil => exact .nil
  | reported reported _ ih => exact .reported reported (ih earlier)
  | made made later _ => exact .made (made.mono earlier) later

end

namespace Mode

/-- The first line that what is open is made of, or else the next line. -/
def origin (next : Int) : Mode → Int
  | .awaitingBrace block => block.line
  | .body block _ _ => block.line
  | _ => next

/-- What is known of a mode in front of line `next` of a source. -/
inductive Amid (lines : List SourceLine) (next : Int) : Mode → Prop
  | statement : Amid lines next .statement
  | awaitingBrace {line : SourceLine} {header : Header} : line ∈ lines → line.number + 1 = next →
    Header.read? (Text.trim line.text) = some header → header.tail = none →
    Amid lines next (.awaitingBrace (.ofHeader line header))
  | body {block : OpenBlock} {depth : Nat} {kept : List SourceLine} {opened : SourceLine}
    {tail : List Char} : Opening lines block opened tail → opened.number < next →
    Drawn lines ⟨block.line, tail⟩ (next - 1) kept → Amid lines next (.body block depth kept)
  | stray {line : SourceLine} {depth : Nat} : line ∈ lines →
    Amid lines next (.stray line.number depth)

/-- What a step comes to in front of line `next`: a mode of which the same is known, and findings
that are in order, from line `first` on, with all that is found behind. -/
structure Leads (lines : List SourceLine) (first next : Int) (mode : Mode)
    (findings : List Finding) : Prop where
  amid : Amid lines next mode
  inOrder : ∀ later, InOrder lines (mode.origin next) later →
    InOrder lines first (findings ++ later)

section

variable {lines : List SourceLine} {block : OpenBlock} {opened line : SourceLine} {tail : List Char}
  {mode : Mode} {findings : List Finding}

theorem Leads.mono {first first' next : Int} (leads : Leads lines first next mode findings)
    (earlier : first' ≤ first) : Leads lines first' next mode findings :=
  ⟨leads.amid, fun later inOrder => (leads.inOrder later inOrder).mono earlier⟩

theorem Leads.report {first next : Int} {d : Diagnostic}
    (leads : Leads lines first next mode findings) (reported : Reported lines d) :
    Leads lines first next mode (.diagnostic d :: findings) :=
  ⟨leads.amid, fun later inOrder => .reported reported (leads.inOrder later inOrder)⟩

theorem leads_nil {next : Int} (amid : Amid lines next mode) :
    Leads lines (mode.origin next) next mode [] :=
  ⟨amid, fun _ inOrder => inOrder⟩

theorem leads_made {first last : Int} {finding : Finding} (made : Made lines first last finding) :
    Leads lines first (last + 1) .statement [finding] :=
  ⟨.statement, fun _ inOrder => .made made inOrder⟩

/-- A line of a body, or what follows the opening brace, read where line `last` is read. -/
theorem BodyMove.leads {last : Int} {depth : Nat} {kept : List SourceLine}
    (move : BodyMove block depth kept line mode findings)
    (opening : Opening lines block opened tail) (reaches : opened.number ≤ last)
    (among : line ∈ ⟨block.line, tail⟩ :: lines)
    (notBefore : block.line ≤ line.number) (notAfter : line.number ≤ last)
    (drawn : Drawn lines ⟨block.line, tail⟩ (line.number - 1) kept) :
    Leads lines block.line (last + 1) mode findings := by
  have still : Drawn lines ⟨block.line, tail⟩ last kept := drawn.mono (by omega)
  have goesOn : ∀ part : SourceLine, part.number = line.number → part.text <+: line.text →
      Drawn lines ⟨block.line, tail⟩ last (kept ++ [part]) := by
    intro part number beginning
    rw [← number] at drawn notBefore notAfter
    exact (drawn.append ⟨line, among, number, beginning⟩ notBefore).mono notAfter
  have inside : ∀ {depth kept}, Drawn lines ⟨block.line, tail⟩ last kept →
      Amid lines (last + 1) (.body block depth kept) := by
    intro depth kept drawn
    exact .body opening (by omega) (drawn.mono (by omega))
  have closes : ∀ body, Drawn lines ⟨block.line, tail⟩ last body →
      Leads lines block.line (last + 1) .statement [block.close body] :=
    fun body drawn => leads_made (.block opening (Int.le_refl _) reaches drawn)
  cases move with
  | last =>
      apply closes
      split
      · exact still
      · exact goesOn (beforeClosing line) rfl (List.takeWhile_prefix _)
  | closed => exact closes kept still
  | nested _ opens =>
      apply (leads_nil (inside still)).report
      rcases List.mem_cons.mp among with rfl | member
      · exact .opening opening opens
      · exact .nested member opens
  | kept => exact leads_nil (inside (goesOn line rfl List.prefix_rfl))
  | passed => exact leads_nil (inside still)

theorem Entry.leads (entry : Entry block tail mode findings)
    (opening : Opening lines block opened tail) :
    Leads lines block.line (opened.number + 1) mode findings := by
  cases entry with
  | blank => exact leads_nil (.body opening (by omega) drawn_nil)
  | line _ move =>
      have notAfter : block.line ≤ opened.number := by
        have number := opening.number_eq
        omega
      exact move.leads opening (Int.le_refl _) List.mem_cons_self (Int.le_refl _) notAfter drawn_nil

theorem referenceFinding_cases (line : SourceLine) :
    (∃ r, referenceFinding line = .reference r) ∨ ∃ d, referenceFinding line = .diagnostic d := by
  unfold referenceFinding
  simp only
  split
  · exact Or.inr ⟨_, rfl⟩
  · split
    · exact Or.inl ⟨_, rfl⟩
    · exact Or.inr ⟨_, rfl⟩

theorem StatementMove.leads (move : StatementMove line mode findings) (member : line ∈ lines) :
    Leads lines line.number (line.number + 1) mode findings := by
  have next : line.number ≤ line.number + 1 := by omega
  have passes : Leads lines line.number (line.number + 1) .statement [] :=
    (leads_nil .statement).mono next
  cases move with
  | idle => exact passes
  | malformed => exact passes.report (.malformed member)
  | header _ _ read lacks => exact leads_nil (.awaitingBrace member rfl read lacks)
  | block _ _ read brace entry => exact entry.leads (.header member read brace)
  | reference =>
      rcases referenceFinding_cases line with ⟨r, read⟩ | ⟨d, read⟩
      · rw [read]
        exact leads_made (.reference member (Int.le_refl _) (Int.le_refl _) read)
      · rw [read]
        exact passes.report (.relationship member read)
  | stray =>
      apply Leads.report _ (.unrecognized member)
      exact (leads_nil (.stray member)).mono next
  | unknown => exact passes.report (.unrecognized member)

/-- Every step keeps what is known of the mode, and its findings are in order with those behind. -/
theorem Move.leads {next : Mode} (move : Move mode line next findings)
    (amid : Amid lines line.number mode) (member : line ∈ lines) :
    Leads lines (mode.origin line.number) (line.number + 1) next findings := by
  have behind : line.number ≤ line.number + 1 := by omega
  cases move with
  | statement move => exact move.leads member
  | brace brace entry =>
      cases amid with
      | awaitingBrace member' number read lacks =>
          exact entry.leads (.brace member' member number.symm read lacks brace)
  | lacking _ move =>
      cases amid with
      | awaitingBrace member' number =>
          refine ((move.leads member).report (.lacking member')).mono ?_
          simp only [origin, OpenBlock.ofHeader]
          omega
  | body move =>
      cases amid with
      | body opening opened drawn =>
          have number := opening.number_eq
          exact move.leads opening (by omega) (List.mem_cons_of_mem _ member) (by omega)
            (Int.le_refl _) drawn
  | strayClosed => exact (leads_nil .statement).mono behind
  | strayed =>
      cases amid with
      | stray member' => exact (leads_nil (.stray member')).mono behind

theorem Amid.inOrder_finish {next : Int} (amid : Amid lines next mode) :
    InOrder lines (mode.origin next) (finish mode) := by
  cases amid with
  | statement => exact .nil
  | awaitingBrace member => exact .reported (.lacking member) .nil
  | body opening =>
      rcases opening.exists_header with ⟨line, member, header, rfl⟩
      exact .reported (.unterminated member) .nil
  | stray member => exact .reported (.unterminated member) .nil

/-- From any mode on, the findings of the lines behind are in order. -/
theorem inOrder_run {texts : List (List Char)} {next : Int} (amid : Amid lines next mode)
    (within : ∀ line ∈ SourceLine.numbered next texts, line ∈ lines) :
    InOrder lines (mode.origin next) (run mode (SourceLine.numbered next texts)) := by
  induction texts generalizing mode next with
  | nil => exact amid.inOrder_finish
  | cons text texts ih =>
      have within := List.forall_mem_cons.mp within
      have leads := (move_step mode ⟨next, text⟩).leads amid within.1
      exact leads.inOrder _ (ih leads.amid within.2)

end

end Mode

/-- All that is found in a source is in order. -/
theorem inOrder_findings (texts : List (List Char)) :
    InOrder (SourceLine.numbered 1 texts) 1 (findings (SourceLine.numbered 1 texts)) :=
  Mode.inOrder_run .statement fun _ member => member

end ErdDeploy
