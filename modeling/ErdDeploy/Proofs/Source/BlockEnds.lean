import ErdDeploy.Proofs.Source.Extents

/-!
Where blocks end.

A statement opens a block in one of three ways: its header holds the brace, or the line behind
the header does, or it is of no known kind and is passed over with its block (`Mode.Opens`).
From there on the reader counts braces line by line, and the block ends with the first line at
whose end the count is even (`Mode.blocks_end`).

So a block ends on the line of the brace that matches its own, unless more braces open than close
behind that brace on its line. Then the reader goes on as if the block were still open,
and lines that belong to another block become part of it (`Mode.not_endsAtMatch`). Of an unknown
statement only one brace is counted, and nothing is passed over if a brace closes on its
line.
-/

namespace ErdDeploy.Mode

/-! ## How a block is opened -/

/-- A statement may begin on the line: none is under way, or a header that does not get its brace
from this line. -/
def Begins (mode : Mode) (line : SourceLine) : Prop :=
  mode = .statement ∨
    ∃ block, mode = .awaitingBrace block ∧ ∀ tail, Text.trim line.text ≠ '\x7b' :: tail

/-- A line opens the block of the statement on line `start`. Behind the opening brace stands `tail`;
the reader counts braces from `seen` on, or passes over no block if there is none. -/
inductive Opens : Mode → SourceLine → Int → List Char → Option (List Char) → Prop
  | header {mode : Mode} {line : SourceLine} {header : Header} {tail : List Char} :
    Begins mode line → line.isIdle = false → keywordOf (Text.trim line.text) = .block →
    Header.read? (Text.trim line.text) = some header → header.tail = some tail →
    Opens mode line line.number tail (some tail)
  | brace {block : OpenBlock} {line : SourceLine} {tail : List Char} :
    Text.trim line.text = '\x7b' :: tail →
    Opens (.awaitingBrace block) line block.line tail (some tail)
  | stray {mode : Mode} {line : SourceLine} {tail : List Char} :
    Begins mode line → line.isIdle = false → keywordOf (Text.trim line.text) = .unknown →
    Header.afterBrace? line.text = some tail →
    Opens mode line line.number tail (if line.closes = 0 then some [] else none)

/-- The mode behind the line that opens a block, where only `first` of this line counts. -/
structure Entered (first : SourceLine) (mode : Mode) : Prop where
  closed : 1 + first.opens ≤ first.closes → mode = .statement
  opened : first.closes < 1 + first.opens →
    OpenAt first.number (1 + first.opens - first.closes) mode

/-- How far a block goes of whose opening line `first` counts, where `opened` is what this line came
to and `lines` are those behind it. The block ends with the first line at whose end the count is
even. That is not before the line of the matching brace, and this very line exactly if no more
braces open than close behind that brace on it. -/
structure Delimited (first : SourceLine) (opened : Mode × List Finding) (lines : List SourceLine) :
    Prop where
  ends_iff : ∀ n, extent? opened.1 lines = some n ↔ Braces.FirstEven 1 (first :: lines) (n + 1)
  matched : ∀ k behind, Braces.matching? 1 (first :: lines) = some (k, behind) →
    (∀ n, extent? opened.1 lines = some n → k ≤ n) ∧
      (extent? opened.1 lines = some k ↔ behind.count '\x7b' ≤ behind.count '\x7d')
  unmatched : Braces.matching? 1 (first :: lines) = none → extent? opened.1 lines = none
  ended : ∀ n, extent? opened.1 lines = some n →
    run opened.1 lines = yields opened.1 (lines.take n) ++ run .statement (lines.drop n)
  declares : ∀ n, extent? opened.1 lines = some n →
    ∀ finding ∈ opened.2 ++ yields opened.1 (lines.take n),
      Declares first.number (first :: lines.take n) finding
  unended : extent? opened.1 lines = none → run opened.1 lines =
    yields opened.1 lines ++ [.diagnostic (OpenBlock.unterminated first.number)]

section

variable {first line : SourceLine} {mode : Mode} {lines : List SourceLine}

theorem Entered.ends_iff (entered : Entered first mode) (n : Nat) :
    extent? mode lines = some n ↔ Braces.FirstEven 1 (first :: lines) (n + 1) := by
  by_cases closes : 1 + first.opens ≤ first.closes
  · rw [entered.closed closes, extent?_statement,
      Braces.firstEven_cons_of_closes Nat.one_pos closes, Option.some.injEq]
    omega
  · rw [Braces.firstEven_cons_of_stays Nat.one_pos (by omega),
      extent?_eq_some_iff (entered.opened (by omega)) (by omega)]

theorem Entered.closed_or_open (entered : Entered first mode) :
    mode = .statement ∨ ∃ depth, OpenAt first.number depth mode := by
  by_cases closes : 1 + first.opens ≤ first.closes
  · exact Or.inl (entered.closed closes)
  · exact Or.inr ⟨_, entered.opened (by omega)⟩

theorem Begins.step_eq (begins : Begins mode line) :
    ∃ lacking : List OpenBlock, step mode line = ((statementStep line).1,
      lacking.map (fun block => .diagnostic block.missingBrace) ++ (statementStep line).2) := by
  rcases begins with rfl | ⟨block, rfl, lacks⟩
  · exact ⟨[], rfl⟩
  · refine ⟨[block], ?_⟩
    rw [step, headerStep]
    split
    · next tail brace => exact absurd brace (lacks tail)
    · rfl

theorem entered_of_openAt (openAt : OpenAt first.number 1 mode) :
    Entered first (step mode first).1 :=
  ⟨openAt.step_closed, openAt.step_open⟩

theorem entered_enter (block : OpenBlock) (tail : List Char) :
    Entered ⟨block.line, tail⟩ (enter block tail).1 := by
  rw [enter]
  split
  · next blank =>
    rcases @SourceLine.braces_of_blank ⟨block.line, tail⟩ blank with ⟨opens, closes⟩
    refine ⟨fun even => ?_, fun _ => ?_⟩
    · omega
    · rw [opens, closes]
      exact .body rfl
  · exact @entered_of_openAt ⟨block.line, tail⟩ (.body block 1 []) (.body rfl)

theorem keepsFrom_enter (block : OpenBlock) (tail : List Char) :
    KeepsFrom [⟨block.line, tail⟩] (enter block tail).1 ∧
      ∀ finding ∈ (enter block tail).2, Declares block.line [⟨block.line, tail⟩] finding := by
  rw [enter]
  split
  · constructor
    · exact fun _ none => nomatch none
    · exact fun _ none => nomatch none
  · have none : ∀ part ∈ ([] : List SourceLine), part.IsPartOf [] := nofun
    exact bodyMove_bodyStep.keepsFrom none

theorem opens_pos_of_afterBrace? {tail : List Char}
    (found : Header.afterBrace? line.text = some tail) : 0 < line.opens := by
  rw [SourceLine.opens, List.count_pos_iff]
  by_contra absent
  have none : line.text.dropWhile (· != '\x7b') = [] := by
    rw [List.dropWhile_eq_nil_iff]
    intro c member
    rw [bne_iff_ne]
    rintro rfl
    exact absent member
  rw [Header.afterBrace?, none] at found
  cases found

theorem statementStep_header {header : Header} {tail : List Char} (speaks : line.isIdle = false)
    (keyword : keywordOf (Text.trim line.text) = .block)
    (read : Header.read? (Text.trim line.text) = some header) (brace : header.tail = some tail) :
    statementStep line = enter (.ofHeader line header) tail := by
  simp only [statementStep, speaks, keyword, blockStep, read, brace, Bool.false_eq_true, if_false]

theorem statementStep_unknown (speaks : line.isIdle = false)
    (keyword : keywordOf (Text.trim line.text) = .unknown) :
    statementStep line = (if opensStray line then .stray line.number 1 else .statement,
      [.diagnostic (unrecognized line)]) := by
  simp only [statementStep, speaks, keyword, Bool.false_eq_true, if_false]

/-- What is known of the mode behind a line that opens a block. -/
structure Started (first : SourceLine) (opened : Mode × List Finding) : Prop where
  entered : Entered first opened.1
  keeps : KeepsFrom [first] opened.1
  declares : ∀ finding ∈ opened.2, Declares first.number [first] finding

theorem started_enter (block : OpenBlock) (tail : List Char) :
    Started ⟨block.line, tail⟩ (enter block tail) := by
  rcases keepsFrom_enter block tail with ⟨keeps, declares⟩
  exact ⟨entered_enter block tail, keeps, declares⟩

theorem Started.behind {opened : Mode × List Finding} (started : Started first opened)
    (lacking : List OpenBlock) : Started first
      (opened.1, lacking.map (fun block => .diagnostic block.missingBrace) ++ opened.2) := by
  refine ⟨started.entered, started.keeps, fun finding member => ?_⟩
  rcases List.mem_append.mp member with before | here
  · rcases List.mem_map.mp before with ⟨block, -, rfl⟩
    exact declares_diagnostic _ _ _
  · exact started.declares finding here

/-- An unknown statement begins to pass over a block if no brace closes on its line. -/
theorem Opens.started {start : Int} {tail : List Char} {seen : Option (List Char)}
    (opens : Opens mode line start tail seen) :
    (seen = none → (step mode line).1 = .statement) ∧
      ∀ text, seen = some text → Started ⟨start, text⟩ (step mode line) := by
  cases opens with
  | header begins speaks keyword read brace =>
      refine ⟨nofun, fun text same => ?_⟩
      cases same
      rcases begins.step_eq with ⟨lacking, stepped⟩
      rw [stepped, statementStep_header speaks keyword read brace]
      exact (started_enter (.ofHeader line _) tail).behind lacking
  | @brace block _ _ brace =>
      refine ⟨nofun, fun text same => ?_⟩
      cases same
      have stepped : step (.awaitingBrace block) line = enter block tail := by
        simp only [step, headerStep, brace]
      rw [stepped]
      exact started_enter block tail
  | stray begins speaks keyword found =>
      rcases begins.step_eq with ⟨lacking, stepped⟩
      rw [stepped, statementStep_unknown speaks keyword, opensStray,
        decide_eq_true (opens_pos_of_afterBrace? found), Bool.true_and]
      constructor
      · intro none
        have closes : line.closes ≠ 0 := by
          intro zero
          rw [if_pos zero] at none
          cases none
        rw [beq_eq_false_iff_ne.mpr closes]
        rfl
      · intro text same
        split at same
        · next zero =>
          cases same
          rw [zero]
          have started : Started ⟨line.number, []⟩
              (.stray line.number 1, [.diagnostic (unrecognized line)]) := by
            refine ⟨@entered_of_openAt ⟨line.number, []⟩ _ .stray, trivial, ?_⟩
            intro finding member
            rw [List.mem_singleton] at member
            subst member
            exact declares_diagnostic _ _ _
          exact started.behind lacking
        · cases same

/-- Up to its end a block declares only what comes from its lines. -/
theorem Started.declares_of_extent {opened : Mode × List Finding} (started : Started first opened)
    {n : Nat} (ends : extent? opened.1 lines = some n) :
    ∀ finding ∈ opened.2 ++ yields opened.1 (lines.take n),
      Declares first.number (first :: lines.take n) finding := by
  intro finding member
  rcases List.mem_append.mp member with here | later
  · intro statement
    rcases started.declares finding here statement with ⟨block, body, same, found, within⟩
    exact ⟨block, body, same, found, fun part among => (within part among).append⟩
  · rcases started.entered.closed_or_open with closed | ⟨depth, openAt⟩
    · rw [closed, extent?_statement] at ends
      cases ends
      cases later
    · exact Mode.declares_of_extent openAt started.keeps ends finding later

theorem Started.delimited {opened : Mode × List Finding} (started : Started first opened)
    (lines : List SourceLine) : Delimited first opened lines := by
  have ends_iff : ∀ n, extent? opened.1 lines = some n ↔
      Braces.FirstEven 1 (first :: lines) (n + 1) := started.entered.ends_iff
  refine ⟨ends_iff, fun k behind matched => ?_, fun unmatched => ?_, fun n ends => ?_,
    fun n ends => started.declares_of_extent ends, fun never => ?_⟩
  · rcases Braces.firstEven_of_matched Nat.one_pos matched with ⟨notSooner, onLine⟩
    refine ⟨fun n ends => ?_, (ends_iff k).trans onLine⟩
    have bound := notSooner (n + 1) ((ends_iff n).mp ends)
    omega
  · rw [Option.eq_none_iff_forall_ne_some]
    intro n ends
    exact Braces.not_firstEven_of_unmatched Nat.one_pos unmatched _ ((ends_iff n).mp ends)
  · rcases started.entered.closed_or_open with closed | ⟨depth, openAt⟩
    · rw [closed, extent?_statement] at ends
      cases ends
      rw [closed]
      rfl
    · exact openAt.run_of_extent ends
  · rcases started.entered.closed_or_open with closed | ⟨depth, openAt⟩
    · rw [closed, extent?_statement] at never
      cases never
    · exact openAt.run_of_unended never

end

/-! ## Ends of blocks -/

/-- The lines of two tables, of which the second begins where the first one closes. -/
def reopening : List SourceLine :=
  SourceLine.numbered 2 ["id GUID [pk]".toList, "\x7d Table B \x7b".toList, "x Int".toList,
    "\x7d".toList]

/-- A block does not always end on the line of its matching brace. -/
theorem not_endsAtMatch :
    ¬ ∀ (mode : Mode) (line : SourceLine) (start : Int) (tail : List Char)
      (seen : Option (List Char)) (lines : List SourceLine), Opens mode line start tail seen →
        extent? (step mode line).1 lines =
          (Braces.matching? 1 (⟨start, tail⟩ :: lines)).map Prod.fst := by
  intro endsAtMatch
  have read : Header.read? (Text.trim "Table A \x7b".toList) =
      some ⟨.table, some "A", some []⟩ := by decide +kernel
  have opens : Opens .statement ⟨1, "Table A \x7b".toList⟩ 1 [] (some []) :=
    .header (Or.inl rfl) (by decide +kernel) (by decide +kernel) read rfl
  have ends : extent? (step .statement ⟨1, "Table A \x7b".toList⟩).1 reopening = some 4 := by
    decide +kernel
  have matched : (Braces.matching? 1 (⟨1, []⟩ :: reopening)).map Prod.fst = some 2 := by
    decide +kernel
  have same := endsAtMatch _ _ _ _ _ reopening opens
  rw [ends, matched] at same
  cases same

/-- **Ends of blocks.** A block that a header opens, on its line or on the next one, ends with the
first line at whose end as many braces have closed as have opened, its own among them. It never ends
before the line of the brace that matches its own. If there is no such brace, it is reported for the
line of its header; and it ends on the line of that brace exactly if no more braces open than
close behind the brace. What is declared comes from the lines of the block, and those behind it are
other statements. The same holds of an unknown statement as if its line held one brace that opens,
unless a brace closes on the line, when no block is passed over. -/
theorem blocks_end {mode : Mode} {line : SourceLine} {start : Int} {tail : List Char}
    {seen : Option (List Char)} (opens : Opens mode line start tail seen)
    (lines : List SourceLine) :
    (seen = none → (step mode line).1 = .statement) ∧
      ∀ text, seen = some text → Delimited ⟨start, text⟩ (step mode line) lines := by
  rcases opens.started with ⟨passes, started⟩
  exact ⟨passes, fun text same => (started text same).delimited lines⟩

/-- A header whose brace stands on the next line, with a field and a block inside behind it. -/
theorem blocks_end_of_late_brace :
    Opens (.awaitingBrace ⟨.table, some "T", 1, 1, 8⟩) ⟨2, " \x7b a Int \x7b x".toList⟩ 1
        " a Int \x7b x".toList (some " a Int \x7b x".toList) ∧
      (some " a Int \x7b x".toList = none →
        (step (.awaitingBrace ⟨.table, some "T", 1, 1, 8⟩)
          ⟨2, " \x7b a Int \x7b x".toList⟩).1 = .statement) ∧
      ∀ text, some " a Int \x7b x".toList = some text →
        Delimited ⟨1, text⟩
          (step (.awaitingBrace ⟨.table, some "T", 1, 1, 8⟩) ⟨2, " \x7b a Int \x7b x".toList⟩)
          (SourceLine.numbered 3 ["y \x7d".toList, "b Int \x7d".toList, "Enum S".toList]) := by
  have opens : Opens (.awaitingBrace ⟨.table, some "T", 1, 1, 8⟩)
      ⟨2, " \x7b a Int \x7b x".toList⟩ 1 " a Int \x7b x".toList
      (some " a Int \x7b x".toList) :=
    @Opens.brace ⟨.table, some "T", 1, 1, 8⟩ _ _ (by decide +kernel)
  exact ⟨opens, blocks_end opens _⟩

end ErdDeploy.Mode
