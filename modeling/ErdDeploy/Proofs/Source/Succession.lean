import ErdDeploy.Proofs.Source.Origins

/-!
One statement behind the other.

Every statement occupies the lines from that of its header to the last one it is made of, and the
next statement, of whatever kind, begins behind them (`Extract.ofText_successive`). So no line of a
source goes into two statements. Within a block no line goes into two parts of the body, as
these come under increasing numbers.
-/

namespace ErdDeploy

/-- The line on which a statement begins. -/
def Finding.start? : Finding → Option Int
  | .enum block => some block.line
  | .table block => some block.line
  | .reference r => some r.line
  | .diagnostic _ => none

/-- The lines on which the statements of a source begin. -/
def Extract.starts (e : Extract) : List Int :=
  e.enums.map (·.line) ++ (e.tables.map (·.line) ++ e.references.map (·.line))

/-- A block with this body, from line `start` to line `last`, in front of every statement that
begins behind line `start`. -/
structure Occupies (lines : List SourceLine) (starts : List Int) (start last : Int)
    (body : List SourceLine) : Prop where
  block : ∃ (block : OpenBlock) (opened : SourceLine) (tail : List Char),
    Opening lines block opened tail ∧ block.line = start ∧ opened.number ≤ last ∧
      Drawn lines ⟨start, tail⟩ last body
  before : ∀ other ∈ starts, start < other → last < other

/-- No line of a source goes into two statements, or into two parts of a body. -/
structure Extract.Successive (lines : List SourceLine) (e : Extract) : Prop where
  distinct : e.starts.Nodup
  enums : e.enums.Pairwise (·.line < ·.line)
  tables : e.tables.Pairwise (·.line < ·.line)
  references : e.references.Pairwise (·.line < ·.line)
  bodies : ∀ table ∈ e.tables, table.lines.Pairwise (·.number < ·.number) ∧
    ∀ part ∈ table.lines, table.line ≤ part.number ∧
      ∀ start ∈ e.starts, table.line < start → part.number < start
  enumLines : ∀ enum ∈ e.enums, ∃ body last, enum.values = EnumBlock.valuesOf body ∧
    Occupies lines e.starts enum.line last body
  tableLines : ∀ table ∈ e.tables, ∃ body last, table.lines = TableBlock.linesOf body ∧
    Occupies lines e.starts table.line last body
  referenceLines : ∀ r ∈ e.references, ∃ line ∈ lines, line.number = r.line ∧
    Mode.referenceFinding line = .reference r

/-! ## Views of a finding -/

namespace Finding

variable {finding : Finding}

theorem enum?_eq_some_iff {enum : EnumBlock} :
    finding.enum? = some enum ↔ finding = .enum enum := by
  cases finding <;> simp [enum?]

theorem table?_eq_some_iff {table : TableBlock} :
    finding.table? = some table ↔ finding = .table table := by
  cases finding <;> simp [table?]

theorem reference?_eq_some_iff {r : Reference} :
    finding.reference? = some r ↔ finding = .reference r := by
  cases finding <;> simp [reference?]

theorem diagnostic?_eq_some_iff {d : Diagnostic} :
    finding.diagnostic? = some d ↔ finding = .diagnostic d := by
  cases finding <;> simp [diagnostic?]

end Finding

section

variable {lines : List SourceLine} {first last : Int} {finding : Finding} {findings : List Finding}

/-! ## Where statements begin -/

theorem start?_close {block : OpenBlock} {body : List SourceLine} {start : Int}
    (begins : (block.close body).start? = some start) : block.line = start := by
  unfold OpenBlock.close at begins
  split at begins
  · cases begins
  · split at begins
    · exact Option.some.inj begins
    · exact Option.some.inj begins

theorem line_of_referenceFinding {line : SourceLine} {r : Reference}
    (read : Mode.referenceFinding line = .reference r) : r.line = line.number := by
  unfold Mode.referenceFinding at read
  simp only at read
  split at read
  · cases read
  · split at read
    · next means =>
      cases read
      rcases Option.map_eq_some_iff.mp means with ⟨direction, -, rfl⟩
      rfl
    · cases read

theorem Made.bounds (made : Made lines first last finding) {start : Int}
    (begins : finding.start? = some start) :
    first ≤ start ∧ start ≤ last ∧ Made lines start last finding := by
  cases made with
  | block opening starts ends drawn =>
      have same := start?_close begins
      have number := opening.number_eq
      exact ⟨by omega, by omega, .block opening (by omega) ends drawn⟩
  | reference member starts ends read =>
      have same := line_of_referenceFinding read
      have begins : _ = start := Option.some.inj begins
      exact ⟨by omega, by omega, .reference member (by omega) ends read⟩

theorem Made.first_le_last (made : Made lines first last finding) : first ≤ last := by
  cases made with
  | block opening starts ends =>
      have number := opening.number_eq
      omega
  | reference _ starts ends => omega

theorem Made.exists_line {r : Reference} (made : Made lines first last (.reference r)) :
    ∃ line ∈ lines, line.number = r.line ∧ Mode.referenceFinding line = .reference r := by
  generalize same : Finding.reference r = finding at made
  cases made with
  | @block block _ _ body => exact absurd same.symm (block.close_ne_reference body r)
  | reference member _ _ read =>
      cases same
      exact ⟨_, member, (line_of_referenceFinding read).symm, read⟩

theorem InOrder.le_start (inOrder : InOrder lines first findings) :
    ∀ finding ∈ findings, ∀ start, finding.start? = some start → first ≤ start := by
  induction inOrder with
  | nil => exact fun _ none => nomatch none
  | reported _ _ ih => exact List.forall_mem_cons.mpr ⟨nofun, ih⟩
  | made made _ ih =>
      refine List.forall_mem_cons.mpr ⟨fun start begins => (made.bounds begins).1, ?_⟩
      intro other member start begins
      have behind := ih other member start begins
      have within := made.first_le_last
      omega

/-- Statements begin one behind the other. -/
theorem InOrder.increasing (inOrder : InOrder lines first findings) :
    findings.Pairwise fun finding later => ∀ start other, finding.start? = some start →
      later.start? = some other → start < other := by
  induction inOrder with
  | nil => exact .nil
  | reported _ _ ih => exact .cons (fun _ _ _ _ none => nomatch none) ih
  | made made later ih =>
      refine .cons (fun finding member start other begins begins' => ?_) ih
      have bounds := made.bounds begins
      have behind := later.le_start finding member other begins'
      omega

/-- A statement is made of lines in front of those of every statement that begins behind it. -/
theorem InOrder.exists_last (inOrder : InOrder lines first findings) :
    ∀ finding ∈ findings, ∀ start, finding.start? = some start → ∃ last,
      Made lines start last finding ∧ ∀ later ∈ findings, ∀ other, later.start? = some other →
        start < other → last < other := by
  induction inOrder with
  | nil => exact fun _ none => nomatch none
  | reported _ _ ih =>
      refine List.forall_mem_cons.mpr ⟨nofun, fun finding member start begins => ?_⟩
      rcases ih finding member start begins with ⟨last, made, before⟩
      exact ⟨last, made, List.forall_mem_cons.mpr ⟨nofun, before⟩⟩
  | @made first last finding findings made later ih =>
      refine List.forall_mem_cons.mpr ⟨?_, ?_⟩
      · intro start begins
        rcases made.bounds begins with ⟨-, -, made'⟩
        refine ⟨last, made', List.forall_mem_cons.mpr ⟨?_, ?_⟩⟩
        · intro other begins' behind
          have same := Option.some.inj (begins.symm.trans begins')
          omega
        · intro next member other begins' _
          have behind := later.le_start next member other begins'
          omega
      · intro finding' member start begins
        rcases ih finding' member start begins with ⟨last', made', before⟩
        refine ⟨last', made', List.forall_mem_cons.mpr ⟨?_, before⟩⟩
        intro other begins' behind
        have bounds := made.bounds begins'
        have further := later.le_start finding' member start begins
        omega

/-! ## Statements of an extract -/

theorem starts_perm (findings : List Finding) :
    (Extract.ofFindings findings).starts.Perm (findings.filterMap Finding.start?) := by
  induction findings with
  | nil => exact .nil
  | cons finding findings ih =>
      cases finding with
      | enum block => exact ih.cons block.line
      | table block => exact List.perm_middle.trans (ih.cons block.line)
      | reference r =>
          have last : ∀ enums tables references : List Int,
              (enums ++ (tables ++ r.line :: references)).Perm
                (r.line :: (enums ++ (tables ++ references))) := by
            intro enums tables references
            rw [← List.append_assoc, ← List.append_assoc]
            exact List.perm_middle
          exact (last _ _ _).trans (ih.cons r.line)
      | diagnostic d => exact ih

theorem mem_starts {start : Int} : start ∈ (Extract.ofFindings findings).starts ↔
    ∃ finding ∈ findings, finding.start? = some start := by
  rw [(starts_perm findings).mem_iff, List.mem_filterMap]

/-- The lines of a table, and of every other view of a list of findings, follow each other. -/
theorem pairwise_filterMap {α : Type} {view : Finding → Option α} {line : α → Int}
    (inOrder : InOrder lines first findings)
    (views : ∀ finding x, view finding = some x → finding.start? = some (line x)) :
    (findings.filterMap view).Pairwise (fun x y => line x < line y) := by
  rw [List.pairwise_filterMap]
  refine inOrder.increasing.imp fun increasing x seen y seen' => ?_
  exact increasing _ _ (views _ x seen) (views _ y seen')

theorem pairwise_starts (inOrder : InOrder lines first findings) :
    (findings.filterMap Finding.start?).Pairwise (· < ·) :=
  @pairwise_filterMap _ _ _ _ _ id inOrder fun _ _ begins => begins

/-- What a block is made of, and where the statements behind it begin. -/
theorem InOrder.exists_occupies (inOrder : InOrder lines first findings) {finding : Finding}
    (member : finding ∈ findings) {start : Int} (begins : finding.start? = some start)
    (isBlock : ∀ r, finding ≠ .reference r) : ∃ (block : OpenBlock) (body : List SourceLine)
      (last : Int), finding = block.close body ∧
        Occupies lines (Extract.ofFindings findings).starts start last body := by
  rcases inOrder.exists_last finding member start begins with ⟨last, made, before⟩
  cases made with
  | @block block opened tail body opening starts ends drawn =>
      have same := start?_close begins
      subst same
      refine ⟨block, body, last, rfl, ⟨block, opened, tail, opening, rfl, ends, drawn⟩, ?_⟩
      intro other among behind
      rcases mem_starts.mp among with ⟨later, member', begins'⟩
      exact before later member' other begins' behind
  | reference => exact absurd rfl (isBlock _)

theorem close_eq_table {block : OpenBlock} {body : List SourceLine} {table : TableBlock}
    (same : .table table = block.close body) : table.lines = TableBlock.linesOf body := by
  unfold OpenBlock.close at same
  split at same
  · cases same
  · split at same
    · cases same
    · cases same
      rfl

theorem close_eq_enum {block : OpenBlock} {body : List SourceLine} {enum : EnumBlock}
    (same : .enum enum = block.close body) : enum.values = EnumBlock.valuesOf body := by
  unfold OpenBlock.close at same
  split at same
  · cases same
  · split at same
    · cases same
      rfl
    · cases same

theorem InOrder.exists_table (inOrder : InOrder lines first findings) {table : TableBlock}
    (member : table ∈ (Extract.ofFindings findings).tables) :
    ∃ body last, table.lines = TableBlock.linesOf body ∧
      Occupies lines (Extract.ofFindings findings).starts table.line last body := by
  rcases List.mem_filterMap.mp member with ⟨finding, among, seen⟩
  have same := Finding.table?_eq_some_iff.mp seen
  subst same
  rcases inOrder.exists_occupies among rfl nofun with ⟨block, body, last, closed, occupies⟩
  exact ⟨body, last, close_eq_table closed, occupies⟩

theorem InOrder.exists_enum (inOrder : InOrder lines first findings) {enum : EnumBlock}
    (member : enum ∈ (Extract.ofFindings findings).enums) :
    ∃ body last, enum.values = EnumBlock.valuesOf body ∧
      Occupies lines (Extract.ofFindings findings).starts enum.line last body := by
  rcases List.mem_filterMap.mp member with ⟨finding, among, seen⟩
  have same := Finding.enum?_eq_some_iff.mp seen
  subst same
  rcases inOrder.exists_occupies among rfl nofun with ⟨block, body, last, closed, occupies⟩
  exact ⟨body, last, close_eq_enum closed, occupies⟩

theorem Occupies.bodies {starts : List Int} {start : Int} {body : List SourceLine}
    (occupies : Occupies lines starts start last body) :
    (TableBlock.linesOf body).Pairwise (·.number < ·.number) ∧
      ∀ part ∈ TableBlock.linesOf body, start ≤ part.number ∧
        ∀ other ∈ starts, start < other → part.number < other := by
  rcases occupies.block with ⟨block, opened, tail, opening, rfl, ends, drawn⟩
  refine ⟨drawn.increasing.filter _, fun part member => ?_⟩
  rcases drawn.parts part (List.mem_of_mem_filter member) with ⟨-, notBefore, notAfter⟩
  refine ⟨notBefore, fun other among behind => ?_⟩
  have further := occupies.before other among behind
  omega

/-- The statements of findings that are in order do not share lines. -/
theorem InOrder.successive (inOrder : InOrder lines first findings) :
    Extract.Successive lines (.ofFindings findings) where
  distinct := (starts_perm findings).nodup_iff.mpr ((pairwise_starts inOrder).imp Int.ne_of_lt)
  enums := pairwise_filterMap inOrder fun finding enum seen => by
    rw [Finding.enum?_eq_some_iff.mp seen, Finding.start?]
  tables := pairwise_filterMap inOrder fun finding table seen => by
    rw [Finding.table?_eq_some_iff.mp seen, Finding.start?]
  references := pairwise_filterMap inOrder fun finding r seen => by
    rw [Finding.reference?_eq_some_iff.mp seen, Finding.start?]
  bodies := by
    intro table member
    rcases inOrder.exists_table member with ⟨body, last, same, occupies⟩
    rw [same]
    exact occupies.bodies
  enumLines := fun enum member => inOrder.exists_enum member
  tableLines := fun table member => inOrder.exists_table member
  referenceLines := by
    intro r member
    rcases List.mem_filterMap.mp member with ⟨finding, among, seen⟩
    have same := Finding.reference?_eq_some_iff.mp seen
    subst same
    rcases inOrder.exists_last _ among r.line rfl with ⟨last, made, -⟩
    exact made.exists_line

end

/-- **Succession.** No line of a text goes into two statements of its extract, or into two parts of
a body: the enums, the tables and the references each follow their lines, no two statements begin on
one line, and a block is made of lines from that of its header on that end in front of the next
statement of any kind, with a body that follows its lines. -/
theorem Extract.ofText_successive (text : String) :
    Successive (SourceLine.ofText text) (ofText text) :=
  (inOrder_findings (Text.splitLines text.toList)).successive

end ErdDeploy
