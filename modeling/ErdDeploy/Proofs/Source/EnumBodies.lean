import ErdDeploy.Proofs.Data.LastEntries
import ErdDeploy.Proofs.Source.Comments
import Mathlib.Data.List.Induction

/-!
Lines at the end of an enum.

The values of a body are the first occurrences of what its lines say (`EnumBlock.valuesOf_eq`),
so the values of a longer body begin with those of the shorter one
(`EnumBlock.exists_valuesOf_append`).

A brace that stands alone on its line closes a block only one brace deep
(`Mode.step_alone_cases`), and lines without braces that come in front of it are kept one by
one. So the lines in front, the block and the lines behind are told apart
(`Extract.ofLines_of_open`), whatever was put in front of the brace.
-/

namespace ErdDeploy

/-! ## Values of a body -/

namespace EnumBlock

/-- What the lines of a body say, cleaned and in order, without lines that say nothing. -/
def labelsOf (body : List SourceLine) : List String :=
  ((body.filter fun line => !line.isIdle).map
    fun line => String.ofList (EnumValue.clean line.text)).filter (· != "")

theorem labelsOf_append (body more : List SourceLine) :
    labelsOf (body ++ more) = labelsOf body ++ labelsOf more := by
  rw [labelsOf, List.filter_append, List.map_append, List.filter_append]
  rfl

theorem valuesOf_concat (body : List SourceLine) (line : SourceLine) :
    valuesOf (body ++ [line]) =
      if line.isIdle then valuesOf body
      else EnumValue.addNew (valuesOf body) (EnumValue.clean line.text) := by
  rw [valuesOf, List.filter_append, List.foldl_append]
  cases idle : line.isIdle with
  | true => simp [idle, valuesOf]
  | false => simp [idle, valuesOf]

/-- The values of a body are what its lines say, each where it first comes. -/
theorem valuesOf_eq (body : List SourceLine) : valuesOf body = (labelsOf body).eraseDups := by
  induction body using List.reverseRecOn with
  | nil => rfl
  | append_singleton body line ih =>
      rw [valuesOf_concat, labelsOf_append, ih]
      cases idle : line.isIdle with
      | true =>
          have nothing : labelsOf [line] = [] := by
            simp [labelsOf, idle]
          rw [nothing, List.append_nil, if_pos rfl]
      | false =>
          rw [if_neg Bool.false_ne_true, EnumValue.addNew]
          by_cases empty : String.ofList (EnumValue.clean line.text) = ""
          · have nothing : labelsOf [line] = [] := by
              simp [labelsOf, idle, empty]
            rw [nothing, List.append_nil]
            simp only [empty, decide_true, Bool.true_or, if_true]
          · have said : labelsOf [line] = [String.ofList (EnumValue.clean line.text)] := by
              simp [labelsOf, idle, empty]
            rw [said, eraseDups_concat]
            simp only [empty, decide_false, Bool.false_or, List.contains_iff_mem,
              List.mem_eraseDups]

theorem nodup_valuesOf (body : List SourceLine) : (valuesOf body).Nodup := by
  rw [valuesOf_eq]
  exact nodup_eraseDups _

theorem ne_empty_of_mem_valuesOf {body : List SourceLine} {value : String}
    (member : value ∈ valuesOf body) : value ≠ "" := by
  rw [valuesOf_eq, List.mem_eraseDups] at member
  simpa using (List.mem_filter.mp member).2

/-- More lines at the end add values at the end only. -/
theorem exists_valuesOf_append (body more : List SourceLine) :
    ∃ added, valuesOf (body ++ more) = valuesOf body ++ added := by
  rw [valuesOf_eq, labelsOf_append, List.eraseDups_append, ← valuesOf_eq]
  exact ⟨_, rfl⟩

end EnumBlock

/-! ## A brace alone on its line -/

/-- A line that holds a closing brace and blanks around it. -/
def SourceLine.IsAlone (line : SourceLine) : Prop :=
  Text.trim line.text = ['\x7d']

namespace SourceLine

variable {line : SourceLine}

theorem IsAlone.opens (alone : line.IsAlone) : line.opens = 0 := by
  rw [SourceLine.opens, ← Text.count_trim line.text (by decide), alone]
  rfl

theorem IsAlone.closes (alone : line.IsAlone) : line.closes = 1 := by
  rw [SourceLine.closes, ← Text.count_trim line.text (by decide), alone]
  rfl

theorem IsAlone.beforeClosing (alone : line.IsAlone) :
    Text.isBlankText (Mode.beforeClosing line).text = true := by
  rw [Text.isBlankText_iff, Mode.beforeClosing, ← Text.trim_takeWhile_ne (by decide), alone]
  rfl

end SourceLine

namespace Mode

/-- What is open has at least one brace. -/
def IsDeep : Mode → Prop
  | .body _ depth _ => 0 < depth
  | _ => True

section

variable {mode : Mode} {line : SourceLine} {block : OpenBlock} {kept : List SourceLine}

theorem BodyMove.isDeep {depth : Nat} {next : Mode} {findings : List Finding}
    (move : BodyMove block depth kept line next findings) : next.IsDeep := by
  cases move with
  | last => trivial
  | closed => trivial
  | nested stays => exact Nat.sub_pos_of_lt stays
  | kept => exact Nat.one_pos
  | passed stays => exact Nat.sub_pos_of_lt stays

theorem Entry.isDeep {tail : List Char} {next : Mode} {findings : List Finding}
    (entry : Entry block tail next findings) : next.IsDeep := by
  cases entry with
  | blank => exact Nat.one_pos
  | line _ move => exact move.isDeep

theorem StatementMove.isDeep {next : Mode} {findings : List Finding}
    (move : StatementMove line next findings) : next.IsDeep := by
  cases move with
  | block _ _ _ _ entry => exact entry.isDeep
  | _ => trivial

theorem Move.isDeep {next : Mode} {findings : List Finding} (move : Move mode line next findings) :
    next.IsDeep := by
  cases move with
  | statement move => exact move.isDeep
  | brace _ entry => exact entry.isDeep
  | lacking _ move => exact move.isDeep
  | body move => exact move.isDeep
  | strayClosed => trivial
  | strayed => trivial

theorem isDeep_after (deep : mode.IsDeep) (lines : List SourceLine) :
    (after mode lines).IsDeep := by
  induction lines generalizing mode with
  | nil => exact deep
  | cons line lines ih => exact ih (move_step mode line).isDeep

theorem isDeep_ending (lines : List (List Char)) : (Source.ending lines).IsDeep :=
  @isDeep_after .statement trivial _

/-- Where a statement may begin, a closing brace is no statement. -/
theorem statementStep_alone (alone : line.IsAlone) :
    statementStep line = (.statement, [.diagnostic (unrecognized line)]) := by
  have speaks : line.isIdle = false := by
    rw [SourceLine.isIdle, alone]
    rfl
  have keyword : keywordOf ['\x7d'] = .unknown := by
    decide +kernel
  have plain : opensStray line = false := by
    rw [opensStray, alone.opens]
    rfl
  rw [statementStep, speaks, alone, keyword, plain]
  rfl

/-- One brace deep, it closes the block and adds nothing to it. -/
theorem step_body_alone (alone : line.IsAlone) :
    step (.body block 1 kept) line = (.statement, [block.close kept]) := by
  rw [step, bodyStep, alone.opens, alone.closes, if_pos ⟨rfl, rfl, Nat.one_pos⟩]
  simp only [alone.beforeClosing, if_true]

/-- A closing brace alone on its line closes a block one brace deep, or no enum at all. -/
theorem step_alone_cases (deep : mode.IsDeep) (alone : line.IsAlone) :
    (∃ opened kept, mode = .body opened 1 kept ∧
      step mode line = (.statement, [opened.close kept])) ∨
      ∀ block, .enum block ∉ (step mode line).2 := by
  cases mode with
  | statement =>
      refine Or.inr fun block member => ?_
      rw [step, statementStep_alone alone] at member
      cases List.mem_singleton.mp member
  | awaitingBrace opened =>
      refine Or.inr fun block member => ?_
      rw [step, headerStep, alone, statementStep_alone alone] at member
      simp at member
  | stray start depth => exact Or.inr fun block => List.not_mem_nil
  | body opened depth kept =>
      by_cases once : depth = 1
      · subst once
        exact Or.inl ⟨opened, kept, rfl, step_body_alone alone⟩
      · refine Or.inr fun block member => ?_
        have deep : 0 < depth := deep
        rw [step, bodyStep, alone.opens, alone.closes, if_neg fun same => once same.1,
          if_neg (by omega)] at member
        simp at member

/-! ## Lines without braces -/

/-- Lines without braces are kept one brace deep, and nothing is reported of them. -/
theorem read_plain {texts : List (List Char)} {number : Int}
    (plain : ∀ text ∈ texts, '\x7b' ∉ text ∧ '\x7d' ∉ text) :
    yields (.body block 1 kept) (SourceLine.numbered number texts) = [] ∧
      after (.body block 1 kept) (SourceLine.numbered number texts) =
        .body block 1 (kept ++ SourceLine.numbered number texts) := by
  induction texts generalizing kept number with
  | nil => exact ⟨rfl, by rw [SourceLine.numbered, List.append_nil, after]⟩
  | cons text texts ih =>
      obtain ⟨⟨noOpening, noClosing⟩, others⟩ := List.forall_mem_cons.mp plain
      have opens : SourceLine.opens ⟨number, text⟩ = 0 := List.count_eq_zero.mpr noOpening
      have closes : SourceLine.closes ⟨number, text⟩ = 0 := List.count_eq_zero.mpr noClosing
      have here : step (.body block 1 kept) ⟨number, text⟩ =
          (.body block 1 (kept ++ [⟨number, text⟩]), []) := by
        rw [step, bodyStep, opens, closes]
        rfl
      obtain ⟨nothing, led⟩ := @ih (kept ++ [⟨number, text⟩]) (number + 1) others
      rw [SourceLine.numbered, yields, after, here]
      refine ⟨nothing, ?_⟩
      rw [led, List.append_assoc, List.singleton_append]

end

end Mode

/-! ## Enums that are closed by such a line -/

/-- A line closes an enum block: the block is found as soon as the line is read. -/
def Source.ClosesEnum (front : List (List Char)) (closing : List Char) (block : EnumBlock) : Prop :=
  (Extract.ofLines (front ++ [closing])).enums = (Extract.ofLines front).enums ++ [block]

instance {front : List (List Char)} {closing : List Char} {block : EnumBlock} :
    Decidable (Source.ClosesEnum front closing block) :=
  inferInstanceAs (Decidable ((Extract.ofLines (front ++ [closing])).enums =
    (Extract.ofLines front).enums ++ [block]))

namespace Extract

open Source

variable {front more back : List (List Char)} {closing : List Char} {block : EnumBlock}
  {opened : OpenBlock} {kept : List SourceLine}

theorem enums_finish (mode : Mode) : (ofFindings (Mode.finish mode)).enums = [] := by
  cases mode <;> rfl

/-- The end of a source closes no enum. -/
theorem enums_ofLines (lines : List (List Char)) : (ofLines lines).enums =
    (ofFindings (Mode.yields .statement (SourceLine.numbered 1 lines))).enums := by
  rw [ofLines, findings_eq, ofFindings_append]
  change _ ++ (ofFindings (Mode.finish _)).enums = _
  rw [enums_finish, List.append_nil]

theorem exists_open_of_closesEnum (closes : ClosesEnum front closing block)
    (alone : Text.trim closing = ['\x7d']) :
    ∃ opened kept, ending front = .body opened 1 kept ∧ opened.close kept = .enum block := by
  have found : .enum block ∈ (Mode.step (ending front) ⟨1 + front.length, closing⟩).2 := by
    rw [ClosesEnum, enums_ofLines, enums_ofLines, SourceLine.numbered_append, Mode.yields_append,
      ofFindings_append] at closes
    have here := List.append_cancel_left closes
    simp only [SourceLine.numbered, Mode.yields, List.append_nil] at here
    have member : block ∈ [block] := List.mem_singleton_self block
    rw [← here] at member
    obtain ⟨finding, among, seen⟩ := List.mem_filterMap.mp member
    cases finding with
    | enum other =>
        cases seen
        exact among
    | _ => cases seen
  have alone : SourceLine.IsAlone ⟨1 + front.length, closing⟩ := alone
  rcases Mode.step_alone_cases (Mode.isDeep_ending front) alone with
    ⟨opened, kept, mode, step⟩ | never
  · rw [step] at found
    exact ⟨opened, kept, mode, (List.mem_singleton.mp found).symm⟩
  · exact absurd found (never block)

/-- Lines in front of an open block, the block with the lines put in front of its closing brace, and
the lines behind. -/
theorem ofLines_of_open (mode : ending front = .body opened 1 kept)
    (plain : ∀ text ∈ more, '\x7b' ∉ text ∧ '\x7d' ∉ text)
    (alone : Text.trim closing = ['\x7d']) :
    ofLines (front ++ more ++ closing :: back) =
      ofFindings (Mode.yields .statement (SourceLine.numbered 1 front)) ++
        (ofFindings [opened.close (kept ++ SourceLine.numbered (1 + front.length) more)] ++
          (ofLines back).shift (front.length + more.length + 1)) := by
  obtain ⟨nothing, led⟩ := @Mode.read_plain opened kept more (1 + front.length) plain
  have alone : SourceLine.IsAlone ⟨1 + front.length + more.length, closing⟩ := alone
  have further : (1 : Int) + front.length + more.length + 1 =
      1 + (front.length + more.length + 1) := by
    omega
  rw [List.append_assoc, ofLines_eq, mode, SourceLine.numbered_append, Mode.run_append, nothing,
    led, List.nil_append, SourceLine.numbered, Mode.run, Mode.step_body_alone alone, further,
    Mode.run_shift, ofFindings_append, ofFindings_shift]
  rfl

end Extract

end ErdDeploy
