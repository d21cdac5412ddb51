import ErdDeploy.Proofs.Source.Unnumbered

/-!
Comment lines.

A comment says nothing, but the reader counts its braces when a block is open, and takes
it for the line behind a header. So deleting a comment may change what a source says
(`not_transparent`).

`Extract.comment_line` says what a comment does. Where no block is open it stands between
what is read before it and what is read behind it. Inside a block it counts by its braces
and by nothing else. So it can be deleted wherever no block is open, and also inside a
block if as many braces open in it as close, but not from between a header and its brace.
-/

namespace ErdDeploy

namespace Source

/-- The trimmed line begins with two slashes. -/
def IsComment (line : List Char) : Prop :=
  SourceLine.isComment (Text.trim line) = true

/-- The braces of a line, without anything else. -/
def bracesOf (line : List Char) : List Char :=
  line.filter fun c => c = '\x7b' || c = '\x7d'

instance {line : List Char} : Decidable (IsComment line) :=
  inferInstanceAs (Decidable (_ = true))

variable {comment : List Char}

theorem isHollow_of_isComment (isComment : IsComment comment) (number : Int) :
    SourceLine.IsHollow ⟨number, comment⟩ := by
  intro _
  obtain ⟨rest, slashes⟩ := List.isPrefixOf_iff_prefix.mp isComment
  have visible : ∀ c ∈ ['/', '/'], Text.isBlank c = false := by
    intro c member
    have slash : c = '/' := by simpa using member
    rw [slash]
    decide
  have front : ['/', '/'] <+: Text.trim (comment.takeWhile (· != '\x7d')) := by
    rw [← Text.trim_takeWhile_ne (by decide), ← slashes]
    exact Text.prefix_trim (rest.takeWhile (· != '\x7d')) visible
  have still : SourceLine.isComment (Text.trim (comment.takeWhile (· != '\x7d'))) = true :=
    List.isPrefixOf_iff_prefix.mpr front
  simp [SourceLine.isIdle, Mode.beforeClosing, still]

theorem isHollow_bracesOf (number : Int) (line : List Char) :
    SourceLine.IsHollow ⟨number, bracesOf line⟩ := by
  intro unopened
  have closing : ∀ c ∈ bracesOf line, c = '\x7d' := by
    intro c member
    have brace := (List.mem_filter.mp member).2
    simp only [Bool.or_eq_true, decide_eq_true_eq] at brace
    refine brace.resolve_left ?_
    rintro rfl
    exact List.count_eq_zero.mp unopened member
  have empty : (bracesOf line).takeWhile (· != '\x7d') = [] := by
    cases braces : bracesOf line with
    | nil => rfl
    | cons c rest => simp [closing c (by rw [braces]; exact List.mem_cons_self)]
  simp [SourceLine.isIdle, Mode.beforeClosing, empty, Text.trim, Text.strip, Text.dropEndWhile]

theorem opens_bracesOf (number : Int) (line : List Char) :
    SourceLine.opens ⟨number, bracesOf line⟩ = SourceLine.opens ⟨number, line⟩ := by
  simp [SourceLine.opens, bracesOf, List.count_filter]

theorem closes_bracesOf (number : Int) (line : List Char) :
    SourceLine.closes ⟨number, bracesOf line⟩ = SourceLine.closes ⟨number, line⟩ := by
  simp [SourceLine.closes, bracesOf, List.count_filter]

theorem not_beginsWithBrace_of_isComment (isComment : IsComment comment)
    (after : List (List Char)) : ¬ BeginsWithBrace (comment :: after) := by
  rw [beginsWithBrace_cons]
  rintro ⟨tail, brace⟩
  rw [IsComment, brace] at isComment
  cases isComment

/-- Where no block is open, a comment stands between the lines before it and those behind it. -/
theorem findings_comment_of_closed {before : List (List Char)} (closed : ¬ LeavesOpen before)
    (isComment : IsComment comment) (after : List (List Char)) :
    findings (SourceLine.numbered 1 (before ++ comment :: after)) =
      findings (SourceLine.numbered 1 before) ++
        (findings (SourceLine.numbered 1 after)).map (·.shift (before.length + 1)) := by
  have idle : ∀ number, SourceLine.isIdle ⟨number, comment⟩ = true := by
    intro number
    have isComment : SourceLine.isComment (Text.trim comment) = true := isComment
    simp [SourceLine.isIdle, isComment]
  have skipped : ∀ number, Mode.run .statement (SourceLine.numbered number (comment :: after)) =
      Mode.run .statement (SourceLine.numbered (number + 1) after) := by
    intro number
    rw [SourceLine.numbered, Mode.run, Mode.step, Mode.statementStep, if_pos (idle number)]
    rfl
  rw [findings_append_of_closed closed fun both =>
    not_beginsWithBrace_of_isComment isComment after both.2, ← Mode.run_shift, skipped,
    Int.add_assoc, Mode.run_shift]

/-- Inside a block, a hollow line as many braces of which open as close says nothing. -/
theorem statements_of_hollow {mode : Mode} {line : SourceLine} {lines lines' : List SourceLine}
    (modes : mode.Alike .anywhere mode) (opened : mode.isOpen = true) (hollow : line.IsHollow)
    (balanced : line.opens = line.closes)
    (related : List.Forall₂ (SourceLine.Alike .anywhere) lines lines') :
    List.Forall₂ (Finding.Alike .anywhere)
      ((Mode.run mode lines).filter Finding.isStatement)
      ((Mode.run mode (line :: lines')).filter Finding.isStatement) := by
  obtain ⟨same, nothing, -⟩ := (Mode.move_step mode line).of_hollow modes opened hollow balanced
  rw [Mode.run, List.filter_append, nothing, List.nil_append]
  exact statements_alike (Mode.run_alike same related)

theorem numbered_anywhere (texts : List (List Char)) (number number' : Int) :
    List.Forall₂ (SourceLine.Alike .anywhere) (SourceLine.numbered number texts)
      (SourceLine.numbered number' texts) :=
  SourceLine.numbered_alike (List.forall₂_same.mpr fun _ _ => rfl) fun _ => trivial

end Source

namespace Extract

open Source

variable {before after : List (List Char)} {comment : List Char}

theorem ofLines_eq (first more : List (List Char)) : ofLines (first ++ more) =
    ofFindings (Mode.yields .statement (SourceLine.numbered 1 first)) ++
      ofFindings (Mode.run (ending first) (SourceLine.numbered (1 + first.length) more)) := by
  rw [ofLines, findings_append, ofFindings_append]

/-- A comment can be deleted from an open block if as many braces open in it as close. -/
theorem saysSame_of_balanced (isOpen : LeavesOpen before) (isComment : IsComment comment)
    (balanced : comment.count '\x7b' = comment.count '\x7d') :
    (ofLines (before ++ comment :: after)).SaysSame (ofLines (before ++ after)) := by
  rw [ofLines_eq, ofLines_eq]
  refine (SaysSame.refl _).append (SaysSame.symm (saysSame_of_statements ?_))
  exact statements_of_hollow (ending_alike (fun _ _ => trivial) before)
    (leavesOpen_iff.mp isOpen) (isHollow_of_isComment isComment _) balanced
    (numbered_anywhere after _ _)

/-- Inside a block a comment is its braces. -/
theorem saysSame_of_bracesOf (isOpen : LeavesOpen before) (isComment : IsComment comment) :
    (ofLines (before ++ comment :: after)).SaysSame
      (ofLines (before ++ bracesOf comment :: after)) := by
  rw [ofLines_eq, ofLines_eq]
  refine (SaysSame.refl _).append (saysSame_of_statements ?_)
  obtain ⟨modes, statements⟩ := Mode.hollow_alike
    (ending_alike (L := .anywhere) (fun _ _ => trivial) before) (leavesOpen_iff.mp isOpen)
    (isHollow_of_isComment isComment (1 + before.length))
    (isHollow_bracesOf (1 + before.length) comment) (opens_bracesOf _ _).symm
    (closes_bracesOf _ _).symm
  rw [SourceLine.numbered, SourceLine.numbered, Mode.run, Mode.run, List.filter_append,
    List.filter_append]
  exact List.rel_append statements
    (statements_alike (Mode.run_alike modes (numbered_anywhere after _ _)))

/-- Deleting a comment may change what a source says. -/
theorem not_transparent : ¬ ∀ (before after : List (List Char)) (comment : List Char),
    IsComment comment →
      (ofLines (before ++ comment :: after)).SaysSame (ofLines (before ++ after)) := by
  intro transparent
  have same := transparent ["Table T \x7b".toList, "id GUID [pk]".toList]
    ["name String".toList, "\x7d".toList] "// \x7d b".toList (by decide +kernel)
  have different : (ofLines (["Table T \x7b".toList, "id GUID [pk]".toList] ++
        "// \x7d b".toList :: ["name String".toList, "\x7d".toList])).tables.map
          TableBlock.unnumbered ≠
      (ofLines (["Table T \x7b".toList, "id GUID [pk]".toList] ++
        ["name String".toList, "\x7d".toList])).tables.map TableBlock.unnumbered := by
    decide +kernel
  exact different same.tables

/-- **Comments.** Where no block is open, a comment stands between what the lines before it say and
what the lines behind it say. Deleting it changes nothing but line numbers if, besides, it does not
stand between a header and its brace, and also inside a block if as many braces open in it as close.
Inside a block it says as much as its braces alone. -/
theorem comment_line (before after : List (List Char)) {comment : List Char}
    (isComment : IsComment comment) :
    (¬ LeavesOpen before → ofLines (before ++ comment :: after) =
        ofLines before ++ (ofLines after).shift (before.length + 1)) ∧
      (¬ LeavesOpen before ∨ comment.count '\x7b' = comment.count '\x7d' →
        ¬ (EndsInHeader before ∧ BeginsWithBrace after) →
          (ofLines (before ++ comment :: after)).SaysSame (ofLines (before ++ after))) ∧
      (LeavesOpen before → (ofLines (before ++ comment :: after)).SaysSame
        (ofLines (before ++ bracesOf comment :: after))) := by
  have between : ¬ LeavesOpen before → ofLines (before ++ comment :: after) =
      ofLines before ++ (ofLines after).shift (before.length + 1) := by
    intro closed
    rw [ofLines, findings_comment_of_closed closed isComment, ofFindings_append, ofFindings_shift]
    rfl
  refine ⟨between, fun inert apart => ?_, fun isOpen => saysSame_of_bracesOf isOpen isComment⟩
  by_cases isOpen : LeavesOpen before
  · exact saysSame_of_balanced isOpen isComment (inert.resolve_left fun closed => closed isOpen)
  · have joined : ofLines (before ++ after) =
        ofLines before ++ (ofLines after).shift before.length := by
      rw [ofLines, findings_append_of_closed isOpen apart, ofFindings_append, ofFindings_shift]
      rfl
    rw [between isOpen, joined]
    exact (SaysSame.refl _).append (SaysSame.shift _ _ _)

/-- A comment in a block, with braces of its own that are closed. -/
theorem comment_line_inside :
    Source.IsComment "  // see \x7bdocs\x7d".toList ∧
      (ofLines (["Table T \x7b".toList] ++
          "  // see \x7bdocs\x7d".toList :: ["id GUID [pk]".toList, "\x7d".toList])).SaysSame
        (ofLines (["Table T \x7b".toList] ++ ["id GUID [pk]".toList, "\x7d".toList])) := by
  have isComment : Source.IsComment "  // see \x7bdocs\x7d".toList := by decide +kernel
  have noBrace : ¬ Source.BeginsWithBrace ["id GUID [pk]".toList, "\x7d".toList] := by
    decide +kernel
  have balanced : "  // see \x7bdocs\x7d".toList.count '\x7b' =
      "  // see \x7bdocs\x7d".toList.count '\x7d' := by
    decide +kernel
  obtain ⟨-, deleted, -⟩ := comment_line ["Table T \x7b".toList]
    ["id GUID [pk]".toList, "\x7d".toList] isComment
  exact ⟨isComment, deleted (Or.inr balanced) fun both => noBrace both.2⟩

end Extract

end ErdDeploy
