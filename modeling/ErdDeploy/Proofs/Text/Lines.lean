import ErdDeploy.Text.Lines

/-!
Lines written one below the other.

Lines without breaks are read back from their text, whether every line is ended by a line
feed (`splitLines_endLines`) or a line feed stands between any two of them
(`splitLines_joinLines`). In the second form the last line must not be empty, as a break
at the very end opens no further line.

The three newline conventions are told apart nowhere: a text has the same lines when each
newline is written as a line feed (`splitLines_unifyNewlines`).
-/

namespace ErdDeploy.Text

/-- The lines, each ended by a line feed. -/
def endLines (lines : List (List Char)) : List Char :=
  lines.flatMap fun line => line ++ ['\n']

/-- The lines with line feeds between them. -/
def joinLines : List (List Char) → List Char
  | [] => []
  | [line] => line
  | line :: next :: lines => line ++ '\n' :: joinLines (next :: lines)

/-- No line breaks. -/
def IsUnbroken (line : List Char) : Prop :=
  ∀ c ∈ line, isLineBreak c = false

instance {line : List Char} : Decidable (IsUnbroken line) :=
  List.decidableBAll _ line

theorem isUnbroken_cons {c : Char} {cs : List Char} :
    IsUnbroken (c :: cs) ↔ isLineBreak c = false ∧ IsUnbroken cs :=
  List.forall_mem_cons

theorem isUnbroken_append {first more : List Char} :
    IsUnbroken (first ++ more) ↔ IsUnbroken first ∧ IsUnbroken more :=
  List.forall_mem_append

theorem splitLines_cons {c : Char} (other : isLineBreak c = false) (cs : List Char) :
    splitLines (c :: cs) = consLine c (splitLines cs) := by
  have noReturn : c ≠ '\r' := by
    rintro rfl
    exact absurd other (by decide)
  rw [splitLines]
  · simp [other]
  · intro _ same
    exact absurd same noReturn

theorem splitLines_line {line : List Char} (unbroken : IsUnbroken line) (rest : List Char) :
    splitLines (line ++ '\n' :: rest) = line :: splitLines rest := by
  induction line with
  | nil => rfl
  | cons c cs ih =>
      have unbroken := isUnbroken_cons.mp unbroken
      rw [List.cons_append, splitLines_cons unbroken.1, ih unbroken.2, consLine]

theorem splitLines_last {line : List Char} (unbroken : IsUnbroken line) (some : line ≠ []) :
    splitLines line = [line] := by
  induction line with
  | nil => exact absurd rfl some
  | cons c cs ih =>
      have unbroken := isUnbroken_cons.mp unbroken
      rw [splitLines_cons unbroken.1]
      cases cs with
      | nil => rfl
      | cons d cs => rw [ih unbroken.2 (List.cons_ne_nil d cs), consLine]

theorem splitLines_endLines {lines : List (List Char)}
    (unbroken : ∀ line ∈ lines, IsUnbroken line) : splitLines (endLines lines) = lines := by
  induction lines with
  | nil => rfl
  | cons line lines ih =>
      have unbroken := List.forall_mem_cons.mp unbroken
      rw [endLines, List.flatMap_cons, List.append_assoc, List.singleton_append,
        splitLines_line unbroken.1]
      exact congrArg _ (ih unbroken.2)

theorem splitLines_joinLines {lines : List (List Char)} (unbroken : ∀ line ∈ lines, IsUnbroken line)
    (ends : lines.getLast? ≠ some []) : splitLines (joinLines lines) = lines := by
  induction lines with
  | nil => rfl
  | cons line lines ih =>
      have unbroken := List.forall_mem_cons.mp unbroken
      cases lines with
      | nil =>
          refine splitLines_last unbroken.1 ?_
          rintro rfl
          exact ends rfl
      | cons next lines =>
          rw [List.getLast?_cons_cons] at ends
          rw [joinLines, splitLines_line unbroken.1, ih unbroken.2 ends]

/-! ## Newlines -/

theorem splitLines_break {c : Char} (ends : isLineBreak c = true) (noReturn : c ≠ '\r')
    (cs : List Char) : splitLines (c :: cs) = [] :: splitLines cs := by
  rw [splitLines]
  · rw [if_pos ends]
  · intro _ same
    exact absurd same noReturn

/-- A carriage return is a break of its own, unless a line feed follows. -/
theorem splitLines_return {cs : List Char} (alone : ∀ rest, cs ≠ '\n' :: rest) :
    splitLines ('\r' :: cs) = [] :: splitLines cs := by
  rw [splitLines]
  · rw [if_pos (by decide)]
  · intro rest _ follows
    exact absurd follows (alone rest)

/-- Writing every newline as a line feed changes no line. -/
theorem splitLines_unifyNewlines (cs : List Char) :
    splitLines (unifyNewlines cs) = splitLines cs := by
  have feed : ∀ cs, splitLines ('\n' :: cs) = [] :: splitLines cs :=
    splitLines_break (by decide) (by decide)
  fun_induction unifyNewlines cs with
  | case1 => rfl
  | case2 cs ih => rw [feed, ih, splitLines]
  | case3 c cs alone ih =>
      split
      · next isReturn =>
        subst isReturn
        rw [feed, ih, splitLines_return fun rest => alone rest rfl]
      · next other =>
        cases ends : isLineBreak c with
        | true => rw [splitLines_break ends other, splitLines_break ends other, ih]
        | false => rw [splitLines_cons ends, splitLines_cons ends, ih]

end ErdDeploy.Text
