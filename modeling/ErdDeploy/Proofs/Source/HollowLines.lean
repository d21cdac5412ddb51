import ErdDeploy.Proofs.Source.Likeness

/-!
Lines that a body does not keep.

A line is hollow if it says nothing up to its first closing brace, or opens a brace and
so is not kept anyway: a blank line, a comment, or braces alone. Inside a block such a
line counts by its braces only. If as many open as close, the block is as deep behind it
as before (`Move.of_hollow`), and two hollow lines with the same braces cannot be told
apart (`hollow_alike`).
-/

namespace ErdDeploy

/-- The line opens a brace, or says nothing up to its first closing brace. -/
def SourceLine.IsHollow (line : SourceLine) : Prop :=
  line.opens = 0 → (Mode.beforeClosing line).isIdle = true

/-- Whether a finding is a statement, and no diagnostic. -/
def Finding.isStatement : Finding → Bool
  | .diagnostic _ => false
  | _ => true

theorem statements_alike {L : Likeness} {findings findings' : List Finding}
    (alike : List.Forall₂ (Finding.Alike L) findings findings') :
    List.Forall₂ (Finding.Alike L) (findings.filter Finding.isStatement)
      (findings'.filter Finding.isStatement) := by
  induction alike with
  | nil => exact .nil
  | cons here _ ih =>
      cases here with
      | enum line => exact .cons (.enum line) ih
      | table lines line => exact .cons (.table lines line) ih
      | reference line => exact .cons (.reference line) ih
      | diagnostic => exact ih

/-! ## Hollow lines -/

namespace SourceLine

variable {line : SourceLine}

theorem beforeClosing_of_closes (none : line.closes = 0) : Mode.beforeClosing line = line := by
  have all : line.text.takeWhile (· != '\x7d') = line.text := by
    rw [List.takeWhile_eq_self_iff]
    intro c member
    have other : c ≠ '\x7d' := by
      rintro rfl
      exact List.count_eq_zero.mp none member
    simpa using other
  rw [Mode.beforeClosing, all]

/-- A hollow line without braces says nothing. -/
theorem IsHollow.isIdle (hollow : line.IsHollow) (none : line.opens = 0) (none' : line.closes = 0) :
    line.isIdle = true := by
  rw [IsHollow, beforeClosing_of_closes none'] at hollow
  exact hollow none

theorem braces_of_blank (blank : Text.isBlankText line.text = true) :
    line.opens = 0 ∧ line.closes = 0 := by
  rw [Text.isBlankText, List.all_eq_true] at blank
  constructor
  · exact List.count_eq_zero.mpr fun member => absurd (blank _ member) (by decide)
  · exact List.count_eq_zero.mpr fun member => absurd (blank _ member) (by decide)

theorem isHollow_of_blank (blank : Text.trim line.text = []) : line.IsHollow := by
  intro _
  have trimmed : Text.trim (Mode.beforeClosing line).text = [] := by
    rw [Mode.beforeClosing, ← Text.trim_takeWhile_ne (by decide), blank]
    rfl
  simp [isIdle, trimmed]

end SourceLine

/-! ## Hollow lines inside a block -/

namespace Mode

variable {L : Likeness} {line line' : SourceLine}

/-- Behind a hollow line as many braces of which open as close, a block is as deep as before, and
nothing is found but a block inside the body. -/
theorem Move.of_hollow {mode mode' next : Mode} {findings : List Finding}
    (move : Move mode' line next findings) (modes : mode.Alike L mode')
    (opened : mode.isOpen = true) (hollow : line.IsHollow) (balanced : line.opens = line.closes) :
    mode.Alike L next ∧ findings.filter Finding.isStatement = [] ∧
      (line.opens = 0 → findings = []) := by
  cases modes with
  | statement => cases opened
  | awaitingBrace => cases opened
  | @body block block' depth kept kept' blocks deep bodies =>
      cases move with
      | body move =>
        cases move with
        | last _ none some => omega
        | closed closes => omega
        | nested _ some =>
            rw [show depth + line.opens - line.closes = depth by omega]
            exact ⟨.body blocks deep bodies, rfl, fun none => absurd none (by omega)⟩
        | kept once none none' =>
            have more : BodiesAlike L kept (kept' ++ [line]) := by
              rw [BodiesAlike, TableBlock.linesOf_append_idle kept' (hollow.isIdle none none')]
              exact bodies
            rw [once] at *
            exact ⟨.body blocks Nat.one_pos more, rfl, fun _ => rfl⟩
        | passed _ none _ =>
            rw [show depth - line.closes = depth by omega]
            exact ⟨.body blocks deep bodies, rfl, fun _ => rfl⟩
  | @stray start start' depth starts deep =>
      cases move with
      | strayClosed closes => omega
      | strayed stays =>
          rw [show depth + line.opens - line.closes = depth by omega]
          exact ⟨.stray starts deep, rfl, fun _ => rfl⟩

/-- Inside a block, two hollow lines with the same braces come to the same. -/
theorem hollow_alike {mode mode' : Mode} (modes : mode.Alike L mode')
    (opened : mode.isOpen = true) (hollow : line.IsHollow) (hollow' : line'.IsHollow)
    (opens : line.opens = line'.opens) (closes : line.closes = line'.closes) :
    (step mode line).1.Alike L (step mode' line').1 ∧
      List.Forall₂ (Finding.Alike L) ((step mode line).2.filter Finding.isStatement)
        ((step mode' line').2.filter Finding.isStatement) := by
  cases modes with
  | statement => cases opened
  | awaitingBrace => cases opened
  | stray starts deep =>
      refine ⟨?_, .nil⟩
      simp only [step, strayStep]
      rw [← opens, ← closes]
      split
      · exact .statement
      · exact .stray starts (by omega)
  | body blocks deep bodies =>
      simp only [step, bodyStep]
      rw [← opens, ← closes]
      split
      · next only =>
        have last := bodies.append_idle (hollow only.2.1) (hollow' (opens ▸ only.2.1))
        simp only [OpenBlock.close_last]
        exact ⟨.statement, statements_alike (.cons (blocks.close last) .nil)⟩
      · split
        · exact ⟨.statement, statements_alike (.cons (blocks.close bodies) .nil)⟩
        · next stays =>
          have deeper := Nat.sub_pos_of_lt (Nat.lt_of_not_le stays)
          split
          · exact ⟨.body blocks deeper bodies, .nil⟩
          · next unopened =>
            have none := Nat.eq_zero_of_not_pos unopened
            split
            · next same =>
              have more := bodies.append_idle (hollow.isIdle none same.2)
                (hollow'.isIdle (opens ▸ none) (closes ▸ same.2))
              exact ⟨.body blocks deeper more, .nil⟩
            · exact ⟨.body blocks deeper bodies, .nil⟩

end Mode

end ErdDeploy
