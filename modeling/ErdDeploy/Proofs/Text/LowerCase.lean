import ErdDeploy.Text.Letter
import Mathlib

/-!
What lower-casing leaves alone, and what it never leaves.

A character of a lowered text is the small form of an ASCII character, or comes behind
the ASCII capitals and the underscore (`lower_cases`). So lowering a text neither brings
nor removes underscores (`count_underscore_lower`), and no ASCII capital is left in it
(`isCapital_of_isUpper`).
-/

namespace ErdDeploy.Text

/-- A character that no lowered text contains. -/
def IsCapital (c : Char) : Prop :=
  ∀ cs, c ∉ lower cs

/-- Above ASCII, only the Kelvin sign is moved to a place in ASCII. -/
theorem places_of_mem_lowerCaseRuns : ∀ run ∈ lowerCaseRuns,
    (127 < run.first + run.shift ∨ run.first = run.last ∧ run.first + run.shift = 107) ∧
    (run.last + run.shift < 55296 ∨
      57343 < run.first + run.shift ∧ run.last + run.shift < 1114112) := by
  decide +kernel

/-- The small form of a character above ASCII is not ASCII, apart from those of the dotted capital I
and of the Kelvin sign. -/
theorem lowerChar_above {c : Char} (above : 128 ≤ c.toNat) :
    lowerChar c = ['i', Char.ofNat 0x307] ∨
      ∃ d, lowerChar c = [d] ∧ (128 ≤ d.toNat ∨ d = 'k') := by
  unfold lowerChar
  rw [if_neg (by omega)]
  split
  · exact Or.inl rfl
  · split
    · next run found =>
      have places := places_of_mem_lowerCaseRuns run (List.mem_of_find?_eq_some found)
      have inside := List.find?_some found
      simp only [CaseRun.contains, Bool.and_eq_true, decide_eq_true_eq] at inside
      obtain ⟨n, place⟩ : ∃ n : Nat, (n : Int) = c.toNat + run.shift :=
        ⟨Int.toNat (c.toNat + run.shift), by omega⟩
      have valid : n.isValidChar := by
        unfold Nat.isValidChar
        omega
      refine Or.inr ⟨_, rfl, ?_⟩
      rw [← place, Int.toNat_natCast]
      by_cases kelvin : n = 107
      · rw [kelvin]
        exact Or.inr rfl
      · rw [Char.toNat_ofNat, if_pos valid]
        omega
    · exact Or.inr ⟨c, rfl, Or.inl above⟩

/-- The small form of a character is that of ASCII, or nothing that ASCII capitals turn into. -/
theorem lowerChar_cases (c : Char) : c.toNat < 128 ∧ lowerChar c = [c.toLower] ∨
    128 ≤ c.toNat ∧ ∀ d ∈ lowerChar c, 95 < d.toNat := by
  by_cases ascii : c.toNat < 128
  · refine Or.inl ⟨ascii, ?_⟩
    rw [lowerChar, if_pos ascii]
  · have above : 128 ≤ c.toNat := Nat.le_of_not_lt ascii
    refine Or.inr ⟨above, ?_⟩
    rcases lowerChar_above above with dotted | ⟨d, small, high | rfl⟩
    · rw [dotted]
      simp
    · rw [small]
      intro d' member
      rw [List.mem_singleton.mp member]
      omega
    · rw [small]
      simp

/-- The same of a whole text, in which a capital sigma has two small forms. -/
theorem lowerAfter_cons_cases (afterCased : Bool) (c : Char) (cs : List Char) :
    ∃ lowered afterCased', lowerAfter afterCased (c :: cs) = lowered ++ lowerAfter afterCased' cs ∧
      (c.toNat < 128 ∧ lowered = [c.toLower] ∨ 128 ≤ c.toNat ∧ ∀ d ∈ lowered, 95 < d.toNat) := by
  refine ⟨_, _, rfl, ?_⟩
  split
  · next sigma =>
    subst sigma
    refine Or.inr ⟨by decide, ?_⟩
    cases afterCased && !startsCased cs with
    | true => simp
    | false => simp
  · exact lowerChar_cases c

/-- A character of a lowered text is the small form of an ASCII character, or comes behind the
underscore. -/
theorem lower_cases {cs : List Char} {d : Char} (member : d ∈ lower cs) :
    (∃ c ∈ cs, c.toNat < 128 ∧ d = c.toLower) ∨ 95 < d.toNat := by
  unfold lower at member
  generalize false = afterCased at member
  induction cs generalizing afterCased with
  | nil => cases member
  | cons c cs ih =>
      obtain ⟨lowered, after, same, forms⟩ := lowerAfter_cons_cases afterCased c cs
      rw [same] at member
      rcases List.mem_append.mp member with here | later
      · rcases forms with ⟨ascii, rfl⟩ | ⟨-, behind⟩
        · rw [List.mem_singleton] at here
          exact Or.inl ⟨c, List.mem_cons_self, ascii, here⟩
        · exact Or.inr (behind d here)
      · rcases ih after later with ⟨other, among, form⟩ | behind
        · exact Or.inl ⟨other, List.mem_cons_of_mem _ among, form⟩
        · exact Or.inr behind

theorem isCapital_of_isUpper {c : Char} (upper : c.isUpper = true) : IsCapital c := by
  intro cs member
  rcases lower_cases member with ⟨d, -, -, rfl⟩ | behind
  · rw [Char.isUpper_toLower_eq_false] at upper
    cases upper
  · simp only [Char.isUpper, decide_eq_true_eq, ge_iff_le, UInt32.le_iff_toNat_le] at upper
    change 65 ≤ c.toNat ∧ c.toNat ≤ 90 at upper
    omega

theorem toLower_eq_underscore_iff {c : Char} : c.toLower = '_' ↔ c = '_' := by
  by_cases upper : c.isUpper = true
  · constructor
    · intro same
      have letter := Char.isLower_toLower_eq_isAlpha c
      rw [same, Char.isAlpha, upper] at letter
      cases letter
    · rintro rfl
      rfl
  · rw [Char.toLower_eq_of_not_isUpper upper]

/-- A lowered text has the underscores of the text. -/
theorem count_underscore_lower (cs : List Char) : (lower cs).count '_' = cs.count '_' := by
  unfold lower
  generalize false = afterCased
  induction cs generalizing afterCased with
  | nil => rfl
  | cons c cs ih =>
      obtain ⟨lowered, after, same, forms⟩ := lowerAfter_cons_cases afterCased c cs
      rw [same, List.count_append, ih, ← List.singleton_append, List.count_append]
      congr 1
      rcases forms with ⟨-, rfl⟩ | ⟨above, behind⟩
      · simp only [List.count_singleton, beq_iff_eq, toLower_eq_underscore_iff]
      · have absent : '_' ∉ lowered := fun member => absurd (behind '_' member) (by decide)
        have other : '_' ∉ [c] := by
          rw [List.mem_singleton]
          rintro rfl
          exact absurd above (by decide)
        rw [List.count_eq_zero_of_not_mem absent, List.count_eq_zero_of_not_mem other]

end ErdDeploy.Text
