import ErdDeploy.Proofs.Text.LowerCase
import ErdDeploy.Proofs.Text.Words

/-!
Keywords in any case.

A keyword is recognised in two ways: a word is lowered and compared with it, or the letters of a
text are compared with it one by one. Lowering brings some characters of other scripts among the
ASCII letters, and the comparison of letters takes some of them for others, but this concerns
the letters `i`, `k` and `s` only. For any other keyword the two ways agree, and both find the
texts that spell it with small and capital ASCII letters (`lower_eq_iff`,
`dropKeyword?_eq_some_iff`).
-/

namespace ErdDeploy.Text

/-- The text is the keyword in small and capital letters. -/
def Spells (keyword cs : List Char) : Prop :=
  cs.map Char.toLower = keyword

instance {keyword cs : List Char} : Decidable (Spells keyword cs) :=
  inferInstanceAs (Decidable (_ = _))

/-- The keyword is made of ASCII letters that no other character is taken for. -/
def IsOrdinary (keyword : List Char) : Prop :=
  ∀ letter ∈ keyword, letter.toNat < 128 ∧ letter ≠ 'i' ∧ letter ≠ 'k' ∧ letter ≠ 's'

instance {keyword : List Char} : Decidable (IsOrdinary keyword) :=
  List.decidableBAll _ keyword

/-! ## Lowering a word -/

theorem lowerAfter_cons_of_ascii (afterCased : Bool) {c : Char} (ascii : c.toNat < 128)
    (cs : List Char) :
    ∃ afterCased', lowerAfter afterCased (c :: cs) = c.toLower :: lowerAfter afterCased' cs := by
  have other : c ≠ capitalSigma := by
    rintro rfl
    exact absurd ascii (by decide)
  refine ⟨if isCaseIgnorable c then afterCased else isCased c, ?_⟩
  simp only [lowerAfter, if_neg other, lowerChar, if_pos ascii, List.singleton_append]

theorem lower_of_ascii {cs : List Char} (ascii : ∀ c ∈ cs, c.toNat < 128) :
    lower cs = cs.map Char.toLower := by
  unfold lower
  generalize false = afterCased
  induction cs generalizing afterCased with
  | nil => rfl
  | cons c cs ih =>
      have ascii := List.forall_mem_cons.mp ascii
      rcases lowerAfter_cons_of_ascii afterCased ascii.1 cs with ⟨afterCased', same⟩
      rw [same, ih ascii.2, List.map_cons]

theorem ascii_of_lower {cs : List Char} (ordinary : IsOrdinary (lower cs)) :
    ∀ c ∈ cs, c.toNat < 128 := by
  unfold lower at ordinary
  generalize false = afterCased at ordinary
  induction cs generalizing afterCased with
  | nil => exact fun _ none => nomatch none
  | cons c cs ih =>
      have ascii : c.toNat < 128 := by
        by_contra above
        have foreign : ∃ d ∈ lowerAfter afterCased (c :: cs), 128 ≤ d.toNat ∨ d = 'k' := by
          unfold lowerAfter
          simp only
          split
          · refine ⟨_, List.mem_append_left _ (List.mem_singleton_self _), Or.inl ?_⟩
            split
            · decide
            · decide
          · rcases lowerChar_above (Nat.le_of_not_lt above) with dotted | ⟨d, small, form⟩
            · rw [dotted]
              exact ⟨Char.ofNat 0x307, by simp, Or.inl (by decide)⟩
            · rw [small]
              exact ⟨d, List.mem_append_left _ (List.mem_singleton_self d), form⟩
        rcases foreign with ⟨d, member, high | kelvin⟩
        · have low := (ordinary d member).1
          omega
        · exact (ordinary d member).2.2.1 kelvin
      rcases lowerAfter_cons_of_ascii afterCased ascii cs with ⟨afterCased', same⟩
      rw [same] at ordinary
      exact List.forall_mem_cons.mpr ⟨ascii, ih afterCased' (List.forall_mem_cons.mp ordinary).2⟩

theorem bounds_of_isUpper {c : Char} (upper : c.isUpper = true) : 65 ≤ c.toNat ∧ c.toNat ≤ 90 := by
  simp only [Char.isUpper, decide_eq_true_eq, ge_iff_le, UInt32.le_iff_toNat_le] at upper
  exact upper

theorem ascii_of_toLower {c : Char} (ascii : c.toLower.toNat < 128) : c.toNat < 128 := by
  by_cases upper : c.isUpper = true
  · have bounds := bounds_of_isUpper upper
    omega
  · rwa [Char.toLower_eq_of_not_isUpper upper] at ascii

/-- A lowered word is a keyword if it spells it. -/
theorem lower_eq_iff {keyword cs : List Char} (ordinary : IsOrdinary keyword) :
    lower cs = keyword ↔ Spells keyword cs := by
  constructor
  · intro same
    rw [← same] at ordinary
    rw [Spells, ← same, lower_of_ascii (ascii_of_lower ordinary)]
  · intro spells
    have ascii : ∀ c ∈ cs, c.toNat < 128 := by
      intro c member
      have letter : c.toLower ∈ keyword := by
        rw [← spells]
        exact List.mem_map_of_mem member
      exact ascii_of_toLower (ordinary _ letter).1
    rw [lower_of_ascii ascii]
    exact spells

/-! ## Keywords at the front of a text -/

theorem isLetter_iff {letter c : Char} (other : letter ≠ 'i' ∧ letter ≠ 'k' ∧ letter ≠ 's') :
    isLetter letter c = true ↔ c.toLower = letter := by
  simp [isLetter, other.1, other.2.1, other.2.2]

theorem dropKeyword?_eq_some_iff {keyword text rest : List Char} (ordinary : IsOrdinary keyword) :
    dropKeyword? keyword text = some rest ↔ ∃ word, Spells keyword word ∧ text = word ++ rest := by
  induction keyword generalizing text with
  | nil =>
      rw [dropKeyword?, Option.some.injEq]
      constructor
      · rintro rfl
        exact ⟨[], rfl, rfl⟩
      · rintro ⟨word, spells, rfl⟩
        rw [List.map_eq_nil_iff.mp spells, List.nil_append]
  | cons letter letters ih =>
      have ordinary := List.forall_mem_cons.mp ordinary
      cases text with
      | nil =>
          constructor
          · intro none
            cases none
          · rintro ⟨word, spells, none⟩
            rw [(List.append_eq_nil_iff.mp none.symm).1] at spells
            cases spells
      | cons c cs =>
          rw [dropKeyword?]
          constructor
          · intro found
            split at found
            · next here =>
              rw [isLetter_iff ordinary.1.2] at here
              rcases (ih ordinary.2).mp found with ⟨word, spells, rfl⟩
              refine ⟨c :: word, ?_, rfl⟩
              rw [Spells, List.map_cons, here, spells]
            · cases found
          · rintro ⟨word, spells, whole⟩
            cases word with
            | nil => cases spells
            | cons d word =>
                cases whole
                have spells := List.cons_eq_cons.mp spells
                rw [if_pos ((isLetter_iff ordinary.1.2).mpr spells.1)]
                exact (ih ordinary.2).mpr ⟨word, spells.2, rfl⟩

end ErdDeploy.Text
