import ErdDeploy.Text.Blank
import Mathlib.Data.List.DropRight

/-!
Stripping and trimming.

A text is its stripped text between what is stripped (`exists_strip`), and stripping takes
nothing from a text that neither begins nor ends with such a character, and from no other
(`strip_eq_self_iff`). To trim is to strip the blanks, so a text is its trimmed text between
blanks (`exists_padding`), and blanks around a text do not change what trimming leaves
(`trim_padded`). So whatever reads a text through its trimmed text, its first word, or the number
of times that a character other than a blank occurs, does not see the blanks around it.
-/

namespace ErdDeploy.Text

/-- Every character is blank. -/
def AllBlank (cs : List Char) : Prop :=
  ∀ c ∈ cs, isBlank c = true

instance {cs : List Char} : Decidable (AllBlank cs) :=
  List.decidableBAll _ cs

/-! ## What stripping leaves -/

/-- Neither the first nor the last character is one of those. -/
structure Bare (p : Char → Bool) (cs : List Char) : Prop where
  first : ∀ c ∈ cs.head?, p c = false
  last : ∀ c ∈ cs.getLast?, p c = false

section

variable (p : Char → Bool) (cs : List Char)

/-- Stripping the front of a text leaves the stripped text and what is stripped behind it. -/
theorem exists_dropWhile :
    ∃ right, cs.dropWhile p = strip p cs ++ right ∧ ∀ c ∈ right, p c = true := by
  refine ⟨((cs.dropWhile p).reverse.takeWhile p).reverse, ?_, ?_⟩
  · rw [strip, dropEndWhile, ← List.reverse_append, List.takeWhile_append_dropWhile,
      List.reverse_reverse]
  · intro c member
    exact List.mem_takeWhile_imp (List.mem_reverse.mp member)

/-- A text is its stripped text between what is stripped. -/
theorem exists_strip : ∃ left right, cs = left ++ (strip p cs ++ right) ∧
    (∀ c ∈ left, p c = true) ∧ ∀ c ∈ right, p c = true := by
  obtain ⟨right, rest, stripped⟩ := exists_dropWhile p cs
  refine ⟨cs.takeWhile p, right, ?_, fun c member => List.mem_takeWhile_imp member, stripped⟩
  rw [← rest, List.takeWhile_append_dropWhile]

theorem bare_strip : Bare p (strip p cs) where
  first := by
    intro c first
    obtain ⟨right, rest, -⟩ := exists_dropWhile p cs
    obtain ⟨tail, whole⟩ := List.head?_eq_some_iff.mp first
    have some : cs.dropWhile p ≠ [] := by
      rw [rest, whole]
      exact List.cons_ne_nil _ _
    have stops := List.head_dropWhile_not p some
    simpa [rest, whole] using stops
  last := by
    intro c last
    rw [strip, dropEndWhile, List.getLast?_reverse] at last
    obtain ⟨tail, whole⟩ := List.head?_eq_some_iff.mp last
    have some : (cs.dropWhile p).reverse.dropWhile p ≠ [] := by
      rw [whole]
      exact List.cons_ne_nil _ _
    have stops := List.head_dropWhile_not p some
    simpa [whole] using stops

theorem isInfix_strip : strip p cs <:+: cs := by
  obtain ⟨left, right, whole, -, -⟩ := exists_strip p cs
  refine ⟨left, right, ?_⟩
  rw [List.append_assoc]
  exact whole.symm

variable {p cs}

/-- What stripping leaves is the whole text exactly if nothing is to be stripped. -/
theorem strip_eq_self_iff : strip p cs = cs ↔ Bare p cs := by
  constructor
  · intro same
    exact same ▸ bare_strip p cs
  · intro bare
    -- Of a text that nothing is to be stripped from, the parts around it are empty.
    obtain ⟨left, right, whole, strippedLeft, strippedRight⟩ := exists_strip p cs
    have noRight : right = [] := by
      rcases List.eq_nil_or_concat' right with none | ⟨front, c, rfl⟩
      · exact none
      · have kept := bare.last c (by rw [whole]; simp)
        rw [strippedRight c (by simp)] at kept
        cases kept
    have noLeft : left = [] := by
      cases left with
      | nil => rfl
      | cons c rest =>
          have kept := bare.first c (by rw [whole]; simp)
          rw [strippedLeft c List.mem_cons_self] at kept
          cases kept
    rw [noLeft, noRight, List.nil_append, List.append_nil] at whole
    exact whole.symm

/-- What is to be stripped around a text is stripped. -/
theorem strip_padded {left right : List Char} (before : ∀ c ∈ left, p c = true)
    (behind : ∀ c ∈ right, p c = true) : strip p (left ++ (cs ++ right)) = strip p cs := by
  have gone : right.reverse.dropWhile p = [] :=
    List.dropWhile_eq_nil_iff.mpr fun c member => behind c (List.mem_reverse.mp member)
  have gone' : ∀ text : List Char, dropEndWhile p (text ++ right) = dropEndWhile p text := by
    intro text
    rw [dropEndWhile, List.reverse_append, List.dropWhile_append, gone]
    rfl
  rw [strip, List.dropWhile_append_of_pos before, List.dropWhile_append]
  split
  · next none =>
    rw [List.isEmpty_iff] at none
    rw [strip, none, List.dropWhile_eq_nil_iff.mpr behind]
  · rw [gone', strip]

/-- Nothing is left of a text exactly if all of it is to be stripped. -/
theorem strip_eq_nil_iff : strip p cs = [] ↔ ∀ c ∈ cs, p c = true := by
  constructor
  · intro none
    obtain ⟨left, right, whole, before, behind⟩ := exists_strip p cs
    rw [none, List.nil_append] at whole
    intro c member
    rw [whole, List.mem_append] at member
    exact member.elim (before c) (behind c)
  · intro stripped
    have padded := @strip_padded p [] [] cs (fun _ none => nomatch none) stripped
    exact padded

theorem strip_ne_nil_iff : strip p cs ≠ [] ↔ ∃ c ∈ cs, p c = false := by
  rw [Ne, strip_eq_nil_iff]
  simp

theorem Bare.dropWhile_eq (bare : Bare p cs) : cs.dropWhile p = cs := by
  cases cs with
  | nil => rfl
  | cons c tail =>
      have front : p c = false := bare.first c rfl
      rw [List.dropWhile_cons_of_neg (by rw [front]; exact Bool.false_ne_true)]

/-- Characters that are never stripped are all kept. -/
theorem filter_strip {kept : Char → Bool} (never : ∀ c, p c = true → kept c = false) :
    (strip p cs).filter kept = cs.filter kept := by
  obtain ⟨left, right, whole, strippedLeft, strippedRight⟩ := exists_strip p cs
  have none : ∀ {part : List Char}, (∀ c ∈ part, p c = true) → part.filter kept = [] := by
    intro part stripped
    rw [List.filter_eq_nil_iff]
    intro c member
    rw [never c (stripped c member)]
    exact Bool.false_ne_true
  conv_rhs => rw [whole, List.filter_append, List.filter_append, none strippedLeft,
    none strippedRight, List.nil_append, List.append_nil]

end

/-! ## What trimming leaves -/

/-- Trimming the front of a text leaves the trimmed text and the blanks behind it. -/
theorem exists_dropWhile_isBlank (cs : List Char) :
    ∃ right, cs.dropWhile isBlank = trim cs ++ right ∧ AllBlank right :=
  exists_dropWhile isBlank cs

/-- A text is its trimmed text between blanks. -/
theorem exists_padding (cs : List Char) :
    ∃ left right, cs = left ++ (trim cs ++ right) ∧ AllBlank left ∧ AllBlank right :=
  exists_strip isBlank cs

/-- Blanks around a text are trimmed away. -/
theorem trim_padded {left right : List Char} (cs : List Char) (before : AllBlank left)
    (behind : AllBlank right) : trim (left ++ (cs ++ right)) = trim cs :=
  strip_padded before behind

theorem trim_append_right {right : List Char} (cs : List Char) (behind : AllBlank right) :
    trim (cs ++ right) = trim cs :=
  @trim_padded [] right cs (fun _ none => nomatch none) behind

theorem trim_trim (cs : List Char) : trim (trim cs) = trim cs :=
  strip_eq_self_iff.mpr (bare_strip isBlank cs)

/-- A text that neither begins nor ends with a blank is left as it is. -/
theorem trim_eq_self {cs : List Char} (front : cs.dropWhile isBlank = cs)
    (back : cs.reverse.dropWhile isBlank = cs.reverse) : trim cs = cs := by
  rw [trim, strip, front, dropEndWhile, back, List.reverse_reverse]

theorem dropWhile_isBlank_trim (cs : List Char) : (trim cs).dropWhile isBlank = trim cs :=
  (bare_strip isBlank cs).dropWhile_eq

/-- Visible characters at the front of a text are kept. -/
theorem prefix_trim {word : List Char} (rest : List Char)
    (visible : ∀ c ∈ word, isBlank c = false) : word <+: trim (word ++ rest) := by
  cases word with
  | nil => exact List.nil_prefix
  | cons c tail =>
      have front : (c :: tail ++ rest).dropWhile isBlank = c :: tail ++ rest := by
        have first := visible c List.mem_cons_self
        exact List.dropWhile_cons_of_neg (by rw [first]; exact Bool.false_ne_true)
      obtain ⟨right, same, blank⟩ := exists_dropWhile_isBlank (c :: tail ++ rest)
      rw [front] at same
      rcases List.append_eq_append_iff.mp same with ⟨more, whole, -⟩ | ⟨cut, whole, behind⟩
      · exact ⟨more, whole.symm⟩
      · -- What trimming would cut off the front word is both blank and visible.
        cases cut with
        | nil =>
            rw [List.append_nil] at whole
            exact whole ▸ List.prefix_rfl
        | cons d others =>
            have isBlank := blank d (by rw [behind]; exact List.mem_cons_self)
            rw [visible d (by rw [whole]; simp)] at isBlank
            cases isBlank

/-- Nothing is left of a text exactly if it is blank. -/
theorem trim_eq_nil_iff {cs : List Char} : trim cs = [] ↔ AllBlank cs :=
  strip_eq_nil_iff

theorem isBlankText_iff {cs : List Char} : isBlankText cs = true ↔ trim cs = [] := by
  rw [isBlankText, List.all_eq_true, trim_eq_nil_iff, AllBlank]

/-! ## What does not see the blanks around a text -/

/-- The first word of a text is that of its trimmed text. -/
theorem firstWord_trim (cs : List Char) : firstWord (trim cs) = firstWord cs := by
  obtain ⟨right, rest, blank⟩ := exists_dropWhile_isBlank cs
  have stops : right.takeWhile (fun c => !isBlank c) = [] := by
    cases right with
    | nil => rfl
    | cons c tail => simp [blank c List.mem_cons_self]
  rw [firstWord, firstWord, dropWhile_isBlank_trim, rest, List.takeWhile_append, stops]
  split
  · next all =>
    rw [List.append_nil]
    exact (List.takeWhile_prefix _).eq_of_length all
  · rfl

/-- A text is made of its first word and what follows, with blanks in front of both. -/
theorem exists_firstWord (cs : List Char) :
    ∃ left gap, cs = left ++ (firstWord cs ++ (gap ++ afterFirstWord cs)) ∧
      AllBlank left ∧ AllBlank gap := by
  refine ⟨cs.takeWhile isBlank,
    ((cs.dropWhile isBlank).dropWhile fun c => !isBlank c).takeWhile isBlank, ?_,
    fun c member => List.mem_takeWhile_imp member, fun c member => List.mem_takeWhile_imp member⟩
  rw [firstWord, afterFirstWord, List.takeWhile_append_dropWhile, List.takeWhile_append_dropWhile,
    List.takeWhile_append_dropWhile]

theorem trim_dropWhile_isBlank (cs : List Char) : trim (cs.dropWhile isBlank) = trim cs := by
  have padded := @trim_padded (cs.takeWhile isBlank) [] (cs.dropWhile isBlank)
    (fun c member => List.mem_takeWhile_imp member) fun _ none => nomatch none
  rw [List.append_nil, List.takeWhile_append_dropWhile] at padded
  exact padded.symm

/-- What follows the first word of a text follows that of its trimmed text. -/
theorem trim_afterFirstWord_trim (cs : List Char) :
    trim (afterFirstWord (trim cs)) = trim (afterFirstWord cs) := by
  obtain ⟨right, rest, blank⟩ := exists_dropWhile_isBlank cs
  rw [afterFirstWord, afterFirstWord, trim_dropWhile_isBlank, trim_dropWhile_isBlank,
    dropWhile_isBlank_trim, rest, List.dropWhile_append]
  split
  · next none =>
    have gone : AllBlank (right.dropWhile fun c => !isBlank c) := fun c member =>
      blank c ((List.dropWhile_sublist _).subset member)
    rw [List.isEmpty_iff.mp none, trim_eq_nil_iff.mpr gone]
    rfl
  · rw [trim_append_right _ blank]

/-- A character that is not blank occurs in a text as often as in its trimmed text. -/
theorem count_trim {c : Char} (cs : List Char) (visible : isBlank c = false) :
    (trim cs).count c = cs.count c := by
  have none : ∀ {blanks : List Char}, AllBlank blanks → blanks.count c = 0 := by
    intro blanks blank
    refine List.count_eq_zero.mpr fun member => ?_
    rw [blank c member] at visible
    cases visible
  obtain ⟨left, right, padded, before, behind⟩ := exists_padding cs
  conv_rhs => rw [padded, List.count_append, List.count_append, none before, none behind]
  rw [Nat.zero_add, Nat.add_zero]

/-- Cutting a text at a character that is not blank commutes with trimming. -/
theorem trim_takeWhile_trim {p : Char → Bool} (passes : ∀ c, isBlank c = true → p c = true)
    (cs : List Char) : trim ((trim cs).takeWhile p) = trim (cs.takeWhile p) := by
  obtain ⟨left, right, padded, before, behind⟩ := exists_padding cs
  conv_rhs =>
    rw [padded, List.takeWhile_append_of_pos fun c member => passes c (before c member),
      List.takeWhile_append]
  split
  · next all =>
    have whole : (trim cs).takeWhile p = trim cs := (List.takeWhile_prefix _).eq_of_length all
    have rest : AllBlank (right.takeWhile p) := fun c member =>
      behind c ((List.takeWhile_prefix p).subset member)
    rw [whole, trim_padded _ before rest]
  · have kept := @trim_padded left [] ((trim cs).takeWhile p) before
      fun _ none => nomatch none
    rw [← kept, List.append_nil]

theorem trim_takeWhile_ne {mark : Char} (visible : isBlank mark = false) (cs : List Char) :
    trim ((trim cs).takeWhile (· != mark)) = trim (cs.takeWhile (· != mark)) := by
  refine trim_takeWhile_trim (fun c blank => ?_) cs
  have other : c ≠ mark := by
    rintro rfl
    rw [visible] at blank
    cases blank
  simpa using other

end ErdDeploy.Text
