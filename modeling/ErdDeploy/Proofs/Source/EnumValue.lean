import ErdDeploy.Proofs.Text.Blank
import ErdDeploy.Source.EnumValue
import Mathlib.Logic.Function.Iterate

/-!
What cleaning leaves of a value.

The line of a value loses the blanks around it, then a note at its end, then quotes and
separators, each of these once and in this order. What a later step lays bare is not looked at by
an earlier one again: a separator behind a note keeps the note, and a blank other than a space
or a tab stays inside the quotes (`EnumValue.not_clean_clean`). So cleaning the outcome again may
take more away.

Nothing is taken from a value exactly if it is clean (`EnumValue.clean_eq_self_iff`). Of an
outcome only quotes and separators at its ends are certain to be gone, and any value without
these is the outcome of some line. But every line is clean after it was cleaned as many times as it
has characters, and the statement at the end puts all this together (`EnumValue.clean_again`).
-/

namespace ErdDeploy.EnumValue

open Text

/-! ## Values without a note -/

/-- No bracket of the text opens a note that runs to its end. -/
def Noteless (cs : List Char) : Prop :=
  ∀ before behind, cs = before ++ '[' :: behind → closesNote behind = false

theorem noteless_nil : Noteless [] := by
  intro before behind split
  cases before <;> cases split

theorem noteless_cons_iff {c : Char} {cs : List Char} :
    Noteless (c :: cs) ↔ (c = '[' → closesNote cs = false) ∧ Noteless cs := by
  constructor
  · intro noteless
    refine ⟨?_, fun before behind split => noteless (c :: before) behind ?_⟩
    · rintro rfl
      exact noteless [] cs rfl
    · rw [split, List.cons_append]
  · intro ⟨here, later⟩ before behind split
    cases before with
    | nil =>
        obtain ⟨opens, rfl⟩ := List.cons_eq_cons.mp split
        exact here opens
    | cons d before =>
        obtain ⟨-, rest⟩ := List.cons_eq_cons.mp split
        exact later before behind rest

theorem isPrefix_dropNote (cs : List Char) : dropNote cs <+: cs := by
  induction cs with
  | nil => exact List.prefix_rfl
  | cons c cs ih =>
      rw [dropNote]
      split
      · exact List.nil_prefix
      · exact List.cons_prefix_cons.mpr ⟨rfl, ih⟩

/-- Only a note is dropped. -/
theorem dropNote_eq_self_iff {cs : List Char} : dropNote cs = cs ↔ Noteless cs := by
  induction cs with
  | nil => exact iff_of_true rfl noteless_nil
  | cons c cs ih =>
      rw [dropNote, noteless_cons_iff, ← ih]
      split
      · next opens =>
        rw [Bool.and_eq_true, decide_eq_true_iff] at opens
        obtain ⟨bracket, closes⟩ := opens
        refine iff_of_false (List.cons_ne_nil c cs).symm fun clean => ?_
        rw [clean.1 bracket] at closes
        cases closes
      · next kept =>
        rw [List.cons.injEq]
        refine and_congr_left fun _ => iff_of_true rfl fun bracket => ?_
        simpa [bracket] using kept

/-! ## Clean values -/

/-- Nothing is to be cleaned away from a value: no blanks, quotes or separators at its ends, and
no note. -/
structure IsClean (value : List Char) : Prop where
  visible : Bare isBlank value
  bare : Bare isTrimmed value
  noteless : Noteless value

/-- What cleaning leaves is a part of the line, in one piece. -/
theorem isInfix_clean (text : List Char) : clean text <:+: text :=
  (isInfix_strip _ _).trans ((isPrefix_dropNote _).isInfix.trans (isInfix_strip _ _))

theorem bare_clean (text : List Char) : Bare isTrimmed (clean text) :=
  bare_strip _ _

/-- Cleaning takes nothing away from a value exactly if it is clean. -/
theorem clean_eq_self_iff {value : List Char} : clean value = value ↔ IsClean value := by
  constructor
  · intro same
    -- Each step only takes characters away, so none of them takes any.
    have part : clean value <:+: dropNote (trim value) := isInfix_strip _ _
    have front : dropNote (trim value) <+: trim value := isPrefix_dropNote _
    have middle : trim value <:+: value := isInfix_strip _ _
    have least := part.length_le
    have less := front.length_le
    have most := middle.length_le
    rw [same] at least
    have trimmed : trim value = value := middle.eq_of_length (by omega)
    have kept : dropNote (trim value) = trim value := front.eq_of_length (by omega)
    refine ⟨strip_eq_self_iff.mp trimmed, same ▸ bare_clean value, ?_⟩
    rw [trimmed] at kept
    exact dropNote_eq_self_iff.mp kept
  · intro ⟨visible, bare, noteless⟩
    rw [clean, trim, strip_eq_self_iff.mpr visible, dropNote_eq_self_iff.mpr noteless,
      strip_eq_self_iff.mpr bare]

/-- A separator at the end of a text is no note, nor does a note run over it. -/
theorem noteless_concat {mark : Char} (visible : isBlank mark = false) (other : mark ≠ ']')
    (cs : List Char) : Noteless (cs ++ [mark]) := by
  intro before behind split
  rcases List.eq_nil_or_concat' behind with rfl | ⟨front, last, rfl⟩
  · rfl
  · rw [← List.cons_append, ← List.append_assoc] at split
    obtain ⟨-, same⟩ := List.append_inj' split rfl
    cases same
    rw [closesNote, List.reverse_append, List.reverse_singleton, List.singleton_append,
      List.dropWhile_cons_of_neg (by rw [visible]; exact Bool.false_ne_true)]
    split
    · next inside closes =>
      cases closes
      exact absurd rfl other
    · rfl

/-- Between two commas any value is found again that quotes and separators do not stand around. -/
theorem clean_between_commas {value : List Char} (bare : Bare isTrimmed value) :
    clean ([','] ++ (value ++ [','])) = value := by
  have visible : Bare isBlank ([','] ++ (value ++ [','])) := by
    refine ⟨fun c first => ?_, fun c last => ?_⟩
    · cases first
      rfl
    · rw [← List.append_assoc, List.getLast?_append, List.getLast?_singleton] at last
      cases last
      rfl
  have noteless : Noteless ([','] ++ (value ++ [','])) := by
    rw [← List.append_assoc]
    exact noteless_concat (by decide) (by decide) _
  have separates : ∀ c ∈ [','], isTrimmed c = true := by
    intro c member
    rw [List.mem_singleton.mp member]
    rfl
  rw [clean, trim, strip_eq_self_iff.mpr visible, dropNote_eq_self_iff.mpr noteless,
    strip_padded separates separates, strip_eq_self_iff.mpr bare]

/-- The values that lines can be cleaned to. -/
theorem exists_clean_iff {value : List Char} :
    (∃ line, clean line = value) ↔ Bare isTrimmed value := by
  constructor
  · intro ⟨line, cleaned⟩
    exact cleaned ▸ bare_clean line
  · intro bare
    exact ⟨_, clean_between_commas bare⟩

/-! ## Cleaning again -/

/-- Cleaning is over after as many times as there are characters. -/
theorem exists_isClean_iterate (text : List Char) :
    ∃ n ≤ text.length, IsClean (clean^[n] text) := by
  induction size : text.length using Nat.strong_induction_on generalizing text with
  | h size₀ ih =>
      by_cases same : clean text = text
      · exact ⟨0, Nat.zero_le _, clean_eq_self_iff.mp same⟩
      · have less : (clean text).length < text.length := by
          refine lt_of_le_of_ne (isInfix_clean text).length_le fun length => ?_
          exact same ((isInfix_clean text).eq_of_length length)
        obtain ⟨n, few, done⟩ := ih _ (size ▸ less) (clean text) rfl
        exact ⟨n + 1, by omega, done⟩

/-- Cleaning twice is not always cleaning once: the comma keeps the note. -/
theorem not_clean_clean : ¬ ∀ text, clean (clean text) = clean text := by
  intro idempotent
  have same := idempotent "High [note: 'urgent'],".toList
  revert same
  decide

/-- **Cleaning again.** What cleaning leaves of a line is a part of it, in one piece. Cleaning that
again takes nothing away exactly if it has no blanks at its ends and no note; quotes and separators
are gone from its ends, and nothing else can be said of it, as every value without these is left
of some line. After as many times as the line has characters at the latest, nothing more
is taken away. -/
theorem clean_again (text : List Char) :
    clean text <:+: text ∧
      (clean (clean text) = clean text ↔ Bare isBlank (clean text) ∧ Noteless (clean text)) ∧
      (∀ value, (∃ line, clean line = value) ↔ Bare isTrimmed value) ∧
      ∃ n ≤ text.length, clean (clean^[n] text) = clean^[n] text := by
  refine ⟨isInfix_clean text, ?_, fun value => exists_clean_iff, ?_⟩
  · rw [clean_eq_self_iff]
    constructor
    · intro isClean
      exact ⟨isClean.visible, isClean.noteless⟩
    · intro ⟨visible, noteless⟩
      exact ⟨visible, bare_clean text, noteless⟩
  · obtain ⟨n, few, done⟩ := exists_isClean_iterate text
    exact ⟨n, few, clean_eq_self_iff.mpr done⟩

end ErdDeploy.EnumValue
