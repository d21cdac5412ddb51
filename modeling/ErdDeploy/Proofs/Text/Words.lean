import ErdDeploy.Proofs.Text.Blank
import ErdDeploy.Proofs.Text.Lines
import ErdDeploy.Text.Alphanumeric

/-!
Words and what ends them.

The blanks are few enough to look each of them up among the alphanumeric characters: none
is a word character. So a word ends at the first blank behind it, and no line breaks
inside a word, as every line break is a blank.
-/

namespace ErdDeploy.Text

/-- The code points of the blanks. -/
def blankCodes : List Nat :=
  List.range' 9 5 ++ List.range' 28 5 ++ [0x85, 0xA0, 0x1680] ++ List.range' 0x2000 11 ++
    [0x2028, 0x2029, 0x202F, 0x205F, 0x3000]

theorem toNat_mem_blankCodes {c : Char} (blank : isBlank c = true) : c.toNat ∈ blankCodes := by
  simp only [isBlank, isSpace, Bool.or_eq_true, Bool.and_eq_true, decide_eq_true_eq,
    beq_iff_eq] at blank
  simp only [blankCodes, List.mem_append, List.mem_range'_1, List.mem_cons, List.not_mem_nil,
    or_false]
  omega

theorem isWord_of_isBlank {c : Char} (blank : isBlank c = true) : isWord c = false := by
  -- Few blanks are looked up in the long table, and not the other way round.
  have table : ∀ code ∈ blankCodes, isWord (Char.ofNat code) = false := by decide +kernel
  have entry := table c.toNat (toNat_mem_blankCodes blank)
  rwa [Char.ofNat_toNat] at entry

theorem isBlank_of_isWord {c : Char} (word : isWord c = true) : isBlank c = false := by
  cases blank : isBlank c with
  | false => rfl
  | true =>
      rw [isWord_of_isBlank blank] at word
      cases word

theorem isBlank_of_isLineBreak {c : Char} (breaks : isLineBreak c = true) : isBlank c = true := by
  simp only [isLineBreak, Bool.or_eq_true, Bool.and_eq_true, decide_eq_true_eq,
    beq_iff_eq] at breaks
  simp only [isBlank, isSpace, Bool.or_eq_true, Bool.and_eq_true, decide_eq_true_eq, beq_iff_eq]
  omega

/-! ## Runs of characters -/

/-- No run of such characters goes on at the front of the text. -/
def Stops (p : Char → Bool) (cs : List Char) : Prop :=
  ∀ c rest, cs = c :: rest → p c = false

section

variable {p : Char → Bool} {run rest : List Char}

theorem stops_nil : Stops p [] :=
  nofun

theorem stops_cons {c : Char} (stops : p c = false) (cs : List Char) : Stops p (c :: cs) := by
  intro d rest same
  cases same
  exact stops

theorem stops_append (run : List Char) (some : run ≠ []) (all : ∀ c ∈ run, p c = false)
    (rest : List Char) : Stops p (run ++ rest) := by
  obtain ⟨c, cs, rfl⟩ := List.exists_cons_of_ne_nil some
  exact stops_cons (all c List.mem_cons_self) _

theorem stops_dropWhile (cs : List Char) : Stops p (cs.dropWhile p) := by
  intro c rest same
  have head := List.head_dropWhile_not p (l := cs) (by rw [same]; exact List.cons_ne_nil c rest)
  simpa [same] using head

theorem Stops.dropWhile_eq {cs : List Char} (stops : Stops p cs) : cs.dropWhile p = cs := by
  cases cs with
  | nil => rfl
  | cons c cs => exact List.dropWhile_cons_of_neg (by simp [stops c cs rfl])

theorem takeWhile_run (all : ∀ c ∈ run, p c = true) (stops : Stops p rest) :
    (run ++ rest).takeWhile p = run := by
  rw [List.takeWhile_append_of_pos all]
  cases rest with
  | nil => rw [List.takeWhile_nil, List.append_nil]
  | cons c cs => rw [List.takeWhile_cons_of_neg (by simp [stops c cs rfl]), List.append_nil]

theorem dropWhile_run (all : ∀ c ∈ run, p c = true) (stops : Stops p rest) :
    (run ++ rest).dropWhile p = rest := by
  rw [List.dropWhile_append_of_pos all, stops.dropWhile_eq]

/-- A text is cut at the first occurrence of a character. -/
theorem eq_append_of_mem {mark : Char} {cs : List Char} (member : mark ∈ cs) :
    cs = cs.takeWhile (· != mark) ++ mark :: (cs.dropWhile (· != mark)).tail := by
  have split := List.takeWhile_append_dropWhile (p := (· != mark)) (l := cs)
  have some : cs.dropWhile (· != mark) ≠ [] := by
    intro none
    have passes := List.dropWhile_eq_nil_iff.mp none _ member
    simp at passes
  have first : (cs.dropWhile (· != mark)).head some = mark := by
    have stops := List.head_dropWhile_not (· != mark) some
    simpa using stops
  conv_lhs => rw [← split, ← List.cons_head_tail some, first]

theorem getElem?_takeWhile_of_mem {mark : Char} {cs : List Char} (member : mark ∈ cs) :
    cs[(cs.takeWhile (· != mark)).length]? = some mark := by
  have cut := eq_append_of_mem member
  generalize cs.takeWhile (· != mark) = front at cut ⊢
  rw [cut, List.getElem?_append_right (Nat.le_refl _), Nat.sub_self]
  rfl

end

/-! ## Words -/

/-- One or more word characters. -/
def IsWord (cs : List Char) : Prop :=
  cs ≠ [] ∧ ∀ c ∈ cs, isWord c = true

instance {cs : List Char} : Decidable (IsWord cs) :=
  have : Decidable (∀ c ∈ cs, isWord c = true) := List.decidableBAll _ cs
  inferInstanceAs (Decidable (_ ∧ _))

namespace IsWord

variable {cs : List Char}

/-- A mark that is no word character does not occur in a word. -/
theorem not_mem (word : IsWord cs) {mark : Char} (other : isWord mark = false) : mark ∉ cs := by
  intro member
  rw [word.2 mark member] at other
  cases other

theorem visible (word : IsWord cs) : ∀ c ∈ cs, isBlank c = false :=
  fun c member => isBlank_of_isWord (word.2 c member)

theorem isUnbroken (word : IsWord cs) : IsUnbroken cs := by
  intro c member
  cases breaks : isLineBreak c with
  | false => rfl
  | true =>
      have blank := isBlank_of_isLineBreak breaks
      rw [word.visible c member] at blank
      cases blank

/-- A word ends before a mark that is no word character. -/
theorem takeWhile_eq (word : IsWord cs) {mark : Char} (rest : List Char)
    (other : isWord mark = false) : (cs ++ mark :: rest).takeWhile isWord = cs := by
  rw [List.takeWhile_append_of_pos word.2, List.takeWhile_cons_of_neg (by simp [other]),
    List.append_nil]

theorem dropWhile_eq (word : IsWord cs) {mark : Char} (rest : List Char)
    (other : isWord mark = false) : (cs ++ mark :: rest).dropWhile isWord = mark :: rest := by
  rw [List.dropWhile_append_of_pos word.2, List.dropWhile_cons_of_neg (by simp [other])]

/-- Dropping blanks stops at a word. -/
theorem dropWhile_isBlank (word : IsWord cs) (rest : List Char) :
    (cs ++ rest).dropWhile isBlank = cs ++ rest := by
  obtain ⟨c, tail, rfl⟩ := List.exists_cons_of_ne_nil word.1
  have front := word.visible c List.mem_cons_self
  exact List.dropWhile_cons_of_neg (by simp [front])

/-- A run of characters that are in no word stops at a word. -/
theorem stops {p : Char → Bool} (word : IsWord cs) (others : ∀ c, isWord c = true → p c = false)
    (rest : List Char) : Stops p (cs ++ rest) :=
  stops_append cs word.1 (fun c member => others c (word.2 c member)) rest

theorem stops_isBlank (word : IsWord cs) (rest : List Char) : Stops isBlank (cs ++ rest) :=
  stops_append cs word.1 word.visible rest

end IsWord

end ErdDeploy.Text
