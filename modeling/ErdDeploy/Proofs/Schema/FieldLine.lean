import ErdDeploy.Proofs.Text.Words
import ErdDeploy.Schema.FieldLine

/-!
What splitting keeps of a field line.

A line is cut behind its first word, then behind its type, and once more where a bracket stands in
the type. At each cut only blanks are dropped, and a blank may be put in; from the two ends of the
name and of the type quotes are stripped. So the content of the line, which is all but its
blanks and quotes, is found again in its parts, in order (`FieldLine.Divides`).

A line is split exactly if its first word is more than quotes and its second word has more than
quotes in front of the first bracket; where the type has parentheses, it may end behind
its first word or inside it, but this makes no difference to whether there is one
(`FieldLine.split_conserves`).
-/

namespace ErdDeploy.FieldLine

open Text

/-! ## Content -/

/-- The content of a text: all but its blanks and quotes. -/
def content (cs : List Char) : List Char :=
  cs.filter fun c => !isBlank c && !isQuote c

/-- The line is divided into these parts: the name is one word without quotes around it, no
bracket stands in the type, and the content of the line is that of the parts. -/
structure Divides (text : List Char) (parts : FieldLine) : Prop where
  name_ne_nil : parts.name ≠ []
  visible : ∀ c ∈ parts.name, isBlank c = false
  bare : Bare isQuote parts.name
  typeToken_ne_nil : parts.typeToken ≠ []
  unbracketed : '[' ∉ parts.typeToken
  content : content (parts.name ++ (parts.typeToken ++ parts.marks)) = content text

theorem content_append (cs more : List Char) : content (cs ++ more) = content cs ++ content more :=
  List.filter_append ..

theorem content_of_allBlank {cs : List Char} (blank : AllBlank cs) : content cs = [] := by
  rw [content, List.filter_eq_nil_iff]
  intro c member
  rw [blank c member]
  exact Bool.false_ne_true

theorem content_trim (cs : List Char) : content (trim cs) = content cs :=
  filter_strip fun c blank => by rw [blank]; rfl

theorem content_unquoted (cs : List Char) : content (strip isQuote cs) = content cs :=
  filter_strip fun c quote => by rw [quote, Bool.not_true, Bool.and_false]

/-! ## Cuts -/

/-- Only blanks are dropped where the first word ends. -/
theorem content_words (cs : List Char) :
    content (firstWord cs ++ afterFirstWord cs) = content cs := by
  obtain ⟨left, gap, whole, before, between⟩ := exists_firstWord cs
  conv_rhs => rw [whole]
  simp only [content_append, content_of_allBlank before, content_of_allBlank between,
    List.nil_append]

/-- Nothing is dropped where a closing parenthesis ends the type. -/
theorem append_splitAfterParenthesis {cs : List Char} (closes : ')' ∈ cs) :
    (splitAfterParenthesis cs).1 ++ (splitAfterParenthesis cs).2 = cs := by
  rw [splitAfterParenthesis, List.append_assoc, List.drop_one]
  exact (eq_append_of_mem closes).symm

theorem content_splitType (rest : List Char) :
    content ((splitType rest).1 ++ (splitType rest).2) = content rest := by
  unfold splitType
  split
  · next applied =>
    rw [Bool.and_eq_true, List.contains_iff_mem, List.contains_iff_mem] at applied
    rw [append_splitAfterParenthesis applied.2]
  · exact content_words rest

/-- A blank is put in where a bracket ends the type. -/
theorem content_splitBracket (parts : List Char × List Char) :
    content ((splitBracket parts).1 ++ (splitBracket parts).2) =
      content (parts.1 ++ parts.2) := by
  unfold splitBracket
  split
  · have blank : AllBlank [' '] := by decide
    rw [← List.append_assoc, List.takeWhile_append_dropWhile, List.append_cons, content_append,
      content_append, content_of_allBlank blank, List.append_nil, content_append]
  · rfl

/-- The type ends in front of the first bracket. -/
theorem fst_splitBracket (parts : List Char × List Char) :
    (splitBracket parts).1 = parts.1.takeWhile (· != '[') := by
  unfold splitBracket
  split
  · rfl
  · next free =>
    rw [List.contains_iff_mem] at free
    refine (List.takeWhile_eq_self_iff.mpr fun c member => ?_).symm
    have other : c ≠ '[' := by
      rintro rfl
      exact free member
    simpa using other

/-! ## Lines -/

/-- The type and the marks behind the name of a line. -/
def partsOf (text : List Char) : List Char × List Char :=
  splitBracket (splitType (trim (afterFirstWord text)))

/-- A line is split unless nothing is left of its name or of its type without the quotes. -/
theorem split?_eq (text : List Char) : split? text =
    if strip isQuote (firstWord text) = [] ∨ strip isQuote (partsOf text).1 = [] then none
    else some ⟨strip isQuote (firstWord text), strip isQuote (partsOf text).1,
      trim (partsOf text).2⟩ := by
  have behind : splitBracket (splitType (trim (afterFirstWord text))) = partsOf text := rfl
  simp only [split?, firstWord_trim, trim_afterFirstWord_trim, behind, Bool.or_eq_true,
    List.isEmpty_iff]
  split
  · next none =>
    have untyped : strip isQuote (partsOf text).1 = [] := by
      rw [partsOf, none]
      rfl
    rw [if_pos (Or.inr untyped)]
  · rfl

theorem isSome_split?_iff {text : List Char} : (split? text).isSome = true ↔
    (∃ c ∈ firstWord text, isQuote c = false) ∧ ∃ c ∈ (partsOf text).1, isQuote c = false := by
  rw [split?_eq, ← strip_ne_nil_iff, ← strip_ne_nil_iff, Ne, Ne, ← not_or]
  split
  · next lacks => exact iff_of_false nofun (not_not.mpr lacks)
  · next has => exact iff_of_true rfl has

/-- What is found in one beginning of a text, up to a stop, is found in any other that holds it
anywhere. -/
theorem exists_in_takeWhile {p : Char → Bool} {q : Char → Prop} {rest one other : List Char}
    (front : one <+: rest) (front' : other <+: rest) (holds : ∃ c ∈ other, q c)
    (found : ∃ c ∈ one.takeWhile p, q c) : ∃ c ∈ other.takeWhile p, q c := by
  by_cases whole : other.takeWhile p = other
  · rwa [whole]
  · obtain ⟨c, member, here⟩ := found
    refine ⟨c, ?_, here⟩
    rcases List.prefix_or_prefix_of_prefix front front' with ⟨more, rfl⟩ | ⟨more, rfl⟩
    · rw [List.takeWhile_append]
      split
      · exact List.mem_append_left _ ((List.takeWhile_prefix p).subset member)
      · exact member
    · -- The stop is inside the other beginning already.
      have stopped : (other.takeWhile p).length ≠ other.length := fun length =>
        whole ((List.takeWhile_prefix p).eq_of_length length)
      rwa [List.takeWhile_append, if_neg stopped] at member

/-- Whether a type is left in front of the first bracket is told by the first word alone. -/
theorem exists_type_iff (rest : List Char) :
    (∃ c ∈ (splitType (trim rest)).1.takeWhile (· != '['), isQuote c = false) ↔
      ∃ c ∈ (firstWord rest).takeWhile (· != '['), isQuote c = false := by
  rw [← firstWord_trim rest]
  have first : firstWord (trim rest) <+: trim rest := by
    rw [firstWord, dropWhile_isBlank_trim]
    exact List.takeWhile_prefix _
  unfold splitType
  split
  · next applied =>
    rw [Bool.and_eq_true, List.contains_iff_mem, List.contains_iff_mem] at applied
    obtain ⟨opens, closes⟩ := applied
    have front : (splitAfterParenthesis (trim rest)).1 <+: trim rest :=
      ⟨_, append_splitAfterParenthesis closes⟩
    -- Neither parenthesis is a quote, and each of the two beginnings holds one.
    have ends : ')' ∈ (splitAfterParenthesis (trim rest)).1 :=
      List.mem_append_right _ List.mem_cons_self
    exact ⟨exists_in_takeWhile front first ⟨_, opens, by decide⟩,
      exists_in_takeWhile first front ⟨_, ends, by decide⟩⟩
  · rfl

/-- The parts that a line is split into divide it. -/
theorem divides_of_split? {text : List Char} {parts : FieldLine}
    (found : split? text = some parts) : Divides text parts := by
  rw [split?_eq] at found
  split at found
  · cases found
  · next has =>
    rw [not_or] at has
    obtain ⟨named, typed⟩ := has
    have visible : ∀ c ∈ strip isQuote (firstWord text), isBlank c = false := by
      intro c member
      have inWord := List.mem_takeWhile_imp ((isInfix_strip isQuote _).subset member)
      simpa using inWord
    have unbracketed : '[' ∉ strip isQuote (partsOf text).1 := by
      intro member
      have before := (isInfix_strip isQuote _).subset member
      rw [partsOf, fst_splitBracket] at before
      simpa using List.mem_takeWhile_imp before
    have whole : content (strip isQuote (firstWord text) ++
        (strip isQuote (partsOf text).1 ++ trim (partsOf text).2)) = content text := by
      calc content (strip isQuote (firstWord text) ++
            (strip isQuote (partsOf text).1 ++ trim (partsOf text).2))
          = content (firstWord text) ++ content ((partsOf text).1 ++ (partsOf text).2) := by
            simp only [content_append, content_unquoted, content_trim]
        _ = content (firstWord text) ++ content (afterFirstWord text) := by
            rw [partsOf, content_splitBracket, content_splitType, content_trim]
        _ = content text := by
            rw [← content_append, content_words]
    have bare := bare_strip isQuote (firstWord text)
    obtain ⟨name, typeToken, marks⟩ := parts
    rw [Option.some.injEq, mk.injEq] at found
    obtain ⟨sameName, sameType, sameMarks⟩ := found
    rw [sameName] at named visible bare
    rw [sameType] at typed unbracketed
    rw [sameName, sameType, sameMarks] at whole
    exact ⟨named, visible, bare, typed, unbracketed, whole⟩

/-- **Splitting.** A line is split exactly if its first word is more than quotes, and what follows
begins with a word that is more than quotes in front of the first bracket. The parts then divide
the line: there is a name, one word without quotes around it, and a type without a bracket, and
but for blanks and quotes the parts are the whole line, in order. -/
theorem split_conserves (text : List Char) :
    ((split? text).isSome = true ↔ (∃ c ∈ firstWord text, isQuote c = false) ∧
      ∃ c ∈ (firstWord (afterFirstWord text)).takeWhile (· != '['), isQuote c = false) ∧
    ∀ parts, split? text = some parts → Divides text parts := by
  refine ⟨?_, fun parts => divides_of_split?⟩
  rw [isSome_split?_iff, partsOf, fst_splitBracket, exists_type_iff]

/-- A quoted name, a type with a blank and a bracket inside its parentheses, and marks behind. -/
theorem split_conserves_of_bracket :
    split? "\t'total'\u00A0\"Decimal(10, [2)\"  [pk] ".toList =
        some ⟨"total".toList, "Decimal(10, ".toList, "[2) \"  [pk]".toList⟩ ∧
      Divides "\t'total'\u00A0\"Decimal(10, [2)\"  [pk] ".toList
        ⟨"total".toList, "Decimal(10, ".toList, "[2) \"  [pk]".toList⟩ := by
  have computed : split? "\t'total'\u00A0\"Decimal(10, [2)\"  [pk] ".toList =
      some ⟨"total".toList, "Decimal(10, ".toList, "[2) \"  [pk]".toList⟩ := by
    decide +kernel
  exact ⟨computed, (split_conserves _).2 _ computed⟩

end ErdDeploy.FieldLine
