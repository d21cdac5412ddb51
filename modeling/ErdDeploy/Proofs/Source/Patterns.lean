import ErdDeploy.Proofs.Text.Keywords
import ErdDeploy.Source.Header
import ErdDeploy.Source.Reference

/-!
The patterns of statements.

A reference line is a sequence of parts, of which quotes, blanks, a title and settings may be
missing (`ReferenceShape.Written`). The reader takes one part after the other. Each reader of
a part finds only what the pattern of the part allows, and finds it wherever the text behind it
does not go on with the part; so the whole line is read exactly if it matches its pattern, and
as the names, the glyph and the place of the glyph in it (`ReferenceShape.read?_eq_some_iff`).

Of the pattern of a header (`Header.Written`) everything behind the keyword may be missing, and the
rest of the line may be anything. So a header is read exactly if its keyword stands as a word of its
own, and this is when the line matches the pattern (`Header.exists_read?_iff`).
-/

namespace ErdDeploy

open Text

/-! ## Parts of a reference line -/

/-- The double quote around a name, or nothing. -/
def MayQuote (text : List Char) : Prop :=
  text = [] ∨ text = ['"']

/-- The name, perhaps between double quotes. -/
def WritesName (name : String) (text : List Char) : Prop :=
  ∃ opening closing, MayQuote opening ∧ MayQuote closing ∧ IsWord name.toList ∧
    text = opening ++ (name.toList ++ closing)

/-- The table and the field with a point between them. -/
def WritesEndpoint (table field : String) (text : List Char) : Prop :=
  ∃ first before behind second, WritesName table first ∧ AllBlank before ∧ AllBlank behind ∧
    WritesName field second ∧ text = first ++ (before ++ '.' :: (behind ++ second))

/-- What stands between the keyword and the colon: blanks, perhaps around a word. -/
def WritesTitle (text : List Char) : Prop :=
  AllBlank text ∨ ∃ before word behind, before ≠ [] ∧ AllBlank before ∧ IsWord word ∧
    AllBlank behind ∧ text = before ++ (word ++ behind)

/-- What stands at the end: blanks, perhaps around settings in brackets. -/
def WritesEnd (text : List Char) : Prop :=
  AllBlank text ∨ ∃ before settings behind, AllBlank before ∧ AllBlank behind ∧
    text = before ++ ('[' :: (settings ++ [']']) ++ behind)

/-- The text is a glyph: neither blanks nor double quotes nor word characters. -/
def IsGlyphs (text : List Char) : Prop :=
  text ≠ [] ∧ ∀ c ∈ text, ReferenceShape.isGlyph c = true

/-- The text is a reference line of this shape. -/
inductive ReferenceShape.Written : ReferenceShape → List Char → Prop
  | line {keyword title gap left between behind right ending : List Char}
    {fromTable fromField glyph toTable toField : String} :
    Spells ['r', 'e', 'f'] keyword → WritesTitle title → AllBlank gap →
    WritesEndpoint fromTable fromField left → AllBlank between → IsGlyphs glyph.toList →
    AllBlank behind → WritesEndpoint toTable toField right → WritesEnd ending →
    Written
      ⟨fromTable, fromField, glyph,
        (keyword ++ (title ++ ':' :: (gap ++ (left ++ between)))).length, toTable, toField⟩
      (keyword ++ (title ++ ':' :: (gap ++ (left ++ (between ++
        (glyph.toList ++ (behind ++ (right ++ ending))))))))

/-! ## Readers of parts -/

/-- Whether a name may go on with a character. -/
def goesOn (c : Char) : Bool :=
  isWord c || c == '"'

section

variable {text rest : List Char}

/-- The run at the front, if there is one, is as long as it can be. -/
theorem leadingRun_eq_some_iff {p : Char → Bool} {run : String} {cs : List Char} :
    (match cs.takeWhile p with
      | [] => none
      | run => some (String.ofList run, cs.dropWhile p)) = some (run, rest) ↔
      (run.toList ≠ [] ∧ ∀ c ∈ run.toList, p c = true) ∧ cs = run.toList ++ rest ∧
        Stops p rest := by
  constructor
  · intro read
    split at read
    · cases read
    · next some =>
      cases read
      rw [String.toList_ofList]
      refine ⟨⟨some, fun c member => List.mem_takeWhile_imp member⟩, ?_, stops_dropWhile cs⟩
      rw [List.takeWhile_append_dropWhile]
  · intro parts
    rcases parts with ⟨⟨some, all⟩, rfl, stops⟩
    rw [takeWhile_run all stops, dropWhile_run all stops]
    split
    · next none => exact absurd none some
    · rw [String.ofList_toList]

theorem word?_eq_some_iff {name : String} {cs : List Char} :
    ReferenceShape.word? cs = some (name, rest) ↔
      IsWord name.toList ∧ cs = name.toList ++ rest ∧ Stops isWord rest :=
  leadingRun_eq_some_iff

theorem glyph?_eq_some_iff {glyph : String} {cs : List Char} :
    ReferenceShape.glyph? cs = some (glyph, rest) ↔
      IsGlyphs glyph.toList ∧ cs = glyph.toList ++ rest ∧ Stops ReferenceShape.isGlyph rest :=
  leadingRun_eq_some_iff

theorem exists_skipQuote (cs : List Char) :
    ∃ quote, MayQuote quote ∧ cs = quote ++ ReferenceShape.skipQuote cs := by
  unfold ReferenceShape.skipQuote
  split
  · exact ⟨['"'], Or.inr rfl, rfl⟩
  · exact ⟨[], Or.inl rfl, rfl⟩

theorem skipQuote_append {quote : List Char} (mayQuote : MayQuote quote)
    (stops : Stops (· == '"') rest) : ReferenceShape.skipQuote (quote ++ rest) = rest := by
  rcases mayQuote with rfl | rfl
  · rw [List.nil_append, ReferenceShape.skipQuote]
    intro cs same
    exact absurd (stops _ _ same) (by decide)
  · rfl

theorem exists_of_quotedWord? {name : String} {cs : List Char}
    (read : ReferenceShape.quotedWord? cs = some (name, rest)) :
    ∃ text, WritesName name text ∧ cs = text ++ rest := by
  unfold ReferenceShape.quotedWord? at read
  rcases Option.map_eq_some_iff.mp read with ⟨⟨word, behind⟩, found, same⟩
  cases same
  rcases word?_eq_some_iff.mp found with ⟨isWord, whole, -⟩
  rcases exists_skipQuote cs with ⟨opening, mayOpen, front⟩
  rcases exists_skipQuote behind with ⟨closing, mayClose, back⟩
  refine ⟨opening ++ (name.toList ++ closing), ⟨opening, closing, mayOpen, mayClose, isWord, rfl⟩,
    ?_⟩
  rw [List.append_assoc, List.append_assoc, ← back, ← whole, ← front]

theorem quotedWord?_append {name : String} (writes : WritesName name text)
    (stops : Stops goesOn rest) :
    ReferenceShape.quotedWord? (text ++ rest) = some (name, rest) := by
  rcases writes with ⟨opening, closing, mayOpen, mayClose, word, rfl⟩
  have noQuote : Stops (· == '"') rest := by
    intro c cs same
    have other := stops c cs same
    rw [goesOn, Bool.or_eq_false_iff] at other
    exact other.2
  have unquoted : ∀ c, isWord c = true → (c == '"') = false := by
    intro c member
    rw [beq_eq_false_iff_ne]
    rintro rfl
    cases member
  have ends : Stops isWord (closing ++ rest) := by
    rcases mayClose with rfl | rfl
    · intro c cs same
      have other := stops c cs same
      rw [goesOn, Bool.or_eq_false_iff] at other
      exact other.1
    · exact stops_cons (by decide) rest
  have front : ReferenceShape.skipQuote (opening ++ (name.toList ++ (closing ++ rest))) =
      name.toList ++ (closing ++ rest) := skipQuote_append mayOpen (word.stops unquoted _)
  have back : ReferenceShape.skipQuote (closing ++ rest) = rest := skipQuote_append mayClose noQuote
  rw [ReferenceShape.quotedWord?, List.append_assoc, List.append_assoc, front,
    word?_eq_some_iff.mpr ⟨word, rfl, ends⟩, Option.map_some]
  exact congrArg (fun behind => some (name, behind)) back

/-- A run of characters that begin no name stops at a name. -/
theorem WritesName.stops {p : Char → Bool} {name : String} (writes : WritesName name text)
    (others : ∀ c, isWord c = true → p c = false) (unquoted : p '"' = false) (rest : List Char) :
    Stops p (text ++ rest) := by
  rcases writes with ⟨opening, closing, mayOpen, -, word, rfl⟩
  rcases mayOpen with rfl | rfl
  · rw [List.nil_append, List.append_assoc]
    exact word.stops others _
  · exact stops_cons unquoted _

theorem WritesName.ne_nil {name : String} (writes : WritesName name text) : text ≠ [] := by
  rcases writes with ⟨opening, closing, -, -, word, rfl⟩
  simp [word.1]

theorem WritesName.stops_isBlank {name : String} (writes : WritesName name text)
    (rest : List Char) : Stops isBlank (text ++ rest) :=
  writes.stops (fun _ word => isBlank_of_isWord word) (by decide) rest

theorem expect?_eq_some_iff {mark : Char} {cs : List Char} :
    ReferenceShape.expect? mark cs = some rest ↔ cs = mark :: rest := by
  cases cs with
  | nil => simp [ReferenceShape.expect?]
  | cons c cs =>
      rw [ReferenceShape.expect?]
      by_cases same : c = mark
      · rw [if_pos same, Option.some.injEq, same, List.cons.injEq]
        simp
      · rw [if_neg same, List.cons.injEq]
        simp [same]

/-- Blanks at the front, and the text behind them. -/
theorem exists_blanks (cs : List Char) :
    ∃ blanks, AllBlank blanks ∧ cs = blanks ++ cs.dropWhile isBlank :=
  ⟨cs.takeWhile isBlank, fun _ member => List.mem_takeWhile_imp member,
    List.takeWhile_append_dropWhile.symm⟩

theorem exists_of_endpoint? {table field : String} {cs : List Char}
    (read : ReferenceShape.endpoint? cs = some ((table, field), rest)) :
    ∃ blanks text, AllBlank blanks ∧ WritesEndpoint table field text ∧
      cs = blanks ++ (text ++ rest) := by
  simp only [ReferenceShape.endpoint?, Option.bind_eq_bind, Option.pure_def,
    Option.bind_eq_some_iff] at read
  rcases read with ⟨⟨first, afterFirst⟩, readFirst, point, readPoint, ⟨second, afterSecond⟩,
    readSecond, same⟩
  cases same
  rcases exists_of_quotedWord? readFirst with ⟨first, writesFirst, afterBlanks⟩
  rcases exists_of_quotedWord? readSecond with ⟨second, writesSecond, afterBehind⟩
  have marked := expect?_eq_some_iff.mp readPoint
  rcases exists_blanks cs with ⟨blanks, blank, whole⟩
  rcases exists_blanks afterFirst with ⟨before, blankBefore, afterWhole⟩
  rcases exists_blanks point with ⟨behind, blankBehind, pointWhole⟩
  refine ⟨blanks, _, blank, ⟨first, before, behind, second, writesFirst, blankBefore, blankBehind,
    writesSecond, rfl⟩, ?_⟩
  rw [whole, afterBlanks, afterWhole, marked, pointWhole, afterBehind]
  simp only [List.append_assoc, List.cons_append]

/-- A name does not go on with a blank. -/
theorem goesOn_of_isBlank {c : Char} (blank : isBlank c = true) : goesOn c = false := by
  have unquoted : c ≠ '"' := by
    rintro rfl
    cases blank
  rw [goesOn, isWord_of_isBlank blank, Bool.false_or, beq_eq_false_iff_ne]
  exact unquoted

/-- Blanks do not change whether a name stops. -/
theorem stops_goesOn_append {blanks : List Char} (blank : AllBlank blanks)
    (stops : Stops goesOn rest) : Stops goesOn (blanks ++ rest) := by
  cases blanks with
  | nil => exact stops
  | cons c cs => exact stops_cons (goesOn_of_isBlank (blank c List.mem_cons_self)) _

theorem endpoint?_append {table field : String} {blanks : List Char} (blank : AllBlank blanks)
    (writes : WritesEndpoint table field text) (stops : Stops goesOn rest) :
    ReferenceShape.endpoint? (blanks ++ (text ++ rest)) = some ((table, field), rest) := by
  rcases writes with ⟨first, before, behind, second, writesFirst, blankBefore, blankBehind,
    writesSecond, rfl⟩
  have point : Stops goesOn (before ++ '.' :: (behind ++ (second ++ rest))) :=
    stops_goesOn_append blankBefore (stops_cons (by decide) _)
  simp only [ReferenceShape.endpoint?, List.append_assoc, List.cons_append, Option.bind_eq_bind,
    Option.pure_def]
  rw [dropWhile_run blank (writesFirst.stops_isBlank _), quotedWord?_append writesFirst point,
    Option.bind_some, dropWhile_run blankBefore (stops_cons (by decide) _),
    expect?_eq_some_iff.mpr rfl, Option.bind_some,
    dropWhile_run blankBehind (writesSecond.stops_isBlank _),
    quotedWord?_append writesSecond stops, Option.bind_some]

/-! ## What stands around the two ends -/

theorem exists_skipName (cs : List Char) :
    ∃ name, cs = name ++ ReferenceShape.skipName cs ∧ (name = [] ∨
      ∃ before word, before ≠ [] ∧ AllBlank before ∧ IsWord word ∧ name = before ++ word) := by
  unfold ReferenceShape.skipName
  split
  · next c cs =>
    split
    · next blank =>
      split
      · next word rest found =>
        rcases word?_eq_some_iff.mp found with ⟨isWord, whole, -⟩
        rcases exists_blanks (c :: cs) with ⟨before, blankBefore, front⟩
        refine ⟨before ++ word.toList, ?_, Or.inr ⟨before, word.toList, ?_, blankBefore, isWord,
          rfl⟩⟩
        · rw [List.append_assoc, ← whole, ← front]
        · rintro rfl
          have stops := stops_dropWhile (p := isBlank) (c :: cs)
          rw [List.nil_append] at front
          rw [stops c cs front.symm] at blank
          cases blank
      · exact ⟨[], rfl, Or.inl rfl⟩
    · exact ⟨[], rfl, Or.inl rfl⟩
  · exact ⟨[], rfl, Or.inl rfl⟩

theorem skipName_blanks {blanks : List Char} (blank : AllBlank blanks) {mark : Char}
    (visible : isBlank mark = false) (other : isWord mark = false) (rest : List Char) :
    ReferenceShape.skipName (blanks ++ mark :: rest) = blanks ++ mark :: rest := by
  have noWord : ReferenceShape.word? (mark :: rest) = none := by
    rw [ReferenceShape.word?, List.takeWhile_cons_of_neg (by simp [other])]
  cases blanks with
  | nil => simp [ReferenceShape.skipName, visible]
  | cons c cs =>
      have front := dropWhile_run blank (stops_cons visible rest)
      rw [List.cons_append] at front ⊢
      rw [ReferenceShape.skipName, if_pos (blank c List.mem_cons_self), front, noWord]

theorem skipName_word {before word : List Char} (some : before ≠ []) (blank : AllBlank before)
    (isWord : IsWord word) (stops : Stops Text.isWord rest) :
    ReferenceShape.skipName (before ++ (word ++ rest)) = rest := by
  rcases List.exists_cons_of_ne_nil some with ⟨c, cs, rfl⟩
  have front := dropWhile_run blank (isWord.stops_isBlank rest)
  have found : ReferenceShape.word? (word ++ rest) = Option.some (String.ofList word, rest) := by
    rw [word?_eq_some_iff, String.toList_ofList]
    exact ⟨isWord, rfl, stops⟩
  rw [List.cons_append] at front ⊢
  rw [ReferenceShape.skipName, if_pos (blank c List.mem_cons_self), front, found]

/-- The colon behind the keyword is found exactly if a title stands before it. -/
theorem colon_iff {cs : List Char} :
    ReferenceShape.expect? ':' ((ReferenceShape.skipName cs).dropWhile isBlank) = some rest ↔
      ∃ title, WritesTitle title ∧ cs = title ++ ':' :: rest := by
  rw [expect?_eq_some_iff]
  constructor
  · intro colon
    rcases exists_blanks (ReferenceShape.skipName cs) with ⟨blanks, blank, behind⟩
    rw [colon] at behind
    rcases exists_skipName cs with ⟨name, whole, rfl | ⟨before, word, some, blankBefore, isWord,
      rfl⟩⟩
    · rw [List.nil_append] at whole
      exact ⟨blanks, Or.inl blank, whole.trans behind⟩
    · refine ⟨before ++ (word ++ blanks), Or.inr ⟨before, word, blanks, some, blankBefore, isWord,
        blank, rfl⟩, ?_⟩
      rw [whole, behind, List.append_assoc, List.append_assoc, List.append_assoc]
  · intro titled
    rcases titled with ⟨title, blank | ⟨before, word, behind, some, blankBefore, isWord,
      blankBehind, rfl⟩, rfl⟩
    · rw [skipName_blanks blank (by decide) (by decide)]
      exact dropWhile_run blank (stops_cons (by decide) rest)
    · have stops : Stops Text.isWord (behind ++ ':' :: rest) := by
        cases behind with
        | nil => exact stops_cons (by decide) rest
        | cons c cs => exact stops_cons (isWord_of_isBlank (blankBehind c List.mem_cons_self)) _
      rw [List.append_assoc, List.append_assoc, skipName_word some blankBefore isWord stops]
      exact dropWhile_run blankBehind (stops_cons (by decide) rest)

theorem isEnd_iff {cs : List Char} : ReferenceShape.isEnd cs = true ↔ WritesEnd cs := by
  unfold ReferenceShape.isEnd
  rcases exists_padding cs with ⟨left, right, padded, blankLeft, blankRight⟩
  constructor
  · intro ends
    split at ends
    · next none => exact Or.inl (trim_eq_nil_iff.mp none)
    · next rest some =>
      rcases List.getLast?_eq_some_iff.mp (beq_iff_eq.mp ends) with ⟨settings, rfl⟩
      rw [some] at padded
      exact Or.inr ⟨left, settings, right, blankLeft, blankRight, padded⟩
    · cases ends
  · intro written
    rcases written with blank | ⟨before, settings, behind, blankBefore, blankBehind, rfl⟩
    · rw [trim_eq_nil_iff.mpr blank]
    · have bare : trim ('[' :: (settings ++ [']'])) = '[' :: (settings ++ [']']) := by
        refine trim_eq_self (List.dropWhile_cons_of_neg (by decide)) ?_
        rw [List.reverse_cons, List.reverse_append]
        exact List.dropWhile_cons_of_neg (by decide)
      rw [trim_padded _ blankBefore blankBehind, bare]
      simp

theorem WritesEnd.stops_goesOn (writes : WritesEnd text) : Stops goesOn text := by
  rcases writes with blank | ⟨before, settings, behind, blankBefore, -, rfl⟩
  · rw [← List.append_nil text]
    exact stops_goesOn_append blank stops_nil
  · exact stops_goesOn_append blankBefore (stops_cons (by decide) _)

theorem IsGlyphs.stops {p : Char → Bool} (glyphs : IsGlyphs text)
    (others : ∀ c, ReferenceShape.isGlyph c = true → p c = false) (rest : List Char) :
    Stops p (text ++ rest) :=
  stops_append text glyphs.1 (fun c member => others c (glyphs.2 c member)) rest

theorem isBlank_of_isGlyph {c : Char} (glyph : ReferenceShape.isGlyph c = true) :
    isBlank c = false := by
  simp only [ReferenceShape.isGlyph, Bool.and_eq_true, Bool.not_eq_true'] at glyph
  exact glyph.1.1

theorem goesOn_of_isGlyph {c : Char} (glyph : ReferenceShape.isGlyph c = true) :
    goesOn c = false := by
  simp only [ReferenceShape.isGlyph, Bool.and_eq_true, Bool.not_eq_true', bne_iff_ne] at glyph
  rw [goesOn, glyph.2, Bool.false_or, beq_eq_false_iff_ne]
  exact glyph.1.2

/-- A glyph ends where the blanks or the name behind it begin. -/
theorem stops_isGlyph {behind right : List Char} {table field : String} (blank : AllBlank behind)
    (writes : WritesEndpoint table field right) (rest : List Char) :
    Stops ReferenceShape.isGlyph (behind ++ (right ++ rest)) := by
  cases behind with
  | nil =>
      rcases writes with ⟨first, before, _, second, writesFirst, -, -, -, rfl⟩
      rw [List.nil_append, List.append_assoc]
      exact writesFirst.stops (fun c word => by simp [ReferenceShape.isGlyph, word]) (by decide) _
  | cons c cs =>
      refine stops_cons ?_ _
      simp [ReferenceShape.isGlyph, blank c List.mem_cons_self]

end

/-- A line is read as a reference exactly if it matches the pattern, and as what it matches. -/
theorem ReferenceShape.read?_eq_some_iff {text : List Char} {shape : ReferenceShape} :
    read? text = some shape ↔ Written shape text := by
  have ordinary : IsOrdinary ['r', 'e', 'f'] := by decide
  -- Taking the parts off the front, the reader keeps how much is left; the pattern keeps how
  -- much was taken.
  have offset : ∀ keyword title gap left between behindBetween : List Char,
      (keyword ++ (title ++ ':' :: (gap ++ (left ++ (between ++ behindBetween))))).length -
        behindBetween.length =
      (keyword ++ (title ++ ':' :: (gap ++ (left ++ between)))).length := by
    intro keyword title gap left between behindBetween
    simp only [List.length_append, List.length_cons]
    omega
  constructor
  · intro found
    simp only [read?, Option.bind_eq_bind, Option.pure_def, Option.bind_eq_some_iff,
      Option.ite_none_right_eq_some] at found
    rcases found with ⟨afterKeyword, readKeyword, afterColon, readColon, ⟨left, afterLeft⟩,
      readLeft, ⟨glyph, afterGlyph⟩, readGlyph, ⟨right, afterRight⟩, readRight, ends, same⟩
    rcases (dropKeyword?_eq_some_iff ordinary).mp readKeyword with ⟨keyword, spells, rfl⟩
    rcases colon_iff.mp readColon with ⟨title, writesTitle, rfl⟩
    rcases exists_of_endpoint? readLeft with ⟨gap, leftText, blankGap, writesLeft, rfl⟩
    rcases exists_blanks afterLeft with ⟨between, blankBetween, behindLeft⟩
    rcases glyph?_eq_some_iff.mp readGlyph with ⟨glyphs, atGlyph, -⟩
    rcases exists_of_endpoint? readRight with ⟨behind, rightText, blankBehind, writesRight, rfl⟩
    rw [atGlyph] at behindLeft same
    rw [behindLeft] at same ⊢
    rw [offset] at same
    cases same
    exact .line spells writesTitle blankGap writesLeft blankBetween glyphs blankBehind writesRight
      (isEnd_iff.mp ends)
  · intro written
    cases written with
    | @line keyword title gap left between behind right ending fromTable fromField glyph toTable
        toField spells writesTitle blankGap writesLeft blankBetween glyphs blankBehind writesRight
        writesEnd =>
      have stopsName := stops_goesOn_append blankBetween
        (glyphs.stops (fun _ glyph => goesOn_of_isGlyph glyph) (behind ++ (right ++ ending)))
      have stopsBlank :=
        glyphs.stops (fun _ glyph => isBlank_of_isGlyph glyph) (behind ++ (right ++ ending))
      have stopsGlyph := stops_isGlyph blankBehind writesRight ending
      simp only [read?, Option.bind_eq_bind, Option.pure_def]
      rw [(dropKeyword?_eq_some_iff ordinary).mpr ⟨keyword, spells, rfl⟩, Option.bind_some,
        colon_iff.mpr ⟨title, writesTitle, rfl⟩, Option.bind_some,
        endpoint?_append blankGap writesLeft stopsName, Option.bind_some,
        dropWhile_run blankBetween stopsBlank, glyph?_eq_some_iff.mpr ⟨glyphs, rfl, stopsGlyph⟩,
        Option.bind_some, endpoint?_append blankBehind writesRight writesEnd.stops_goesOn,
        Option.bind_some, if_pos (isEnd_iff.mpr writesEnd), offset]

/-- The place of the glyph in a line that matches the pattern. -/
theorem ReferenceShape.Written.exists_glyph {text : List Char} {shape : ReferenceShape}
    (written : Written shape text) : ∃ before behind,
      text = before ++ (shape.glyph.toList ++ behind) ∧ before.length = shape.glyphOffset := by
  cases written with
  | @line keyword title gap left between behind right ending =>
      refine ⟨keyword ++ (title ++ ':' :: (gap ++ (left ++ between))), behind ++ (right ++ ending),
        ?_, rfl⟩
      simp only [List.append_assoc, List.cons_append]

/-! ## Headers of blocks -/

/-- A name, perhaps between two quotes of one kind. -/
def WritesHeaderName (text : List Char) : Prop :=
  ∃ quote word, (quote = [] ∨ ∃ c, Header.isQuote c = true ∧ quote = [c]) ∧ IsWord word ∧
    text = quote ++ (word ++ quote)

/-- The text is the header of a block of this kind: the keyword as a word of its own, perhaps a
name, settings without an opening brace, perhaps the brace, and what follows it. -/
def Header.Written (kind : BlockKind) (text : List Char) : Prop :=
  ∃ keyword gap name settings brace tail, Spells kind.keyword.toList keyword ∧ AllBlank gap ∧
    (name = [] ∨ WritesHeaderName name) ∧ '\x7b' ∉ settings ∧ (brace = [] ∨ brace = ['\x7b']) ∧
    Stops isWord (gap ++ (name ++ (settings ++ (brace ++ tail)))) ∧
    text = keyword ++ (gap ++ (name ++ (settings ++ (brace ++ tail))))

theorem Header.afterKeyword?_eq_some_iff {kind : BlockKind} {text rest : List Char} :
    afterKeyword? kind text = some rest ↔
      ∃ keyword, Spells kind.keyword.toList keyword ∧ text = keyword ++ rest ∧
        Stops isWord rest := by
  have ordinary : IsOrdinary kind.keyword.toList := by cases kind <;> decide
  have found : dropKeyword? kind.keyword.toList text = some rest ↔
      ∃ keyword, Spells kind.keyword.toList keyword ∧ text = keyword ++ rest :=
    dropKeyword?_eq_some_iff ordinary
  unfold afterKeyword?
  constructor
  · intro read
    split at read
    · next c cs dropped =>
      split at read
      · cases read
      · next other =>
        cases read
        rcases found.mp dropped with ⟨keyword, spells, whole⟩
        exact ⟨keyword, spells, whole, stops_cons (Bool.not_eq_true _ ▸ other) cs⟩
    · next short =>
      rcases found.mp read with ⟨keyword, spells, whole⟩
      refine ⟨keyword, spells, whole, ?_⟩
      rintro c cs rfl
      exact absurd read (short c cs)
  · intro behind
    rcases behind with ⟨keyword, spells, whole, stops⟩
    rw [found.mpr ⟨keyword, spells, whole⟩]
    cases rest with
    | nil => rfl
    | cons c cs => simp [stops c cs rfl]

theorem Header.exists_read?_of_afterKeyword? {kind : BlockKind} {text rest : List Char}
    (found : afterKeyword? kind text = some rest) : ∃ header, read? text = some header := by
  unfold read?
  cases kind with
  | enum =>
      rw [found]
      exact ⟨_, rfl⟩
  | table =>
      rw [found]
      cases afterKeyword? .enum text with
      | none => exact ⟨_, rfl⟩
      | some rest => exact ⟨_, rfl⟩

/-- A line is read as a header exactly if it matches the pattern. -/
theorem Header.exists_read?_iff {text : List Char} :
    (∃ header, read? text = some header) ↔ ∃ kind, Written kind text := by
  constructor
  · have pattern : ∀ {kind rest}, afterKeyword? kind text = some rest → Written kind text := by
      intro kind rest found
      rcases afterKeyword?_eq_some_iff.mp found with ⟨keyword, spells, whole, stops⟩
      have split := List.takeWhile_append_dropWhile (p := (· != '\x7b')) (l := rest)
      refine ⟨keyword, [], [], rest.takeWhile (· != '\x7b'), [], rest.dropWhile (· != '\x7b'),
        spells, nofun, Or.inl rfl, ?_, Or.inl rfl, ?_, ?_⟩
      · intro member
        have passes := List.mem_takeWhile_imp member
        cases passes
      · simpa only [List.nil_append, split] using stops
      · simpa only [List.nil_append, split] using whole
    intro reads
    rcases reads with ⟨header, found⟩
    unfold read? at found
    split at found
    · next enum => exact ⟨.enum, pattern enum⟩
    · next table => exact ⟨.table, pattern table⟩
    · cases found
  · intro written
    rcases written with ⟨kind, keyword, gap, name, settings, brace, tail, spells, -, -, -, -, stops,
      whole⟩
    exact exists_read?_of_afterKeyword?
      (afterKeyword?_eq_some_iff.mpr ⟨keyword, spells, whole, stops⟩)

/-- What a header tells to follow its brace stands behind a brace at the end of its text. -/
theorem Header.exists_brace {text tail : List Char} {header : Header}
    (read : read? text = some header) (brace : header.tail = some tail) :
    ∃ front, text = front ++ '\x7b' :: tail := by
  have cut : ∀ {kind rest}, afterKeyword? kind text = some rest → afterBrace? rest = some tail →
      ∃ front, text = front ++ '\x7b' :: tail := by
    intro kind rest found behind
    rcases afterKeyword?_eq_some_iff.mp found with ⟨keyword, -, whole, -⟩
    unfold afterBrace? at behind
    split at behind
    · next c cs dropped =>
      cases behind
      have split := List.takeWhile_append_dropWhile (p := (· != '\x7b')) (l := rest)
      have first : c = '\x7b' := by
        have stops := stops_dropWhile (p := (· != '\x7b')) rest c tail dropped
        simpa using stops
      rw [first] at dropped
      refine ⟨keyword ++ rest.takeWhile (· != '\x7b'), ?_⟩
      rw [whole, List.append_assoc, ← dropped, split]
    · cases behind
  unfold read? at read
  split at read
  · next found =>
    cases read
    exact cut found brace
  · next found =>
    cases read
    exact cut found brace
  · cases read

end ErdDeploy
