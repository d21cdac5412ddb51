import ErdDeploy.Proofs.Source.HollowLines
import ErdDeploy.Proofs.Text.Words

/-!
What a body keeps of its lines.

Reading a body comes to what is reported of it and, if it is closed, to what is kept of it and
the lines behind it (`readBody`). The reader does just that: it declares the block with what is
kept, and goes on behind it (`run_enter`).

If nothing is reported, no line before the last one holds a brace, and each of them is kept as
it stands (`kept_of_silent`). Of the last line only what stands before its first closing brace
is kept, and nothing at all if a brace opens on it. So a body says what its lines say, the
closing brace apart, exactly if no brace opens on its last line and nothing visible follows the
closing one (`bodies_kept`). Otherwise something is left out and not reported
(`not_conserved`).
-/

namespace ErdDeploy

/-! ## What a text says -/

namespace Text

/-- The characters of a text that are not blank. -/
def visible (cs : List Char) : List Char :=
  cs.filter fun c => !isBlank c

/-- A text without the last occurrence of a character. -/
def withoutLast (mark : Char) (cs : List Char) : List Char :=
  (cs.reverse.erase mark).reverse

section

variable {mark : Char} {cs cs' : List Char}

theorem visible_append (cs cs' : List Char) : visible (cs ++ cs') = visible cs ++ visible cs' :=
  List.filter_append cs cs'

theorem visible_cons_of_visible (shows : isBlank mark = false) (cs : List Char) :
    visible (mark :: cs) = mark :: visible cs :=
  List.filter_cons_of_pos (by rw [shows]; rfl)

theorem visible_eq_nil_iff : visible cs = [] ↔ AllBlank cs := by
  rw [visible, List.filter_eq_nil_iff, AllBlank]
  simp

theorem count_visible (shows : isBlank mark = false) (cs : List Char) :
    (visible cs).count mark = cs.count mark :=
  List.count_filter (by rw [shows]; rfl)

theorem visible_of_blank (blank : isBlankText cs = true) : visible cs = [] :=
  visible_eq_nil_iff.mpr (trim_eq_nil_iff.mp (isBlankText_iff.mp blank))

theorem withoutLast_append (member : mark ∈ cs') :
    withoutLast mark (cs ++ cs') = cs ++ withoutLast mark cs' := by
  rw [withoutLast, List.reverse_append, List.erase_append_left _ (List.mem_reverse.mpr member),
    List.reverse_append, List.reverse_reverse, withoutLast]

theorem length_withoutLast (member : mark ∈ cs) :
    (withoutLast mark cs).length + 1 = cs.length := by
  have positive := List.length_pos_of_mem member
  rw [withoutLast, List.length_reverse, List.length_erase_of_mem (List.mem_reverse.mpr member),
    List.length_reverse]
  omega

theorem withoutLast_singleton : withoutLast mark [mark] = [] := by
  rw [withoutLast, List.reverse_singleton, List.erase_cons_head, List.reverse_nil]

end

end Text

namespace Mode

/-! ## Reading a body -/

/-- What reading a body comes to: what is reported of it and, if it is closed, what is kept of it
and the lines behind it. -/
structure BodyReading where
  reported : List Diagnostic
  closed : Option (List SourceLine × List SourceLine)
  deriving DecidableEq, Repr

/-- What is kept of a body in the end, if a line closes it behind some that were kept. -/
def keptAtLast (depth : Nat) (kept : List SourceLine) (last : SourceLine) : List SourceLine :=
  if depth = 1 ∧ last.opens = 0 ∧ Text.isBlankText (beforeClosing last).text = false then
    kept ++ [beforeClosing last]
  else kept

/-- Read a body, some braces deep and behind lines that were kept. -/
def readBody : Nat → List SourceLine → List SourceLine → BodyReading
  | _, _, [] => ⟨[], none⟩
  | depth, kept, line :: lines =>
    if depth + line.opens ≤ line.closes then ⟨[], some (keptAtLast depth kept line, lines)⟩
    else
      let next := depth + line.opens - line.closes
      if 0 < line.opens then
        let later := readBody next kept lines
        ⟨nestedIgnored line :: later.reported, later.closed⟩
      else if next = 1 ∧ line.closes = 0 then readBody next (kept ++ [line]) lines
      else readBody next kept lines

/-- The lines of a body, and those behind it, from what follows the opening brace on. -/
def bodyLines (number : Int) (tail : List Char) (lines : List SourceLine) : List SourceLine :=
  if Text.isBlankText tail then lines else ⟨number, tail⟩ :: lines

/-- What is found from a body on. -/
def BodyReading.findings (block : OpenBlock) (reading : BodyReading) : List Finding :=
  reading.reported.map .diagnostic ++
    match reading.closed with
    | none => [.diagnostic (OpenBlock.unterminated block.line)]
    | some (held, behind) => block.close held :: run .statement behind

section

variable {depth : Nat} {kept : List SourceLine} {line : SourceLine}

theorem bodyStep_closes (block : OpenBlock) (closes : depth + line.opens ≤ line.closes) :
    bodyStep block depth kept line = (.statement, [block.close (keptAtLast depth kept line)]) := by
  rw [bodyStep, keptAtLast]
  by_cases only : depth = 1 ∧ line.opens = 0
  · rw [if_pos ⟨only.1, only.2, by omega⟩]
    cases blank : Text.isBlankText (beforeClosing line).text with
    | true => simp [blank]
    | false => simp [blank, only]
  · rw [if_neg fun same => only ⟨same.1, same.2.1⟩, if_pos closes,
      if_neg fun same => only ⟨same.1, same.2.1⟩]

/-- The reader comes to what reading the body comes to. -/
theorem run_body_eq (block : OpenBlock) (lines : List SourceLine) :
    run (.body block depth kept) lines = (readBody depth kept lines).findings block := by
  induction lines generalizing depth kept with
  | nil => rfl
  | cons line lines ih =>
      rw [run, step, readBody]
      by_cases closes : depth + line.opens ≤ line.closes
      · rw [if_pos closes, bodyStep_closes block closes]
        rfl
      · rw [if_neg closes, bodyStep, if_neg (by omega), if_neg closes]
        simp only
        split
        · rw [ih]
          rfl
        · split
          · rw [ih, List.nil_append]
          · rw [ih, List.nil_append]

/-- A block is entered by reading its body from what follows the opening brace on. -/
theorem run_enter (block : OpenBlock) (tail : List Char) (lines : List SourceLine) :
    (enter block tail).2 ++ run (enter block tail).1 lines =
      (readBody 1 [] (bodyLines block.line tail lines)).findings block := by
  rw [enter, bodyLines]
  split
  · rw [List.nil_append, run_body_eq]
  · rw [← run_body_eq, run, step]

end

/-! ## What is kept -/

/-- The visible characters on some lines. -/
def visibleOn (lines : List SourceLine) : List Char :=
  Text.visible (lines.flatMap SourceLine.text)

/-- What follows the first closing brace of a line. -/
def behindClosing (line : SourceLine) : List Char :=
  (line.text.dropWhile (· != '\x7d')).tail

/-- What the last line of a body says in it. -/
def visibleAtLast (last : SourceLine) : List Char :=
  if last.opens = 0 then Text.visible (beforeClosing last).text else []

section

variable {kept body rest lines : List SourceLine} {line : SourceLine}

theorem visibleOn_append (lines more : List SourceLine) :
    visibleOn (lines ++ more) = visibleOn lines ++ visibleOn more := by
  rw [visibleOn, List.flatMap_append, Text.visible_append, visibleOn, visibleOn]

theorem visibleOn_singleton (line : SourceLine) : visibleOn [line] = Text.visible line.text := by
  rw [visibleOn, List.flatMap_singleton]

theorem visibleOn_keptAtLast (kept : List SourceLine) (last : SourceLine) :
    visibleOn (keptAtLast 1 kept last) = visibleOn kept ++ visibleAtLast last := by
  rw [keptAtLast, visibleAtLast]
  by_cases none : last.opens = 0
  · rw [if_pos none]
    cases blank : Text.isBlankText (beforeClosing last).text with
    | true => rw [if_neg (by simp), Text.visible_of_blank blank, List.append_nil]
    | false => rw [if_pos ⟨rfl, none, rfl⟩, visibleOn_append, visibleOn_singleton]
  · rw [if_neg fun same => none same.2.1, if_neg none, List.append_nil]

/-- Without a report, no line before the last one holds a brace, and all of them are kept. -/
theorem kept_of_silent (silent : readBody 1 kept lines = ⟨[], some (body, rest)⟩) :
    ∃ before last, lines = before ++ last :: rest ∧
      (∀ line ∈ before, line.opens = 0 ∧ line.closes = 0) ∧ 1 + last.opens ≤ last.closes ∧
      body = keptAtLast 1 (kept ++ before) last := by
  induction lines generalizing kept with
  | nil => cases silent
  | cons line lines ih =>
      rw [readBody] at silent
      by_cases closes : 1 + line.opens ≤ line.closes
      · rw [if_pos closes] at silent
        cases silent
        refine ⟨[], line, rfl, nofun, closes, ?_⟩
        rw [List.append_nil]
      · rw [if_neg closes] at silent
        simp only at silent
        by_cases opens : 0 < line.opens
        · rw [if_pos opens] at silent
          cases silent
        · have plain : line.opens = 0 ∧ line.closes = 0 := by omega
          rw [if_neg opens, plain.1, plain.2, if_pos ⟨rfl, rfl⟩] at silent
          rcases ih silent with ⟨before, last, whole, others, ends, same⟩
          refine ⟨line :: before, last, ?_, ?_, ends, ?_⟩
          · rw [whole, List.cons_append]
          · exact List.forall_mem_cons.mpr ⟨plain, others⟩
          · rw [same, List.append_assoc, List.singleton_append]

theorem text_eq_of_closes (closes : 0 < line.closes) :
    line.text = (beforeClosing line).text ++ '\x7d' :: behindClosing line :=
  Text.eq_append_of_mem (List.count_pos_iff.mp closes)

/-- The last line of a body says in it what it says, the closing brace apart, exactly if no brace
opens on it and nothing visible follows its first closing brace. -/
theorem visibleAtLast_eq_iff (closes : 1 + line.opens ≤ line.closes) :
    visibleAtLast line = Text.withoutLast '\x7d' (Text.visible line.text) ↔
      line.opens = 0 ∧ Text.AllBlank (behindClosing line) := by
  have shown : Text.visible line.text = Text.visible (beforeClosing line).text ++
      '\x7d' :: Text.visible (behindClosing line) := by
    conv_lhs => rw [text_eq_of_closes (by omega), Text.visible_append,
      Text.visible_cons_of_visible (by decide)]
  have member : '\x7d' ∈ '\x7d' :: Text.visible (behindClosing line) := List.mem_cons_self
  rw [shown, Text.withoutLast_append member, visibleAtLast, ← Text.visible_eq_nil_iff]
  have length := Text.length_withoutLast member
  constructor
  · intro same
    by_cases none : line.opens = 0
    · rw [if_pos none, List.self_eq_append_right] at same
      rw [same, List.length_cons, List.length_nil] at length
      exact ⟨none, List.length_eq_zero_iff.mp (by omega)⟩
    · -- The brace that opens is visible, and is not the one that is left out.
      rw [if_neg none, eq_comm, List.append_eq_nil_iff] at same
      rw [same.2, List.length_cons, List.length_nil] at length
      have empty : Text.visible (behindClosing line) = [] := List.length_eq_zero_iff.mp (by omega)
      have opens : (Text.visible line.text).count '\x7b' = line.text.count '\x7b' :=
        Text.count_visible (by decide) line.text
      rw [shown, same.1, empty, ← SourceLine.opens] at opens
      exact absurd opens.symm none
  · rintro ⟨none, empty⟩
    rw [if_pos none, empty, Text.withoutLast_singleton, List.append_nil]

end

/-! ## What is left out -/

/-- How much of its lines a body keeps that is read without a report: `before` are those before the
last one. -/
structure Kept (before : List SourceLine) (last : SourceLine) (body : List SourceLine) : Prop where
  plain : ∀ line ∈ before, line.opens = 0 ∧ line.closes = 0
  closes : 1 + last.opens ≤ last.closes
  shows : visibleOn body = visibleOn before ++ visibleAtLast last
  whole_iff : visibleOn body = Text.withoutLast '\x7d' (visibleOn (before ++ [last])) ↔
    last.opens = 0 ∧ Text.AllBlank (behindClosing last)

section

variable {before lines body rest : List SourceLine} {last : SourceLine} {number : Int}
  {tail : List Char}

theorem kept_of_shows (plain : ∀ line ∈ before, line.opens = 0 ∧ line.closes = 0)
    (closes : 1 + last.opens ≤ last.closes)
    (shows : visibleOn body = visibleOn before ++ visibleAtLast last) : Kept before last body := by
  refine ⟨plain, closes, shows, ?_⟩
  have member : '\x7d' ∈ Text.visible last.text := by
    rw [← List.count_pos_iff, Text.count_visible (by decide), ← SourceLine.closes]
    omega
  rw [shows, visibleOn_append, visibleOn_singleton, Text.withoutLast_append member,
    List.append_cancel_left_eq, visibleAtLast_eq_iff closes]

/-- The same from the opening line on, of which a blank rest adds nothing. -/
theorem kept_of_bodyLines
    (silent : readBody 1 [] (bodyLines number tail lines) = ⟨[], some (body, rest)⟩) :
    ∃ before last, ⟨number, tail⟩ :: lines = before ++ last :: rest ∧ Kept before last body := by
  rcases kept_of_silent silent with ⟨before, last, whole, plain, closes, same⟩
  have shows : visibleOn body = visibleOn before ++ visibleAtLast last := by
    rw [same, visibleOn_keptAtLast, List.nil_append]
  rw [bodyLines] at whole
  split at whole
  · next blank =>
    refine ⟨⟨number, tail⟩ :: before, last, ?_, kept_of_shows ?_ closes ?_⟩
    · rw [whole, List.cons_append]
    · exact List.forall_mem_cons.mpr ⟨SourceLine.braces_of_blank blank, plain⟩
    · rw [shows, ← List.singleton_append, visibleOn_append, visibleOn_singleton,
        Text.visible_of_blank blank, List.nil_append]
  · exact ⟨before, last, whole, kept_of_shows plain closes shows⟩

end

/-- A body does not always say what its lines say, the closing brace apart, where nothing is
reported of it. -/
theorem not_conserved :
    ¬ ∀ (number : Int) (tail : List Char) (lines body rest : List SourceLine),
      readBody 1 [] (bodyLines number tail lines) = ⟨[], some (body, rest)⟩ →
        ∃ consumed, ⟨number, tail⟩ :: lines = consumed ++ rest ∧
          visibleOn body = Text.withoutLast '\x7d' (visibleOn consumed) := by
  intro conserved
  rcases conserved 1 []
    (SourceLine.numbered 2 ["id GUID [pk]".toList, "note \x7b x \x7d \x7d".toList])
    [⟨2, "id GUID [pk]".toList⟩] [] (by decide +kernel) with ⟨consumed, whole, same⟩
  rw [List.append_nil] at whole
  subst whole
  exact absurd same (by decide +kernel)

/-- **Contents of bodies.** Where a body is read without a report, no line before its last one holds
a brace, and each of them is kept. Of the last line what stands before its first closing brace is
kept, and nothing if a brace opens on it. So the body says what its lines say, the closing brace
apart, exactly if no brace opens on the last line and nothing visible follows its first closing
brace. The block is declared with this body, and the lines behind it are other statements. -/
theorem bodies_kept {number : Int} {tail : List Char} {lines body rest : List SourceLine}
    (silent : readBody 1 [] (bodyLines number tail lines) = ⟨[], some (body, rest)⟩) :
    (∃ before last, ⟨number, tail⟩ :: lines = before ++ last :: rest ∧ Kept before last body) ∧
      ∀ block : OpenBlock, block.line = number →
        (enter block tail).2 ++ run (enter block tail).1 lines =
          block.close body :: run .statement rest := by
  refine ⟨kept_of_bodyLines silent, ?_⟩
  rintro block rfl
  rw [run_enter, silent]
  rfl

/-- A field behind the opening brace and another one before the closing brace. -/
theorem bodies_kept_of_full_lines :
    readBody 1 [] (bodyLines 1 " a Int".toList
        (SourceLine.numbered 2 ["b Int \x7d".toList, "Enum S".toList])) =
      ⟨[], some ([⟨1, " a Int".toList⟩, ⟨2, "b Int ".toList⟩], [⟨3, "Enum S".toList⟩])⟩ ∧
      (∃ before last, ⟨1, " a Int".toList⟩ ::
          SourceLine.numbered 2 ["b Int \x7d".toList, "Enum S".toList] =
            before ++ last :: [⟨3, "Enum S".toList⟩] ∧
        Kept before last [⟨1, " a Int".toList⟩, ⟨2, "b Int ".toList⟩]) ∧
      ∀ block : OpenBlock, block.line = 1 →
        (enter block " a Int".toList).2 ++ run (enter block " a Int".toList).1
            (SourceLine.numbered 2 ["b Int \x7d".toList, "Enum S".toList]) =
          block.close [⟨1, " a Int".toList⟩, ⟨2, "b Int ".toList⟩] ::
            run .statement [⟨3, "Enum S".toList⟩] := by
  have silent : readBody 1 [] (bodyLines 1 " a Int".toList
      (SourceLine.numbered 2 ["b Int \x7d".toList, "Enum S".toList])) =
        ⟨[], some ([⟨1, " a Int".toList⟩, ⟨2, "b Int ".toList⟩], [⟨3, "Enum S".toList⟩])⟩ := by
    decide +kernel
  exact ⟨silent, bodies_kept silent⟩

end Mode

end ErdDeploy
