import ErdDeploy.Deployment.Build
import ErdDeploy.Proofs.Data.Results
import ErdDeploy.Proofs.Schema.Acceptance
import ErdDeploy.Proofs.Source.EnumBodies
import ErdDeploy.Proofs.Source.Succession

/-!
The codes of options.

An enum becomes an option set with one option for each value, in the order of the lines that
declare them, with codes that count from the base without a gap (`OptionSetPayload.Numbers`).

A code is a number that stored rows refer to, so what matters is how it behaves when a source
grows. Lines that are put in front of the brace that closes the last block of an enum add values
behind those that are there, and change nothing else that a reading asks for
(`Extract.exists_widened`). So the source is still read, and every label keeps its code
(`Model.option_codes_kept`).
-/

namespace ErdDeploy

/-! ## Options -/

namespace OptionValue

theorem labels_enumerate (code : Int) (labels : List String) :
    (enumerate code labels).map label = labels := by
  induction labels generalizing code with
  | nil => rfl
  | cons label labels ih => rw [enumerate, List.map_cons, ih]

theorem codes_enumerate (code : Int) (labels : List String) :
    (enumerate code labels).map value =
      (List.range labels.length).map fun place : Nat => code + (place : Int) := by
  induction labels generalizing code with
  | nil => rfl
  | cons label labels ih =>
      rw [enumerate, List.map_cons, ih, List.length_cons, List.range_succ_eq_map, List.map_cons,
        List.map_map]
      refine congrArg₂ _ (by simp) (List.map_congr_left fun place _ => ?_)
      simp only [Function.comp_apply]
      omega

theorem enumerate_append (code : Int) (labels more : List String) :
    enumerate code (labels ++ more) =
      enumerate code labels ++ enumerate (code + labels.length) more := by
  induction labels generalizing code with
  | nil => simp [enumerate]
  | cons label labels ih =>
      have further : code + 1 + (labels.length : Int) =
          code + ((label :: labels).length : Int) := by
        rw [List.length_cons]
        omega
      rw [List.cons_append, enumerate, ih, further, enumerate, List.cons_append]

end OptionValue

namespace OptionSetPayload

/-- The code that an option set has for a label. -/
def codeOf? (payload : OptionSetPayload) (label : String) : Option Int :=
  (payload.options.find? fun option => option.label = label).map OptionValue.value

/-- An option set has one option for each of some values, in their order, with labels that are
there and distinct, and with codes that count from the base without a gap. -/
structure Numbers (settings : SchemaSettings) (values : List String)
    (payload : OptionSetPayload) : Prop where
  labels : payload.options.map OptionValue.label = values
  named : ∀ option ∈ payload.options, option.label ≠ ""
  distinct : (payload.options.map OptionValue.label).Nodup
  codes : payload.options.map OptionValue.value =
    (List.range values.length).map fun place : Nat => settings.optionValueBase + (place : Int)

variable {settings : SchemaSettings} {name : String}

theorem numbers_ofEnum {values : List String} (named : ∀ value ∈ values, value ≠ "")
    (distinct : values.Nodup) : (ofEnum settings ⟨name, values⟩).Numbers settings values where
  labels := OptionValue.labels_enumerate _ _
  named := by
    intro option member
    have among := List.mem_map_of_mem (f := OptionValue.label) member
    rw [ofEnum, OptionValue.labels_enumerate] at among
    exact named _ among
  distinct := by
    rwa [ofEnum, OptionValue.labels_enumerate]
  codes := OptionValue.codes_enumerate _ _

/-- Values at the end leave the codes of those in front as they are. -/
theorem codeOf?_append {values : List String} {label : String} {code : Int} (added : List String)
    (has : (ofEnum settings ⟨name, values⟩).codeOf? label = some code) :
    (ofEnum settings ⟨name, values ++ added⟩).codeOf? label = some code := by
  obtain ⟨option, found, rfl⟩ := Option.map_eq_some_iff.mp has
  have kept : (ofEnum settings ⟨name, values ++ added⟩).options.find?
      (fun option => option.label = label) = some option := by
    rw [ofEnum, OptionValue.enumerate_append, List.find?_append]
    rw [ofEnum] at found
    rw [found]
    rfl
  rw [codeOf?, kept]
  rfl

end OptionSetPayload

/-! ## Enums that grow -/

/-- Some values are those of the last enum block of a name: what the lines of its body say, each
where it first comes. -/
def Extract.DeclaresValues (lines : List SourceLine) (e : Extract) (name : String)
    (values : List String) : Prop :=
  ∃ block body last, LastWith (fun block => block.name = name) e.enums block ∧
    block.values = values ∧ values = (EnumBlock.labelsOf body).eraseDups ∧
    Occupies lines e.starts block.line last body

/-- The last enum block of a name is closed by a brace that stands alone on its line, between some
lines in front of it and others behind. -/
structure ClosedAlone (text name : String) (front : List (List Char)) (closing : List Char)
    (back : List (List Char)) : Prop where
  lines : Text.splitLines text.toList = front ++ closing :: back
  alone : Text.trim closing = ['\x7d']
  last : ∃ block later, Source.ClosesEnum front closing block ∧ block.name = name ∧
    (Extract.ofText text).enums = (Extract.ofLines front).enums ++ block :: later ∧
    ∀ other ∈ later, other.name ≠ name

/-- Some statements, an enum block, and other statements behind it. -/
def Extract.around (first : Extract) (block : EnumBlock) (offset : Int) (rest : Extract) :
    Extract :=
  first ++ (⟨[block], [], [], []⟩ ++ rest.shift offset)

namespace Extract

variable {first rest : Extract} {block block' : EnumBlock} {offset offset' : Int} {name : String}

theorem enums_around : (around first block offset rest).enums = first.enums ++
    block :: rest.enums.map fun block => { block with line := block.line + offset } :=
  rfl

theorem diagnostics_around : (around first block offset rest).diagnostics = first.diagnostics ++
    rest.diagnostics.map fun d => { d with line := d.line + offset } :=
  rfl

theorem fieldLines_around : (around first block offset rest).fieldLines =
    first.fieldLines ++ (rest.shift offset).fieldLines :=
  List.flatMap_append

theorem texts_fieldLines_shift (e : Extract) (offset : Int) :
    (e.shift offset).fieldLines.map SourceLine.text = e.fieldLines.map SourceLine.text := by
  rw [fieldLines, fieldLines, shift, List.flatMap_map, List.map_flatMap, List.map_flatMap]
  refine List.flatMap_congr fun block _ => ?_
  rw [List.map_map]
  rfl

/-- What a reading asks for does not tell where the statements behind an enum stand, nor which
values it has. -/
theorem sameDemands_around (name : block'.name = block.name) :
    (around first block offset rest).SameDemands (around first block' offset' rest) where
  enums := by
    simp only [enums_around, List.map_append, List.map_cons, List.map_map, name]
    rfl
  lines := by
    rw [fieldLines_around, fieldLines_around, List.map_append, List.map_append,
      texts_fieldLines_shift, texts_fieldLines_shift]
  errors := by
    rw [diagnostics_around, diagnostics_around]
    simp only [List.map_append, List.map_map]
    rfl

/-- The last enum block of a name is the one behind which none has the name. -/
theorem get?_enumsOf_around (named : block.name = name)
    (others : ∀ other ∈ rest.enums, other.name ≠ name) (values : List String) :
    (Model.enumsOf (around first { block with values := values } offset rest).enums).get? name =
      some ⟨name, values⟩ := by
  rw [Model.enumsOf, OrderedMap.get?_ofList_map_iff, enums_around]
  refine ⟨{ block with values := values }, ⟨first.enums, _, rfl, named, ?_⟩, by rw [named]⟩
  intro other member
  obtain ⟨source, among, rfl⟩ := List.mem_map.mp member
  exact others source among

theorem close_widened {opened : OpenBlock} {kept : List SourceLine}
    (same : opened.close kept = .enum block) (body : List SourceLine) :
    opened.close body = .enum { block with values := EnumBlock.valuesOf body } := by
  unfold OpenBlock.close at same ⊢
  split at same
  · cases same
  · split at same
    · cases same
      rfl
    · cases same

/-- Lines without braces that are put in front of the brace are read into the block, and nothing
else changes but where the statements behind it stand. -/
theorem exists_widened {text : String} {front back : List (List Char)} {closing : List Char}
    (closed : ClosedAlone text name front closing back) :
    ∃ (first rest : Extract) (block : EnumBlock) (kept : List SourceLine), block.name = name ∧
      (∀ other ∈ rest.enums, other.name ≠ name) ∧
      ∀ (more : List (List Char)) (text' : String),
        (∀ line ∈ more, '\x7b' ∉ line ∧ '\x7d' ∉ line) →
        Text.splitLines text'.toList = front ++ more ++ closing :: back →
        ofText text' = around first
          { block with
            values := EnumBlock.valuesOf (kept ++ SourceLine.numbered (1 + front.length) more) }
          (front.length + more.length + 1) rest := by
  obtain ⟨block, later, closes, named, enums, others⟩ := closed.last
  obtain ⟨opened, kept, mode, same⟩ := exists_open_of_closesEnum closes closed.alone
  have widened : ∀ (more : List (List Char)) (text' : String),
      (∀ line ∈ more, '\x7b' ∉ line ∧ '\x7d' ∉ line) →
      Text.splitLines text'.toList = front ++ more ++ closing :: back →
      ofText text' = around
        (ofFindings (Mode.yields .statement (SourceLine.numbered 1 front)))
        { block with
          values := EnumBlock.valuesOf (kept ++ SourceLine.numbered (1 + front.length) more) }
        (front.length + more.length + 1) (ofLines back) := by
    intro more text' plain lines
    rw [ofText_eq, lines, ofLines_of_open mode plain closed.alone, close_widened same]
    rfl
  refine ⟨_, ofLines back, block, kept, named, ?_, widened⟩
  have lines : Text.splitLines text.toList = front ++ [] ++ closing :: back := by
    rw [List.append_nil, closed.lines]
  rw [widened [] text nofun lines, enums_around, enums_ofLines front] at enums
  have behind := (List.cons_eq_cons.mp (List.append_cancel_left enums)).2
  rwa [← behind, List.forall_mem_map] at others

end Extract

/-! ## Models -/

namespace Model

variable {rules : NamingRules} {strict : Bool} {text : String} {m : Model} {name : String}
  {enum : Enumeration}

theorem declaresValues_of_get? (read : ofText rules strict text = .ok m)
    (found : m.enums.get? name = some enum) :
    (Extract.ofText text).DeclaresValues (SourceLine.ofText text) name enum.values := by
  obtain ⟨interpreted, -, rfl⟩ := exists_interpreted read
  obtain ⟨block, last, rfl⟩ := OrderedMap.get?_ofList_map_iff.mp found
  obtain ⟨body, end', same, occupies⟩ :=
    (inOrder_findings (Text.splitLines text.toList)).exists_enum last.mem
  exact ⟨block, body, end', last, rfl, same.trans (EnumBlock.valuesOf_eq body), occupies⟩

/-- The options of an enum before and after lines were put in front of the brace that closes it. -/
theorem exists_widened_values (read : ofText rules strict text = .ok m)
    (found : m.enums.get? name = some enum) {front back more : List (List Char)}
    {closing : List Char} (closed : ClosedAlone text name front closing back)
    (plain : ∀ line ∈ more, '\x7b' ∉ line ∧ '\x7d' ∉ line) {text' : String}
    (lines : Text.splitLines text'.toList = front ++ more ++ closing :: back) :
    ∃ m' added, ofText rules strict text' = .ok m' ∧
      m'.enums.get? name = some ⟨name, enum.values ++ added⟩ := by
  obtain ⟨first, rest, block, kept, named, others, widened⟩ := Extract.exists_widened closed
  have before := widened [] text nofun (by rw [List.append_nil, closed.lines])
  have after := widened more text' plain lines
  obtain ⟨added, grown⟩ :=
    EnumBlock.exists_valuesOf_append kept (SourceLine.numbered (1 + front.length) more)
  have same : (Extract.ofText text).SameDemands (Extract.ofText text') := by
    rw [before, after]
    exact Extract.sameDemands_around rfl
  obtain ⟨m', read', enums'⟩ := ofText_of_sameDemands same read
  obtain ⟨interpreted, -, rfl⟩ := exists_interpreted read
  have here : enum.values = EnumBlock.valuesOf kept := by
    have known : (enumsOf (Extract.ofText text).enums).get? name = some enum := found
    rw [before, Extract.get?_enumsOf_around named others, SourceLine.numbered,
      List.append_nil] at known
    rw [← Option.some.inj known]
  refine ⟨m', added, read', ?_⟩
  rw [enums', after, Extract.get?_enumsOf_around named others, grown, here]

/-- **Option codes.** An enum of a source that is read becomes an option set with one option for
each value, in the order in which the lines of its last block declare them, with labels that are
there and distinct and codes that count from the base without a gap. If a brace that stands alone on
its line closes the last block, any lines without braces may be put in front of it: the source is
still read, and every label keeps its code. -/
theorem option_codes_kept (read : ofText rules strict text = .ok m) (settings : SchemaSettings)
    (found : m.enums.get? name = some enum) :
    (OptionSetPayload.ofEnum settings enum).Numbers settings enum.values ∧
      (Extract.ofText text).DeclaresValues (SourceLine.ofText text) name enum.values ∧
      ∀ front closing back, ClosedAlone text name front closing back →
        ∀ more : List (List Char), (∀ line ∈ more, '\x7b' ∉ line ∧ '\x7d' ∉ line) →
        ∀ text' : String, Text.splitLines text'.toList = front ++ more ++ closing :: back →
          ∃ m' enum', ofText rules strict text' = .ok m' ∧ m'.enums.get? name = some enum' ∧
            ∀ label code,
              (OptionSetPayload.ofEnum settings enum).codeOf? label = some code →
              (OptionSetPayload.ofEnum settings enum').codeOf? label = some code := by
  have declares := declaresValues_of_get? read found
  obtain rfl := enum_name_of_ofText read found
  have numbers : (OptionSetPayload.ofEnum settings enum).Numbers settings enum.values := by
    obtain ⟨-, body, -, -, -, same, -⟩ := declares
    rw [← EnumBlock.valuesOf_eq] at same
    refine OptionSetPayload.numbers_ofEnum ?_ ?_
    · rw [same]
      exact fun value => EnumBlock.ne_empty_of_mem_valuesOf
    · rw [same]
      exact EnumBlock.nodup_valuesOf body
  refine ⟨numbers, declares, fun front closing back closed more plain text' lines => ?_⟩
  obtain ⟨m', added, read', found'⟩ := exists_widened_values read found closed plain lines
  exact ⟨m', _, read', found',
    fun label code has => OptionSetPayload.codeOf?_append added has⟩

/-- The lines in front of the brace that closes the second block of an enum: among them a comment, a
note, and a value that comes twice. -/
def statesFront : List (List Char) :=
  ["Enum S \x7b", "Old", "\x7d", "Enum S \x7b", "// states", "Draft [note]", "Draft;", "Sent,"].map
    String.toList

/-- The lines behind it. -/
def statesBack : List (List Char) :=
  ["Table T \x7b", "id GUID [pk]", "state S", "\x7d"].map String.toList

/-- Lines that are put in front of it: a comment, a value that is there already, and a new one. -/
def statesMore : List (List Char) :=
  ["// later", "Sent", "Paid"].map String.toList

/-- The lines as a text. -/
def states (more : List (List Char)) : String :=
  "\n".intercalate
    ((statesFront ++ more ++ "\x7d ".toList :: statesBack).map String.ofList)

theorem closedAlone_states :
    ClosedAlone (states []) "S" statesFront "\x7d ".toList statesBack where
  lines := by decide +kernel
  alone := by decide +kernel
  last := ⟨⟨"S", ["Draft", "Sent"], 4⟩, [], by decide +kernel, rfl, by decide +kernel, nofun⟩

theorem option_codes_kept_states :
    ∃ m, ofText {} true (states []) = .ok m ∧
      m.enums.get? "S" = some ⟨"S", ["Draft", "Sent"]⟩ ∧
      (OptionSetPayload.ofEnum {} ⟨"S", ["Draft", "Sent"]⟩).codeOf? "Sent" = some 100000001 ∧
      ∃ m' enum', ofText {} true (states statesMore) = .ok m' ∧
        m'.enums.get? "S" = some enum' ∧
        ∀ label code,
          (OptionSetPayload.ofEnum {} ⟨"S", ["Draft", "Sent"]⟩).codeOf? label = some code →
          (OptionSetPayload.ofEnum {} enum').codeOf? label = some code := by
  have found : (ofText {} true (states [])).toOption.map (fun m => m.enums.get? "S") =
      some (some ⟨"S", ["Draft", "Sent"]⟩) := by
    decide +kernel
  obtain ⟨m, read, found⟩ := exists_of_toOption_map found
  obtain ⟨-, -, kept⟩ := option_codes_kept read {} found
  exact ⟨m, read, found, by decide +kernel,
    kept _ _ _ closedAlone_states statesMore (by decide +kernel) _ (by decide +kernel)⟩

end Model

end ErdDeploy
