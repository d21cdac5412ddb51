import ErdDeploy.Data.OrderedMap
import ErdDeploy.Metadata.Payload
import ErdDeploy.Source.Diagnostic

/-!
Reports: what became of each declared object, and the summary of a run.

An item tells the outcome for one object, a report the items of one kind of objects, and a
registry under which identifier each object is known to the remote. The summary of a run is
folded from the results of its stages.
-/

namespace ErdDeploy

/-- What became of an object. -/
inductive Outcome
  | created
  | existing
  | failed
  | skipped
  deriving DecidableEq, Repr

namespace Outcome

/-- The word for an outcome. -/
def word : Outcome → String
  | .created => "created"
  | .existing => "existing"
  | .failed => "failed"
  | .skipped => "skipped"

/-- The outcome of a word. -/
def ofWord? (word : String) : Option Outcome :=
  [Outcome.created, .existing, .failed, .skipped].find? fun outcome => outcome.word = word

end Outcome

/-- The outcome for one object. -/
structure Item where
  name : String
  outcome : Outcome
  identifier : Option String
  error : Option String
  note : Option String
  deriving DecidableEq, Repr

namespace Item

/-- An object that was created. -/
def created (name : String) (identifier : Option String) : Item :=
  ⟨name, .created, identifier, none, none⟩

/-- An object that was there before. -/
def existing (name identifier : String) : Item :=
  ⟨name, .existing, some identifier, none, none⟩

/-- An object that could not be brought about. -/
def failed (name error : String) : Item :=
  ⟨name, .failed, none, some error, none⟩

/-- An object that was left alone. -/
def skipped (name note : String) : Item :=
  ⟨name, .skipped, none, none, some note⟩

/-- Whether the object did not fail. -/
def isOk (item : Item) : Bool :=
  item.outcome != .failed

end Item

/-- The items of one kind of objects, in the order in which they were dealt with. -/
structure Report where
  kind : ObjectKind
  items : List Item
  deriving DecidableEq, Repr

namespace Report

/-- How many items have an outcome. -/
def count (report : Report) (outcome : Outcome) : Nat :=
  report.items.countP fun item => item.outcome == outcome

/-- How many objects the source asked for; skipped ones do not count. -/
def declared (report : Report) : Nat :=
  report.items.length - report.count .skipped

/-- How many objects were created. -/
def created (report : Report) : Nat :=
  report.count .created

/-- How many objects were there before. -/
def existing (report : Report) : Nat :=
  report.count .existing

/-- How many objects failed. -/
def failed (report : Report) : Nat :=
  report.count .failed

/-- The items of another report added at the end. -/
def append (report other : Report) : Report :=
  ⟨report.kind, report.items ++ other.items⟩

end Report

/-- The plural of a kind of objects, with an underscore between words. -/
def ObjectKind.plural : ObjectKind → String
  | .optionSet => "option_sets"
  | .table => "tables"
  | .relationship => "relationships"

/-- The kind of a plural. -/
def ObjectKind.ofPlural? (word : String) : Option ObjectKind :=
  [ObjectKind.optionSet, .table, .relationship].find? fun kind => kind.plural = word

/-- The plural of a kind of objects as it begins a sentence. -/
def ObjectKind.title : ObjectKind → String
  | .optionSet => "Option sets"
  | .table => "Tables"
  | .relationship => "Relationships"

/-- The identifiers of objects by name, kind by kind. -/
structure Registry where
  optionSets : OrderedMap String
  tables : OrderedMap String
  relationships : OrderedMap String
  deriving DecidableEq

namespace Registry

/-- No objects. -/
def empty : Registry :=
  ⟨.empty, .empty, .empty⟩

/-- All objects of both; where both know a name, the other has the word. -/
def append (registry other : Registry) : Registry :=
  ⟨registry.optionSets.insertAll other.optionSets.entries,
    registry.tables.insertAll other.tables.entries,
    registry.relationships.insertAll other.relationships.entries⟩

/-- The identifiers that items know, the last of a name having the word. -/
def identifiersOf (items : List Item) : OrderedMap String :=
  .ofList (items.filterMap fun item => item.identifier.map fun id => (item.name, id))

/-- The registry of the items of one kind. -/
def ofItems (kind : ObjectKind) (items : List Item) : Registry :=
  match kind with
  | .optionSet => { empty with optionSets := identifiersOf items }
  | .table => { empty with tables := identifiersOf items }
  | .relationship => { empty with relationships := identifiersOf items }

end Registry

/-- What one stage of a run adds. -/
structure StageResult where
  report : Report
  registry : Registry
  deriving DecidableEq

/-- The result of a stage that dealt with some items. -/
def StageResult.ofItems (kind : ObjectKind) (items : List Item) : StageResult :=
  ⟨⟨kind, items⟩, .ofItems kind items⟩

/-- The summary of a run. -/
structure Summary where
  optionSets : Report
  tables : Report
  relationships : Report
  registry : Registry
  diagnostics : List Diagnostic
  dryRun : Bool
  deriving DecidableEq

namespace Summary

/-- The summary of a run that has done nothing yet. -/
def start (diagnostics : List Diagnostic) (dryRun : Bool) : Summary :=
  ⟨⟨.optionSet, []⟩, ⟨.table, []⟩, ⟨.relationship, []⟩, .empty, diagnostics, dryRun⟩

/-- The three reports in the order of the stages. -/
def reports (summary : Summary) : List Report :=
  [summary.optionSets, summary.tables, summary.relationships]

/-- Whether nothing failed. -/
def isSuccess (summary : Summary) : Bool :=
  summary.reports.all fun report => report.failed == 0

/-- How many objects were created in all. -/
def created (summary : Summary) : Nat :=
  summary.optionSets.created + summary.tables.created + summary.relationships.created

/-- Add the result of a stage. -/
def withStage (summary : Summary) (stage : StageResult) : Summary :=
  let registry := summary.registry.append stage.registry
  match stage.report.kind with
  | .optionSet =>
    { summary with optionSets := summary.optionSets.append stage.report, registry := registry }
  | .table =>
    { summary with tables := summary.tables.append stage.report, registry := registry }
  | .relationship =>
    { summary with
      relationships := summary.relationships.append stage.report, registry := registry }

/-- The lines about one kind of objects: the counts, and each failure. -/
def reportLines (report : Report) : List String :=
  (s!"{report.kind.title}: {report.declared} declared, {report.created} created, " ++
      s!"{report.existing} existing, {report.failed} failed") ::
    (report.items.filter fun item => !item.isOk).map fun item =>
      "  - " ++ item.name ++ ": " ++ item.error.getD "None"

/-- The summary as a text. -/
def format (summary : Summary) : String :=
  String.intercalate "\n" (summary.reports.flatMap reportLines)

end Summary

end ErdDeploy
