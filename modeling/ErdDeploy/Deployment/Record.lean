import ErdDeploy.Data.Check
import ErdDeploy.Deployment.Report

/-!
Results of stages as plain data.
-/

namespace ErdDeploy

open Check

/-- An item from plain data. -/
def Item.ofValue : Value → Checked Item :=
  record fun members =>
    Item.mk <$> required members "name" text
      <*> required members "outcome" (member Outcome.ofWord?)
      <*> allowed members "identifier" none (nullable text)
      <*> allowed members "error" none (nullable text)
      <*> allowed members "note" none (nullable text)

/-- A report from plain data. -/
def Report.ofValue : Value → Checked Report :=
  record fun members =>
    Report.mk <$> required members "category" (member ObjectKind.ofPlural?)
      <*> allowed members "items" [] (tuple Item.ofValue)

/-- A registry from plain data. -/
def Registry.ofValue : Value → Checked Registry :=
  record fun members =>
    Registry.mk <$> allowed members "option_sets" .empty (mapping text)
      <*> allowed members "tables" .empty (mapping text)
      <*> allowed members "relationships" .empty (mapping text)

/-- The result of a stage from plain data. -/
def StageResult.ofValue : Value → Checked StageResult :=
  record fun members =>
    StageResult.mk <$> required members "report" Report.ofValue
      <*> allowed members "registry" .empty Registry.ofValue

end ErdDeploy
