import ErdDeploy.Data.Check
import ErdDeploy.Schema.Naming

/-!
Settings of a run: how objects are named, from which code options count, and the language of
labels.
-/

namespace ErdDeploy

open Check

/-- The settings of a run. -/
structure SchemaSettings where
  nameSpace : String := "new_"
  reservedMarker : String := "existing_"
  /-- The code of the first option of an option set. -/
  optionValueBase : Int := 100000000
  /-- The language of all labels. -/
  languageCode : Int := 1033
  deriving DecidableEq, Repr

namespace SchemaSettings

/-- The naming rules of the settings. -/
def naming (settings : SchemaSettings) : NamingRules :=
  ⟨settings.nameSpace, settings.reservedMarker⟩

/-- A namespace may not be empty, and ends with an underscore, which is added if need be. -/
def nameSpaceOf (written : String) : Checked String :=
  if written = "" then .reject .ruleBroken
  else if written.toList.getLast? == some '_' then .valid written
  else .valid (written ++ "_")

/-- Settings from the members of a record; what is absent has its default. -/
def ofMembers (members : Members) : Checked SchemaSettings :=
  SchemaSettings.mk
    <$> allowed members "prefix" "new_" (fun value => (text value).andThen nameSpaceOf)
    <*> allowed members "reserved_marker" "existing_" text
    <*> allowed members "option_value_base" 100000000 integer
    <*> allowed members "language_code" 1033 integer

end SchemaSettings

end ErdDeploy
