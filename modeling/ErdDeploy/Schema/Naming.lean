import ErdDeploy.Text.Blank
import ErdDeploy.Text.Letter

/-!
Names of remote objects, derived from the names that a source declares.

Every name carries the namespace of the run in front. A table whose name begins with the
reserved marker exists already: it keeps its own name, without marker and namespace. All names
but those of relationships are in lower case.
-/

namespace ErdDeploy

/-- The namespace and the marker of reserved tables. -/
structure NamingRules where
  nameSpace : String := "new_"
  reservedMarker : String := "existing_"
  deriving DecidableEq, Repr

namespace NamingRules

/-- Whether a table exists already. With an empty marker no table does. -/
def isReserved (rules : NamingRules) (table : String) : Bool :=
  rules.reservedMarker != "" && Text.startsWith table.toList rules.reservedMarker.toList

/-- A name with the namespace in front, in lower case. -/
def qualified (rules : NamingRules) (name : String) : String :=
  Text.lowerString (rules.nameSpace ++ name)

/-- The name of a reserved table without its marker, in lower case. -/
def unmarked (rules : NamingRules) (table : String) : String :=
  String.ofList (Text.lower (table.toList.drop rules.reservedMarker.length))

/-- The remote name of a table. -/
def tableName (rules : NamingRules) (table : String) : String :=
  if rules.isReserved table then rules.unmarked table else rules.qualified table

/-- The name of the key column that the remote gives to a table. -/
def keyName (rules : NamingRules) (table : String) : String :=
  rules.tableName table ++ "id"

/-- The remote name of a column. -/
def columnName (rules : NamingRules) (field : String) : String :=
  rules.qualified field

/-- The remote name of the option set of an enum. -/
def optionSetName (rules : NamingRules) (enum : String) : String :=
  rules.qualified enum

/-- The name of the relationship between two tables. The case of both names is kept. -/
def relationshipName (rules : NamingRules) (fromTable toTable : String) : String :=
  rules.nameSpace ++ fromTable ++ "_" ++ toTable

/-- The name of the relationship between a table and the users of the platform. -/
def userRelationshipName (rules : NamingRules) (table field : String) : String :=
  rules.nameSpace ++ table ++ "_" ++ field ++ "_systemuser"

end NamingRules

end ErdDeploy
