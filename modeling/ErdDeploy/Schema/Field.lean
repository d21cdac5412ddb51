import ErdDeploy.Schema.ColumnType

/-!
Enums, and fields of a table.

An enum is a name with values in order. A field is of exactly one kind. The facts that make sense
for one kind only are part of that kind: an enum field has the name of its enum, and only a lookup
can point at a table.
-/

namespace ErdDeploy

/-- A named set of values in order. -/
structure Enumeration where
  name : String
  values : List String
  deriving DecidableEq, Repr

/-- What a field is. -/
inductive FieldKind
  | primaryKey
  /-- A choice among the values of an enum. -/
  | enum (name : String)
  /-- A reference to a row of another table, once it is known which. -/
  | lookup (table : Option String)
  /-- A reference to a user of the platform. -/
  | userReference
  | scalar
  deriving DecidableEq, Repr

namespace FieldKind

/-- The word for a kind. -/
def word : FieldKind → String
  | .primaryKey => "primary_key"
  | .enum _ => "enum"
  | .lookup _ => "lookup"
  | .userReference => "user_reference"
  | .scalar => "scalar"

end FieldKind

/-- A field of a table. -/
structure Field where
  name : String
  typeToken : String
  kind : FieldKind
  isRequired : Bool
  columnType : Option ColumnType
  maxLength : Option Int
  enumValues : List String
  lookupField : Option String
  line : Int
  deriving DecidableEq, Repr

namespace Field

/-- A field of a kind, without further facts. -/
def plain (name typeToken : String) (kind : FieldKind) (isRequired : Bool) (line : Int) :
    Field :=
  ⟨name, typeToken, kind, isRequired, none, none, [], none, line⟩

/-- Whether the field is a key of its table. -/
def isPrimaryKey (f : Field) : Bool :=
  f.kind == .primaryKey

/-- The enum of the field. -/
def enumName (f : Field) : Option String :=
  match f.kind with
  | .enum name => some name
  | _ => none

/-- Whether the field is a choice among the values of an enum. -/
def isEnum (f : Field) : Bool :=
  f.enumName.isSome

/-- The table that the field points at. -/
def lookupTable (f : Field) : Option String :=
  match f.kind with
  | .lookup table => table
  | _ => none

/-- Whether the field points, or will point, at a row of another table. -/
def isLookup (f : Field) : Bool :=
  match f.kind with
  | .lookup _ => true
  | _ => false

/-- Whether the field points at a user of the platform. -/
def isUserReference (f : Field) : Bool :=
  f.kind == .userReference

/-- Whether a relationship creates the column of the field, and not the table. -/
def isDeferred (f : Field) : Bool :=
  f.isLookup || f.isUserReference

end Field

end ErdDeploy
