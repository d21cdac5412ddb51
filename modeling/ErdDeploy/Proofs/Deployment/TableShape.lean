import ErdDeploy.Proofs.Data.Lists
import ErdDeploy.Proofs.Deployment.Columns
import ErdDeploy.Proofs.Schema.FieldKinds

/-!
The shape of the payload of a table.

A table of a model has a payload unless it has no key. Its attributes are then one that names the
rows, made from the first key, and behind it, in the order of the fields, one for each scalar and
for each choice whose option set is known (`TablePayload.Shaped`). Each of these shows its field
(`Field.ShownBy`), and none of them names the rows.

That the attribute of a scalar is of the kind of its column type, and that no text is shorter than
one character, takes a field whose facts fit its kind, as those of a model do
(`Model.table_payload_shape`).
-/

namespace ErdDeploy

/-! ## Lengths -/

theorem lengthOr_pos {default : Int} {declared : Option Int} (positive : 1 ≤ default)
    (natural : ∀ length, declared = some length → 0 ≤ length) : 1 ≤ lengthOr default declared := by
  unfold lengthOr
  cases declared with
  | none => exact positive
  | some length =>
      have natural := natural length rfl
      dsimp only
      split
      · exact positive
      · omega

theorem lengthOr_of_pos {default : Int} {declared : Option Int} {length : Int}
    (given : declared = some length) (positive : 0 < length) :
    lengthOr default declared = length := by
  rw [given, lengthOr, if_neg (by omega)]

/-! ## Attributes -/

/-- An attribute of a kind holds the values of a type of column. -/
inductive ColumnType.HeldBy : ColumnType → AttributeKind → Prop
  | identifier (length : Int) : HeldBy .identifier (.string length false)
  | string (length : Int) : HeldBy .string (.string length false)
  | memo (length : Int) : HeldBy .memo (.memo length)
  | integer : HeldBy .integer .integer
  | decimal (precision : Int) : HeldBy .decimal (.decimal precision)
  | money (precision : Int) : HeldBy .money (.money precision)
  | boolean : HeldBy .boolean .boolean
  | date : HeldBy .date (.dateTime true)
  | dateTime : HeldBy .dateTime (.dateTime false)

theorem AttributeKind.heldBy_ofColumnType (type : ColumnType) (maxLength : Option Int) :
    type.HeldBy (.ofColumnType (some type) maxLength) := by
  cases type <;> constructor

/-- If an attribute is a text, then it takes at least one character, and as many as its field
declares. -/
def Field.Measures (f : Field) (a : Attribute) : Prop :=
  ∀ length isPrimaryName, a.kind = .string length isPrimaryName →
    1 ≤ length ∧ ∀ declared, f.maxLength = some declared → 0 < declared → length = declared

/-- A field has an attribute of its own: it is a scalar, or a choice whose option set is known. -/
def Field.hasColumn (settings : SchemaSettings) (known : OrderedMap String) (f : Field) : Bool :=
  match f.kind with
  | .scalar => true
  | .enum name => known.contains (settings.naming.optionSetName name)
  | _ => false

/-- An attribute shows a field that has one. -/
structure Field.ShownBy (settings : SchemaSettings) (known : OrderedMap String) (f : Field)
    (a : Attribute) : Prop where
  schemaName : a.schemaName = settings.naming.columnName f.name
  displayName : a.displayName = f.name
  isRequired : a.isRequired = f.isRequired
  scalar : f.kind = .scalar → ∃ type, f.columnType = some type ∧ type.HeldBy a.kind
  choice : ∀ enum, f.kind = .enum enum → ∃ id,
    known.get? (settings.naming.optionSetName enum) = some id ∧ a.kind = .picklist id
  measured : f.Measures a
  unprimary : a.isPrimaryName = false

/-- The attribute that names the rows of a table shows its key. -/
structure Field.NamesRows (settings : SchemaSettings) (key : Field) (a : Attribute) : Prop where
  schemaName : a.schemaName = settings.naming.columnName key.name
  displayName : a.displayName = key.name
  isRequired : a.isRequired = true
  measured : key.Measures a
  primary : a.isPrimaryName = true

/-- The shape of the payload of a table with a key: the attribute that names the rows, and the
others. -/
structure TablePayload.Shaped (settings : SchemaSettings) (known : OrderedMap String) (t : Table)
    (payload : TablePayload) (key : Field) (display : Attribute) (others : List Attribute) :
    Prop where
  firstKey : t.fields.values.find? Field.isPrimaryKey = some key
  attributes : payload.attributes = display :: others
  onlyPrimary : payload.attributes.filter Attribute.isPrimaryName = [display]
  primaryName : payload.primaryName? = some display
  display : key.NamesRows settings display
  others : List.Forall₂ (Field.ShownBy settings known)
    (t.fields.values.filter (Field.hasColumn settings known)) others

/-! ## Made attributes -/

section

variable {settings : SchemaSettings} {known : OrderedMap String} {f : Field} {a : Attribute}

/-- A field outside the keys that no relationship stands for has a column of its own if it is
bound. -/
theorem Field.hasColumn_eq (f : Field) : f.hasColumn settings known =
    (f.isBound settings known && (!f.isPrimaryKey && !f.isDeferred)) := by
  unfold hasColumn isBound enumName isPrimaryKey isDeferred isLookup isUserReference
  cases f.kind <;> simp

/-- The attributes of some fields are those of the fields that are bound, in their order. -/
theorem forall₂_boundColumns {Shows : Field → Attribute → Prop} {fields : List Field}
    (shown : ∀ f ∈ fields, ∀ a, Attribute.ofField settings known f = .ok a → Shows f a) :
    List.Forall₂ Shows (fields.filter (Field.isBound settings known))
      ((boundColumns settings known fields).map Prod.snd) := by
  induction fields with
  | nil => exact .nil
  | cons f fields ih =>
      have later := ih fun f member => shown f (List.mem_cons_of_mem _ member)
      rcases made : Attribute.ofField settings known f with warning | a
      · have unbound : ¬ f.isBound settings known = true := by
          intro bound
          obtain ⟨a, same⟩ := Attribute.exists_ofField_iff.mpr bound
          cases made.symm.trans same
        rw [List.filter_cons_of_neg unbound, boundColumns_cons_error made]
        exact later
      · have bound := Attribute.exists_ofField_iff.mp ⟨a, made⟩
        rw [List.filter_cons_of_pos bound, boundColumns_cons_ok made, List.map_cons]
        exact .cons (shown f List.mem_cons_self a made) later

variable {enums : OrderedMap Enumeration} {tables : List String}

/-- The length of a field that holds a value is not negative. -/
theorem Field.FitsKind.natural (fits : f.FitsKind enums tables)
    (holds : f.isPrimaryKey = true ∨ f.kind = .scalar) :
    ∀ length, f.maxLength = some length → 0 ≤ length := by
  intro length given
  obtain ⟨⟨type, read, -⟩, -⟩ := fits.value holds
  rw [given] at read
  exact TypeToken.nonneg_of_read read

theorem Attribute.measures_ofKey (fits : f.FitsKind enums tables) (isKey : f.isPrimaryKey = true) :
    f.Measures (ofKey settings f) := by
  intro length isPrimaryName same
  cases same
  exact ⟨lengthOr_pos (by decide) (fits.natural (Or.inl isKey)), fun declared given positive =>
    lengthOr_of_pos given positive⟩

theorem Attribute.namesRows_ofKey (fits : f.FitsKind enums tables)
    (isKey : f.isPrimaryKey = true) : f.NamesRows settings (ofKey settings f) :=
  ⟨rfl, rfl, rfl, measures_ofKey fits isKey, rfl⟩

/-- A text is as long as its field declares, and never empty. -/
theorem Attribute.measures_ofColumnType (fits : f.FitsKind enums tables) (scalar : f.kind = .scalar)
    (same : a.kind = .ofColumnType f.columnType f.maxLength) : f.Measures a := by
  intro length isPrimaryName text
  rw [same] at text
  have natural := fits.natural (Or.inr scalar)
  -- Texts are made of identifiers, of strings, and of what has no type.
  unfold AttributeKind.ofColumnType at text
  split at text <;> cases text
  all_goals
    exact ⟨lengthOr_pos (by decide) natural, fun declared given positive =>
      lengthOr_of_pos given positive⟩

theorem ColumnType.HeldBy.unprimary {type : ColumnType} (held : type.HeldBy a.kind) :
    a.isPrimaryName = false := by
  unfold Attribute.isPrimaryName
  generalize a.kind = kind at held ⊢
  cases held <;> rfl

theorem Attribute.shownBy_of_scalar (fits : f.FitsKind enums tables) (scalar : f.kind = .scalar)
    (made : ofField settings known f = .ok a) : f.ShownBy settings known a := by
  have head := head_ofField made
  have unchosen : f.enumName = none := by rw [Field.enumName, scalar]
  have kind : a.kind = .ofColumnType f.columnType f.maxLength := by
    rw [ofField, unchosen] at made
    cases made
    rfl
  obtain ⟨⟨type, -, typed, -⟩, -⟩ := fits.value (Or.inr scalar)
  have held : type.HeldBy a.kind := by
    rw [kind, typed]
    exact AttributeKind.heldBy_ofColumnType type f.maxLength
  exact
    { schemaName := congrArg AttributeHead.schemaName head
      displayName := congrArg AttributeHead.displayName head
      isRequired := congrArg AttributeHead.isRequired head
      scalar := fun _ => ⟨type, typed, held⟩
      choice := fun enum chosen => by cases scalar.symm.trans chosen
      measured := measures_ofColumnType fits scalar kind
      unprimary := held.unprimary }

theorem Attribute.shownBy_of_choice {enum : String} (choice : f.kind = .enum enum)
    (made : ofField settings known f = .ok a) : f.ShownBy settings known a := by
  have head := head_ofField made
  have chosen : f.enumName = some enum := by rw [Field.enumName, choice]
  obtain ⟨id, found, kind⟩ : ∃ id, known.get? (settings.naming.optionSetName enum) = some id ∧
      a.kind = .picklist id := by
    simp only [ofField, chosen] at made
    split at made
    · next id found =>
      cases made
      exact ⟨id, found, rfl⟩
    · cases made
  exact
    { schemaName := congrArg AttributeHead.schemaName head
      displayName := congrArg AttributeHead.displayName head
      isRequired := congrArg AttributeHead.isRequired head
      scalar := fun scalar => by cases scalar.symm.trans choice
      choice := fun other same => by
        cases choice.symm.trans same
        exact ⟨id, found, kind⟩
      measured := fun length isPrimaryName text => by cases kind.symm.trans text
      unprimary := by rw [isPrimaryName, kind] }

/-- The attribute of a field shows it. -/
theorem Attribute.shownBy_ofField (fits : f.FitsKind enums tables)
    (free : f.isPrimaryKey = false ∧ f.isDeferred = false)
    (made : ofField settings known f = .ok a) : f.ShownBy settings known a := by
  obtain ⟨unkeyed, present⟩ := free
  cases kind : f.kind with
  | primaryKey => simp [Field.isPrimaryKey, kind] at unkeyed
  | enum name => exact shownBy_of_choice kind made
  | lookup table => simp [Field.isDeferred, Field.isLookup, kind] at present
  | userReference => simp [Field.isDeferred, Field.isUserReference, kind] at present
  | scalar => exact shownBy_of_scalar fits kind made

end

/-! ## Payloads -/

section

variable {settings : SchemaSettings} {known : OrderedMap String} {enums : OrderedMap Enumeration}
  {tables : List String} {t : Table} {key : Field}

/-- The fields that have columns of their own are those that are bound among the fields outside
the keys. -/
theorem Table.filter_attributeFields : t.attributeFields.filter (Field.isBound settings known) =
    t.fields.values.filter (Field.hasColumn settings known) := by
  rw [attributeFields, List.filter_filter]
  exact List.filter_congr fun f _ => (f.hasColumn_eq).symm

/-- A table whose fields have facts that fit their kinds has a payload of the given shape. -/
theorem Table.payload_shaped (fits : ∀ f ∈ t.fields.values, f.FitsKind enums tables)
    (first : t.fields.values.find? Field.isPrimaryKey = some key) :
    (t.payload settings known key).Shaped settings known t key (.ofKey settings key)
      ((boundColumns settings known t.attributeFields).map Prod.snd) := by
  have isKey := List.find?_some first
  have fitsKey := fits key (List.mem_of_find?_eq_some first)
  have shown : List.Forall₂ (Field.ShownBy settings known)
      (t.fields.values.filter (Field.hasColumn settings known))
      ((boundColumns settings known t.attributeFields).map Prod.snd) := by
    rw [← filter_attributeFields]
    refine forall₂_boundColumns fun f member a made => ?_
    obtain ⟨among, free⟩ := mem_attributeFields.mp member
    exact Attribute.shownBy_ofField (fits f among) free made
  have unprimary : ∀ a ∈ (boundColumns settings known t.attributeFields).map Prod.snd,
      ¬ a.isPrimaryName = true := by
    intro a member
    obtain ⟨f, -, shows⟩ := exists_left_of_forall₂ shown a member
    rw [shows.unprimary]
    exact Bool.false_ne_true
  have primary : (Attribute.ofKey settings key).isPrimaryName = true := rfl
  exact
    { firstKey := first
      attributes := rfl
      onlyPrimary := by
        rw [Table.payload, List.filter_cons_of_pos primary, List.filter_eq_nil_iff.mpr unprimary]
      primaryName := List.find?_cons_of_pos primary
      display := Attribute.namesRows_ofKey fitsKey isKey
      others := shown }

end

/-- **Shape of a table payload.** A table of a model has no payload exactly if it has no key. Its
payload consists of the attribute that names the rows, made from the first key, and of one for each
scalar and each choice with a known option set, in the order of the fields. -/
theorem Model.table_payload_shape {rules : NamingRules} {strict : Bool} {text : String} {m : Model}
    (read : ofText rules strict text = .ok m) {t : Table} (member : t ∈ m.tables.values)
    (settings : SchemaSettings) (known : OrderedMap String) :
    (∀ missing, TablePayload.ofTable settings known t = .error missing ↔
      missing = ⟨t.name⟩ ∧ ∀ f ∈ t.fields.values, f.isPrimaryKey = false) ∧
    ∀ payload warnings, TablePayload.ofTable settings known t = .ok (payload, warnings) →
      ∃ key display others, payload.Shaped settings known t key display others := by
  obtain ⟨table, found⟩ := OrderedMap.mem_values_iff.mp member
  have fits : ∀ f ∈ t.fields.values, f.FitsKind m.enums m.tables.names := by
    intro f among
    obtain ⟨name, stored⟩ := OrderedMap.mem_values_iff.mp among
    exact fitsKind_of_ofText read found name f stored
  rw [TablePayload.ofTable_eq]
  constructor
  · intro missing
    rw [← Table.displayField_eq_error_iff]
    cases t.displayField <;> simp [Except.map]
  · intro payload warnings planned
    rcases display : t.displayField with missing | key
    · rw [display] at planned
      cases planned
    · rw [display] at planned
      cases planned
      exact ⟨key, _, _, Table.payload_shaped fits (Table.displayField_eq_ok_iff.mp display)⟩

/-- A key with a length, texts of no and of some length, a date, a choice and a person. -/
def mixedFields : String :=
  "Enum S \x7b\nA\n\x7d\nTable T \x7b\nid GUID(8) [pk]\na varchar(0)\n" ++
    "b varchar(40) [not null]\nd Date\ns S\np Person\n\x7d"

theorem Model.table_payload_shape_of_mixed :
    ∃ m, ofText {} true mixedFields = .ok m ∧
      ∃ t ∈ m.tables.values, ∃ payload warnings,
        TablePayload.ofTable {} (.ofList [("new_s", "1")]) t = .ok (payload, warnings) ∧
        payload.attributes.map (fun a => a.schemaName) =
          ["new_id", "new_a", "new_b", "new_d", "new_s"] ∧
        ∃ key display others,
          payload.Shaped {} (.ofList [("new_s", "1")]) t key display others := by
  have planned : ((ofText {} true mixedFields).toOption.bind fun m =>
        m.tables.values.head?.map fun t =>
          (TablePayload.ofTable {} (.ofList [("new_s", "1")]) t).toOption.map fun made =>
            made.1.attributes.map fun a => a.schemaName) =
      some (some ["new_id", "new_a", "new_b", "new_d", "new_s"]) := by
    decide +kernel
  obtain ⟨m, read, planned⟩ := exists_of_toOption_bind planned
  obtain ⟨t, isFirst, made⟩ := Option.map_eq_some_iff.mp planned
  have member := List.mem_of_mem_head? isFirst
  obtain ⟨⟨payload, warnings⟩, shown, names⟩ := exists_of_toOption_map made
  exact ⟨m, read, t, member, payload, warnings, shown, names,
    (table_payload_shape read member {} (.ofList [("new_s", "1")])).2 payload warnings shown⟩

end ErdDeploy
