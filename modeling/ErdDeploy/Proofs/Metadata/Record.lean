import ErdDeploy.Metadata.Body
import ErdDeploy.Metadata.Record
import ErdDeploy.Proofs.Data.OrderedMap

/-!
Payloads written as plain data and read back.

A check of a record asks for members by their names. So each part of a payload is read back
from every record that holds the members it is written as (`Check.Holds`), whatever else
the record holds: the head of an attribute (`AttributeHead.ofMembers_of_holds`), and what is
particular to its kind, under the word of this kind (`AttributeKind.ofWord?_word`). A record
that holds no name twice holds all of its own members, and then whole attributes and
payloads are read back from what they are written as (`Payload.data_read_back`).
-/

namespace ErdDeploy

/-! ## Checks that pass -/

namespace Checked

variable {α β : Type} (f : α → β) (x : α)

@[simp] theorem map_valid : f <$> Checked.valid x = .valid (f x) :=
  rfl

@[simp] theorem seq_valid : Checked.valid f <*> Checked.valid x = .valid (f x) :=
  rfl

@[simp] theorem under_valid (place : String) : (Checked.valid x).under place = .valid x :=
  rfl

end Checked

namespace Check

variable {α : Type} {members own more : Members} {name : String} {value : Value} {x absent : α}
  {check : Value → Checked α}

/-- Each of some members is found by its name. -/
def Holds (members own : Members) : Prop :=
  ∀ member ∈ own, members.lookup member.1 = some member.2

theorem Holds.left (holds : Holds members (own ++ more)) : Holds members own :=
  fun member among => holds member (List.mem_append_left _ among)

theorem Holds.right (holds : Holds members (own ++ more)) : Holds members more :=
  fun member among => holds member (List.mem_append_right _ among)

theorem holds_cons : Holds members ((name, value) :: more) ↔
    members.lookup name = some value ∧ Holds members more :=
  List.forall_mem_cons

/-- Members of distinct names are all found. -/
theorem holds_self (distinct : (members.map Prod.fst).Nodup) : Holds members members := by
  intro member among
  let map : OrderedMap Value := ⟨members, distinct⟩
  have found : map.get? member.1 = some member.2 := OrderedMap.get?_eq_some_iff.mpr among
  exact found

theorem required_of_lookup (found : members.lookup name = some value)
    (passes : check value = .valid x) : required members name check = .valid x := by
  rw [required, found]
  simp only [passes, Checked.under_valid]

theorem allowed_of_lookup (found : members.lookup name = some value)
    (passes : check value = .valid x) : allowed members name absent check = .valid x := by
  rw [allowed, found]
  simp only [passes, Checked.under_valid]

theorem text_text (s : String) : text (.text s) = .valid s :=
  rfl

theorem integer_int (n : Int) : integer (.int n) = .valid n :=
  rfl

theorem boolean_bool (b : Bool) : boolean (.bool b) = .valid b :=
  rfl

/-- A list is read back if each of its items is. -/
theorem list_map {write : α → Value} (reads : ∀ x, check (write x) = .valid x) (xs : List α) :
    list check (.list (xs.map write)) = .valid xs := by
  have items : ∀ position, items check position (xs.map write) = .valid xs := by
    induction xs with
    | nil => exact fun _ => rfl
    | cons x xs ih =>
        intro position
        rw [List.map_cons, Check.items, reads, ih]
        rfl
  exact items 0

/-- A record that names a known variant is read by the check of this variant. -/
theorem ofVariant_of_lookup {ofWord? : String → Option (Members → Checked α)} {word : String}
    {check : Members → Checked α} (named : members.lookup "kind" = some (.text word))
    (known : ofWord? word = some check) (passes : check members = .valid x) :
    ofVariant ofWord? (.record members) = .valid x := by
  rw [ofVariant, named]
  simp only [known, passes, Checked.under_valid]

end Check

open Check

/-! ## Attributes -/

section

variable {members : Members}

theorem AttributeHead.ofMembers_of_holds {head : AttributeHead}
    (holds : Holds members head.members) : ofMembers members = .valid head := by
  simp only [AttributeHead.members, holds_cons] at holds
  obtain ⟨schemaName, displayName, isRequired, languageCode, -⟩ := holds
  rw [ofMembers, required_of_lookup schemaName (text_text _),
    required_of_lookup displayName (text_text _), allowed_of_lookup isRequired (boolean_bool _),
    allowed_of_lookup languageCode (integer_int _)]
  rfl

/-- The word of a kind is known, and its check reads back what is particular to the kind. -/
theorem AttributeKind.ofWord?_word (kind : AttributeKind) :
    ∃ check, ofWord? kind.word = some check ∧
      ∀ members, Holds members kind.members → check members = .valid kind := by
  cases kind with
  | string maxLength isPrimaryName =>
      refine ⟨_, rfl, fun members holds => ?_⟩
      simp only [AttributeKind.members, holds_cons] at holds
      rw [allowed_of_lookup holds.1 (integer_int _), allowed_of_lookup holds.2.1 (boolean_bool _)]
      rfl
  | memo maxLength =>
      refine ⟨_, rfl, fun members holds => ?_⟩
      rw [allowed_of_lookup (holds_cons.mp holds).1 (integer_int _)]
      rfl
  | integer => exact ⟨_, rfl, fun _ _ => rfl⟩
  | decimal precision =>
      refine ⟨_, rfl, fun members holds => ?_⟩
      rw [allowed_of_lookup (holds_cons.mp holds).1 (integer_int _)]
      rfl
  | money precision =>
      refine ⟨_, rfl, fun members holds => ?_⟩
      rw [allowed_of_lookup (holds_cons.mp holds).1 (integer_int _)]
      rfl
  | boolean => exact ⟨_, rfl, fun _ _ => rfl⟩
  | dateTime dateOnly =>
      refine ⟨_, rfl, fun members holds => ?_⟩
      rw [allowed_of_lookup (holds_cons.mp holds).1 (boolean_bool _)]
      rfl
  | picklist optionSetId =>
      refine ⟨_, rfl, fun members holds => ?_⟩
      rw [required_of_lookup (holds_cons.mp holds).1 (text_text _)]
      rfl
  | lookup => exact ⟨_, rfl, fun _ _ => rfl⟩

end

/-- No attribute is written with a name twice. -/
theorem Attribute.nodup_names (a : Attribute) :
    ((a.toAttributeHead.members ++ ("kind", .text a.kind.word) :: a.kind.members).map
      Prod.fst).Nodup := by
  obtain ⟨head, kind⟩ := a
  cases kind <;> simp [AttributeHead.members, AttributeKind.members]

theorem Attribute.ofValue_toValue (a : Attribute) : ofValue a.toValue = .valid a := by
  have holds := holds_self a.nodup_names
  obtain ⟨named, own⟩ := holds_cons.mp holds.right
  obtain ⟨check, known, reads⟩ := a.kind.ofWord?_word
  have variant : ofWord? a.kind.word = some fun members =>
      Attribute.mk <$> AttributeHead.ofMembers members <*> check members := by
    rw [Attribute.ofWord?, known]
    rfl
  refine ofVariant_of_lookup named variant ?_
  rw [AttributeHead.ofMembers_of_holds holds.left, reads _ own]
  rfl

/-- The lookup of a relationship is read back, by its one word. -/
theorem AttributeHead.ofValue_toValue (head : AttributeHead) :
    AttributeHead.ofValue head.toValue = .valid head := by
  have distinct : ((head.members ++ [("kind", Value.text "lookup")]).map Prod.fst).Nodup := by
    simp [AttributeHead.members]
  have holds := holds_self distinct
  have word : literal (head.members ++ [("kind", Value.text "lookup")]) "kind" "lookup" =
      .valid () :=
    allowed_of_lookup (holds_cons.mp holds.right).1 rfl
  rw [AttributeHead.ofValue, AttributeHead.toValue, record, ofMembers_of_holds holds.left, word]
  rfl

theorem OptionValue.ofValue_toValue (option : OptionValue) :
    OptionValue.ofValue option.toValue = .valid option :=
  rfl

/-! ## Payloads -/

namespace Payload

/-- **Payloads as plain data.** Every payload that is written as plain data is read back as the same
payload, each attribute as the same variant with the same facts, and so its body is the same. -/
theorem data_read_back (p : Payload) : ofValue p.toValue = .valid p ∧
    (ofValue p.toValue).map Body.ofPayload = .valid (Body.ofPayload p) := by
  have reads : ofValue p.toValue = .valid p := by
    cases p with
    | optionSet p =>
        refine ofVariant_of_lookup rfl rfl ?_
        rw [optionSetOf, allowed_of_lookup rfl (list_map OptionValue.ofValue_toValue p.options)]
        rfl
    | table p =>
        refine ofVariant_of_lookup rfl rfl ?_
        rw [tableOf, allowed_of_lookup rfl (list_map Attribute.ofValue_toValue p.attributes)]
        rfl
    | relationship p =>
        refine ofVariant_of_lookup rfl rfl ?_
        rw [relationshipOf, required_of_lookup rfl p.lookup.ofValue_toValue]
        rfl
  refine ⟨reads, ?_⟩
  rw [reads, Checked.map]

end Payload

end ErdDeploy
