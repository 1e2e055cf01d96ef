import RecordQuery.Proofs.Fallible
import RecordQuery.Proofs.Json.Members
import RecordQuery.Record.Json

/-! # The shape of records that are read

A record that is read has a registered type. Its fields are declared, none has the name that stands
for the type, and they come in the order of their names. The same holds of the records that it leads
to, at every depth. -/

namespace RecordQuery

open Fallible

/-- The records that a field leads to, embedded ones with the others. -/
def Datum.records : Datum → List Record
  | .value _ => []
  | .embedded record => [record]
  | .one none => []
  | .one (some record) => [record]
  | .many records => records

namespace Record

variable {schema : Schema}

/-- The type of the record is registered, its fields are declared and sorted, and so it is for the
records that it leads to. -/
inductive Shaped (schema : Schema) : Record → Prop where
  | intro {entity : String} {fields : List (String × Datum)}
      (registered : ∃ declaration, schema.entity entity = .ok declaration)
      (ascending : Ascending fields)
      (named : ∀ field ∈ fields, field.1 ≠ typeKey)
      (declared : ∀ field ∈ fields, ∃ owner declaration,
        schema.findField? entity field.1 = some (owner, declaration))
      (inner : ∀ field ∈ fields, ∀ other ∈ field.2.records, Shaped schema other) :
      Shaped schema ⟨entity, fields⟩

/-- The fields that are read of the members of an object: some of them, each declared. -/
structure ReadFrom (schema : Schema) (entity : String) (members : List (String × Json))
    (fields : List (String × Datum)) : Prop where
  names : (fields.map (·.1)).Sublist (members.map (·.1))
  named : ∀ field ∈ fields, field.1 ≠ typeKey
  declared : ∀ field ∈ fields, ∃ owner declaration,
    schema.findField? entity field.1 = some (owner, declaration)
  inner : ∀ field ∈ fields, ∀ other ∈ field.2.records, Shaped schema other

/-- Fields that are read of ascending members are ascending. -/
theorem ReadFrom.ascending {entity : String} {members : List (String × Json)}
    {fields : List (String × Datum)} (readFrom : ReadFrom schema entity members fields)
    (ascending : Ascending members) : Ascending fields :=
  List.pairwise_map.mp ((List.pairwise_map.mpr ascending).sublist readFrom.names)

/-- Leaving a member out. -/
theorem ReadFrom.skip {entity : String} {members : List (String × Json)}
    {fields : List (String × Datum)} (readFrom : ReadFrom schema entity members fields)
    (member : String × Json) : ReadFrom schema entity (member :: members) fields :=
  { readFrom with names := readFrom.names.cons member.1 }

/-- Taking a member in as a declared field. -/
theorem ReadFrom.take {entity : String} {members : List (String × Json)}
    {fields : List (String × Datum)} (readFrom : ReadFrom schema entity members fields)
    {key : String} (noType : key ≠ typeKey) {owner : String} {declaration : Field}
    (found : schema.findField? entity key = some (owner, declaration)) {datum : Datum}
    (shaped : ∀ other ∈ datum.records, Shaped schema other) (json : Json) :
    ReadFrom schema entity ((key, json) :: members) ((key, datum) :: fields) where
  names := readFrom.names.cons_cons key
  named := List.forall_mem_cons.mpr ⟨noType, readFrom.named⟩
  declared := List.forall_mem_cons.mpr ⟨⟨owner, declaration, found⟩, readFrom.declared⟩
  inner := List.forall_mem_cons.mpr ⟨shaped, readFrom.inner⟩

mutual

/-- A record that is read from a tree in order has its shape. -/
theorem shaped_of_ofJson : ∀ {json : Json} {entity : String} {record : Record}, json.Ordered →
    ofJson schema entity json = .ok record → record.Shaped schema
  | .object members, entity, record, ordered, read => by
    cases ordered with
    | object ascending each =>
      rw [ofJson] at read
      obtain ⟨concrete, _, read⟩ := bind_eq_ok_iff.mp read
      obtain ⟨declaration, registered, read⟩ := bind_eq_ok_iff.mp read
      obtain ⟨fields, readFields, read⟩ := bind_eq_ok_iff.mp read
      cases read
      have readFrom := readFrom_of_fieldsOfJson each readFields
      exact .intro ⟨declaration, registered⟩ (readFrom.ascending ascending) readFrom.named
        readFrom.declared readFrom.inner
  | .null, _, _, _, read | .bool _, _, _, _, read | .integer _, _, _, _, read
  | .float _, _, _, _, read | .string _, _, _, _, read | .array _, _, _, _, read => by
    rw [ofJson] at read
    · cases read
    · simp

/-- The fields of a record are read of the members of its object. -/
theorem readFrom_of_fieldsOfJson : ∀ {members : List (String × Json)} {entity : String}
    {fields : List (String × Datum)}, (∀ member ∈ members, member.2.Ordered) →
      fieldsOfJson schema entity members = .ok fields → ReadFrom schema entity members fields
  | [], _, _, _, read => by
    rw [fieldsOfJson] at read
    cases read
    exact ⟨.slnil, by simp, by simp, by simp⟩
  | (key, json) :: rest, entity, fields, ordered, read => by
    obtain ⟨orderedFirst, orderedRest⟩ := List.forall_mem_cons.mp ordered
    rw [fieldsOfJson] at read
    split at read
    · exact (readFrom_of_fieldsOfJson orderedRest read).skip (key, json)
    rename_i noType
    split at read
    · cases read
    rename_i found
    obtain ⟨result, held, read⟩ := bind_eq_ok_iff.mp read
    cases result with
    | none => exact (readFrom_of_fieldsOfJson orderedRest read).skip (key, json)
    | some datum =>
      obtain ⟨others, later, read⟩ := bind_eq_ok_iff.mp read
      cases read
      exact (readFrom_of_fieldsOfJson orderedRest later).take noType found
        (shaped_of_datumOfJson orderedFirst held) json

/-- The records that a field leads to have their shape. -/
theorem shaped_of_datumOfJson : ∀ {json : Json} {kind : FieldKind} {entity key : String}
    {datum : Datum}, json.Ordered → datumOfJson schema entity key kind json = .ok (some datum) →
      ∀ other ∈ datum.records, Shaped schema other := by
  intro json kind entity key datum ordered read
  unfold datumOfJson at read
  split at read
  · obtain ⟨value, _, read⟩ := bind_eq_ok_iff.mp read
    obtain ⟨result, _, read⟩ := bind_eq_ok_iff.mp read
    cases read
    simp [Datum.records]
  · cases read
  · obtain ⟨record, found, read⟩ := bind_eq_ok_iff.mp read
    cases read
    exact List.forall_mem_singleton.mpr (shaped_of_ofJson ordered found)
  · cases read
    simp [Datum.records]
  · obtain ⟨record, found, read⟩ := bind_eq_ok_iff.mp read
    cases read
    exact List.forall_mem_singleton.mpr (shaped_of_ofJson ordered found)
  · cases read
    simp [Datum.records]
  · obtain ⟨records, found, read⟩ := bind_eq_ok_iff.mp read
    cases read
    cases ordered with
    | array each => exact shaped_of_listOfJson each found
  · cases read

/-- The records of a list have their shape. -/
theorem shaped_of_listOfJson : ∀ {items : List Json} {entity : String} {records : List Record},
    (∀ item ∈ items, item.Ordered) → listOfJson schema entity items = .ok records →
      ∀ record ∈ records, Shaped schema record
  | [], _, _, _, read => by
    rw [listOfJson] at read
    cases read
    simp
  | json :: rest, entity, records, ordered, read => by
    obtain ⟨orderedFirst, orderedRest⟩ := List.forall_mem_cons.mp ordered
    rw [listOfJson] at read
    obtain ⟨first, found, read⟩ := bind_eq_ok_iff.mp read
    obtain ⟨others, later, read⟩ := bind_eq_ok_iff.mp read
    cases read
    exact List.forall_mem_cons.mpr
      ⟨shaped_of_ofJson orderedFirst found, shaped_of_listOfJson orderedRest later⟩

end

end Record

end RecordQuery
