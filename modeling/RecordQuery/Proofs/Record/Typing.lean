import RecordQuery.Proofs.Schema.Lineage
import RecordQuery.Proofs.Value.Typing
import RecordQuery.Store.Basic

/-! # Types of records

A record is typed if each of its fields holds what the declaration found for it asks for, and so do
the records that it leads to. Records that are read from JSON are typed and of the type asked
for. -/

namespace RecordQuery

open Fallible

mutual

/-- Each field holds what the declaration that the type of the record finds for it asks for. -/
inductive Record.Typed (schema : Schema) : Record → Prop where
  | intro {record : Record}
      (fields : ∀ name datum owner field, (name, datum) ∈ record.fields →
        schema.findField? record.entity name = some (owner, field) →
          Datum.Typed schema field.kind datum) :
      Record.Typed schema record

/-- A field of a kind may hold this. -/
inductive Datum.Typed (schema : Schema) : FieldKind → Datum → Prop where
  | value {type : ValueType} {held : Value} (typed : held.HasType type) :
      Datum.Typed schema (.scalar type) (.value held)
  | embedded {type : String} {record : Record}
      (assignable : schema.isAssignable type record.entity = true)
      (typed : Record.Typed schema record) : Datum.Typed schema (.embedded type) (.embedded record)
  | missing {target : String} : Datum.Typed schema (.relation target .one) (.one none)
  | one {target : String} {record : Record}
      (assignable : schema.isAssignable target record.entity = true)
      (typed : Record.Typed schema record) :
      Datum.Typed schema (.relation target .one) (.one (some record))
  | many {target : String} {records : List Record}
      (assignable : ∀ record ∈ records, schema.isAssignable target record.entity = true)
      (typed : ∀ record ∈ records, Record.Typed schema record) :
      Datum.Typed schema (.relation target .many) (.many records)

end

namespace Record

variable {schema : Schema}

/-- A field that is found is among the fields. -/
theorem mem_of_lookup? {name : String} {fields : List (String × Datum)} {datum : Datum}
    (found : lookup? name fields = some datum) : (name, datum) ∈ fields := by
  induction fields with
  | nil => cases found
  | cons first rest ih =>
    obtain ⟨key, held⟩ := first
    rw [lookup?] at found
    split at found
    · rename_i same
      cases found
      rw [same]
      exact List.mem_cons_self
    · exact List.mem_cons_of_mem _ (ih found)

/-- What a typed record holds under the name of a declared field is what the field asks for. -/
theorem Typed.datum (valid : schema.Valid) (once : schema.DeclaresOnce) {record : Record}
    (typed : record.Typed schema) {owner : String} {field : Field}
    (assignable : schema.isAssignable owner record.entity = true)
    (declares : schema.Declares owner field) {datum : Datum}
    (held : record.get? field.name = some datum) : datum.Typed schema field.kind := by
  cases typed with
  | intro fields =>
    exact fields field.name datum owner field (mem_of_lookup? held)
      (Schema.findField?_of_declares valid once assignable declares)

/-- The type that an object names is assignable to the one asked for. -/
theorem isAssignable_of_typeOfMembers {entity concrete : String} {members : List (String × Json)}
    (found : typeOfMembers schema entity members = .ok concrete) :
    schema.isAssignable entity concrete = true := by
  unfold typeOfMembers at found
  split at found
  · cases found
    exact schema.isAssignable_self entity
  · split at found
    · rename_i assignable
      cases found
      exact assignable
    · cases found
  · cases found

mutual

/-- A record that is read is typed, and its type is the one asked for or below it. -/
theorem typed_of_ofJson : ∀ {json : Json} {entity : String} {record : Record},
    ofJson schema entity json = .ok record →
      schema.isAssignable entity record.entity = true ∧ record.Typed schema
  | .object members, entity, record, read => by
    rw [ofJson] at read
    obtain ⟨concrete, known, read⟩ := bind_eq_ok_iff.mp read
    obtain ⟨_, _, read⟩ := bind_eq_ok_iff.mp read
    obtain ⟨fields, each, read⟩ := bind_eq_ok_iff.mp read
    cases read
    exact ⟨isAssignable_of_typeOfMembers known, .intro fun _ _ _ _ member declared =>
      typed_of_fieldsOfJson each member declared⟩
  | .null, _, _, read | .bool _, _, _, read | .integer _, _, _, read | .float _, _, _, read
  | .string _, _, _, read | .array _, _, _, read => by
    rw [ofJson] at read
    · cases read
    · simp

/-- Each field that is read holds what its declaration asks for. -/
theorem typed_of_fieldsOfJson : ∀ {members : List (String × Json)} {entity : String}
    {fields : List (String × Datum)}, fieldsOfJson schema entity members = .ok fields →
      ∀ {name datum owner field}, (name, datum) ∈ fields →
        schema.findField? entity name = some (owner, field) → Datum.Typed schema field.kind datum
  | [], _, _, read, _, _, _, _, member, _ => by
    rw [fieldsOfJson] at read
    cases read
    cases member
  | (key, json) :: rest, entity, fields, read, name, datum, owner, field, member, declared => by
    rw [fieldsOfJson] at read
    split at read
    · exact typed_of_fieldsOfJson read member declared
    split at read
    · cases read
    rename_i found
    obtain ⟨result, held, read⟩ := bind_eq_ok_iff.mp read
    cases result with
    | none => exact typed_of_fieldsOfJson read member declared
    | some first =>
      obtain ⟨others, later, read⟩ := bind_eq_ok_iff.mp read
      cases read
      rcases List.mem_cons.mp member with same | inRest
      · cases same
        cases found.symm.trans declared
        exact typed_of_datumOfJson held
      · exact typed_of_fieldsOfJson later inRest declared

/-- What is read for a field is of the kind of the field. -/
theorem typed_of_datumOfJson : ∀ {json : Json} {kind : FieldKind} {entity key : String}
    {datum : Datum}, datumOfJson schema entity key kind json = .ok (some datum) →
      datum.Typed schema kind := by
  intro json kind entity key datum read
  unfold datumOfJson at read
  split at read
  · obtain ⟨value, _, read⟩ := bind_eq_ok_iff.mp read
    obtain ⟨result, converted, read⟩ := bind_eq_ok_iff.mp read
    cases read
    exact .value (Value.hasType_of_convertNative converted)
  · cases read
  · obtain ⟨record, found, read⟩ := bind_eq_ok_iff.mp read
    cases read
    obtain ⟨assignable, typed⟩ := typed_of_ofJson found
    exact .embedded assignable typed
  · cases read
    exact .missing
  · obtain ⟨record, found, read⟩ := bind_eq_ok_iff.mp read
    cases read
    obtain ⟨assignable, typed⟩ := typed_of_ofJson found
    exact .one assignable typed
  · cases read
    exact .many (by simp) (by simp)
  · obtain ⟨records, found, read⟩ := bind_eq_ok_iff.mp read
    cases read
    have each := typed_of_listOfJson found
    exact .many (fun record member => (each record member).1) fun record member =>
      (each record member).2
  · cases read

/-- The records of a list are typed and of the type asked for. -/
theorem typed_of_listOfJson : ∀ {items : List Json} {entity : String} {records : List Record},
    listOfJson schema entity items = .ok records →
      ∀ record ∈ records,
        schema.isAssignable entity record.entity = true ∧ record.Typed schema
  | [], _, _, read => by
    rw [listOfJson] at read
    cases read
    simp
  | json :: rest, entity, records, read => by
    rw [listOfJson] at read
    obtain ⟨first, found, read⟩ := bind_eq_ok_iff.mp read
    obtain ⟨others, later, read⟩ := bind_eq_ok_iff.mp read
    cases read
    exact List.forall_mem_cons.mpr ⟨typed_of_ofJson found, typed_of_listOfJson later⟩

end

end Record

end RecordQuery
