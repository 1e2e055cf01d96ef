import Mathlib
import RecordQuery.Proofs.Record.Shape
import RecordQuery.Proofs.Record.Typing
import RecordQuery.Proofs.Value.ReadBack

/-! # Reading records back

A record is written without the types of its fields, and a field that leads nowhere is written like
one that is null. The schema gives back what is lost: a record that was read from JSON is read again
from what it is written as, with all that it leads to. -/

namespace RecordQuery

open Fallible

mutual

/-- The value occurs in the record or in one that it leads to. -/
inductive Record.Holds (value : Value) : Record → Prop where
  | intro {record : Record} {name : String} {datum : Datum} (member : (name, datum) ∈ record.fields)
      (holds : Datum.Holds value datum) : Record.Holds value record

/-- The value occurs in what a field holds. -/
inductive Datum.Holds (value : Value) : Datum → Prop where
  | value {held : Value} (occurs : value.Occurs held) : Datum.Holds value (.value held)
  | record {datum : Datum} {other : Record} (among : other ∈ datum.records)
      (holds : Record.Holds value other) : Datum.Holds value datum

end

section Occurrence

variable {p : Value → Prop}

/-- What holds of all values in a record holds of the values in each of its fields. -/
theorem Record.forall_holds_iff {record : Record} :
    (∀ value, record.Holds value → p value) ↔
      ∀ field ∈ record.fields, ∀ value, field.2.Holds value → p value := by
  constructor
  · intro each field member value holds
    exact each value (.intro member holds)
  · rintro each value ⟨member, holds⟩
    exact each _ member value holds

/-- What holds of all values in a field with a value holds of the value and the values in it. -/
theorem Datum.forall_holds_value_iff {held : Value} :
    (∀ value, (Datum.value held).Holds value → p value) ↔
      ∀ value : Value, value.Occurs held → p value := by
  constructor
  · intro each value occurs
    exact each value (.value occurs)
  · intro each value holds
    cases holds with
    | value occurs => exact each value occurs
    | record among => cases among

/-- Only the records that a field leads to are looked into if it holds no value. -/
theorem Datum.forall_holds_iff {datum : Datum} (noValue : ∀ held, datum ≠ .value held) :
    (∀ value, datum.Holds value → p value) ↔
      ∀ other ∈ datum.records, ∀ value, other.Holds value → p value := by
  constructor
  · intro each other among value holds
    exact each value (.record among holds)
  · intro each value holds
    cases holds with
    | value => exact absurd rfl (noValue _)
    | record among holds => exact each _ among value holds

end Occurrence

mutual

/-- Equality of records as data: of one type, with equal fields. -/
inductive Record.SameAs : Record → Record → Prop where
  | intro {entity : String} {xs ys : List (String × Datum)}
      (fields : List.Forall₂ Record.SameField xs ys) : Record.SameAs ⟨entity, xs⟩ ⟨entity, ys⟩

/-- The fields have one name and hold equal data. -/
inductive Record.SameField : String × Datum → String × Datum → Prop where
  | intro {name : String} {x y : Datum} (same : Datum.SameAs x y) :
      Record.SameField (name, x) (name, y)

/-- Equality of what fields hold. -/
inductive Datum.SameAs : Datum → Datum → Prop where
  | value {x y : Value} (same : x.sameAs y = true) : Datum.SameAs (.value x) (.value y)
  | embedded {x y : Record} (same : Record.SameAs x y) : Datum.SameAs (.embedded x) (.embedded y)
  | missing : Datum.SameAs (.one none) (.one none)
  | one {x y : Record} (same : Record.SameAs x y) : Datum.SameAs (.one (some x)) (.one (some y))
  | many {xs ys : List Record} (each : List.Forall₂ Record.SameAs xs ys) :
      Datum.SameAs (.many xs) (.many ys)

end

/-- The decimals that occur keep their sign and their places. -/
def Datum.KeepsDecimals (datum : Datum) : Prop :=
  ∀ d, datum.Holds (.decimal d) → Value.ReadsAsItself d

/-- What is read back is equal as data, and the same if the decimals are kept. -/
structure Datum.RestoredAs (datum again : Datum) : Prop where
  same : datum.SameAs again
  exact : datum.KeepsDecimals → again = datum

/-- The records that a typed field leads to are typed. -/
theorem Datum.Typed.of_mem_records {schema : Schema} {kind : FieldKind} {datum : Datum}
    (typed : datum.Typed schema kind) {other : Record} (among : other ∈ datum.records) :
    other.Typed schema := by
  cases typed with
  | value | missing => cases among
  | embedded _ typed | one _ typed =>
    cases List.mem_singleton.mp among
    exact typed
  | many _ typed => exact typed other among

namespace Record

variable {schema : Schema}

/-- The decimals that occur keep their sign and their places. -/
def KeepsDecimals (record : Record) : Prop :=
  ∀ d, record.Holds (.decimal d) → Value.ReadsAsItself d

/-- What is read back is equal as data, and the same if the decimals are kept. -/
structure RestoredAs (record again : Record) : Prop where
  same : record.SameAs again
  exact : record.KeepsDecimals → again = record

/-- The record is read from what it is written as, wherever a record of its type may stand. -/
def ReadsBack (schema : Schema) (record : Record) : Prop :=
  ∀ expected, schema.isAssignable expected record.entity = true →
    ∃ again, ofJson schema expected record.toJson = .ok again ∧ record.RestoredAs again

/-! ## What a field is written as -/

/-- Records of a relation that are read back one by one are read back as a list. -/
theorem exists_list_again {target : String} {records : List Record}
    (assignable : ∀ record ∈ records, schema.isAssignable target record.entity = true)
    (each : ∀ record ∈ records, record.ReadsBack schema) :
    ∃ again, listOfJson schema target (listToJson records) = .ok again ∧
      List.Forall₂ SameAs records again ∧
      ((∀ record ∈ records, record.KeepsDecimals) → again = records) := by
  induction records with
  | nil =>
    refine ⟨[], ?_, .nil, fun _ => rfl⟩
    rw [listToJson, listOfJson]
  | cons record rest ih =>
    obtain ⟨first, later⟩ := List.forall_mem_cons.mp each
    obtain ⟨assignableFirst, assignableRest⟩ := List.forall_mem_cons.mp assignable
    obtain ⟨again, read, restored⟩ := first target assignableFirst
    obtain ⟨others, readRest, sameRest, exactRest⟩ := ih assignableRest later
    refine ⟨again :: others, ?_, .cons restored.same sameRest, ?_⟩
    · rw [listToJson, listOfJson, read, readRest]
      rfl
    · intro keeps
      obtain ⟨keepsFirst, keepsRest⟩ := List.forall_mem_cons.mp keeps
      rw [restored.exact keepsFirst, exactRest keepsRest]

/-- No record is written as null. -/
theorem toJson_ne_null (record : Record) : record.toJson ≠ .null := by
  obtain ⟨entity, fields⟩ := record
  rw [toJson]
  exact Json.noConfusion

/-- What a field of a kind holds is read from what it is written as. -/
theorem exists_datum_again {entity key : String} {kind : FieldKind} {datum : Datum}
    (typed : datum.Typed schema kind)
    (restorable : ∀ value, datum.Holds value → value.Restorable)
    (each : ∀ other ∈ datum.records, other.ReadsBack schema) :
    ∃ again, datumOfJson schema entity key kind (datumToJson datum) = .ok (some again) ∧
      datum.RestoredAs again := by
  cases typed with
  | @value type held typed =>
    obtain ⟨again, found, restored⟩ :=
      Value.exists_again typed (Datum.forall_holds_value_iff.mp restorable)
    obtain ⟨written, read, converted⟩ := bind_eq_ok_iff.mp found
    refine ⟨.value again, ?_, .value restored.same, ?_⟩
    · simp only [datumToJson, datumOfJson, read, ok_bind, converted, pure_eq_ok]
    · intro keeps
      rw [restored.exact fun d occurs => keeps d (.value occurs)]
  | @embedded type record assignable typed =>
    obtain ⟨again, read, restored⟩ := each record List.mem_cons_self type assignable
    refine ⟨.embedded again, ?_, .embedded restored.same, ?_⟩
    · rw [datumToJson, datumOfJson, read]
      · rfl
      · exact record.toJson_ne_null
    · intro keeps
      rw [restored.exact fun d holds => keeps d (.record List.mem_cons_self holds)]
  | missing =>
    refine ⟨.one none, ?_, .missing, fun _ => rfl⟩
    rw [datumToJson, datumOfJson]
  | @one target record assignable typed =>
    obtain ⟨again, read, restored⟩ := each record List.mem_cons_self target assignable
    refine ⟨.one (some again), ?_, .one restored.same, ?_⟩
    · rw [datumToJson, datumOfJson, read]
      · rfl
      · exact record.toJson_ne_null
    · intro keeps
      rw [restored.exact fun d holds => keeps d (.record List.mem_cons_self holds)]
  | @many target records assignable typed =>
    obtain ⟨again, read, same, exactly⟩ := exists_list_again assignable each
    refine ⟨.many again, ?_, .many same, ?_⟩
    · rw [datumToJson, datumOfJson, read]
      rfl
    · intro keeps
      rw [exactly fun record member d holds => keeps d (.record member holds)]

/-! ## What a record is written as -/

theorem fieldsToJson_eq_map (fields : List (String × Datum)) :
    fieldsToJson fields = fields.map fun field => (field.1, datumToJson field.2) := by
  induction fields with
  | nil => rfl
  | cons field rest ih =>
    rw [fieldsToJson, ih]
    rfl

/-- The member for the type is no field. -/
theorem fieldsOfJson_filter (schema : Schema) (entity : String) (members : List (String × Json)) :
    fieldsOfJson schema entity (members.filter (·.1 ≠ typeKey)) =
      fieldsOfJson schema entity members := by
  induction members with
  | nil => rfl
  | cons member rest ih =>
    obtain ⟨key, json⟩ := member
    by_cases isType : key = typeKey
    · rw [List.filter_cons_of_neg (by simpa using isType), ih, fieldsOfJson, if_pos isType]
    · rw [List.filter_cons_of_pos (by simpa using isType), fieldsOfJson, fieldsOfJson, ih]

/-- Fields that are read back one by one are read back together. -/
theorem exists_fields_again {entity : String} {fields : List (String × Datum)}
    (named : ∀ field ∈ fields, field.1 ≠ typeKey)
    (each : ∀ field ∈ fields, ∃ owner declaration again,
      schema.findField? entity field.1 = some (owner, declaration) ∧
        datumOfJson schema entity field.1 declaration.kind (datumToJson field.2) =
          .ok (some again) ∧ field.2.RestoredAs again) :
    ∃ again, fieldsOfJson schema entity (fieldsToJson fields) = .ok again ∧
      List.Forall₂ SameField fields again ∧
      ((∀ field ∈ fields, field.2.KeepsDecimals) → again = fields) := by
  induction fields with
  | nil =>
    refine ⟨[], ?_, .nil, fun _ => rfl⟩
    rw [fieldsToJson, fieldsOfJson]
  | cons field rest ih =>
    obtain ⟨name, datum⟩ := field
    obtain ⟨noType, namedRest⟩ := List.forall_mem_cons.mp named
    obtain ⟨first, later⟩ := List.forall_mem_cons.mp each
    obtain ⟨owner, declaration, again, found, read, restored⟩ := first
    obtain ⟨others, readRest, sameRest, exactRest⟩ := ih namedRest later
    refine ⟨(name, again) :: others, ?_, .cons (.intro restored.same) sameRest, ?_⟩
    · rw [fieldsToJson, fieldsOfJson, if_neg noType]
      simp only [found, read, readRest, ok_bind, pure_eq_ok]
    · intro keeps
      obtain ⟨keepsFirst, keepsRest⟩ := List.forall_mem_cons.mp keeps
      rw [restored.exact keepsFirst, exactRest keepsRest]

/-- The type of a record and its fields are found among the members that it is written with. -/
theorem ofJson_toJson_of_fields {expected entity : String} {fields again : List (String × Datum)}
    (assignable : schema.isAssignable expected entity = true)
    (registered : ∃ declaration, schema.entity entity = .ok declaration)
    (ascending : Ascending fields) (named : ∀ field ∈ fields, field.1 ≠ typeKey)
    (read : fieldsOfJson schema entity (fieldsToJson fields) = .ok again) :
    ofJson schema expected (toJson ⟨entity, fields⟩) = .ok ⟨entity, again⟩ := by
  have sorted : Ascending (fieldsToJson fields) := by
    rw [fieldsToJson_eq_map]
    exact List.pairwise_map.mpr ascending
  have fresh : ∀ member ∈ fieldsToJson fields, member.1 ≠ typeKey := by
    intro member found
    rw [fieldsToJson_eq_map] at found
    obtain ⟨field, among, rfl⟩ := List.mem_map.mp found
    exact named field among
  obtain ⟨declaration, registered⟩ := registered
  have typeFound : typeOfMembers schema expected
      (Json.sortMembers ((typeKey, .string entity) :: fieldsToJson fields)) = .ok entity := by
    rw [typeOfMembers, Json.member?_sortMembers_cons sorted fresh]
    exact if_pos assignable
  have fieldsFound : fieldsOfJson schema entity
      (Json.sortMembers ((typeKey, .string entity) :: fieldsToJson fields)) = .ok again := by
    rw [← fieldsOfJson_filter, Json.filter_sortMembers_cons sorted fresh, read]
  rw [toJson, ofJson, typeFound, ok_bind, registered, ok_bind, fieldsFound]
  rfl

/-- A record of the shape and the types that reading gives is read back, if what it holds can be. -/
theorem Shaped.readsBack {record : Record} (shaped : record.Shaped schema)
    (typed : record.Typed schema) (restorable : ∀ value, record.Holds value → value.Restorable) :
    record.ReadsBack schema := by
  induction shaped with
  | @intro entity fields registered ascending named declared inner ih =>
    intro expected assignable
    cases typed with
    | intro held =>
      have each : ∀ field ∈ fields, ∃ owner declaration again,
          schema.findField? entity field.1 = some (owner, declaration) ∧
            datumOfJson schema entity field.1 declaration.kind (datumToJson field.2) =
              .ok (some again) ∧ field.2.RestoredAs again := by
        intro field member
        obtain ⟨owner, declaration, found⟩ := declared field member
        have typedHere := held field.1 field.2 owner declaration member found
        have restorableHere : ∀ value, field.2.Holds value → value.Restorable :=
          Record.forall_holds_iff.mp restorable field member
        obtain ⟨again, read, restored⟩ := exists_datum_again typedHere restorableHere
          fun other among => ih field member other among (typedHere.of_mem_records among)
            fun value holds => restorableHere value (.record among holds)
        exact ⟨owner, declaration, again, found, read, restored⟩
      obtain ⟨again, read, same, exactly⟩ := exists_fields_again named each
      refine ⟨⟨entity, again⟩, ?_, .intro same, ?_⟩
      · exact ofJson_toJson_of_fields assignable registered ascending named read
      · intro keeps
        rw [exactly fun field member d holds => keeps d (.intro member holds)]

/-- A record that is read from JSON is read again from what it is written as, with equal data, if
the binary numbers in it are finite and the texts of its dates, times, instants and decimals are
read as what they stand for. It is the very same record if its decimals keep their sign and their
places. Objects that are read from a text have their members in order (`Json.ordered_of_ofText?`).
-/
theorem exists_ofJson_toJson {entity : String} {json : Json} {record : Record}
    (ordered : json.Ordered) (read : ofJson schema entity json = .ok record)
    (restorable : ∀ value, record.Holds value → value.Restorable) :
    ∃ again, ofJson schema entity record.toJson = .ok again ∧ record.SameAs again ∧
      (record.KeepsDecimals → again = record) := by
  obtain ⟨assignable, typed⟩ := typed_of_ofJson read
  have shaped := shaped_of_ofJson ordered read
  obtain ⟨again, readAgain, restored⟩ := shaped.readsBack typed restorable entity assignable
  exact ⟨again, readAgain, restored.same, restored.exact⟩

end Record

namespace Sample

/-- Owners with an address and their animals, some of which are patients. -/
def clinic : Schema where
  entities := [
    { name := "Address"
      fields := [{ name := "city", kind := .scalar .string },
        { name := "opens", kind := .scalar .time }] },
    { name := "Animal"
      fields := [{ name := "age", kind := .scalar .period },
        { name := "kind", kind := .scalar (.enumeration "Species" ["cat", "dog"]) }] },
    { name := "Patient"
      base := some "Animal"
      fields := [{ name := "born", kind := .scalar .date },
        { name := "weight", kind := .scalar .float }] },
    { name := "Owner"
      fields := [{ name := "address", kind := .embedded "Address" },
        { name := "bills", kind := .scalar (.list .decimal) },
        { name := "friend", kind := .relation "Owner" .one },
        { name := "pets", kind := .relation "Animal" .many }] }]
  names_nodup := by decide

/-- An address with a time of nine places. -/
def addressJson : Json :=
  .object [("city", .string "Rome"), ("opens", .string "08:30:00.000000005")]

/-- A patient, whose type is not the one of the relation. -/
def patientJson : Json :=
  .object [("$type", .string "Patient"), ("age", .string "P14M"), ("born", .string "2020-02-29"),
    ("kind", .string "cat"), ("weight", .float ⟨0x4012000000000000⟩)]

/-- An owner with animals of two types, and a friend of whom all is left out or null. -/
def ownerJson : Json :=
  .object [("address", addressJson), ("bills", .array [.string "-1.50", .null, .string "2.5"]),
    ("friend", .object [("address", .null), ("friend", .null), ("pets", .null)]),
    ("pets", .array [patientJson, .object [("kind", .string "dog")]])]

def address : Record :=
  ⟨"Address", [("city", .value (.string "Rome")),
    ("opens", .value (.time ⟨30600, 5, by decide, by decide⟩))]⟩

def patient : Record :=
  ⟨"Patient", [("age", .value (.period ⟨0, 14, 0⟩)),
    ("born", .value (.date ⟨2020, 2, 29, by decide, by decide, by decide, by decide, by decide,
      by decide⟩)),
    ("kind", .value (.enumMember ⟨"Species", "cat"⟩)),
    ("weight", .value (.float ⟨0x4012000000000000⟩))]⟩

/-- The owner that is read, with the address and the patient. -/
def owner : Record :=
  ⟨"Owner", [("address", .embedded address),
    ("bills", .value (.list [.decimal ⟨true, 150, 2, by decide, by decide⟩, .null,
      .decimal ⟨false, 25, 1, by decide, by decide⟩])),
    ("friend", .one (some ⟨"Owner", [("friend", .one none), ("pets", .many [])]⟩)),
    ("pets", .many [patient, ⟨"Animal", [("kind", .value (.enumMember ⟨"Species", "dog"⟩))]⟩])]⟩

theorem ownerJson_ordered : ownerJson.Ordered := by
  have same : ownerJson.sorted = ownerJson := by cbv
  exact same ▸ Json.ordered_sorted ownerJson

theorem ofJson_owner : Record.ofJson clinic "Owner" ownerJson = .ok owner := by cbv

/-- All values of the owner are read back from their texts. -/
theorem owner_restorable : ∀ value, owner.Holds value → value.Restorable := by
  simp only [owner, address, patient, Record.forall_holds_iff, Datum.forall_holds_iff,
    Datum.forall_holds_value_iff, Datum.records, Value.forall_occurs_list_iff,
    Value.forall_occurs_iff, List.forall_mem_cons, List.not_mem_nil, Value.Restorable, ne_eq,
    reduceCtorEq, not_false_eq_true, false_implies, implies_true, and_true, true_and]
  refine ⟨by cbv, ⟨⟨_, by cbv, by decide⟩, ⟨_, by cbv, by decide⟩⟩, by cbv, by decide⟩

end Sample

namespace Record

open Sample in
/-- The owner is read back with all that the owner leads to. -/
theorem exists_ofJson_toJson_owner :
    (ownerJson.Ordered ∧ ofJson clinic "Owner" ownerJson = .ok owner ∧
      ∀ value, owner.Holds value → value.Restorable) ∧
    ∃ again, ofJson clinic "Owner" owner.toJson = .ok again ∧ owner.SameAs again ∧
      (owner.KeepsDecimals → again = owner) :=
  ⟨⟨ownerJson_ordered, ofJson_owner, owner_restorable⟩,
    exists_ofJson_toJson ownerJson_ordered ofJson_owner owner_restorable⟩

end Record

end RecordQuery
