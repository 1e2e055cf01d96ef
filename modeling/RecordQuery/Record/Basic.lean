import RecordQuery.Value.Basic

/-! # Records

A record is an instance of an entity. Its fields hold values, embedded values or other records. -/

namespace RecordQuery

mutual

/-- An instance of an entity with its fields. -/
structure Record where
  entity : String
  fields : List (String × Datum)

/-- What a field holds. -/
inductive Datum where
  | value (value : Value)
  | embedded (record : Record)
  /-- A relation to one record, which may be missing. -/
  | one (target : Option Record)
  /-- A relation to any number of records. -/
  | many (targets : List Record)

end

/-- The entry of a list of named entries. -/
def Record.lookup? (name : String) : List (String × Datum) → Option Datum
  | [] => none
  | (key, datum) :: rest => if key = name then some datum else lookup? name rest

/-- The list with an entry put in the place of the one of its name, or at the end. -/
def Record.put (name : String) (datum : Datum) : List (String × Datum) → List (String × Datum)
  | [] => [(name, datum)]
  | (key, old) :: rest =>
    if key = name then (name, datum) :: rest else (key, old) :: put name datum rest

namespace Record

def get? (record : Record) (name : String) : Option Datum := lookup? name record.fields

/-- The record with a field set. -/
def set (record : Record) (name : String) (datum : Datum) : Record :=
  { record with fields := put name datum record.fields }

end Record

namespace Datum

/-- The value of a field that holds one. -/
def asValue? : Datum → Option Value
  | value v => some v
  | _ => none

/-- The records that a relation leads to. -/
def targets : Datum → List Record
  | one (some record) => [record]
  | many records => records
  | _ => []

end Datum

end RecordQuery
