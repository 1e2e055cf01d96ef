import RecordQuery.Proofs.Fallible
import RecordQuery.Coercion

/-! # Types of values

Loaded data is converted to the type of its field: what comes out is null or a value of the type. -/

namespace RecordQuery.Value

open Fallible

/-- The value is null or of the type. The items of a list are null or of its item type, and the
member of an enumeration is one that the type declares. -/
inductive HasType : ValueType → Value → Prop where
  | null {type : ValueType} : HasType type null
  | boolean {value : Bool} : HasType .boolean (boolean value)
  | integer {value : Int64} : HasType .integer (integer value)
  | float {value : Binary64} : HasType .float (float value)
  | decimal {value : Decimal} : HasType .decimal (decimal value)
  | string {value : String} : HasType .string (string value)
  | date {value : Date} : HasType .date (date value)
  | dateTime {value : Instant} : HasType .dateTime (dateTime value)
  | time {value : TimeOfDay} : HasType .time (time value)
  | period {value : Period} : HasType .period (period value)
  | enumMember {name member : String} {members : List String} (declared : member ∈ members) :
      HasType (.enumeration name members) (enumMember { typeName := name, member })
  | list {item : ValueType} {items : List Value} (each : ∀ value ∈ items, HasType item value) :
      HasType (.list item) (list items)

/-- A member that is found is of the type of the enumeration. -/
theorem hasType_of_toMember {value : Value} {name : String} {members : List String}
    {result : EnumMember} (found : value.toMember (some (.enumeration name members)) = .ok result) :
    HasType (.enumeration name members) (enumMember result) := by
  have chosen : ∀ {member : String} {fault : Fault},
      (if members.contains member then pure { typeName := name, member } else .error fault) =
        Except.ok result → HasType (.enumeration name members) (enumMember result) := by
    intro member fault chosen
    split at chosen
    · rename_i declared
      cases chosen
      exact .enumMember (by simpa using declared)
    · cases chosen
  simp only [toMember, Option.map_some, ValueType.itemOrSelf] at found
  split at found
  · split at found
    · exact chosen found
    · cases found
  · exact chosen found
  · cases found

/-- Conversion to the target of a type other than a list gives a value of the type. -/
theorem hasType_of_convert {value result : Value} {type : ValueType} {directives : Directives}
    (single : type.isList = false)
    (converted : value.convert type.target (some type) directives = .ok result) :
    HasType type result := by
  cases type with
  | list item => cases single
  | enumeration name members =>
    obtain ⟨member, found, rfl⟩ := map_eq_ok_iff.mp converted
    exact hasType_of_toMember found
  | _ =>
    obtain ⟨_, _, rfl⟩ := map_eq_ok_iff.mp converted
    constructor

mutual

/-- Conversion of loaded data gives null or a value of the type. -/
theorem hasType_of_convertNative : ∀ {type : ValueType} {value result : Value},
    convertNative type value = .ok result → HasType type result
  | _, .null, _, converted => by
    rw [convertNative] at converted
    cases converted
    exact .null
  | .list item, .list items, _, converted => by
    rw [convertNative] at converted
    obtain ⟨found, each, rfl⟩ := map_eq_ok_iff.mp converted
    exact .list (hasType_of_convertNativeItems each)
  | type, value, result, converted => by
    unfold convertNative at converted
    split at converted
    · cases converted
      exact .null
    · obtain ⟨found, each, rfl⟩ := map_eq_ok_iff.mp converted
      exact .list (hasType_of_convertNativeItems each)
    · cases converted
    · refine hasType_of_convert ?_ converted
      cases type <;> simp_all [ValueType.isList]

/-- The items that are converted for a type have the type. -/
theorem hasType_of_convertNativeItems : ∀ {type : ValueType} {items results : List Value},
    convertNativeItems type items = .ok results → ∀ value ∈ results, HasType type value
  | _, [], _, converted => by
    cases converted
    simp
  | _, item :: rest, _, converted => by
    rw [convertNativeItems] at converted
    obtain ⟨first, found, converted⟩ := bind_eq_ok_iff.mp converted
    obtain ⟨others, later, converted⟩ := bind_eq_ok_iff.mp converted
    cases converted
    exact List.forall_mem_cons.mpr
      ⟨hasType_of_convertNative found, hasType_of_convertNativeItems later⟩

end

end RecordQuery.Value
