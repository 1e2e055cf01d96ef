import RecordQuery.Proofs.Value.ReadBack

/-! # Literals and loaded data

Loaded data is converted along the type of its field, list by list. A literal is converted item by
item, however deep its lists nest, with the whole type of the field in view. Both come to the same,
except that the enumeration of a field is looked for behind one list only. -/

namespace RecordQuery

open Fallible

namespace ValueType

/-- The type of the items of the items, and so on, that is no list itself. -/
def innermost : ValueType → ValueType
  | list item => item.innermost
  | other => other

/-- An enumeration behind two lists or more. -/
def BuriesEnumeration (type : ValueType) : Prop :=
  ∃ item name members, type = .list (.list item) ∧ item.innermost = .enumeration name members

/-- A list is converted as its innermost items are. -/
theorem target_innermost (type : ValueType) : type.innermost.target = type.target := by
  induction type with
  | list item ih => exact ih
  | _ => rfl

/-- The innermost type of a type is not a list. -/
theorem isList_innermost (type : ValueType) : type.innermost.isList = false := by
  induction type with
  | list item ih => exact ih
  | _ => rfl

/-- An enumeration that is not buried is seen from the type as a whole. -/
theorem itemOrSelf_of_innermost {type : ValueType} {name : String} {members : List String}
    (enumerates : type.innermost = .enumeration name members)
    (unburied : ¬ type.BuriesEnumeration) : type.itemOrSelf = .enumeration name members := by
  cases type with
  | list item =>
    cases item with
    | list inner => exact absurd ⟨inner, name, members, rfl, enumerates⟩ unburied
    | _ => exact enumerates
  | _ => exact enumerates

end ValueType

namespace Value

/-- The value is neither null nor a list. -/
def IsSingle : Value → Prop
  | null | list _ => False
  | _ => True

/-! ## Single values -/

/-- The declared type matters for members of enumerations only. -/
theorem convert_congr (value : Value) {target : Target} (typed : target ≠ .enumeration)
    (native other : Option ValueType) (directives : Directives) :
    value.convert target native directives = value.convert target other directives := by
  cases target with
  | enumeration => exact absurd rfl typed
  | _ => rfl

/-- Of the type of a field, only the items of its list, if it is one, matter to members of
enumerations. -/
theorem toMember_congr (value : Value) {native other : Option ValueType}
    (same : native.map ValueType.itemOrSelf = other.map ValueType.itemOrSelf) :
    value.toMember native = value.toMember other := by
  rw [toMember, toMember, same]

/-- A list is no data of a type other than lists. -/
theorem convertNative_list_ne_ok {type : ValueType} (single : type.isList = false)
    (items : List Value) (result : Value) : convertNative type (list items) ≠ .ok result := by
  intro converted
  cases type with
  | list item => cases single
  | _ => cases converted

/-- Without directives a field asks for nothing but the type. -/
theorem check_plain {d : Descriptor} (plain : d.directives = {}) (value : Value) :
    value.check d = .ok () := by
  unfold check
  simp only [plain]
  cases value <;> rfl

/-- A single value is converted for the field and then checked. -/
theorem coerce_eq (d : Descriptor) {value : Value} (isSingle : value.IsSingle) :
    coerce d value = (do
      let converted ← value.convert d.target d.valueType? d.directives
      converted.check d
      return converted) := by
  cases value <;> first | rfl | cases isSingle

section Plain

variable {d : Descriptor} {type : ValueType} (scalar : d.kind = .scalar type)
  (plain : d.directives = {})
include scalar plain

/-- A field without further demands has the type that it is declared with and the target of that
type. -/
theorem valueType?_and_target_of_plain : d.valueType? = some type ∧ d.target = type.target := by
  have declared : d.valueType? = some type := by rw [Descriptor.valueType?, scalar]; rfl
  exact ⟨declared, by rw [Descriptor.target, plain, declared]⟩

/-- A single value is converted for a field without further demands as for the type of the field. -/
theorem coerce_single {value : Value} (isSingle : value.IsSingle) :
    coerce d value = value.convert type.target (some type) {} := by
  obtain ⟨declared, target⟩ := valueType?_and_target_of_plain scalar plain
  rw [coerce_eq d isSingle, target, declared, plain]
  cases value.convert type.target (some type) {} with
  | error fault => rfl
  | ok converted => rw [ok_bind, check_plain plain]; rfl

/-- A single value is converted for the field as for its innermost type, unless this is an
enumeration that the field does not see. -/
theorem coerce_single_of_unburied (unburied : ¬ type.BuriesEnumeration) {value : Value}
    (isSingle : value.IsSingle) :
    coerce d value = value.convert type.innermost.target (some type.innermost) {} := by
  rw [coerce_single scalar plain isSingle, type.target_innermost]
  cases enumerates : type.innermost with
  | enumeration name members =>
    have seen := ValueType.itemOrSelf_of_innermost enumerates unburied
    have target : type.target = .enumeration := by rw [← type.target_innermost, enumerates]; rfl
    rw [target, convert, convert, toMember_congr value]
    rw [Option.map_some, Option.map_some, seen]
    rfl
  | list item =>
    have single := type.isList_innermost
    rw [enumerates] at single
    cases single
  | _ =>
    refine convert_congr value ?_ _ _ _
    rw [← type.target_innermost, enumerates]
    exact fun same => by cases same

/-- A field does not see the enumeration that its type buries. -/
theorem coerce_single_of_buried (buried : type.BuriesEnumeration) {value : Value}
    (isSingle : value.IsSingle) : coerce d value =
      .error (.coercion value.text "Enum" "field does not declare an enumeration type") := by
  obtain ⟨item, name, members, rfl, enumerates⟩ := buried
  have target : (ValueType.list (.list item)).target = .enumeration := by
    rw [← ValueType.target_innermost, ValueType.innermost, ValueType.innermost, enumerates]
    rfl
  rw [coerce_single scalar plain isSingle, target]
  rfl

end Plain

/-! ## Values with lists -/

/-- The single values in a value are converted for a field as for a type. -/
def ConvertsAs (d : Descriptor) (type : ValueType) (value : Value) : Prop :=
  ∀ inner : Value, inner.Occurs value → inner.IsSingle →
    coerce d inner = inner.convert type.target (some type) {}

mutual

/-- What is loaded of a value whose single values are converted alike is what the value is converted
to for the field. -/
theorem coerce_of_convertsAs {d : Descriptor} {type innermost : ValueType}
    (same : type.innermost = innermost) (value : Value) {loaded : Value}
    (converts : value.ConvertsAs d innermost) (converted : convertNative type value = .ok loaded) :
    coerce d value = .ok loaded := by
  cases value with
  | null =>
    rw [convertNative] at converted
    exact converted
  | list items =>
    cases type with
    | list item =>
      rw [convertNative] at converted
      obtain ⟨results, found, rfl⟩ := map_eq_ok_iff.mp converted
      have sameItem : item.innermost = innermost := same
      have each := (forall_occurs_list_iff.mp converts).2
      exact map_eq_ok_iff.mpr ⟨results, coerceItems_of_convertsAs sameItem items each found, rfl⟩
    | _ => exact absurd converted (convertNative_list_ne_ok rfl items loaded)
  | _ =>
    rw [converts _ .here trivial, ← same]
    cases type with
    | list item => cases converted
    | _ => exact converted

/-- What is loaded of items whose single values are converted alike is what they are converted to
for the field. -/
theorem coerceItems_of_convertsAs {d : Descriptor} {type innermost : ValueType}
    (same : type.innermost = innermost) (items : List Value) {loaded : List Value}
    (each : ∀ item ∈ items, item.ConvertsAs d innermost)
    (converted : convertNativeItems type items = .ok loaded) :
    coerceItems d items = .ok loaded := by
  cases items with
  | nil => exact converted
  | cons item rest =>
    obtain ⟨here, later⟩ := List.forall_mem_cons.mp each
    rw [convertNativeItems] at converted
    obtain ⟨first, found, converted⟩ := bind_eq_ok_iff.mp converted
    obtain ⟨others, foundRest, converted⟩ := bind_eq_ok_iff.mp converted
    cases converted
    rw [coerceItems, coerce_of_convertsAs same item here found, ok_bind,
      coerceItems_of_convertsAs same rest later foundRest]
    rfl

end

/-- Where the items of a list are converted, each of them is. -/
theorem exists_coerce_of_mem {d : Descriptor} {items results : List Value}
    (coerced : coerceItems d items = .ok results) {item : Value} (member : item ∈ items) :
    ∃ result, coerce d item = .ok result := by
  induction items generalizing results with
  | nil => cases member
  | cons first rest ih =>
    rw [coerceItems] at coerced
    obtain ⟨result, found, coerced⟩ := bind_eq_ok_iff.mp coerced
    obtain ⟨others, foundRest, _⟩ := bind_eq_ok_iff.mp coerced
    rcases List.mem_cons.mp member with rfl | later
    · exact ⟨result, found⟩
    · exact ih foundRest later

/-- A value is only converted for a field if everything in it is. -/
theorem exists_coerce_of_occurs {d : Descriptor} {value inner result : Value}
    (occurs : inner.Occurs value) (coerced : coerce d value = .ok result) :
    ∃ part, coerce d inner = .ok part := by
  induction occurs generalizing result with
  | here => exact ⟨result, coerced⟩
  | item member _ ih =>
    obtain ⟨results, found, _⟩ := map_eq_ok_iff.mp coerced
    obtain ⟨part, foundPart⟩ := exists_coerce_of_mem found member
    exact ih foundPart

/-- What is loaded for a field is what the same value is converted to as a literal for it, unless
the type of the field buries an enumeration and the value has some member in it. -/
theorem coerce_loaded_iff {d : Descriptor} {type : ValueType} {value loaded : Value}
    (scalar : d.kind = .scalar type) (plain : d.directives = {})
    (converted : convertNative type value = .ok loaded) :
    coerce d value = .ok loaded ↔
      ¬ (type.BuriesEnumeration ∧ ∃ inner : Value, inner.Occurs value ∧ inner.IsSingle) := by
  constructor
  · rintro coerced ⟨buried, inner, occurs, isSingle⟩
    obtain ⟨part, found⟩ := exists_coerce_of_occurs occurs coerced
    rw [coerce_single_of_buried scalar plain buried isSingle] at found
    cases found
  · intro clear
    refine coerce_of_convertsAs rfl value ?_ converted
    intro inner occurs isSingle
    have unburied : ¬ type.BuriesEnumeration := fun buried =>
      clear ⟨buried, inner, occurs, isSingle⟩
    exact coerce_single_of_unburied scalar plain unburied isSingle

/-- A field without directives. -/
def marks (type : ValueType) : Descriptor where
  leading := []
  terminal := ⟨"marks", "Sheet", .attr⟩
  kind := .scalar type
  directives := {}

/-- In lists of lists whole numbers are found by what they were loaded from, and the members of an
enumeration are not. -/
theorem coerce_loaded_marks :
    coerce (marks (.list (.list .integer))) (list [list [string "5"]]) =
        .ok (list [list [integer 5]]) ∧
      coerce (marks (.list (.list (.enumeration "Mark" ["A"])))) (list [list [string "A"]]) ≠
        .ok (list [list [enumMember ⟨"Mark", "A"⟩]]) := by
  constructor
  · refine (coerce_loaded_iff rfl rfl rfl).mpr ?_
    rintro ⟨⟨item, name, members, same, enumerates⟩, _⟩
    cases same
    cases enumerates
  · intro coerced
    refine (coerce_loaded_iff rfl rfl rfl).mp coerced ⟨⟨_, "Mark", ["A"], rfl, rfl⟩, ?_⟩
    exact ⟨string "A", .item List.mem_cons_self (.item List.mem_cons_self .here), trivial⟩

end Value

end RecordQuery
