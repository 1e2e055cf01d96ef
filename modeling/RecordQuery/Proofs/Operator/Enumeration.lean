import Mathlib.Data.List.Permutation
import RecordQuery.Proofs.Catalog.Chain
import RecordQuery.Proofs.Compilation.Filter
import RecordQuery.Proofs.Value.Coercion

/-! # Members of enumerations

A member of an enumeration is written with a name that means an enumeration among the fields of the
searched entity. Against a field of that enumeration the member stays what it is, as far as the
pattern of the field lets it pass. -/

namespace RecordQuery

open Fallible

/-! ## Patterns of fields -/

namespace Schema

variable {schema : Schema}

/-- In a valid schema the pattern of a searchable field is well formed. -/
theorem isSome_pattern_of_validate (validated : schema.validate = .ok ()) {owner : String}
    {field : Field} (declares : schema.Declares owner field) {directives : Directives}
    (searchable : field.searchable = some directives) {pattern : String}
    (asked : directives.regexPattern = some pattern) :
    (Regex.ofFieldPattern? pattern).isSome = true := by
  obtain ⟨entity, found, own⟩ := declares
  have checked := validate_eq_ok_iff_forall.mp validated entity (mem_of_get? found).1
  have fields := checkFields_eq_ok_iff.mp (checkEntity_eq_ok_iff.mp checked).2.1
  refine checkPattern_eq_ok_iff.mp (fields.2.2 field own).1 pattern ?_
  rw [searchable, Option.bind_some, asked]

end Schema

/-- The last field of a chain is declared and searchable. -/
theorem Chain.From.declares_last {schema : Schema} {type : String} {chain : Chain}
    (starts : Chain.From schema type chain) :
    schema.Declares chain.last.1 chain.last.2 ∧ chain.last.2.searchable.isSome = true := by
  induction starts with
  | last visible searchable => exact ⟨(Schema.declares_of_mem_visibleFields visible).2, searchable⟩
  | through _ _ _ _ ih => exact ih

/-- In a valid schema each discovered field with a pattern has an expression for it. -/
theorem Metadata.isSome_pattern?_of_discover {schema : Schema}
    (validated : schema.validate = .ok ()) {depth : Nat} {entity : String} {metadata : Metadata}
    (discovered : discover schema depth entity = .ok metadata) {d : Descriptor}
    (listed : d ∈ metadata.descriptors) (asked : d.directives.regexPattern.isSome = true) :
    d.pattern?.isSome = true := by
  have walked := mem_discoverFrom_of_discover discovered listed
  rw [discoverFrom_eq] at walked
  obtain ⟨chain, member, rfl⟩ := List.mem_map.mp walked
  obtain ⟨declares, searchable⟩ := (Chain.mem_within_iff.mp member).1.declares_last
  obtain ⟨directives, given⟩ := Option.isSome_iff_exists.mp searchable
  have own : (chain.descriptor []).directives = directives := by
    rw [Chain.descriptor, given, Option.getD_some]
  obtain ⟨pattern, asked⟩ := Option.isSome_iff_exists.mp asked
  rw [Descriptor.pattern?, asked, Option.bind_some]
  exact Schema.isSome_pattern_of_validate validated declares given (own ▸ asked)

/-! ## Members as literals -/

/-- A list is converted as its items are. -/
theorem ValueType.target_itemOrSelf (type : ValueType) : type.itemOrSelf.target = type.target := by
  cases type <;> rfl

/-- The field holds members of an enumeration, or lists of them. -/
def Descriptor.Enumerates (d : Descriptor) (name : String) (members : List String) : Prop :=
  d.valueType?.map ValueType.itemOrSelf = some (.enumeration name members)

namespace Value

variable {d : Descriptor} {name : String} {members : List String}

/-- A member is only checked against the pattern of the field. -/
theorem check_enumMember_iff
    (wellFormed : d.directives.regexPattern.isSome = true → d.pattern?.isSome = true)
    (e : EnumMember) : (enumMember e).check d = .ok () ↔
      ∀ regex, d.pattern? = some regex → regex.isMatch e.member = true := by
  unfold check
  cases asked : d.directives.regexPattern with
  | none =>
    have absent : d.pattern? = none := by rw [Descriptor.pattern?, asked, Option.bind_none]
    simp [absent, digitCount?]
  | some pattern =>
    rw [asked] at wellFormed
    obtain ⟨regex, given⟩ := Option.isSome_iff_exists.mp (wellFormed rfl)
    simp only [given]
    cases fits : regex.isMatch e.member with
    | true => simp [plainText, fits, digitCount?]
    | false => simp [plainText, fits]

/-- A field of an enumeration takes its members as they are. -/
theorem convert_member (enumerates : d.Enumerates name members)
    (untyped : d.directives.target = .untyped) {member : String} (isMember : member ∈ members) :
    (enumMember ⟨name, member⟩).convert d.target d.valueType? d.directives =
      .ok (enumMember ⟨name, member⟩) := by
  obtain ⟨type, declared, seen⟩ := Option.map_eq_some_iff.mp enumerates
  have target : d.target = .enumeration := by
    rw [Descriptor.target, untyped, declared]
    change type.target = _
    rw [← type.target_itemOrSelf, seen]
    rfl
  have taken : (enumMember ⟨name, member⟩).toMember d.valueType? = .ok ⟨name, member⟩ := by
    have found : d.valueType?.map ValueType.itemOrSelf = some (.enumeration name members) :=
      enumerates
    simp [toMember, found, isMember]
  rw [target, convert, taken]
  rfl

/-- A member of the enumeration of a field is a literal for it just if the pattern of the field, if
there is one, lets it pass. -/
theorem coerce_member_iff
    (wellFormed : d.directives.regexPattern.isSome = true → d.pattern?.isSome = true)
    (enumerates : d.Enumerates name members) (untyped : d.directives.target = .untyped)
    {member : String} (isMember : member ∈ members) :
    coerce d (enumMember ⟨name, member⟩) = .ok (enumMember ⟨name, member⟩) ↔
      ∀ regex, d.pattern? = some regex → regex.isMatch member = true := by
  have isSingle : (enumMember ⟨name, member⟩).IsSingle := trivial
  rw [← check_enumMember_iff wellFormed ⟨name, member⟩, coerce_eq d isSingle,
    convert_member enumerates untyped isMember, ok_bind]
  cases (enumMember ⟨name, member⟩).check d <;> simp

end Value

/-! ## Names of enumerations -/

namespace Metadata

variable {metadata : Metadata} {name : String}

/-- A name means an enumeration by its whole name, or by the end of it after a point. -/
def MeansEnum (name full : String) : Prop := full = name ∨ '.' :: name.toList <:+ full.toList

/-- The first enumeration, in the order of the fields, that a name means. -/
def FirstMeant (metadata : Metadata) (name full : String) (members : List String) : Prop :=
  ∃ before d after, metadata.descriptors = before ++ d :: after ∧ d.Enumerates full members ∧
    MeansEnum name full ∧
      ∀ earlier ∈ before, ∀ other others, earlier.Enumerates other others → ¬ MeansEnum name other

/-- The test that a type found by a name passes. -/
def isMeant (name : String) (type : ValueType) : Bool :=
  match type.enumName? with
  | some full => full == name || ('.' :: name.toList).isSuffixOf full.toList
  | none => false

/-- A type is meant by a name if it is an enumeration whose own name is. -/
theorem isMeant_iff {type : ValueType} : isMeant name type = true ↔
    ∃ full members, type = .enumeration full members ∧ MeansEnum name full := by
  cases type <;> simp [isMeant, ValueType.enumName?, MeansEnum]

/-- A field passes for a name if it has an enumeration that the name means, or lists of it. -/
theorem any_isMeant_iff {d : Descriptor} :
    (d.valueType?.map ValueType.itemOrSelf).any (isMeant name) = true ↔
      ∃ full members, d.Enumerates full members ∧ MeansEnum name full := by
  rw [Option.any_eq_true]
  simp only [isMeant_iff]
  constructor
  · rintro ⟨_, seen, full, members, rfl, means⟩
    exact ⟨full, members, seen, means⟩
  · rintro ⟨full, members, enumerates, means⟩
    exact ⟨_, enumerates, full, members, rfl, means⟩

/-- The enumeration that is found is the first one that the name means. -/
theorem findEnum?_eq_some_iff {full : String} {members : List String} :
    metadata.findEnum? name = some (.enumeration full members) ↔
      metadata.FirstMeant name full members := by
  -- The lookup tests types, each of which belongs to a field.
  have lookup : metadata.findEnum? name = (metadata.descriptors.find? fun d =>
      (d.valueType?.map ValueType.itemOrSelf).any (isMeant name)).bind fun d =>
        d.valueType?.map ValueType.itemOrSelf := List.find?_filterMap
  have unmeant {d : Descriptor} :
      (!(d.valueType?.map ValueType.itemOrSelf).any (isMeant name)) = true ↔
        ∀ other others, d.Enumerates other others → ¬ MeansEnum name other := by
    rw [Bool.not_eq_true', ← Bool.not_eq_true, any_isMeant_iff]
    simp only [not_exists, not_and]
  rw [lookup, Option.bind_eq_some_iff]
  simp only [List.find?_eq_some_iff_append, any_isMeant_iff, unmeant]
  constructor
  · rintro ⟨d, ⟨⟨other, others, enumerates, means⟩, before, after, split, earlier⟩, seen⟩
    cases enumerates.symm.trans seen
    exact ⟨before, d, after, split, seen, means, earlier⟩
  · rintro ⟨before, d, after, split, enumerates, means, earlier⟩
    exact ⟨d, ⟨⟨full, members, enumerates, means⟩, before, after, split, earlier⟩, enumerates⟩

/-- A name that is the whole name of an enumeration means some enumeration. -/
theorem exists_firstMeant {d : Descriptor} (listed : d ∈ metadata.descriptors)
    {members : List String} (enumerates : d.Enumerates name members) :
    ∃ full others, metadata.FirstMeant name full others := by
  have among : ValueType.enumeration name members ∈
      metadata.descriptors.filterMap fun d => d.valueType?.map ValueType.itemOrSelf :=
    List.mem_filterMap.mpr ⟨d, listed, enumerates⟩
  have meant : isMeant name (.enumeration name members) = true :=
    isMeant_iff.mpr ⟨name, members, rfl, .inl rfl⟩
  have found : (metadata.findEnum? name).isSome = true :=
    List.find?_isSome.mpr ⟨_, among, meant⟩
  obtain ⟨type, found⟩ := Option.isSome_iff_exists.mp found
  have passes : isMeant name type = true := List.find?_some found
  obtain ⟨full, others, rfl, _⟩ := isMeant_iff.mp passes
  exact ⟨full, others, findEnum?_eq_some_iff.mp found⟩

end Metadata

/-! ## The operator -/

namespace Filter

/-- The member of an enumeration, as a filter writes it. -/
def enumMember (name member : String) : Filter :=
  .call "enum" [.literal (.string name), .literal (.string member)]

/-- A member of the first enumeration that a name means is made a literal of that enumeration. -/
theorem operand_enumMember {context : Context} {name full member : String} {members : List String}
    (meant : context.metadata.FirstMeant name full members) (isMember : member ∈ members) :
    (enumMember name member).operand .builtin context =
      .ok (.literal (.enumMember ⟨full, member⟩), context) := by
  have found := Metadata.findEnum?_eq_some_iff.mpr meant
  have args : operands .builtin [.literal (.string name), .literal (.string member)] context =
      .ok ([.literal (.string name), .literal (.string member)], context) := rfl
  have evaluated : Operator.enumeration.evaluate "enum"
      [.literal (.string name), .literal (.string member)] context =
        .ok (.literal (.enumMember ⟨full, member⟩), context) := by
    have contained : members.contains member = true := List.contains_iff_mem.mpr isMember
    simp only [Operator.enumeration, Operator.binary, Operator.reader, Operand.toText, ok_bind,
      found, contained, if_true]
    rfl
  exact operand_call rfl rfl args evaluated

/-- In a valid schema a member of the enumeration of a discovered field is a literal for the field
just if the pattern of the field, if there is one, lets it pass. The name of the enumeration means
some enumeration first, and where that has this name and the member, the operator makes the
member. -/
theorem operand_enumMember_of_discover {schema : Schema} (validated : schema.validate = .ok ())
    {depth : Nat} {entity : String} {metadata : Metadata}
    (discovered : Metadata.discover schema depth entity = .ok metadata) {d : Descriptor}
    (listed : d ∈ metadata.descriptors) {name : String} {members : List String}
    (enumerates : d.Enumerates name members) (untyped : d.directives.target = .untyped)
    {member : String} (isMember : member ∈ members) :
    (Value.coerce d (.enumMember ⟨name, member⟩) = .ok (.enumMember ⟨name, member⟩) ↔
      ∀ regex, d.pattern? = some regex → regex.isMatch member = true) ∧
    ∃ full others, metadata.FirstMeant name full others ∧
      (full = name → member ∈ others → ∀ context : Context, context.metadata = metadata →
        (enumMember name member).operand .builtin context =
          .ok (.literal (.enumMember ⟨name, member⟩), context)) := by
  refine ⟨Value.coerce_member_iff
    (Metadata.isSome_pattern?_of_discover validated discovered listed) enumerates untyped isMember,
    ?_⟩
  obtain ⟨full, others, meant⟩ := Metadata.exists_firstMeant listed enumerates
  refine ⟨full, others, meant, ?_⟩
  rintro rfl among context rfl
  exact operand_enumMember meant among

end Filter

namespace Sample

/-- Orders have a status and keep a former one; their sizes are restricted. -/
def orders : Schema where
  entities := [
    { name := "Order"
      fields := [
        ⟨"former", .scalar (.enumeration "archive.Status" ["OPEN"]), some {}, false⟩,
        ⟨"status", .scalar (.enumeration "Status" ["OPEN", "LOST"]), some {}, false⟩,
        ⟨"size", .scalar (.enumeration "Size" ["S", "L"]), some { regexPattern := some "S" },
          false⟩] }]
  names_nodup := by decide

def former : Descriptor :=
  ⟨[], ⟨"former", "Order", .attr⟩, .scalar (.enumeration "archive.Status" ["OPEN"]), {}⟩

def status : Descriptor :=
  ⟨[], ⟨"status", "Order", .attr⟩, .scalar (.enumeration "Status" ["OPEN", "LOST"]), {}⟩

def size : Descriptor :=
  ⟨[], ⟨"size", "Order", .attr⟩, .scalar (.enumeration "Size" ["S", "L"]),
    { regexPattern := some "S" }⟩

def orderFields : Metadata := ⟨"Order", [("former", former), ("status", status), ("size", size)]⟩

theorem validate_orders : orders.validate = .ok () := by decide +kernel

/-- The fields of orders are discovered in the order of their declarations. -/
theorem discover_orders : Metadata.discover orders 3 "Order" = .ok orderFields := by cbv

/-- The pattern of the size matches one text only. -/
theorem pattern?_size : size.pattern? =
    some (.seq (.assertion .textStart) (.seq (.literal ['S']) (.assertion .textEnd))) := by
  decide +kernel

end Sample

namespace Filter

open Sample

/-- The small size is reached by its name and may be compared with. -/
theorem operand_enumMember_small :
    (orders.validate = .ok () ∧ Metadata.discover orders 3 "Order" = .ok orderFields) ∧
    Value.coerce size (.enumMember ⟨"Size", "S"⟩) = .ok (.enumMember ⟨"Size", "S"⟩) ∧
    (enumMember "Size" "S").operand .builtin { schema := orders, metadata := orderFields } =
      .ok (.literal (.enumMember ⟨"Size", "S"⟩),
        { schema := orders, metadata := orderFields }) := by
  have listed : size ∈ orderFields.descriptors := .tail _ (.tail _ (.head _))
  obtain ⟨coerced, full, others, meant, reached⟩ := operand_enumMember_of_discover validate_orders
    discover_orders listed rfl rfl (show "S" ∈ ["S", "L"] by decide)
  have found : orderFields.findEnum? "Size" = some (.enumeration "Size" ["S", "L"]) := by decide
  cases (Metadata.findEnum?_eq_some_iff.mpr meant).symm.trans found
  refine ⟨⟨validate_orders, discover_orders⟩, coerced.mpr ?_, reached rfl (by decide) _ rfl⟩
  intro regex given
  cases pattern?_size.symm.trans given
  decide +kernel

/-- A member of its enumeration that the pattern of a field refuses is no literal for it, and a name
that is meant by an earlier enumeration, too, reaches only the members of that. -/
theorem operand_enumMember_lost :
    (orders.validate = .ok () ∧ Metadata.discover orders 3 "Order" = .ok orderFields) ∧
    ((size ∈ orderFields.descriptors ∧ size.Enumerates "Size" ["S", "L"] ∧
        size.directives.target = .untyped) ∧
      Value.coerce size (.enumMember ⟨"Size", "L"⟩) ≠ .ok (.enumMember ⟨"Size", "L"⟩)) ∧
    (status ∈ orderFields.descriptors ∧ status.Enumerates "Status" ["OPEN", "LOST"] ∧
        status.directives.target = .untyped) ∧
      (enumMember "Status" "LOST").operand .builtin { schema := orders, metadata := orderFields } ≠
        .ok (.literal (.enumMember ⟨"Status", "LOST"⟩),
          { schema := orders, metadata := orderFields }) := by
  refine ⟨⟨validate_orders, discover_orders⟩, ⟨⟨.tail _ (.tail _ (.head _)), rfl, rfl⟩, ?_⟩,
    ⟨.tail _ (.head _), rfl, rfl⟩, ?_⟩
  · intro coerced
    have wellFormed : size.directives.regexPattern.isSome = true → size.pattern?.isSome = true :=
      fun _ => by rw [pattern?_size]; rfl
    have isMember : "L" ∈ ["S", "L"] := by decide
    have passes := (Value.coerce_member_iff wellFormed rfl rfl isMember).mp coerced _ pattern?_size
    revert passes
    decide +kernel
  · intro reached
    have refused : (enumMember "Status" "LOST").operand .builtin
        { schema := orders, metadata := orderFields } =
          .error (.coercion "\"LOST\"" "archive.Status"
            "'LOST' is not a member of 'archive.Status'") := rfl
    cases refused.symm.trans reached

end Filter

end RecordQuery
