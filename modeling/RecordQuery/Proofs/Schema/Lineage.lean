import RecordQuery.Proofs.Schema.Checks

/-! # Lineages in valid schemas

In a valid schema the base types above a type form a chain that ends in a type without base, and the
chain goes on from each of its types as it does from there. Where no type declares a field again
that it inherits, all types below the declaring one find the same field under its name. -/

namespace RecordQuery.Schema

variable {schema : Schema}

/-! ## What validation guarantees -/

/-- The base types are registered, fields of a type have different names, and no chain of base types
is cyclic. -/
structure Valid (schema : Schema) : Prop where
  base {name base : String} (above : schema.base? name = some base) : schema.contains base = true
  fields {name : String} {entity : Entity} (found : schema.get? name = some entity) :
    (entity.fields.map (·.name)).Nodup
  acyclic {name : String} (registered : schema.contains name = true) :
    schema.isCyclic name = false

/-- What is found under a name is registered and has the name. -/
theorem mem_of_get? {name : String} {entity : Entity} (found : schema.get? name = some entity) :
    entity ∈ schema.entities ∧ entity.name = name :=
  ⟨List.mem_of_find?_eq_some found, by simpa using List.find?_some found⟩

/-- A type that is not registered has no base. -/
theorem base?_eq_none_of_contains {name : String} (unregistered : schema.contains name = false) :
    schema.base? name = none := by
  have absent : schema.get? name = none := by simpa [contains] using unregistered
  rw [base?, absent, Option.bind_none]

/-- A schema that passes validation has what validation guarantees. -/
theorem valid_of_validate (validated : schema.validate = .ok ()) : schema.Valid := by
  have parts : ∀ {name entity}, schema.get? name = some entity →
      schema.checkBase entity = .ok () ∧ schema.checkFields entity [] entity.fields = .ok () ∧
        schema.isCyclic name = false := by
    intro name entity found
    obtain ⟨member, rfl⟩ := mem_of_get? found
    exact checkEntity_eq_ok_iff.mp (validate_eq_ok_iff_forall.mp validated entity member)
  constructor
  · intro name base above
    obtain ⟨entity, found, given⟩ := Option.bind_eq_some_iff.mp above
    exact checkBase_eq_ok_iff.mp (parts found).1 base given
  · intro name entity found
    exact (checkFields_eq_ok_iff.mp (parts found).2.1).1
  · intro name registered
    obtain ⟨entity, found⟩ := Option.isSome_iff_exists.mp registered
    exact (parts found).2.2

/-! ## Chains of base types -/

/-- Following base types from a base on leads through these types to one without base. -/
inductive Leads (schema : Schema) : Option String → List String → Prop where
  | top : Leads schema none []
  | base {name : String} {types : List String} (next : Leads schema (schema.base? name) types) :
      Leads schema (some name) (name :: types)

/-- There is one way up from a base. -/
theorem Leads.unique {base : Option String} {types others : List String}
    (leads : Leads schema base types) (leadsToo : Leads schema base others) : types = others := by
  induction leads generalizing others with
  | top =>
    cases leadsToo
    rfl
  | base _ ih =>
    cases leadsToo with
    | base next => rw [ih next]

/-- A chain goes on from each of its types as it does from there. -/
theorem Leads.of_mem {base : Option String} {types : List String} {name : String}
    (leads : Leads schema base types) (member : name ∈ types) :
    ∃ nearer farther, types = nearer ++ name :: farther ∧
      Leads schema (schema.base? name) farther := by
  induction leads with
  | top => cases member
  | @base first rest next ih =>
    rcases List.mem_cons.mp member with rfl | later
    · exact ⟨[], rest, rfl, next⟩
    · obtain ⟨nearer, farther, rfl, goesOn⟩ := ih later
      exact ⟨first :: nearer, farther, rfl, goesOn⟩

/-- A chain that ends at the top leads there. -/
theorem leads_of_chainFrom {candidates : List String} {base : Option String} {types : List String}
    (ends : schema.chainFrom candidates base = (types, .top)) : Leads schema base types := by
  induction candidates, base using chainFrom.induct schema generalizing types with
  | case1 =>
    rw [chainFrom] at ends
    cases ends
    exact .top
  | case2 candidates base member rest ending goesOn ih =>
    rw [chainFrom, if_pos member, goesOn] at ends
    obtain ⟨rfl, rfl⟩ := Prod.mk.inj ends
    exact .base (ih goesOn)
  | case3 candidates base absent =>
    rw [chainFrom, if_neg absent] at ends
    split at ends <;> cases ends

/-- A chain of registered bases does not end in a base that is not registered. -/
theorem chainFrom_ne_missing (valid : schema.Valid) {candidates : List String}
    {base : Option String} (above : ∀ name, base = some name → schema.contains name = true)
    (name : String) : (schema.chainFrom candidates base).2 ≠ .missing name := by
  induction candidates, base using chainFrom.induct schema with
  | case1 =>
    rw [chainFrom]
    simp
  | case2 candidates base member rest ending goesOn ih =>
    rw [chainFrom, if_pos member]
    exact ih fun name further => valid.base further
  | case3 candidates base absent =>
    rw [chainFrom, if_neg absent, if_pos (above base rfl)]
    simp

/-- In a valid schema the ancestors of a type are its chain of base types. -/
theorem leads_ancestors (valid : schema.Valid) (name : String) :
    Leads schema (schema.base? name) (schema.ancestors name) := by
  have ending : (schema.chain name).2 = .top := by
    cases ends : (schema.chain name).2 with
    | top => rfl
    | missing base =>
      exact absurd ends (chainFrom_ne_missing valid (fun _ above => valid.base above) base)
    | repeated base =>
      have cyclic : schema.isCyclic name = true := by simp only [isCyclic, ends]
      cases registered : schema.contains name with
      | true => simp [valid.acyclic registered] at cyclic
      | false => simp [chain, base?_eq_none_of_contains registered, chainFrom] at ends
  have types : schema.ancestors name = (schema.chain name).1 := by
    unfold ancestors
    cases chained : schema.chain name with
    | mk types last =>
      rw [chained] at ending
      cases ending
      rfl
  rw [types]
  exact leads_of_chainFrom (Prod.ext rfl ending)

/-! ## Lineages -/

/-- A type with all types above it, nearest first. -/
def lineage (schema : Schema) (name : String) : List String := name :: schema.ancestors name

/-- A type is assignable to exactly the types of its lineage. -/
theorem isAssignable_iff {base sub : String} :
    schema.isAssignable base sub = true ↔ base ∈ schema.lineage sub := by
  simp [isAssignable, lineage]

/-- The lineage of a type goes on with the lineages of the types above it. -/
theorem lineage_subset_of_mem (valid : schema.Valid) {name sub : String}
    (member : name ∈ schema.lineage sub) : schema.lineage name ⊆ schema.lineage sub := by
  rcases List.mem_cons.mp member with rfl | above
  · exact List.Subset.refl _
  · obtain ⟨nearer, farther, split, goesOn⟩ := (leads_ancestors valid sub).of_mem above
    rw [goesOn.unique (leads_ancestors valid name)] at split
    intro other further
    rw [lineage, split]
    exact List.mem_cons_of_mem _ (List.mem_append_right _ further)

theorem isAssignable_self (schema : Schema) (name : String) :
    schema.isAssignable name name = true :=
  isAssignable_iff.mpr List.mem_cons_self

/-- What is assignable to a type is assignable to whatever the type is assignable to. -/
theorem isAssignable_trans (valid : schema.Valid) {base name sub : String}
    (first : schema.isAssignable base name = true) (second : schema.isAssignable name sub = true) :
    schema.isAssignable base sub = true := by
  rw [isAssignable_iff] at first second ⊢
  exact lineage_subset_of_mem valid second first

/-- Of two types above a third one, one is above the other. -/
theorem mem_lineage_or_mem_lineage (valid : schema.Valid) {base : Option String}
    {types : List String} (leads : Leads schema base types) {first second : String}
    (inFirst : first ∈ types) (inSecond : second ∈ types) :
    first ∈ schema.lineage second ∨ second ∈ schema.lineage first := by
  induction leads with
  | top => cases inFirst
  | @base name rest next ih =>
    rw [next.unique (leads_ancestors valid name)] at inFirst inSecond ih
    rcases List.mem_cons.mp inFirst with rfl | above
    · exact .inr inSecond
    rcases List.mem_cons.mp inSecond with rfl | aboveToo
    · exact .inl inFirst
    exact ih above aboveToo

/-- Of two types above a third one, one is assignable to the other. -/
theorem isAssignable_or_isAssignable (valid : schema.Valid) {first second sub : String}
    (above : schema.isAssignable first sub = true)
    (aboveToo : schema.isAssignable second sub = true) :
    schema.isAssignable first second = true ∨ schema.isAssignable second first = true := by
  simp only [isAssignable_iff] at above aboveToo ⊢
  have leads : Leads schema (some sub) (schema.lineage sub) := .base (leads_ancestors valid sub)
  exact mem_lineage_or_mem_lineage valid leads above aboveToo

/-! ## Declarations -/

/-- A type declares a field itself. -/
def Declares (schema : Schema) (type : String) (field : Field) : Prop :=
  ∃ entity, schema.get? type = some entity ∧ field ∈ entity.fields

/-- No type declares a field under a name that a type above it declares. -/
def DeclaresOnce (schema : Schema) : Prop :=
  ∀ type, ∀ base ∈ schema.ancestors type, ∀ field inherited, schema.Declares type field →
    schema.Declares base inherited → field.name ≠ inherited.name

/-- The own fields of a type are those that it declares. -/
theorem mem_ownFields_iff {name owner : String} {field : Field} :
    (owner, field) ∈ schema.ownFields name ↔ owner = name ∧ schema.Declares owner field := by
  unfold ownFields Declares
  cases found : schema.get? name with
  | none =>
    simp only [List.not_mem_nil, false_iff, not_and]
    rintro rfl ⟨entity, registered, _⟩
    cases found.symm.trans registered
  | some entity =>
    simp only [List.mem_map, Prod.mk.injEq, exists_eq_right_right]
    constructor
    · rintro ⟨listed, rfl⟩
      exact ⟨rfl, entity, found, listed⟩
    · rintro ⟨rfl, other, registered, listed⟩
      cases found.symm.trans registered
      exact ⟨listed, rfl⟩

/-- That no field is declared again can be checked type by type against the ancestors. -/
theorem declaresOnce_iff : schema.DeclaresOnce ↔
    ∀ type ∈ schema.names, ∀ base ∈ schema.ancestors type, ∀ own ∈ schema.ownFields type,
      ∀ inherited ∈ schema.ownFields base, own.2.name ≠ inherited.2.name := by
  constructor
  · rintro once type _ base above ⟨owner, field⟩ own ⟨baseOwner, inherited⟩ ownToo
    obtain ⟨rfl, declares⟩ := mem_ownFields_iff.mp own
    obtain ⟨rfl, declaresBase⟩ := mem_ownFields_iff.mp ownToo
    exact once owner baseOwner above field inherited declares declaresBase
  · intro once type base above field inherited declares declaresBase
    obtain ⟨entity, registered, _⟩ := id declares
    have known : type ∈ schema.names := List.mem_map.mpr ⟨entity, mem_of_get? registered⟩
    exact once type known base above (type, field) (mem_ownFields_iff.mpr ⟨rfl, declares⟩)
      (base, inherited) (mem_ownFields_iff.mpr ⟨rfl, declaresBase⟩)

instance : Decidable schema.DeclaresOnce := decidable_of_iff' _ declaresOnce_iff

/-- A field of an entity with distinct field names is found under its name. -/
theorem field?_of_mem {entity : Entity} (nodup : (entity.fields.map (·.name)).Nodup) {field : Field}
    (member : field ∈ entity.fields) : entity.field? field.name = some field := by
  unfold Entity.field?
  cases found : entity.fields.find? (·.name == field.name) with
  | none => simpa using List.find?_eq_none.mp found field member
  | some other =>
    have same : other.name = field.name := by simpa using List.find?_some found
    rw [List.inj_on_of_nodup_map nodup (List.mem_of_find?_eq_some found) member same]

/-- Of the types above a type at most one declares a field of a name. -/
theorem eq_of_declares (valid : schema.Valid) (once : schema.DeclaresOnce)
    {owner other type : String} {field twin : Field} (above : schema.isAssignable owner type = true)
    (aboveToo : schema.isAssignable other type = true) (declares : schema.Declares owner field)
    (declaresTwin : schema.Declares other twin) (name : twin.name = field.name) :
    other = owner := by
  rcases isAssignable_or_isAssignable valid above aboveToo with ownerAbove | otherAbove
  · rcases List.mem_cons.mp (isAssignable_iff.mp ownerAbove) with same | inherited
    · exact same.symm
    · exact absurd name (once other owner inherited twin field declaresTwin declares)
  · rcases List.mem_cons.mp (isAssignable_iff.mp otherAbove) with same | inherited
    · exact same
    · exact absurd name.symm (once owner other inherited field twin declares declaresTwin)

/-- All types below the declaring one find its field under the name of the field. -/
theorem findField?_of_declares (valid : schema.Valid) (once : schema.DeclaresOnce)
    {owner type : String} {field : Field} (assignable : schema.isAssignable owner type = true)
    (declares : schema.Declares owner field) :
    schema.findField? type field.name = some (owner, field) := by
  obtain ⟨entity, found, member⟩ := id declares
  have own : (schema.get? owner).bind (·.field? field.name) = some field := by
    rw [found]
    exact field?_of_mem (valid.fields found) member
  cases result : schema.findField? type field.name with
  | none =>
    have absent := List.findSome?_eq_none_iff.mp result owner (isAssignable_iff.mp assignable)
    simp [own] at absent
  | some nearest =>
    obtain ⟨other, above, declared⟩ := List.exists_of_findSome?_eq_some result
    obtain ⟨twin, foundTwin, rfl⟩ := Option.map_eq_some_iff.mp declared
    obtain ⟨otherEntity, registered, listed⟩ := Option.bind_eq_some_iff.mp foundTwin
    have name : twin.name = field.name := by simpa using List.find?_some listed
    have declaresTwin : schema.Declares other twin :=
      ⟨otherEntity, registered, List.mem_of_find?_eq_some listed⟩
    obtain rfl := eq_of_declares valid once assignable (isAssignable_iff.mpr above) declares
      declaresTwin name
    rw [own] at foundTwin
    rw [Option.some.inj foundTwin]

end RecordQuery.Schema
