import RecordQuery.Proofs.Schema.Ancestry

/-! # Well-formed schemas

A schema is well formed if the types that it refers to are registered, the fields of a type have
different names, patterns are regular expressions, and no type extends itself over any number of
steps. Validation accepts exactly these schemas. To find circles it follows the chain of each type,
which ends after as many types as there are at most. -/

namespace RecordQuery.Schema

open Relation

variable {schema : Schema} {name : String}

/-- References are registered, names of fields differ within a type, patterns are regular
expressions, and no type is its own base over one or more steps. -/
structure WellFormed (schema : Schema) : Prop where
  bases {entity : Entity} (registered : entity ∈ schema.entities) {base : String}
    (above : entity.base = some base) : base ∈ schema.names
  embedded {entity : Entity} (registered : entity ∈ schema.entities) {field : Field}
    (declared : field ∈ entity.fields) {type : String} (holds : field.kind = .embedded type) :
    type ∈ schema.names
  related {entity : Entity} (registered : entity ∈ schema.entities) {field : Field}
    (declared : field ∈ entity.fields) {target : String} {cardinality : Cardinality}
    (leads : field.kind = .relation target cardinality) : target ∈ schema.names
  fields {entity : Entity} (registered : entity ∈ schema.entities) :
    (entity.fields.map (·.name)).Nodup
  patterns {entity : Entity} (registered : entity ∈ schema.entities) {field : Field}
    (declared : field ∈ entity.fields) {directives : Directives}
    (searchable : field.searchable = some directives) {pattern : String}
    (asked : directives.regexPattern = some pattern) :
    ∃ regex, Regex.ofFieldPattern? pattern = some regex
  acyclic (name : String) : ¬ TransGen schema.Extends name name

/-! ## Circles -/

/-- A circle is found exactly if the chain of a type comes back to a type that it has met. -/
theorem isCyclic_iff : schema.isCyclic name = true ↔
    ∃ again, (schema.chain name).2 = .repeated again := by
  unfold isCyclic
  cases (schema.chain name).2 <;> simp

/-- Where a chain is cyclic, some type extends itself over one or more steps. -/
theorem exists_transGen_self (cyclic : schema.isCyclic name = true) :
    ∃ again, TransGen schema.Extends again again := by
  obtain ⟨again, ends⟩ := isCyclic_iff.mp cyclic
  obtain ⟨registered, candidate⟩ := repeated_of_chainFrom ends
  refine ⟨again, transGen_repeated rfl ends ?_⟩
  by_cases same : again = name
  · exact same ▸ List.mem_cons_self
  · exact List.mem_cons_of_mem _ (candidate
      ((List.mem_erase_of_ne same).mpr (contains_iff_mem_names.mp registered)))

/-- The chain of a type that extends itself over one or more steps is cyclic. -/
theorem isCyclic_of_transGen_self (circle : TransGen schema.Extends name name) :
    schema.isCyclic name = true := by
  by_contra acyclic
  -- Where the chain does not end in a type that it has met, it has all types that it leads up to.
  have onChain {base : String} (reached : TransGen schema.Extends name base) :
      base ∈ schema.ancestors name := by
    rw [ancestors_eq_climbed]
    induction reached with
    | single above =>
      refine (goesOn_climbed rfl List.mem_cons_self above).resolve_right fun ends => ?_
      exact acyclic (isCyclic_iff.mpr ⟨_, ends⟩)
    | tail _ above ih =>
      refine (goesOn_climbed rfl (List.mem_cons_of_mem _ ih) above).resolve_right fun ends => ?_
      exact acyclic (isCyclic_iff.mpr ⟨_, ends⟩)
  exact notMem_ancestors_self schema name (onChain circle)

/-- Checking that the chain of a type is not cyclic takes as many steps as there are types at
most. -/
theorem length_chain_le (schema : Schema) (name : String) :
    (schema.chain name).1.length ≤ schema.entities.length := by
  refine le_trans ?_ (length_ancestors_le schema name)
  rw [ancestors_eq_climbed, climbed, List.length_append]
  exact Nat.le_add_right _ _

/-! ## Validation -/

/-- A schema that passes validation is well formed. -/
theorem wellFormed_of_validate (validated : schema.validate = .ok ()) : schema.WellFormed := by
  have parts {entity : Entity} (registered : entity ∈ schema.entities) :=
    checkEntity_eq_ok_iff.mp (validate_eq_ok_iff_forall.mp validated entity registered)
  have fields {entity : Entity} (registered : entity ∈ schema.entities) :=
    checkFields_eq_ok_iff.mp (parts registered).2.1
  have target {entity : Entity} (registered : entity ∈ schema.entities) {field : Field}
      (declared : field ∈ entity.fields) {type : String} (leads : field.kind.target? = some type) :
      type ∈ schema.names := by
    have checked := ((fields registered).2.2 field declared).2
    exact contains_iff_mem_names.mp (checkTarget_eq_ok_iff.mp checked type leads)
  constructor
  case bases =>
    intro entity registered base above
    exact contains_iff_mem_names.mp (checkBase_eq_ok_iff.mp (parts registered).1 base above)
  case embedded =>
    intro entity registered field declared type holds
    exact target registered declared (by rw [holds]; rfl)
  case related =>
    intro entity registered field declared type cardinality leads
    exact target registered declared (by rw [leads]; rfl)
  case fields => exact fun registered => (fields registered).1
  case patterns =>
    intro entity registered field declared directives searchable pattern asked
    have checked := ((fields registered).2.2 field declared).1
    exact Option.isSome_iff_exists.mp
      (checkPattern_eq_ok_iff.mp checked pattern (by rw [searchable, Option.bind_some, asked]))
  -- A type that is above itself would be met again on the way up its chain.
  case acyclic =>
    intro name circle
    obtain ⟨base, above, -⟩ := TransGen.head'_iff.mp circle
    have known := contains_of_extends above
    have cyclic := isCyclic_of_transGen_self circle
    rw [(valid_of_validate validated).acyclic known] at cyclic
    cases cyclic

/-- A well-formed schema passes validation. -/
theorem WellFormed.validate_eq_ok (wellFormed : schema.WellFormed) : schema.validate = .ok () := by
  refine validate_eq_ok_iff_forall.mpr fun entity registered => ?_
  refine checkEntity_eq_ok_iff.mpr ⟨?_, ?_, ?_⟩
  · refine checkBase_eq_ok_iff.mpr fun base above => ?_
    exact contains_iff_mem_names.mpr (wellFormed.bases registered above)
  · refine checkFields_eq_ok_iff.mpr ⟨wellFormed.fields registered, by simp, ?_⟩
    intro field declared
    refine ⟨checkPattern_eq_ok_iff.mpr fun pattern given => ?_,
      checkTarget_eq_ok_iff.mpr fun type leads => ?_⟩
    · obtain ⟨directives, searchable, asked⟩ := Option.bind_eq_some_iff.mp given
      exact Option.isSome_iff_exists.mpr (wellFormed.patterns registered declared searchable asked)
    · refine contains_iff_mem_names.mpr ?_
      cases kind : field.kind with
      | scalar _ => simp [kind, FieldKind.target?] at leads
      | embedded other =>
        rw [kind] at leads
        cases leads
        exact wellFormed.embedded registered declared kind
      | relation other cardinality =>
        rw [kind] at leads
        cases leads
        exact wellFormed.related registered declared kind
  · by_contra cyclic
    obtain ⟨again, circle⟩ := exists_transGen_self (Bool.not_eq_false _ ▸ cyclic)
    exact wellFormed.acyclic again circle

/-- Validation accepts the well-formed schemas and no others. Where a type extends itself over any
number of steps it refuses the schema: it follows no chain further than to as many types as there
are. -/
theorem validate_iff_wellFormed (schema : Schema) :
    (schema.validate = .ok () ↔ schema.WellFormed) ∧
    (∀ name, TransGen schema.Extends name name →
      ∃ type reason, schema.validate = .error (.invalidSchema type reason)) ∧
    ∀ name, (schema.chain name).1.length ≤ schema.entities.length := by
  refine ⟨⟨wellFormed_of_validate, WellFormed.validate_eq_ok⟩, fun name circle => ?_,
    length_chain_le schema⟩
  refine exists_invalid_of_refused fun validated => ?_
  exact (wellFormed_of_validate validated).acyclic name circle

open Sample in
/-- Hens extend themselves over eggs. -/
theorem validate_iff_wellFormed_tangled :
    TransGen tangled.Extends "Hen" "Hen" ∧ ¬ tangled.WellFormed ∧
      ∃ type reason, tangled.validate = .error (.invalidSchema type reason) := by
  have circle : TransGen tangled.Extends "Hen" "Hen" :=
    .head (rfl : tangled.Extends "Hen" "Egg") (.single rfl)
  obtain ⟨accepts, refuses, -⟩ := validate_iff_wellFormed tangled
  obtain ⟨type, reason, refused⟩ := refuses "Hen" circle
  refine ⟨circle, fun wellFormed => ?_, type, reason, refused⟩
  cases refused.symm.trans (accepts.mpr wellFormed)

end RecordQuery.Schema
