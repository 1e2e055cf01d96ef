import Mathlib.Data.List.Chain
import Mathlib.Logic.Relation
import RecordQuery.Proofs.Schema.Nearest

/-! # Ancestors and reachability

Every type extends its base, if it has one. The base may be missing from the schema, and types may
extend each other in a circle: the ancestors of a type are in any case the other types that lead up
from it, and to be assignable is to be reached in any number of steps, none included. -/

namespace RecordQuery

open Relation

/-- The base that a chain ends in and that is not registered. -/
def ChainEnd.missing? : ChainEnd → Option String
  | missing name => some name
  | _ => none

namespace Schema

variable {schema : Schema} {candidates : List String} {name : String}

/-- A type extends its base, whether or not that is registered. -/
def Extends (schema : Schema) (sub base : String) : Prop := schema.base? sub = some base

/-- A type extends one base at most. -/
theorem extends_rightUnique (schema : Schema) : Relator.RightUnique schema.Extends := by
  intro sub base other above aboveToo
  exact Option.some.inj (above.symm.trans aboveToo)

/-- Only registered types extend others. -/
theorem contains_of_extends {sub base : String} (above : schema.Extends sub base) :
    schema.contains sub = true := by
  obtain ⟨entity, found, _⟩ := Option.bind_eq_some_iff.mp above
  exact Option.isSome_iff_exists.mpr ⟨entity, found⟩

/-- A type is registered exactly if its name is among the names. -/
theorem contains_iff_mem_names : schema.contains name = true ↔ name ∈ schema.names := by
  unfold contains get? names
  simp [List.find?_isSome]

/-- The type that so many steps from a type to its base lead to. -/
def climb? (schema : Schema) (name : String) : Nat → Option String
  | 0 => some name
  | steps + 1 => (climb? schema name steps).bind schema.base?

/-! ## Chains of bases -/

/-- The types of a chain, with the base that it ends in if that is not registered. -/
def climbed (schema : Schema) (candidates : List String) (base : Option String) : List String :=
  (schema.chainFrom candidates base).1 ++ (schema.chainFrom candidates base).2.missing?.toList

theorem climbed_none : schema.climbed candidates none = [] := by
  simp [climbed, chainFrom, ChainEnd.missing?]

/-- A chain goes from a base that has not been met on to the base of that one. -/
theorem climbed_of_mem {base : String} (member : base ∈ candidates) :
    schema.climbed candidates (some base) =
      base :: schema.climbed (candidates.erase base) (schema.base? base) := by
  simp [climbed, chainFrom, member]

/-- A chain ends at a base that has been met, and with one that is not registered. -/
theorem climbed_of_notMem {base : String} (absent : base ∉ candidates) :
    schema.climbed candidates (some base) = if schema.contains base then [] else [base] := by
  cases registered : schema.contains base <;>
    simp [climbed, chainFrom, absent, registered, ChainEnd.missing?]

/-- The ancestors of a type are the chain from its base on that does not come back to the type. -/
theorem ancestors_eq_climbed (schema : Schema) (name : String) :
    schema.ancestors name = schema.climbed (schema.names.erase name) (schema.base? name) := by
  unfold ancestors chain climbed
  split <;> simp_all [ChainEnd.missing?]

/-- A chain goes through candidates, and it may end in a base that is not registered. -/
theorem mem_of_mem_climbed {base : Option String} {type : String}
    (member : type ∈ schema.climbed candidates base) :
    type ∈ candidates ∨ schema.contains type = false := by
  induction candidates, base using chainFrom.induct schema with
  | case1 => simp [climbed_none] at member
  | case2 candidates base listed rest ending goesOn ih =>
    rw [climbed_of_mem listed] at member
    rcases List.mem_cons.mp member with rfl | later
    · exact .inl listed
    · exact (ih later).imp_left List.mem_of_mem_erase
  | case3 candidates base absent =>
    rw [climbed_of_notMem absent] at member
    split at member
    · cases member
    · rename_i unregistered
      rw [List.mem_singleton.mp member]
      exact .inr (Bool.not_eq_true _ ▸ unregistered)

/-- A chain meets no type twice. -/
theorem nodup_climbed (nodup : candidates.Nodup)
    (registered : ∀ type ∈ candidates, schema.contains type = true) (base : Option String) :
    (schema.climbed candidates base).Nodup := by
  induction candidates, base using chainFrom.induct schema with
  | case1 => simp [climbed_none]
  | case2 candidates base listed rest ending goesOn ih =>
    rw [climbed_of_mem listed, List.nodup_cons]
    refine ⟨fun again => ?_, ih (nodup.erase base) fun type member =>
      registered type (List.mem_of_mem_erase member)⟩
    rcases mem_of_mem_climbed again with candidate | missing
    · exact nodup.not_mem_erase candidate
    · rw [registered base listed] at missing
      cases missing
  | case3 candidates base absent =>
    rw [climbed_of_notMem absent]
    split <;> simp

/-- Each type of a chain extends the one before it. -/
theorem isChain_climbed {base : Option String} (starts : schema.base? name = base) :
    List.IsChain schema.Extends (name :: schema.climbed candidates base) := by
  induction candidates, base using chainFrom.induct schema generalizing name with
  | case1 => simp [climbed_none]
  | case2 candidates base listed rest ending goesOn ih =>
    rw [climbed_of_mem listed]
    exact .cons_cons starts (ih rfl)
  | case3 candidates base absent =>
    rw [climbed_of_notMem absent]
    split
    · exact .singleton name
    · exact .cons_cons starts (.singleton base)

/-- What a type of a chain extends is on the chain, unless it is the type that ends the chain
because it is no candidate any more. -/
theorem goesOn_climbed {base : Option String} (starts : schema.base? name = base)
    {type further : String} (member : type ∈ name :: schema.climbed candidates base)
    (above : schema.Extends type further) : further ∈ schema.climbed candidates base ∨
      (schema.chainFrom candidates base).2 = .repeated further := by
  induction candidates, base using chainFrom.induct schema generalizing name with
  | case1 =>
    simp only [climbed_none, List.mem_singleton] at member
    rw [member, Extends, starts] at above
    cases above
  | case2 candidates base listed rest ending goesOn ih =>
    rw [climbed_of_mem listed] at member ⊢
    rw [chainFrom, if_pos listed]
    rcases List.mem_cons.mp member with rfl | later
    · cases starts.symm.trans above
      exact .inl List.mem_cons_self
    · exact (ih rfl later).imp_left (List.mem_cons_of_mem _)
  | case3 candidates base absent =>
    rw [climbed_of_notMem absent] at member ⊢
    rw [chainFrom, if_neg absent]
    rcases List.mem_cons.mp member with rfl | missing
    · cases starts.symm.trans above
      cases schema.contains further <;> simp
    · split at missing
      · cases missing
      · rw [List.mem_singleton.mp missing] at above
        exact absurd (contains_of_extends above) ‹_›

/-- All types of a chain lead up to the type that ends it because it is no candidate any more. -/
theorem transGen_repeated {base : Option String} (starts : schema.base? name = base)
    {again : String} (ends : (schema.chainFrom candidates base).2 = .repeated again) {type : String}
    (member : type ∈ name :: schema.climbed candidates base) :
    TransGen schema.Extends type again := by
  induction candidates, base using chainFrom.induct schema generalizing name type with
  | case1 => simp [chainFrom] at ends
  | case2 candidates base listed rest ending goesOn ih =>
    rw [chainFrom, if_pos listed] at ends
    rw [climbed_of_mem listed] at member
    rcases List.mem_cons.mp member with rfl | later
    · exact .head starts (ih rfl ends List.mem_cons_self)
    · exact ih rfl ends later
  | case3 candidates base absent =>
    rw [chainFrom, if_neg absent] at ends
    rw [climbed_of_notMem absent] at member
    split at ends
    · cases ends
      rw [if_pos ‹_›, List.mem_singleton] at member
      rw [member]
      exact .single starts
    · cases ends

/-- The type that ends a chain because it is no candidate any more is registered, and if it was a
candidate at the start it is on the chain. -/
theorem repeated_of_chainFrom {base : Option String} {again : String}
    (ends : (schema.chainFrom candidates base).2 = .repeated again) :
    schema.contains again = true ∧
      (again ∈ candidates → again ∈ schema.climbed candidates base) := by
  induction candidates, base using chainFrom.induct schema with
  | case1 => simp [chainFrom] at ends
  | case2 candidates base listed rest ending goesOn ih =>
    rw [chainFrom, if_pos listed] at ends
    rw [climbed_of_mem listed]
    refine ⟨(ih ends).1, fun candidate => ?_⟩
    by_cases same : again = base
    · exact same ▸ List.mem_cons_self
    · exact List.mem_cons_of_mem _ ((ih ends).2 ((List.mem_erase_of_ne same).mpr candidate))
  | case3 candidates base absent =>
    rw [chainFrom, if_neg absent] at ends
    split at ends
    · cases ends
      exact ⟨‹_›, fun candidate => absurd candidate absent⟩
    · cases ends

/-- A chain has one type more than there are candidates at most. -/
theorem length_climbed_le (candidates : List String) (base : Option String) :
    (schema.climbed candidates base).length ≤ candidates.length + 1 := by
  induction candidates, base using chainFrom.induct schema with
  | case1 => simp [climbed_none]
  | case2 candidates base listed rest ending goesOn ih =>
    have shorter := List.length_erase_of_mem listed
    have positive := List.length_pos_of_mem listed
    rw [climbed_of_mem listed, List.length_cons]
    omega
  | case3 candidates base absent =>
    rw [climbed_of_notMem absent]
    split <;> simp

/-! ## Ancestors -/

/-- No type is listed twice among the ancestors. -/
theorem nodup_ancestors (schema : Schema) (name : String) : (schema.ancestors name).Nodup := by
  rw [ancestors_eq_climbed]
  refine nodup_climbed (schema.names_nodup.erase name) (fun type member => ?_) _
  exact contains_iff_mem_names.mpr (List.mem_of_mem_erase member)

/-- No type is its own ancestor. -/
theorem notMem_ancestors_self (schema : Schema) (name : String) : name ∉ schema.ancestors name := by
  rw [ancestors_eq_climbed]
  intro member
  rcases mem_of_mem_climbed member with candidate | missing
  · exact schema.names_nodup.not_mem_erase candidate
  · rw [base?_eq_none_of_contains missing, climbed_none] at member
    cases member

/-- Each type of a lineage extends the next one. -/
theorem isChain_lineage (schema : Schema) (name : String) :
    List.IsChain schema.Extends (schema.lineage name) := by
  rw [lineage, ancestors_eq_climbed]
  exact isChain_climbed rfl

/-- A lineage has all types that its types lead up to. -/
theorem mem_lineage_of_extends {type further : String} (member : type ∈ schema.lineage name)
    (above : schema.Extends type further) : further ∈ schema.lineage name := by
  rw [lineage, ancestors_eq_climbed] at member ⊢
  rcases goesOn_climbed rfl member above with onChain | ends
  · exact List.mem_cons_of_mem _ onChain
  · obtain ⟨registered, candidate⟩ := repeated_of_chainFrom ends
    by_cases same : further = name
    · exact same ▸ List.mem_cons_self
    · exact List.mem_cons_of_mem _ (candidate
        ((List.mem_erase_of_ne same).mpr (contains_iff_mem_names.mp registered)))

/-- A type leads up to each of its ancestors. -/
theorem transGen_of_mem_ancestors {base : String} (member : base ∈ schema.ancestors name) :
    TransGen schema.Extends name base := by
  have reached : List.Pairwise (TransGen schema.Extends) (schema.lineage name) :=
    List.isChain_iff_pairwise.mp ((isChain_lineage schema name).imp fun _ _ => .single)
  exact (List.pairwise_cons.mp reached).1 base member

/-- The lineage of a type holds what is reached from it in any number of steps. -/
theorem mem_lineage_iff {base : String} :
    base ∈ schema.lineage name ↔ ReflTransGen schema.Extends name base := by
  constructor
  · intro member
    rcases List.mem_cons.mp member with rfl | above
    · exact .refl
    · exact (transGen_of_mem_ancestors above).to_reflTransGen
  · intro reached
    induction reached with
    | refl => exact List.mem_cons_self
    | tail _ above ih => exact mem_lineage_of_extends ih above

/-- The ancestors of a type are the other types that are reached from it. -/
theorem mem_ancestors_iff {base : String} :
    base ∈ schema.ancestors name ↔ base ≠ name ∧ TransGen schema.Extends name base := by
  constructor
  · intro member
    refine ⟨?_, transGen_of_mem_ancestors member⟩
    rintro rfl
    exact notMem_ancestors_self schema _ member
  · rintro ⟨other, reached⟩
    exact (List.mem_cons.mp (mem_lineage_iff.mpr reached.to_reflTransGen)).resolve_left other

/-- The types of a lineage follow each other step by step. -/
theorem climb?_of_lineage {place : Nat} {type : String}
    (stands : (schema.lineage name)[place]? = some type) :
    schema.climb? name place = some type := by
  induction place generalizing type with
  | zero => simpa [lineage, climb?] using stands
  | succ place ih =>
    obtain ⟨inside, rfl⟩ := List.getElem?_eq_some_iff.mp stands
    have before : place < (schema.lineage name).length := by omega
    rw [climb?, ih (List.getElem?_eq_getElem before), Option.bind_some]
    exact (isChain_lineage schema name).getElem place inside

/-- The ancestors stand in the order of the steps that lead to them. -/
theorem climb?_of_ancestors {place : Nat} {base : String}
    (stands : (schema.ancestors name)[place]? = some base) :
    schema.climb? name (place + 1) = some base ∧
      ∀ steps ≤ place, schema.climb? name steps ≠ some base := by
  have standsToo : (schema.lineage name)[place + 1]? = some base := by
    rwa [lineage, List.getElem?_cons_succ]
  refine ⟨climb?_of_lineage standsToo, fun steps fewer reached => ?_⟩
  have nodup : (schema.lineage name).Nodup :=
    List.nodup_cons.mpr ⟨notMem_ancestors_self schema name, nodup_ancestors schema name⟩
  obtain ⟨inside, same⟩ := List.getElem?_eq_some_iff.mp standsToo
  have before : steps < (schema.lineage name).length := by omega
  rw [climb?_of_lineage (List.getElem?_eq_getElem before)] at reached
  have together := nodup.getElem_inj_iff.mp ((Option.some.inj reached).trans same.symm)
  omega

/-- There are at most as many ancestors as types in the schema. -/
theorem length_ancestors_le (schema : Schema) (name : String) :
    (schema.ancestors name).length ≤ schema.entities.length := by
  rw [ancestors_eq_climbed]
  have shorter : (schema.climbed (schema.names.erase name) (schema.base? name)).length ≤
      (schema.names.erase name).length + 1 := length_climbed_le _ _
  have all : schema.names.length = schema.entities.length := List.length_map _
  by_cases registered : name ∈ schema.names
  · have fewer := List.length_erase_of_mem registered
    have positive := List.length_pos_of_mem registered
    omega
  · have unregistered : schema.contains name = false := by
      rwa [← Bool.not_eq_true, contains_iff_mem_names]
    simp [base?_eq_none_of_contains unregistered, climbed_none]

/-- A type is assignable to exactly the types that are reached from it. -/
theorem isAssignable_iff_reflTransGen {base sub : String} :
    schema.isAssignable base sub = true ↔ ReflTransGen schema.Extends sub base :=
  isAssignable_iff.trans mem_lineage_iff

/-- In any schema the ancestors of a type are the other types that it leads up to, each once and the
nearest first; there are no more of them than registered types, so the walk to them ends. To be
assignable is to be reached in any number of steps, which is an order from any type upwards; in a
valid schema no two types are assignable to each other. -/
theorem ancestors_are_reached (schema : Schema) :
    (∀ name,
      (schema.ancestors name).length ≤ schema.entities.length ∧ (schema.ancestors name).Nodup ∧
      (∀ base, base ∈ schema.ancestors name ↔ base ≠ name ∧ TransGen schema.Extends name base) ∧
      ∀ place base, (schema.ancestors name)[place]? = some base →
        schema.climb? name (place + 1) = some base ∧
          ∀ steps ≤ place, schema.climb? name steps ≠ some base) ∧
    (∀ base sub, schema.isAssignable base sub = true ↔ ReflTransGen schema.Extends sub base) ∧
    (∀ name, schema.isAssignable name name = true) ∧
    (∀ base name sub, schema.isAssignable base name = true → schema.isAssignable name sub = true →
      schema.isAssignable base sub = true) ∧
    (∀ first second sub, first ∈ schema.ancestors sub → second ∈ schema.ancestors sub →
      schema.isAssignable first second = true ∨ schema.isAssignable second first = true) ∧
    (schema.validate = .ok () → ∀ first second, schema.isAssignable first second = true →
      schema.isAssignable second first = true → first = second) := by
  refine ⟨fun name => ⟨length_ancestors_le schema name, nodup_ancestors schema name,
    fun _ => mem_ancestors_iff, fun _ _ => climb?_of_ancestors⟩,
    fun _ _ => isAssignable_iff_reflTransGen, isAssignable_self schema, ?_, ?_, ?_⟩
  · intro base name sub above below
    rw [isAssignable_iff_reflTransGen] at above below ⊢
    exact below.trans above
  · intro first second sub member memberToo
    have reached := (transGen_of_mem_ancestors member).to_reflTransGen
    have reachedToo := (transGen_of_mem_ancestors memberToo).to_reflTransGen
    rw [isAssignable_iff_reflTransGen, isAssignable_iff_reflTransGen, or_comm]
    exact ReflTransGen.total_of_right_unique schema.extends_rightUnique reached reachedToo
  · intro validated first second above aboveToo
    exact isAssignable_antisymm (valid_of_validate validated) above aboveToo

end Schema

namespace Sample

/-- Hens extend eggs and eggs extend hens; what fossils extend is not registered. -/
def tangled : Schema where
  entities := [
    { name := "Hen", base := some "Egg" },
    { name := "Egg", base := some "Hen" },
    { name := "Chick", base := some "Egg" },
    { name := "Fossil", base := some "Trilobite" }]
  names_nodup := by decide

end Sample

namespace Schema

open Sample in
/-- Puppies lead up to animals in two steps, and nothing but dogs is above and below dogs. -/
theorem ancestors_are_reached_puppy : codes.validate = .ok () ∧
    codes.ancestors "Puppy" = ["Dog", "Animal"] ∧
    TransGen codes.Extends "Puppy" "Animal" ∧ codes.climb? "Puppy" 2 = some "Animal" ∧
    ∀ other, codes.isAssignable "Dog" other = true → codes.isAssignable other "Dog" = true →
      "Dog" = other := by
  have validated : codes.validate = .ok () := by decide +kernel
  have listed : codes.ancestors "Puppy" = ["Dog", "Animal"] := by decide +kernel
  obtain ⟨each, -, -, -, -, apart⟩ := ancestors_are_reached codes
  obtain ⟨-, -, reached, nearest⟩ := each "Puppy"
  refine ⟨validated, listed, ((reached "Animal").mp (by simp [listed])).2, ?_,
    fun other => apart validated "Dog" other⟩
  exact (nearest 1 "Animal" (by rw [listed]; rfl)).1

open Sample in
example : tangled.ancestors "Chick" = ["Egg", "Hen"] ∧ tangled.ancestors "Hen" = ["Egg"] ∧
    tangled.ancestors "Fossil" = ["Trilobite"] := by decide +kernel

end Schema

end RecordQuery
