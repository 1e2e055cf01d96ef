import RecordQuery.Proofs.Catalog.Lookup
import RecordQuery.Proofs.Compilation.Resolution
import RecordQuery.Proofs.Compilation.Reuse

/-! # Chains by their paths

If all names can be written in paths, no field is lost for another one with its path, and the path
of a chain is compiled to what is read at the end of this chain and of no other. -/

namespace RecordQuery

open Fallible

/-- The expression reads the field at the end of a chain from where the steps along the chain
lead. -/
def Chain.ReadBy (schema : Schema) (entity : String) (chain : Chain) (expr : Expr) : Prop :=
  ∃ way, expr = .attr ((Source.root entity).through way) chain.last.2.name ∧ way.IsWay schema ∧
    Traversal.Along schema entity (chain.leading ++ [chain.terminal])
      (way ++ [.attr chain.last.2.name])

/-- The step of a segment has the name of the segment. -/
theorem Segment.name_of_step (segment : Segment) : segment.step.parts.2.1 = segment.name := by
  unfold step
  split <;> rfl

/-- An expression reads the end of one chain at most. -/
theorem Chain.ReadBy.unique {schema : Schema} {entity : String} {chain other : Chain} {expr : Expr}
    (starts : From schema entity chain) (startsToo : From schema entity other)
    (isRead : chain.ReadBy schema entity expr) (isReadToo : other.ReadBy schema entity expr) :
    chain = other := by
  obtain ⟨way, rfl, isWay, along⟩ := isRead
  obtain ⟨wayToo, same, isWayToo, alongToo⟩ := isReadToo
  obtain ⟨sameSource, sameName⟩ := Expr.attr.inj same
  obtain rfl := Source.through_injective isWay isWayToo sameSource
  rw [← sameName] at alongToo
  -- The names of the steps, apart from narrowings, are those of the segments.
  have steps := congrArg (List.map fun step => step.parts.2.1)
    (along.erase.symm.trans alongToo.erase)
  refine eq_of_names starts startsToo ?_
  simpa only [List.map_map, Function.comp_def, Segment.name_of_step] using steps

/-- Different starts of one way have different texts. -/
theorem Traversal.unambiguous_single (way : Traversal) : Unambiguous [way] := by
  have shorter {steps others : Traversal} (start : steps <+: others)
      (same : text steps = text others) : steps = others := by
    obtain ⟨rest, rfl⟩ := start
    rw [text_append] at same
    cases rest with
    | nil => simp
    | cons step rest =>
      exact absurd (String.append_eq_left_iff.mp same.symm) (text_cons_ne_empty step rest)
  intro first listed second listedToo steps start others startToo same
  obtain rfl := List.mem_singleton.mp listed
  obtain rfl := List.mem_singleton.mp listedToo
  rw [List.mem_inits] at start startToo
  rcases List.prefix_or_prefix_of_prefix start startToo with before | behind
  · exact shorter before same
  · exact (shorter behind same.symm).symm

namespace Metadata

variable {schema : Schema} {entity : String}

/-- Along the way to one field different steps have different texts. -/
theorem unambiguous_alone (metadata : Metadata) (schema : Schema) (path : String) :
    Traversal.Unambiguous (metadata.ways schema [path]) := by
  unfold ways
  rw [List.filterMap_cons, List.filterMap_nil]
  split
  · exact fun _ none => by cases none
  · exact Traversal.unambiguous_single _

/-- The path of a chain within the depth of the discovery means the end of the chain. -/
theorem get?_path (names : schema.PathNames) (registered : schema.contains entity = true)
    {depth : Nat} {metadata : Metadata} (discovered : discover schema depth entity = .ok metadata)
    {chain : Chain} (within : chain ∈ Chain.within schema depth entity) :
    metadata.get? chain.path = some (chain.descriptor []) := by
  obtain ⟨discerns, named⟩ := discerns_of_discover names registered discovered
  cases discovered.symm.trans (discover_eq_chains names registered depth).1
  have listed : chain.descriptor [] ∈ descriptors ⟨entity, (Chain.within schema depth entity).map
      fun chain => (chain.path, chain.descriptor [])⟩ := by
    rw [descriptors, List.map_map]
    exact List.mem_map.mpr ⟨chain, within, rfl⟩
  exact discerns.get?_eq_some_iff.mpr ⟨listed, Descriptor.accepts_path (named _ listed)⟩

/-- Over a valid schema with names that can be written in paths, no two chains from an entity have
one path, and discovery keeps each field that it meets. The path of a chain within the depth is
compiled to what is read at the end of this chain and of no other, alone and also after other paths
as long as different steps have different texts. -/
theorem discover_reaches_chains (validated : schema.validate = .ok ()) (names : schema.PathNames)
    (registered : schema.contains entity = true) (depth : Nat) :
    (∀ chain other, Chain.From schema entity chain → Chain.From schema entity other →
      chain.path = other.path → chain = other) ∧
    ∃ metadata, discover schema depth entity = .ok metadata ∧
      metadata.descriptors = discoverFrom schema depth [] entity ∧
      ∀ chain, Chain.From schema entity chain → chain.way.length ≤ depth →
        ∀ paths found middle,
          ({ schema, metadata } : Context).fields paths = .ok (found, middle) →
          paths = [] ∨ Traversal.Unambiguous (metadata.ways schema (chain.path :: paths)) →
          ∃ expr after, middle.field chain.path = .ok ((expr, chain.descriptor []), after) ∧
            ∀ other, Chain.From schema entity other →
              (other.ReadBy schema entity expr ↔ other = chain) := by
  have valid := Schema.valid_of_validate validated
  refine ⟨fun chain other => Chain.path_injective names, ?_⟩
  obtain ⟨metadata, discovered⟩ := exists_discover registered depth
  refine ⟨metadata, discovered, ?_, fun chain starts short paths found middle compiled apart => ?_⟩
  · cases discovered.symm.trans (discover_eq_chains names registered depth).1
    rw [discoverFrom_eq, descriptors, List.map_map]
    rfl
  have meant := get?_path names registered discovered (Chain.mem_within_iff.mpr ⟨starts, short⟩)
  obtain ⟨rfl, startsAt⟩ := startsAt_of_discover discovered
  have apart : Traversal.Unambiguous (metadata.ways schema (chain.path :: paths)) := by
    rcases apart with rfl | apart
    · exact unambiguous_alone metadata schema chain.path
    · exact apart
  -- The contexts after other paths keep one source for each start of a way that is listed.
  have keeps := (Context.keeps_initial.fields apart startsAt
    (ways_subset (List.subset_cons_self _ _)) compiled).2
  obtain ⟨way, after, made, _, isWay, _, along⟩ :=
    keeps.exists_field apart valid startsAt meant (ways_subset (by simp))
  refine ⟨_, after, made, fun other startsToo => ⟨fun isRead => ?_, ?_⟩⟩
  · exact isRead.unique startsToo starts ⟨way, rfl, isWay, along⟩
  · rintro rfl
    exact ⟨way, rfl, isWay, along⟩

end Metadata

namespace Sample

/-- The city of a person and the city of a person's home have one path. -/
def cities : Schema where
  entities := [
    { name := "Person"
      fields := [
        { name := "home", kind := .embedded "Place", nested := true },
        { name := "home.city", kind := .scalar .string, searchable := some {} }] },
    { name := "Place"
      fields := [{ name := "city", kind := .scalar .string, searchable := some {} }] }]
  names_nodup := by decide

end Sample

namespace Metadata

open Sample in
/-- The owners of dogs have a path of their own among the fields of animals. -/
theorem discover_reaches_chains_owners :
    (owners.validate = .ok () ∧ owners.PathNames ∧ owners.contains "Animal" = true) ∧
    (∀ chain other, Chain.From owners "Animal" chain → Chain.From owners "Animal" other →
      chain.path = other.path → chain = other) ∧
    ∃ metadata, discover owners 2 "Animal" = .ok metadata ∧
      metadata.descriptors = discoverFrom owners 2 [] "Animal" ∧
      ∀ chain, Chain.From owners "Animal" chain → chain.way.length ≤ 2 →
        ∀ paths found middle,
          ({ schema := owners, metadata } : Context).fields paths = .ok (found, middle) →
          paths = [] ∨ Traversal.Unambiguous (metadata.ways owners (chain.path :: paths)) →
          ∃ expr after, middle.field chain.path = .ok ((expr, chain.descriptor []), after) ∧
            ∀ other, Chain.From owners "Animal" other →
              (other.ReadBy owners "Animal" expr ↔ other = chain) := by
  have validated : owners.validate = .ok () := by decide +kernel
  have names : owners.PathNames := by decide
  exact ⟨⟨validated, names, rfl⟩, discover_reaches_chains validated names rfl 2⟩

open Sample in
/-- With a point in a name two chains may have one path although the schema is accepted, and the
second one is not kept. -/
theorem discover_drops_chain :
    cities.validate = .ok () ∧
    (∃ chain other, Chain.From cities "Person" chain ∧ Chain.From cities "Person" other ∧
      chain.way.length ≤ 4 ∧ other.way.length ≤ 4 ∧ chain.path = other.path ∧ chain ≠ other) ∧
    ∃ metadata, discover cities 4 "Person" = .ok metadata ∧
      (discoverFrom cities 4 [] "Person").map (·.path) = ["home.city", "home.city"] ∧
      metadata.paths = ["home.city"] := by
  let city : Field := { name := "city", kind := .scalar .string, searchable := some {} }
  let home : Field := { name := "home", kind := .embedded "Place", nested := true }
  let homeCity : Field := { name := "home.city", kind := .scalar .string, searchable := some {} }
  have seesHome : ("Person", home) ∈ cities.visibleFields "Person" := by decide +kernel
  have seesCity : ("Place", city) ∈ cities.visibleFields "Place" := by decide +kernel
  have seesBoth : ("Person", homeCity) ∈ cities.visibleFields "Person" := by decide +kernel
  refine ⟨by decide +kernel, ⟨⟨[("Person", home)], ("Place", city)⟩, ⟨[], ("Person", homeCity)⟩,
    .through seesHome rfl rfl (.last seesCity rfl), .last seesBoth rfl, by decide, by decide,
    by decide +kernel, by simp⟩, ?_⟩
  exact ⟨_, rfl, by decide +kernel, by decide +kernel⟩

end Metadata

end RecordQuery
