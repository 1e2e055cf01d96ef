import RecordQuery.Proofs.Schema.Lineage
import RecordQuery.Catalog.Metadata

/-! # Discovered fields

Each searchable field that is discovered lies at the end of a way along nested fields, and each
field on the way is declared on the type reached or on one related to it. -/

namespace RecordQuery

open Fallible

namespace Schema

variable {schema : Schema}

/-- One of two types is above the other, or they are the same. -/
def Related (schema : Schema) (first second : String) : Prop :=
  schema.isAssignable first second = true ∨ schema.isAssignable second first = true

/-- The types whose fields may be found on records of a type are above or below it. -/
theorem related_of_mem_relatedTypes {owner type : String}
    (member : owner ∈ schema.relatedTypes type) : schema.Related owner type := by
  rcases List.mem_append.mp member with above | rest
  · have inLineage : owner ∈ schema.lineage type :=
      List.mem_cons_of_mem _ (List.mem_reverse.mp above)
    exact .inl (isAssignable_iff.mpr inLineage)
  · rcases List.mem_cons.mp rest with rfl | below
    · exact .inl (schema.isAssignable_self owner)
    · have passed := (List.mem_filter.mp below).2
      rw [Bool.and_eq_true] at passed
      exact .inr passed.2

/-- The declarations that are kept are among the given ones. -/
theorem mem_of_mem_firstByName {declarations : List (String × Field)} {declaration : String × Field}
    (member : declaration ∈ firstByName declarations) : declaration ∈ declarations := by
  induction declarations with
  | nil => exact member
  | cons first rest ih =>
    rcases List.mem_cons.mp member with rfl | later
    · exact List.mem_cons_self
    · exact List.mem_cons_of_mem _ (ih (List.mem_filter.mp later).1)

/-- A visible field is declared on a type that is related to the one that it is visible on. -/
theorem declares_of_mem_visibleFields {owner type : String} {field : Field}
    (member : (owner, field) ∈ schema.visibleFields type) :
    schema.Related owner type ∧ schema.Declares owner field := by
  obtain ⟨name, related, own⟩ := List.mem_flatMap.mp (mem_of_mem_firstByName member)
  obtain ⟨rfl, declares⟩ := mem_ownFields_iff.mp own
  exact ⟨related_of_mem_relatedTypes related, declares⟩

end Schema

variable {schema : Schema}

/-- Segments lead along nested fields from a type to another one. -/
inductive Segment.Leads (schema : Schema) : String → List Segment → String → Prop where
  | here {type : String} : Leads schema type [] type
  | step {type owner target last : String} {field : Field} {segment : Segment}
      {segments : List Segment} (related : schema.Related owner type)
      (declares : schema.Declares owner field)
      (nested : Metadata.nestedSegment? owner field = some (segment, target))
      (further : Leads schema target segments last) : Leads schema type (segment :: segments) last

/-- A descriptor stands for a declared field at the end of its way from a type. -/
def Descriptor.StartsAt (schema : Schema) (type : String) (d : Descriptor) : Prop :=
  ∃ last owner field, Segment.Leads schema type d.leading last ∧ schema.Related owner last ∧
    schema.Declares owner field ∧ d.terminal = ⟨field.name, owner, .attr⟩ ∧ d.kind = field.kind

namespace Metadata

/-- The descriptor of a field ends with the segment of the field, behind those that lead there. -/
theorem of_mem_ownDescriptor {leading : List Segment} {owner : String} {field : Field}
    {d : Descriptor} (member : d ∈ ownDescriptor leading owner field) :
    d.leading = leading ∧ d.terminal = ⟨field.name, owner, .attr⟩ ∧ d.kind = field.kind := by
  unfold ownDescriptor at member
  split at member
  · cases List.mem_singleton.mp member
    exact ⟨rfl, rfl, rfl⟩
  · cases member

/-- What is discovered from a type on lies at the end of a way from that type. -/
theorem startsAt_of_mem_discoverFrom {depth : Nat} {leading : List Segment} {type : String}
    {d : Descriptor} (member : d ∈ discoverFrom schema depth leading type) :
    ∃ more, d.leading = leading ++ more ∧
      Descriptor.StartsAt schema type { d with leading := more } := by
  induction depth generalizing leading type with
  | zero =>
    obtain ⟨⟨owner, field⟩, visible, own⟩ := List.mem_flatMap.mp member
    obtain ⟨related, declares⟩ := Schema.declares_of_mem_visibleFields visible
    obtain ⟨way, terminal, kind⟩ := of_mem_ownDescriptor own
    exact ⟨[], by simp [way], type, owner, field, .here, related, declares, terminal, kind⟩
  | succ depth ih =>
    obtain ⟨⟨owner, field⟩, visible, inside⟩ := List.mem_flatMap.mp member
    obtain ⟨related, declares⟩ := Schema.declares_of_mem_visibleFields visible
    rcases List.mem_append.mp inside with own | beyond
    · obtain ⟨way, terminal, kind⟩ := of_mem_ownDescriptor own
      exact ⟨[], by simp [way], type, owner, field, .here, related, declares, terminal, kind⟩
    · split at beyond
      · rename_i segment target nested
        obtain ⟨more, way, last, lastOwner, lastField, leads, rest⟩ := ih beyond
        refine ⟨segment :: more, by simp [way], last, lastOwner, lastField, ?_, rest⟩
        exact .step related declares nested leads
      · cases beyond

/-- The fields that are kept are among the given ones. -/
theorem mem_of_mem_firstByPath {fields : List (String × Descriptor)}
    {field : String × Descriptor} (member : field ∈ firstByPath fields) : field ∈ fields := by
  induction fields with
  | nil => exact member
  | cons first rest ih =>
    rcases List.mem_cons.mp member with rfl | later
    · exact List.mem_cons_self
    · exact List.mem_cons_of_mem _ (ih (List.mem_filter.mp later).1)

/-- A field that is found under a path is one of the entity. -/
theorem mem_descriptors_of_get? {metadata : Metadata} {path : String} {d : Descriptor}
    (found : metadata.get? path = some d) : d ∈ metadata.descriptors := by
  rcases Option.or_eq_some_iff.mp found with canonical | ⟨_, spelled⟩
  · obtain ⟨field, listed, rfl⟩ := Option.map_eq_some_iff.mp canonical
    exact List.mem_map_of_mem (List.mem_of_find?_eq_some listed)
  · obtain ⟨parts, _, spelled⟩ := Option.bind_eq_some_iff.mp spelled
    exact (List.mem_filter.mp (List.mem_of_find?_eq_some spelled)).1

/-- The fields of a registered entity are discovered. -/
theorem exists_discover {entity : String} (registered : schema.contains entity = true)
    (depth : Nat) : ∃ metadata, discover schema depth entity = .ok metadata := by
  obtain ⟨found, registered⟩ := Option.isSome_iff_exists.mp registered
  rw [discover, Schema.entity, registered]
  exact ⟨_, rfl⟩

/-- What is discovered for an entity is kept under its name. -/
theorem entity_of_discover {depth : Nat} {entity : String} {metadata : Metadata}
    (discovered : discover schema depth entity = .ok metadata) : metadata.entity = entity := by
  obtain ⟨_, _, discovered⟩ := bind_eq_ok_iff.mp discovered
  cases discovered
  rfl

/-- Each field discovered for an entity is met on the walk from it. -/
theorem mem_discoverFrom_of_discover {depth : Nat} {entity : String} {metadata : Metadata}
    (discovered : discover schema depth entity = .ok metadata) {d : Descriptor}
    (listed : d ∈ metadata.descriptors) : d ∈ discoverFrom schema depth [] entity := by
  obtain ⟨_, _, discovered⟩ := bind_eq_ok_iff.mp discovered
  cases discovered
  obtain ⟨field, inFields, rfl⟩ := List.mem_map.mp listed
  obtain ⟨d, member, rfl⟩ := List.mem_map.mp (mem_of_mem_firstByPath inFields)
  exact member

/-- Each discovered field lies at the end of a way from the entity. -/
theorem startsAt_of_mem_descriptors {depth : Nat} {entity : String} {metadata : Metadata}
    (discovered : discover schema depth entity = .ok metadata) {d : Descriptor}
    (listed : d ∈ metadata.descriptors) : d.StartsAt schema entity := by
  obtain ⟨more, way, starts⟩ :=
    startsAt_of_mem_discoverFrom (mem_discoverFrom_of_discover discovered listed)
  rw [List.nil_append] at way
  rw [← way] at starts
  exact starts

/-- The fields discovered for an entity start at it. -/
theorem startsAt_of_discover {depth : Nat} {entity : String} {metadata : Metadata}
    (discovered : discover schema depth entity = .ok metadata) :
    metadata.entity = entity ∧ ∀ {path d}, metadata.get? path = some d →
      d.StartsAt schema entity :=
  ⟨entity_of_discover discovered, fun found =>
    startsAt_of_mem_descriptors discovered (mem_descriptors_of_get? found)⟩

end Metadata

end RecordQuery
