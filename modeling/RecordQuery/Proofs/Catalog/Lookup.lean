import RecordQuery.Proofs.Catalog.Chain

/-! # Fields by written paths

A written path is looked up under the canonical paths first, and then among the fields whose paths
have its names. This finds the one field that accepts the path, if there is one. -/

namespace RecordQuery

/-! ## Spellings of segments -/

/-- How a segment may be written: as in the canonical path or, if it is a relation to one record,
without the sign of a relation. -/
inductive Segment.Spelled : Segment → PathPart → Prop where
  | own {segment : Segment} : Spelled segment segment.part
  | unsigned {segment : Segment} {target : String} (toOne : segment.kind = .relation target .one) :
      Spelled segment ⟨false, segment.name.toList⟩

namespace PathPart

/-- A part stands for a segment exactly if the segment can be spelled like that. -/
theorem stands_iff_spelled {part : PathPart} {segment : Segment} :
    part.stands segment = true ↔ segment.Spelled part := by
  constructor
  · intro stands
    obtain ⟨relation, chars⟩ := part
    rw [PathPart.stands, Bool.and_eq_true, beq_iff_eq] at stands
    obtain ⟨name, signed⟩ := stands
    obtain rfl : chars = segment.name.toList := by rw [← name, String.toList_ofList]
    have isOwn (same : relation = segment.isRelation) :
        segment.Spelled ⟨relation, segment.name.toList⟩ := by
      subst same
      exact .own
    cases kind : segment.kind with
    | relation target cardinality =>
      cases relation with
      | true => exact isOwn (by simp [Segment.isRelation, kind])
      | false =>
        obtain rfl : cardinality = .one := by simpa [kind] using signed
        exact .unsigned kind
    | embedded type => exact isOwn (by simpa [Segment.isRelation, kind] using signed)
    | attr => exact isOwn (by simpa [Segment.isRelation, kind] using signed)
  · intro spelled
    cases spelled with
    | own => cases kind : segment.kind <;> simp [stands, Segment.part, Segment.isRelation, kind]
    | unsigned toOne => simp [stands, toOne]

/-- Parts spell segments exactly if they are as many and each spells its own. -/
theorem spells_iff_forall₂ {parts : List PathPart} {segments : List Segment} :
    spells parts segments = true ↔ List.Forall₂ Segment.Spelled segments parts := by
  induction parts generalizing segments with
  | nil => cases segments <;> simp [spells]
  | cons part rest ih => cases segments <;> simp [spells, stands_iff_spelled, ih]

/-- However segments are written, their names are read. -/
theorem names_of_spelled {segments : List Segment} {parts : List PathPart}
    (spelled : List.Forall₂ Segment.Spelled segments parts) :
    parts.map (fun part => String.ofList part.name) = segments.map (·.name) := by
  induction spelled with
  | nil => rfl
  | cons first _ ih =>
    rw [List.map_cons, List.map_cons, ih]
    cases first <;> simp [Segment.part]

/-- Parts that spell named segments are named. -/
theorem isNamed_of_spelled {segments : List Segment} {parts : List PathPart}
    (named : ∀ segment ∈ segments, IsName segment.name)
    (spelled : List.Forall₂ Segment.Spelled segments parts) : ∀ part ∈ parts, part.IsNamed := by
  induction spelled with
  | nil => simp
  | cons first _ ih =>
    obtain ⟨namedFirst, namedRest⟩ := List.forall_mem_cons.mp named
    refine List.forall_mem_cons.mpr ⟨?_, ih namedRest⟩
    cases first <;> exact Segment.isNamed_part namedFirst

end PathPart

namespace Descriptor

/-- A field accepts a path exactly if the path is split into parts that spell the segments of the
field. -/
theorem accepts_iff {d : Descriptor} {path : String} :
    d.accepts path = true ↔ ∃ parts, PathPart.ofText? path = some parts ∧
      List.Forall₂ Segment.Spelled d.segments parts := by
  unfold accepts
  cases PathPart.ofText? path <;> simp [PathPart.spells_iff_forall₂]

/-- A field whose segments have names is found by what its path is written as. -/
theorem accepts_written {d : Descriptor}
    (named : ∀ segment ∈ d.segments, PathPart.IsName segment.name) {parts : List PathPart}
    (spelled : List.Forall₂ Segment.Spelled d.segments parts) :
    d.accepts (PathPart.written parts) = true := by
  refine accepts_iff.mpr ⟨parts, PathPart.ofText?_written ?_ ?_, spelled⟩
  · rintro rfl
    simpa [segments] using spelled.length_eq
  · exact PathPart.isNamed_of_spelled named spelled

/-- A field accepts its canonical path. -/
theorem accepts_path {d : Descriptor}
    (named : ∀ segment ∈ d.segments, PathPart.IsName segment.name) : d.accepts d.path = true := by
  rw [path, Segment.canonicalText_eq_written named]
  exact accepts_written named (List.forall₂_map_right_iff.mpr
    (List.forall₂_same.mpr fun _ _ => .own))

end Descriptor

namespace Metadata

/-- No written path is accepted by two fields, and each field is listed once, under its canonical
path, and accepts it. -/
structure Discerns (metadata : Metadata) : Prop where
  canonical {path : String} {d : Descriptor} (listed : (path, d) ∈ metadata.fields) :
    path = d.path ∧ d.accepts path = true
  nodup : metadata.descriptors.Nodup
  unique {path : String} {d other : Descriptor} (listed : d ∈ metadata.descriptors)
    (listedToo : other ∈ metadata.descriptors) (accepts : d.accepts path = true)
    (acceptsToo : other.accepts path = true) : d = other

variable {metadata : Metadata}

/-- A written path is found to mean the field that accepts it. -/
theorem Discerns.get?_eq_some_iff (discerns : metadata.Discerns) {path : String} {d : Descriptor} :
    metadata.get? path = some d ↔ d ∈ metadata.descriptors ∧ d.accepts path = true := by
  have sound {other : Descriptor} (found : metadata.get? path = some other) :
      other ∈ metadata.descriptors ∧ other.accepts path = true := by
    refine ⟨mem_descriptors_of_get? found, ?_⟩
    rcases Option.or_eq_some_iff.mp found with canonical | ⟨_, spelled⟩
    · obtain ⟨⟨key, _⟩, listed, rfl⟩ := Option.map_eq_some_iff.mp canonical
      obtain rfl : key = path := by simpa using List.find?_some listed
      exact (discerns.canonical (List.mem_of_find?_eq_some listed)).2
    · obtain ⟨parts, _, spelled⟩ := Option.bind_eq_some_iff.mp spelled
      exact List.find?_some (p := (Descriptor.accepts · path)) spelled
  refine ⟨sound, fun ⟨listed, accepts⟩ => ?_⟩
  -- The field is in the bucket of its names, so that something is found, and nothing else can be.
  obtain ⟨parts, isWritten, spelled⟩ := Descriptor.accepts_iff.mp accepts
  have inBucket : d ∈ metadata.named
      (namesKey (parts.map fun part => String.ofList part.name)) := by
    rw [PathPart.names_of_spelled spelled]
    exact List.mem_filter.mpr ⟨listed, beq_self_eq_true _⟩
  have isFound : (metadata.get? path).isSome = true := by
    rw [get?, Option.isSome_or, isWritten]
    refine Bool.or_eq_true_iff.mpr (.inr ?_)
    exact List.find?_isSome.mpr ⟨d, inBucket, accepts⟩
  obtain ⟨other, found⟩ := Option.isSome_iff_exists.mp isFound
  obtain ⟨listedToo, acceptsToo⟩ := sound found
  rw [found, discerns.unique listed listedToo accepts acceptsToo]

/-- The fields that accept a written path are the one that is found for it. -/
theorem Discerns.filter_accepts (discerns : metadata.Discerns) (path : String) :
    metadata.descriptors.filter (·.accepts path) = (metadata.get? path).toList := by
  have same : (metadata.descriptors.filter (·.accepts path)).Perm (metadata.get? path).toList := by
    refine (List.perm_ext_iff_of_nodup (discerns.nodup.filter _) ?_).mpr fun d => ?_
    · cases metadata.get? path <;> simp
    · rw [List.mem_filter, Option.mem_toList, discerns.get?_eq_some_iff]
  cases found : metadata.get? path with
  | none =>
    rw [found] at same
    exact List.perm_nil.mp same
  | some d =>
    rw [found] at same
    exact List.perm_singleton.mp same

/-- If all names can be written in paths, the fields of an entity are told apart by them. -/
theorem discerns_of_discover {schema : Schema} (names : schema.PathNames) {entity : String}
    (registered : schema.contains entity = true) {depth : Nat}
    (discovered : discover schema depth entity = .ok metadata) :
    metadata.Discerns ∧
      ∀ d ∈ metadata.descriptors, ∀ segment ∈ d.segments, PathPart.IsName segment.name := by
  obtain ⟨asChains, nodup⟩ := discover_eq_chains names registered depth
  cases discovered.symm.trans asChains
  have ofChain {d : Descriptor} (listed : d ∈ descriptors ⟨entity,
      (Chain.within schema depth entity).map fun chain => (chain.path, chain.descriptor [])⟩) :
      ∃ chain, Chain.From schema entity chain ∧ d = chain.descriptor [] := by
    rw [descriptors, List.map_map] at listed
    obtain ⟨chain, within, rfl⟩ := List.mem_map.mp listed
    exact ⟨chain, (Chain.mem_within_iff.mp within).1, rfl⟩
  refine ⟨⟨fun {path d} listed => ?_, ?_, fun {path d other} listed listedToo accepts acceptsToo =>
    ?_⟩, fun d listed => ?_⟩
  · obtain ⟨chain, within, same⟩ := List.mem_map.mp listed
    cases same
    have starts := (Chain.mem_within_iff.mp within).1
    exact ⟨rfl, Descriptor.accepts_path (d := chain.descriptor [])
      (Chain.isName_of_segment names starts)⟩
  · refine .of_map Descriptor.path ?_
    rw [descriptors, List.map_map, List.map_map]
    exact nodup
  · obtain ⟨chain, starts, rfl⟩ := ofChain listed
    obtain ⟨twin, startsToo, rfl⟩ := ofChain listedToo
    obtain ⟨parts, isWritten, spelled⟩ := Descriptor.accepts_iff.mp accepts
    obtain ⟨_, isWrittenToo, spelledToo⟩ := Descriptor.accepts_iff.mp acceptsToo
    cases isWritten.symm.trans isWrittenToo
    -- The path that both accept spells the names of both, and names tell chains apart.
    have sameNames := (PathPart.names_of_spelled spelled).symm.trans
      (PathPart.names_of_spelled spelledToo)
    rw [Chain.eq_of_names starts startsToo sameNames]
  · obtain ⟨chain, starts, rfl⟩ := ofChain listed
    exact Chain.isName_of_segment names starts

end Metadata

end RecordQuery
