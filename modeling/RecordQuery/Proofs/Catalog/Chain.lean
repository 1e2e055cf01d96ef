import Mathlib.Data.List.Pairwise
import RecordQuery.Catalog.Basic
import RecordQuery.Proofs.Catalog.Discovery
import RecordQuery.Proofs.Path.Canonical

/-! # Chains of fields

The searchable fields of an entity are the ends of the chains of nested fields that start at it. The
catalog lists the chains up to its depth, each once, in the pre-order of the tree that they form. -/

namespace RecordQuery

namespace Schema

variable {schema : Schema}

/-- The names of all fields can be written in paths. -/
def PathNames (schema : Schema) : Prop :=
  ∀ entity ∈ schema.entities, ∀ field ∈ entity.fields, PathPart.IsName field.name

instance : DecidablePred PathNames := fun schema =>
  inferInstanceAs (Decidable (∀ entity ∈ schema.entities, ∀ field ∈ entity.fields, _))

/-- The declarations that are kept have distinct names. -/
theorem nodup_names_firstByName (declarations : List (String × Field)) :
    ((firstByName declarations).map (·.2.name)).Nodup := by
  induction declarations with
  | nil => exact List.nodup_nil
  | cons first rest ih =>
    refine List.nodup_cons.mpr ⟨fun again => ?_, ih.sublist (List.filter_sublist.map _)⟩
    obtain ⟨other, kept, same⟩ := List.mem_map.mp again
    simpa [same] using (List.mem_filter.mp kept).2

/-- No field is visible twice. -/
theorem nodup_visibleFields (type : String) : (schema.visibleFields type).Nodup :=
  .of_map _ (nodup_names_firstByName _)

/-- The fields that are visible from a type are told apart by their names. -/
theorem eq_of_visible {type : String} {declaration other : String × Field}
    (visible : declaration ∈ schema.visibleFields type)
    (visibleToo : other ∈ schema.visibleFields type)
    (name : declaration.2.name = other.2.name) : declaration = other :=
  List.inj_on_of_nodup_map (nodup_names_firstByName _) visible visibleToo name

/-- Where names can stand in paths, so can the names of visible fields. -/
theorem isName_of_visible (names : schema.PathNames) {type : String} {declaration : String × Field}
    (visible : declaration ∈ schema.visibleFields type) : PathPart.IsName declaration.2.name := by
  obtain ⟨entity, found, member⟩ := (declares_of_mem_visibleFields visible).2
  exact names entity (mem_of_get? found).1 _ member

end Schema

/-- What a segment that goes on through a field leads to. -/
def FieldKind.segmentKind : FieldKind → SegmentKind
  | scalar _ => .attr
  | embedded type => .embedded type
  | relation target cardinality => .relation target cardinality

/-- Fields to go through and a field at the end, each with its declaring type. -/
structure Chain where
  way : List (String × Field)
  last : String × Field

namespace Chain

variable {schema : Schema}

/-- The first field of a chain. -/
def head : Chain → String × Field
  | ⟨[], last⟩ => last
  | ⟨first :: _, _⟩ => first

/-- The chain that goes through a field first. -/
def through (first : String × Field) (chain : Chain) : Chain := ⟨first :: chain.way, chain.last⟩

/-- The segments of the fields that a chain goes through. -/
def leading (chain : Chain) : List Segment :=
  chain.way.map fun (owner, field) => ⟨field.name, owner, field.kind.segmentKind⟩

/-- The segment of the field at the end of a chain. -/
def terminal (chain : Chain) : Segment := ⟨chain.last.2.name, chain.last.1, .attr⟩

/-- The canonical text of the path along a chain. -/
def path (chain : Chain) : String :=
  Segment.canonicalText (chain.leading ++ [chain.terminal])

/-- The field at the end of a chain, reached behind some segments. -/
def descriptor (before : List Segment) (chain : Chain) : Descriptor where
  leading := before ++ chain.leading
  terminal := chain.terminal
  kind := chain.last.2.kind
  directives := chain.last.2.searchable.getD {}

/-- The chain goes from a type through nested relations and embedded fields to a searchable field;
each field is visible from the type reached. -/
inductive From (schema : Schema) : String → Chain → Prop where
  | last {type : String} {last : String × Field} (visible : last ∈ schema.visibleFields type)
      (searchable : last.2.searchable.isSome = true) : From schema type ⟨[], last⟩
  | through {type target : String} {first last : String × Field} {way : List (String × Field)}
      (visible : first ∈ schema.visibleFields type) (nested : first.2.nested = true)
      (leads : first.2.kind.target? = some target) (further : From schema target ⟨way, last⟩) :
      From schema type ⟨first :: way, last⟩

/-- The pre-order of the chains from a type: a field comes before the chains that go through it, and
these come before the chains of fields that are visible later. -/
inductive Precedes (schema : Schema) : String → Chain → Chain → Prop where
  | own {type : String} {first last : String × Field} {way : List (String × Field)} :
      Precedes schema type ⟨[], first⟩ ⟨first :: way, last⟩
  | earlier {type : String} {chain other : Chain}
      (order : [chain.head, other.head].Sublist (schema.visibleFields type)) :
      Precedes schema type chain other
  | inside {type target : String} {first : String × Field} {chain other : Chain}
      (leads : first.2.kind.target? = some target) (order : Precedes schema target chain other) :
      Precedes schema type (chain.through first) (other.through first)

/-- No chain comes before itself. -/
theorem Precedes.ne {type : String} {chain other : Chain}
    (order : Precedes schema type chain other) : chain ≠ other := by
  induction order with
  | own => simp
  | earlier order =>
    rintro rfl
    have nodup := (schema.nodup_visibleFields _).sublist order
    simp at nodup
  | inside leads order ih =>
    intro same
    simp only [through, mk.injEq, List.cons.injEq, true_and] at same
    exact ih (congrArg₂ mk same.1 same.2)

/-! ## Paths of chains -/

/-- Where names can stand in paths, so can those of the segments of a chain. -/
theorem isName_of_segment (names : schema.PathNames) {type : String} {chain : Chain}
    (starts : From schema type chain) :
    ∀ segment ∈ chain.leading ++ [chain.terminal], PathPart.IsName segment.name := by
  induction starts with
  | last visible => simpa [leading, terminal] using Schema.isName_of_visible names visible
  | through visible nested leads further ih =>
    exact List.forall_mem_cons.mpr ⟨Schema.isName_of_visible names visible, ih⟩

/-- Chains from one type are told apart by the names of their fields. -/
theorem eq_of_names {type : String} {chain other : Chain} (starts : From schema type chain)
    (startsToo : From schema type other)
    (same : (chain.leading ++ [chain.terminal]).map (·.name) =
      (other.leading ++ [other.terminal]).map (·.name)) : chain = other := by
  induction starts generalizing other with
  | last visible searchable =>
    cases startsToo with
    | last visibleToo => rw [Schema.eq_of_visible visible visibleToo (List.cons.inj same).1]
    | through => simp [leading] at same
  | through visible nested leads further ih =>
    cases startsToo with
    | last => simp [leading] at same
    | through visibleToo nestedToo leadsToo furtherToo =>
      obtain ⟨name, later⟩ := List.cons.inj same
      obtain rfl := Schema.eq_of_visible visible visibleToo name
      cases leads.symm.trans leadsToo
      cases ih furtherToo later
      rfl

/-- Chains from one type are told apart by their paths. -/
theorem path_injective (names : schema.PathNames) {type : String} {chain other : Chain}
    (starts : From schema type chain) (startsToo : From schema type other)
    (same : chain.path = other.path) : chain = other := by
  have parts := congrArg PathPart.ofText? same
  rw [path, path, Segment.ofText?_canonicalText (by simp) (isName_of_segment names starts),
    Segment.ofText?_canonicalText (by simp) (isName_of_segment names startsToo)] at parts
  refine eq_of_names starts startsToo ?_
  have named := congrArg (List.map fun part => String.ofList part.name) (Option.some.inj parts)
  simpa only [List.map_map, Function.comp_def, Segment.part, String.ofList_toList] using named

/-! ## The walk along chains -/

/-- The chain of a field alone, if it is searchable. -/
def alone (field : String × Field) : List Chain :=
  if field.2.searchable.isSome then [⟨[], field⟩] else []

/-- The chains that go through a field and on with a chain from the type that it leads to. -/
def beyond (chains : String → List Chain) (first : String × Field) : List Chain :=
  match first.2.kind.target? with
  | some target => if first.2.nested then (chains target).map (through first) else []
  | none => []

/-- The chains from a type that go through at most a number of fields, in the order of the walk. -/
def within (schema : Schema) : Nat → String → List Chain
  | 0, type => (schema.visibleFields type).flatMap alone
  | depth + 1, type =>
    (schema.visibleFields type).flatMap fun first =>
      alone first ++ beyond (within schema depth) first

theorem mem_alone_iff {chain : Chain} {field : String × Field} :
    chain ∈ alone field ↔ chain = ⟨[], field⟩ ∧ field.2.searchable.isSome = true := by
  unfold alone
  split <;> simp_all

/-- The chains through a nested field go on with a chain from the type that the field leads to. -/
theorem mem_beyond_iff {chains : String → List Chain} {chain : Chain} {first : String × Field} :
    chain ∈ beyond chains first ↔ ∃ target inner, first.2.nested = true ∧
      first.2.kind.target? = some target ∧ inner ∈ chains target ∧ chain = inner.through first := by
  unfold beyond
  cases leads : first.2.kind.target? with
  | none => simp
  | some target =>
    cases first.2.nested with
    | false => simp
    | true => simp [eq_comm]

/-- The walk meets exactly the chains that go through few enough fields. -/
theorem mem_within_iff {depth : Nat} {type : String} {chain : Chain} :
    chain ∈ within schema depth type ↔ From schema type chain ∧ chain.way.length ≤ depth := by
  induction depth generalizing type chain with
  | zero =>
    simp only [within, List.mem_flatMap, mem_alone_iff]
    constructor
    · rintro ⟨field, visible, rfl, searchable⟩
      exact ⟨.last visible searchable, Nat.le_refl 0⟩
    · rintro ⟨starts, short⟩
      cases starts with
      | last visible searchable => exact ⟨_, visible, rfl, searchable⟩
      | through => simp at short
  | succ depth ih =>
    simp only [within, List.mem_flatMap, List.mem_append, mem_alone_iff, mem_beyond_iff, ih]
    constructor
    · rintro ⟨first, visible, ⟨rfl, searchable⟩ | ⟨target, inner, nested, leads, starts, rfl⟩⟩
      · exact ⟨.last visible searchable, Nat.zero_le _⟩
      · obtain ⟨further, short⟩ := starts
        exact ⟨.through visible nested leads further, Nat.succ_le_succ short⟩
    · rintro ⟨starts, short⟩
      cases starts with
      | last visible searchable => exact ⟨_, visible, .inl ⟨rfl, searchable⟩⟩
      | through visible nested leads further =>
        exact ⟨_, visible, .inr
          ⟨_, _, nested, leads, ⟨further, Nat.le_of_succ_le_succ short⟩, rfl⟩⟩

theorem head_of_mem_alone {chain : Chain} {field : String × Field} (member : chain ∈ alone field) :
    chain.head = field := by
  rw [(mem_alone_iff.mp member).1]
  rfl

/-- The chains through a field begin with it. -/
theorem head_of_mem_beyond {chains : String → List Chain} {chain : Chain} {first : String × Field}
    (member : chain ∈ beyond chains first) : chain.head = first := by
  obtain ⟨target, inner, _, _, _, rfl⟩ := mem_beyond_iff.mp member
  rfl

/-- A field alone makes no two chains that could be out of order. -/
theorem pairwise_alone (type : String) (field : String × Field) :
    (alone field).Pairwise (Precedes schema type) := by
  unfold alone
  split <;> simp

/-- The chains of fields come in the order of the fields. -/
theorem pairwise_visibleFields (type : String) {chains : String × Field → List Chain}
    (heads : ∀ field, ∀ chain ∈ chains field, chain.head = field) :
    (schema.visibleFields type).Pairwise fun field later =>
      ∀ chain ∈ chains field, ∀ other ∈ chains later, Precedes schema type chain other := by
  rw [List.pairwise_iff_forall_sublist]
  intro field later order chain member other memberToo
  exact .earlier (by rwa [heads _ _ member, heads _ _ memberToo])

/-- The walk is in pre-order. -/
theorem pairwise_within (depth : Nat) (type : String) :
    (within schema depth type).Pairwise (Precedes schema type) := by
  induction depth generalizing type with
  | zero =>
    exact List.pairwise_flatMap.mpr ⟨fun field _ => pairwise_alone type field,
      pairwise_visibleFields type fun _ _ => head_of_mem_alone⟩
  | succ depth ih =>
    refine List.pairwise_flatMap.mpr ⟨fun first _ => List.pairwise_append.mpr
      ⟨pairwise_alone type first, ?_, ?_⟩,
      pairwise_visibleFields type fun field chain member => ?_⟩
    · unfold beyond
      split
      · rename_i target leads
        split
        · exact List.pairwise_map.mpr ((ih target).imp fun order => .inside leads order)
        · exact .nil
      · exact .nil
    · intro chain member other memberToo
      obtain ⟨rfl, _⟩ := mem_alone_iff.mp member
      obtain ⟨_, inner, _, _, _, rfl⟩ := mem_beyond_iff.mp memberToo
      exact .own
    · rcases List.mem_append.mp member with inAlone | inBeyond
      · exact head_of_mem_alone inAlone
      · exact head_of_mem_beyond inBeyond

end Chain

namespace Metadata

variable {schema : Schema}

/-- The descriptor of a field is that of its chain, behind the segments that lead there. -/
theorem ownDescriptor_eq (leading : List Segment) (owner : String) (field : Field) :
    ownDescriptor leading owner field =
      (Chain.alone (owner, field)).map (Chain.descriptor leading) := by
  unfold ownDescriptor Chain.alone
  cases searchable : field.searchable <;>
    simp [Chain.descriptor, Chain.leading, Chain.terminal, searchable]

/-- The walk goes on through a field if it is nested and leads to a type. -/
theorem nestedSegment?_eq (owner : String) (field : Field) :
    nestedSegment? owner field = if field.nested then field.kind.target?.map fun target =>
      (⟨field.name, owner, field.kind.segmentKind⟩, target) else none := by
  unfold nestedSegment?
  split
  · cases field.kind <;> rfl
  · rfl

/-- A field behind a segment is one that a chain through the field of the segment ends in. -/
theorem descriptor_through (leading : List Segment) (owner : String) (field : Field)
    (chain : Chain) :
    (chain.through (owner, field)).descriptor leading =
      chain.descriptor (leading ++ [⟨field.name, owner, field.kind.segmentKind⟩]) := by
  simp [Chain.descriptor, Chain.leading, Chain.terminal, Chain.through]

/-- Discovery walks along the chains. -/
theorem discoverFrom_eq (depth : Nat) (leading : List Segment) (type : String) :
    discoverFrom schema depth leading type =
      (Chain.within schema depth type).map (Chain.descriptor leading) := by
  induction depth generalizing leading type with
  | zero => simp only [discoverFrom, Chain.within, List.map_flatMap, ownDescriptor_eq]
  | succ depth ih =>
    rw [discoverFrom, Chain.within, List.map_flatMap]
    congr 1
    funext ⟨owner, field⟩
    dsimp only
    rw [List.map_append, ownDescriptor_eq, nestedSegment?_eq]
    congr 1
    unfold Chain.beyond
    cases leads : field.kind.target? with
    | none => simp
    | some target =>
      cases field.nested with
      | false => rfl
      | true =>
        simp only [Option.map_some, if_true, ih, List.map_map, List.map_inj_left]
        exact fun chain _ => (descriptor_through leading owner field chain).symm

/-- Where paths are distinct, all fields are kept. -/
theorem firstByPath_of_nodup {fields : List (String × Descriptor)}
    (nodup : (fields.map (·.1)).Nodup) : firstByPath fields = fields := by
  induction fields with
  | nil => rfl
  | cons first rest ih =>
    obtain ⟨fresh, nodup⟩ := List.nodup_cons.mp nodup
    rw [firstByPath, ih nodup, List.filter_eq_self.mpr]
    intro other later
    exact bne_iff_ne.mpr fun same => fresh (List.mem_map.mpr ⟨other, later, same⟩)

/-- What is discovered for an entity are the ends of the chains from it, in pre-order and with
different paths. -/
theorem discover_eq_chains (names : schema.PathNames) {entity : String}
    (registered : schema.contains entity = true) (depth : Nat) :
    discover schema depth entity = .ok
        ⟨entity, (Chain.within schema depth entity).map fun chain =>
          (chain.path, chain.descriptor [])⟩ ∧
      ((Chain.within schema depth entity).map Chain.path).Nodup := by
  have nodup : ((Chain.within schema depth entity).map Chain.path).Nodup := by
    refine List.Nodup.map_on ?_ ((Chain.pairwise_within depth entity).imp fun order => order.ne)
    intro chain member other memberToo
    exact Chain.path_injective names (Chain.mem_within_iff.mp member).1
      (Chain.mem_within_iff.mp memberToo).1
  refine ⟨?_, nodup⟩
  -- Since no two paths are the same, keeping the first field of each path keeps all of them.
  obtain ⟨found, registered⟩ := Option.isSome_iff_exists.mp registered
  have paths : ∀ chain : Chain, (chain.descriptor []).path = chain.path := fun chain => rfl
  rw [discover, Schema.entity, registered, discoverFrom_eq, List.map_map, firstByPath_of_nodup]
  · rfl
  · simpa [Function.comp_def, paths] using nodup

end Metadata

namespace Catalog

/-- A catalog that has been asked for entities, however often, since it was new. -/
inductive Asked : Catalog → Prop where
  | new (schema : Schema) (maxDepth : Nat) : Asked { schema, maxDepth }
  | again {catalog next : Catalog} {entity : String} {metadata : Metadata} (asked : Asked catalog)
      (answered : catalog.discover entity = .ok (metadata, next)) : Asked next

/-- What a catalog remembers is what would be discovered again. -/
theorem Asked.known {catalog : Catalog} (asked : catalog.Asked) :
    ∀ metadata ∈ catalog.known,
      Metadata.discover catalog.schema catalog.maxDepth metadata.entity = .ok metadata := by
  induction asked with
  | new => simp
  | again asked answered ih =>
    unfold discover at answered
    split at answered
    · cases answered
      exact ih
    · obtain ⟨metadata, discovered, rest⟩ := Fallible.bind_eq_ok_iff.mp answered
      cases rest
      refine List.forall_mem_cons.mpr ⟨?_, ih⟩
      rwa [(Metadata.startsAt_of_discover discovered).1]

/-- A catalog answers what is discovered for the entity, whatever it has been asked before. -/
theorem Asked.discover {catalog : Catalog} (asked : catalog.Asked) {entity : String}
    {metadata : Metadata}
    (discovered : Metadata.discover catalog.schema catalog.maxDepth entity = .ok metadata) :
    ∃ next, catalog.discover entity = .ok (metadata, next) := by
  unfold Catalog.discover
  split
  · rename_i remembered found
    have again := asked.known remembered (List.mem_of_find?_eq_some found)
    have same : remembered.entity = entity := by simpa using List.find?_some found
    rw [same, discovered] at again
    cases again
    exact ⟨catalog, rfl⟩
  · rw [discovered]
    exact ⟨_, rfl⟩

/-- If all names can be written in paths, a catalog lists for a registered entity exactly the chains
that start at it and go through at most as many fields as the catalog is deep. They are listed in
pre-order, each under a path of its own with the declaring types, kinds and directives of the
chain. -/
theorem discover_lists_chains {catalog : Catalog} (asked : catalog.Asked)
    (names : catalog.schema.PathNames) {entity : String}
    (registered : catalog.schema.contains entity = true) :
    ∃ metadata next, ∃ chains : List Chain, catalog.discover entity = .ok (metadata, next) ∧
      metadata.entity = entity ∧
      metadata.fields = chains.map (fun chain => (chain.path, chain.descriptor [])) ∧
      metadata.paths.Nodup ∧
      (∀ chain, chain ∈ chains ↔
        Chain.From catalog.schema entity chain ∧ chain.way.length ≤ catalog.maxDepth) ∧
      chains.Pairwise (Chain.Precedes catalog.schema entity) := by
  obtain ⟨discovered, nodup⟩ := Metadata.discover_eq_chains names registered catalog.maxDepth
  obtain ⟨next, answered⟩ := asked.discover discovered
  refine ⟨_, next, _, answered, rfl, rfl, ?_, fun chain => Chain.mem_within_iff,
    Chain.pairwise_within catalog.maxDepth entity⟩
  simpa [Metadata.paths, Function.comp_def] using nodup

end Catalog

namespace Sample

/-- Each node may have a parent, which is a node again. -/
def nodes : Schema where
  entities := [
    { name := "Node"
      fields := [
        { name := "name", kind := .scalar .string, searchable := some {} },
        { name := "parent"
          kind := .relation "Node" .one
          searchable := some {}
          nested := true }] }]
  names_nodup := by decide

end Sample

namespace Catalog

open Sample in
/-- The chains of parents never end, and those of at most two are listed. -/
theorem discover_lists_chains_node :
    (Asked { schema := nodes, maxDepth := 2 } ∧ nodes.PathNames ∧ nodes.contains "Node" = true) ∧
    ∃ metadata next, ∃ chains : List Chain,
      discover { schema := nodes, maxDepth := 2 } "Node" = .ok (metadata, next) ∧
        metadata.entity = "Node" ∧
        metadata.fields = chains.map (fun chain => (chain.path, chain.descriptor [])) ∧
        metadata.paths.Nodup ∧
        (∀ chain, chain ∈ chains ↔ Chain.From nodes "Node" chain ∧ chain.way.length ≤ 2) ∧
        chains.Pairwise (Chain.Precedes nodes "Node") := by
  have names : nodes.PathNames := by decide
  exact ⟨⟨.new nodes 2, names, rfl⟩, discover_lists_chains (.new nodes 2) names rfl⟩

open Sample in
example : (Metadata.discover nodes 1 "Node").map Metadata.paths =
    .ok ["name", "parent", ">parent.name", ">parent.parent"] := by cbv

end Catalog

end RecordQuery
