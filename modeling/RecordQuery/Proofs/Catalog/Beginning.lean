import RecordQuery.Proofs.Catalog.Chain
import RecordQuery.Proofs.Catalog.Way
import RecordQuery.Proofs.Query.Redraw

/-! # Where the steps to a field begin

The steps to a field begin at the record searched for, or at a narrowing of it, and go on in the
same way whatever entity is searched for. So the expressions of one field for two entities differ in
their beginnings only, and these stand for the same records below both entities. -/

namespace RecordQuery

open Fallible

namespace Source

/-- Where a field that a type declares is reached from records of an entity: at the record, which is
narrowed to the type unless every record of the entity is of the type. -/
def start (schema : Schema) (entity owner : String) : Source :=
  if schema.isAssignable owner entity then .root entity else .narrow (.root entity) owner

/-- Sources begin at records of an entity instead. A record that is not narrowed is where a name is
read that some type may be known to declare. -/
def restart (schema : Schema) (entity : String) (owner? : String → Option String) : Base :=
  fun name type => ((type.or (owner? name)).map (start schema entity)).getD (.root entity)

variable {schema : Schema} {entity : String} {owner? : String → Option String}

/-- No joins lead to where a field begins. -/
theorem joins_start (owner : String) : (start schema entity owner).joins = [] := by
  unfold start
  split <;> rfl

/-- The start for a type stands for the records that are of the type. -/
theorem record?_start (valid : schema.Valid) {root : Record}
    (below : schema.isAssignable entity root.entity = true) (owner : String)
    (assignment : Assignment) :
    (start schema entity owner).record? schema root assignment =
      (some root).filter fun record => schema.isAssignable owner record.entity := by
  unfold start
  split
  · rename_i above
    rw [record?, Option.filter_some, Schema.isAssignable_trans valid above below]
    rfl
  · rfl

/-- For a record below the entity, and below the types that declare names, to begin at the entity
instead makes no difference. -/
theorem restart_fits (valid : schema.Valid) {root : Record}
    (below : schema.isAssignable entity root.entity = true)
    (owners : ∀ {name owner}, owner? name = some owner →
      schema.isAssignable owner root.entity = true) :
    (restart schema entity owner?).Fits schema root where
  joins name type := by
    unfold restart
    cases type.or (owner? name) with
    | some owner => exact joins_start owner
    | none => rfl
  whole name assignment := by
    cases declared : owner? name with
    | none => simp [restart, declared, record?]
    | some owner =>
      simp [restart, declared, record?_start valid below, Option.filter_some, owners declared]
  narrowed _ type assignment := record?_start valid below type assignment

/-- A start is taken to the start for the same type. -/
theorem rebase_start {other owner name : String}
    (declared : schema.isAssignable owner other = true → owner? name = some owner) :
    (start schema other owner).rebase (restart schema entity owner?) name =
      start schema entity owner := by
  by_cases above : schema.isAssignable owner other = true
  · have whole : start schema other owner = .root other := if_pos above
    simp [whole, rebase, restart, declared above]
  · have narrowed : start schema other owner = .narrow (.root other) owner := if_neg above
    rw [narrowed]
    rfl

/-- Behind its beginning a source goes on as before. -/
theorem rebase_through {base : Base} {source begun : Source}
    (inner : ∀ entity, source ≠ root entity) (same : ∀ name, source.rebase base name = begun)
    (steps : Traversal) (name : String) :
    (source.through steps).rebase base name = begun.through steps := by
  induction steps generalizing source begun with
  | nil => exact same name
  | cons step rest ih =>
    rw [through, through, List.foldl_cons, List.foldl_cons]
    -- Once a step leads off the root, no narrowing is taken for a beginning any more.
    refine ih (fun entity => ?_) fun name => ?_
    · cases step with
      | attr name => exact inner entity
      | _ => exact fun absurd => by cases absurd
    · cases step with
      | narrow type => exact (rebase_narrow inner type name).trans (by rw [same]; rfl)
      | join relation => exact congrArg (join · relation .left) (same relation)
      | embedded inside => exact congrArg (embedded · inside) (same inside)
      | attr _ => exact same name

end Source

namespace Traversal

variable {schema : Schema}

/-- The step of a nested field does not depend on the type that it is taken from. -/
theorem segmentStep_of_nested {segment : Segment} (nested : segment.kind ≠ .attr)
    (current other : String) : segmentStep current segment = segmentStep other segment := by
  unfold segmentStep
  split <;> simp_all

/-- The step of a segment that is no attribute reads no attribute. -/
theorem segmentStep_ne_attr {segment : Segment} (nested : segment.kind ≠ .attr) {current : String}
    (name : String) : (segmentStep current segment).1 ≠ .attr name := by
  unfold segmentStep
  split <;> simp_all

/-- Behind a nested field the source is taken to the one behind the same field. -/
theorem rebase_segmentStep {segment : Segment} (nested : segment.kind ≠ .attr) {current : String}
    {base : Source.Base} {source begun : Source} (moves : source.rebase base segment.name = begun) :
    (∀ entity, (segmentStep current segment).1.lead source ≠ .root entity) ∧
      ∀ name, ((segmentStep current segment).1.lead source).rebase base name =
        (segmentStep current segment).1.lead begun := by
  subst moves
  unfold segmentStep
  split
  · exact ⟨fun _ same => (by cases same), fun _ => rfl⟩
  · exact ⟨fun _ same => (by cases same), fun _ => rfl⟩
  · rename_i ends
    exact absurd ends nested

/-- A narrowing leads to where a field of the declaring type begins. -/
theorem narrowing?_eq_some {current owner : String} {narrowing : List Step}
    (narrows : narrowing? schema current owner = some narrowing) :
    (Source.root current).through narrowing = Source.start schema current owner := by
  unfold narrowing? at narrows
  unfold Source.start
  split at narrows
  · rename_i above
    cases narrows
    rw [if_pos above]
    rfl
  · rename_i notAbove
    split at narrows
    · cases narrows
      rw [if_neg notAbove]
      rfl
    · cases narrows

/-- The steps of segments are a narrowing to where the first one is reached, the step of that one,
and the steps of the rest. -/
theorem ofSegments_cons {path current : String} {first : Segment} {rest : List Segment}
    {steps : Traversal}
    (resolved : ofSegments schema path current (first :: rest) = .ok steps) :
    ∃ narrowing reached more, steps = narrowing ++ (segmentStep reached first).1 :: more ∧
      (Source.root current).through narrowing = Source.start schema current first.declaringType ∧
      ofSegments schema path (segmentStep reached first).2 rest = .ok more := by
  rw [ofSegments] at resolved
  cases narrows : narrowing? schema current first.declaringType with
  | none => simp [narrows] at resolved
  | some narrowing =>
    simp only [narrows] at resolved
    obtain ⟨more, further, resolved⟩ := bind_eq_ok_iff.mp resolved
    cases resolved
    exact ⟨narrowing, _, more, rfl, narrowing?_eq_some narrows, further⟩

end Traversal

namespace Descriptor

variable {schema : Schema}

/-- The own expression of a field reads the attribute that its steps end in. -/
theorem resolve_of_ownExpr? {entity : String} {d : Descriptor} {expr : Expr}
    (own : d.ownExpr? schema entity = some expr) : ∃ way name,
      Traversal.resolve schema entity d = .ok (way ++ [.attr name]) ∧
        expr = .attr ((Source.root entity).through way) name := by
  unfold ownExpr? at own
  cases resolved : Traversal.resolve schema entity d with
  | error fault => simp [resolved, Except.toOption] at own
  | ok steps =>
    cases last : steps.getLast? with
    | none => simp [resolved, Except.toOption, last] at own
    | some step =>
      obtain ⟨way, rfl⟩ := List.getLast?_eq_some_iff.mp last
      cases step with
      | attr name =>
        simp only [resolved, Except.toOption, Option.bind_eq_bind, Option.bind_some, last,
          List.dropLast_concat, Option.some.injEq] at own
        exact ⟨way, name, rfl, own.symm⟩
      | _ => simp [resolved, Except.toOption] at own

/-- The own expression of a field without a way reads it where it is reached. -/
theorem ownExpr?_of_single {entity : String} {d : Descriptor} {first : Segment}
    (single : d.segments = [first]) {expr : Expr} (own : d.ownExpr? schema entity = some expr) :
    expr = .attr (Source.start schema entity first.declaringType) first.name := by
  obtain ⟨way, name, resolved, rfl⟩ := resolve_of_ownExpr? own
  rw [Traversal.resolve, single] at resolved
  obtain ⟨narrowing, reached, more, split, starts, further⟩ := Traversal.ofSegments_cons resolved
  cases further
  obtain ⟨rfl, last⟩ := List.append_inj' split rfl
  rw [starts]
  unfold Traversal.segmentStep at last
  split at last
  · simp at last
  · simp at last
  · simp only [List.cons.injEq, Step.attr.injEq, and_true] at last
    rw [last]

/-- The own expression of a field behind a nested one goes on from where the nested field leads. -/
theorem ownExpr?_of_nested {entity : String} {d : Descriptor} {first : Segment}
    {rest : List Segment} (begins : d.segments = first :: rest) (nested : first.kind ≠ .attr)
    {expr : Expr} (own : d.ownExpr? schema entity = some expr) : ∃ way name,
      Traversal.ofSegments schema d.path (Traversal.segmentStep first.declaringType first).2 rest =
        .ok (way ++ [.attr name]) ∧
      expr = .attr (((Traversal.segmentStep first.declaringType first).1.lead
        (Source.start schema entity first.declaringType)).through way) name := by
  obtain ⟨whole, name, resolved, rfl⟩ := resolve_of_ownExpr? own
  rw [Traversal.resolve, begins] at resolved
  obtain ⟨narrowing, reached, more, split, starts, further⟩ := Traversal.ofSegments_cons resolved
  rw [Traversal.segmentStep_of_nested nested reached first.declaringType] at split further
  rcases List.eq_nil_or_concat more with rfl | ⟨way, last, rfl⟩
  · obtain ⟨-, last⟩ := List.append_inj' split rfl
    exact absurd (List.cons.inj last).1.symm (Traversal.segmentStep_ne_attr nested name)
  · rw [List.concat_eq_append] at split further
    have regrouped : whole ++ [.attr name] =
        (narrowing ++ (Traversal.segmentStep first.declaringType first).1 :: way) ++ [last] := by
      rw [split]
      simp
    obtain ⟨rfl, same⟩ := List.append_inj' regrouped rfl
    cases same
    refine ⟨way, name, further, ?_⟩
    rw [Source.through_append, starts]
    rfl

/-- If the start of a field for one entity is taken to its start for another one, so is the own
expression of the field. -/
theorem ownExpr?_redraw {entity other : String} {d : Descriptor} {first : Segment}
    {rest : List Segment} (begins : d.segments = first :: rest)
    (nested : rest = [] ∨ first.kind ≠ .attr) {base : Source.Base}
    (moves : (Source.start schema entity first.declaringType).rebase base first.name =
      Source.start schema other first.declaringType)
    {expr exprToo : Expr} (own : d.ownExpr? schema entity = some expr)
    (ownToo : d.ownExpr? schema other = some exprToo) :
    exprToo = expr.redraw (Source.rebase base) := by
  by_cases ends : first.kind = .attr
  · obtain rfl : rest = [] := nested.resolve_right (not_not.mpr ends)
    rw [ownExpr?_of_single begins own, ownExpr?_of_single begins ownToo, Expr.redraw, moves]
  · obtain ⟨way, name, further, rfl⟩ := ownExpr?_of_nested begins ends own
    obtain ⟨wayToo, nameToo, furtherToo, rfl⟩ := ownExpr?_of_nested begins ends ownToo
    obtain ⟨rfl, same⟩ := List.append_inj' (Except.ok.inj (further.symm.trans furtherToo)) rfl
    cases same
    rw [Expr.redraw]
    congr 1
    obtain ⟨inner, leads⟩ := Traversal.rebase_segmentStep ends moves
    exact (Source.rebase_through inner leads way name).symm

end Descriptor

/-! ## Fields of two entities -/

namespace Schema

variable {schema : Schema}

/-- The type that declares the field of a name that is visible from an entity, if it is above a
type. -/
def ownerAbove? (schema : Schema) (entity type name : String) : Option String :=
  (((schema.visibleFields entity).find? (·.2.name == name)).map (·.1)).filter
    (schema.isAssignable · type)

/-- The type that declares a visible field is found if it is above the given one. -/
theorem ownerAbove?_of_visible {entity type : String} {declaration : String × Field}
    (visible : declaration ∈ schema.visibleFields entity)
    (above : schema.isAssignable declaration.1 type = true) :
    schema.ownerAbove? entity type declaration.2.name = some declaration.1 := by
  unfold ownerAbove?
  cases found : (schema.visibleFields entity).find? (·.2.name == declaration.2.name) with
  | none => simpa using List.find?_eq_none.mp found declaration visible
  | some other =>
    have name : other.2.name = declaration.2.name := by simpa using List.find?_some found
    rw [eq_of_visible (List.mem_of_find?_eq_some found) visible name, Option.map_some,
      Option.filter_some, above]
    rfl

/-- The type that is found is above the given one. -/
theorem isAssignable_of_ownerAbove? {entity type name owner : String}
    (found : schema.ownerAbove? entity type name = some owner) :
    schema.isAssignable owner type = true :=
  (Option.filter_eq_some_iff.mp found).2

end Schema

variable {schema : Schema}

/-- The segments along a chain begin with the segment of a visible field, and others follow only if
it is nested. -/
theorem Chain.exists_segments {type : String} {chain : Chain} (starts : From schema type chain) :
    ∃ declaration ∈ schema.visibleFields type, ∃ first rest,
      (chain.descriptor []).segments = first :: rest ∧ first.declaringType = declaration.1 ∧
        first.name = declaration.2.name ∧ (rest = [] ∨ first.kind ≠ .attr) := by
  cases starts with
  | @last type declaration visible => exact ⟨declaration, visible, _, [], rfl, rfl, rfl, .inl rfl⟩
  | @through type target declaration last way visible nested leads further =>
    refine ⟨declaration, visible, _, _, rfl, rfl, rfl, .inr ?_⟩
    cases kind : declaration.2.kind <;> simp_all [FieldKind.segmentKind, FieldKind.target?]

namespace Metadata

/-- A field that is discovered lies at the end of a chain. -/
theorem exists_chain_of_get? {depth : Nat} {entity path : String} {metadata : Metadata}
    {d : Descriptor} (discovered : discover schema depth entity = .ok metadata)
    (found : metadata.get? path = some d) :
    ∃ chain, Chain.From schema entity chain ∧ d = chain.descriptor [] := by
  have member := mem_discoverFrom_of_discover discovered (mem_descriptors_of_get? found)
  rw [discoverFrom_eq] at member
  obtain ⟨chain, within, rfl⟩ := List.mem_map.mp member
  exact ⟨chain, (Chain.mem_within_iff.mp within).1, rfl⟩

/-- The own expression of a field for one entity is taken to the one for another entity, if both
entities are above some type. -/
theorem ownExpr?_restart (valid : schema.Valid) {depth : Nat} {entity other type path : String}
    {metadata : Metadata} (discovered : discover schema depth entity = .ok metadata)
    (above : schema.isAssignable entity type = true) {d : Descriptor}
    (found : metadata.get? path = some d) {expr exprToo : Expr}
    (own : d.ownExpr? schema entity = some expr)
    (ownToo : d.ownExpr? schema other = some exprToo) :
    exprToo = expr.redraw
      (Source.rebase (Source.restart schema other (schema.ownerAbove? entity type))) := by
  obtain ⟨chain, starts, rfl⟩ := exists_chain_of_get? discovered found
  obtain ⟨declaration, visible, first, rest, begins, owner, name, nested⟩ :=
    Chain.exists_segments starts
  refine Descriptor.ownExpr?_redraw begins nested (Source.rebase_start fun aboveEntity => ?_) own
    ownToo
  rw [owner] at aboveEntity ⊢
  rw [name]
  exact Schema.ownerAbove?_of_visible visible (Schema.isAssignable_trans valid aboveEntity above)

end Metadata

end RecordQuery
