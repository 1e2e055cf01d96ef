import RecordQuery.Proofs.Catalog.Beginning
import RecordQuery.Proofs.Compilation.Request
import RecordQuery.Proofs.Compilation.Twins
import RecordQuery.Proofs.Store.Loading
import RecordQuery.Proofs.Store.Matching
import RecordQuery.Searcher

/-! # Searches for a type and for its subtypes

A filter whose paths mean the same fields of two entities selects the same records of a type below
both. So a search for a subtype finds what the search for its base type finds among the records of
the subtype. This needs that the paths mean the same fields: of the subtypes of a type that declare
fields of one name, only the field of the first one registered can be searched from above. -/

namespace RecordQuery

open Fallible

/-- A predicate is satisfied if what it becomes with sources that begin elsewhere is satisfied. -/
theorem Predicate.SatisfiedBy.of_redraw {schema : Schema} {record : Record} {base : Source.Base}
    (fits : base.Fits schema record) {predicate : Predicate}
    (satisfied : (predicate.redraw (Source.rebase base)).SatisfiedBy schema record) :
    predicate.SatisfiedBy schema record := by
  obtain ⟨assignment, respects, holds⟩ := satisfied
  exact exists_assignment_of_redraw fits respects holds

namespace Filter

variable {schema : Schema} {depth : Nat} {entity other type : String} {filter : Filter}
  {metadata metadataToo : Metadata}

/-- The paths of a filter mean the same fields of two entities, and for each of the two different
steps have different texts. -/
structure MeansSame (schema : Schema) (metadata metadataToo : Metadata) (filter : Filter) :
    Prop where
  fields {path : String} (listed : path ∈ filter.fields) :
    metadata.get? path = metadataToo.get? path
  apart : Traversal.Unambiguous (metadata.ways schema filter.fields)
  apartToo : Traversal.Unambiguous (metadataToo.ways schema filter.fields)

theorem MeansSame.symm (same : filter.MeansSame schema metadata metadataToo) :
    filter.MeansSame schema metadataToo metadata :=
  ⟨fun listed => (same.fields listed).symm, same.apartToo, same.apart⟩

/-- The fields of a filter for two entities, the first of them above some type, are twins. -/
theorem MeansSame.twins (same : filter.MeansSame schema metadata metadataToo) (valid : schema.Valid)
    (discovered : Metadata.discover schema depth entity = .ok metadata)
    (discoveredToo : Metadata.discover schema depth other = .ok metadataToo)
    (above : schema.isAssignable entity type = true) :
    Metadata.Twins schema
      (Source.rebase (Source.restart schema other (schema.ownerAbove? entity type)))
      filter.fields metadata metadataToo := by
  obtain ⟨rfl, starts⟩ := Metadata.startsAt_of_discover discovered
  obtain ⟨rfl, startsToo⟩ := Metadata.startsAt_of_discover discoveredToo
  exact ⟨starts, startsToo, same.apart, same.apartToo, same.fields, fun _ meant own ownToo =>
    Metadata.ownExpr?_restart valid discovered above meant own ownToo⟩

/-- The predicate of a filter for one entity is satisfied by a record below two entities if that for
the other one is. -/
theorem satisfiedBy_of_satisfiedBy (same : filter.MeansSame schema metadata metadataToo)
    (valid : schema.Valid) (noEnum : filter.Without "enum")
    (discovered : Metadata.discover schema depth entity = .ok metadata)
    (discoveredToo : Metadata.discover schema depth other = .ok metadataToo)
    {predicate predicateToo : Predicate} {after afterToo : Context}
    (compiled : filter.predicate .builtin { schema, metadata } = .ok (predicate, after))
    (compiledToo : filter.predicate .builtin { schema, metadata := metadataToo } =
      .ok (predicateToo, afterToo)) {record : Record}
    (below : schema.isAssignable entity record.entity = true)
    (belowToo : schema.isAssignable other record.entity = true)
    (satisfied : predicateToo.SatisfiedBy schema record) : predicate.SatisfiedBy schema record := by
  rw [predicate_redraw (same.twins valid discovered discoveredToo below) noEnum compiled
    compiledToo] at satisfied
  exact .of_redraw (Source.restart_fits valid belowToo Schema.isAssignable_of_ownerAbove?) satisfied

end Filter

/-- A request without sort criteria is compiled to a query for its filter. -/
theorem Request.compile_of_filter {registry : Registry} {maxDepth : Nat} {schema : Schema}
    {metadata : Metadata} {filter : Filter} {query : Query}
    (compiled : ({ filter := some filter } : Request).compile registry maxDepth schema metadata =
      .ok query) :
    query.entity = metadata.entity ∧ query.orders = [] ∧ ∃ predicate after,
      query.predicate = some predicate ∧
        filter.predicate registry { schema, metadata } = .ok (predicate, after) := by
  obtain ⟨⟨predicate, middle⟩, first, compiled⟩ := bind_eq_ok_iff.mp compiled
  obtain ⟨⟨orders, after⟩, second, compiled⟩ := bind_eq_ok_iff.mp compiled
  cases second
  cases compiled
  obtain ⟨condition, made, rfl⟩ := Request.of_predicate first
  exact ⟨rfl, rfl, condition, middle, rfl, made⟩

namespace Store

open Classical in
/-- A search with a predicate and without orders finds the candidates that satisfy the predicate. -/
theorem eq_filter_of_fetch {store : Store} {query : Query} {answer : List Record}
    (unordered : query.orders = []) {predicate : Predicate}
    (given : query.predicate = some predicate) (fetched : store.fetch query = .ok answer) :
    answer = (store.candidates query.entity).filter fun record =>
      decide (predicate.SatisfiedBy store.schema record) := by
  obtain ⟨found, matched, rfl⟩ := fetch_eq_ok_iff.mp fetched
  rw [ranking_of_orders_eq_nil unordered, Query.matchesOf_records unordered matched]
  simp only [given, Option.some.injEq, forall_eq']

end Store

namespace Searcher

variable {schema : Schema} {config : Config} {entity sub : String} {store : Store}
  {filter : Filter} {metadata metadataSub : Metadata} {found foundSub : List Record}

open Classical in
/-- A search with a filter finds the records of the entity that satisfy the predicate of the
filter. -/
theorem exists_predicate_of_search
    (discovered : ({ schema, config } : Searcher).metadata entity = .ok metadata)
    (searched : ({ schema, config } : Searcher).search store entity { filter := some filter } =
      .ok found) :
    ∃ predicate after, filter.predicate .builtin { schema, metadata } = .ok (predicate, after) ∧
      found = (store.candidates entity).filter fun record =>
        decide (predicate.SatisfiedBy store.schema record) := by
  obtain ⟨query, compiled, fetched⟩ := bind_eq_ok_iff.mp searched
  obtain ⟨known, foundToo, made⟩ := bind_eq_ok_iff.mp compiled
  cases discovered.symm.trans foundToo
  obtain ⟨ofEntity, unordered, predicate, after, given, condition⟩ := Request.compile_of_filter made
  have ofMetadata : metadata.entity = entity := (Metadata.startsAt_of_discover discovered).1
  refine ⟨predicate, after, condition, ?_⟩
  rw [Store.eq_filter_of_fetch unordered given fetched, ofEntity, ofMetadata]

/-- Over a valid schema let the paths of a filter without `enum` mean the same fields of a type and
of a subtype, and let different steps to them have different texts. Then a search for the subtype
finds those records that the search for the type finds and that are of the subtype. -/
theorem search_subtype (validated : schema.validate = .ok ())
    (below : schema.isAssignable entity sub = true) (ofSchema : store.schema = schema)
    (noEnum : filter.Without "enum")
    (discovered : ({ schema, config } : Searcher).metadata entity = .ok metadata)
    (discoveredSub : ({ schema, config } : Searcher).metadata sub = .ok metadataSub)
    (same : filter.MeansSame schema metadata metadataSub)
    (searched : ({ schema, config } : Searcher).search store entity { filter := some filter } =
      .ok found)
    (searchedSub : ({ schema, config } : Searcher).search store sub { filter := some filter } =
      .ok foundSub) :
    foundSub = found.filter fun record => schema.isAssignable sub record.entity := by
  have valid := Schema.valid_of_validate validated
  subst ofSchema
  obtain ⟨predicate, after, compiled, rfl⟩ := exists_predicate_of_search discovered searched
  obtain ⟨predicateSub, afterSub, compiledSub, rfl⟩ :=
    exists_predicate_of_search discoveredSub searchedSub
  rw [Store.candidates, Store.candidates, List.filter_filter, List.filter_filter,
    List.filter_filter]
  -- Both searches go through one list. A record that is not of the subtype is in neither answer,
  -- and on one that is, the two predicates agree.
  refine List.filter_congr fun record _ => ?_
  by_cases ofSub : store.schema.isAssignable sub record.entity = true
  · have ofEntity := Schema.isAssignable_trans valid below ofSub
    have satisfied : predicateSub.SatisfiedBy store.schema record ↔
        predicate.SatisfiedBy store.schema record :=
      ⟨Filter.satisfiedBy_of_satisfiedBy same valid noEnum discovered discoveredSub compiled
          compiledSub ofEntity ofSub,
        Filter.satisfiedBy_of_satisfiedBy same.symm valid noEnum discoveredSub discovered
          compiledSub compiled ofSub ofEntity⟩
    simp [ofSub, ofEntity, satisfied]
  · simp [ofSub]

end Searcher

namespace Sample

/-- The fields of animals, which are also those of dogs. -/
def ofAnimals (entity : String) : Metadata where
  entity
  fields := [
    ("name", ⟨[], ⟨"name", "Animal", .attr⟩, .scalar .string, {}⟩),
    ("age", ⟨[], ⟨"age", "Dog", .attr⟩, .scalar .integer, {}⟩)]

def shelter : Store := { schema, records := [cat "Tom", dog "Rex" 3, dog "Ace" 7] }

/-- Animals that are called Tom or three years old. -/
def tomOrThree : Filter :=
  .call "or" [
    .call "eq" [.field "name", .literal (.string "Tom")],
    .call "eq" [.field "age", .literal (.integer 3)]]

theorem tomOrThree_without : tomOrThree.Without "enum" := by
  refine .call (by decide) fun arg listed => ?_
  rcases List.mem_pair.mp listed with rfl | rfl
  all_goals
    refine .call (by decide) fun inner member => ?_
    rcases List.mem_pair.mp member with rfl | rfl
    · exact .field
    · exact .literal

/-- Cats and dogs both have an age of their own. -/
def siblings : Schema where
  entities := [
    { name := "Animal" },
    { name := "Cat"
      base := some "Animal"
      fields := [{ name := "age", kind := .scalar .integer, searchable := some {} }] },
    { name := "Dog"
      base := some "Animal"
      fields := [{ name := "age", kind := .scalar .integer, searchable := some {} }] }]
  names_nodup := by decide

/-- The age that animals of an entity have from one of the two. -/
def agesOf (entity owner : String) : Metadata where
  entity
  fields := [("age", ⟨[], ⟨"age", owner, .attr⟩, .scalar .integer, {}⟩)]

/-- A dog that is three years old. -/
def kennel : Store :=
  (({ schema := siblings } : Store).load "Dog" (.object [("age", .integer 3)])).1

/-- Animals that are three years old. -/
def isThree : Filter := .call "eq" [.field "age", .literal (.integer 3)]

/-- The home of a guest is near a town, and it is at a distance from somewhere. -/
def guests : Schema where
  entities := [
    { name := "Person", fields := [{ name := "home", kind := .embedded "Place", nested := true }] },
    { name := "Guest"
      base := some "Person"
      fields := [{ name := "home.near", kind := .embedded "Distance", nested := true }] },
    { name := "Place", fields := [{ name := "near", kind := .embedded "Town", nested := true }] },
    { name := "Town"
      fields := [{ name := "title", kind := .scalar .string, searchable := some {} }] },
    { name := "Distance"
      fields := [{ name := "size", kind := .scalar .integer, searchable := some {} }] }]
  names_nodup := by decide

/-- A guest whose home is near Rome. -/
def guest : Record :=
  ⟨"Guest", [("home", .embedded ⟨"Place", [("near", .embedded
      ⟨"Town", [("title", .value (.string "Rome"))]⟩)]⟩),
    ("home.near", .embedded ⟨"Distance", [("size", .value (.integer 5))]⟩)]⟩

end Sample

namespace Searcher

open Sample in
/-- Of the animals that are called Tom or three years old only a dog is found among the dogs. -/
theorem search_subtype_dog :
    (Sample.schema.validate = .ok () ∧ Sample.schema.isAssignable "Animal" "Dog" = true ∧
      shelter.schema = Sample.schema ∧ tomOrThree.Without "enum" ∧
      ({ schema := Sample.schema } : Searcher).metadata "Animal" = .ok (ofAnimals "Animal") ∧
      ({ schema := Sample.schema } : Searcher).metadata "Dog" = .ok (ofAnimals "Dog") ∧
      tomOrThree.MeansSame Sample.schema (ofAnimals "Animal") (ofAnimals "Dog") ∧
      ({ schema := Sample.schema } : Searcher).search shelter "Animal"
        { filter := some tomOrThree } = .ok [cat "Tom", dog "Rex" 3] ∧
      ({ schema := Sample.schema } : Searcher).search shelter "Dog"
        { filter := some tomOrThree } = .ok [dog "Rex" 3]) ∧
    [dog "Rex" 3] = [cat "Tom", dog "Rex" 3].filter fun record =>
      Sample.schema.isAssignable "Dog" record.entity := by
  have validated : Sample.schema.validate = .ok () := by decide +kernel
  have below : Sample.schema.isAssignable "Animal" "Dog" = true := by decide +kernel
  have discovered : ({ schema := Sample.schema } : Searcher).metadata "Animal" =
      .ok (ofAnimals "Animal") := by cbv
  have discoveredSub : ({ schema := Sample.schema } : Searcher).metadata "Dog" =
      .ok (ofAnimals "Dog") := by cbv
  have same : tomOrThree.MeansSame Sample.schema (ofAnimals "Animal") (ofAnimals "Dog") :=
    ⟨fun _ => rfl, by decide +kernel, by decide +kernel⟩
  have searched : ({ schema := Sample.schema } : Searcher).search shelter "Animal"
      { filter := some tomOrThree } = .ok [cat "Tom", dog "Rex" 3] := by cbv
  have searchedSub : ({ schema := Sample.schema } : Searcher).search shelter "Dog"
      { filter := some tomOrThree } = .ok [dog "Rex" 3] := by cbv
  refine ⟨⟨validated, below, rfl, tomOrThree_without, discovered, discoveredSub, same, searched,
    searchedSub⟩, ?_⟩
  exact search_subtype validated below rfl tomOrThree_without discovered discoveredSub same searched
    searchedSub

open Sample in
/-- Of the ages of cats and of dogs only that of cats can be searched for among all animals. A dog
of three years is found among the dogs, but not among the animals. -/
theorem search_sibling_fields :
    (siblings.validate = .ok () ∧ siblings.DeclaresOnce ∧
      siblings.isAssignable "Animal" "Dog" = true ∧ Store.Loaded siblings kennel ∧
      isThree.Without "enum" ∧
      (∃ metadata, ({ schema := siblings } : Searcher).metadata "Animal" = .ok metadata ∧
        ∀ path ∈ isThree.fields, (metadata.get? path).isSome = true) ∧
      ∃ metadata, ({ schema := siblings } : Searcher).metadata "Dog" = .ok metadata ∧
        ∀ path ∈ isThree.fields, (metadata.get? path).isSome = true) ∧
    ∃ found foundSub,
      ({ schema := siblings } : Searcher).search kennel "Animal" { filter := some isThree } =
        .ok found ∧
      ({ schema := siblings } : Searcher).search kennel "Dog" { filter := some isThree } =
        .ok foundSub ∧
      foundSub ≠ found.filter fun record => siblings.isAssignable "Dog" record.entity := by
  have noEnum : isThree.Without "enum" := by
    refine .call (by decide) fun arg listed => ?_
    rcases List.mem_pair.mp listed with rfl | rfl
    · exact .field
    · exact .literal
  have ofAll : ({ schema := siblings } : Searcher).metadata "Animal" =
      .ok (agesOf "Animal" "Cat") := by cbv
  have ofDogs : ({ schema := siblings } : Searcher).metadata "Dog" = .ok (agesOf "Dog" "Dog") := by
    cbv
  refine ⟨⟨by decide +kernel, by decide +kernel, by decide +kernel, .load .empty "Dog" _, noEnum,
    ⟨_, ofAll, by decide +kernel⟩, ⟨_, ofDogs, by decide +kernel⟩⟩,
    [], [⟨"Dog", [("age", .value (.integer 3))]⟩], by cbv, by cbv, ?_⟩
  exact List.cons_ne_nil _ _

-- In the search for guests, the steps to the town and to the distance have one text, and the size
-- is read from the town.
open Sample in
example :
    let filter : Filter := .call "and" [
      .call "eq" [.field "home.near.title", .literal (.string "Rome")],
      .call "eq" [.field "home.near.size", .literal (.integer 5)]]
    let search := ({ schema := guests } : Searcher).search { schema := guests, records := [guest] }
    search "Person" { filter := some filter } = .ok [guest] ∧
      search "Guest" { filter := some filter } = .ok [] := by
  constructor <;> cbv

end Searcher

end RecordQuery
