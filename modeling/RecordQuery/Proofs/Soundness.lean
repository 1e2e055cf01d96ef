import RecordQuery.Proofs.Compilation.Request
import RecordQuery.Proofs.Compilation.Reuse
import RecordQuery.Proofs.Store.Loading
import RecordQuery.Proofs.Store.Matching
import RecordQuery.Searcher

/-! # Soundness of compiled queries

Over a valid schema in which no type declares an inherited field again, a search of loaded records
does not fail once its request is compiled, and the expressions of scalar fields have values of the
types of the fields. This needs that different steps of the request have different texts: sources
are made once for each text, and the expression of a field else reads another source. -/

namespace RecordQuery

open Fallible

/-- A field that is read from a source of a fitting type has its type. -/
theorem Descriptor.IsReadBy.hasType {schema : Schema} (valid : schema.Valid)
    (once : schema.DeclaresOnce) {entity : String} {d : Descriptor} {expr : Expr}
    (reads : d.IsReadBy schema entity expr) {type : ValueType} (kind : d.kind = .scalar type)
    {root : Record} (assignable : schema.isAssignable entity root.entity = true)
    (typed : root.Typed schema) : expr.HasType schema root type := by
  obtain ⟨source, reached, owner, field, rfl, sourceType, above, declares, same⟩ := reads
  exact Expr.hasType_attr valid once assignable typed sourceType above declares
    (same.symm.trans kind)

namespace Searcher

variable {schema : Schema} {config : Config} {entity : String} {request : Request}
  {metadata : Metadata} {query : Query} {store : Store}

/-- Compiling a request reads the fields that its paths mean, and its query is over these fields.
They are compiled to their own expressions exactly if different steps to them have different texts,
and then each is read from a source of a fitting type. -/
theorem exists_fields_of_compile
    (discovered : ({ schema, config } : Searcher).metadata entity = .ok metadata)
    (reads : request.ReadsScalars metadata)
    (compiled : ({ schema, config } : Searcher).compile entity request = .ok query) :
    query.entity = entity ∧ ∃ fields after,
      ({ schema, metadata } : Context).fields request.paths = .ok (fields, after) ∧
        query.Over fields ∧
        ((∀ field ∈ fields, field.2.ownExpr? schema entity = some field.1) ↔
          Traversal.Unambiguous (metadata.ways schema request.paths)) ∧
        ((∀ field ∈ fields, field.2.ownExpr? schema entity = some field.1) →
          ∀ field ∈ fields, field.2.IsReadBy schema entity field.1) := by
  obtain ⟨known, found, made⟩ := bind_eq_ok_iff.mp compiled
  cases discovered.symm.trans found
  obtain ⟨rfl, starts⟩ := Metadata.startsAt_of_discover discovered
  obtain ⟨ofEntity, fields, after, read, isOver⟩ := Request.compile_over reads made
  refine ⟨ofEntity, fields, after, read, isOver, Context.own_iff_unambiguous starts read, ?_⟩
  intro own field listed
  obtain ⟨path, meant⟩ := Context.exists_path_of_mem_fields read listed
  exact (starts meant).isReadBy (own field listed)

/-- If names are plain, different steps of every request have different texts. -/
theorem unambiguous_of_discovered (plain : schema.PlainNames)
    (discovered : ({ schema, config } : Searcher).metadata entity = .ok metadata) :
    Traversal.Unambiguous (metadata.ways schema request.paths) := by
  obtain ⟨rfl, starts⟩ := Metadata.startsAt_of_discover discovered
  exact Metadata.unambiguous_ways plain starts request.paths

/-- Once a request is compiled, its query is over the fields of its paths, and each of these is read
by the expression that its own steps lead to exactly if different steps have different texts. Then
a search of loaded records does not fail, and the expression that a path to a scalar field is
compiled to has the type of the field. -/
theorem compile_sound (validated : schema.validate = .ok ()) (once : schema.DeclaresOnce)
    (loaded : Store.Loaded schema store)
    (discovered : ({ schema, config } : Searcher).metadata entity = .ok metadata)
    (reads : request.ReadsScalars metadata)
    (compiled : ({ schema, config } : Searcher).compile entity request = .ok query) :
    ∃ fields after,
      ({ schema, metadata } : Context).fields request.paths = .ok (fields, after) ∧
        query.Over fields ∧
        ((∀ field ∈ fields, field.2.ownExpr? schema entity = some field.1) ↔
          Traversal.Unambiguous (metadata.ways schema request.paths)) ∧
        (Traversal.Unambiguous (metadata.ways schema request.paths) →
          (∃ answer, store.fetch query = .ok answer) ∧
            ∀ record ∈ store.candidates entity, ∀ field ∈ fields, ∀ type,
              field.2.kind = .scalar type → field.1.HasType schema record type) := by
  have valid := Schema.valid_of_validate validated
  obtain ⟨ofSchema, typed⟩ := loaded.typed
  obtain ⟨ofEntity, fields, after, read, isOver, exactly, each⟩ :=
    exists_fields_of_compile discovered reads compiled
  refine ⟨fields, after, read, isOver, exactly, fun apart => ?_⟩
  have types : ∀ record ∈ store.candidates entity, ∀ field ∈ fields, ∀ type,
      field.2.kind = .scalar type → field.1.HasType schema record type := by
    intro record candidate field listed type kind
    obtain ⟨stored, assignable⟩ := Store.mem_candidates_iff.mp candidate
    have recordTyped := typed record stored
    rw [ofSchema] at assignable recordTyped
    exact (each (exactly.mpr apart) field listed).hasType valid once kind assignable recordTyped
  -- The query reads scalar fields only, and what has a type has a value.
  have evaluates : ∀ record ∈ store.candidates query.entity, ∀ field ∈ fields,
      field.2.IsScalar → field.1.Evaluates store.schema record := by
    intro record candidate field listed scalar assignment respects
    obtain ⟨type, kind⟩ := scalar
    rw [ofEntity] at candidate
    rw [ofSchema] at respects ⊢
    obtain ⟨value, found, _⟩ := types record candidate field listed type kind assignment respects
    exact ⟨value, found⟩
  refine ⟨Store.exists_fetch ?_ ?_, types⟩
  · intro predicate given record candidate
    exact (isOver.predicate given).evaluates (evaluates record candidate)
  · intro order listed record candidate
    exact (isOver.orders listed).evaluates (evaluates record candidate)

end Searcher

namespace Sample

/-- A person with a dog and with an animal that is no dog. -/
def document : Json :=
  .object [("name", .string "Ann"),
    ("pets", .array [
      .object [("$type", .string "Dog"), ("name", .string "Rex"), ("age", .integer 3)],
      .object [("name", .string "Tom")]])]

/-- The store with this person. -/
def loaded : Store := (({ schema } : Store).load "Person" document).1

/-- The searchable fields of people. -/
def metadata : Metadata where
  entity := "Person"
  fields :=
    let pets : Segment := ⟨"pets", "Person", .relation "Animal" .many⟩
    [("name", ⟨[], ⟨"name", "Person", .attr⟩, .scalar .string, {}⟩),
      (">pets.name", ⟨[pets], ⟨"name", "Animal", .attr⟩, .scalar .string, {}⟩),
      (">pets.age", ⟨[pets], ⟨"age", "Dog", .attr⟩, .scalar .integer, {}⟩)]

/-- People by name who have a name and a dog of an age. -/
def withDog (age : Int64) : Request where
  filter := some (.call "and" [
    .call "eq" [.field ">pets.age", .literal (.integer age)],
    .call "isNotNull" [.field "name"]])
  sort := [⟨"name", .ascending⟩]

/-- The query that the request compiles to. -/
def withDogQuery (age : Int64) : Query where
  entity := "Person"
  predicate := some (.conjunction [
    .equal (.attr (.narrow (pets .left) "Dog") "age") (.literal (.integer age)),
    .negation (.isNull (.attr (.root "Person") "name"))])
  orders := [⟨"name", .attr (.root "Person") "name", .ascending⟩]
  joinCount := 1

theorem isScalar_name : metadata.IsScalar "name" := by
  intro d meant
  cases meant.symm.trans (by cbv : metadata.get? "name" = some _)
  exact ⟨_, rfl⟩

theorem isScalar_age : metadata.IsScalar ">pets.age" := by
  intro d meant
  cases meant.symm.trans (by cbv : metadata.get? ">pets.age" = some _)
  exact ⟨_, rfl⟩

/-- The request reads scalar fields only. -/
theorem withDog_readsScalars (age : Int64) : (withDog age).ReadsScalars metadata where
  filter given := by
    cases given
    have dog : (Filter.call "eq" [.field ">pets.age", .literal (.integer age)]).ReadsScalars
        metadata := by
      refine .call fun arg listed => ?_
      rcases List.mem_pair.mp listed with rfl | rfl
      · exact .field isScalar_age
      · exact .literal
    have named : (Filter.call "isNotNull" [.field "name"]).ReadsScalars metadata := by
      refine .call fun arg listed => ?_
      rw [List.mem_singleton.mp listed]
      exact .field isScalar_name
    refine .call fun arg listed => ?_
    rcases List.mem_pair.mp listed with rfl | rfl
    · exact dog
    · exact named
  sort listed := by
    rw [List.mem_singleton.mp listed]
    exact isScalar_name

end Sample

namespace Searcher

open Sample in
/-- The way to the age of a dog is told apart from all others, so the search for people with a dog
of three years succeeds, and the age is a whole number where it is known. -/
theorem compile_sound_withDog :
    (Sample.schema.validate = .ok () ∧ Sample.schema.DeclaresOnce ∧
      Store.Loaded Sample.schema loaded ∧
      ({ schema := Sample.schema } : Searcher).metadata "Person" = .ok Sample.metadata ∧
      (withDog 3).ReadsScalars Sample.metadata ∧
      ({ schema := Sample.schema } : Searcher).compile "Person" (withDog 3) = .ok (withDogQuery 3) ∧
      Traversal.Unambiguous (Sample.metadata.ways Sample.schema (withDog 3).paths)) ∧
    ∃ fields after,
      ({ schema := Sample.schema, metadata := Sample.metadata } : Context).fields
          (withDog 3).paths = .ok (fields, after) ∧
        (withDogQuery 3).Over fields ∧
        (∀ field ∈ fields, field.2.ownExpr? Sample.schema "Person" = some field.1) ∧
        (∃ answer, loaded.fetch (withDogQuery 3) = .ok answer) ∧
        ∀ record ∈ loaded.candidates "Person", ∀ field ∈ fields, ∀ type,
          field.2.kind = .scalar type → field.1.HasType Sample.schema record type := by
  have validated : Sample.schema.validate = .ok () := by decide +kernel
  have once : Sample.schema.DeclaresOnce := by decide +kernel
  have filled : Store.Loaded Sample.schema loaded := .load .empty "Person" document
  have discovered : ({ schema := Sample.schema } : Searcher).metadata "Person" =
      .ok Sample.metadata := by cbv
  have reads := withDog_readsScalars 3
  have compiled : ({ schema := Sample.schema } : Searcher).compile "Person" (withDog 3) =
      .ok (withDogQuery 3) := by cbv
  have apart : Traversal.Unambiguous (Sample.metadata.ways Sample.schema (withDog 3).paths) := by
    decide +kernel
  refine ⟨⟨validated, once, filled, discovered, reads, compiled, apart⟩, ?_⟩
  obtain ⟨fields, after, read, isOver, exactly, sound⟩ :=
    compile_sound validated once filled discovered reads compiled
  exact ⟨fields, after, read, isOver, exactly.mpr apart, sound apart⟩

end Searcher

namespace Sample

/-- The town `near` the `home` and the distance of `home.near` are reached by steps of one text. -/
def homes : Schema where
  entities := [
    { name := "Person"
      fields := [
        { name := "home", kind := .embedded "Place", nested := true },
        { name := "home.near", kind := .embedded "Distance", nested := true }] },
    { name := "Place"
      fields := [{ name := "near", kind := .embedded "Town", nested := true }] },
    { name := "Town"
      fields := [
        { name := "title", kind := .scalar .string, searchable := some {} },
        { name := "size", kind := .relation "Person" .many }] },
    { name := "Distance"
      fields := [{ name := "size", kind := .scalar .integer, searchable := some {} }] }]
  names_nodup := by decide

/-- Somebody whose home is near Rome and at a distance. -/
def roman : Json :=
  .object [
    ("home", .object [
      ("near", .object [("title", .string "Rome"), ("size", .array [.object []])])]),
    ("home.near", .object [("size", .integer 5)])]

/-- People whose home is at a distance from Rome. -/
def nearRome : Request where
  filter := some (.call "and" [
    .call "eq" [.field "home.near.title", .literal (.string "Rome")],
    .call "eq" [.field "home.near.size", .literal (.integer 5)]])

-- The size of the distance is read from the town, where it is a relation.
example :
    ({ schema := homes } : Searcher).search (({ schema := homes } : Store).load "Person" roman).1
      "Person" nearRome =
    .error (.execution "'Person.home.near.size' holds records, not a value") := by cbv

end Sample

end RecordQuery
