import RecordQuery.Proofs.Compilation.JoinCount
import RecordQuery.Proofs.Compilation.Request
import RecordQuery.Proofs.Compilation.Resolution

/-! # Sources are shared unnoticed

If names are plain, it does not show in what is compiled that sources are made once: each path and
each part of a filter is compiled to what it is compiled to alone, and the joins that are made are
those on the ways to the fields, each once. -/

namespace RecordQuery

open Fallible

/-! ## Paths that are compiled -/

namespace Filter

mutual

/-- To compile a filter is to compile its paths in order. -/
theorem exists_fields_of_operand : ∀ {filter : Filter} {context after : Context} {result : Operand},
    operand .builtin filter context = .ok (result, after) →
      ∃ found, context.fields filter.fields = .ok (found, after)
  | .literal _, _, _, _, compiled => by
    rw [operand] at compiled
    obtain ⟨rfl, rfl⟩ := Compiler.pure_eq_ok_iff.mp compiled
    exact ⟨[], rfl⟩
  | .field _, _, _, _, compiled => by
    rw [operand] at compiled
    obtain ⟨expr, d, rfl, found⟩ := Context.of_fieldOperand compiled
    exact ⟨_, Context.fields_single found⟩
  | .call name args, _, _, _, compiled => by
    obtain ⟨operator, results, middle, registered, made, evaluated⟩ := of_operand_call compiled
    rw [(Registry.builtin_reads registered).stays evaluated]
    exact exists_fields_of_operands made

/-- If arguments compile, so do their paths, with the same context left. -/
theorem exists_fields_of_operands : ∀ {args : List Filter} {context after : Context}
    {results : List Operand}, operands .builtin args context = .ok (results, after) →
      ∃ found, context.fields (fieldsOfArgs args) = .ok (found, after)
  | [], _, _, _, compiled => by
    rw [operands] at compiled
    obtain ⟨rfl, rfl⟩ := Compiler.pure_eq_ok_iff.mp compiled
    exact ⟨[], rfl⟩
  | _ :: _, _, _, _, compiled => by
    obtain ⟨first, others, middle, head, tail, rfl⟩ := of_operands_cons compiled
    obtain ⟨one, readOne⟩ := exists_fields_of_operand head
    obtain ⟨two, readTwo⟩ := exists_fields_of_operands tail
    exact ⟨one ++ two, Context.fields_append readOne readTwo⟩

end

end Filter

/-- If sort keys compile, so do their paths, with the same context left. -/
theorem SortCriterion.exists_fields_of_orders {criteria : List SortCriterion}
    {context after : Context} {orders : List SortOrder}
    (compiled : criteria.mapM SortCriterion.order context = .ok (orders, after)) :
    ∃ found, context.fields (criteria.map (·.path)) = .ok (found, after) := by
  induction criteria generalizing context orders with
  | nil =>
    obtain ⟨rfl, rfl⟩ := Compiler.pure_eq_ok_iff.mp compiled
    exact ⟨[], rfl⟩
  | cons criterion rest ih =>
    obtain ⟨first, others, middle, head, tail, rfl⟩ := Compiler.of_mapM_cons compiled
    obtain ⟨expr, d, found, rfl⟩ := SortCriterion.of_order head
    obtain ⟨more, read⟩ := ih tail
    exact ⟨_, Context.fields_append (Context.fields_single found) read⟩

/-- If the filter of a request compiles, so do its paths, with the same context left. -/
theorem Request.exists_fields_of_predicate {maxDepth : Nat} {filter : Option Filter}
    {context after : Context} {predicate : Option Predicate}
    (compiled : Request.predicate .builtin maxDepth filter context = .ok (predicate, after)) :
    ∃ found, context.fields ((filter.map Filter.fields).getD []) = .ok (found, after) := by
  cases filter with
  | none =>
    obtain ⟨rfl, rfl⟩ := Compiler.pure_eq_ok_iff.mp compiled
    exact ⟨[], rfl⟩
  | some filter =>
    obtain ⟨condition, made, rfl⟩ := Request.of_predicate compiled
    obtain ⟨root, made, _⟩ := Filter.of_predicate made
    exact Filter.exists_fields_of_operand made

/-- To compile a request is to compile its paths in order, and the joins that this makes are
counted. -/
theorem Request.exists_fields_of_compile {maxDepth : Nat} {schema : Schema} {metadata : Metadata}
    {request : Request} {query : Query}
    (compiled : request.compile .builtin maxDepth schema metadata = .ok query) :
    ∃ found after, ({ schema, metadata } : Context).fields request.paths = .ok (found, after) ∧
      query.joinCount = after.joinCount := by
  obtain ⟨⟨predicate, middle⟩, first, compiled⟩ := bind_eq_ok_iff.mp compiled
  obtain ⟨⟨orders, after⟩, second, compiled⟩ := bind_eq_ok_iff.mp compiled
  cases compiled
  obtain ⟨one, readOne⟩ := Request.exists_fields_of_predicate first
  obtain ⟨two, readTwo⟩ := SortCriterion.exists_fields_of_orders second
  exact ⟨one ++ two, after, Context.fields_append readOne readTwo, rfl⟩

/-- Paths that compile mean fields. -/
theorem Context.known_of_fields {context after : Context} {paths : List String}
    {found : List (Expr × Descriptor)} (compiled : context.fields paths = .ok (found, after)) :
    ∀ path ∈ paths, (context.metadata.get? path).isSome = true := by
  induction paths generalizing context found with
  | nil => simp
  | cons path rest ih =>
    obtain ⟨⟨expr, d⟩, middle, others, head, tail, rfl⟩ := fields_cons compiled
    obtain ⟨_, meant, same⟩ := field_some head
    refine List.forall_mem_cons.mpr ⟨by rw [meant]; rfl, ?_⟩
    rw [← same]
    exact ih tail

/-! ## Contexts of one search -/

namespace Context

variable {schema : Schema} {metadata : Metadata} {context : Context}

/-- The sources of the context are those that the ways to some fields lead through. -/
def Sound (schema : Schema) (metadata : Metadata) (context : Context) : Prop :=
  ∃ paths, context.Keeps schema metadata (metadata.ways schema paths)

/-- A context without sources is sound. -/
theorem sound_initial : Sound schema metadata { schema, metadata } := ⟨[], keeps_initial⟩

/-- With plain names each field is compiled to its own expression. -/
theorem Sound.exists_field (sound : context.Sound schema metadata) (valid : schema.Valid)
    (plain : schema.PlainNames) (starts : metadata.Starts schema) {path : String} {d : Descriptor}
    (meant : metadata.get? path = some d) : ∃ expr after,
      d.ownExpr? schema metadata.entity = some expr ∧
        context.field path = .ok ((expr, d), after) ∧ after.Sound schema metadata := by
  obtain ⟨paths, keeps⟩ := sound
  have wider : context.Keeps schema metadata (metadata.ways schema (path :: paths)) :=
    keeps.mono (Metadata.ways_subset (List.subset_cons_self path paths))
  obtain ⟨way, after, made, keepsAfter, _, resolved, _⟩ :=
    wider.exists_field (Metadata.unambiguous_ways plain starts _) valid starts meant
      (Metadata.ways_subset (by simp))
  exact ⟨_, after, Descriptor.ownExpr?_of_resolve resolved, made, _, keepsAfter⟩

/-- In a sound context, paths that mean fields compile to what each of them compiles to alone. -/
theorem Sound.exists_fields (sound : context.Sound schema metadata) (valid : schema.Valid)
    (plain : schema.PlainNames) (starts : metadata.Starts schema) {paths : List String}
    (known : ∀ path ∈ paths, (metadata.get? path).isSome = true) : ∃ found after,
      context.fields paths = .ok (found, after) ∧ List.Forall₂ (fun path field => ∃ alone,
        ({ schema, metadata } : Context).field path = .ok (field, alone)) paths found := by
  induction paths generalizing context with
  | nil => exact ⟨[], context, rfl, .nil⟩
  | cons path rest ih =>
    obtain ⟨isKnown, known⟩ := List.forall_mem_cons.mp known
    obtain ⟨d, meant⟩ := Option.isSome_iff_exists.mp isKnown
    obtain ⟨expr, middle, own, made, soundMiddle⟩ := sound.exists_field valid plain starts meant
    obtain ⟨others, after, compiled, alone⟩ := ih soundMiddle known
    obtain ⟨exprToo, last, ownToo, madeToo, _⟩ :=
      sound_initial.exists_field valid plain starts meant
    cases own.symm.trans ownToo
    exact ⟨_, after, fields_append (fields_single made) compiled, .cons ⟨last, madeToo⟩ alone⟩

end Context

/-- With plain names, two contexts of one search compile everything to the same. -/
theorem Registry.builtin_agrees_sound {schema : Schema} {metadata : Metadata} (valid : schema.Valid)
    (plain : schema.PlainNames) (starts : metadata.Starts schema) :
    builtin.Agrees Eq
      (fun context other => context.Sound schema metadata ∧ other.Sound schema metadata) Eq := by
  have ofSound {context : Context} (sound : context.Sound schema metadata) :
      context.metadata = metadata := by
    obtain ⟨_, keeps⟩ := sound
    exact keeps.sameMetadata
  refine builtin_agrees (fun ⟨sound, soundToo⟩ => (ofSound sound).trans (ofSound soundToo).symm)
    (fun {path other} same => ?_) fun _ => rfl
  subst same
  rintro context other ⟨sound, soundToo⟩
  dsimp only
  cases meant : metadata.get? path with
  | none =>
    rw [Context.field_of_unknown (by rwa [ofSound sound]),
      Context.field_of_unknown (by rwa [ofSound soundToo])]
    exact .error (by rw [Context.entity, Context.entity, ofSound sound, ofSound soundToo])
  | some d =>
    obtain ⟨expr, after, own, made, soundAfter⟩ := sound.exists_field valid plain starts meant
    obtain ⟨exprToo, afterToo, ownToo, madeToo, soundAfterToo⟩ :=
      soundToo.exists_field valid plain starts meant
    cases own.symm.trans ownToo
    rw [made, madeToo]
    exact .ok ⟨rfl, soundAfter, soundAfterToo⟩

/-! ## Parts of filters -/

namespace Filter

/-- Compiling a filter in a context meets a part of it in another context: the part is compiled
after the arguments before it. -/
inductive Meets (registry : Registry) : Filter → Context → Filter → Context → Prop where
  | here {filter : Filter} {context : Context} : Meets registry filter context filter context
  | inside {name : String} {before rest : List Filter} {arg part : Filter}
      {context middle inner : Context} {results : List Operand}
      (compiled : operands registry before context = .ok (results, middle))
      (further : Meets registry arg middle part inner) :
      Meets registry (.call name (before ++ arg :: rest)) context part inner

variable {schema : Schema} {metadata : Metadata}

/-- Each part of a filter is met in a sound context. -/
theorem Meets.sound (valid : schema.Valid) (plain : schema.PlainNames)
    (starts : metadata.Starts schema) {filter part : Filter} {context inner : Context}
    (meets : filter.Meets .builtin context part inner) (sound : context.Sound schema metadata) :
    inner.Sound schema metadata := by
  induction meets with
  | here => exact sound
  | @inside _ before _ _ _ _ _ _ _ compiled _ ih =>
    have agrees := operands_agree (Registry.builtin_agrees_sound valid plain starts)
      (respelledArgs_refl (fun _ => rfl) before) _ _ ⟨sound, sound⟩
    rw [compiled] at agrees
    cases agrees with
    | ok related => exact ih related.2.1

/-- In a sound context, an argument compiles to what it compiles to alone. -/
theorem operand_alone (valid : schema.Valid) (plain : schema.PlainNames)
    (starts : metadata.Starts schema) {context : Context} (sound : context.Sound schema metadata)
    (filter : Filter) : (filter.operand .builtin context).map Prod.fst =
      (filter.operand .builtin { schema, metadata }).map Prod.fst := by
  have agrees := operand_agree (Registry.builtin_agrees_sound valid plain starts)
    (Respelled.refl (fun _ => rfl) filter) _ _ ⟨sound, Context.sound_initial⟩
  exact agrees.map_eq fun related => related.1

/-- In a sound context, a filter compiles to what it compiles to alone. -/
theorem predicate_alone (valid : schema.Valid) (plain : schema.PlainNames)
    (starts : metadata.Starts schema) {context : Context} (sound : context.Sound schema metadata)
    (filter : Filter) : (filter.predicate .builtin context).map Prod.fst =
      (filter.predicate .builtin { schema, metadata }).map Prod.fst := by
  have agrees := predicate_agree_self (Registry.builtin_agrees_sound valid plain starts)
    (fun _ => rfl) filter _ _ ⟨sound, Context.sound_initial⟩
  exact agrees.map_eq fun related => related.1

end Filter

namespace Searcher

variable {schema : Schema} {entity : String}

/-- Over a valid schema with plain names, paths to fields that are compiled one after the other are
each compiled as they are alone, and there are as many joins as different starts of their ways that
end in one. So each path of a request that is compiled is known, the joins made for the request are
those on the ways to its paths, each once, and each part of its filter is compiled as it is
alone. -/
theorem compile_shares_sources (validated : schema.validate = .ok ()) (plain : schema.PlainNames)
    (registered : schema.contains entity = true) (config : Config) :
    ∃ metadata, ({ schema, config } : Searcher).metadata entity = .ok metadata ∧
      (∀ paths, (∀ path ∈ paths, (metadata.get? path).isSome = true) → ∃ found after,
        ({ schema, metadata } : Context).fields paths = .ok (found, after) ∧
        List.Forall₂ (fun path field => ∃ alone,
          ({ schema, metadata } : Context).field path = .ok (field, alone)) paths found ∧
        after.joinCount = (Traversal.joinStarts (metadata.ways schema paths)).length) ∧
      ∀ request query, ({ schema, config } : Searcher).compile entity request = .ok query →
        (∀ path ∈ request.paths, (metadata.get? path).isSome = true) ∧
        query.joinCount = (Traversal.joinStarts (metadata.ways schema request.paths)).length ∧
        ∀ filter part inner, request.filter = some filter →
          filter.Meets .builtin { schema, metadata } part inner →
            (part.operand .builtin inner).map Prod.fst =
                (part.operand .builtin { schema, metadata }).map Prod.fst ∧
              (part.predicate .builtin inner).map Prod.fst =
                (part.predicate .builtin { schema, metadata }).map Prod.fst := by
  have valid := Schema.valid_of_validate validated
  obtain ⟨metadata, discovered⟩ := Metadata.exists_discover registered config.maxDiscoveryDepth
  obtain ⟨rfl, starts⟩ := Metadata.startsAt_of_discover discovered
  refine ⟨metadata, discovered, fun paths known => ?_, fun request query compiled => ?_⟩
  · obtain ⟨found, after, compiled, alone⟩ :=
      Context.sound_initial.exists_fields valid plain starts known
    exact ⟨found, after, compiled, alone, Context.joinCount_of_fields starts
      (Metadata.unambiguous_ways plain starts paths) compiled⟩
  · obtain ⟨_, again, made⟩ := bind_eq_ok_iff.mp compiled
    cases discovered.symm.trans again
    obtain ⟨found, after, read, counted⟩ := Request.exists_fields_of_compile made
    refine ⟨Context.known_of_fields read, ?_, fun filter part inner _ meets => ?_⟩
    · exact counted.trans (Context.joinCount_of_fields starts
        (Metadata.unambiguous_ways plain starts request.paths) read)
    · have sound := meets.sound valid plain starts Context.sound_initial
      exact ⟨Filter.operand_alone valid plain starts sound part,
        Filter.predicate_alone valid plain starts sound part⟩

open Sample in
/-- The owners of the dogs of people are reached through the same dogs as their ages. -/
theorem compile_shares_sources_owners :
    (owners.validate = .ok () ∧ owners.PlainNames ∧ owners.contains "Person" = true) ∧
    ∃ metadata, ({ schema := owners, config := {} } : Searcher).metadata "Person" = .ok metadata ∧
      (∀ paths, (∀ path ∈ paths, (metadata.get? path).isSome = true) → ∃ found after,
        ({ schema := owners, metadata } : Context).fields paths = .ok (found, after) ∧
        List.Forall₂ (fun path field => ∃ alone,
          ({ schema := owners, metadata } : Context).field path = .ok (field, alone)) paths found ∧
        after.joinCount = (Traversal.joinStarts (metadata.ways owners paths)).length) ∧
      ∀ request query, ({ schema := owners, config := {} } : Searcher).compile "Person" request =
          .ok query →
        (∀ path ∈ request.paths, (metadata.get? path).isSome = true) ∧
        query.joinCount = (Traversal.joinStarts (metadata.ways owners request.paths)).length ∧
        ∀ filter part inner, request.filter = some filter →
          filter.Meets .builtin { schema := owners, metadata } part inner →
            (part.operand .builtin inner).map Prod.fst =
                (part.operand .builtin { schema := owners, metadata }).map Prod.fst ∧
              (part.predicate .builtin inner).map Prod.fst =
                (part.predicate .builtin { schema := owners, metadata }).map Prod.fst := by
  have validated : owners.validate = .ok () := by decide +kernel
  have plain : owners.PlainNames := by decide
  exact ⟨⟨validated, plain, rfl⟩, compile_shares_sources validated plain rfl {}⟩

-- The dogs are joined once and their owners are joined through them.
open Sample in
example : ((Metadata.discover owners 3 "Person").map fun metadata => Traversal.joinStarts
    (metadata.ways owners [">pets.age", ">pets>owner.name", "pets.name", ">pets.owner.name"])) =
    .ok [[.join "pets"], [.join "pets", .narrow "Dog", .join "owner"]] := by cbv

end Searcher

end RecordQuery
