import RecordQuery.Proofs.Compilation.Filter
import RecordQuery.Compilation.Request

/-! # What requests are compiled to

Compiling a request compiles the paths of its filter and of its sort criteria one after the other.
The predicate and the orders of the query are over the fields of these paths. -/

namespace RecordQuery

open Fallible

namespace Request

/-- The paths of the filter and of the sort criteria. -/
def paths (request : Request) : List String :=
  (request.filter.map Filter.fields).getD [] ++ request.sort.map (·.path)

/-- The paths of the request mean scalar fields, apart from those that the filter tests for presence
directly. -/
structure ReadsScalars (metadata : Metadata) (request : Request) : Prop where
  filter {filter : Filter} (given : request.filter = some filter) : filter.ReadsScalars metadata
  sort {criterion : SortCriterion} (listed : criterion ∈ request.sort) :
    metadata.IsScalar criterion.path

end Request

/-- The predicate and the orders of a query are over some fields. -/
structure Query.Over (fields : List (Expr × Descriptor)) (query : Query) : Prop where
  predicate {predicate : Predicate} (given : query.predicate = some predicate) :
    predicate.Over fields
  orders {order : SortOrder} (listed : order ∈ query.orders) : order.expr.Over fields

variable {context after : Context}

/-- The condition of a request is what its filter compiles to. -/
theorem Request.of_predicate {registry : Registry} {maxDepth : Nat} {filter : Filter}
    {made : Option Predicate}
    (compiled : Request.predicate registry maxDepth (some filter) context = .ok (made, after)) :
    ∃ predicate, filter.predicate registry context = .ok (predicate, after) ∧
      made = some predicate := by
  rw [Request.predicate] at compiled
  split at compiled
  · cases compiled
  · obtain ⟨predicate, last, condition, compiled⟩ := Compiler.bind_eq_ok_iff.mp compiled
    obtain ⟨rfl, rfl⟩ := Compiler.pure_eq_ok_iff.mp compiled
    exact ⟨predicate, condition, rfl⟩

/-- The order of a sort key is by the expression that its path compiles to. -/
theorem SortCriterion.of_order {criterion : SortCriterion} {order : SortOrder}
    (compiled : criterion.order context = .ok (order, after)) :
    ∃ expr d, context.field criterion.path = .ok ((expr, d), after) ∧
      order = ⟨criterion.path, expr, criterion.direction⟩ := by
  obtain ⟨⟨⟨expr, d⟩, middle⟩, found, compiled⟩ := bind_eq_ok_iff.mp compiled
  dsimp only at compiled
  split at compiled
  · cases compiled
    exact ⟨expr, d, found, rfl⟩
  · cases compiled

/-- A filter that reads scalar fields compiles to a condition over the fields of its paths. -/
theorem Filter.predicate_over {filter : Filter} {predicate : Predicate}
    (reads : filter.ReadsScalars context.metadata)
    (compiled : filter.predicate .builtin context = .ok (predicate, after)) :
    ∃ found, context.fields filter.fields = .ok (found, after) ∧
      after.metadata = context.metadata ∧ ∀ all, found ⊆ all → predicate.Over all := by
  obtain ⟨root, made, condition⟩ := of_predicate compiled
  obtain ⟨found, read, same, isOver⟩ := operand_over reads made
  exact ⟨found, read, same, fun all subset => (isOver all subset).toPredicate condition⟩

/-- A request that reads scalar fields has a condition over the fields of its filter. -/
theorem Request.predicate_over {maxDepth : Nat} {filter : Option Filter}
    {predicate : Option Predicate}
    (reads : ∀ given, filter = some given → given.ReadsScalars context.metadata)
    (compiled : Request.predicate .builtin maxDepth filter context = .ok (predicate, after)) :
    ∃ found, context.fields ((filter.map Filter.fields).getD []) = .ok (found, after) ∧
      after.metadata = context.metadata ∧
        ∀ all, found ⊆ all → ∀ condition, predicate = some condition → condition.Over all := by
  cases filter with
  | none =>
    obtain ⟨rfl, rfl⟩ := Compiler.pure_eq_ok_iff.mp compiled
    exact ⟨[], rfl, rfl, by simp⟩
  | some filter =>
    obtain ⟨condition, made, rfl⟩ := Request.of_predicate compiled
    obtain ⟨found, read, same, isOver⟩ := Filter.predicate_over (reads filter rfl) made
    refine ⟨found, read, same, fun all subset other given => ?_⟩
    cases given
    exact isOver all subset

/-- A sort criterion is compiled to an order by the field that its path means. -/
theorem SortCriterion.order_over {criterion : SortCriterion} {order : SortOrder}
    (scalar : context.metadata.IsScalar criterion.path)
    (compiled : criterion.order context = .ok (order, after)) :
    ∃ found, context.fields [criterion.path] = .ok (found, after) ∧
      after.metadata = context.metadata ∧ ∀ all, found ⊆ all → order.expr.Over all := by
  obtain ⟨expr, d, found, rfl⟩ := of_order compiled
  obtain ⟨_, meant, same⟩ := Context.field_some found
  refine ⟨_, Context.fields_single found, same, fun all subset => ?_⟩
  exact .field (subset List.mem_cons_self) (scalar d meant)

/-- Sort keys that are scalar fields compile to orders over these fields. -/
theorem SortCriterion.orders_over {criteria : List SortCriterion} {orders : List SortOrder}
    (scalars : ∀ criterion ∈ criteria, context.metadata.IsScalar criterion.path)
    (compiled : criteria.mapM SortCriterion.order context = .ok (orders, after)) :
    ∃ found, context.fields (criteria.map (·.path)) = .ok (found, after) ∧
      ∀ all, found ⊆ all → ∀ order ∈ orders, order.expr.Over all := by
  induction criteria generalizing context orders with
  | nil =>
    obtain ⟨rfl, rfl⟩ := Compiler.pure_eq_ok_iff.mp compiled
    exact ⟨[], rfl, by simp⟩
  | cons criterion rest ih =>
    obtain ⟨first, others, middle, head, tail, rfl⟩ := Compiler.of_mapM_cons compiled
    obtain ⟨one, readOne, same, isOver⟩ := order_over (scalars criterion List.mem_cons_self) head
    have scalarsRest : ∀ other ∈ rest, middle.metadata.IsScalar other.path := by
      rw [same]
      exact fun other member => scalars other (List.mem_cons_of_mem _ member)
    obtain ⟨two, readTwo, overRest⟩ := ih scalarsRest tail
    refine ⟨one ++ two, Context.fields_append readOne readTwo, fun all subset => ?_⟩
    exact List.forall_mem_cons.mpr
      ⟨isOver all fun field member => subset (List.mem_append_left _ member),
        overRest all fun field member => subset (List.mem_append_right _ member)⟩

/-- A request is compiled to a query for its entity over the fields of its paths. -/
theorem Request.compile_over {maxDepth : Nat} {schema : Schema} {metadata : Metadata}
    {request : Request} {query : Query} (reads : request.ReadsScalars metadata)
    (compiled : request.compile .builtin maxDepth schema metadata = .ok query) :
    query.entity = metadata.entity ∧ ∃ found after,
      ({ schema, metadata } : Context).fields request.paths = .ok (found, after) ∧
        query.Over found := by
  obtain ⟨⟨predicate, middle⟩, first, compiled⟩ := bind_eq_ok_iff.mp compiled
  obtain ⟨⟨orders, after⟩, second, compiled⟩ := bind_eq_ok_iff.mp compiled
  cases compiled
  obtain ⟨one, readOne, same, isOver⟩ :=
    Request.predicate_over (fun _ given => reads.filter given) first
  have scalars : ∀ criterion ∈ request.sort, middle.metadata.IsScalar criterion.path := by
    rw [same]
    exact fun criterion listed => reads.sort listed
  obtain ⟨two, readTwo, overOrders⟩ := SortCriterion.orders_over scalars second
  refine ⟨rfl, one ++ two, after, Context.fields_append readOne readTwo, ?_, ?_⟩
  · exact fun given => isOver _ (List.subset_append_left _ _) _ given
  · exact fun listed => overOrders _ (List.subset_append_right _ _) _ listed

end RecordQuery
