import RecordQuery.Proofs.Compilation.Transparency
import RecordQuery.Proofs.Soundness
import RecordQuery.Proofs.Store.Sorting

/-! # Descending order

A search in descending order has the matches of the search in ascending order. If their keys differ
and their type has an order, it lists them the other way round. Periods, members of enumerations and
lists are not comparable, so that keys of these types tie and both searches list the matches in the
order of the store. -/

namespace RecordQuery

open Fallible

/-! ## Keys of one type -/

namespace ValueType

/-- Values of the type are comparable with each other. -/
def isOrdered : ValueType → Bool
  | period => false
  | enumeration _ _ => false
  | list _ => false
  | _ => true

/-- The scale of the values of a type that is not the one of floating point numbers. -/
def scale : ValueType → Value.Scale
  | boolean => .truth
  | integer => .number
  | decimal => .number
  | float => .binary
  | string => .text
  | date => .day
  | dateTime => .moment
  | time => .clock
  | period => .unordered
  | enumeration _ _ => .unordered
  | list _ => .unordered

end ValueType

namespace Value

variable {type : ValueType} {x y : Value}

/-- Values of a type other than floating point numbers are on the scale of the type. -/
theorem HasType.isOn (typed : x.HasType type) (exact : type ≠ .float) : x.IsOn {type.scale} := by
  cases typed with
  | null => rintro _ ⟨⟩
  | float => exact absurd rfl exact
  | _ =>
    rintro _ ⟨⟩
    rfl

/-- Values of a type without an order tie. -/
theorem HasType.tied (typed : x.HasType type) (typedToo : y.HasType type)
    (unordered : type.isOrdered = false) (known : x ≠ .null) (knownToo : y ≠ .null) :
    x.sortCompare y = .eq := by
  cases typed with
  | null => exact absurd rfl known
  | period | enumMember | list =>
    cases typedToo with
    | null => exact absurd rfl knownToo
    | _ => rfl
  | _ => cases unordered

/-- Values of a type with an order tie only if they are the same. -/
theorem HasType.sameAs_of_tied (typed : x.HasType type) (typedToo : y.HasType type)
    (ordered : type.isOrdered = true) (exact : type ≠ .float) (known : x ≠ .null)
    (knownToo : y ≠ .null) (tied : x.sortCompare y = .eq) : x.sameAs y = true := by
  cases typed with
  | null => exact absurd rfl known
  | float => exact absurd rfl exact
  | period | enumMember | list => cases ordered
  | decimal =>
    cases typedToo with
    | null => exact absurd rfl knownToo
    | decimal => exact beq_iff_eq.mpr tied
  | date =>
    cases typedToo with
    | null => exact absurd rfl knownToo
    | date => exact beq_iff_eq.mpr (Date.lawfulEqCmp.eq_of_compare tied)
  | dateTime =>
    cases typedToo with
    | null => exact absurd rfl knownToo
    | dateTime => exact beq_iff_eq.mpr (Instant.lawfulEqCmp.eq_of_compare tied)
  | time =>
    cases typedToo with
    | null => exact absurd rfl knownToo
    | time => exact beq_iff_eq.mpr (TimeOfDay.lawfulEqCmp.eq_of_compare tied)
  | _ =>
    cases typedToo with
    | null => exact absurd rfl knownToo
    | _ => exact beq_iff_eq.mpr (Std.LawfulEqOrd.eq_of_compare tied)

end Value

/-! ## Directions turned round -/

namespace Direction

/-- The other direction. -/
def reversed : Direction → Direction
  | ascending => descending
  | descending => ascending

/-- The other direction reverses what is put first. -/
theorem orient_reversed (direction : Direction) (order : Ordering) :
    direction.reversed.orient order = (direction.orient order).swap := by
  cases direction with
  | ascending => rfl
  | descending => exact order.swap_swap.symm

end Direction

namespace SortOrder

/-- The order in the other direction. -/
def reversed (order : SortOrder) : SortOrder := { order with direction := order.direction.reversed }

/-- Orders in the other direction compare keys the other way round. -/
theorem compareKeys_reversed (orders : List SortOrder) (xs ys : List Value) :
    compareKeys (orders.map reversed) xs ys = compareKeys orders ys xs := by
  rw [compareKeys_swap orders xs ys]
  induction orders generalizing xs ys with
  | nil => rfl
  | cons order orders ih =>
    cases xs with
    | nil => rfl
    | cons x xs =>
      cases ys with
      | nil => rfl
      | cons y ys =>
        have first := order.direction.orient_reversed (x.sortCompare y)
        rw [compareKeys, Ordering.swap_then, ← first, ← ih]
        rfl

end SortOrder

namespace Query

/-- The query with the directions of all orders turned round. -/
def reversed (query : Query) : Query := { query with orders := query.orders.map .reversed }

variable {query : Query} {schema : Schema}

theorem joins_reversed (query : Query) : query.reversed.joins = query.joins := by
  simp only [joins, reversed, List.flatMap_map]
  rfl

/-- Turning the orders of a query round leaves the accepted assignment as it is. -/
theorem firstAccepted_reversed (record : Record) (tried : List Assignment) :
    query.reversed.firstAccepted schema record tried =
      query.firstAccepted schema record tried := by
  induction tried with
  | nil => rfl
  | cons assignment rest ih =>
    rw [firstAccepted_cons, firstAccepted_cons, ih]
    rfl

/-- Turning the orders of a query round leaves the match of a record as it is. -/
theorem matchOf?_reversed (record : Record) :
    query.reversed.matchOf? schema record = query.matchOf? schema record := by
  have keys (assignment : Assignment) :
      query.reversed.keys schema record assignment = query.keys schema record assignment :=
    List.mapM_map
  simp only [matchOf?, joins_reversed, firstAccepted_reversed, keys]

/-- The matches do not depend on the directions. -/
theorem matchesOf_reversed (records : List Record) :
    query.reversed.matchesOf schema records = query.matchesOf schema records := by
  induction records with
  | nil => rfl
  | cons record rest ih => rw [matchesOf_cons, matchesOf_cons, matchOf?_reversed, ih]

end Query

namespace Store

variable {α : Type} {compare : α → α → Ordering} {p : α → Prop}

/-- If no elements tie, sorting with the comparison turned round gives the list turned round. -/
theorem sortBy_swap_eq_reverse (ordered : OrdersOn compare p) {xs : List α}
    (given : ∀ x ∈ xs, p x) (differ : xs.Pairwise fun x y => compare x y ≠ .eq) :
    sortBy (fun x y => compare y x) xs = (sortBy compare xs).reverse := by
  have upwards := pairwise_sortBy ordered given
  have downwards := pairwise_sortBy ordered.flip given
  have permuted : (sortBy (fun x y => compare y x) xs).Perm (sortBy compare xs).reverse :=
    (sortBy_perm xs).trans ((sortBy_perm xs).symm.trans (List.reverse_perm _).symm)
  have symmetric : Std.Symm fun x y => compare x y ≠ .eq :=
    ⟨fun x y apart tied => apart (by rw [ordered.swap y x, tied]; rfl)⟩
  refine permuted.eq_of_pairwise (fun x y first second less more => ?_) downwards
    (List.pairwise_reverse.mpr upwards)
  by_contra apart
  have inList := (sortBy_perm xs).mem_iff.mp first
  have inListToo := (sortBy_perm xs).mem_iff.mp (List.mem_reverse.mp second)
  exact differ.forall inList inListToo apart (ordered.eq_of_isLE more less)

variable {store : Store} {query : Query} {found : List (Record × List Value)}

/-- Matches whose keys do not tie are listed the other way round if the directions are turned
round. -/
theorem ranking_reversed {scales : List Value.Scale}
    (on : ∀ row ∈ found, SortOrder.AreOn scales row.2)
    (differ : found.Pairwise fun x y => SortOrder.compareKeys query.orders x.2 y.2 ≠ .eq) :
    ranking query.reversed found = (ranking query found).reverse := by
  have ordered := (SortOrder.ordersOn query.orders scales).on (Prod.snd (α := Record))
  simp only [ranking, Query.reversed, SortOrder.compareKeys_reversed]
  exact sortBy_swap_eq_reverse ordered on differ

/-- Matches whose keys all tie stay in the order of the store. -/
theorem ranking_of_tied (tied : found.Pairwise fun x y => SortOrder.Tied x.2 y.2) :
    ranking query found = found := by
  have kept : found.Sublist (ranking query found) := sublist_ranking (.refl found) tied
  exact (kept.eq_of_length (ranking_perm query found).length_eq.symm).symm

/-- No key of a match is null, and no two matches have the same keys. -/
structure KeysDiffer (found : List (Record × List Value)) : Prop where
  known : ∀ row ∈ found, .null ∉ row.2
  differ : found.Pairwise fun x y => Value.sameItems x.2 y.2 = false

/-- Under one order by a field of a type each match has one key, of this type. -/
def KeyedBy (type : ValueType) (found : List (Record × List Value)) : Prop :=
  ∀ row ∈ found, ∃ key, row.2 = [key] ∧ key.HasType type

variable {type : ValueType} {order : SortOrder}

/-- Any two matches have keys of the type that are not null and not the same. -/
theorem KeysDiffer.pairwise (keys : KeysDiffer found) (keyed : KeyedBy type found) :
    found.Pairwise fun x y => ∃ a b, x.2 = [a] ∧ y.2 = [b] ∧ (a.HasType type ∧ a ≠ .null) ∧
      (b.HasType type ∧ b ≠ .null) ∧ a.sameAs b = false := by
  refine keys.differ.imp_of_mem fun {x y} first second differ => ?_
  obtain ⟨a, isFirst, typed⟩ := keyed x first
  obtain ⟨b, isSecond, typedToo⟩ := keyed y second
  have known := keys.known x first
  have knownToo := keys.known y second
  rw [isFirst, List.mem_singleton] at known
  rw [isSecond, List.mem_singleton] at knownToo
  rw [isFirst, isSecond, Value.sameItems, Value.sameItems, Bool.and_true] at differ
  exact ⟨a, b, isFirst, isSecond, ⟨typed, Ne.symm known⟩, ⟨typedToo, Ne.symm knownToo⟩, differ⟩

/-- Keys of a type with an order do not tie. -/
theorem KeysDiffer.apart (keys : KeysDiffer found) (keyed : KeyedBy type found)
    (orders : query.orders = [order]) (exact : type ≠ .float) (ordered : type.isOrdered = true) :
    found.Pairwise fun x y => SortOrder.compareKeys query.orders x.2 y.2 ≠ .eq := by
  refine (keys.pairwise keyed).imp fun {x y} pair compared => ?_
  obtain ⟨a, b, isFirst, isSecond, ⟨typed, known⟩, ⟨typedToo, knownToo⟩, differ⟩ := pair
  rw [isFirst, isSecond, orders] at compared
  have tied : a.sortCompare b = .eq :=
    order.direction.eq_of_orient (Ordering.then_eq_eq.mp compared).1
  have same := typed.sameAs_of_tied typedToo ordered exact known knownToo tied
  rw [same] at differ
  cases differ

/-- Keys of a type without an order tie. -/
theorem KeysDiffer.tied (keys : KeysDiffer found) (keyed : KeyedBy type found)
    (unordered : type.isOrdered = false) :
    found.Pairwise fun x y => SortOrder.Tied x.2 y.2 := by
  refine (keys.pairwise keyed).imp fun {x y} pair => ?_
  obtain ⟨a, b, isFirst, isSecond, ⟨typed, known⟩, ⟨typedToo, knownToo⟩, _⟩ := pair
  rw [isFirst, isSecond]
  exact .cons (typed.tied typedToo unordered known knownToo) .nil

/-- Turning the direction round turns the list round if the keys have an order, and else changes
nothing. -/
theorem KeysDiffer.ranking_reversed (keys : KeysDiffer found) (keyed : KeyedBy type found)
    (orders : query.orders = [order]) (exact : type ≠ .float) :
    ranking query.reversed found =
      (if type.isOrdered then List.reverse else id) (ranking query found) := by
  cases ordered : type.isOrdered with
  | true =>
    have on : ∀ row ∈ found, SortOrder.AreOn [type.scale] row.2 := by
      intro row member
      obtain ⟨key, isKey, typed⟩ := keyed row member
      rw [isKey]
      exact .cons (typed.isOn exact) .nil
    exact Store.ranking_reversed on (keys.apart keyed orders exact ordered)
  | false =>
    have tied := keys.tied keyed ordered
    rw [ranking_of_tied tied, ranking_of_tied tied]
    rfl

end Store

/-! ## Requests that are sorted by one field -/

namespace SortCriterion

/-- The criterion in the other direction. -/
def reversed (criterion : SortCriterion) : SortCriterion :=
  { criterion with direction := criterion.direction.reversed }

/-- A criterion in the other direction compiles to the order in the other direction. -/
theorem order_reversed (criterion : SortCriterion) (context : Context) :
    criterion.reversed.order context =
      (criterion.order context).map fun made => (made.1.reversed, made.2) := by
  simp only [order, map_after_bind]
  refine bind_congr fun made => ?_
  split <;> rfl

/-- Criteria in the other direction compile to the orders in the other direction. -/
theorem orders_reversed (criteria : List SortCriterion) (context : Context) :
    (criteria.map reversed).mapM order context =
      (criteria.mapM order context).map fun made => (made.1.map .reversed, made.2) := by
  induction criteria generalizing context with
  | nil => rfl
  | cons criterion rest ih =>
    rw [List.map_cons, List.mapM_cons, List.mapM_cons]
    change (criterion.reversed.order context >>= _) = (criterion.order context >>= _).map _
    rw [order_reversed, bind_after_map, map_after_bind]
    refine bind_congr fun made => ?_
    change ((rest.map reversed).mapM order made.2 >>= _) = (rest.mapM order made.2 >>= _).map _
    rw [ih, bind_after_map, map_after_bind]
    rfl

end SortCriterion

namespace Request

/-- The request with the directions of all sort criteria turned round. -/
def reversed (request : Request) : Request := { request with sort := request.sort.map .reversed }

/-- The request with one field to sort by. -/
def sortedBy (request : Request) (path : String) (direction : Direction) : Request :=
  { request with sort := [⟨path, direction⟩] }

/-- A request in the other direction compiles to the query in the other direction. -/
theorem compile_reversed (registry : Registry) (maxDepth : Nat) (schema : Schema)
    (metadata : Metadata) (request : Request) :
    request.reversed.compile registry maxDepth schema metadata =
      (request.compile registry maxDepth schema metadata).map Query.reversed := by
  unfold compile
  rw [map_after_bind]
  refine bind_congr fun made => ?_
  change ((request.sort.map SortCriterion.reversed).mapM SortCriterion.order made.2 >>= _) =
    (request.sort.mapM SortCriterion.order made.2 >>= _).map _
  rw [SortCriterion.orders_reversed, bind_after_map, map_after_bind]
  rfl

end Request

namespace Searcher

variable {searcher : Searcher} {entity path : String} {request : Request} {direction : Direction}
  {metadata : Metadata} {d : Descriptor} {type : ValueType} {query : Query} {store : Store}
  {found : List (Record × List Value)}

/-- A searcher compiles a request in the other direction to the query in the other direction. -/
theorem compile_reversed (searcher : Searcher) (entity : String) (request : Request) :
    searcher.compile entity request.reversed =
      (searcher.compile entity request).map Query.reversed := by
  unfold compile
  rw [map_after_bind]
  exact bind_congr fun metadata => request.compile_reversed ..

/-- A request with one field to sort by is compiled to a query with one order. -/
theorem exists_order_of_compile (discovered : searcher.metadata entity = .ok metadata)
    (compiled : searcher.compile entity (request.sortedBy path direction) = .ok query) :
    query.entity = entity ∧ ∃ expr, query.orders = [⟨path, expr, direction⟩] := by
  obtain ⟨_, again, compiled⟩ := bind_eq_ok_iff.mp compiled
  cases discovered.symm.trans again
  obtain ⟨⟨predicate, middle⟩, _, compiled⟩ := bind_eq_ok_iff.mp compiled
  obtain ⟨⟨orders, after⟩, sorted, compiled⟩ := bind_eq_ok_iff.mp compiled
  cases compiled
  obtain ⟨first, others, _, head, tail, rfl⟩ := Compiler.of_mapM_cons sorted
  obtain ⟨rfl, _⟩ := Compiler.pure_eq_ok_iff.mp tail
  obtain ⟨expr, _, _, rfl⟩ := SortCriterion.of_order head
  exact ⟨Metadata.entity_of_discover discovered, expr, rfl⟩

/-- Where the expression of the one order has a type, each match has one key of the type. -/
theorem keyedBy_of_hasType {expr : Expr} (orders : query.orders = [⟨path, expr, direction⟩])
    (matched : query.matchesOf store.schema (store.candidates entity) = .ok found)
    (typed : ∀ record ∈ store.candidates entity, expr.HasType store.schema record type) :
    Store.KeyedBy type found := by
  rintro ⟨_, values⟩ member
  obtain ⟨record, candidate, yields⟩ := Query.mem_matchesOf matched member
  obtain ⟨_, assignment, first, keys⟩ := Query.matchOf?_eq_some_iff.mp yields
  obtain ⟨tried, _⟩ := Query.accepts_of_firstAccepted_some first
  have respects : ∀ j ∈ expr.joins, assignment.Respects store.schema record j := by
    intro j mentioned
    have ofQuery : j ∈ query.joins := Query.mem_joins_iff.mpr
      (.inr ⟨_, by rw [orders]; exact List.mem_singleton_self _, Expr.mem_joins_iff.mp mentioned⟩)
    exact Assignment.respects_of_mem_all tried j ofQuery
  obtain ⟨key, value, keyTyped⟩ := typed record candidate assignment respects
  rw [Query.keys, orders] at keys
  cases mapM_eq_ok_iff.mp keys with
  | cons head tail =>
    cases tail
    cases value.symm.trans head
    exact ⟨key, rfl, keyTyped⟩

/-- With the operators that are built in, the field to sort by is compiled to its own expression as
long as different steps of the request have different texts. -/
theorem own_of_unambiguous {schema : Schema} {config : Config}
    (discovered : ({ schema, config } : Searcher).metadata entity = .ok metadata)
    (meant : metadata.get? path = some d)
    (apart : Traversal.Unambiguous
      (metadata.ways schema (request.sortedBy path direction).paths)) :
    ∀ query, ({ schema, config } : Searcher).compile entity (request.sortedBy path direction) =
        .ok query → ∀ order ∈ query.orders, d.ownExpr? schema entity = some order.expr := by
  intro query compiled
  obtain ⟨_, again, built⟩ := bind_eq_ok_iff.mp compiled
  cases discovered.symm.trans again
  obtain ⟨rfl, starts⟩ := Metadata.startsAt_of_discover discovered
  obtain ⟨⟨predicate, middle⟩, first, built⟩ := bind_eq_ok_iff.mp built
  obtain ⟨⟨orders, after⟩, sorted, built⟩ := bind_eq_ok_iff.mp built
  cases built
  obtain ⟨order, others, _, head, tail, rfl⟩ := Compiler.of_mapM_cons sorted
  obtain ⟨rfl, _⟩ := Compiler.pure_eq_ok_iff.mp tail
  obtain ⟨expr, other, made, rfl⟩ := SortCriterion.of_order head
  obtain ⟨fields, read⟩ := Request.exists_fields_of_predicate first
  obtain ⟨_, meantToo, _⟩ := Context.field_some made
  have grows := (Context.layered_initial.fields starts read).2.1
  rw [grows.sameMetadata] at meantToo
  cases meant.symm.trans meantToo
  have all := Context.fields_append read (Context.fields_single made)
  have own := (Context.own_iff_unambiguous starts all).mpr apart
  intro order listed
  rw [List.mem_singleton.mp listed]
  exact own _ (List.mem_append_right _ List.mem_cons_self)

/-- Over a valid schema in which no type declares an inherited field again, let a field of a type
other than that of floating point numbers be compiled to its own expression, and let the matches
among loaded records have keys under it that are not null and differ. Then the search in descending
order finds the records of the search in ascending order, turned round if the type has an order and
else as they are, and it fails if that search fails. -/
theorem search_descending (validated : searcher.schema.validate = .ok ())
    (once : searcher.schema.DeclaresOnce) (loaded : Store.Loaded searcher.schema store)
    (discovered : searcher.metadata entity = .ok metadata)
    (meant : metadata.get? path = some d) (kind : d.kind = .scalar type) (exact : type ≠ .float)
    (own : ∀ query, searcher.compile entity (request.sortedBy path .ascending) = .ok query →
      ∀ order ∈ query.orders, d.ownExpr? searcher.schema entity = some order.expr)
    (differ : ∀ query found,
      searcher.compile entity (request.sortedBy path .ascending) = .ok query →
      query.matchesOf store.schema (store.candidates entity) = .ok found →
      Store.KeysDiffer found) :
    searcher.search store entity (request.sortedBy path .descending) =
      (searcher.search store entity (request.sortedBy path .ascending)).map
        (if type.isOrdered then List.reverse else id) := by
  have turned := searcher.compile_reversed entity (request.sortedBy path .ascending)
  unfold search
  rw [show request.sortedBy path .descending = (request.sortedBy path .ascending).reversed from rfl,
    turned]
  cases compiled : searcher.compile entity (request.sortedBy path .ascending) with
  | error fault => rfl
  | ok query =>
    obtain ⟨rfl, expr, orders⟩ := exists_order_of_compile discovered compiled
    have valid := Schema.valid_of_validate validated
    obtain ⟨ofSchema, stored⟩ := loaded.typed
    have ownExpr : d.ownExpr? searcher.schema query.entity = some expr :=
      own query compiled _ (by rw [orders]; exact List.mem_singleton_self _)
    have reads := ((Metadata.startsAt_of_discover discovered).2 meant).isReadBy ownExpr
    have typed : ∀ record ∈ store.candidates query.entity,
        expr.HasType store.schema record type := by
      intro record candidate
      obtain ⟨inStore, assignable⟩ := Store.mem_candidates_iff.mp candidate
      have recordTyped := stored record inStore
      rw [ofSchema] at assignable recordTyped ⊢
      exact reads.hasType valid once kind assignable recordTyped
    -- Which records match does not depend on the direction, so that only the rankings differ.
    change store.fetch query.reversed = (store.fetch query).map _
    rw [Store.fetch_eq_map, Store.fetch_eq_map, Query.matchesOf_reversed]
    change (query.matchesOf store.schema (store.candidates query.entity)).map _ = _
    cases matched : query.matchesOf store.schema (store.candidates query.entity) with
    | error fault => rfl
    | ok found =>
      have keyed := keyedBy_of_hasType orders matched typed
      have ranked := (differ query found compiled matched).ranking_reversed keyed orders exact
      refine congrArg Except.ok ?_
      dsimp only
      rw [ranked]
      cases type.isOrdered with
      | true => exact List.map_reverse
      | false => rfl

end Searcher

namespace Sample

/-- Three dogs and a cat. -/
def animalsJson : Json :=
  .array [
    .object [("$type", .string "Dog"), ("age", .integer 5), ("name", .string "Rex")],
    .object [("$type", .string "Dog"), ("age", .integer 3), ("name", .string "Ace")],
    .object [("name", .string "Tom")],
    .object [("$type", .string "Dog"), ("age", .integer 4), ("name", .string "Max")]]

def animals : Store := (({ schema } : Store).load "Animal" animalsJson).1

/-- Animals whose age is known. -/
def ofKnownAge : Request where
  filter := some (.call "isNotNull" [.field "age"])

def ageOfDog : Descriptor := ⟨[], ⟨"age", "Dog", .attr⟩, .scalar .integer, {}⟩

/-- The dogs and their keys. -/
def dogsByAge : List (Record × List Value) :=
  [(dog "Rex" 5, [.integer 5]), (dog "Ace" 3, [.integer 3]), (dog "Max" 4, [.integer 4])]

/-- Contracts with the periods for which they are made. -/
def contracts : Schema where
  entities := [
    { name := "Contract"
      fields := [{ name := "term", kind := .scalar .period, searchable := some {} }] }]
  names_nodup := by decide

/-- A contract for some years. -/
def contract (years : Int32) : Record := ⟨"Contract", [("term", .value (.period ⟨years, 0, 0⟩))]⟩

/-- A contract for a year and one for two years. -/
def signed : Store :=
  (({ schema := contracts } : Store).load "Contract" (.array [
    .object [("term", .string "P1Y")], .object [("term", .string "P2Y")]])).1

end Sample

namespace Searcher

open Sample in
/-- The dogs are listed by their ages in both directions. -/
theorem search_descending_age :
    (Sample.schema.validate = .ok () ∧ Sample.schema.DeclaresOnce ∧
      Store.Loaded Sample.schema animals ∧
      ({ schema := Sample.schema } : Searcher).search animals "Animal"
        (ofKnownAge.sortedBy "age" .ascending) = .ok [dog "Ace" 3, dog "Max" 4, dog "Rex" 5]) ∧
    ({ schema := Sample.schema } : Searcher).search animals "Animal"
        (ofKnownAge.sortedBy "age" .descending) =
      (({ schema := Sample.schema } : Searcher).search animals "Animal"
        (ofKnownAge.sortedBy "age" .ascending)).map
          (if ValueType.integer.isOrdered then List.reverse else id) := by
  have validated : Sample.schema.validate = .ok () := by decide +kernel
  have once : Sample.schema.DeclaresOnce := by decide +kernel
  have filled : Store.Loaded Sample.schema animals := .load .empty "Animal" animalsJson
  obtain ⟨metadata, discovered, meant, apart⟩ : ∃ metadata,
      ({ schema := Sample.schema } : Searcher).metadata "Animal" = .ok metadata ∧
        metadata.get? "age" = some ageOfDog ∧ Traversal.Unambiguous
          (metadata.ways Sample.schema (ofKnownAge.sortedBy "age" .ascending).paths) :=
    ⟨_, by cbv, by cbv, by decide +kernel⟩
  obtain ⟨query, compiled, matched⟩ : ∃ query,
      ({ schema := Sample.schema } : Searcher).compile "Animal"
          (ofKnownAge.sortedBy "age" .ascending) = .ok query ∧
        query.matchesOf animals.schema (animals.candidates "Animal") = .ok dogsByAge :=
    ⟨_, by cbv, by cbv⟩
  have differ : Store.KeysDiffer dogsByAge := ⟨by simp [dogsByAge], by decide⟩
  refine ⟨⟨validated, once, filled, by cbv⟩, ?_⟩
  refine search_descending validated once filled discovered meant rfl (by decide)
    (own_of_unambiguous discovered meant apart) fun other found again listed => ?_
  cases compiled.symm.trans again
  cases matched.symm.trans listed
  exact differ

open Sample in
/-- A period of one year and one of two years are not the same, but they tie: the contracts stay in
the order of the store in both directions. -/
theorem search_descending_term :
    (contracts.validate = .ok () ∧ contracts.DeclaresOnce ∧ Store.Loaded contracts signed ∧
      (∃ metadata d, ({ schema := contracts } : Searcher).metadata "Contract" = .ok metadata ∧
        metadata.get? "term" = some d ∧ d.kind = .scalar .period ∧ d.directives.sortable = true) ∧
      ∃ query found, ({ schema := contracts } : Searcher).compile "Contract"
          (({} : Request).sortedBy "term" .ascending) = .ok query ∧
        query.matchesOf signed.schema (signed.candidates "Contract") = .ok found ∧
        Store.KeysDiffer found) ∧
    ∃ ascending descending,
      ({ schema := contracts } : Searcher).search signed "Contract"
        (({} : Request).sortedBy "term" .ascending) = .ok ascending ∧
      ({ schema := contracts } : Searcher).search signed "Contract"
        (({} : Request).sortedBy "term" .descending) = .ok descending ∧
      descending ≠ ascending.reverse := by
  have filled : Store.Loaded contracts signed := .load .empty "Contract" _
  refine ⟨⟨by decide +kernel, by decide +kernel, filled, ⟨_, _, by cbv, by cbv, rfl, rfl⟩,
    _, [(contract 1, [.period ⟨1, 0, 0⟩]), (contract 2, [.period ⟨2, 0, 0⟩])], by cbv, by cbv,
    ⟨by simp, by decide⟩⟩, [contract 1, contract 2], [contract 1, contract 2], by cbv, by cbv, ?_⟩
  simp [contract]

end Searcher

end RecordQuery
