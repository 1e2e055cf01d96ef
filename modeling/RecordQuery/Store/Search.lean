import RecordQuery.Query.Evaluation
import RecordQuery.Store.Basic

/-! # Searching a store

A record matches a query if its predicate is true under some assignment of its joins. Matches are
sorted by their keys under the first such assignment; ties keep the order of the store. -/

namespace RecordQuery

namespace Query

/-- The query accepts a record under an assignment. -/
def accepts (query : Query) (schema : Schema) (record : Record) (assignment : Assignment) :
    Except Fault Bool :=
  match query.predicate with
  | none => .ok true
  | some predicate => return (← predicate.truth schema record assignment) == some true

/-- The first assignment under which the query accepts a record. -/
def firstAccepted (query : Query) (schema : Schema) (record : Record) :
    List Assignment → Except Fault (Option Assignment)
  | [] => .ok none
  | assignment :: rest => do
    if ← query.accepts schema record assignment then return some assignment
    else firstAccepted query schema record rest

/-- The values that a match is sorted by. -/
def keys (query : Query) (schema : Schema) (record : Record) (assignment : Assignment) :
    Except Fault (List Value) :=
  query.orders.mapM fun order => order.expr.value schema record assignment

/-- The records that match, each with its keys, in the order of the store. -/
def matchesOf (query : Query) (schema : Schema) :
    List Record → Except Fault (List (Record × List Value))
  | [] => .ok []
  | record :: rest => do
    match ← query.firstAccepted schema record (Assignment.all schema record query.joins) with
    | some assignment => do
      let keys ← query.keys schema record assignment
      return (record, keys) :: (← matchesOf query schema rest)
    | none => matchesOf query schema rest

end Query

/-- The order of two lists of keys: the first pair that differs decides. -/
def SortOrder.compareKeys : List SortOrder → List Value → List Value → Ordering
  | order :: orders, x :: xs, y :: ys =>
    (order.direction.orient (x.sortCompare y)).then (compareKeys orders xs ys)
  | _, _, _ => .eq

namespace Store

/-- Puts an element into a list in descending order, in front of the first element that it is not
less than. -/
def insertDescending {α : Type} (compare : α → α → Ordering) (x : α) : List α → List α
  | [] => [x]
  | y :: ys => if compare x y = .lt then y :: insertDescending compare x ys else x :: y :: ys

/-- Sorts a list; elements that tie keep their order. -/
def sortBy {α : Type} (compare : α → α → Ordering) (xs : List α) : List α :=
  (xs.foldl (fun sorted x => insertDescending compare x sorted) []).reverse

/-- All records that match a query in its order. -/
def fetch (store : Store) (query : Query) : Except Fault (List Record) := do
  let candidates := store.records.filter fun record =>
    store.schema.isAssignable query.entity record.entity
  let found ← query.matchesOf store.schema candidates
  let sorted := sortBy (fun x y => SortOrder.compareKeys query.orders x.2 y.2) found
  return sorted.map (·.1)

/-- The number of records that match a query. -/
def count (store : Store) (query : Query) : Except Fault Nat := return (← store.fetch query).length

/-- A section of the records that match a query. -/
def fetchSection (store : Store) (query : Query) (offset limit : Nat) :
    Except Fault (List Record) := do
  if limit = 0 then throw (.execution "page limit must be at least 1")
  return ((← store.fetch query).drop offset).take limit

end Store

end RecordQuery
