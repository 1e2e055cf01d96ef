import RecordQuery.Query.Predicate
import RecordQuery.Request.Sort

/-! # Queries

A query asks for the records of an entity that satisfy a predicate, in some order. -/

namespace RecordQuery

/-- An expression to sort by. -/
structure SortOrder where
  /-- The path as it is written in the request. -/
  path : String
  expr : Expr
  direction : Direction
deriving Repr

structure Query where
  entity : String
  /-- Without a predicate every record matches. -/
  predicate : Option Predicate := none
  /-- The first order counts most. -/
  orders : List SortOrder := []
  /-- How many joins the compilation has made. -/
  joinCount : Nat := 0
deriving Repr

namespace Query

/-- The record searched for. -/
def root (query : Query) : Source := .root query.entity

/-- Of equal joins keeps the first. -/
def distinctJoins : List Join → List Join
  | [] => []
  | j :: rest => j :: (distinctJoins rest).filter (· != j)

/-- The joins of the predicate and the orders, each one once. -/
def joins (query : Query) : List Join :=
  distinctJoins ((query.predicate.map Predicate.joins).getD [] ++
    query.orders.flatMap fun order => order.expr.joins)

end Query

end RecordQuery
