import RecordQuery.Compilation.Filter
import RecordQuery.Filter.Reader
import RecordQuery.Query.Basic
import RecordQuery.Request.Basic

/-! # Compiling requests

A request becomes a query for an entity. The filter is compiled first, then the sort criteria in
order. -/

namespace RecordQuery

/-- The order of a sort criterion, whose field has to be sortable. -/
def SortCriterion.order (criterion : SortCriterion) : Compiler SortOrder := fun context => do
  let ((expr, d), context) ← context.field criterion.path
  if d.directives.sortable then
    return ({ path := criterion.path, expr, direction := criterion.direction }, context)
  else throw (.malformed "sortKey" s!"field '{criterion.path}' is not sortable")

namespace Request

/-- The predicate of the filter, if there is one and it does not nest too deeply. -/
def predicate (registry : Registry) (maxDepth : Nat) :
    Option Filter → Compiler (Option Predicate)
  | none => return none
  | some filter => do
    if maxDepth < filter.depth then throw (Filter.tooDeep maxDepth)
    return some (← filter.predicate registry)

/-- The query for records of the entity whose fields are given. -/
def compile (registry : Registry) (maxDepth : Nat) (schema : Schema) (metadata : Metadata)
    (request : Request) : Except Fault Query := do
  let context : Context := { schema, metadata }
  let (predicate, context) ← (predicate registry maxDepth request.filter).run context
  let (orders, context) ← (request.sort.mapM SortCriterion.order).run context
  return { entity := metadata.entity, predicate, orders, joinCount := context.joinCount }

end Request

end RecordQuery
