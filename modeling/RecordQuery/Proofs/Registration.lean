import RecordQuery.Proofs.Compilation.Refusal
import RecordQuery.Proofs.Store.Matching
import RecordQuery.Searcher

/-! # Registering operators

A registration adds an operator or is refused; it never takes a name away. So a request that was
read once stays compilable whatever is registered after that: its operators are known, and it nests
no deeper than allowed. -/

namespace RecordQuery

open Fallible

namespace Registry

variable {registry after : Registry} {policy : CollisionPolicy} {name other : String}
  {operator : Operator}

theorem get?_insert_self (registry : Registry) (name : String) (operator : Operator) :
    (registry.insert name operator).get? name = some operator := by
  unfold get? insert
  rw [List.lookup_cons_self]

theorem get?_insert_of_ne (registry : Registry) (operator : Operator) (different : other ≠ name) :
    (registry.insert name operator).get? other = registry.get? other := by
  have kept (entries : List (String × Operator)) :
      (entries.filter (·.1 != name)).lookup other = entries.lookup other := by
    induction entries with
    | nil => rfl
    | cons entry rest ih =>
      obtain ⟨key, held⟩ := entry
      by_cases same : key = name
      · have passed : (other == key) = false := by simpa [same] using different
        rw [List.filter_cons_of_neg (by simp [same]), List.lookup_cons, passed, ih]
      · rw [List.filter_cons_of_pos (by simp [same]), List.lookup_cons, List.lookup_cons, ih]
  have passed : (other == name) = false := by simpa using different
  unfold get? insert
  rw [List.lookup_cons, passed, kept]

/-- An operator that is registered is found under its name, and all others as before. -/
theorem insert_of_register {replaced : Option Operator}
    (registered : registry.register policy name operator = .ok (replaced, after)) :
    after = registry.insert name operator := by
  unfold register at registered
  split at registered
  · cases registered
  · cases registered
    rfl

end Registry

namespace Searcher

/-- The searcher after a registration; one that is refused leaves it as it is. -/
def registerOne (searcher : Searcher) (addition : String × Operator) : Searcher :=
  match searcher.register addition.1 addition.2 with
  | .ok (_, larger) => larger
  | .error _ => searcher

/-- The searcher after registrations, one after the other. -/
def registerAll (searcher : Searcher) (additions : List (String × Operator)) : Searcher :=
  additions.foldl registerOne searcher

variable {searcher : Searcher} {name : String} {operator : Operator}

/-- What a registration changes: nothing, or the operator under its name. -/
theorem registerOne_cases (searcher : Searcher) (addition : String × Operator) :
    searcher.registerOne addition = searcher ∨
      searcher.registerOne addition =
        { searcher with operators := searcher.operators.insert addition.1 addition.2 } := by
  unfold registerOne
  split
  · rename_i larger registered
    obtain ⟨⟨replaced, operators⟩, registeredToo, same⟩ := bind_eq_ok_iff.mp registered
    cases same
    rw [Registry.insert_of_register registeredToo]
    exact .inr rfl
  · exact .inl rfl

/-- Later registrations go on where earlier ones have ended. -/
theorem registerAll_append (searcher : Searcher) (earlier later : List (String × Operator)) :
    (searcher.registerAll earlier).registerAll later = searcher.registerAll (earlier ++ later) :=
  List.foldl_append.symm

/-- Registrations leave the configuration as it is. -/
theorem registerAll_config (searcher : Searcher) (additions : List (String × Operator)) :
    (searcher.registerAll additions).config = searcher.config := by
  induction additions generalizing searcher with
  | nil => rfl
  | cons addition rest ih =>
    have step : (searcher.registerOne addition).config = searcher.config := by
      rcases registerOne_cases searcher addition with same | same <;> rw [same]
    exact (ih (searcher.registerOne addition)).trans step

/-- A registration takes no name away. -/
theorem contains_registerOne (addition : String × Operator)
    (known : searcher.operators.contains name = true) :
    (searcher.registerOne addition).operators.contains name = true := by
  rcases registerOne_cases searcher addition with same | same
  · rwa [same]
  · rw [same]
    unfold Registry.contains at known ⊢
    by_cases isNew : name = addition.1
    · rw [isNew, Registry.get?_insert_self]
      rfl
    · rwa [Registry.get?_insert_of_ne _ _ isNew]

/-- No registration takes a name away. -/
theorem contains_registerAll (additions : List (String × Operator))
    (known : searcher.operators.contains name = true) :
    (searcher.registerAll additions).operators.contains name = true := by
  induction additions generalizing searcher with
  | nil => exact known
  | cons addition rest ih => exact ih (contains_registerOne addition known)

/-- What is found after a registration was registered or was found before. -/
theorem get?_of_registerOne {addition : String × Operator}
    (found : (searcher.registerOne addition).operators.get? name = some operator) :
    (name, operator) = addition ∨ searcher.operators.get? name = some operator := by
  rcases registerOne_cases searcher addition with same | same
  · rw [same] at found
    exact .inr found
  · rw [same] at found
    by_cases isNew : name = addition.1
    · subst isNew
      rw [Registry.get?_insert_self] at found
      cases found
      exact .inl rfl
    · rw [Registry.get?_insert_of_ne _ _ isNew] at found
      exact .inr found

/-- What is found after registrations has been registered or was there before. -/
theorem get?_of_registerAll {additions : List (String × Operator)}
    (found : (searcher.registerAll additions).operators.get? name = some operator) :
    (name, operator) ∈ additions ∨ searcher.operators.get? name = some operator := by
  induction additions generalizing searcher with
  | nil => exact .inr found
  | cons addition rest ih =>
    rcases ih found with later | before
    · exact .inl (List.mem_cons_of_mem _ later)
    · rcases get?_of_registerOne before with same | before
      · exact .inl (same ▸ List.mem_cons_self)
      · exact .inr before

end Searcher

/-- The filter of a request that is read has been read by the grammar. -/
theorem Request.filter_of_ofJson {grammar : Filter.Grammar} {json : Json} {request : Request}
    (read : ofJson grammar json = .ok request) {filter : Filter}
    (given : request.filter = some filter) :
    ∃ written, Filter.ofJson grammar written = .ok filter := by
  cases json with
  | object members =>
    obtain ⟨found, readFilter, read⟩ := bind_eq_ok_iff.mp read
    obtain ⟨options, _, read⟩ := bind_eq_ok_iff.mp read
    obtain ⟨sort, _, read⟩ := bind_eq_ok_iff.mp read
    cases read
    cases given
    unfold Request.readFilter at readFilter
    split at readFilter
    · cases readFilter
    · cases readFilter
    · rename_i written _ _
      obtain ⟨made, readMade, same⟩ := map_eq_ok_iff.mp readFilter
      cases same
      exact ⟨written, readMade⟩
  | _ => cases read

namespace Searcher

/-- The filter of a request that a searcher has read calls operators that it has, and it nests no
deeper than allowed. -/
theorem calls_of_readRequest {searcher : Searcher} {json : Json} {request : Request}
    (read : searcher.readRequest json = .ok request) {filter : Filter}
    (given : request.filter = some filter) :
    filter.depth ≤ searcher.config.maxExpressionDepth ∧
      ∀ {name}, filter.Calls name → searcher.operators.contains name = true := by
  obtain ⟨written, readFilter⟩ := Request.filter_of_ofJson read given
  obtain ⟨known, fits⟩ := Filter.calls_of_readAt readFilter
  have fitsToo : 1 + filter.depth ≤ searcher.config.maxExpressionDepth + 1 := fits
  exact ⟨by omega, known⟩

/-- That an entity is unknown is no fault of reading. -/
theorem metadata_avoids (searcher : Searcher) (entity : String) :
    Avoids Fault.IsOfReading (searcher.metadata entity) := by
  have registered : Avoids Fault.IsOfReading (searcher.schema.entity entity) := by
    unfold Schema.entity
    split
    · exact avoids_ok _
    · exact avoids_error_iff.mpr fun ofReading => by cases ofReading
  exact registered.bind fun _ => avoids_ok _

/-- A searcher has read a request after some registrations. Whatever is registered later, compiling
the request does not fail because an operator is unknown or because the filter nests too deep,
unless an operator that was registered and that the filter calls fails in this way itself. -/
theorem compile_of_readRequest {schema : Schema} {config : Config}
    {earlier : List (String × Operator)} {json : Json} {request : Request}
    (read : (({ schema, config } : Searcher).registerAll earlier).readRequest json = .ok request)
    (later : List (String × Operator)) :
    let searcher := (({ schema, config } : Searcher).registerAll earlier).registerAll later
    ∀ entity fault, searcher.compile entity request = .error fault → fault.IsOfReading →
      ∃ name operator filter args context,
        (name, operator) ∈ earlier ++ later ∧ searcher.operators.get? name = some operator ∧
        request.filter = some filter ∧ filter.Calls name ∧
        operator.evaluate name args context = .error fault := by
  intro searcher entity fault refused ofReading
  by_contra blameless
  have ofReadingOnly : ∀ {other}, other = fault → other.IsOfReading := fun same => same ▸ ofReading
  have serves : ∀ filter, request.filter = some filter →
      filter.depth ≤ searcher.config.maxExpressionDepth ∧
        ∀ {name}, filter.Calls name → searcher.operators.Serves (· = fault) name := by
    intro filter given
    obtain ⟨fits, known⟩ := calls_of_readRequest read given
    have sameConfig : searcher.config =
        (({ schema, config } : Searcher).registerAll earlier).config := registerAll_config _ later
    -- What the request calls was known when it was read, and nothing unregisters it.
    refine ⟨sameConfig ▸ fits, fun {name} calls => ?_⟩
    obtain ⟨operator, found⟩ :=
      Option.isSome_iff_exists.mp (contains_registerAll later (known calls))
    have counted (count : Nat) : Avoids (· = fault) (operator.arity.check name count) := by
      intro other wrong same
      exact operator.arity.check_avoids_reading name count other wrong (ofReadingOnly same)
    refine ⟨operator, found, counted, fun args context other failed same => ?_⟩
    have registered := found
    rw [registerAll_append] at registered
    rcases get?_of_registerAll registered with added | builtIn
    · exact blameless ⟨name, operator, filter, args, context, added, found, given, calls,
        same ▸ failed⟩
    · exact Registry.builtin_avoids_reading builtIn args context other failed (ofReadingOnly same)
  have discovered : Avoids (· = fault) (searcher.metadata entity) := by
    intro other failed same
    exact searcher.metadata_avoids entity other failed (ofReadingOnly same)
  have compiled : Avoids (· = fault) (searcher.compile entity request) :=
    discovered.bind fun metadata =>
      Request.compile_avoids ofReadingOnly searcher.schema metadata serves
  exact compiled fault refused rfl

end Searcher

namespace Sample

/-- An operator that is true of everything. -/
def always : Operator := .unary .terminal fun _ _ _ => .ok (.predicate (.constant true))

/-- An operator that asks for another one, which is not there. -/
def forwarding : Operator := .unary .terminal fun _ _ _ => .error (.unknownOperator "seldom")

/-- A request that calls an operator under a name that is not built in. -/
def often : Request where
  filter := some (.call "not" [.call "often" [.field "name"]])

def oftenJson : Json :=
  .object [("filter", .array [.string "not",
    .array [.string "often", .array [.string "field", .string "name"]]])]

/-- A searcher with an operator of its own. -/
def extended : Searcher := ({ schema := Sample.schema } : Searcher).registerAll [("often", always)]

end Sample

namespace Searcher

open Sample in
/-- Two operators that the filter calls are replaced after it was read, and one of them fails. -/
theorem compile_of_readRequest_often :
    (extended.readRequest oftenJson = .ok often ∧
      (extended.registerAll [("not", always), ("often", forwarding)]).compile "Person" often =
        .error (.unknownOperator "seldom")) ∧
    ∀ entity fault,
      (extended.registerAll [("not", always), ("often", forwarding)]).compile entity often =
        .error fault → fault.IsOfReading →
      ∃ name operator filter args context,
        (name, operator) ∈ [("often", always)] ++ [("not", always), ("often", forwarding)] ∧
        (extended.registerAll [("not", always), ("often", forwarding)]).operators.get? name =
          some operator ∧
        often.filter = some filter ∧ filter.Calls name ∧
        operator.evaluate name args context = .error fault := by
  have read : extended.readRequest oftenJson = .ok often := rfl
  have refused : (extended.registerAll [("not", always), ("often", forwarding)]).compile "Person"
      often = .error (.unknownOperator "seldom") := by cbv
  exact ⟨⟨read, refused⟩, compile_of_readRequest read [("not", always), ("often", forwarding)]⟩

end Searcher

end RecordQuery
