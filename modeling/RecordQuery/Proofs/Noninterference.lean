import RecordQuery.Proofs.Registration

/-! # Registrations do not interfere

What a request is read as depends on the names that its arrays start with only, and its filter calls
no other operators. So registrations under other names change neither what is read nor the query,
neither what is found nor the fault if there is one. -/

namespace RecordQuery

open Fallible

namespace Json

mutual

/-- The strings that arrays of the tree start with. -/
def heads : Json → List String
  | array items => headOf items ++ headsOfItems items
  | object members => headsOfMembers members
  | _ => []

/-- The strings that arrays among the items start with. -/
def headsOfItems : List Json → List String
  | [] => []
  | item :: rest => heads item ++ headsOfItems rest

/-- The strings that arrays among the values start with. -/
def headsOfMembers : List (String × Json) → List String
  | [] => []
  | (_, value) :: rest => heads value ++ headsOfMembers rest

/-- The string that a list starts with, if it does so. -/
def headOf : List Json → List String
  | string head :: _ => [head]
  | _ => []

end

/-- The arrays in a member are among those in the object. -/
theorem heads_subset_of_member {name : String} {members : List (String × Json)} {json : Json}
    (found : member? name members = some json) : json.heads ⊆ (object members).heads := by
  rw [heads]
  induction members with
  | nil => cases found
  | cons member rest ih =>
    obtain ⟨key, value⟩ := member
    rw [headsOfMembers]
    rw [member?] at found
    split at found
    · cases found
      exact List.subset_append_left _ _
    · exact List.Subset.trans (ih found) (List.subset_append_right _ _)

end Json

namespace Filter

variable {grammar other : Grammar}

mutual

/-- How a tree is read depends on the strings that its arrays start with only. -/
theorem readAt_congr (sameDepth : grammar.maxDepth = other.maxDepth) {json : Json}
    (same : ∀ name ∈ json.heads, grammar.isOperator name = other.isOperator name) (depth : Nat) :
    readAt grammar depth json = readAt other depth json := by
  rw [readAt.eq_def, readAt.eq_def other, sameDepth]
  split
  · rfl
  · split
    · rename_i head args
      have known : grammar.isOperator head = other.isOperator head :=
        same head (by simp [Json.heads, Json.headOf])
      have inside : ∀ name ∈ Json.headsOfItems args,
          grammar.isOperator name = other.isOperator name := fun name member =>
        same name (by simp [Json.heads, Json.headsOfItems, member])
      rw [known, readArgsAt_congr sameDepth inside (depth + 1)]
    all_goals rfl
termination_by sizeOf json

/-- How arguments are read depends on the strings that their arrays start with only. -/
theorem readArgsAt_congr (sameDepth : grammar.maxDepth = other.maxDepth) {items : List Json}
    (same : ∀ name ∈ Json.headsOfItems items, grammar.isOperator name = other.isOperator name)
    (depth : Nat) : readArgsAt grammar depth items = readArgsAt other depth items := by
  cases items with
  | nil => rw [readArgsAt, readArgsAt]
  | cons item rest =>
    rw [Json.headsOfItems, List.forall_mem_append] at same
    rw [readArgsAt, readArgsAt, readAt_congr sameDepth same.1 depth,
      readArgsAt_congr sameDepth same.2 depth]
termination_by sizeOf items

end

/-- The grammar that knows the operators of a list only. -/
def Grammar.only (grammar : Grammar) (names : List String) : Grammar where
  isOperator name := grammar.isOperator name && decide (name ∈ names)
  maxDepth := grammar.maxDepth

variable {registry replaced : Registry}

mutual

/-- What a filter is compiled to depends on the operators that it calls only. -/
theorem operand_congr : ∀ {filter : Filter},
    (∀ {name}, filter.Calls name → registry.get? name = replaced.get? name) →
      operand registry filter = operand replaced filter
  | .literal _, _ => by rw [operand, operand]
  | .field _, _ => by rw [operand, operand]
  | .call _ args, same => by
    have inside : ∀ arg ∈ args, ∀ {name}, arg.Calls name →
        registry.get? name = replaced.get? name := fun arg member _ calls =>
      same (.inside member calls)
    rw [operand, operand, same .here, operands_congr inside]

/-- What arguments are compiled to depends on the operators that they call only. -/
theorem operands_congr : ∀ {args : List Filter},
    (∀ arg ∈ args, ∀ {name}, arg.Calls name → registry.get? name = replaced.get? name) →
      operands registry args = operands replaced args
  | [], _ => by rw [operands, operands]
  | _ :: _, same => by
    obtain ⟨first, later⟩ := List.forall_mem_cons.mp same
    rw [operands, operands, operand_congr first, operands_congr later]

end

end Filter

namespace Request

/-- How a request is read depends on the strings that its arrays start with only. -/
theorem ofJson_congr {grammar other : Filter.Grammar}
    (sameDepth : grammar.maxDepth = other.maxDepth) {json : Json}
    (same : ∀ name ∈ json.heads, grammar.isOperator name = other.isOperator name) :
    ofJson grammar json = ofJson other json := by
  cases json with
  | object members =>
    have sameFilter : readFilter grammar (Json.member? "filter" members) =
        readFilter other (Json.member? "filter" members) := by
      cases found : Json.member? "filter" members with
      | none => rfl
      | some written =>
        have inside : ∀ name ∈ written.heads, grammar.isOperator name = other.isOperator name :=
          fun name member => same name (Json.heads_subset_of_member found member)
        unfold readFilter
        split
        · rfl
        · rfl
        · rename_i given _ isGiven
          cases isGiven
          unfold Filter.ofJson
          rw [Filter.readAt_congr sameDepth inside]
    unfold ofJson
    simp only [sameFilter]
  | _ => rfl

/-- The filter of a request calls no operator but those whose names start arrays of its tree. -/
theorem mem_heads_of_calls {grammar : Filter.Grammar} {json : Json} {request : Request}
    (read : ofJson grammar json = .ok request) {filter : Filter}
    (given : request.filter = some filter) {name : String} (calls : filter.Calls name) :
    name ∈ json.heads := by
  -- The request is read in the same way where all other names are unknown.
  have sameDepth : (grammar.only json.heads).maxDepth = grammar.maxDepth := rfl
  have readAgain : ofJson (grammar.only json.heads) json = .ok request := by
    rw [← read]
    exact ofJson_congr sameDepth fun head member => by simp [Filter.Grammar.only, member]
  obtain ⟨written, readFilter⟩ := filter_of_ofJson readAgain given
  have known : (grammar.only json.heads).isOperator name = true :=
    (Filter.calls_of_readAt readFilter).1 calls
  exact of_decide_eq_true (Bool.and_eq_true_iff.mp known).2

/-- What a request is compiled to depends on the operators that its filter calls only. -/
theorem compile_congr {registry replaced : Registry} {request : Request}
    (same : ∀ filter, request.filter = some filter →
      ∀ {name}, filter.Calls name → registry.get? name = replaced.get? name)
    (maxDepth : Nat) (schema : Schema) (metadata : Metadata) :
    request.compile registry maxDepth schema metadata =
      request.compile replaced maxDepth schema metadata := by
  have samePredicate : predicate registry maxDepth request.filter =
      predicate replaced maxDepth request.filter := by
    cases given : request.filter with
    | none => rfl
    | some filter =>
      have sameOperand := Filter.operand_congr (same filter given)
      simp only [predicate, Filter.predicate, sameOperand]
  unfold compile
  rw [samePredicate]

end Request

namespace Searcher

variable {searcher : Searcher} {additions : List (String × Operator)}

/-- Registrations leave the schema as it is. -/
theorem registerAll_schema (searcher : Searcher) (additions : List (String × Operator)) :
    (searcher.registerAll additions).schema = searcher.schema := by
  induction additions generalizing searcher with
  | nil => rfl
  | cons addition rest ih =>
    have step : (searcher.registerOne addition).schema = searcher.schema := by
      rcases registerOne_cases searcher addition with same | same <;> rw [same]
    exact (ih (searcher.registerOne addition)).trans step

/-- Registrations under other names leave what is found under a name. -/
theorem get?_registerAll_of_ne {name : String} (apart : ∀ addition ∈ additions, addition.1 ≠ name) :
    (searcher.registerAll additions).operators.get? name = searcher.operators.get? name := by
  induction additions generalizing searcher with
  | nil => rfl
  | cons addition rest ih =>
    obtain ⟨other, others⟩ := List.forall_mem_cons.mp apart
    have step : (searcher.registerOne addition).operators.get? name =
        searcher.operators.get? name := by
      rcases registerOne_cases searcher addition with same | same
      · rw [same]
      · rw [same, Registry.get?_insert_of_ne _ _ other.symm]
    exact (ih others).trans step

/-- Registrations under names that start no array of a request change neither how it is read nor,
for any entity and store, what it is compiled to and what it finds; all faults are the same too. -/
theorem registerAll_apart (searcher : Searcher) {json : Json}
    (apart : ∀ addition ∈ additions, addition.1 ∉ json.heads) :
    (searcher.registerAll additions).readRequest json = searcher.readRequest json ∧
      ∀ request, searcher.readRequest json = .ok request → ∀ entity,
        (searcher.registerAll additions).compile entity request =
            searcher.compile entity request ∧
          ∀ store,
            (searcher.registerAll additions).search store entity request =
                searcher.search store entity request ∧
              (searcher.registerAll additions).searchPage store entity request =
                searcher.searchPage store entity request := by
  have kept : ∀ name ∈ json.heads, (searcher.registerAll additions).operators.get? name =
      searcher.operators.get? name := fun name member =>
    get?_registerAll_of_ne fun addition added same => apart addition added (same ▸ member)
  have sameConfig := registerAll_config searcher additions
  have sameSchema := registerAll_schema searcher additions
  refine ⟨?_, fun request read entity => ?_⟩
  · refine Request.ofJson_congr (congrArg Config.maxExpressionDepth sameConfig)
      fun name member => ?_
    exact congrArg Option.isSome (kept name member)
  · have sameMetadata : (searcher.registerAll additions).metadata entity =
        searcher.metadata entity := by
      unfold metadata
      rw [sameSchema, sameConfig]
    have sameQuery : (searcher.registerAll additions).compile entity request =
        searcher.compile entity request := by
      unfold compile
      rw [sameMetadata, sameSchema, sameConfig]
      refine bind_congr fun metadata => Request.compile_congr (fun filter given _ calls => ?_) ..
      exact kept _ (Request.mem_heads_of_calls read given calls)
    refine ⟨sameQuery, fun store => ⟨?_, ?_⟩⟩
    · unfold search
      rw [sameQuery]
    · unfold searchPage
      rw [sameQuery, sameConfig]

open Sample in
/-- Replacing an operator that is built in leaves a request alone that does not call it. -/
theorem registerAll_apart_often :
    (∀ addition ∈ [("eq", always), ("seldom", forwarding)], addition.1 ∉ oftenJson.heads) ∧
      (extended.registerAll [("eq", always), ("seldom", forwarding)]).readRequest oftenJson =
          extended.readRequest oftenJson ∧
        ∀ request, extended.readRequest oftenJson = .ok request → ∀ entity,
          (extended.registerAll [("eq", always), ("seldom", forwarding)]).compile entity request =
              extended.compile entity request ∧
            ∀ store,
              (extended.registerAll [("eq", always), ("seldom", forwarding)]).search store entity
                  request = extended.search store entity request ∧
                (extended.registerAll [("eq", always), ("seldom", forwarding)]).searchPage store
                  entity request = extended.searchPage store entity request := by
  have apart : ∀ addition ∈ [("eq", always), ("seldom", forwarding)],
      addition.1 ∉ oftenJson.heads := by
    have heads : oftenJson.heads = ["not", "often", "field"] := by cbv
    rw [heads]
    simp only [List.forall_mem_cons]
    exact ⟨by decide, by decide, by simp⟩
  exact ⟨apart, registerAll_apart extended apart⟩

end Searcher

end RecordQuery
