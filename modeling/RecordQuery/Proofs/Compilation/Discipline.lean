import RecordQuery.Proofs.Compilation.Resolution
import RecordQuery.Proofs.Operator.Kind

/-! # Where conditions stand

A filter that compiles has its conditions in the right places: at the root and below the operators
that combine conditions, and nowhere else. Below these operators there is nothing but conditions,
and below the operators that make literals of texts nothing but texts. -/

namespace RecordQuery

open Fallible

/-! ## Contexts for the same fields -/

namespace Context

variable {schema : Schema} {metadata : Metadata} {context after : Context}

/-- Making a source leaves the fields of a context as they are. -/
theorem IsFor.enter (isFor : context.IsFor schema metadata) (key : String) (isJoin : Bool)
    (made : Source) : (context.enter key isJoin made).2.IsFor schema metadata := by
  unfold Context.enter
  split
  · exact isFor
  · exact isFor

/-- Following steps leaves the fields of a context as they are. -/
theorem IsFor.follow (isFor : context.IsFor schema metadata) (key : String) (reached : Source)
    (steps : Traversal) : (context.follow key reached steps).2.IsFor schema metadata := by
  induction steps generalizing context key reached with
  | nil => exact isFor
  | cons step rest ih =>
    by_cases isAttr : ∃ name, step = .attr name
    · obtain ⟨name, rfl⟩ := isAttr
      exact isFor
    · rw [follow_cons fun name same => isAttr ⟨name, same⟩]
      exact ih (isFor.enter _ _ _) _ _

/-- Compiling a path leaves the fields of a context as they are. -/
theorem IsFor.field (isFor : context.IsFor schema metadata) {path : String}
    {made : Expr × Descriptor} (compiled : context.field path = .ok (made, after)) :
    after.IsFor schema metadata := by
  obtain ⟨_, reached⟩ := field_eq_ok_iff.mp compiled
  obtain ⟨steps, _, followed⟩ := expr_eq_ok_iff.mp reached
  have kept := isFor.follow "" context.root steps
  rwa [followed] at kept

end Context

namespace Filter

variable {schema : Schema} {metadata : Metadata} {context after : Context}

mutual

/-- Compiling a filter leaves the fields of a context as they are. -/
theorem operand_isFor : ∀ {filter : Filter} {context after : Context} {result : Operand},
    context.IsFor schema metadata → operand .builtin filter context = .ok (result, after) →
      after.IsFor schema metadata
  | .literal _, _, _, _, isFor, compiled => by
    rw [operand] at compiled
    rwa [← (Compiler.pure_eq_ok_iff.mp compiled).2]
  | .field _, _, _, _, isFor, compiled => by
    rw [operand] at compiled
    obtain ⟨_, _, _, found⟩ := Context.of_fieldOperand compiled
    exact isFor.field found
  | .call _ _, _, _, _, isFor, compiled => by
    obtain ⟨operator, results, middle, registered, made, evaluated⟩ := of_operand_call compiled
    rw [(Registry.builtin_reads registered).stays evaluated]
    exact operands_isFor isFor made

/-- Compiling arguments leaves the fields of a context as they are. -/
theorem operands_isFor : ∀ {args : List Filter} {context after : Context} {results : List Operand},
    context.IsFor schema metadata → operands .builtin args context = .ok (results, after) →
      after.IsFor schema metadata
  | [], _, _, _, isFor, compiled => by
    rw [operands] at compiled
    rwa [← (Compiler.pure_eq_ok_iff.mp compiled).2]
  | _ :: _, _, _, _, isFor, compiled => by
    obtain ⟨_, _, _, head, tail, _⟩ := of_operands_cons compiled
    exact operands_isFor (operand_isFor isFor head) tail

end

/-- The filter compiles to the operand, in some context for the fields. -/
def Yields (schema : Schema) (metadata : Metadata) (filter : Filter) (made : Operand) : Prop :=
  ∃ before after : Context, before.IsFor schema metadata ∧
    operand .builtin filter before = .ok (made, after)

/-- Arguments compile to as many operands, each to one of these. -/
theorem yields_of_operands (isFor : context.IsFor schema metadata) {args : List Filter}
    {results : List Operand} (compiled : operands .builtin args context = .ok (results, after)) :
    results.length = args.length ∧
      ∀ arg ∈ args, ∃ made ∈ results, Yields schema metadata arg made := by
  induction args generalizing context results with
  | nil =>
    rw [operands] at compiled
    obtain ⟨rfl, _⟩ := Compiler.pure_eq_ok_iff.mp compiled
    simp
  | cons arg rest ih =>
    obtain ⟨first, others, middle, head, tail, rfl⟩ := of_operands_cons compiled
    obtain ⟨asMany, each⟩ := ih (operand_isFor isFor head) tail
    refine ⟨congrArg (· + 1) asMany, List.forall_mem_cons.mpr ⟨?_, fun other member => ?_⟩⟩
    · exact ⟨first, List.mem_cons_self, context, middle, isFor, head⟩
    · obtain ⟨made, listed, yields⟩ := each other member
      exact ⟨made, List.mem_cons_of_mem _ listed, yields⟩

/-! ## Kinds of filters -/

/-- The filter calls an operator that makes conditions. -/
def IsConditionCall (filter : Filter) : Prop :=
  ∃ name args operator, filter = .call name args ∧ Registry.builtin.get? name = some operator ∧
    operator.kind ≠ .valueTransform

/-- The filter is a condition: a call that makes one, a truth value, a field of truth values, or a
value in lower case that is left to the search. -/
inductive IsCondition (schema : Schema) (metadata : Metadata) : Filter → Prop where
  | call {filter : Filter} (makes : filter.IsConditionCall) : IsCondition schema metadata filter
  | truth {b : Bool} : IsCondition schema metadata (.literal (.boolean b))
  | field {path : String} {d : Descriptor} (meant : metadata.get? path = some d)
      (boolean : d.valueType? = some .boolean) : IsCondition schema metadata (.field path)
  | lower {args : List Filter} {e : Expr}
      (yields : Yields schema metadata (.call "lower" args) (.expr e)) :
      IsCondition schema metadata (.call "lower" args)

/-- The filter is a text, or a call of an operator on values that yields one at once. -/
inductive IsText (schema : Schema) (metadata : Metadata) : Filter → Prop where
  | literal {s : String} : IsText schema metadata (.literal (.string s))
  | transform {name : String} {args : List Filter} {operator : Operator} {s : String}
      (registered : Registry.builtin.get? name = some operator)
      (kind : operator.kind = .valueTransform)
      (yields : Yields schema metadata (.call name args) (.literal (.string s))) :
      IsText schema metadata (.call name args)

variable {filter : Filter} {made : Operand}

/-- A literal yields itself. -/
theorem Yields.literal {value : Value} (yields : Yields schema metadata (.literal value) made) :
    made = .literal value := by
  obtain ⟨before, after, _, compiled⟩ := yields
  rw [operand] at compiled
  exact (Compiler.pure_eq_ok_iff.mp compiled).1.symm

/-- A path yields the field that it means. -/
theorem Yields.field {path : String} (yields : Yields schema metadata (.field path) made) :
    ∃ e d, made = .field e d ∧ metadata.get? path = some d := by
  obtain ⟨before, after, ⟨_, rfl⟩, compiled⟩ := yields
  rw [operand] at compiled
  obtain ⟨e, d, rfl, found⟩ := Context.of_fieldOperand compiled
  exact ⟨e, d, rfl, (Context.field_some found).2.1⟩

/-- What a call makes is of the kind that its operator makes. -/
theorem Yields.role {name : String} {args : List Filter}
    (yields : Yields schema metadata (.call name args) made) :
    ∃ operator, Registry.builtin.get? name = some operator ∧ Registry.Role name operator ∧
      ∀ {takes makes : Operand → Prop}, operator.Meets takes makes → makes made := by
  obtain ⟨before, after, _, compiled⟩ := yields
  obtain ⟨operator, results, middle, registered, _, evaluated⟩ := of_operand_call compiled
  exact ⟨operator, registered, Registry.role_of_get? registered, fun meets => meets.made evaluated⟩

/-- Calls of operators that make conditions compile to conditions. -/
theorem Yields.isPredicate (yields : Yields schema metadata filter made)
    (makes : filter.IsConditionCall) : made.IsPredicate := by
  obtain ⟨name, args, operator, rfl, registered, kind⟩ := makes
  obtain ⟨other, found, role, made⟩ := yields.role
  cases registered.symm.trans found
  cases role with
  | connective _ _ meets => exact made meets
  | terminal _ _ meets => exact made meets
  | textual _ value _ => exact absurd value kind
  | lower _ value _ => exact absurd value kind
  | decimal _ value _ => exact absurd value kind

/-- What compiles to something that stands for a condition is a condition. -/
theorem Yields.isCondition (yields : Yields schema metadata filter made)
    (conditional : made.IsConditional) : filter.IsCondition schema metadata := by
  cases filter with
  | literal value =>
    rw [yields.literal] at conditional
    cases conditional
    exact .truth
  | field path =>
    obtain ⟨e, d, rfl, meant⟩ := yields.field
    cases conditional with
    | field boolean => exact .field meant boolean
  | call name args =>
    obtain ⟨operator, registered, role, made⟩ := yields.role
    cases role with
    | connective _ kind _ => exact .call ⟨name, args, operator, rfl, registered, kind⟩
    | terminal _ kind _ => exact .call ⟨name, args, operator, rfl, registered, kind⟩
    | textual _ _ meets => exact absurd conditional (made meets).not_isConditional
    | decimal _ _ meets => exact absurd conditional (made meets).not_isConditional
    | lower named _ meets =>
      rcases made meets with plain | isExpr
      · exact absurd conditional plain.not_isConditional
      · cases conditional with
        | expr =>
          rw [named] at yields ⊢
          exact .lower yields
        | _ => cases isExpr

/-- What compiles to a text is a text or a call that yields one. -/
theorem Yields.isText (yields : Yields schema metadata filter made) (text : made.IsText) :
    filter.IsText schema metadata := by
  obtain ⟨s, rfl⟩ : ∃ s, made = .literal (.string s) := by
    unfold Operand.IsText at text
    split at text
    · exact ⟨_, rfl⟩
    · cases text
  cases filter with
  | literal value =>
    cases yields.literal
    exact .literal
  | field path =>
    obtain ⟨_, _, same, _⟩ := yields.field
    cases same
  | call name args =>
    obtain ⟨operator, registered, role, made⟩ := yields.role
    cases role with
    | connective _ _ meets => exact (made meets).elim
    | terminal _ _ meets => exact (made meets).elim
    | textual _ kind _ => exact .transform registered kind yields
    | lower _ kind _ => exact .transform registered kind yields
    | decimal _ kind _ => exact .transform registered kind yields

/-! ## Arguments -/

/-- Somewhere in a filter the operator is called with the argument among its own. -/
inductive ArgumentIn (arg : Filter) (operator : String) : Filter → Prop where
  | direct {args : List Filter} (member : arg ∈ args) :
      ArgumentIn arg operator (.call operator args)
  | within {name : String} {args : List Filter} {inner : Filter} (member : inner ∈ args)
      (inside : ArgumentIn arg operator inner) : ArgumentIn arg operator (.call name args)

/-- In a filter that compiles each argument compiles to an operand of the kind that its operator
takes. -/
theorem ArgumentIn.taken {arg : Filter} {name : String} (inside : arg.ArgumentIn name filter)
    (yields : Yields schema metadata filter made) :
    ∃ operator given, Registry.Role name operator ∧ Yields schema metadata arg given ∧
      ∀ {takes makes : Operand → Prop}, operator.Meets takes makes → takes given := by
  induction inside generalizing made with
  | @direct args member =>
    obtain ⟨before, after, isFor, compiled⟩ := yields
    obtain ⟨operator, results, middle, registered, each, evaluated⟩ := of_operand_call compiled
    have counted := counted_of_operand_call registered compiled
    obtain ⟨asMany, compiledEach⟩ := yields_of_operands isFor each
    rw [← asMany] at counted
    obtain ⟨given, listed, yields⟩ := compiledEach arg member
    exact ⟨operator, given, Registry.role_of_get? registered, yields,
      fun meets => meets.taken counted evaluated given listed⟩
  | within member _ ih =>
    obtain ⟨before, after, isFor, compiled⟩ := yields
    obtain ⟨operator, results, middle, registered, each, evaluated⟩ := of_operand_call compiled
    obtain ⟨given, _, yields⟩ := (yields_of_operands isFor each).2 _ member
    exact ih yields

/-- If a filter compiles, conditions that are made by calls stand at the root and among the
arguments of `and`, `or` and `not` only. These and the root are conditions, and the arguments of
`date`, `enum` and `period` are texts. -/
theorem discipline_of_predicate {filter : Filter} {context after : Context} {condition : Predicate}
    (compiled : filter.predicate .builtin context = .ok (condition, after)) :
    filter.IsCondition context.schema context.metadata ∧
    ∀ (name : String) (arg : Filter), arg.ArgumentIn name filter →
      (arg.IsConditionCall → name ∈ ["and", "or", "not"]) ∧
      (name ∈ ["and", "or", "not"] → arg.IsCondition context.schema context.metadata) ∧
      (name ∈ ["date", "enum", "period"] → arg.IsText context.schema context.metadata) := by
  obtain ⟨root, made, taken⟩ := of_predicate compiled
  have yields : Yields context.schema context.metadata filter root :=
    ⟨context, after, ⟨rfl, rfl⟩, made⟩
  refine ⟨yields.isCondition (Operand.isConditional_of_toPredicate taken), ?_⟩
  intro name arg inside
  obtain ⟨operator, given, role, yieldsToo, takes⟩ := inside.taken yields
  have noCondition (value : ¬ given.IsPredicate) : ¬ arg.IsConditionCall := fun makes =>
    value (yieldsToo.isPredicate makes)
  -- The role of the operator says what it takes, and an operand tells which filter gave it.
  cases role with
  | connective listed _ meets =>
    exact ⟨fun _ => listed, fun _ => yieldsToo.isCondition (takes meets),
      fun textual => absurd textual (Registry.notMem_textualNames listed)⟩
  | terminal unlisted _ meets =>
    exact ⟨fun makes => absurd makes (noCondition (takes meets)),
      fun listed => absurd listed unlisted.1, fun textual => absurd textual unlisted.2⟩
  | textual textual _ meets =>
    have text := takes meets
    refine ⟨fun makes => absurd makes (noCondition fun isPredicate => ?_),
      fun listed => absurd textual (Registry.notMem_textualNames listed),
      fun _ => yieldsToo.isText text⟩
    cases given <;> simp at text isPredicate
  | lower named _ meets =>
    rw [named]
    exact ⟨fun makes => absurd makes (noCondition (takes meets)),
      fun listed => absurd listed (by decide), fun textual => absurd textual (by decide)⟩
  | decimal named _ meets =>
    rw [named]
    exact ⟨fun makes => absurd makes (noCondition (takes meets)),
      fun listed => absurd listed (by decide), fun textual => absurd textual (by decide)⟩

end Filter

namespace Sample

/-- Tasks are done or not, and they have a title and a term. -/
def ofTasks : Context where
  schema :=
    { entities := [{ name := "Task", fields := [⟨"done", .scalar .boolean, some {}, false⟩,
        ⟨"title", .scalar .string, some {}, false⟩, ⟨"term", .scalar .period, some {}, false⟩] }]
      names_nodup := by decide }
  metadata := ⟨"Task", [("done", ⟨[], ⟨"done", "Task", .attr⟩, .scalar .boolean, {}⟩),
    ("title", ⟨[], ⟨"title", "Task", .attr⟩, .scalar .string, {}⟩),
    ("term", ⟨[], ⟨"term", "Task", .attr⟩, .scalar .period, {}⟩)]⟩

/-- Tasks that are done, have another title than a given one in lower case, and a term of a year. -/
def doneInTerm : Filter :=
  .call "and" [.field "done",
    .call "not" [.call "eq" [.call "lower" [.field "title"], .literal (.string "rest")]],
    .call "eq" [.field "term", .call "period" [.call "lower" [.literal (.string "P1Y")]]]]

end Sample

namespace Filter

open Sample in
/-- The field below `and` is one of truth values, the call below `not` is a condition, and the term
is given as a text in lower case. -/
theorem discipline_of_predicate_tasks : ∃ condition after,
    doneInTerm.predicate .builtin ofTasks = .ok (condition, after) ∧
      IsCondition ofTasks.schema ofTasks.metadata (.field "done") ∧
      IsCondition ofTasks.schema ofTasks.metadata
        (.call "eq" [.call "lower" [.field "title"], .literal (.string "rest")]) ∧
      IsText ofTasks.schema ofTasks.metadata (.call "lower" [.literal (.string "P1Y")]) := by
  have compiles : (doneInTerm.predicate .builtin ofTasks).toOption.isSome = true := by
    decide +kernel
  obtain ⟨⟨condition, after⟩, made⟩ := Option.isSome_iff_exists.mp compiles
  have compiled := toOption_eq_some_iff.mp made
  obtain ⟨-, each⟩ := discipline_of_predicate compiled
  refine ⟨condition, after, compiled, (each "and" _ (.direct (by simp))).2.1 (by simp),
    (each "not" _ ?_).2.1 (by simp), (each "period" _ ?_).2.2 (by simp)⟩
  · exact .within (List.mem_cons_of_mem _ List.mem_cons_self) (.direct List.mem_cons_self)
  · refine .within (List.mem_cons_of_mem _ (List.mem_cons_of_mem _ List.mem_cons_self)) ?_
    exact .within (List.mem_cons_of_mem _ List.mem_cons_self) (.direct List.mem_cons_self)

-- A condition is refused among values, also where the values before it are none.
open Sample in
example : (Filter.call "in" [.field "title", .literal (.list []), .call "not" [.field "done"]]
    |>.predicate .builtin ofTasks).toOption.isNone = true := by decide +kernel

end Filter

end RecordQuery
