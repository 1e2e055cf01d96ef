import RecordQuery.Proofs.Query.Totality
import RecordQuery.Operator.Registry

/-! # What operators make

Of operands over some fields each operator that is built in makes an operand over these fields, and
it leaves the context as it is. Tests for presence take any field directly. -/

namespace RecordQuery

open Fallible

/-- What the operand reads are scalar fields among the given ones, apart from tests for presence. -/
inductive Operand.Over (fields : List (Expr × Descriptor)) : Operand → Prop where
  | literal {value : Value} : Over fields (.literal value)
  | field {expr : Expr} {d : Descriptor} (listed : (expr, d) ∈ fields) (scalar : d.IsScalar) :
      Over fields (.field expr d)
  | expr {expr : Expr} (isOver : expr.Over fields) : Over fields (.expr expr)
  | predicate {predicate : Predicate} (isOver : predicate.Over fields) :
      Over fields (.predicate predicate)

variable {fields : List (Expr × Descriptor)}

/-! ## Conditions on expressions -/

namespace Predicate

/-- A condition on two expressions is over the fields that the expressions are over. -/
theorem Over.ofPair {predicate : Predicate} {left right : Expr}
    (pair : predicate.operands = [left, right]) (flat : predicate.conditions = [])
    (overLeft : left.Over fields) (overRight : right.Over fields) : predicate.Over fields := by
  refine .made (fun expr taken => ?_) fun condition taken => ?_
  · rw [pair] at taken
    rcases List.mem_cons.mp taken with rfl | last
    · exact overLeft
    · rwa [List.mem_singleton.mp last]
  · rw [flat] at taken
    cases taken

/-- A condition on one expression is over the fields that the expression is over. -/
theorem Over.ofSingle {predicate : Predicate} {subject : Expr}
    (single : predicate.operands = [subject]) (flat : predicate.conditions = [])
    (isOver : subject.Over fields) : predicate.Over fields := by
  refine .made (fun expr taken => ?_) fun condition taken => ?_
  · rw [single] at taken
    rwa [List.mem_singleton.mp taken]
  · rw [flat] at taken
    cases taken

/-- A negated condition is over the same fields. -/
theorem Over.negation {condition : Predicate} (isOver : condition.Over fields) :
    (Predicate.negation condition).Over fields := by
  refine .made (fun expr taken => by cases taken) fun other taken => ?_
  rwa [List.mem_singleton.mp taken]

/-- A condition that may be negated is over the same fields. -/
theorem Over.negateIf {condition : Predicate} (isOver : condition.Over fields) (negate : Bool) :
    (Operator.negateIf negate condition).Over fields := by
  cases negate with
  | false => exact isOver
  | true => exact isOver.negation

end Predicate

/-! ## Operands as expressions and conditions -/

namespace Operand

/-- The expression of an operand is over the fields of the operand. -/
theorem Over.toExpr {operand : Operand} (isOver : operand.Over fields) {name : String} {expr : Expr}
    (taken : operand.toExpr name = .ok expr) : expr.Over fields := by
  cases isOver with
  | literal =>
    cases taken
    exact .literal
  | field listed scalar =>
    cases taken
    exact .field listed scalar
  | expr isOver =>
    cases taken
    exact isOver
  | predicate _ => cases taken

/-- The condition of an operand is over the fields of the operand. -/
theorem Over.toPredicate {operand : Operand} (isOver : operand.Over fields) {name : String}
    {predicate : Predicate} (taken : operand.toPredicate name = .ok predicate) :
    predicate.Over fields := by
  cases isOver with
  | @literal value =>
    cases value with
    | boolean b =>
      cases taken
      exact .made (fun _ none => by cases none) fun _ none => by cases none
    | _ => cases taken
  | field listed scalar =>
    rw [Operand.toPredicate] at taken
    split at taken
    · cases taken
      exact .ofSingle rfl rfl (.field listed scalar)
    · cases taken
  | expr isOver =>
    cases taken
    exact .ofSingle rfl rfl isOver
  | predicate isOver =>
    cases taken
    exact isOver

/-- The operand is over the given fields, or itself one of them. -/
def Known (fields : List (Expr × Descriptor)) (operand : Operand) : Prop :=
  operand.Over fields ∨ ∃ source name d, operand = .field (.attr source name) d ∧
    (.attr source name, d) ∈ fields

/-- Tests for presence of a known field are over the fields. -/
theorem Known.presence {operand : Operand} (known : operand.Known fields) {name : String}
    {expr : Expr} (taken : operand.toExpr name = .ok expr) :
    (Predicate.isNull expr).Over fields ∧ (Predicate.isEmpty expr).Over fields := by
  rcases known with isOver | ⟨source, held, d, rfl, listed⟩
  · have overExpr := isOver.toExpr taken
    exact ⟨.ofSingle rfl rfl overExpr, .ofSingle rfl rfl overExpr⟩
  · cases taken
    exact ⟨.isNull listed, .isEmpty listed⟩

end Operand

/-! ## Comparands -/

namespace Comparand

/-- What an operand is compared as is over the fields of the operand. -/
theorem over_ofOperand {operand : Operand} (isOver : operand.Over fields) {name : String}
    {against : Option Descriptor} {comparand : Comparand}
    (taken : ofOperand name against operand = .ok comparand) : comparand.toExpr.Over fields := by
  unfold ofOperand at taken
  split at taken
  · split at taken
    · obtain ⟨_, _, rfl⟩ := map_eq_ok_iff.mp taken
      exact .literal
    · cases taken
      exact .literal
  · obtain ⟨_, found, rfl⟩ := map_eq_ok_iff.mp taken
    exact isOver.toExpr found

/-- A function on texts adds no fields. -/
theorem over_mapText {comparand : Comparand} (isOver : comparand.toExpr.Over fields)
    (function : TextFunction) : (comparand.mapText function).toExpr.Over fields := by
  unfold mapText
  split
  · exact .mapped isOver
  all_goals exact .literal

theorem over_trimIf {comparand : Comparand} (isOver : comparand.toExpr.Over fields) (trim : Bool) :
    (comparand.trimIf trim).toExpr.Over fields := by
  cases trim with
  | false => exact isOver
  | true => exact over_mapText isOver .trim

theorem over_foldIf {comparand : Comparand} (isOver : comparand.toExpr.Over fields)
    (ignoreCase : Bool) : (comparand.foldIf ignoreCase).toExpr.Over fields := by
  cases ignoreCase with
  | false => exact isOver
  | true => exact over_mapText isOver .upper

/-- One side of a condition, trimmed if so told. -/
def side (name : String) (against : Option Descriptor) (trim : Bool) (operand : Operand) :
    Except Fault Expr :=
  return ((← ofOperand name against operand).trimIf trim).toExpr

/-- One side of a comparison is over the fields of its operand. -/
theorem over_side {operand : Operand} (isOver : operand.Over fields) {name : String}
    {against : Option Descriptor} {trim : Bool} {expr : Expr}
    (made : side name against trim operand = .ok expr) : expr.Over fields := by
  obtain ⟨comparand, found, made⟩ := bind_eq_ok_iff.mp made
  cases made
  exact over_trimIf (over_ofOperand isOver found) trim

/-- Both sides of a comparison are over the fields of their operands. -/
theorem over_pair {left right : Operand} (overLeft : left.Over fields)
    (overRight : right.Over fields) {name : String} {first second : Comparand}
    (paired : pair name left right = .ok (first, second)) :
    first.toExpr.Over fields ∧ second.toExpr.Over fields := by
  obtain ⟨one, found, paired⟩ := bind_eq_ok_iff.mp paired
  obtain ⟨two, foundToo, paired⟩ := bind_eq_ok_iff.mp paired
  cases paired
  exact ⟨over_trimIf (over_ofOperand overLeft found) _,
    over_trimIf (over_ofOperand overRight foundToo) _⟩

end Comparand

/-! ## Operators -/

namespace Operator

/-- Of operands over some fields the operator makes an operand over these fields, and it leaves the
context as it is. -/
structure Preserves (operator : Operator) : Prop where
  made {fields : List (Expr × Descriptor)} {args : List Operand} {name : String}
    {context after : Context} {result : Operand} (isOver : ∀ arg ∈ args, arg.Over fields)
    (evaluated : operator.evaluate name args context = .ok (result, after)) :
    result.Over fields ∧ after = context

variable {kind : OperatorKind} {name : String} {args : List Operand} {context after : Context}
  {result : Operand}

/-- An operator that reads its context makes what it is to make and leaves the context. -/
theorem of_reader {arity : Arity} {f : Context → String → List Operand → Except Fault Operand}
    (evaluated : (reader kind arity f).evaluate name args context = .ok (result, after)) :
    f context name args = .ok result ∧ after = context := by
  obtain ⟨operand, found, evaluated⟩ := bind_eq_ok_iff.mp evaluated
  cases evaluated
  exact ⟨found, rfl⟩

/-- An operator on one argument that succeeds has been given one. -/
theorem of_unary {f : Context → String → Operand → Except Fault Operand}
    (evaluated : (unary kind f).evaluate name args context = .ok (result, after)) :
    ∃ arg, args = [arg] ∧ f context name arg = .ok result ∧ after = context := by
  obtain ⟨made, same⟩ := of_reader evaluated
  split at made
  · exact ⟨_, rfl, made, same⟩
  · cases made

/-- An operator on two arguments that succeeds has been given two. -/
theorem of_binary {f : Context → String → Operand → Operand → Except Fault Operand}
    (evaluated : (binary kind f).evaluate name args context = .ok (result, after)) :
    ∃ left right, args = [left, right] ∧ f context name left right = .ok result ∧
      after = context := by
  obtain ⟨made, same⟩ := of_reader evaluated
  split at made
  · exact ⟨_, _, rfl, made, same⟩
  · cases made

/-- An operator keeps to the fields of its arguments if what it makes of them does. -/
theorem reader_preserves {arity : Arity}
    {f : Context → String → List Operand → Except Fault Operand}
    (preserves : ∀ {fields : List (Expr × Descriptor)} {args : List Operand} {name : String}
      {context : Context} {result : Operand}, (∀ arg ∈ args, arg.Over fields) →
        f context name args = .ok result → result.Over fields) :
    (reader kind arity f).Preserves := by
  constructor
  intro fields args name context after result isOver evaluated
  obtain ⟨made, same⟩ := of_reader evaluated
  exact ⟨preserves isOver made, same⟩

/-- An operator on one argument keeps to its fields if what it makes of it does. -/
theorem unary_preserves {f : Context → String → Operand → Except Fault Operand}
    (preserves : ∀ {fields : List (Expr × Descriptor)} {arg : Operand} {name : String}
      {context : Context} {result : Operand}, arg.Over fields →
        f context name arg = .ok result → result.Over fields) : (unary kind f).Preserves := by
  constructor
  intro fields args name context after result isOver evaluated
  obtain ⟨arg, rfl, made, same⟩ := of_unary evaluated
  exact ⟨preserves (isOver arg List.mem_cons_self) made, same⟩

/-- An operator on two arguments keeps to their fields if what it makes of them does. -/
theorem binary_preserves {f : Context → String → Operand → Operand → Except Fault Operand}
    (preserves : ∀ {fields : List (Expr × Descriptor)} {left right : Operand} {name : String}
      {context : Context} {result : Operand}, left.Over fields → right.Over fields →
        f context name left right = .ok result → result.Over fields) :
    (binary kind f).Preserves := by
  constructor
  intro fields args name context after result isOver evaluated
  obtain ⟨left, right, rfl, made, same⟩ := of_binary evaluated
  have overRight := isOver right (List.mem_cons_of_mem _ List.mem_cons_self)
  exact ⟨preserves (isOver left List.mem_cons_self) overRight made, same⟩

/-! ### Logical operators -/

/-- An operator that combines conditions keeps to their fields if the combination does. -/
theorem combinator_preserves {combine : List Predicate → Predicate}
    (combines : ∀ {fields : List (Expr × Descriptor)} {conditions : List Predicate},
      (∀ condition ∈ conditions, condition.Over fields) → (combine conditions).Over fields) :
    (combinator combine).Preserves := by
  refine reader_preserves fun isOver made => ?_
  obtain ⟨conditions, each, made⟩ := bind_eq_ok_iff.mp made
  cases made
  refine .predicate (combines fun condition member => ?_)
  obtain ⟨arg, taken, isCondition⟩ := exists_of_mem_mapM each member
  exact (isOver arg taken).toPredicate isCondition

theorem conjunction_preserves : conjunction.Preserves :=
  @combinator_preserves .conjunction fun each => .made (fun _ none => by cases none) each

theorem disjunction_preserves : disjunction.Preserves :=
  @combinator_preserves .disjunction fun each => .made (fun _ none => by cases none) each

/-- A negation is over the fields of what it denies. -/
theorem negation_preserves : negation.Preserves := by
  refine unary_preserves fun isOver made => ?_
  obtain ⟨condition, taken, made⟩ := bind_eq_ok_iff.mp made
  cases made
  exact .predicate (isOver.toPredicate taken).negation

/-! ### Comparing operators -/

/-- An equation is over the fields of its sides. -/
theorem over_equalityOf {left right : Comparand} (overLeft : left.toExpr.Over fields)
    (overRight : right.toExpr.Over fields) (negate ignoreCase : Bool) :
    (equalityOf negate ignoreCase left right).Over fields := by
  unfold equalityOf
  split
  · exact (Predicate.Over.ofSingle rfl rfl overRight).negateIf negate
  split
  · exact (Predicate.Over.ofSingle rfl rfl overLeft).negateIf negate
  · have foldedLeft := Comparand.over_foldIf overLeft ignoreCase
    have foldedRight := Comparand.over_foldIf overRight ignoreCase
    cases negate with
    | false => exact .ofPair rfl rfl foldedLeft foldedRight
    | true => exact .ofPair rfl rfl foldedLeft foldedRight

theorem equality_preserves (negate ignoreCase : Bool) : (equality negate ignoreCase).Preserves := by
  refine binary_preserves fun overLeft overRight made => ?_
  obtain ⟨⟨first, second⟩, paired, made⟩ := bind_eq_ok_iff.mp made
  cases made
  obtain ⟨overFirst, overSecond⟩ := Comparand.over_pair overLeft overRight paired
  exact .predicate (over_equalityOf overFirst overSecond negate ignoreCase)

theorem ordering_preserves (comparison : RecordQuery.Comparison) :
    (ordering comparison).Preserves := by
  refine binary_preserves fun overLeft overRight made => ?_
  obtain ⟨⟨first, second⟩, paired, made⟩ := bind_eq_ok_iff.mp made
  cases made
  obtain ⟨overFirst, overSecond⟩ := Comparand.over_pair overLeft overRight paired
  exact .predicate (.ofPair rfl rfl overFirst overSecond)

/-- Taking a list apart adds no fields. -/
theorem over_expandLists {args : List Operand} (isOver : ∀ arg ∈ args, arg.Over fields) :
    ∀ arg ∈ expandLists args, arg.Over fields := by
  intro item member
  obtain ⟨arg, taken, inside⟩ := List.mem_flatMap.mp member
  split at inside
  · obtain ⟨value, _, rfl⟩ := List.mem_map.mp inside
    exact .literal
  · rw [List.mem_singleton.mp inside]
    exact isOver arg taken

theorem membership_preserves (negate : Bool) : (membership negate).Preserves := by
  refine reader_preserves fun isOver made => ?_
  split at made
  · cases made
  rename_i subject args
  obtain ⟨overSubject, overArgs⟩ := List.forall_mem_cons.mp isOver
  obtain ⟨_, _, made⟩ := bind_eq_ok_iff.mp made
  obtain ⟨values, each, made⟩ := bind_eq_ok_iff.mp made
  split at made
  · cases made
    exact .predicate (.made (fun _ none => by cases none) fun _ none => by cases none)
  · obtain ⟨comparand, found, made⟩ := bind_eq_ok_iff.mp made
    cases made
    refine .predicate (Predicate.Over.negateIf (.made (fun expr taken => ?_) ?_) negate)
    · rcases List.mem_cons.mp taken with rfl | listed
      · exact Comparand.over_trimIf (Comparand.over_ofOperand overSubject found) _
      · obtain ⟨arg, inArgs, computed⟩ := exists_of_mem_mapM each listed
        exact Comparand.over_side (over_expandLists overArgs arg inArgs) computed
    · exact fun _ none => by cases none

/-- Both bounds are over the fields of the arguments. -/
theorem over_bounds {name : String} {args : List Operand} (isOver : ∀ arg ∈ args, arg.Over fields)
    {lower upper : Operand} (taken : bounds name args = .ok (lower, upper)) :
    lower.Over fields ∧ upper.Over fields := by
  unfold bounds at taken
  split at taken
  · cases taken
    exact ⟨.literal, .literal⟩
  · cases taken
  · cases taken
    exact ⟨isOver _ List.mem_cons_self, isOver _ (List.mem_cons_of_mem _ List.mem_cons_self)⟩
  · cases taken

theorem range_preserves : range.Preserves := by
  refine reader_preserves fun isOver made => ?_
  split at made
  · cases made
  obtain ⟨overSubject, overArgs⟩ := List.forall_mem_cons.mp isOver
  obtain ⟨_, _, made⟩ := bind_eq_ok_iff.mp made
  obtain ⟨⟨lower, upper⟩, between, made⟩ := bind_eq_ok_iff.mp made
  obtain ⟨overLower, overUpper⟩ := over_bounds overArgs between
  obtain ⟨first, isFirst, made⟩ := bind_eq_ok_iff.mp made
  obtain ⟨second, isSecond, made⟩ := bind_eq_ok_iff.mp made
  obtain ⟨third, isThird, made⟩ := bind_eq_ok_iff.mp made
  cases made
  refine .predicate (.made (fun expr taken => ?_) fun _ none => by cases none)
  simp only [Predicate.operands, List.mem_cons, List.not_mem_nil, or_false] at taken
  rcases taken with rfl | rfl | rfl
  · exact Comparand.over_side overSubject isFirst
  · exact Comparand.over_side overLower isSecond
  · exact Comparand.over_side overUpper isThird

/-! ### Operators on texts -/

/-- The pattern for a text is over the fields of the text. -/
theorem over_patternOf (occurrence : Occurrence) {comparand : Comparand}
    (isOver : comparand.toExpr.Over fields) : (patternOf occurrence comparand).Over fields := by
  cases comparand with
  | literal value => exact .literal
  | expr expr =>
    cases occurrence with
    | start => exact .concat isOver .literal
    | finish => exact .concat .literal isOver
    | anywhere => exact .concat (.concat .literal isOver) .literal

theorem matching_preserves (occurrence : Occurrence) (ignoreCase : Bool) :
    (matching occurrence ignoreCase).Preserves := by
  refine binary_preserves fun overLeft overRight made => ?_
  obtain ⟨⟨subject, text⟩, paired, made⟩ := bind_eq_ok_iff.mp made
  obtain ⟨overSubject, overText⟩ := Comparand.over_pair overLeft overRight paired
  by_cases null : text.isNullLiteral = true
  · simp [null] at made
  · simp only [null] at made
    cases made
    exact .predicate (.ofPair rfl rfl (Comparand.over_foldIf overSubject ignoreCase)
      (over_patternOf occurrence (Comparand.over_foldIf overText ignoreCase)))

theorem lowerCase_preserves : lowerCase.Preserves := by
  refine unary_preserves fun isOver made => ?_
  split at made
  · cases made
    exact .literal
  · cases made
    exact .literal
  · cases made
  · cases made
    cases isOver with
    | field listed scalar => exact .expr (.mapped (.field listed scalar))
  · cases made
    cases isOver with
    | expr isOver => exact .expr (.mapped isOver)
  · cases made

/-! ### Operators on presence -/

/-- What a test for presence makes of its argument. -/
theorem nullCheck_over {negate : Bool} (known : ∀ arg ∈ args, arg.Known fields)
    (evaluated : (nullCheck negate).evaluate name args context = .ok (result, after)) :
    result.Over fields ∧ after = context := by
  obtain ⟨arg, rfl, made, same⟩ := of_unary evaluated
  obtain ⟨_, _, made⟩ := bind_eq_ok_iff.mp made
  obtain ⟨subject, taken, made⟩ := bind_eq_ok_iff.mp made
  cases made
  have tested := ((known arg List.mem_cons_self).presence taken).1
  exact ⟨.predicate (tested.negateIf negate), same⟩

/-- Tests for emptiness keep to a known field. -/
theorem emptyCheck_over {negate : Bool} (known : ∀ arg ∈ args, arg.Known fields)
    (evaluated : (emptyCheck negate).evaluate name args context = .ok (result, after)) :
    result.Over fields ∧ after = context := by
  obtain ⟨arg, rfl, made, same⟩ := of_unary evaluated
  obtain ⟨_, _, made⟩ := bind_eq_ok_iff.mp made
  obtain ⟨_, _, made⟩ := bind_eq_ok_iff.mp made
  obtain ⟨subject, taken, made⟩ := bind_eq_ok_iff.mp made
  cases made
  have tested := ((known arg List.mem_cons_self).presence taken).2
  exact ⟨.predicate (tested.negateIf negate), same⟩

theorem nullCheck_preserves (negate : Bool) : (nullCheck negate).Preserves :=
  ⟨fun isOver => nullCheck_over fun arg member => .inl (isOver arg member)⟩

theorem emptyCheck_preserves (negate : Bool) : (emptyCheck negate).Preserves :=
  ⟨fun isOver => emptyCheck_over fun arg member => .inl (isOver arg member)⟩

/-! ### Operators that make literals -/

/-- An operator whose results are literals. -/
theorem unary_preserves_of_literal {f : Context → String → Operand → Except Fault Operand}
    (literal : ∀ {context : Context} {name : String} {arg result : Operand},
      f context name arg = .ok result → ∃ value, result = .literal value) :
    (unary kind f).Preserves := by
  refine unary_preserves fun _ made => ?_
  obtain ⟨value, rfl⟩ := literal made
  exact .literal

/-- An instant that is made of a text is over any fields. -/
theorem date_preserves : date.Preserves := by
  refine unary_preserves_of_literal fun made => ?_
  obtain ⟨text, _, made⟩ := bind_eq_ok_iff.mp made
  split at made
  · cases made
    exact ⟨_, rfl⟩
  · cases made

theorem bigDecimal_preserves : bigDecimal.Preserves := by
  refine unary_preserves_of_literal fun made => ?_
  have fromText : ∀ {text : String} {result : Operand},
      (Value.decimalOfText text).map (fun d => Operand.literal (.decimal d)) = .ok result →
        ∃ value, result = .literal value := by
    intro text result made
    obtain ⟨d, _, rfl⟩ := map_eq_ok_iff.mp made
    exact ⟨_, rfl⟩
  split at made
  · exact fromText made
  · exact fromText made
  · exact fromText made
  · exact fromText made
  · cases made

theorem period_preserves : period.Preserves := by
  refine unary_preserves_of_literal fun made => ?_
  obtain ⟨text, _, made⟩ := bind_eq_ok_iff.mp made
  obtain ⟨value, _, made⟩ := bind_eq_ok_iff.mp made
  cases made
  exact ⟨_, rfl⟩

/-- A member of an enumeration is over any fields. -/
theorem enumeration_preserves : enumeration.Preserves := by
  refine binary_preserves fun _ _ made => ?_
  obtain ⟨typeName, _, made⟩ := bind_eq_ok_iff.mp made
  obtain ⟨member, _, made⟩ := bind_eq_ok_iff.mp made
  split at made
  · split at made
    · cases made
      exact .literal
    · cases made
  · cases made

end Operator

/-! ## The operators that are built in -/

namespace Registry

/-- The names of the operators that test for presence. -/
def presenceNames : List String := ["isNull", "isNotNull", "isEmpty", "isNotEmpty"]

/-- An operator that is found is among the registered ones. -/
theorem mem_entries_of_get? {registry : Registry} {name : String} {operator : Operator}
    (found : registry.get? name = some operator) : (name, operator) ∈ registry.entries := by
  obtain ⟨before, behind, split, _⟩ := List.lookup_eq_some_iff.mp found
  rw [split]
  exact List.mem_append_right _ List.mem_cons_self

/-- All operators that are built in keep to the fields of their arguments. -/
theorem builtin_preserves {name : String} {operator : Operator}
    (found : builtin.get? name = some operator) : operator.Preserves := by
  have each : ∀ entry ∈ builtin.entries, entry.2.Preserves := by
    unfold builtin
    simp only [List.forall_mem_cons]
    exact ⟨Operator.conjunction_preserves, Operator.disjunction_preserves,
      Operator.negation_preserves, Operator.equality_preserves _ _,
      Operator.equality_preserves _ _, Operator.equality_preserves _ _,
      Operator.equality_preserves _ _, Operator.ordering_preserves _,
      Operator.ordering_preserves _, Operator.ordering_preserves _,
      Operator.ordering_preserves _, Operator.membership_preserves _,
      Operator.membership_preserves _, Operator.range_preserves,
      Operator.matching_preserves _ _, Operator.matching_preserves _ _,
      Operator.matching_preserves _ _, Operator.matching_preserves _ _,
      Operator.matching_preserves _ _, Operator.matching_preserves _ _,
      Operator.lowerCase_preserves, Operator.nullCheck_preserves _,
      Operator.nullCheck_preserves _, Operator.emptyCheck_preserves _,
      Operator.emptyCheck_preserves _, Operator.date_preserves,
      Operator.enumeration_preserves, Operator.bigDecimal_preserves,
      Operator.period_preserves, fun _ none => by cases none⟩
  exact each _ (mem_entries_of_get? found)

/-- The operators that test for presence. -/
theorem builtin_presence {name : String} {operator : Operator} (test : name ∈ presenceNames)
    (found : builtin.get? name = some operator) :
    ∃ negate, operator = .nullCheck negate ∨ operator = .emptyCheck negate := by
  simp only [presenceNames, List.mem_cons, List.not_mem_nil, or_false] at test
  rcases test with rfl | rfl | rfl | rfl
  · exact ⟨false, .inl (Option.some.inj found).symm⟩
  · exact ⟨true, .inl (Option.some.inj found).symm⟩
  · exact ⟨false, .inr (Option.some.inj found).symm⟩
  · exact ⟨true, .inr (Option.some.inj found).symm⟩

end Registry

end RecordQuery
