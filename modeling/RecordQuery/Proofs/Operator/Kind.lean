import RecordQuery.Proofs.Operator.Preservation

/-! # Kinds of operands

An operator that succeeds has been given operands of one kind: conditions where it combines
conditions, values where it compares or maps them, texts where it makes literals of texts. What it
makes is of one kind too, and no operator takes a condition for a value. -/

namespace RecordQuery

open Fallible

/-! ## Kinds -/

namespace Operand

/-- The operand is a condition. -/
@[simp]
def IsPredicate : Operand → Prop
  | predicate _ => True
  | _ => False

/-- The operand is a text given as a literal. -/
@[simp]
def IsText : Operand → Prop
  | literal (.string _) => True
  | _ => False

/-- The operand is a literal other than a truth value. -/
@[simp]
def IsPlain : Operand → Prop
  | literal (.boolean _) => False
  | literal _ => True
  | _ => False

/-- The operand is an expression that an operator has made. -/
@[simp]
def IsExpr : Operand → Prop
  | expr _ => True
  | _ => False

/-- The operand may stand where a condition is expected. -/
inductive IsConditional : Operand → Prop where
  | predicate {condition : Predicate} : IsConditional (.predicate condition)
  | truth {b : Bool} : IsConditional (.literal (.boolean b))
  | field {e : Expr} {d : Descriptor} (boolean : d.valueType? = some .boolean) :
      IsConditional (.field e d)
  | expr {e : Expr} : IsConditional (.expr e)

/-- The operand may stand where a value is expected. -/
def IsValue (operand : Operand) : Prop := ¬ operand.IsPredicate

variable {operand : Operand} {name : String}

/-- What is taken as a condition may stand where one is expected. -/
theorem isConditional_of_toPredicate {condition : Predicate}
    (taken : operand.toPredicate name = .ok condition) : operand.IsConditional := by
  unfold toPredicate at taken
  split at taken
  · exact .predicate
  · exact .truth
  · cases taken
  · split at taken
    · exact .field ‹_›
    · cases taken
  · exact .expr

/-- What is taken as a text is a text. -/
theorem isText_of_toText {text : String} (taken : operand.toText name = .ok text) :
    operand.IsText := by
  unfold toText at taken
  split at taken
  · trivial
  · cases taken

/-- What can be a subject may stand where a value is expected. -/
theorem isValue_of_requireSubject (taken : operand.requireSubject name = .ok ()) :
    operand.IsValue := by
  cases operand with
  | predicate _ => cases taken
  | _ => exact id

/-- No literal but a truth value stands for a condition. -/
theorem IsPlain.not_isConditional (plain : operand.IsPlain) : ¬ operand.IsConditional := by
  intro conditional
  cases conditional <;> exact plain

end Operand

namespace Comparand

variable {operand : Operand} {name : String} {against : Option Descriptor}

/-- What can be compared may stand where a value is expected. -/
theorem isValue_of_ofOperand {comparand : Comparand}
    (taken : ofOperand name against operand = .ok comparand) : operand.IsValue := by
  cases operand with
  | predicate _ => cases taken
  | _ => exact id

/-- What is taken as a side of a comparison is a value. -/
theorem isValue_of_side {trim : Bool} {e : Expr} (taken : side name against trim operand = .ok e) :
    operand.IsValue := by
  obtain ⟨comparand, found, _⟩ := bind_eq_ok_iff.mp taken
  exact isValue_of_ofOperand found

/-- What is taken as both sides of a comparison are values. -/
theorem isValue_of_pair {left right : Operand} {comparands : Comparand × Comparand}
    (paired : pair name left right = .ok comparands) : left.IsValue ∧ right.IsValue := by
  obtain ⟨_, first, paired⟩ := bind_eq_ok_iff.mp paired
  obtain ⟨_, second, _⟩ := bind_eq_ok_iff.mp paired
  exact ⟨isValue_of_ofOperand first, isValue_of_ofOperand second⟩

end Comparand

/-! ## What operators take and make -/

namespace Operator

/-- As many arguments as the operator takes are of one kind where it succeeds, and what it makes is
of another kind. -/
structure Meets (takes makes : Operand → Prop) (operator : Operator) : Prop where
  taken {name : String} {args : List Operand} {context after : Context} {result : Operand}
    (counted : operator.arity.accepts args.length = true)
    (evaluated : operator.evaluate name args context = .ok (result, after)) :
    ∀ arg ∈ args, takes arg
  made {name : String} {args : List Operand} {context after : Context} {result : Operand}
    (evaluated : operator.evaluate name args context = .ok (result, after)) : makes result

variable {kind : OperatorKind} {takes makes : Operand → Prop}

/-- An operator on one argument meets its kinds if what it makes of the argument does. -/
theorem unary_meets {f : Context → String → Operand → Except Fault Operand}
    (meets : ∀ {context : Context} {name : String} {arg result : Operand},
      f context name arg = .ok result → takes arg ∧ makes result) :
    (unary kind f).Meets takes makes where
  taken _ evaluated := by
    obtain ⟨arg, rfl, made, _⟩ := of_unary evaluated
    exact List.forall_mem_singleton.mpr (meets made).1
  made evaluated := by
    obtain ⟨arg, rfl, made, _⟩ := of_unary evaluated
    exact (meets made).2

/-- An operator on two arguments meets its kinds if what it makes of them does. -/
theorem binary_meets {f : Context → String → Operand → Operand → Except Fault Operand}
    (meets : ∀ {context : Context} {name : String} {left right result : Operand},
      f context name left right = .ok result → (takes left ∧ takes right) ∧ makes result) :
    (binary kind f).Meets takes makes where
  taken _ evaluated := by
    obtain ⟨left, right, rfl, made, _⟩ := of_binary evaluated
    obtain ⟨⟨first, second⟩, _⟩ := meets made
    exact List.forall_mem_cons.mpr ⟨first, List.forall_mem_singleton.mpr second⟩
  made evaluated := by
    obtain ⟨left, right, rfl, made, _⟩ := of_binary evaluated
    exact (meets made).2

/-! ### Conditions of conditions -/

/-- Operators that combine take conditions and make one. -/
theorem combinator_meets (combine : List Predicate → Predicate) :
    (combinator combine).Meets Operand.IsConditional Operand.IsPredicate where
  taken _ evaluated arg member := by
    obtain ⟨conditions, each, _⟩ := bind_eq_ok_iff.mp (of_reader evaluated).1
    obtain ⟨condition, taken⟩ := exists_mapM_iff.mp ⟨conditions, each⟩ arg member
    exact Operand.isConditional_of_toPredicate taken
  made evaluated := by
    obtain ⟨conditions, _, made⟩ := bind_eq_ok_iff.mp (of_reader evaluated).1
    cases made
    trivial

/-- Negation takes a condition and makes one. -/
theorem negation_meets : negation.Meets Operand.IsConditional Operand.IsPredicate := by
  refine unary_meets fun made => ?_
  obtain ⟨condition, taken, made⟩ := bind_eq_ok_iff.mp made
  cases made
  exact ⟨Operand.isConditional_of_toPredicate taken, trivial⟩

/-! ### Conditions on values -/

/-- Equality takes values and makes a condition. -/
theorem equality_meets (negate ignoreCase : Bool) :
    (equality negate ignoreCase).Meets Operand.IsValue Operand.IsPredicate := by
  refine binary_meets fun made => ?_
  obtain ⟨_, paired, made⟩ := bind_eq_ok_iff.mp made
  cases made
  exact ⟨Comparand.isValue_of_pair paired, trivial⟩

theorem ordering_meets (comparison : RecordQuery.Comparison) :
    (ordering comparison).Meets Operand.IsValue Operand.IsPredicate := by
  refine binary_meets fun made => ?_
  obtain ⟨_, paired, made⟩ := bind_eq_ok_iff.mp made
  cases made
  exact ⟨Comparand.isValue_of_pair paired, trivial⟩

theorem matching_meets (occurrence : Occurrence) (ignoreCase : Bool) :
    (matching occurrence ignoreCase).Meets Operand.IsValue Operand.IsPredicate := by
  refine binary_meets fun made => ?_
  obtain ⟨⟨subject, text⟩, paired, made⟩ := bind_eq_ok_iff.mp made
  refine ⟨Comparand.isValue_of_pair paired, ?_⟩
  cases null : text.isNullLiteral <;> simp [null] at made
  cases made
  trivial

/-- A condition among the arguments is no list, so it is not hidden when lists are replaced by their
items. -/
theorem mem_expandLists_of_isPredicate {args : List Operand} {arg : Operand} (member : arg ∈ args)
    (isPredicate : arg.IsPredicate) : arg ∈ expandLists args := by
  refine List.mem_flatMap.mpr ⟨arg, member, ?_⟩
  cases arg with
  | predicate _ => exact List.mem_singleton_self _
  | _ => cases isPredicate

/-- Membership takes values and makes a condition. -/
theorem membership_meets (negate : Bool) :
    (membership negate).Meets Operand.IsValue Operand.IsPredicate where
  taken _ evaluated := by
    obtain ⟨made, _⟩ := of_reader evaluated
    split at made
    · cases made
    rename_i subject args
    obtain ⟨_, isSubject, made⟩ := bind_eq_ok_iff.mp made
    obtain ⟨values, each, _⟩ := bind_eq_ok_iff.mp made
    refine List.forall_mem_cons.mpr ⟨Operand.isValue_of_requireSubject isSubject, ?_⟩
    intro arg member isPredicate
    obtain ⟨_, taken⟩ := exists_mapM_iff.mp ⟨values, each⟩ arg
      (mem_expandLists_of_isPredicate member isPredicate)
    exact Comparand.isValue_of_side taken isPredicate
  made evaluated := by
    obtain ⟨made, _⟩ := of_reader evaluated
    split at made
    · cases made
    obtain ⟨_, _, made⟩ := bind_eq_ok_iff.mp made
    obtain ⟨values, _, made⟩ := bind_eq_ok_iff.mp made
    split at made
    · cases made
      trivial
    · obtain ⟨_, _, made⟩ := bind_eq_ok_iff.mp made
      cases made
      trivial

/-- The bounds of a range are all of its arguments behind the subject, or the items of a list. -/
theorem isValue_of_bounds {name : String} {args : List Operand} {lower upper : Operand}
    (few : args.length ≤ 2) (taken : bounds name args = .ok (lower, upper))
    (isLower : lower.IsValue) (isUpper : upper.IsValue) : ∀ arg ∈ args, arg.IsValue := by
  unfold bounds at taken
  split at taken
  · exact List.forall_mem_singleton.mpr id
  · cases taken
  · rename_i first second rest
    cases taken
    have none : rest = [] := by
      rw [List.length_cons, List.length_cons] at few
      exact List.length_eq_zero_iff.mp (by omega)
    rw [none]
    exact List.forall_mem_cons.mpr ⟨isLower, List.forall_mem_singleton.mpr isUpper⟩
  · cases taken

/-- The operator for ranges takes values and makes a condition. -/
theorem range_meets : range.Meets Operand.IsValue Operand.IsPredicate where
  taken counted evaluated := by
    obtain ⟨made, _⟩ := of_reader evaluated
    split at made
    · cases made
    rename_i subject args
    obtain ⟨_, isSubject, made⟩ := bind_eq_ok_iff.mp made
    obtain ⟨⟨lower, upper⟩, between, made⟩ := bind_eq_ok_iff.mp made
    obtain ⟨_, _, made⟩ := bind_eq_ok_iff.mp made
    obtain ⟨_, isLower, made⟩ := bind_eq_ok_iff.mp made
    obtain ⟨_, isUpper, _⟩ := bind_eq_ok_iff.mp made
    -- Of more than three arguments the last ones would not be looked at.
    have few : args.length ≤ 2 := by
      simp only [range, reader, Arity.between, Arity.accepts, List.length_cons, Bool.and_eq_true,
        decide_eq_true_eq] at counted
      omega
    exact List.forall_mem_cons.mpr ⟨Operand.isValue_of_requireSubject isSubject,
      isValue_of_bounds few between (Comparand.isValue_of_side isLower)
        (Comparand.isValue_of_side isUpper)⟩
  made evaluated := by
    obtain ⟨made, _⟩ := of_reader evaluated
    split at made
    · cases made
    obtain ⟨_, _, made⟩ := bind_eq_ok_iff.mp made
    obtain ⟨_, _, made⟩ := bind_eq_ok_iff.mp made
    obtain ⟨_, _, made⟩ := bind_eq_ok_iff.mp made
    obtain ⟨_, _, made⟩ := bind_eq_ok_iff.mp made
    obtain ⟨_, _, made⟩ := bind_eq_ok_iff.mp made
    cases made
    trivial

/-- Tests for null take a value and make a condition. -/
theorem nullCheck_meets (negate : Bool) :
    (nullCheck negate).Meets Operand.IsValue Operand.IsPredicate := by
  refine unary_meets fun made => ?_
  obtain ⟨_, isSubject, made⟩ := bind_eq_ok_iff.mp made
  obtain ⟨_, _, made⟩ := bind_eq_ok_iff.mp made
  cases made
  exact ⟨Operand.isValue_of_requireSubject isSubject, trivial⟩

theorem emptyCheck_meets (negate : Bool) :
    (emptyCheck negate).Meets Operand.IsValue Operand.IsPredicate := by
  refine unary_meets fun made => ?_
  obtain ⟨_, isSubject, made⟩ := bind_eq_ok_iff.mp made
  obtain ⟨_, _, made⟩ := bind_eq_ok_iff.mp made
  obtain ⟨_, _, made⟩ := bind_eq_ok_iff.mp made
  cases made
  exact ⟨Operand.isValue_of_requireSubject isSubject, trivial⟩

/-! ### Values -/

/-- A text is put into lower case at once, an expression when it is evaluated. -/
theorem lowerCase_meets :
    lowerCase.Meets Operand.IsValue fun result => result.IsPlain ∨ result.IsExpr := by
  refine unary_meets fun made => ?_
  split at made
  · cases made
    exact ⟨id, .inl trivial⟩
  · cases made
    exact ⟨id, .inl trivial⟩
  · cases made
  · cases made
    exact ⟨id, .inr trivial⟩
  · cases made
    exact ⟨id, .inr trivial⟩
  · cases made

/-- The operator for instants takes texts and makes a literal. -/
theorem date_meets : date.Meets Operand.IsText Operand.IsPlain := by
  refine unary_meets fun made => ?_
  obtain ⟨_, taken, made⟩ := bind_eq_ok_iff.mp made
  refine ⟨Operand.isText_of_toText taken, ?_⟩
  split at made
  · cases made
    trivial
  · cases made

/-- The operator for enumerations takes texts and makes a literal. -/
theorem enumeration_meets : enumeration.Meets Operand.IsText Operand.IsPlain := by
  refine binary_meets fun made => ?_
  obtain ⟨_, taken, made⟩ := bind_eq_ok_iff.mp made
  obtain ⟨_, takenToo, made⟩ := bind_eq_ok_iff.mp made
  refine ⟨⟨Operand.isText_of_toText taken, Operand.isText_of_toText takenToo⟩, ?_⟩
  split at made
  · split at made
    · cases made
      trivial
    · cases made
  · cases made

theorem period_meets : period.Meets Operand.IsText Operand.IsPlain := by
  refine unary_meets fun made => ?_
  obtain ⟨_, taken, made⟩ := bind_eq_ok_iff.mp made
  obtain ⟨_, _, made⟩ := bind_eq_ok_iff.mp made
  cases made
  exact ⟨Operand.isText_of_toText taken, trivial⟩

/-- The operator for decimals takes values and makes a literal. -/
theorem bigDecimal_meets : bigDecimal.Meets Operand.IsValue Operand.IsPlain := by
  refine unary_meets fun made => ?_
  have fromText {text : String} {result : Operand}
      (made : (Value.decimalOfText text).map (fun d => Operand.literal (.decimal d)) =
        .ok result) : result.IsPlain := by
    obtain ⟨d, _, rfl⟩ := map_eq_ok_iff.mp made
    trivial
  split at made
  · exact ⟨id, fromText made⟩
  · exact ⟨id, fromText made⟩
  · exact ⟨id, fromText made⟩
  · exact ⟨id, fromText made⟩
  · cases made

end Operator

/-! ## The operators that are built in -/

namespace Registry

/-- The names of the operators that combine conditions. -/
def connectiveNames : List String := ["and", "or", "not"]

/-- The names of the operators that make literals of texts alone. -/
def textualNames : List String := ["date", "enum", "period"]

/-- No connective is among the operators on texts. -/
theorem notMem_textualNames {name : String} (listed : name ∈ connectiveNames) :
    name ∉ textualNames := by
  have apart : ∀ name ∈ connectiveNames, name ∉ textualNames := by decide
  exact apart name listed

/-- The part that an operator has under its name: it combines conditions, makes a condition of
values, makes a literal of texts, or makes a value of another one. -/
inductive Role (name : String) (operator : Operator) : Prop where
  | connective (listed : name ∈ connectiveNames) (kind : operator.kind ≠ .valueTransform)
      (meets : operator.Meets Operand.IsConditional Operand.IsPredicate)
  | terminal (unlisted : name ∉ connectiveNames ∧ name ∉ textualNames)
      (kind : operator.kind ≠ .valueTransform)
      (meets : operator.Meets Operand.IsValue Operand.IsPredicate)
  | textual (listed : name ∈ textualNames) (kind : operator.kind = .valueTransform)
      (meets : operator.Meets Operand.IsText Operand.IsPlain)
  | lower (named : name = "lower") (kind : operator.kind = .valueTransform)
      (meets : operator.Meets Operand.IsValue fun result => result.IsPlain ∨ result.IsExpr)
  | decimal (named : name = "bigDecimal") (kind : operator.kind = .valueTransform)
      (meets : operator.Meets Operand.IsValue Operand.IsPlain)

/-- Every operator that is built in has the role of its name. -/
theorem role_of_get? {name : String} {operator : Operator}
    (found : builtin.get? name = some operator) : Role name operator := by
  have terminal {name : String} {operator : Operator}
      (meets : operator.Meets Operand.IsValue Operand.IsPredicate)
      (unlisted : name ∉ connectiveNames ∧ name ∉ textualNames)
      (kind : operator.kind = .terminal) : Role name operator :=
    .terminal unlisted (by simp [kind]) meets
  have each : ∀ entry ∈ builtin.entries, Role entry.1 entry.2 := by
    unfold builtin
    simp only [List.forall_mem_cons]
    -- The operators are in the order of the registry.
    exact ⟨.connective (by decide) nofun (Operator.combinator_meets _),
      .connective (by decide) nofun (Operator.combinator_meets _),
      .connective (by decide) nofun Operator.negation_meets,
      terminal (Operator.equality_meets _ _) (by decide) rfl,
      terminal (Operator.equality_meets _ _) (by decide) rfl,
      terminal (Operator.equality_meets _ _) (by decide) rfl,
      terminal (Operator.equality_meets _ _) (by decide) rfl,
      terminal (Operator.ordering_meets _) (by decide) rfl,
      terminal (Operator.ordering_meets _) (by decide) rfl,
      terminal (Operator.ordering_meets _) (by decide) rfl,
      terminal (Operator.ordering_meets _) (by decide) rfl,
      terminal (Operator.membership_meets _) (by decide) rfl,
      terminal (Operator.membership_meets _) (by decide) rfl,
      terminal Operator.range_meets (by decide) rfl,
      terminal (Operator.matching_meets _ _) (by decide) rfl,
      terminal (Operator.matching_meets _ _) (by decide) rfl,
      terminal (Operator.matching_meets _ _) (by decide) rfl,
      terminal (Operator.matching_meets _ _) (by decide) rfl,
      terminal (Operator.matching_meets _ _) (by decide) rfl,
      terminal (Operator.matching_meets _ _) (by decide) rfl,
      .lower rfl rfl Operator.lowerCase_meets,
      terminal (Operator.nullCheck_meets _) (by decide) rfl,
      terminal (Operator.nullCheck_meets _) (by decide) rfl,
      terminal (Operator.emptyCheck_meets _) (by decide) rfl,
      terminal (Operator.emptyCheck_meets _) (by decide) rfl,
      .textual (by decide) rfl Operator.date_meets,
      .textual (by decide) rfl Operator.enumeration_meets,
      .decimal rfl rfl Operator.bigDecimal_meets,
      .textual (by decide) rfl Operator.period_meets, fun _ none => by cases none⟩
  exact each _ (mem_entries_of_get? found)

end Registry

end RecordQuery
