import RecordQuery.Proofs.Fallible
import RecordQuery.Proofs.Query.Assignment
import RecordQuery.Catalog.Descriptor

/-! # Queries that evaluate

An expression or predicate over some fields reads these fields and no other attributes, and apart
from tests for presence only scalar ones. If the scalar fields have values under all assignments
that respect relations, everything over the fields evaluates under them. -/

namespace RecordQuery

open Fallible

/-- The field holds values. -/
def Descriptor.IsScalar (d : Descriptor) : Prop := ∃ type, d.kind = .scalar type

/-- The attributes of the expression are scalar fields among the given ones. -/
inductive Expr.Over (fields : List (Expr × Descriptor)) : Expr → Prop where
  | field {expr : Expr} {d : Descriptor} (listed : (expr, d) ∈ fields) (scalar : d.IsScalar) :
      Over fields expr
  | literal {value : Value} : Over fields (.literal value)
  | mapped {function : TextFunction} {inner : Expr} (isOver : Over fields inner) :
      Over fields (.mapped function inner)
  | concat {left right : Expr} (overLeft : Over fields left) (overRight : Over fields right) :
      Over fields (.concat left right)

/-- The operands of the predicate are over the given fields, apart from tests whether one of these
fields is null or empty. -/
inductive Predicate.Over (fields : List (Expr × Descriptor)) : Predicate → Prop where
  | isNull {source : Source} {name : String} {d : Descriptor}
      (listed : (.attr source name, d) ∈ fields) : Over fields (.isNull (.attr source name))
  | isEmpty {source : Source} {name : String} {d : Descriptor}
      (listed : (.attr source name, d) ∈ fields) : Over fields (.isEmpty (.attr source name))
  | made {predicate : Predicate} (operands : ∀ expr ∈ predicate.operands, expr.Over fields)
      (conditions : ∀ condition ∈ predicate.conditions, Over fields condition) :
      Over fields predicate

/-- The expression has a value under every assignment that respects its joins. -/
def Expr.Evaluates (schema : Schema) (root : Record) (expr : Expr) : Prop :=
  ∀ assignment : Assignment, (∀ j ∈ expr.joins, assignment.Respects schema root j) →
    ∃ value, expr.value schema root assignment = .ok value

/-- The predicate has a truth value under every assignment that respects its joins. -/
def Predicate.Evaluates (schema : Schema) (root : Record) (predicate : Predicate) : Prop :=
  ∀ assignment : Assignment, (∀ j, predicate.Mentions j → assignment.Respects schema root j) →
    ∃ truth, predicate.truth schema root assignment = .ok truth

variable {schema : Schema} {root : Record} {assignment : Assignment}
  {fields : List (Expr × Descriptor)}

namespace Expr

/-- An expression over some fields evaluates if the scalar ones among them do. -/
theorem Over.evaluates {expr : Expr} (isOver : expr.Over fields)
    (each : ∀ field ∈ fields, field.2.IsScalar → field.1.Evaluates schema root) :
    expr.Evaluates schema root := by
  induction isOver with
  | field listed scalar => exact each _ listed scalar
  | literal => exact fun _ _ => ⟨_, rfl⟩
  | mapped _ ih =>
    intro assignment respects
    obtain ⟨inner, found⟩ := ih assignment respects
    exact ⟨_, by rw [value, found]; rfl⟩
  | concat _ _ leftIh rightIh =>
    intro assignment respects
    obtain ⟨left, found⟩ := leftIh assignment fun j member =>
      respects j (List.mem_append_left _ member)
    obtain ⟨right, foundToo⟩ := rightIh assignment fun j member =>
      respects j (List.mem_append_right _ member)
    exact ⟨_, by rw [value, found, foundToo]; rfl⟩

/-- What has a value can be tested for null. -/
theorem exists_isNull {expr : Expr}
    (evaluates : ∃ value, expr.value schema root assignment = .ok value) :
    ∃ result, expr.isNull schema root assignment = .ok result := by
  obtain ⟨v, found⟩ := evaluates
  cases expr with
  | attr source name => exact ⟨_, rfl⟩
  | _ => exact ⟨v.isNull, by simp [isNull, found]⟩

/-- What has a value can be tested for emptiness. -/
theorem exists_isEmpty {expr : Expr}
    (evaluates : ∃ value, expr.value schema root assignment = .ok value) :
    ∃ result, expr.isEmpty schema root assignment = .ok result := by
  obtain ⟨v, found⟩ := evaluates
  cases expr with
  | attr source name => exact ⟨_, rfl⟩
  | _ => exact ⟨Datum.isEmpty (some (.value v)), by simp [isEmpty, found]⟩

/-- Membership in expressions with values can be tested. -/
theorem exists_contains {subject : Value} {exprs : List Expr}
    (evaluate : ∀ expr ∈ exprs, ∃ value, expr.value schema root assignment = .ok value) :
    ∃ truth, contains schema root assignment subject exprs = .ok truth := by
  induction exprs with
  | nil => exact ⟨_, rfl⟩
  | cons expr rest ih =>
    obtain ⟨value, found⟩ := evaluate expr List.mem_cons_self
    obtain ⟨truth, later⟩ := ih fun other inRest => evaluate other (List.mem_cons_of_mem _ inRest)
    rw [contains, found, ok_bind, later]
    cases subject.equals? value with
    | none => exact ⟨_, rfl⟩
    | some equal => cases equal <;> exact ⟨_, rfl⟩

end Expr

namespace Predicate

/-- Predicates that have truths have them together. -/
theorem exists_truths {conditions : List Predicate}
    (evaluate : ∀ condition ∈ conditions, ∃ truth,
      condition.truth schema root assignment = .ok truth) :
    ∃ found, truths schema root assignment conditions = .ok found := by
  induction conditions with
  | nil => exact ⟨[], rfl⟩
  | cons condition rest ih =>
    obtain ⟨truth, found⟩ := evaluate condition List.mem_cons_self
    obtain ⟨others, later⟩ := ih fun other inRest => evaluate other (List.mem_cons_of_mem _ inRest)
    exact ⟨truth :: others, by rw [truths, found, later]; rfl⟩

/-- A predicate has a truth value if its operands have values and its conditions truth values. -/
theorem exists_truth {predicate : Predicate}
    (operands : ∀ expr ∈ predicate.operands, ∃ value,
      expr.value schema root assignment = .ok value)
    (conditions : ∀ condition ∈ predicate.conditions, ∃ truth,
      condition.truth schema root assignment = .ok truth) :
    ∃ truth, predicate.truth schema root assignment = .ok truth := by
  cases predicate with
  | equal left right | notEqual left right | compare _ left right | like left right =>
    obtain ⟨first, found⟩ := operands left (by simp [Predicate.operands])
    obtain ⟨second, foundToo⟩ := operands right (by simp [Predicate.operands])
    exact ⟨_, by rw [truth, found, foundToo]; rfl⟩
  | between subject lower upper =>
    obtain ⟨value, found⟩ := operands subject (by simp [Predicate.operands])
    obtain ⟨least, foundLeast⟩ := operands lower (by simp [Predicate.operands])
    obtain ⟨most, foundMost⟩ := operands upper (by simp [Predicate.operands])
    exact ⟨_, by rw [truth, found, foundLeast, foundMost]; rfl⟩
  | isIn subject values =>
    obtain ⟨value, found⟩ := operands subject (by simp [Predicate.operands])
    rw [truth, found, ok_bind]
    exact Expr.exists_contains fun expr member => operands expr (List.mem_cons_of_mem _ member)
  | isNull subject =>
    obtain ⟨result, found⟩ := Expr.exists_isNull (operands subject (by simp [Predicate.operands]))
    exact ⟨_, by rw [truth, found]; rfl⟩
  | isEmpty subject =>
    obtain ⟨result, found⟩ := Expr.exists_isEmpty (operands subject (by simp [Predicate.operands]))
    exact ⟨_, by rw [truth, found]; rfl⟩
  | isTrue subject =>
    obtain ⟨value, found⟩ := operands subject (by simp [Predicate.operands])
    exact ⟨_, by rw [truth, found]; rfl⟩
  | conjunction parts | disjunction parts =>
    have each : ∃ found, truths schema root assignment parts = .ok found :=
      exists_truths conditions
    obtain ⟨found, each⟩ := each
    exact ⟨_, by rw [truth, each]; rfl⟩
  | negation condition =>
    obtain ⟨result, found⟩ := conditions condition (by simp [Predicate.conditions])
    exact ⟨_, by rw [truth, found]; rfl⟩
  | constant value => exact ⟨_, rfl⟩

/-- A predicate over some fields evaluates if the scalar ones among them do. -/
theorem Over.evaluates {predicate : Predicate} (isOver : predicate.Over fields)
    (each : ∀ field ∈ fields, field.2.IsScalar → field.1.Evaluates schema root) :
    predicate.Evaluates schema root := by
  induction isOver with
  | isNull listed => exact fun _ _ => ⟨_, rfl⟩
  | isEmpty listed => exact fun _ _ => ⟨_, rfl⟩
  | made operands _ ih =>
    intro assignment respects
    refine exists_truth (fun expr taken => ?_) fun condition taken => ?_
    · exact (operands expr taken).evaluates each assignment fun j member =>
        respects j (.operand taken (Expr.mem_joins_iff.mp member))
    · exact ih condition taken assignment fun j mentioned =>
        respects j (.condition taken mentioned)

end Predicate

end RecordQuery
