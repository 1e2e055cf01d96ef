import RecordQuery.Proofs.Operator.Condition
import RecordQuery.Proofs.Truth
import RecordQuery.Proofs.Value.Constraints

/-! # Membership and equality

To be a member of some literals is to equal one of them. Lists among the literals stand for their
items. -/

namespace RecordQuery

open Fallible

namespace Value

/-- What a literal adds to the members of a list: a list adds its items. -/
def members : Value → List Value
  | list items => items
  | other => [other]

end Value

/-- The condition that a value is among some others, or that it is among none of them. -/
def Operator.membershipOf (negate : Bool) (subject : Expr) (values : List Expr) : Predicate :=
  if values.isEmpty then .constant negate else negateIf negate (.isIn subject values)

section Truth

variable {schema : Schema} {root : Record} {assignment : Assignment} {others : List Expr}
  {values : List Value} (evaluate : List.Forall₂
    (fun other found => other.value schema root assignment = .ok found) others values)
include evaluate

end Truth

namespace Comparand

/-- A literal is the null literal if its value is null. -/
theorem isNullLiteral_literal (value : Value) : (literal value).isNullLiteral = value.isNull := by
  cases value <;> rfl

end Comparand

namespace Operand

/-- What a literal is compared as with a subject. -/
def compared (subject : Operand) (value : Value) : Except Fault Expr :=
  Comparand.side "" subject.descriptor? subject.trims (.literal value)

variable {subject : Operand} {value : Value} {expr : Expr}

end Operand

/-! ## Members and equals -/

namespace Registry

variable {context : Context} {name : String} {condition : Predicate} {subject : Operand} {e : Expr}

/-- A subject and the operands that it is looked for among, as the expressions that are compared. -/
def MembersAs (args : List Operand) (parts : Expr × List Expr) : Prop :=
  ∃ subject rest e, args = subject :: rest ∧ subject.StandsFor e ∧
    parts.1 = ((Comparand.expr e).trimIf subject.trims).toExpr ∧
      List.Forall₂ (fun operand expr => ∃ comparand,
        operand.ComparesAs subject.descriptor? comparand ∧
          (comparand.trimIf subject.trims).toExpr = expr) (Operator.expandLists rest) parts.2

/-- Membership makes its condition of the subject and what it is looked for among. -/
theorem makes_members_iff {registry : Registry} {args : List Operand} {negate : Bool}
    (registered : registry.get? name = some (.membership negate)) :
    registry.Makes context name args condition ↔ ∃ parts, MembersAs args parts ∧
      condition = Operator.membershipOf negate parts.1 parts.2 := by
  rw [makes_reader_iff registered]
  constructor
  · intro made
    cases args with
    | nil => cases made
    | cons subject rest =>
      obtain ⟨taken, made⟩ := bind_unit_eq_ok_iff.mp made
      obtain ⟨e, stands⟩ := Operand.requireSubject_eq_ok_iff.mp taken
      obtain ⟨values, found, made⟩ := bind_eq_ok_iff.mp made
      have each := mapM_eq_ok_iff.mp found
      refine ⟨(_, values), ⟨subject, rest, e, rfl, stands, rfl, ?_⟩, ?_⟩
      · exact each.imp fun _ _ => Comparand.side_eq_ok_iff.mp
      · rw [Comparand.ofOperand_eq_ok_iff.mpr (.expr stands)] at made
        cases values <;> cases made <;> rfl
  · rintro ⟨⟨first, values⟩, ⟨subject, rest, e, rfl, stands, rfl, each⟩, rfl⟩
    refine bind_unit_eq_ok_iff.mpr ⟨stands.requireSubject name, bind_eq_ok_iff.mpr ⟨values, ?_, ?_⟩⟩
    · exact mapM_eq_ok_iff.mpr (each.imp fun _ _ => Comparand.side_eq_ok_iff.mpr)
    · rw [Comparand.ofOperand_eq_ok_iff.mpr (.expr stands)]
      cases values <;> rfl

end Registry

namespace Registry

open Sample

end Registry

end RecordQuery
