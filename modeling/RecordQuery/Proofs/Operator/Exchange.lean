import RecordQuery.Proofs.Operator.Condition
import RecordQuery.Proofs.Value.Equality

/-! # Exchange of operands

It makes no difference which of two operands is the left one: equality stays the same, and an order
is asked for the other way round. The field that the other operand is converted for may be on either
side. Where both operands cannot be evaluated, the one on the left tells the fault, so that only
truths are compared. -/

namespace RecordQuery

open Fallible

/-- A flipped comparison holds of what is compared the other way round. -/
theorem Comparison.holds_flip (comparison : Comparison) (order : Ordering) :
    comparison.flip.holds order.swap = comparison.holds order := by
  cases comparison <;> cases order <;> rfl

namespace Predicate

/-- The two conditions have the same truth wherever they can be evaluated, and they can be evaluated
in the same places. -/
def SameTruth (first second : Predicate) : Prop :=
  ∀ schema root assignment found, first.truth schema root assignment = .ok found ↔
    second.truth schema root assignment = .ok found

theorem SameTruth.refl (condition : Predicate) : condition.SameTruth condition :=
  fun _ _ _ _ => Iff.rfl

/-- An equation is true of its sides in either order. -/
theorem equal_swap (left right : Expr) : (equal left right).SameTruth (equal right left) := by
  intro schema root assignment found
  rw [truth, truth]
  exact bind_pair_swap_iff fun x y => Value.equals?_swap x y

/-- A denied equation is true of its sides in either order. -/
theorem notEqual_swap (left right : Expr) :
    (notEqual left right).SameTruth (notEqual right left) := by
  intro schema root assignment found
  rw [truth, truth]
  exact bind_pair_swap_iff fun x y => congrArg Truth.not (Value.equals?_swap x y)

/-- A comparison is true of its sides as the flipped one is of the sides in the other order. -/
theorem compare_swap (comparison : Comparison) (left right : Expr) :
    (compare comparison left right).SameTruth (compare comparison.flip right left) := by
  intro schema root assignment found
  rw [truth, truth]
  refine bind_pair_swap_iff fun x y => ?_
  rw [Value.compare?_swap x y, Option.map_map]
  exact congrArg (Option.map · _) (funext comparison.holds_flip)

end Predicate

/-- The null literal is null. -/
theorem Comparand.eq_null_of_isNullLiteral {comparand : Comparand}
    (null : comparand.isNullLiteral = true) : comparand = .literal .null := by
  unfold isNullLiteral at null
  split at null
  · rfl
  · cases null

/-- Null on either side has the other side tested for it. -/
theorem Operator.equalityOf_swap (negate ignoreCase : Bool) (left right : Comparand) :
    (equalityOf negate ignoreCase left right).SameTruth
      (equalityOf negate ignoreCase right left) := by
  unfold equalityOf
  split
  · rename_i leftNull
    split
    · rename_i rightNull
      rw [left.eq_null_of_isNullLiteral leftNull, right.eq_null_of_isNullLiteral rightNull]
      exact .refl _
    · exact .refl _
  · split
    · exact .refl _
    · cases negate with
      | false => exact Predicate.equal_swap _ _
      | true => exact Predicate.notEqual_swap _ _

namespace Registry

/-- The operator of the second name takes two operands exactly when the one of the first name takes
them exchanged, and the conditions that the two make have the same truth. -/
structure Exchanges (registry : Registry) (name other : String) : Prop where
  makes_iff : ∀ context left right,
    (∃ exchanged, registry.Makes context other [right, left] exchanged) ↔
      ∃ condition, registry.Makes context name [left, right] condition
  sameTruth : ∀ context left right condition exchanged,
    registry.Makes context name [left, right] condition →
      registry.Makes context other [right, left] exchanged → condition.SameTruth exchanged

variable {registry : Registry} {name other : String}

section Paired

variable {kind kindToo : OperatorKind} (make makeToo : Comparand → Comparand → Predicate)
  (registered : registry.get? name = some (.binary kind fun _ name left right => do
    let (left, right) ← Comparand.pair name left right
    return .predicate (make left right)))
include registered

/-- Operators exchange their operands if they do so with what these are compared as. -/
theorem exchanges_of_paired
    (registeredToo : registry.get? other = some (.binary kindToo fun _ name left right => do
      let (left, right) ← Comparand.pair name left right
      return .predicate (makeToo left right)))
    (swap : ∀ left right, (make left right).SameTruth (makeToo right left)) :
    registry.Exchanges name other where
  makes_iff context left right := by
    simp only [makes_operands_iff make registered, makes_operands_iff makeToo registeredToo]
    constructor
    · rintro ⟨_, first, second, pairs, -⟩
      exact ⟨_, second, first, pairs.swap, rfl⟩
    · rintro ⟨_, first, second, pairs, -⟩
      exact ⟨_, second, first, pairs.swap, rfl⟩
  sameTruth context left right condition exchanged made madeToo := by
    obtain ⟨first, second, pairs, rfl⟩ := (makes_operands_iff make registered).mp made
    have exchangedPair : registry.Makes context other [right, left] (makeToo second first) :=
      (makes_operands_iff makeToo registeredToo).mpr ⟨second, first, pairs.swap, rfl⟩
    rw [madeToo.unique exchangedPair]
    exact swap first second

end Paired

/-- Operators for equality exchange their operands with themselves. -/
theorem exchanges_equality {negate ignoreCase : Bool}
    (registered : registry.get? name = some (.equality negate ignoreCase)) :
    registry.Exchanges name name :=
  exchanges_of_paired (Operator.equalityOf negate ignoreCase)
    (Operator.equalityOf negate ignoreCase) registered registered
    (Operator.equalityOf_swap negate ignoreCase)

/-- Operators for an order exchange their operands with the operator for the flipped order. -/
theorem exchanges_ordering {comparison : Comparison}
    (registered : registry.get? name = some (.ordering comparison))
    (registeredToo : registry.get? other = some (.ordering comparison.flip)) :
    registry.Exchanges name other :=
  exchanges_of_paired (fun left right => .compare comparison left.toExpr right.toExpr)
    (fun left right => .compare comparison.flip left.toExpr right.toExpr) registered registeredToo
    fun left right => Predicate.compare_swap comparison left.toExpr right.toExpr

/-- The names of the comparing operators, with the names of those that they become when their
operands are exchanged. -/
def exchanged : List (String × String) :=
  [("eq", "eq"), ("noteq", "noteq"), ("eq_ignorecase", "eq_ignorecase"),
    ("noteq_ignorecase", "noteq_ignorecase"), ("gt", "lt"), ("lt", "gt"), ("gte", "lte"),
    ("lte", "gte")]

/-- Operands of any kind may be exchanged. -/
theorem exchanges_operands {name other : String} (listed : (name, other) ∈ exchanged)
    (context : Context) (left right : Operand) :
    ((∃ swapped, builtin.Makes context other [right, left] swapped) ↔
      ∃ condition, builtin.Makes context name [left, right] condition) ∧
    ∀ condition swapped, builtin.Makes context name [left, right] condition →
      builtin.Makes context other [right, left] swapped → ∀ schema root assignment found,
        condition.truth schema root assignment = .ok found ↔
          swapped.truth schema root assignment = .ok found := by
  have exchanges : builtin.Exchanges name other := by
    simp only [exchanged, List.mem_cons, Prod.mk.injEq, List.not_mem_nil, or_false] at listed
    rcases listed with ⟨rfl, rfl⟩ | ⟨rfl, rfl⟩ | ⟨rfl, rfl⟩ | ⟨rfl, rfl⟩ | ⟨rfl, rfl⟩ |
      ⟨rfl, rfl⟩ | ⟨rfl, rfl⟩ | ⟨rfl, rfl⟩
    · exact exchanges_equality rfl
    · exact exchanges_equality rfl
    · exact exchanges_equality rfl
    · exact exchanges_equality rfl
    · exact exchanges_ordering rfl rfl
    · exact exchanges_ordering rfl rfl
    · exact exchanges_ordering rfl rfl
    · exact exchanges_ordering rfl rfl
  exact ⟨exchanges.makes_iff context left right, exchanges.sameTruth context left right⟩

end Registry

namespace Registry

open Sample

/-- The field that has blanks ignored may be on the left or on the right. -/
theorem exchanges_operands_code : ∃ condition swapped,
    builtin.Makes ofItems "gte" [.field (.attr (.root "Item") "code") itemCode,
      .field (.attr (.root "Item") "least") leastCode] condition ∧
    builtin.Makes ofItems "lte" [.field (.attr (.root "Item") "least") leastCode,
      .field (.attr (.root "Item") "code") itemCode] swapped ∧
    condition.truth ofItems.schema item [] = .ok (some true) ∧
    swapped.truth ofItems.schema item [] = .ok (some true) := by
  let code : Operand := .field (.attr (.root "Item") "code") itemCode
  let least : Operand := .field (.attr (.root "Item") "least") leastCode
  obtain ⟨compiles, law⟩ :=
    exchanges_operands (show ("gte", "lte") ∈ exchanged by simp [exchanged]) ofItems code least
  have made : builtin.Makes ofItems "gte" [code, least] (.compare .atLeast
      (.mapped .trim (.attr (.root "Item") "code"))
      (.mapped .trim (.attr (.root "Item") "least"))) := ⟨_, rfl, rfl⟩
  obtain ⟨swapped, madeToo⟩ := compiles.mpr ⟨_, made⟩
  have same := law _ _ made madeToo ofItems.schema item [] (some true)
  exact ⟨_, swapped, made, madeToo, by decide +kernel, same.mp (by decide +kernel)⟩

end Registry

end RecordQuery
