import RecordQuery.Proofs.Operator.Membership
import RecordQuery.Proofs.Value.TextFunctions

/-! # Functions on texts in comparisons

A function on texts is applied to a literal when a query is compiled, and to a field when it is
evaluated. The one takes a list among the items of a list for its text, the other goes on to the
items of that list. The two agree on the literals that have no such lists, and on no others.

To ignore letter case is to compare texts in upper case. Numbers that are equal need not be written
alike, so that there is less that equals a number then. -/

namespace RecordQuery

open Fallible

/-! ## Literals -/

/-- Of a literal a function takes the lists among the items for their texts. -/
theorem Comparand.mapText_literal (function : TextFunction) (value : Value) :
    (literal value).mapText function = literal (value.flatten.mapText function.apply) := by
  cases value with
  | list items =>
    rw [mapText, Value.flatten, Value.mapText_list, List.map_map]
    refine congrArg (literal <| Value.list ·) (List.map_congr_left fun item _ => ?_)
    cases item <;> rfl
  | _ => rfl

/-- What becomes of a literal is the value of the function on the literal with texts in place of the
lists among its items. It is the value of the function on the literal itself just if there are no
such lists. -/
theorem Comparand.value_mapText_literal (function : TextFunction) (value : Value) (schema : Schema)
    (root : Record) (assignment : Assignment) :
    ((literal value).mapText function).toExpr.value schema root assignment =
        (Expr.mapped function (.literal value.flatten)).value schema root assignment ∧
      (((literal value).mapText function).toExpr.value schema root assignment =
        (Expr.mapped function (.literal value)).value schema root assignment ↔ value.IsFlat) := by
  rw [mapText_literal]
  refine ⟨rfl, Iff.trans ?_ (Value.mapText_flatten_eq_iff function.apply)⟩
  exact ⟨Except.ok.inj, congrArg Except.ok⟩

section Evaluated

variable {schema : Schema} {root : Record} {assignment : Assignment} {e : Expr}

/-- Of a field a function takes the items at every depth. -/
theorem Expr.value_mapped {value : Value} (found : e.value schema root assignment = .ok value)
    (function : TextFunction) :
    (mapped function e).value schema root assignment = .ok (value.mapText function.apply) := by
  rw [Expr.value, found]
  rfl

/-- A literal with a list in a list does not equal a field that holds just the same, once a function
has been applied to both. -/
theorem Predicate.truth_equal_mapText_ne_true {value : Value}
    (found : e.value schema root assignment = .ok value) (nested : ¬ value.IsFlat)
    (function : TextFunction) :
    (equal (.mapped function e) ((Comparand.literal value).mapText function).toExpr).truth schema
      root assignment ≠ .ok (some true) := by
  rw [Comparand.mapText_literal, truth, Expr.value_mapped found]
  exact fun isTrue => Value.equals?_mapText_flatten_ne_true _ nested (Except.ok.inj isTrue)

/-! ## Letter case -/

theorem Value.isNull_iff {value : Value} : value.isNull = true ↔ value = .null := by
  cases value <;> simp [isNull]

/-- What is null in a condition has the value null, whereas relations to records have no value. -/
theorem Expr.value_of_isNull (null : e.isNull schema root assignment = .ok true) :
    e.value schema root assignment = .ok .null := by
  cases e with
  | attr source name =>
    rw [isNull, Except.ok.injEq, Datum.isNull] at null
    rw [value]
    cases found : Datum.toValue? (source.datum? schema root assignment name) with
    | none => simp [found] at null
    | some held =>
      rw [found] at null
      rw [Value.isNull_iff.mp null]
  | _ =>
    obtain ⟨held, found, same⟩ := bind_eq_ok_iff.mp null
    rw [found, Value.isNull_iff.mp (Except.ok.inj same)]

end Evaluated

namespace Registry

variable {context : Context} {name : String} {condition : Predicate} {d : Descriptor}
  {type : ValueType} {e : Expr} {literal : Value}

/-- Equality of a plain field with a literal compiles to an equation with the converted literal. -/
theorem makes_equality_literal_iff {ignoreCase : Bool}
    (registered : builtin.get? name = some (.equality false ignoreCase))
    (plain : d.directives = {}) :
    builtin.Makes context name [.field e d, .literal literal] condition ↔
      ∃ converted, Value.coerce d literal = .ok converted ∧
        condition = Operator.equalityOf false ignoreCase (.expr e) (.literal converted) := by
  have untrimmed : ((Operand.field e d).trims || (Operand.literal literal).trims) = false := by
    rw [Operand.trims, Comparand.trims, Operand.descriptor?, Option.map_some, plain]
    rfl
  rw [makes_pair_iff (Operator.equalityOf false ignoreCase) registered .field, untrimmed]
  constructor
  · rintro ⟨comparand, compares, rfl⟩
    cases compares with
    | expr stands => cases stands
    | literal alone => cases alone
    | coerced field coerced =>
      cases field
      exact ⟨_, coerced, rfl⟩
  · rintro ⟨converted, coerced, rfl⟩
    exact ⟨_, .coerced rfl coerced, rfl⟩

/-- What equals a literal without lists in lists, or is null as the literal is, does so with letter
case ignored just if the texts are the same in upper case. -/
theorem of_equalityOf {converted : Value} (flat : converted.IsFlat) {schema : Schema}
    {root : Record} {assignment : Assignment}
    (equal : (Operator.equalityOf false false (.expr e) (.literal converted)).truth schema root
      assignment = .ok (some true)) :
    ∃ value, e.value schema root assignment = .ok value ∧
      (value = converted ∨ value.equals? converted = some true) ∧
      ((Operator.equalityOf false true (.expr e) (.literal converted)).truth schema root
          assignment = .ok (some true) ↔
        value.mapText Text.upper = converted.mapText Text.upper) := by
  cases isNull : converted.isNull with
  | true =>
    cases Value.isNull_iff.mp isNull
    obtain ⟨null, found, same⟩ := bind_eq_ok_iff.mp equal
    cases Except.ok.inj same
    exact ⟨.null, Expr.value_of_isNull found, .inl rfl, iff_of_true equal rfl⟩
  | false =>
    have notNull : (Comparand.literal converted).isNullLiteral = false := by
      rw [Comparand.isNullLiteral_literal, isNull]
    have folded : Comparand.foldIf true (.literal converted) =
        .literal (converted.mapText Text.upper) := by
      rw [Comparand.foldIf, if_pos rfl, Comparand.mapText_literal,
        (Value.mapText_flatten_eq_iff _).mpr flat]
      rfl
    have expr : (Comparand.expr e).isNullLiteral = false := rfl
    -- Neither side is the literal null, so that both conditions are equations.
    simp only [Operator.equalityOf, expr, notNull, folded, Bool.false_eq_true, ↓reduceIte]
      at equal ⊢
    rw [Predicate.truth, bind_eq_ok_iff] at equal
    obtain ⟨value, isValue, same⟩ := equal
    have found : e.value schema root assignment = .ok value := isValue
    have equals : value.equals? converted = some true := Except.ok.inj same
    refine ⟨value, found, .inr equals, ?_⟩
    rw [← Value.equals?_mapText_iff Text.upper equals]
    change (Predicate.equal (.mapped .upper e) _).truth _ _ _ = _ ↔ _
    rw [Predicate.truth, Expr.value_mapped found]
    exact ⟨Except.ok.inj, congrArg Except.ok⟩

/-- On a field without directives equality that ignores letter case is made wherever equality is. A
literal that equals the field does so with letter case ignored just if the texts are the same in
upper case. If the value of the field is of its type, the two are the same then, and only floating
point numbers and decimals can be equal without being the same. -/
theorem equality_ignoring_case (scalar : d.kind = .scalar type) (plain : d.directives = {})
    (flat : literal.IsFlat) (e : Expr) (context : Context) :
    ((∃ folded, builtin.Makes context "eq_ignorecase" [.field e d, .literal literal] folded) ↔
      ∃ equality, builtin.Makes context "eq" [.field e d, .literal literal] equality) ∧
    ∀ equality folded, builtin.Makes context "eq" [.field e d, .literal literal] equality →
      builtin.Makes context "eq_ignorecase" [.field e d, .literal literal] folded →
        ∀ schema root assignment, equality.truth schema root assignment = .ok (some true) →
          ∃ value converted, e.value schema root assignment = .ok value ∧
            Value.coerce d literal = .ok converted ∧
            (folded.truth schema root assignment = .ok (some true) ↔
              value.mapText Text.upper = converted.mapText Text.upper) ∧
            (value.HasType type →
              (folded.truth schema root assignment = .ok (some true) ↔ value = converted) ∧
              (type.innermost ≠ .float → type.innermost ≠ .decimal →
                folded.truth schema root assignment = .ok (some true))) := by
  have isEqual : builtin.get? "eq" = some (.equality false false) := rfl
  have isFolded : builtin.get? "eq_ignorecase" = some (.equality false true) := rfl
  simp only [makes_equality_literal_iff isEqual plain, makes_equality_literal_iff isFolded plain]
  refine ⟨⟨?_, ?_⟩, ?_⟩
  · rintro ⟨_, converted, coerced, -⟩
    exact ⟨_, converted, coerced, rfl⟩
  · rintro ⟨_, converted, coerced, -⟩
    exact ⟨_, converted, coerced, rfl⟩
  · rintro _ _ ⟨converted, coerced, rfl⟩ ⟨_, coercedToo, rfl⟩ schema root assignment equal
    cases coerced.symm.trans coercedToo
    obtain ⟨value, found, equals, folded⟩ := of_equalityOf (flat.of_coerce coerced) equal
    refine ⟨value, converted, found, coerced, folded, fun typed => ?_⟩
    obtain ⟨-, target⟩ := Value.valueType?_and_target_of_plain scalar plain
    have admits (part : Value) (occurs : part.Occurs converted) (isSingle : part.IsSingle) :
        type.target.Admits d.valueType? part := by
      rw [← target]
      exact (Value.suits_of_coerce coerced part occurs isSingle).kind
    have same (texts : type.innermost = .float ∨ type.innermost = .decimal →
        value.mapText Text.upper = converted.mapText Text.upper) : value = converted := by
      rcases equals with same | equals
      · exact same
      · exact Value.eq_of_equals? typed admits equals texts
    rw [folded]
    refine ⟨⟨fun texts => same fun _ => texts, congrArg _⟩, fun noFloat noDecimal => ?_⟩
    rw [same fun several => (several.elim noFloat noDecimal).elim]

end Registry

namespace Sample

def itemPrice : Descriptor := ⟨[], ⟨"price", "Item", .attr⟩, .scalar .decimal, {}⟩

/-- Items have a price. -/
def ofPrices : Context where
  schema :=
    { entities := [{ name := "Item", fields := [⟨"price", .scalar .decimal, some {}, false⟩] }]
      names_nodup := by decide }
  metadata := ⟨"Item", [("price", itemPrice)]⟩

/-- The decimal `1.5`. -/
def oneAndAHalf : Decimal := (Decimal.ofParts? 15 1).get rfl

/-- The decimal `1.50`. -/
def oneAndFiftyCents : Decimal := (Decimal.ofParts? 150 2).get rfl

/-- An item with a price of two places. -/
def pricedItem : Record where
  entity := "Item"
  fields := [("price", .value (.decimal oneAndFiftyCents))]

end Sample

namespace Registry

open Sample

/-- A price of `1.50` equals `1.5`, which is another text. -/
theorem equality_ignoring_case_scale : ∃ equality folded,
    (Filter.call "eq" [.field "price", .literal (.decimal oneAndAHalf)]).predicate .builtin
      ofPrices = .ok (equality, ofPrices) ∧
    (Filter.call "eq_ignorecase" [.field "price", .literal (.decimal oneAndAHalf)]).predicate
      .builtin ofPrices = .ok (folded, ofPrices) ∧
    equality.truth ofPrices.schema pricedItem [] = .ok (some true) ∧
    folded.truth ofPrices.schema pricedItem [] = .ok (some false) :=
  ⟨.equal (.attr (.root "Item") "price") (.literal (.decimal oneAndAHalf)),
    .equal (.mapped .upper (.attr (.root "Item") "price"))
      (.literal (.string (Text.upper oneAndAHalf.text))),
    rfl, rfl, by decide +kernel, by decide +kernel⟩

/-- A price of `1.50` equals `1.50` with letter case ignored, too. -/
theorem equality_ignoring_case_price : ∃ equality folded,
    builtin.Makes ofPrices "eq" [.field (.attr (.root "Item") "price") itemPrice,
      .literal (.decimal oneAndFiftyCents)] equality ∧
    builtin.Makes ofPrices "eq_ignorecase" [.field (.attr (.root "Item") "price") itemPrice,
      .literal (.decimal oneAndFiftyCents)] folded ∧
    equality.truth ofPrices.schema pricedItem [] = .ok (some true) ∧
    folded.truth ofPrices.schema pricedItem [] = .ok (some true) := by
  have flat : (Value.decimal oneAndFiftyCents).IsFlat := fun _ same => by cases same
  obtain ⟨compiles, law⟩ := equality_ignoring_case (d := itemPrice) rfl rfl flat
    (.attr (.root "Item") "price") ofPrices
  have made : builtin.Makes ofPrices "eq" [.field (.attr (.root "Item") "price") itemPrice,
      .literal (.decimal oneAndFiftyCents)]
      (.equal (.attr (.root "Item") "price") (.literal (.decimal oneAndFiftyCents))) :=
    ⟨_, rfl, rfl⟩
  obtain ⟨folded, madeToo⟩ := compiles.mpr ⟨_, made⟩
  have equal : (Predicate.equal (.attr (.root "Item") "price")
      (.literal (.decimal oneAndFiftyCents))).truth ofPrices.schema pricedItem [] =
        .ok (some true) := by
    decide +kernel
  obtain ⟨value, converted, found, coerced, -, typed⟩ := law _ _ made madeToo _ _ _ equal
  obtain rfl : .decimal oneAndFiftyCents = value := Except.ok.inj found
  obtain rfl : .decimal oneAndFiftyCents = converted := Except.ok.inj coerced
  exact ⟨_, folded, made, madeToo, equal, (typed .decimal).1.mpr rfl⟩

end Registry

end RecordQuery
