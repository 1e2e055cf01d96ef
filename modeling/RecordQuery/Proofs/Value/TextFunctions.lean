import RecordQuery.Proofs.Text.Numeral
import RecordQuery.Proofs.Value.Coercion
import RecordQuery.Proofs.Value.Constraints
import RecordQuery.Proofs.Value.Equality
import RecordQuery.Query.Evaluation

/-! # Functions on the texts of values

A function on texts is applied to each item of a list, at any depth. Equal values of one type are
the same, apart from numbers that can be written in several ways; these are the same as soon as
their texts are. -/

namespace RecordQuery.Value

open Fallible

/-! ## Lists in lists -/

/-- There is no list among the items if the value is a list. -/
def IsFlat (value : Value) : Prop :=
  ∀ items, value = list items → ∀ item ∈ items, ∀ inner, item ≠ list inner

/-- The text of a list; any other value as it is. -/
def listAsText : Value → Value
  | list items => string (list items).plainText
  | other => other

/-- A list with the texts of the lists among its items; any other value as it is. -/
def flatten : Value → Value
  | list items => list (items.map listAsText)
  | other => other

/-- A list is flat exactly if none of its items is a list. -/
theorem isFlat_list_iff {items : List Value} :
    (list items).IsFlat ↔ ∀ item ∈ items, ∀ inner, item ≠ list inner :=
  ⟨fun flat => flat items rfl, fun flat _ same => by cases same; exact flat⟩

/-- A single value has no lists in a list. -/
theorem IsSingle.isFlat {value : Value} (isSingle : value.IsSingle) : value.IsFlat := by
  intro items same
  subst same
  exact isSingle.elim

/-- Conversion makes no lists. -/
theorem IsFlat.of_coerce {d : Descriptor} {value converted : Value} (flat : value.IsFlat)
    (coerced : coerce d value = .ok converted) : converted.IsFlat := by
  cases sameShape_of_coerce coerced with
  | null => exact fun _ same => by cases same
  | single _ isSingle => exact isSingle.isFlat
  | list =>
    obtain ⟨results, each, same⟩ := coerce_list_eq_ok_iff.mp coerced
    cases same
    refine isFlat_list_iff.mpr fun result member inner isList => ?_
    obtain ⟨item, inItems, found⟩ := exists_of_mem_mapM (mapM_eq_ok_iff.mpr each) member
    subst isList
    cases sameShape_of_coerce found with
    | single _ isSingle => exact isSingle
    | list => exact isFlat_list_iff.mp flat _ inItems _ rfl

section Mapped

variable (function : String → String)

theorem mapText_single {value : Value} (isSingle : value.IsSingle) :
    value.mapText function = string (function value.plainText) := by
  cases value <;> first | exact isSingle.elim | rfl

/-- A function is applied to the items of a list one by one. -/
theorem mapText_list (items : List Value) :
    (list items).mapText function = list (items.map (mapText function)) := by
  have each : mapTextItems function items = items.map (mapText function) := by
    induction items with
    | nil => rfl
    | cons item rest ih => rw [mapTextItems, ih, List.map_cons]
  rw [mapText, each]

/-- Applying a function to the text of a list as a whole is the same exactly for what is no list. -/
theorem mapText_listAsText_eq_iff {value : Value} :
    value.listAsText.mapText function = value.mapText function ↔ ∀ inner, value ≠ list inner := by
  cases value <;> simp [listAsText, mapText]

/-- Applying a function to one level of a list is the same exactly for values without lists in a
list. -/
theorem mapText_flatten_eq_iff {value : Value} :
    value.flatten.mapText function = value.mapText function ↔ value.IsFlat := by
  cases value with
  | list items =>
    rw [isFlat_list_iff, flatten, mapText_list, mapText_list, list.injEq, List.map_map,
      List.map_inj_left]
    simp only [Function.comp_apply, mapText_listAsText_eq_iff]
  | _ => exact iff_of_true rfl fun _ same => by cases same

/-- A value with a list in a list does not even equal itself with texts in place of such lists. -/
theorem equals?_mapText_flatten_ne_true {value : Value} (nested : ¬ value.IsFlat) :
    (value.mapText function).equals? (value.flatten.mapText function) ≠ some true := by
  intro equal
  refine nested fun items same item member inner isList => ?_
  subst same
  rw [flatten, mapText_list, mapText_list, equals?_list_eq_true_iff, List.forall₂_map_left_iff,
    List.map_map, List.forall₂_map_right_iff, List.forall₂_same] at equal
  have each := equal item member
  subst isList
  cases each

/-- What a function makes of two equal values is equal just if it is the same. -/
theorem equals?_mapText_iff {x y : Value} (equal : x.equals? y = some true) :
    (x.mapText function).equals? (y.mapText function) = some true ↔
      x.mapText function = y.mapText function := by
  induction x using inductionOn generalizing y with
  | null => cases equal
  | single x isSingle =>
    have isSingleToo : y.IsSingle := isSingle_of_equals? isSingle equal
    rw [mapText_single _ isSingle, mapText_single _ isSingleToo, equals?_string_eq_true_iff,
      string.injEq]
  | list xs ih =>
    obtain ⟨ys, rfl, each⟩ := exists_list_of_equals? equal
    rw [mapText_list, mapText_list, equals?_list_eq_true_iff, list.injEq,
      ← List.forall₂_eq_eq_eq]
    simp only [List.forall₂_map_left_iff, List.forall₂_map_right_iff]
    have same := ((List.forall₂_and_left _ _).mpr ⟨ih, each⟩).imp fun _ _ ⟨ih, equal⟩ => ih equal
    exact ⟨List.Forall₂.mp (fun _ _ same => same.mp) same,
      List.Forall₂.mp (fun _ _ same => same.mpr) same⟩

end Mapped

/-! ## Equal values of one type -/

/-- Single values of one type that are equal are the same. For numbers that can be written in
several ways it takes the same text as well. -/
theorem eq_of_equals?_single {type : ValueType} {native : Option ValueType} {x y : Value}
    (typed : x.HasType type) (isSingle : x.IsSingle) (admits : type.target.Admits native y)
    (equal : x.equals? y = some true)
    (texts : type.innermost = .float ∨ type.innermost = .decimal →
      Text.upper x.plainText = Text.upper y.plainText) : x = y := by
  have ordered {order : Option Ordering} (same : order.map (· == .eq) = some true) :
      order = some .eq := by
    rcases order with _ | _ | _ | _ <;> first | rfl | cases same
  cases typed with
  | null => exact isSingle.elim
  | list => exact isSingle.elim
  -- Zeros of both signs are equal, and so are decimals of several scales, but not their texts.
  | float =>
    cases admits
    exact congrArg float (Binary64.eq_of_upper_text (ordered equal) (texts (.inl rfl)))
  | decimal =>
    cases admits
    have same : Text.upper (Decimal.text _) = Text.upper (Decimal.text _) := texts (.inr rfl)
    rw [Decimal.upper_text, Decimal.upper_text] at same
    exact congrArg decimal (Decimal.eq_of_text (Option.some.inj (ordered equal)) same)
  | date =>
    cases admits
    exact congrArg date (Date.lawfulEqCmp.eq_of_compare (Option.some.inj (ordered equal)))
  | dateTime =>
    cases admits
    exact congrArg dateTime (Instant.lawfulEqCmp.eq_of_compare (Option.some.inj (ordered equal)))
  | time =>
    cases admits
    exact congrArg time (TimeOfDay.lawfulEqCmp.eq_of_compare (Option.some.inj (ordered equal)))
  | period =>
    cases admits
    exact congrArg period (beq_iff_eq.mp (Option.some.inj equal))
  | enumMember =>
    cases admits
    exact congrArg enumMember (beq_iff_eq.mp (Option.some.inj equal))
  | boolean =>
    cases admits
    exact congrArg boolean (Std.LawfulEqOrd.eq_of_compare (Option.some.inj (ordered equal)))
  | integer =>
    cases admits
    exact congrArg integer (Std.LawfulEqOrd.eq_of_compare (Option.some.inj (ordered equal)))
  | string =>
    cases admits
    exact congrArg string (Std.LawfulEqOrd.eq_of_compare (Option.some.inj (ordered equal)))

/-- Equal values of one type are the same. For numbers that can be written in several ways, also in
lists, it takes the same texts as well. -/
theorem eq_of_equals? {type : ValueType} {native : Option ValueType} {x y : Value}
    (typed : x.HasType type)
    (admits : ∀ part : Value, part.Occurs y → part.IsSingle → type.target.Admits native part)
    (equal : x.equals? y = some true)
    (texts : type.innermost = .float ∨ type.innermost = .decimal →
      x.mapText Text.upper = y.mapText Text.upper) : x = y := by
  induction x using inductionOn generalizing y type with
  | null => cases equal
  | single x isSingle =>
    have isSingleToo : y.IsSingle := isSingle_of_equals? isSingle equal
    refine eq_of_equals?_single typed isSingle (admits y .here isSingleToo) equal fun several => ?_
    have same := texts several
    rw [mapText_single _ isSingle, mapText_single _ isSingleToo] at same
    exact string.inj same
  | list xs ih =>
    obtain ⟨ys, rfl, each⟩ := exists_list_of_equals? equal
    obtain ⟨item, rfl, typedEach⟩ : ∃ item, type = .list item ∧ ∀ x ∈ xs, HasType item x := by
      cases typed with
      | list typedEach => exact ⟨_, rfl, typedEach⟩
    have admitsEach := (forall_occurs_list_iff.mp admits).2
    simp only [mapText_list, list.injEq] at texts
    -- The items are taken off both lists together, with all that is known of each.
    clear equal admits typed
    refine congrArg list ?_
    induction each with
    | nil => rfl
    | cons equal _ more =>
      simp only [List.forall_mem_cons] at ih typedEach admitsEach
      simp only [List.map_cons, List.cons.injEq] at texts
      have first := ih.1 typedEach.1 admitsEach.1 equal fun several => (texts several).1
      have later := more ih.2 typedEach.2 admitsEach.2 fun several => (texts several).2
      rw [first, later]

end RecordQuery.Value
