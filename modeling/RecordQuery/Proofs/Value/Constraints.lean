import RecordQuery.Proofs.Value.Coercion

/-! # Converted literals

What a literal is converted to for a field has the shape of the literal, and each single value in it
is of the kind that the field asks for and within its constraints. Such values, and no others, are
converted to themselves, so that to convert twice is to convert once. -/

namespace RecordQuery

open Fallible

/-! ## What fields ask for -/

/-- A count is neither below the least one nor above the greatest one that are given. -/
def WithinLimits (least most : Option Nat) (count : Nat) : Prop :=
  (∀ limit, least = some limit → limit ≤ count) ∧ ∀ limit, most = some limit → count ≤ limit

/-- The value is of the kind that a target stands for, which is any kind if nothing is asked for.
The member of an enumeration is one that the field declares for itself or for its items. -/
inductive Target.Admits (native : Option ValueType) : Target → Value → Prop where
  | untyped {value : Value} : Admits native .untyped value
  | string {value : String} : Admits native .string (.string value)
  | integer {value : Int64} : Admits native .integer (.integer value)
  | float {value : Binary64} : Admits native .float (.float value)
  | decimal {value : Decimal} : Admits native .decimal (.decimal value)
  | boolean {value : Bool} : Admits native .boolean (.boolean value)
  | date {value : Date} : Admits native .date (.date value)
  | dateTime {value : Instant} : Admits native .dateTime (.dateTime value)
  | time {value : TimeOfDay} : Admits native .time (.time value)
  | period {value : Period} : Admits native .period (.period value)
  | enumMember {name member : String} {members : List String}
      (declares : native.map ValueType.itemOrSelf = some (.enumeration name members))
      (declared : member ∈ members) :
      Admits native .enumeration (.enumMember { typeName := name, member })

namespace Value

/-- The digits of the value are counted: it is a number or a text. -/
def HasDigits : Value → Prop
  | integer _ | float _ | decimal _ | string _ => True
  | _ => False

/-- The value is within the constraints of a field. -/
structure Satisfies (value : Value) (d : Descriptor) : Prop where
  length : ∀ text, value = string text →
    WithinLimits d.directives.minSize d.directives.maxSize text.length
  pattern : ∀ pattern, d.directives.regexPattern = some pattern →
    ∃ regex, Regex.ofFieldPattern? pattern = some regex ∧ regex.isMatch value.plainText = true
  digits : value.HasDigits → WithinLimits d.directives.minDigits d.directives.maxDigits
    (value.plainText.toList.countP Char.isDigit)

/-- The value is what a field asks for. -/
structure Suits (value : Value) (d : Descriptor) : Prop where
  kind : d.target.Admits d.valueType? value
  satisfies : value.Satisfies d

/-- Two values have lists and nulls at the same places. -/
inductive SameShape : Value → Value → Prop where
  | null : SameShape null null
  | single {value other : Value} (isSingle : value.IsSingle) (isSingleToo : other.IsSingle) :
      SameShape value other
  | list {items others : List Value} (each : List.Forall₂ SameShape items others) :
      SameShape (list items) (list others)

/-! ## Checks -/

/-- A count passes its check exactly if it is within the limits. -/
theorem checkCount_eq_ok_iff {count : Nat} {least most : Option Nat} {below above : Nat → String}
    {fault : String → Fault} : checkCount count least most below above fault = .ok () ↔
      WithinLimits least most count := by
  unfold checkCount WithinLimits
  cases least with
  | none =>
    cases most with
    | none => simp
    | some most => by_cases above : most < count <;> simp [above, Nat.not_lt.mp]
  | some least =>
    by_cases below : count < least
    · simp [below, Nat.not_le.mpr below]
    · cases most with
      | none => simp [below, Nat.not_lt.mp below]
      | some most =>
        by_cases above : most < count
        · simp [below, above]
        · simp [below, above, Nat.not_lt.mp below, Nat.not_lt.mp above]

/-- A value satisfies a field if its length, its text and the number of its digits do, each where
the field limits it. -/
theorem satisfies_iff {value : Value} {d : Descriptor} : value.Satisfies d ↔
    (∀ text, value = string text →
      WithinLimits d.directives.minSize d.directives.maxSize text.length) ∧
    (∀ pattern, d.directives.regexPattern = some pattern →
      ∃ regex, Regex.ofFieldPattern? pattern = some regex ∧ regex.isMatch value.plainText = true) ∧
    (value.HasDigits → WithinLimits d.directives.minDigits d.directives.maxDigits
      (value.plainText.toList.countP Char.isDigit)) :=
  ⟨fun ⟨length, pattern, digits⟩ => ⟨length, pattern, digits⟩,
    fun ⟨length, pattern, digits⟩ => ⟨length, pattern, digits⟩⟩

/-- The check finds no fault with just the values within the constraints. -/
theorem check_eq_ok_iff {value : Value} {d : Descriptor} :
    value.check d = .ok () ↔ value.Satisfies d := by
  rw [satisfies_iff]
  unfold check Descriptor.pattern?
  cases d.directives.regexPattern with
  | none =>
    cases value <;> simp [bind_unit_eq_ok_iff, checkCount_eq_ok_iff, digitCount?, HasDigits]
  | some pattern =>
    cases read : Regex.ofFieldPattern? pattern with
    | none => cases value <;> simp [read, bind_unit_eq_ok_iff]
    | some regex =>
      cases isMatch : regex.isMatch value.plainText with
      | false => cases value <;> simp [read, isMatch, bind_unit_eq_ok_iff]
      | true =>
        cases value <;>
          simp [read, isMatch, bind_unit_eq_ok_iff, checkCount_eq_ok_iff, digitCount?, HasDigits]

/-! ## Kinds -/

/-- A member that is found is of the kind that an enumeration asks for. -/
theorem admits_of_toMember {value : Value} {native : Option ValueType} {result : EnumMember}
    (found : value.toMember native = .ok result) :
    Target.enumeration.Admits native (enumMember result) := by
  cases declares : native.map ValueType.itemOrSelf with
  | none => simp [toMember, declares] at found
  | some type =>
    cases type with
    | enumeration name members =>
      have same : native.map ValueType.itemOrSelf =
          (some (ValueType.enumeration name members)).map ValueType.itemOrSelf := declares
      rw [toMember_congr value same] at found
      cases hasType_of_toMember found with
      | enumMember declared => exact .enumMember declares declared
    | _ => simp [toMember, declares] at found

/-- What a value is converted to is of the kind that is asked for. -/
theorem admits_of_convert {value result : Value} {target : Target} {native : Option ValueType}
    {directives : Directives} (converted : value.convert target native directives = .ok result) :
    target.Admits native result := by
  cases target with
  | untyped => exact .untyped
  | enumeration =>
    obtain ⟨member, found, rfl⟩ := map_eq_ok_iff.mp converted
    exact admits_of_toMember found
  | _ =>
    obtain ⟨_, _, rfl⟩ := map_eq_ok_iff.mp converted
    constructor

/-- A value of the kind that is asked for stays as it is. -/
theorem convert_of_admits {value : Value} {target : Target} {native : Option ValueType}
    (admits : target.Admits native value) (directives : Directives) :
    value.convert target native directives = .ok value := by
  cases admits with
  | enumMember declares declared => simp [convert, toMember, declares, declared, Except.map]
  | _ => rfl

/-- A single value is converted to a single value. -/
theorem isSingle_of_convert {value result : Value} (isSingle : value.IsSingle) {target : Target}
    {native : Option ValueType} {directives : Directives}
    (converted : value.convert target native directives = .ok result) : result.IsSingle := by
  cases target with
  | untyped =>
    cases converted
    exact isSingle
  | _ =>
    obtain ⟨_, _, rfl⟩ := map_eq_ok_iff.mp converted
    trivial

/-! ## Literals -/

/-- A single value is converted for a field to what it is converted to for the target, and the field
has to be satisfied with it. -/
theorem coerce_single_eq_ok_iff {d : Descriptor} {value result : Value}
    (isSingle : value.IsSingle) : coerce d value = .ok result ↔
      value.convert d.target d.valueType? d.directives = .ok result ∧ result.Satisfies d := by
  rw [coerce_eq d isSingle, bind_eq_ok_iff]
  constructor
  · rintro ⟨made, converted, later⟩
    obtain ⟨checked, same⟩ := bind_unit_eq_ok_iff.mp later
    cases same
    exact ⟨converted, check_eq_ok_iff.mp checked⟩
  · rintro ⟨converted, satisfies⟩
    exact ⟨result, converted, bind_unit_eq_ok_iff.mpr ⟨check_eq_ok_iff.mpr satisfies, rfl⟩⟩

/-- Items are converted one by one. -/
theorem coerceItems_eq_ok_iff {d : Descriptor} {items results : List Value} :
    coerceItems d items = .ok results ↔
      List.Forall₂ (fun item result => coerce d item = .ok result) items results := by
  have same : coerceItems d items = items.mapM (coerce d) := by
    induction items with
    | nil => rfl
    | cons item rest ih => rw [coerceItems, ih, List.mapM_cons]
  rw [same, mapM_eq_ok_iff]

/-- A list is converted to the list of its converted items. -/
theorem coerce_list_eq_ok_iff {d : Descriptor} {items : List Value} {result : Value} :
    coerce d (list items) = .ok result ↔ ∃ results,
      List.Forall₂ (fun item part => coerce d item = .ok part) items results ∧
        list results = result := by
  rw [coerce, map_eq_ok_iff]
  simp only [coerceItems_eq_ok_iff]

/-- To show something of a value is to show it of null, of single values, and of lists of values of
which it is known. -/
theorem inductionOn {motive : Value → Prop} (null : motive null)
    (single : ∀ value : Value, value.IsSingle → motive value)
    (list : ∀ items, (∀ item ∈ items, motive item) → motive (list items)) :
    ∀ value, motive value
  | .null => null
  | .list items => list items fun item _ => inductionOn null single list item
  | .boolean _ | .integer _ | .float _ | .decimal _ | .string _ | .date _ | .dateTime _ | .time _
  | .period _ | .enumMember _ => single _ trivial

/-! ## Converting twice -/

variable {d : Descriptor}

/-- Literals are converted to values of their shape. -/
theorem sameShape_of_coerce {value result : Value} (coerced : coerce d value = .ok result) :
    SameShape value result := by
  induction value using inductionOn generalizing result with
  | null =>
    cases coerced
    exact .null
  | single value isSingle =>
    obtain ⟨converted, _⟩ := (coerce_single_eq_ok_iff isSingle).mp coerced
    exact .single isSingle (isSingle_of_convert isSingle converted)
  | list items ih =>
    obtain ⟨results, each, rfl⟩ := coerce_list_eq_ok_iff.mp coerced
    exact .list (((List.forall₂_and_left _ _).mpr ⟨ih, each⟩).imp fun _ _ ⟨ih, found⟩ => ih found)

/-- All that a literal is converted to suits the field. -/
theorem suits_of_coerce {value result : Value} (coerced : coerce d value = .ok result) :
    ∀ part : Value, part.Occurs result → part.IsSingle → part.Suits d := by
  induction value using inductionOn generalizing result with
  | null =>
    cases coerced
    exact (forall_occurs_iff fun items same => by cases same).mpr fun isSingle => isSingle.elim
  | single value isSingle =>
    obtain ⟨converted, satisfies⟩ := (coerce_single_eq_ok_iff isSingle).mp coerced
    have alone := isSingle_of_convert isSingle converted
    refine (forall_occurs_iff fun items same => ?_).mpr fun _ =>
      ⟨admits_of_convert converted, satisfies⟩
    subst same
    exact alone
  | list items ih =>
    obtain ⟨results, each, rfl⟩ := coerce_list_eq_ok_iff.mp coerced
    refine forall_occurs_list_iff.mpr ⟨fun isSingle => isSingle.elim, fun result member => ?_⟩
    obtain ⟨item, inItems, found⟩ := exists_of_mem_mapM (mapM_eq_ok_iff.mpr each) member
    exact ih item inItems found

/-- The values that stay as they are for a field are those whose single values suit the field. -/
theorem coerce_eq_self_iff {value : Value} : coerce d value = .ok value ↔
    ∀ part : Value, part.Occurs value → part.IsSingle → part.Suits d := by
  refine ⟨suits_of_coerce, fun suits => ?_⟩
  induction value using inductionOn with
  | null => rfl
  | single value isSingle =>
    obtain ⟨admits, satisfies⟩ := suits value .here isSingle
    exact (coerce_single_eq_ok_iff isSingle).mpr
      ⟨convert_of_admits admits d.directives, satisfies⟩
  | list items ih =>
    have each := (forall_occurs_list_iff.mp suits).2
    exact coerce_list_eq_ok_iff.mpr
      ⟨items, List.forall₂_same.mpr fun item member => ih item member (each item member), rfl⟩

/-- What a literal is converted to has its shape, consists of single values that suit the field, and
is converted to itself. -/
theorem coerce_idempotent {value result : Value} (coerced : coerce d value = .ok result) :
    SameShape value result ∧
      (∀ part : Value, part.Occurs result → part.IsSingle → part.Suits d) ∧
        coerce d result = .ok result :=
  ⟨sameShape_of_coerce coerced, suits_of_coerce coerced,
    coerce_eq_self_iff.mpr (suits_of_coerce coerced)⟩

/-- A field of lists of texts, which have to match a pattern and may have three digits. -/
def shelfmarks : Descriptor where
  leading := []
  terminal := ⟨"shelfmarks", "Book", .attr⟩
  kind := .scalar (.list .string)
  directives := { minSize := some 2, regexPattern := some "42|0+7", maxDigits := some 3 }

/-- A number among texts becomes a text, which stays. -/
theorem coerce_idempotent_shelfmarks :
    coerce shelfmarks (list [integer 42, null, list [string "007"]]) =
        .ok (list [string "42", null, list [string "007"]]) ∧
      SameShape (list [integer 42, null, list [string "007"]])
        (list [string "42", null, list [string "007"]]) ∧
      (string "42").Suits shelfmarks ∧
      coerce shelfmarks (list [string "42", null, list [string "007"]]) =
        .ok (list [string "42", null, list [string "007"]]) := by
  have coerced : coerce shelfmarks (list [integer 42, null, list [string "007"]]) =
      .ok (list [string "42", null, list [string "007"]]) := rfl
  obtain ⟨sameShape, suits, again⟩ := coerce_idempotent coerced
  exact ⟨coerced, sameShape, suits _ (.item List.mem_cons_self .here) trivial, again⟩

end Value

end RecordQuery
