import RecordQuery.Proofs.Filter.Reading
import RecordQuery.Proofs.Period
import RecordQuery.Proofs.Value.Typing

/-! # Reading values back

JSON has fewer kinds of values than fields have types: dates, decimals, periods and members of
enumerations are written as texts. The type of the field recovers them, so what a value of a type is
written as converts to the value again, as far as its decimals and its dates and times are read back
from their texts. -/

namespace RecordQuery.Value

open Fallible

/-- The value is the other one, or one of its items at some depth. -/
inductive Occurs (value : Value) : Value → Prop where
  | here : Occurs value value
  | item {items : List Value} {holder : Value} (member : holder ∈ items)
      (occurs : Occurs value holder) : Occurs value (list items)

section Occurrence

variable {p : Value → Prop}

/-- What holds of all values in a list holds of the list and of all values in its items. -/
theorem forall_occurs_list_iff {items : List Value} :
    (∀ inner : Value, inner.Occurs (list items) → p inner) ↔
      p (list items) ∧ ∀ item ∈ items, ∀ inner : Value, inner.Occurs item → p inner := by
  constructor
  · intro each
    exact ⟨each _ .here, fun item member inner occurs => each inner (.item member occurs)⟩
  · rintro ⟨here, each⟩ inner occurs
    cases occurs with
    | here => exact here
    | item member occurs => exact each _ member inner occurs

/-- Only the value itself occurs in a value that is no list. -/
theorem forall_occurs_iff {value : Value} (single : ∀ items, value ≠ list items) :
    (∀ inner : Value, inner.Occurs value → p inner) ↔ p value := by
  constructor
  · intro each
    exact each value .here
  · intro here inner occurs
    cases occurs with
    | here => exact here
    | item => exact absurd rfl (single _)

end Occurrence

/-- What the value is written as can be read: a binary number is finite, the text of a date, of an
instant or of a time is read as what it was written for, and that of a decimal as an equal decimal.
-/
def Restorable : Value → Prop
  | float x => x.isFinite = true
  | decimal d => ∃ again, (string d.text).toDecimal = .ok again ∧ d.compareValues again = .eq
  | date d => (string d.text).toDate none = .ok d
  | dateTime i => (string i.text).toInstant none = .ok i
  | time t => (string t.text).toTime none = .ok t
  | _ => True

/-- The text of the decimal is read as the very same decimal, of its sign and with its places. -/
def ReadsAsItself (d : Decimal) : Prop := (string d.text).toDecimal = .ok d

/-- The decimals that occur in the value keep their sign and their places. -/
def KeepsDecimals (value : Value) : Prop := ∀ d, (decimal d).Occurs value → ReadsAsItself d

/-- What is read back for a value is equal to it as data, and is the value itself if its decimals
are. -/
structure RestoredAs (value again : Value) : Prop where
  same : value.sameAs again = true
  exact : value.KeepsDecimals → again = value

/-- A negative zero is read as zero, which is equal to it and has another sign. -/
example : (string (Decimal.text ⟨true, 0, 3, by decide, by decide⟩)).toDecimal =
    .ok ⟨false, 0, 3, by decide, by decide⟩ := by decide

theorem RestoredAs.self {value : Value} (same : value.sameAs value = true) :
    RestoredAs value value := ⟨same, fun _ => rfl⟩

/-- Floating point numbers that are finite are equal to themselves. -/
theorem sameAs_float {x : Binary64} (finite : x.isFinite = true) :
    (float x).sameAs (float x) = true := by
  have number : x.isNaN = false := by
    unfold Binary64.isFinite at finite
    unfold Binary64.isNaN
    simp only [decide_eq_true_eq] at finite
    simp only [decide_eq_false_iff_not]
    omega
  rw [sameAs, Binary64.equals, Binary64.compare?, number]
  simp

/-! ## Texts -/

/-- A text is converted to the target of a type that is no list. -/
theorem convertNative_string {type : ValueType} (single : type.isList = false) (text : String) :
    convertNative type (string text) = (string text).convert type.target (some type) {} := by
  cases type with
  | list item => cases single
  | _ => rfl

/-- The name of a declared member is converted to the member. -/
theorem toMember_of_declared {name member : String} {members : List String}
    (declared : member ∈ members) :
    (string member).toMember (some (.enumeration name members)) =
      .ok { typeName := name, member } := by
  have contained : members.contains member = true := by simpa using declared
  simp only [toMember, Option.map_some, ValueType.itemOrSelf, pure_eq_ok, ok_bind, contained,
    ↓reduceIte]

/-- A period is read back from its text. -/
theorem toPeriod_text (p : Period) : (string p.text).toPeriod = .ok p := by
  rw [toPeriod, periodOfText, Period.ofText_text]
  rfl

/-- A value that is written as a text is read as what the text converts to. -/
theorem again_of_text {type : ValueType} {value result : Value} {text : String}
    (single : type.isList = false) (written : value.toJson = .string text)
    (converted : (string text).convert type.target (some type) {} = .ok result) :
    (ofJson value.toJson >>= convertNative type) = .ok result := by
  rw [written, ofJson, ok_bind, convertNative_string single, converted]

/-! ## Values of a type -/

/-- Items that are read back one by one are read back as a list. -/
theorem exists_items_again {type : ValueType} {items : List Value}
    (each : ∀ value ∈ items, ∃ again,
      (ofJson value.toJson >>= convertNative type) = .ok again ∧ RestoredAs value again) :
    ∃ again, (ofJsonItems (toJsonItems items) >>= convertNativeItems type) = .ok again ∧
      RestoredAs (list items) (list again) := by
  induction items with
  | nil => exact ⟨[], rfl, .self rfl⟩
  | cons value rest ih =>
    obtain ⟨here, later⟩ := List.forall_mem_cons.mp each
    obtain ⟨again, found, restored⟩ := here
    obtain ⟨written, readFirst, converted⟩ := bind_eq_ok_iff.mp found
    obtain ⟨others, foundRest, restoredRest⟩ := ih later
    obtain ⟨writtenRest, readRest, convertedRest⟩ := bind_eq_ok_iff.mp foundRest
    refine ⟨again :: others, ?_, ?_, ?_⟩
    · simp only [toJsonItems, ofJsonItems, readFirst, readRest, ok_bind, pure_eq_ok,
        convertNativeItems, converted, convertedRest]
    · have same := restoredRest.same
      rw [sameAs] at same
      rw [sameAs, sameItems, restored.same, same]
      rfl
    · intro keeps
      have first : again = value := restored.exact fun d occurs =>
        keeps d (.item List.mem_cons_self occurs)
      have others : list others = list rest := restoredRest.exact fun d occurs => by
        cases occurs with
        | item member occurs => exact keeps d (.item (List.mem_cons_of_mem _ member) occurs)
      rw [first, (list.inj others)]

/-- What a value of a type is written as is read and converted to the value again. -/
theorem exists_again {type : ValueType} {value : Value} (typed : value.HasType type)
    (restorable : ∀ inner : Value, inner.Occurs value → inner.Restorable) :
    ∃ again, (ofJson value.toJson >>= convertNative type) = .ok again ∧
      RestoredAs value again := by
  induction typed with
  | null => exact ⟨null, rfl, .self rfl⟩
  | @boolean b => exact ⟨boolean b, rfl, .self (by simp [sameAs])⟩
  | @integer n =>
    refine ⟨integer n, ?_, .self (by simp [sameAs])⟩
    rw [toJson, ofJson, ofInteger, int64?_toInt]
    rfl
  | @float x =>
    have finite : x.isFinite = true := restorable _ .here
    refine ⟨float x, ?_, .self (sameAs_float finite)⟩
    rw [toJson, if_pos finite]
    rfl
  | @decimal d =>
    obtain ⟨again, read, same⟩ := restorable _ .here
    refine ⟨decimal again, again_of_text rfl rfl ?_, by simp [sameAs, same], ?_⟩
    · simp only [ValueType.target, convert, read]
      rfl
    · intro keeps
      have exactly : Except.ok again = Except.ok d := read.symm.trans (keeps d .here)
      cases exactly
      rfl
  | @string s => exact ⟨string s, rfl, .self (by simp [sameAs])⟩
  | @date d | @dateTime d | @time d =>
    have read := restorable _ .here
    rw [Restorable] at read
    refine ⟨_, again_of_text rfl rfl ?_, .self (by simp [sameAs])⟩
    simp only [ValueType.target, convert, read]
    rfl
  | @period p =>
    refine ⟨period p, again_of_text rfl rfl ?_, .self (by simp [sameAs])⟩
    simp only [ValueType.target, convert, toPeriod_text]
    rfl
  | @enumMember name member members declared =>
    refine ⟨enumMember { typeName := name, member }, again_of_text rfl rfl ?_,
      .self (by simp [sameAs])⟩
    simp only [ValueType.target, convert, toMember_of_declared declared]
    rfl
  | @list item items each ih =>
    obtain ⟨again, found, restored⟩ := exists_items_again fun value member =>
      ih value member ((forall_occurs_list_iff.mp restorable).2 value member)
    obtain ⟨written, read, converted⟩ := bind_eq_ok_iff.mp found
    refine ⟨list again, ?_, restored⟩
    rw [toJson, ofJson, read]
    exact map_eq_ok_iff.mpr ⟨again, converted, rfl⟩

end RecordQuery.Value
