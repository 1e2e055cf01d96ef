import Mathlib.Algebra.Order.Ring.Int
import Mathlib.Data.Set.Subsingleton
import Mathlib.Tactic.Ring
import RecordQuery.Value.Order

/-! # The order for sorting

Turning a comparison round reverses it. Values that are compared along one scale are in order; as
soon as values of two scales meet the comparison is not transitive any more, since values that are
not comparable tie, and so do numbers and dates whose difference is lost when one of two kinds is
turned into the other. -/

namespace RecordQuery

/-! ## Orders of the parts -/

/-- A comparison by something that is in order. -/
theorem transCmp_on {α β : Type} (compare : α → α → Ordering) [Std.TransCmp compare] (f : β → α) :
    Std.TransCmp fun x y => compare (f x) (f y) where
  eq_swap := Std.OrientedCmp.eq_swap
  isLE_trans := Std.TransCmp.isLE_trans

/-- The comparison of dates is an order. -/
instance Date.transCmp : Std.TransCmp Date.compare :=
  inferInstanceAs (Std.TransCmp (compareLex (compareOn Date.year)
    (compareLex (compareOn Date.month) (compareOn Date.day))))

instance Date.lawfulEqCmp : Std.LawfulEqCmp Date.compare where
  eq_of_compare {x y} same := by
    simp only [Date.compare, Ordering.then_eq_eq, Std.LawfulEqOrd.compare_eq_iff_eq] at same
    obtain ⟨year, month, day⟩ := same
    cases x
    cases y
    cases year
    cases month
    cases day
    rfl

instance TimeOfDay.transCmp : Std.TransCmp TimeOfDay.compare :=
  inferInstanceAs (Std.TransCmp (compareLex (compareOn TimeOfDay.seconds)
    (compareOn TimeOfDay.nanos)))

instance TimeOfDay.lawfulEqCmp : Std.LawfulEqCmp TimeOfDay.compare where
  eq_of_compare {x y} same := by
    simp only [TimeOfDay.compare, Ordering.then_eq_eq, Std.LawfulEqOrd.compare_eq_iff_eq] at same
    obtain ⟨seconds, nanos⟩ := same
    cases x
    cases y
    cases seconds
    cases nanos
    rfl

instance Instant.transCmp : Std.TransCmp Instant.compare :=
  have := transCmp_on Date.compare Instant.date
  have := transCmp_on TimeOfDay.compare Instant.time
  inferInstanceAs (Std.TransCmp (compareLex
    (fun x y : Instant => x.date.compare y.date) fun x y => x.time.compare y.time))

instance Instant.lawfulEqCmp : Std.LawfulEqCmp Instant.compare where
  eq_of_compare {x y} same := by
    simp only [Instant.compare, Ordering.then_eq_eq, Std.LawfulEqCmp.compare_eq_iff_eq] at same
    obtain ⟨date, time⟩ := same
    cases x
    cases y
    cases date
    cases time
    rfl

/-- Decimals are compared as the fractions that they are. -/
instance Decimal.transCmp : Std.TransCmp Decimal.compareValues where
  eq_swap := Std.OrientedOrd.eq_swap
  isLE_trans {x y z} first second := by
    have positive (d : Decimal) : (0 : Int) < (Nat.pow 10 d.scale : Nat) :=
      Int.natCast_pos.mpr (Nat.pow_pos (by decide))
    simp only [compareValues, Int.isLE_compare] at first second ⊢
    refine le_of_mul_le_mul_right ?_ (positive y)
    calc x.coefficient * (Nat.pow 10 z.scale : Nat) * (Nat.pow 10 y.scale : Nat)
        = x.coefficient * (Nat.pow 10 y.scale : Nat) * (Nat.pow 10 z.scale : Nat) := by ring
      _ ≤ y.coefficient * (Nat.pow 10 x.scale : Nat) * (Nat.pow 10 z.scale : Nat) :=
        mul_le_mul_of_nonneg_right first (positive z).le
      _ = y.coefficient * (Nat.pow 10 z.scale : Nat) * (Nat.pow 10 x.scale : Nat) := by ring
      _ ≤ z.coefficient * (Nat.pow 10 y.scale : Nat) * (Nat.pow 10 x.scale : Nat) :=
        mul_le_mul_of_nonneg_right second (positive x).le
      _ = z.coefficient * (Nat.pow 10 x.scale : Nat) * (Nat.pow 10 y.scale : Nat) := by ring

/-- Whole numbers are in the same order as the decimals that they become. -/
theorem Decimal.compareValues_ofInt64 (x y : Int64) :
    (ofInt64 x).compareValues (ofInt64 y) = Ord.compare x y := by
  have coefficient (n : Int64) : (ofInt64 n).coefficient = n.toInt := by
    simp only [Decimal.coefficient, ofInt64, Numeral.withSign, decide_eq_true_eq]
    split <;> omega
  have scale (n : Int64) : (ofInt64 n).scale = 0 := rfl
  simp only [compareValues, coefficient, scale]
  change compareOfLessAndEq (x.toInt * 1) (y.toInt * 1) = compareOfLessAndEq x y
  simp only [compareOfLessAndEq, Int.mul_one, Int64.lt_iff_toInt_lt, Int64.toInt_inj]

/-- Comparing floating point numbers the other way round reverses the result. -/
theorem Binary64.compare?_swap (x y : Binary64) :
    y.compare? x = (x.compare? y).map Ordering.swap := by
  unfold compare?
  rw [Bool.or_comm]
  split
  · rfl
  · exact congrArg some Std.OrientedOrd.eq_swap

namespace Value

/-- Comparing values the other way round reverses the result, if there is one. -/
theorem compare?_swap (x y : Value) : y.compare? x = (x.compare? y).map Ordering.swap := by
  cases x <;> cases y <;>
    simp only [compare?, Option.map_none, Option.map_some, Option.some.injEq] <;>
    first
    | exact Binary64.compare?_swap _ _
    | exact Std.OrientedCmp.eq_swap

/-- The comparison for sorting is reversed when it is turned round. -/
theorem sortCompare_swap (x y : Value) : y.sortCompare x = (x.sortCompare y).swap := by
  unfold sortCompare
  cases x.isNull <;> cases y.isNull <;> try rfl
  rw [compare?_swap]
  cases x.compare? y <;> rfl

/-! ## Scales -/

/-- What the comparison of values that are not null is made along. Numbers that are exact are on one
scale; values that have no order at all share one. -/
inductive Scale where
  | truth
  | number
  | binary
  | text
  | day
  | moment
  | clock
  | unordered
deriving DecidableEq, Repr

namespace Scale

/-- What a value of the scale is compared as. -/
def Key : Scale → Type
  | truth => Bool
  | number => Decimal
  | binary => Int
  | text => String
  | day => Date
  | moment => Instant
  | clock => TimeOfDay
  | unordered => Unit

/-- How the values of a scale are compared. -/
instance ord : (scale : Scale) → Ord scale.Key
  | truth => inferInstanceAs (Ord Bool)
  | number => ⟨Decimal.compareValues⟩
  | binary => inferInstanceAs (Ord Int)
  | text => inferInstanceAs (Ord String)
  | day => ⟨Date.compare⟩
  | moment => ⟨Instant.compare⟩
  | clock => ⟨TimeOfDay.compare⟩
  | unordered => inferInstanceAs (Ord Unit)

/-- The comparison along one scale is an order. -/
instance transOrd : (scale : Scale) → Std.TransOrd scale.Key
  | truth => inferInstanceAs (Std.TransOrd Bool)
  | number => Decimal.transCmp
  | binary => inferInstanceAs (Std.TransOrd Int)
  | text => inferInstanceAs (Std.TransOrd String)
  | day => Date.transCmp
  | moment => Instant.transCmp
  | clock => TimeOfDay.transCmp
  | unordered => inferInstanceAs (Std.TransOrd Unit)

end Scale

/-- The scale of a value that is not null. -/
def scale? : Value → Option Scale
  | null => none
  | boolean _ => some .truth
  | integer _ => some .number
  | float x => some (if x.isNaN then .unordered else .binary)
  | decimal _ => some .number
  | string _ => some .text
  | date _ => some .day
  | dateTime _ => some .moment
  | time _ => some .clock
  | period _ => some .unordered
  | enumMember _ => some .unordered
  | list _ => some .unordered

/-- A value is null or on one of the scales. -/
def IsOn (scales : Set Scale) (value : Value) : Prop := ∀ scale ∈ value.scale?, scale ∈ scales

/-- How a value is read on a scale; null is read as nothing on each. -/
inductive ReadsAs : Value → (scale : Scale) → Option scale.Key → Prop
  | null (scale : Scale) : ReadsAs null scale none
  | boolean (x : Bool) : ReadsAs (boolean x) .truth (some x)
  | integer (x : Int64) : ReadsAs (integer x) .number (some (.ofInt64 x))
  | decimal (x : Decimal) : ReadsAs (decimal x) .number (some x)
  | float {x : Binary64} (number : x.isNaN = false) : ReadsAs (float x) .binary (some x.rank)
  | string (x : String) : ReadsAs (string x) .text (some x)
  | date (x : Date) : ReadsAs (date x) .day (some x)
  | dateTime (x : Instant) : ReadsAs (dateTime x) .moment (some x)
  | time (x : TimeOfDay) : ReadsAs (time x) .clock (some x)
  | nan {x : Binary64} (nan : x.isNaN = true) : ReadsAs (float x) .unordered (some ())
  | period (x : Period) : ReadsAs (period x) .unordered (some ())
  | enumMember (x : EnumMember) : ReadsAs (enumMember x) .unordered (some ())
  | list (items : List Value) : ReadsAs (list items) .unordered (some ())

/-- Null and every value of a scale are read on the scale. -/
theorem IsOn.exists_readsAs {value : Value} {scale : Scale} (given : value.IsOn {scale}) :
    ∃ key, value.ReadsAs scale key := by
  cases value with
  | null => exact ⟨_, .null scale⟩
  | float x =>
    obtain rfl : _ = scale := given _ rfl
    cases same : x.isNaN with
    | false => exact ⟨_, .float same⟩
    | true => exact ⟨_, .nan same⟩
  | _ =>
    obtain rfl : _ = scale := given _ rfl
    exact ⟨_, by constructor⟩

/-- On one scale values are sorted as what they are read as. -/
theorem ReadsAs.sortCompare {scale : Scale} {x y : Value} {a b : Option scale.Key}
    (first : x.ReadsAs scale a) (second : y.ReadsAs scale b) : x.sortCompare y = compare a b := by
  cases first <;> cases second
  case integer.integer m n => exact (Decimal.compareValues_ofInt64 m n).symm
  case float.float x first y second =>
    change (x.compare? y).getD .eq = compare x.rank y.rank
    simp only [Binary64.compare?, first, second]
    rfl
  case nan.nan x first y second =>
    change (x.compare? y).getD .eq = .eq
    simp only [Binary64.compare?, first]
    rfl
  all_goals rfl

/-- On one scale the order for sorting is transitive. -/
theorem sortCompare_trans {scale : Scale} {x y z : Value} (left : x.IsOn {scale})
    (middle : y.IsOn {scale}) (right : z.IsOn {scale}) (first : (x.sortCompare y).isLE)
    (second : (y.sortCompare z).isLE) : (x.sortCompare z).isLE := by
  obtain ⟨a, left⟩ := left.exists_readsAs
  obtain ⟨b, middle⟩ := middle.exists_readsAs
  obtain ⟨c, right⟩ := right.exists_readsAs
  rw [left.sortCompare middle] at first
  rw [middle.sortCompare right] at second
  rw [left.sortCompare right]
  exact Std.TransCmp.isLE_trans first second

/-! ## Values of two scales -/

namespace Scale

def firstDay : Date := (Date.ofYmd? 1 1 1).get rfl

def secondDay : Date := (Date.ofYmd? 1 1 2).get rfl

def noon : TimeOfDay := (TimeOfDay.ofParts? 12 0 0 0).get rfl

/-- A value of the scale. The whole number is the one from which on binary floating point numbers
leave some out, and the floating point number is the same one. -/
def low : Scale → Value
  | truth => .boolean false
  | number => .integer 9007199254740992
  | binary => .float ⟨0x4340000000000000⟩
  | text => .string ""
  | day => .date firstDay
  | moment => .dateTime (.atMidnight firstDay)
  | clock => .time .midnight
  | unordered => .list []

/-- A value of the scale behind the other one, if there is one. -/
def high : Scale → Value
  | truth => .boolean true
  | number => .integer 9007199254740993
  | binary => .float ⟨0x4340000000000001⟩
  | text => .string "a"
  | day => .date secondDay
  | moment => .dateTime ⟨firstDay, noon⟩
  | clock => .time noon
  | unordered => .list []

/-- The first value of a scale is on the scale. -/
theorem isOn_low (scale : Scale) : scale.low.IsOn {scale} := by
  cases scale <;> rintro _ ⟨⟩ <;> rfl

theorem isOn_high (scale : Scale) : scale.high.IsOn {scale} := by
  cases scale <;> rintro _ ⟨⟩ <;> rfl

end Scale

/-- Two neighbours of three values are in order each time, but the first is behind the last. -/
def Loops (x y z : Value) : Prop :=
  (x.sortCompare y).isLE ∧ (y.sortCompare z).isLE ∧ ¬(x.sortCompare z).isLE

/-- Between two scales something is lost on one of them. -/
theorem Scale.exists_loops {s t : Scale} (apart : s ≠ t) :
    Loops s.high t.low s.low ∨ Loops t.high s.low t.low := by
  unfold Loops
  cases s <;> cases t <;> first | exact absurd rfl apart | decide +kernel

/-- A value that is null or on one of some scales is so for more scales. -/
theorem IsOn.mono {scales others : Set Scale} {value : Value} (within : scales ⊆ others)
    (given : value.IsOn scales) : value.IsOn others := fun scale found => within (given scale found)

/-- Turned round, the order for sorting is reversed. It is transitive on the values of some scales
if and only if these are no two: between two scales it always loses something. -/
theorem sortCompare_trans_iff_subsingleton (scales : Set Scale) :
    (∀ x y : Value, y.sortCompare x = (x.sortCompare y).swap) ∧
    ((∀ x y z : Value, x.IsOn scales → y.IsOn scales → z.IsOn scales →
        (x.sortCompare y).isLE → (y.sortCompare z).isLE → (x.sortCompare z).isLE) ↔
      scales.Subsingleton) := by
  refine ⟨sortCompare_swap, fun transitive s hs t ht => ?_, fun single => ?_⟩
  · by_contra apart
    have low {scale : Scale} (given : scale ∈ scales) : scale.low.IsOn scales :=
      scale.isOn_low.mono (Set.singleton_subset_iff.mpr given)
    have high {scale : Scale} (given : scale ∈ scales) : scale.high.IsOn scales :=
      scale.isOn_high.mono (Set.singleton_subset_iff.mpr given)
    rcases Scale.exists_loops apart with ⟨first, second, behind⟩ | ⟨first, second, behind⟩
    · exact behind (transitive _ _ _ (high hs) (low ht) (low hs) first second)
    · exact behind (transitive _ _ _ (high ht) (low hs) (low ht) first second)
  · obtain ⟨scale, within⟩ : ∃ scale, scales ⊆ {scale} := by
      rcases single.eq_empty_or_singleton with rfl | ⟨scale, rfl⟩
      · exact ⟨.truth, Set.empty_subset _⟩
      · exact ⟨scale, subset_rfl⟩
    intro x y z left middle right first second
    exact sortCompare_trans (left.mono within) (middle.mono within) (right.mono within) first second

-- An integer is rounded when it is compared with a floating point number.
example : Loops (.integer 9007199254740993) (.float ⟨0x4340000000000000⟩)
    (.integer 9007199254740992) := by
  unfold Loops
  decide +kernel

end Value

end RecordQuery
