import Mathlib.Data.Nat.Bitwise
import RecordQuery.Regex.Basic

/-! # Spans of regular expressions

What an expression matches is a relation between the positions where a match begins and ends. The
matcher carries sets of positions through the expression; a position is in the set that it ends with
if a match from one of the first set ends there. -/

namespace RecordQuery.Regex

/-- A relation holds a number of times in a row. -/
def Times (step : Nat → Nat → Prop) : Nat → Nat → Nat → Prop
  | 0, i, k => i = k
  | n + 1, i, k => ∃ j, step i j ∧ Times step n j k

/-- The expression matches the part of a text between two positions. -/
def Spans (text : List Char) : Regex → Nat → Nat → Prop
  | empty, i, j => i = j
  | literal cs, i, j => cs <+: text.drop i ∧ j = i + cs.length
  | chars ranges, i, j =>
    (∃ c, text[i]? = some c ∧ Text.Case.inRanges ranges c.toNat = true) ∧ j = i + 1
  | assertion condition, i, j =>
    i ≤ text.length ∧ condition.holds (before? text.toArray i) text[i]? = true ∧ i = j
  | seq first rest, i, k => ∃ j, Spans text first i j ∧ Spans text rest j k
  | alt first rest, i, j => Spans text first i j ∨ Spans text rest i j
  | group inner, i, j => Spans text inner i j
  | repetition inner least most, i, j =>
    ∃ extra, (∀ n, most = some n → extra ≤ n - least) ∧
      Times (Spans text inner) (least + extra) i j

/-! ## Repeated steps -/

section Steps

variable {step : Nat → Nat → Prop}

/-- So many steps and so many further ones meet at a place between them. -/
theorem times_add_iff {m n i k : Nat} :
    Times step (m + n) i k ↔ ∃ j, Times step m i j ∧ Times step n j k := by
  induction m generalizing i with
  | zero => simp [Times]
  | succ m ih =>
    rw [Nat.succ_add]
    constructor
    · rintro ⟨next, first, rest⟩
      obtain ⟨j, before, after⟩ := ih.mp rest
      exact ⟨j, ⟨next, first, before⟩, after⟩
    · rintro ⟨j, ⟨next, first, before⟩, after⟩
      exact ⟨next, first, ih.mpr ⟨j, before, after⟩⟩

/-- The step leads from positions up to a bound to positions behind them up to the bound. -/
def Forward (step : Nat → Nat → Prop) (bound : Nat) : Prop :=
  ∀ {i j}, i ≤ bound → step i j → i ≤ j ∧ j ≤ bound

/-- Repeated steps lead forward, too. -/
theorem Forward.times {bound : Nat} (forward : Forward step bound) {n i k : Nat}
    (within : i ≤ bound) (times : Times step n i k) : i ≤ k ∧ k ≤ bound := by
  induction n generalizing i with
  | zero =>
    obtain rfl : i = k := times
    exact ⟨Nat.le_refl i, within⟩
  | succ n ih =>
    obtain ⟨j, first, rest⟩ := times
    obtain ⟨further, inside⟩ := forward within first
    obtain ⟨onward, ends⟩ := ih inside rest
    exact ⟨Nat.le_trans further onward, ends⟩

/-- Steps that stay where they are can be left out, so that no more are needed than there are
positions to pass. -/
theorem Forward.exists_few {bound : Nat} (forward : Forward step bound) {n i k : Nat}
    (within : i ≤ bound) (times : Times step n i k) : ∃ few, few ≤ k - i ∧ Times step few i k := by
  induction n generalizing i with
  | zero => exact ⟨0, Nat.zero_le _, times⟩
  | succ n ih =>
    obtain ⟨j, first, rest⟩ := times
    obtain ⟨further, inside⟩ := forward within first
    obtain ⟨few, fewer, steps⟩ := ih inside rest
    have ends := (forward.times inside rest).1
    by_cases stays : i = j
    · subst stays
      exact ⟨few, fewer, steps⟩
    · exact ⟨few + 1, by omega, j, first, steps⟩

end Steps

/-! ## Sets of positions -/

/-- A set of positions has those below the bound that have the property. -/
theorem testBit_positions (bound : Nat) (property : Nat → Bool) (i : Nat) :
    (positions bound property).testBit i = (decide (i < bound) && property i) := by
  induction bound with
  | zero => simp [positions]
  | succ n ih =>
    rw [positions, Nat.testBit_or, ih]
    by_cases here : i = n
    · subst here
      cases property i <;> simp
    · have other : (if property n = true then 1 <<< n else 0).testBit i = false := by
        split
        · simp [Nat.one_shiftLeft, Ne.symm here]
        · exact Nat.zero_testBit i
      have same : (decide (i < n + 1)) = decide (i < n) := by
        simp only [decide_eq_decide]
        omega
      rw [other, Bool.or_false, same]

/-- The positions of a set are within a bound. -/
def Within (bound : Nat) (set : Nat) : Prop := ∀ i, set.testBit i = true → i ≤ bound

/-- The function takes a set of positions to the positions that a step leads to from it. -/
def Carries (bound : Nat) (step : Nat → Nat → Prop) (f : Nat → Nat) : Prop :=
  ∀ {set : Nat}, Within bound set → ∀ j, (f set).testBit j = true ↔
    ∃ i, set.testBit i = true ∧ step i j

section Carrying

variable {bound : Nat} {step : Nat → Nat → Prop} {f : Nat → Nat}

/-- Steps forward lead from positions within the bound to such positions. -/
theorem Carries.within (carries : Carries bound step f) (forward : Forward step bound) {set : Nat}
    (within : Within bound set) : Within bound (f set) := by
  intro j reached
  obtain ⟨i, started, goes⟩ := (carries within j).mp reached
  exact (forward (within i started) goes).2

/-- No number of steps leads out of a set that one step does not lead out of. -/
theorem stays_of_times {set : Nat}
    (closed : ∀ {i j}, set.testBit i = true → step i j → set.testBit j = true) {n i k : Nat}
    (started : set.testBit i = true) (steps : Times step n i k) : set.testBit k = true := by
  induction n generalizing i with
  | zero =>
    obtain rfl : i = k := steps
    exact started
  | succ n ih =>
    obtain ⟨j, first, rest⟩ := steps
    exact ih (closed started first) rest

/-- From a set that a step leads back to exactly, it leads there however often. -/
theorem Carries.times_fixed (carries : Carries bound step f) {set : Nat} (within : Within bound set)
    (fixed : f set = set) (n k : Nat) :
    (∃ i, set.testBit i = true ∧ Times step n i k) ↔ set.testBit k = true := by
  have leads : ∀ j, set.testBit j = true ↔ ∃ i, set.testBit i = true ∧ step i j := by
    intro j
    rw [← carries within j, fixed]
  constructor
  · rintro ⟨i, started, steps⟩
    exact stays_of_times (fun started goes => (leads _).mpr ⟨_, started, goes⟩) started steps
  · intro reached
    induction n generalizing k with
    | zero => exact ⟨k, reached, rfl⟩
    | succ n ih =>
      obtain ⟨j, before, last⟩ := (leads k).mp reached
      obtain ⟨i, started, steps⟩ := ih j before
      exact ⟨i, started, times_add_iff.mpr ⟨j, steps, k, last, rfl⟩⟩

/-- Carrying a set on repeatedly takes it along repeated steps. -/
theorem Carries.iterate (carries : Carries bound step f) (forward : Forward step bound) (n : Nat) :
    Carries bound (Times step n) (Regex.iterate f n) := by
  intro set within k
  induction n generalizing set with
  | zero => simp [Regex.iterate, Times]
  | succ n ih =>
    rw [Regex.iterate]
    split
    · rename_i fixed
      exact (carries.times_fixed within fixed (n + 1) k).symm
    · rw [ih (carries.within forward within)]
      constructor
      · rintro ⟨j, reached, rest⟩
        obtain ⟨i, started, first⟩ := (carries within j).mp reached
        exact ⟨i, started, j, first, rest⟩
      · rintro ⟨i, started, j, first, rest⟩
        exact ⟨j, (carries within j).mpr ⟨i, started, first⟩, rest⟩

/-- The closure of a set has the positions that are reached by at most so many steps. -/
theorem Carries.closure (carries : Carries bound step f) (forward : Forward step bound) (n : Nat) :
    Carries bound (fun i k => ∃ extra, extra ≤ n ∧ Times step extra i k) (Regex.closure f n) := by
  intro set within k
  induction n generalizing set with
  | zero => simp [Regex.closure, Times]
  | succ n ih =>
    have joined : ∀ j, (set ||| f set).testBit j = true ↔
        set.testBit j = true ∨ ∃ i, set.testBit i = true ∧ step i j := by
      intro j
      rw [Nat.testBit_or, Bool.or_eq_true, carries within]
    have within' : Within bound (set ||| f set) := by
      intro j reached
      rcases (joined j).mp reached with started | ⟨i, started, goes⟩
      · exact within j started
      · exact (forward (within i started) goes).2
    rw [Regex.closure]
    split
    · rename_i fixed
      -- A round that adds nothing is the last one: no step leads out of the set.
      have closed {i j : Nat} (started : set.testBit i = true) (goes : step i j) :
          set.testBit j = true := by
        rw [← fixed, joined]
        exact .inr ⟨i, started, goes⟩
      constructor
      · intro started
        exact ⟨k, started, 0, Nat.zero_le _, rfl⟩
      · rintro ⟨i, started, extra, _, steps⟩
        exact stays_of_times closed started steps
    · rw [ih within']
      constructor
      · rintro ⟨j, reached, extra, few, steps⟩
        rcases (joined j).mp reached with started | ⟨i, started, first⟩
        · exact ⟨j, started, extra, by omega, steps⟩
        · exact ⟨i, started, extra + 1, by omega, j, first, steps⟩
      · rintro ⟨i, started, extra, few, steps⟩
        cases extra with
        | zero => exact ⟨i, (joined i).mpr (.inl started), 0, Nat.zero_le _, steps⟩
        | succ extra =>
          obtain ⟨j, first, rest⟩ := steps
          exact ⟨j, (joined j).mpr (.inr ⟨i, started, first⟩), extra, by omega, rest⟩

end Carrying

/-! ## The matcher -/

/-- Characters with a property begin at the positions where the text has such a character. -/
theorem testBit_charPositions (text : List Char) (property : Char → Bool) (i : Nat) :
    (charPositions text.toArray property).testBit i = true ↔
      ∃ c, text[i]? = some c ∧ property c = true := by
  rw [charPositions, testBit_positions, Bool.and_eq_true, decide_eq_true_eq]
  simp only [List.size_toArray, List.getElem?_toArray]
  constructor
  · rintro ⟨_, holds⟩
    cases here : text[i]? with
    | none => simp [here] at holds
    | some c => exact ⟨c, rfl, by simpa [here] using holds⟩
  · rintro ⟨c, here, holds⟩
    obtain ⟨inside, _⟩ := List.getElem?_eq_some_iff.mp here
    exact ⟨inside, by simpa [here] using holds⟩

/-- An assertion holds at the positions whose neighbours fulfil its condition. -/
theorem testBit_assertionPositions (text : List Char) (condition : Assertion) (i : Nat) :
    (assertionPositions text.toArray condition).testBit i = true ↔
      i ≤ text.length ∧ condition.holds (before? text.toArray i) text[i]? = true := by
  rw [assertionPositions, testBit_positions, Bool.and_eq_true, decide_eq_true_eq]
  simp only [List.size_toArray, List.getElem?_toArray, Nat.lt_succ_iff]

/-- The positions behind those of a set that have a character with a property. -/
theorem testBit_behind (text : List Char) (property : Char → Bool) (set j : Nat) :
    ((set &&& charPositions text.toArray property) <<< 1).testBit j = true ↔
      ∃ i, set.testBit i = true ∧ (∃ c, text[i]? = some c ∧ property c = true) ∧ j = i + 1 := by
  rw [Nat.testBit_shiftLeft, Bool.and_eq_true, decide_eq_true_eq, Nat.testBit_and,
    Bool.and_eq_true, testBit_charPositions]
  constructor
  · rintro ⟨behind, started, here⟩
    exact ⟨j - 1, started, here, by omega⟩
  · rintro ⟨i, started, here, rfl⟩
    exact ⟨by omega, started, here⟩

/-- A text stands at a position if its first character does and the others stand at the next one. -/
theorem cons_isPrefix_drop_iff {text cs : List Char} {c : Char} {i : Nat} :
    c :: cs <+: text.drop i ↔ text[i]? = some c ∧ cs <+: text.drop (i + 1) := by
  rw [← List.tail_drop, ← List.head?_drop]
  cases text.drop i with
  | nil => simp
  | cons d rest =>
    rw [List.cons_prefix_cons, List.head?_cons, List.tail_cons, Option.some.injEq, eq_comm]

/-- One character after the other, the text goes on with the given ones. -/
theorem testBit_foldl_literal (text cs : List Char) (set k : Nat) :
    (cs.foldl (fun starts c => (starts &&& charPositions text.toArray (· == c)) <<< 1)
      set).testBit k = true ↔
        ∃ i, set.testBit i = true ∧ cs <+: text.drop i ∧ k = i + cs.length := by
  induction cs generalizing set with
  | nil => simp
  | cons c cs ih =>
    rw [List.foldl_cons, ih]
    constructor
    · rintro ⟨j, reached, further, rfl⟩
      obtain ⟨i, started, ⟨d, here, same⟩, rfl⟩ := (testBit_behind text _ set j).mp reached
      obtain rfl : d = c := by simpa using same
      exact ⟨i, started, cons_isPrefix_drop_iff.mpr ⟨here, further⟩, by simp; omega⟩
    · rintro ⟨i, started, further, rfl⟩
      obtain ⟨here, further⟩ := cons_isPrefix_drop_iff.mp further
      refine ⟨i + 1, (testBit_behind text _ set _).mpr ?_, further, by simp; omega⟩
      exact ⟨i, started, ⟨c, here, beq_self_eq_true c⟩, rfl⟩

/-- Matches lead forward within the text. -/
theorem spans_forward (regex : Regex) (text : List Char) :
    Forward (Spans text regex) text.length := by
  induction regex with
  | empty =>
    intro i j within spans
    obtain rfl : i = j := spans
    exact ⟨Nat.le_refl i, within⟩
  | literal cs =>
    rintro i j within ⟨further, rfl⟩
    have length := further.length_le
    rw [List.length_drop] at length
    omega
  | chars ranges =>
    rintro i j within ⟨⟨c, here, _⟩, rfl⟩
    have inside := (List.getElem?_eq_some_iff.mp here).1
    omega
  | assertion condition =>
    rintro i j within ⟨_, _, rfl⟩
    exact ⟨Nat.le_refl i, within⟩
  | seq first rest ihFirst ihRest =>
    rintro i k within ⟨j, before, after⟩
    obtain ⟨further, inside⟩ := ihFirst within before
    obtain ⟨onward, ends⟩ := ihRest inside after
    exact ⟨Nat.le_trans further onward, ends⟩
  | alt first rest ihFirst ihRest =>
    rintro i j within (spans | spans)
    · exact ihFirst within spans
    · exact ihRest within spans
  | group inner ih => exact ih
  | repetition inner least most ih =>
    rintro i j within ⟨extra, _, steps⟩
    exact Forward.times ih within steps

/-- Without a bound, as many further matches are looked for as the text may have. -/
theorem carries_repetition {text : List Char} {inner : Regex} {f : Nat → Nat}
    (carries : Carries text.length (Spans text inner) f) (least : Nat) (most : Option Nat) :
    Carries text.length (Spans text (repetition inner least most)) fun set =>
      Regex.closure f ((most.map (· - least)).getD (text.length + 1))
        (Regex.iterate f least set) := by
  have forward : Forward (Spans text inner) text.length := spans_forward inner text
  intro set within k
  have first : Carries text.length (Times (Spans text inner) least) (Regex.iterate f least) :=
    carries.iterate forward least
  have within' : Within text.length (Regex.iterate f least set) :=
    first.within forward.times within
  rw [carries.closure forward _ within']
  constructor
  · rintro ⟨j, reached, extra, few, steps⟩
    obtain ⟨i, started, before⟩ := (first within j).mp reached
    refine ⟨i, started, extra, ?_, times_add_iff.mpr ⟨j, before, steps⟩⟩
    rintro n rfl
    exact few
  · rintro ⟨i, started, extra, bounded, steps⟩
    obtain ⟨j, before, after⟩ := times_add_iff.mp steps
    have inside := (forward.times (within i started) before).2
    refine ⟨j, (first within j).mpr ⟨i, started, before⟩, ?_⟩
    cases most with
    | some n => exact ⟨extra, bounded n rfl, after⟩
    -- Rounds that do not move forward can be left out, so that the text bounds their number.
    | none =>
      obtain ⟨few, fewer, steps⟩ := forward.exists_few inside after
      have ends := (forward.times inside after).2
      exact ⟨few, by simp; omega, steps⟩

/-- The matcher leads from a set of positions to those where matches from there end. -/
theorem ends_carries (regex : Regex) (text : List Char) :
    Carries text.length (Spans text regex) (ends text.toArray regex) := by
  induction regex with
  | empty =>
    intro set within j
    simp [ends, Spans]
  | literal cs =>
    intro set within j
    exact testBit_foldl_literal text cs set j
  | chars ranges =>
    intro set within j
    exact testBit_behind text (fun c => Text.Case.inRanges ranges c.toNat) set j
  | assertion condition =>
    intro set within j
    rw [ends, Nat.testBit_and, Bool.and_eq_true, testBit_assertionPositions]
    constructor
    · rintro ⟨started, inside, holds⟩
      exact ⟨j, started, inside, holds, rfl⟩
    · rintro ⟨i, started, inside, holds, rfl⟩
      exact ⟨started, inside, holds⟩
  | seq first rest ihFirst ihRest =>
    intro set within k
    rw [ends, ihRest (ihFirst.within (spans_forward first text) within)]
    constructor
    · rintro ⟨j, reached, spans⟩
      obtain ⟨i, started, before⟩ := (ihFirst within j).mp reached
      exact ⟨i, started, j, before, spans⟩
    · rintro ⟨i, started, j, before, spans⟩
      exact ⟨j, (ihFirst within j).mpr ⟨i, started, before⟩, spans⟩
  | alt first rest ihFirst ihRest =>
    intro set within j
    rw [ends, Nat.testBit_or, Bool.or_eq_true, ihFirst within, ihRest within]
    simp only [Spans, and_or_left, exists_or]
  | group inner ih => exact ih
  | repetition inner least most ih => exact carries_repetition ih least most

/-- The search finds out whether some part of a text is matched. -/
theorem isMatch_iff {regex : Regex} {text : String} :
    regex.isMatch text = true ↔
      ∃ i j, i ≤ text.toList.length ∧ Spans text.toList regex i j := by
  have everywhere (i : Nat) : (2 ^ (text.toList.length + 1) - 1).testBit i = true ↔
      i ≤ text.toList.length := by
    rw [Nat.testBit_two_pow_sub_one, decide_eq_true_eq, Nat.lt_succ_iff]
  have within : Within text.toList.length (2 ^ (text.toList.length + 1) - 1) :=
    fun i started => (everywhere i).mp started
  have ended := ends_carries regex text.toList within
  have found : regex.isMatch text = true ↔
      ends text.toList.toArray regex (2 ^ (text.toList.length + 1) - 1) ≠ 0 := by
    rw [isMatch, bne_iff_ne]
    rfl
  rw [found]
  constructor
  · intro some
    obtain ⟨j, reached⟩ := Nat.exists_testBit_of_ne_zero some
    obtain ⟨i, started, spans⟩ := (ended j).mp reached
    exact ⟨i, j, within i started, spans⟩
  · rintro ⟨i, j, inside, spans⟩ none
    have reached := (ended j).mpr ⟨i, (everywhere i).mpr inside, spans⟩
    rw [none, Nat.zero_testBit] at reached
    cases reached

end RecordQuery.Regex
