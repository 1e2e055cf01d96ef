import RecordQuery.Proofs.Calendar.Timestamp
import RecordQuery.Proofs.Compilation.Filter
import RecordQuery.Proofs.Value.Constraints

/-! # Dates of timestamps

A timestamp is compared with dates in two ways: as a text, and as the instant that an operator makes
of it. Both give the same date just if the written date is the one in UTC. -/

namespace RecordQuery

open Calendar

/-- The instant of a text, as a filter writes it. -/
def Filter.instant (text : String) : Filter := .call "date" [.literal (.string text)]

/-- The operator for instants makes a literal of the instant that a text stands for. -/
theorem Filter.operand_instant {text : String} {i : Instant}
    (read : Value.instantOfText? none (Text.trim text) = some i) (context : Context) :
    (Filter.instant text).operand .builtin context = .ok (.literal (.dateTime i), context) := by
  have args : operands .builtin [.literal (.string text)] context =
      .ok ([.literal (.string text)], context) := rfl
  have evaluated : Operator.date.evaluate "date" [.literal (.string text)] context =
      .ok (.literal (.dateTime i), context) := by
    simp only [Operator.date, Operator.unary, Operator.reader, Operand.toText, Fallible.ok_bind,
      read]
    rfl
  exact operand_call rfl rfl args evaluated

namespace Value

variable {d : Descriptor}

/-- What makes a date of a value coerces it as this date. -/
theorem coerce_eq_coerce_date (isDate : d.target = .date) (value : Value)
    (isSingle : value.IsSingle) {day : Date}
    (converted : value.toDate d.directives.datePattern = .ok day) :
    coerce d value = coerce d (.date day) := by
  have alone : (Value.date day).IsSingle := trivial
  rw [coerce_eq d isSingle, coerce_eq d alone, isDate, convert, convert, converted]
  rfl

/-- For a field of dates a date is converted to itself. -/
theorem eq_of_coerce_date (isDate : d.target = .date) {day : Date} {result : Value}
    (coerced : coerce d (.date day) = .ok result) : result = .date day := by
  have alone : (Value.date day).IsSingle := trivial
  obtain ⟨converted, _⟩ := (coerce_single_eq_ok_iff alone).mp coerced
  rw [isDate] at converted
  cases converted
  rfl

/-- A timestamp as a literal for a field of dates becomes the written date, and the instant of it
becomes the date in UTC. These are one date just if the instant is within the written date as a day
of UTC. -/
theorem coerce_timestamp_iff (isDate : d.target = .date) (plain : d.directives.datePattern = none)
    {text : String} {l : Local} (read : Local.ofText? text = some l) (context : Context) :
    ∃ i, Instant.ofRfc3339? text = some i ∧
      (Filter.instant text).operand .builtin context = .ok (.literal (.dateTime i), context) ∧
      coerce d (.string text) = coerce d (.date l.date) ∧
      coerce d (.dateTime i) = coerce d (.date i.date) ∧
      (i.date = l.date ↔ 0 ≤ l.secondsIn ∧ l.secondsIn < 86400) ∧
      ∀ result, coerce d (.dateTime i) = .ok result →
        (coerce d (.string text) = .ok result ↔ 0 ≤ l.secondsIn ∧ l.secondsIn < 86400) := by
  obtain ⟨i, made, day⟩ := Local.exists_instant read
  have trimmed := Local.trim_of_ofText? read
  have instant : Instant.ofRfc3339? text = some i := by rw [Instant.ofRfc3339?, read, ← made]; rfl
  have operand := Filter.operand_instant (i := i)
    (by rw [trimmed, instantOfText?, instant, Option.some_or]) context
  have ofText : coerce d (.string text) = coerce d (.date l.date) :=
    coerce_eq_coerce_date isDate (.string text) trivial <| by
      rw [plain, toDate, trimmed, Local.ofPattern?_of_ofText? read, read, Option.none_or,
        Option.map_some]
  have ofInstant : coerce d (.dateTime i) = coerce d (.date i.date) :=
    coerce_eq_coerce_date isDate (.dateTime i) trivial rfl
  have sameDate := Local.date_eq_iff day
  refine ⟨i, instant, operand, ofText, ofInstant, sameDate, fun result coerced => ?_⟩
  rw [← sameDate, ofText]
  rw [ofInstant] at coerced
  constructor
  · intro coercedToo
    have same := (eq_of_coerce_date isDate coerced).symm.trans (eq_of_coerce_date isDate coercedToo)
    exact Value.date.inj same
  · intro same
    rwa [← same]

end Value

namespace Sample

/-- The day as it is written. -/
def ninthOfJune : Date where
  year := 2024
  month := 6
  day := 9
  year_ge := by decide
  year_le := by decide
  month_ge := by decide
  month_le := by decide
  day_ge := by decide
  day_le := by decide

/-- The day in UTC. -/
def tenthOfJune : Date := { ninthOfJune with day := 10, day_ge := by decide, day_le := by decide }

/-- Half past eleven in the evening, two hours behind UTC. -/
def evening : Local where
  date := ninthOfJune
  time := { TimeOfDay.midnight with seconds := 84600, seconds_lt := by decide }
  offset := -7200

def events : Schema where
  entities := [{ name := "Event", fields := [⟨"day", .scalar .date, some {}, false⟩] }]
  names_nodup := by decide

def day : Descriptor := ⟨[], ⟨"day", "Event", .attr⟩, .scalar .date, {}⟩

def eventFields : Metadata := ⟨"Event", [("day", day)]⟩

theorem ofText?_evening : Local.ofText? "2024-06-09T23:30:00-02:00" = some evening := by
  decide +kernel

end Sample

namespace Value

open Sample

/-- An evening of which the next day has begun in UTC is on two days. -/
theorem coerce_timestamp_evening :
    (events.validate = .ok () ∧ Metadata.discover events 3 "Event" = .ok eventFields) ∧
    ∃ i, (Filter.instant "2024-06-09T23:30:00-02:00").operand .builtin
        { schema := events, metadata := eventFields } =
          .ok (.literal (.dateTime i), { schema := events, metadata := eventFields }) ∧
      coerce day (.string "2024-06-09T23:30:00-02:00") = .ok (.date ninthOfJune) ∧
      coerce day (.dateTime i) = .ok (.date tenthOfJune) := by
  obtain ⟨i, instant, operand, ofText, ofInstant, _⟩ :=
    coerce_timestamp_iff (d := day) rfl rfl ofText?_evening
      { schema := events, metadata := eventFields }
  have tenth : Instant.ofRfc3339? "2024-06-09T23:30:00-02:00" =
      some ⟨tenthOfJune, ⟨5400, 0, by decide, by decide⟩⟩ := by
    decide +kernel
  cases instant.symm.trans tenth
  exact ⟨⟨by decide +kernel, by cbv⟩, _, operand, ofText.trans rfl, ofInstant.trans rfl⟩

end Value

end RecordQuery
