import RecordQuery.Calendar.Time

/-! # Dates and day numbers

Days are numbered without gaps: the number of a day determines its date, and within the years of the
calendar each number is that of a date. -/

namespace RecordQuery

namespace Calendar

/-! ## Years -/

/-- A year begins where the year before it ends. -/
theorem daysBeforeYear_succ (year : Int) :
    daysBeforeYear (year + 1) = daysBeforeYear year + daysInYear year := by
  have leap : isLeapYear year = true ↔ year % 4 = 0 ∧ (year % 100 ≠ 0 ∨ year % 400 = 0) := by
    simp [isLeapYear]
  unfold daysBeforeYear daysInYear
  split <;> simp_all <;> omega

theorem daysBeforeYear_mono {year other : Int} (le : year ≤ other) :
    daysBeforeYear year ≤ daysBeforeYear other := by
  unfold daysBeforeYear
  dsimp only
  omega

/-- A day belongs to the year that it is neither before nor behind. -/
theorem yearOfDay_spec (day : Int) :
    daysBeforeYear (yearOfDay day) ≤ day ∧ day < daysBeforeYear (yearOfDay day + 1) := by
  unfold yearOfDay daysBeforeYear
  dsimp only
  split
  · omega
  · split <;> omega

/-- A day from the beginning of a year on and before the next one is in that year. -/
theorem yearOfDay_eq {day year : Int} (behind : daysBeforeYear year ≤ day)
    (before : day < daysBeforeYear (year + 1)) : yearOfDay day = year := by
  obtain ⟨behindToo, beforeToo⟩ := yearOfDay_spec day
  rcases Int.lt_trichotomy (yearOfDay day) year with less | same | greater
  · have := daysBeforeYear_mono (Int.add_one_le_of_lt less)
    omega
  · exact same
  · have := daysBeforeYear_mono (Int.add_one_le_of_lt greater)
    omega

/-! ## Months -/

/-- A month begins where the month before it ends. -/
theorem daysBeforeMonth_succ (year : Int) {month : Nat} (positive : 1 ≤ month) :
    daysBeforeMonth year (month + 1) = daysBeforeMonth year month + daysInMonth year month := by
  obtain ⟨before, rfl⟩ := Nat.exists_eq_add_of_le' positive
  unfold daysBeforeMonth
  rw [Nat.add_sub_cancel, Nat.add_sub_cancel, List.range'_1_concat, List.foldl_append,
    Nat.add_comm 1 before]
  rfl

theorem daysBeforeMonth_mono (year : Int) {month other : Nat} (positive : 1 ≤ month)
    (le : month ≤ other) : daysBeforeMonth year month ≤ daysBeforeMonth year other := by
  induction le with
  | refl => exact Nat.le_refl _
  | step le ih =>
    rw [daysBeforeMonth_succ year (Nat.le_trans positive le)]
    exact Nat.le_add_right_of_le ih

/-- The months of a year take up the year. -/
theorem daysBeforeMonth_thirteen (year : Int) : daysBeforeMonth year 13 = daysInYear year := by
  unfold daysBeforeMonth daysInYear daysInMonth
  cases isLeapYear year <;> rfl

/-- A day of a year belongs to one of its months. -/
theorem exists_month {year : Int} {day : Nat} (positive : 0 < day) (le : day ≤ daysInYear year) :
    ∃ month, 1 ≤ month ∧ month ≤ 12 ∧ daysBeforeMonth year month < day ∧
      day ≤ daysBeforeMonth year month + daysInMonth year month := by
  have upTo (last : Nat) (within : day ≤ daysBeforeMonth year (last + 1)) :
      ∃ month, 1 ≤ month ∧ month ≤ last ∧ daysBeforeMonth year month < day ∧
        day ≤ daysBeforeMonth year month + daysInMonth year month := by
    induction last with
    | zero => exact absurd within (Nat.not_le.mpr positive)
    | succ last ih =>
      rcases Nat.lt_or_ge (daysBeforeMonth year (last + 1)) day with inLast | earlier
      · rw [daysBeforeMonth_succ year (Nat.le_add_left 1 last)] at within
        exact ⟨last + 1, Nat.le_add_left 1 last, Nat.le_refl _, inLast, within⟩
      · obtain ⟨month, isMonth, before, found⟩ := ih earlier
        exact ⟨month, isMonth, Nat.le_succ_of_le before, found⟩
  exact upTo 12 (by rwa [daysBeforeMonth_thirteen])

end Calendar

open Calendar

namespace Date

variable {d other : Date} {year : Int} {n : Nat}

/-- A year, a month and a day make a date exactly if it has them. -/
theorem ofYmd?_eq_some_iff {month day : Nat} : ofYmd? year month day = some d ↔
    d.year = year ∧ d.month = month ∧ d.day = day := by
  unfold ofYmd?
  constructor
  · intro made
    split at made
    · cases made
      exact ⟨rfl, rfl, rfl⟩
    · cases made
  · rintro ⟨rfl, rfl, rfl⟩
    exact dif_pos ⟨d.year_ge, d.year_le, d.month_ge, d.month_le, d.day_ge, d.day_le⟩

/-! ## Places in a year -/

theorem ordinal_pos (d : Date) : 0 < d.ordinal := Nat.add_pos_right _ d.day_ge

/-- Days in a year are counted up to the length of the year. -/
theorem ordinal_le (d : Date) : d.ordinal ≤ daysInYear d.year := by
  have inMonth := Nat.add_le_add_left d.day_le (daysBeforeMonth d.year d.month)
  rw [← daysBeforeMonth_succ d.year d.month_ge] at inMonth
  rw [← daysBeforeMonth_thirteen]
  exact Nat.le_trans inMonth
    (daysBeforeMonth_mono d.year (Nat.le_add_left 1 _) (Nat.succ_le_succ d.month_le))

/-- A date that is in an earlier month of a year is at an earlier place. -/
theorem ordinal_lt (sameYear : d.year = other.year) (earlier : d.month < other.month) :
    d.ordinal < other.ordinal := by
  have upTo := daysBeforeMonth_mono d.year (Nat.le_add_left 1 d.month) earlier
  rw [daysBeforeMonth_succ d.year d.month_ge] at upTo
  have dayLe := d.day_le
  have positive := other.day_ge
  unfold ordinal
  rw [← sameYear]
  omega

/-- A date is known by its year and its place in it. -/
theorem eq_of_ordinal (sameYear : d.year = other.year) (same : d.ordinal = other.ordinal) :
    d = other := by
  rcases Nat.lt_trichotomy d.month other.month with earlier | sameMonth | later
  · exact absurd same (Nat.ne_of_lt (ordinal_lt sameYear earlier))
  · have sameDay : d.day = other.day := by
      unfold ordinal at same
      rw [sameYear, sameMonth] at same
      exact Nat.add_left_cancel same
    cases d
    cases other
    cases sameYear
    cases sameMonth
    cases sameDay
    rfl
  · exact absurd same (Nat.ne_of_gt (ordinal_lt sameYear.symm later))

/-- What is made of a year and a place in it has that year and that place. -/
theorem of_ofOrdinal? (found : ofOrdinal? year n = some d) : d.year = year ∧ d.ordinal = n := by
  obtain ⟨month, _, made⟩ := List.exists_of_findSome?_eq_some found
  dsimp only at made
  split at made
  · obtain ⟨rfl, rfl, day⟩ := ofYmd?_eq_some_iff.mp made
    refine ⟨rfl, ?_⟩
    unfold ordinal
    omega
  · cases made

/-- The date at a place of a year is the one with this place. -/
theorem ofOrdinal?_eq_some_iff : ofOrdinal? year n = some d ↔ d.year = year ∧ d.ordinal = n := by
  refine ⟨of_ofOrdinal?, ?_⟩
  rintro ⟨rfl, rfl⟩
  have made : (fun month =>
      let before := daysBeforeMonth d.year month
      if before < d.ordinal ∧ d.ordinal ≤ before + daysInMonth d.year month then
        ofYmd? d.year month (d.ordinal - before)
      else none) d.month = some d := by
    have dayLe := d.day_le
    have positive := d.day_ge
    dsimp only
    rw [if_pos (by unfold ordinal; omega), ofYmd?_eq_some_iff]
    exact ⟨rfl, rfl, by unfold ordinal; omega⟩
  cases found : ofOrdinal? d.year d.ordinal with
  | none =>
    have isMonth : d.month ∈ List.range' 1 12 :=
      List.mem_range'_1.mpr ⟨d.month_ge, Nat.lt_add_one_of_le d.month_le⟩
    have none := List.findSome?_eq_none_iff.mp found d.month isMonth
    cases none.symm.trans made
  | some other =>
    obtain ⟨sameYear, same⟩ := of_ofOrdinal? found
    rw [eq_of_ordinal sameYear same]

/-! ## Day numbers -/

/-- The number of a day is among those of its year. -/
theorem dayNumber_mem (d : Date) :
    daysBeforeYear d.year ≤ d.dayNumber ∧ d.dayNumber < daysBeforeYear (d.year + 1) := by
  have positive := d.ordinal_pos
  have le := d.ordinal_le
  rw [daysBeforeYear_succ]
  unfold dayNumber
  omega

/-- The date of a day number is the one with this number. -/
theorem ofDayNumber?_eq_some_iff {day : Int} : ofDayNumber? day = some d ↔ d.dayNumber = day := by
  have behind := (yearOfDay_spec day).1
  have positive := d.ordinal_pos
  unfold ofDayNumber?
  dsimp only
  rw [ofOrdinal?_eq_some_iff]
  constructor
  · rintro ⟨sameYear, same⟩
    unfold dayNumber
    rw [sameYear]
    omega
  · rintro rfl
    obtain ⟨le, lt⟩ := d.dayNumber_mem
    rw [yearOfDay_eq le lt]
    refine ⟨rfl, ?_⟩
    unfold dayNumber
    omega

/-- Days of one number are the same day. -/
theorem eq_of_dayNumber (same : d.dayNumber = other.dayNumber) : d = other :=
  Option.some.inj <| (ofDayNumber?_eq_some_iff.mpr same).symm.trans
    (ofDayNumber?_eq_some_iff.mpr rfl)

/-- Each number of a day within the years of the calendar is that of a date. -/
theorem exists_dayNumber {day : Int} (behind : daysBeforeYear (-262143) ≤ day)
    (before : day < daysBeforeYear 262143) : ∃ d : Date, d.dayNumber = day := by
  obtain ⟨le, lt⟩ := yearOfDay_spec day
  have yearGe : -262143 ≤ yearOfDay day := Int.not_lt.mp fun early =>
    absurd (daysBeforeYear_mono (Int.add_one_le_of_lt early)) (by omega)
  have yearLt : yearOfDay day < 262143 := Int.not_le.mp fun late =>
    absurd (daysBeforeYear_mono late) (by omega)
  rw [daysBeforeYear_succ] at lt
  have inYear : (day - daysBeforeYear (yearOfDay day)).toNat + 1 ≤ daysInYear (yearOfDay day) := by
    omega
  obtain ⟨month, monthGe, monthLe, inMonth, inMonthToo⟩ := exists_month (Nat.succ_pos _) inYear
  have yearLe : yearOfDay day ≤ 262142 := Int.le_of_lt_add_one yearLt
  refine ⟨⟨yearOfDay day, month, _, yearGe, yearLe, monthGe, monthLe,
    Nat.sub_pos_of_lt inMonth, by omega⟩, ?_⟩
  unfold dayNumber ordinal
  dsimp only
  omega

end Date

end RecordQuery
