import RecordQuery.Calendar.Reader
import RecordQuery.Proofs.Calendar.DayNumber
import RecordQuery.Proofs.Period

/-! # Reading timestamps

A text in the form of RFC 3339 is a date in full width with a time and an offset behind it. It has
no blanks around it, it is no date on its own, and it stands for an instant whose day in UTC is the
written one or next to it. -/

namespace RecordQuery

namespace Text

/-- A text between two characters that are not blank has no blanks to drop. -/
theorem trimChars_of_ends {cs : List Char} (starts : ∃ c, cs.head? = some c ∧ isBlank c = false)
    (ends : ∃ c, cs.getLast? = some c ∧ isBlank c = false) : trimChars cs = cs := by
  have kept {cs : List Char} (starts : ∃ c, cs.head? = some c ∧ isBlank c = false) :
      trimStart cs = cs := by
    obtain ⟨c, head, plain⟩ := starts
    obtain ⟨rest, rfl⟩ := List.head?_eq_some_iff.mp head
    exact List.dropWhile_cons_of_neg (Bool.eq_false_iff.mp plain)
  unfold trimChars trimEnd
  rw [kept starts, kept (by rwa [List.head?_reverse]), List.reverse_reverse]

end Text

namespace Calendar

open Text

variable {cs rest : List Char}

/-! ## Numbers of one width -/

/-- A reader takes this many digits from the front of a text. -/
def TakesDigits (width : Nat) (cs rest : List Char) : Prop :=
  ∃ digits, digits.length = width ∧ (∀ c ∈ digits, c.isDigit = true) ∧ cs = digits ++ rest

/-- Reading a number of one width takes so many digits. -/
theorem takesDigits_of_readNumber? {width : Nat} {n : Int}
    (read : readNumber? width width cs = some (n, rest)) : TakesDigits width cs rest := by
  unfold readNumber? at read
  dsimp only at read
  split at read
  · rename_i inRange
    cases read
    have most : ((cs.take width).takeWhile Char.isDigit).length ≤ width :=
      Nat.le_trans (List.takeWhile_sublist _).length_le (List.length_take_le _ _)
    have front := (List.takeWhile_prefix Char.isDigit).trans (List.take_prefix width cs)
    refine ⟨_, Nat.le_antisymm most inRange.1, List.all_eq_true.mp List.all_takeWhile, ?_⟩
    exact (List.prefix_iff_eq_append.mp front).symm
  · cases read

/-- A number of one width within bounds is a number of that width, and it is within the bounds. -/
theorem readExact?_eq_some {width low high n : Nat}
    (read : readExact? width low high cs = some (n, rest)) :
    readNumber? width width cs = some ((n : Int), rest) ∧ low ≤ n ∧ n ≤ high := by
  obtain ⟨⟨m, rest'⟩, number, within⟩ := Option.bind_eq_some_iff.mp read
  dsimp only at within
  split at within
  · rename_i inRange
    cases within
    have m_nonneg : (m.toNat : Int) = m := Int.toNat_of_nonneg (by omega)
    rw [m_nonneg]
    exact ⟨number, by omega, by omega⟩
  · cases within

/-- Where a number of one width is read, fewer digits would have been enough. -/
theorem readNumber?_of_exact {least width : Nat} {n : Int} (le : least ≤ width)
    (read : readNumber? width width cs = some (n, rest)) :
    readNumber? least width cs = some (n, rest) := by
  unfold readNumber? at read ⊢
  dsimp only at read ⊢
  split at read
  · rename_i inRange
    rw [if_pos ⟨Nat.le_trans le inRange.1, inRange.2⟩, read]
  · cases read

/-- What is read in one width is also read where the width is only a bound. -/
theorem readWithin?_of_readExact? {width low high n : Nat} (positive : 1 ≤ width)
    (read : readExact? width low high cs = some (n, rest)) :
    readWithin? width low high cs = some (n, rest) := by
  obtain ⟨number, least, most⟩ := readExact?_eq_some read
  exact Option.bind_eq_some_iff.mpr ⟨(n, rest), readNumber?_of_exact positive number,
    if_pos ⟨Int.ofNat_le.mpr least, Int.ofNat_le.mpr most⟩⟩

/-- Digits that are taken begin with a digit. -/
theorem TakesDigits.exists_head {width : Nat} (takes : TakesDigits (width + 1) cs rest) :
    ∃ c tail, cs = c :: tail ∧ c.isDigit = true := by
  obtain ⟨digits, length, each, rfl⟩ := takes
  obtain ⟨c, tail, rfl⟩ := List.exists_cons_of_length_eq_add_one length
  exact ⟨c, tail ++ rest, rfl, each c List.mem_cons_self⟩

/-- There are no blanks in front of digits. -/
theorem TakesDigits.trimStart_eq {width : Nat} (takes : TakesDigits (width + 1) cs rest) :
    trimStart cs = cs := by
  obtain ⟨c, tail, rfl, digit⟩ := takes.exists_head
  exact List.dropWhile_cons_of_neg (Bool.eq_false_iff.mp (isBlank_of_isDigit digit))

/-- Four digits are read as the year that they are. -/
theorem readYear?_of_readExact? {n : Nat} (read : readExact? 4 0 9999 cs = some (n, rest)) :
    readYear? cs = some ((n : Int), rest) := by
  obtain ⟨number, _, most⟩ := readExact?_eq_some read
  obtain ⟨c, tail, rfl, digit⟩ := (takesDigits_of_readNumber? number).exists_head
  unfold readYear?
  -- The first character is a digit, so the year has no sign.
  split
  · rename_i signed
    cases signed
    cases digit
  · rename_i signed
    cases signed
    cases digit
  · exact Option.bind_eq_some_iff.mpr ⟨((n : Int), rest), readNumber?_of_exact (by decide) number,
      if_pos (by omega)⟩

/-! ## Dates written in full -/

/-- A character is dropped exactly from what begins with it. -/
theorem dropChar_eq_some_iff {c : Char} : dropChar c cs = some rest ↔ cs = c :: rest := by
  cases cs with
  | nil => simp [dropChar]
  | cons d tail =>
    rw [dropChar]
    split <;> simp_all

/-- A text starts with a date in full width, of a year from 0 to 9999. -/
inductive StartsWith (d : Date) (cs rest : List Char) : Prop where
  | intro {year month day : Nat} {afterYear afterMonth : List Char}
      (readYear : readExact? 4 0 9999 cs = some (year, '-' :: afterYear))
      (readMonth : readExact? 2 1 12 afterYear = some (month, '-' :: afterMonth))
      (readDay : readExact? 2 1 31 afterMonth = some (day, rest))
      (made : Date.ofYmd? year month day = some d)

namespace StartsWith

variable {d : Date}

/-- A date in front of a text has a year of four digits. -/
theorem year_mem (starts : StartsWith d cs rest) : 0 ≤ d.year ∧ d.year ≤ 9999 := by
  obtain ⟨readYear, _, _, made⟩ := starts
  obtain ⟨_, _, most⟩ := readExact?_eq_some readYear
  rw [(Date.ofYmd?_eq_some_iff.mp made).1]
  omega

/-- A date in front of a text is read by the pattern for dates. -/
theorem readItems (starts : StartsWith d cs rest) : ∃ f,
    readItems? (patternItems "%Y-%m-%d") cs {} = some (f, rest) := by
  obtain ⟨readYear, readMonth, readDay, made⟩ := starts
  have items : patternItems "%Y-%m-%d" = [.numeric .year .zero, .literal ['-'],
      .numeric .month .zero, .literal ['-'], .numeric .day .zero] := by
    simp [patternItems, Item.ofPattern, Item.ofDirective, Item.ofSpecifier, Item.ofLetter,
      Item.zeroPadded, Item.isPlain, isBlank]
  have plainYear := (takesDigits_of_readNumber? (readExact?_eq_some readYear).1).trimStart_eq
  have plainMonth := (takesDigits_of_readNumber? (readExact?_eq_some readMonth).1).trimStart_eq
  have plainDay := (takesDigits_of_readNumber? (readExact?_eq_some readDay).1).trimStart_eq
  simp [items, readItems?, readItem?, readNumeric?, plainYear, plainMonth, plainDay,
    readYear?_of_readExact? readYear, readWithin?_of_readExact? (by decide) readMonth,
    readWithin?_of_readExact? (by decide) readDay, agree]

end StartsWith

/-! ## Ends of texts -/

/-- The last character of a text is not blank. -/
def EndsPlain (cs : List Char) : Prop := ∃ c, cs.getLast? = some c ∧ isBlank c = false

/-- What is in front of a plain end has a plain end itself. -/
theorem EndsPlain.of_suffix (ends : EndsPlain rest) (suffix : rest <:+ cs) : EndsPlain cs := by
  obtain ⟨c, last, plain⟩ := ends
  obtain ⟨front, rfl⟩ := suffix
  refine ⟨c, ?_, plain⟩
  rw [List.getLast?_append, last, Option.some_or]

theorem EndsPlain.ne_nil (ends : EndsPlain cs) : cs ≠ [] := by
  rintro rfl
  obtain ⟨c, last, _⟩ := ends
  cases last

theorem TakesDigits.suffix {width : Nat} (takes : TakesDigits width cs rest) : rest <:+ cs := by
  obtain ⟨digits, _, _, rfl⟩ := takes
  exact List.suffix_append digits rest

/-- A text of digits has a plain end. -/
theorem TakesDigits.endsPlain {width : Nat} (takes : TakesDigits (width + 1) cs []) :
    EndsPlain cs := by
  obtain ⟨digits, length, each, rfl⟩ := takes
  obtain ⟨c, last⟩ : ∃ c, digits.getLast? = some c :=
    ⟨_, List.getLast?_eq_some_getLast (List.ne_nil_of_length_eq_add_one length)⟩
  rw [List.append_nil]
  exact ⟨c, last, isBlank_of_isDigit (each c (List.mem_of_getLast? last))⟩

theorem suffix_of_readExact? {width low high n : Nat}
    (read : readExact? width low high cs = some (n, rest)) : rest <:+ cs :=
  (takesDigits_of_readNumber? (readExact?_eq_some read).1).suffix

theorem suffix_of_dropChar {c : Char} (dropped : dropChar c cs = some rest) : rest <:+ cs := by
  obtain rfl := dropChar_eq_some_iff.mp dropped
  exact List.suffix_cons c rest

theorem suffix_of_readFraction? {nanos : Nat} (read : readFraction? cs = some (nanos, rest)) :
    rest <:+ cs := by
  unfold readFraction? at read
  dsimp only at read
  split at read
  · cases read
  · cases read
    exact List.dropWhile_suffix _

/-- What is read behind an optional fraction is read from some end of the text. -/
theorem of_optional_fraction {α : Type} {next : Nat × List Char → Option α} {result : α}
    (read : (match cs with
      | '.' :: rest => (readFraction? rest).bind next
      | cs => (some (0, cs)).bind next) = some result) :
    ∃ nanos rest, rest <:+ cs ∧ next (nanos, rest) = some result := by
  split at read
  · obtain ⟨⟨nanos, rest⟩, readFraction, read⟩ := Option.bind_eq_some_iff.mp read
    exact ⟨nanos, rest, (suffix_of_readFraction? readFraction).trans (List.suffix_cons _ _), read⟩
  · exact ⟨0, cs, List.suffix_refl cs, read⟩

/-- An offset from UTC ends in a letter or a digit. -/
theorem endsPlain_of_readOffset? {text : List Char} {offset : Int}
    (read : readOffset? (dropChar ':') true false text = some (offset, [])) : EndsPlain text := by
  unfold readOffset? at read
  dsimp only at read
  split at read
  · cases read
    exact ⟨'Z', rfl, rfl⟩
  · cases read
    exact ⟨'z', rfl, rfl⟩
  · rename_i text _ _ _ _
    simp only [Option.bind_eq_bind, Option.bind_eq_some_iff, Prod.exists] at read
    obtain ⟨_, afterSign, signed, _, afterHours, readHours, afterColon, dropped, read⟩ := read
    have behindSign : afterSign <:+ text := by
      split at signed <;> cases signed <;> exact List.suffix_cons _ _
    have behindColon : afterColon <:+ text := (suffix_of_dropChar dropped).trans <|
      (takesDigits_of_readNumber? readHours).suffix.trans behindSign
    split at read
    · cases read
    · obtain ⟨⟨minutes, rest⟩, readMinutes, read⟩ := Option.bind_eq_some_iff.mp read
      dsimp only at read
      split at read
      · cases read
      · cases read
        exact (takesDigits_of_readNumber? readMinutes).endsPlain.of_suffix behindColon

/-- The parts of a timestamp: a date, and a time and an offset of less than a day behind it. -/
theorem of_ofText? {text : String} {l : Local} (read : Local.ofText? text = some l) :
    ∃ rest, StartsWith l.date text.toList rest ∧ rest <:+ text.toList ∧ EndsPlain rest ∧
      l.offset.natAbs < 86400 := by
  obtain ⟨⟨year, _⟩, readYear, read⟩ := Option.bind_eq_some_iff.mp read
  obtain ⟨afterYear, dash, read⟩ := Option.bind_eq_some_iff.mp read
  obtain ⟨⟨month, _⟩, readMonth, read⟩ := Option.bind_eq_some_iff.mp read
  obtain ⟨afterMonth, dashToo, read⟩ := Option.bind_eq_some_iff.mp read
  obtain ⟨⟨day, afterDay⟩, readDay, read⟩ := Option.bind_eq_some_iff.mp read
  obtain ⟨afterMark, mark, read⟩ := Option.bind_eq_some_iff.mp read
  obtain ⟨⟨hour, afterHour⟩, readHour, read⟩ := Option.bind_eq_some_iff.mp read
  obtain ⟨_, colon, read⟩ := Option.bind_eq_some_iff.mp read
  obtain ⟨⟨minute, afterMinute⟩, readMinute, read⟩ := Option.bind_eq_some_iff.mp read
  obtain ⟨_, colonToo, read⟩ := Option.bind_eq_some_iff.mp read
  obtain ⟨⟨second, afterSecond⟩, readSecond, read⟩ := Option.bind_eq_some_iff.mp read
  have behindMark : afterMark <:+ afterDay := by
    simp only [Option.or_eq_some_iff] at mark
    rcases mark with taken | ⟨_, taken | ⟨_, taken⟩⟩ <;> exact suffix_of_dropChar taken
  have behindSecond : afterSecond <:+ afterDay :=
    (suffix_of_readExact? readSecond).trans <| (suffix_of_dropChar colonToo).trans <|
      (suffix_of_readExact? readMinute).trans <| (suffix_of_dropChar colon).trans <|
        (suffix_of_readExact? readHour).trans behindMark
  have toDay : afterDay <:+ text.toList :=
    (suffix_of_readExact? readDay).trans <| (suffix_of_dropChar dashToo).trans <|
      (suffix_of_readExact? readMonth).trans <| (suffix_of_dropChar dash).trans <|
        suffix_of_readExact? readYear
  obtain ⟨nanos, afterFraction, behindFraction, read⟩ := of_optional_fraction read
  obtain ⟨⟨offset, rest⟩, readOffset, read⟩ := Option.bind_eq_some_iff.mp read
  obtain ⟨date, made, read⟩ := Option.bind_eq_some_iff.mp read
  -- A leap second is told as a longer second 59, so that there is a time of day either way.
  obtain ⟨time, accepted⟩ : ∃ time : TimeOfDay, (if rest.isEmpty = true ∧ offset.natAbs < 86400 then
      some { date, time, offset : Local } else none) = some l := by
    dsimp only at read
    split at read
    all_goals
      obtain ⟨time, _, read⟩ := Option.bind_eq_some_iff.mp read
      exact ⟨time, read⟩
  split at accepted
  · rename_i complete
    obtain ⟨finished, bounded⟩ := complete
    obtain rfl := List.isEmpty_iff.mp finished
    cases accepted
    obtain rfl := dropChar_eq_some_iff.mp dash
    obtain rfl := dropChar_eq_some_iff.mp dashToo
    have behindDate := behindFraction.trans behindSecond
    exact ⟨afterDay, .intro readYear readMonth readDay made, toDay,
      (endsPlain_of_readOffset? readOffset).of_suffix behindDate, bounded⟩
  · cases accepted

/-! ## Instants -/

namespace Local

variable {text : String} {l : Local}

/-- There are no blanks around a timestamp. -/
theorem trim_of_ofText? (read : ofText? text = some l) : trim text = text := by
  obtain ⟨rest, starts, behind, ends, _⟩ := of_ofText? read
  have head : ∃ c, text.toList.head? = some c ∧ isBlank c = false := by
    obtain ⟨readYear, _, _, _⟩ := starts
    obtain ⟨c, tail, written, digit⟩ :=
      (takesDigits_of_readNumber? (readExact?_eq_some readYear).1).exists_head
    exact ⟨c, by rw [written, List.head?_cons], isBlank_of_isDigit digit⟩
  rw [trim, trimChars_of_ends head (ends.of_suffix behind), String.ofList_toList]

/-- A timestamp is not only a date. -/
theorem ofPattern?_of_ofText? (read : ofText? text = some l) :
    Date.ofPattern? "%Y-%m-%d" text = none := by
  obtain ⟨rest, starts, _, ends, _⟩ := of_ofText? read
  obtain ⟨f, items⟩ := starts.readItems
  have unread : readFields? "%Y-%m-%d" text = none := by
    unfold readFields?
    rw [items]
    split
    · rename_i same
      cases same
      exact absurd rfl ends.ne_nil
    · rfl
  rw [Date.ofPattern?, unread, Option.bind_none]

/-- The seconds from the start of the written date in UTC to the instant. -/
def secondsIn (l : Local) : Int := l.time.seconds - l.offset

/-- Every timestamp is an instant. Its day in UTC is the local one, the day before or the day
behind. -/
theorem exists_instant (read : ofText? text = some l) : ∃ i, l.instant? = some i ∧
    i.date.dayNumber = l.date.dayNumber + l.secondsIn / 86400 := by
  obtain ⟨_, starts, _, _, bounded⟩ := of_ofText? read
  obtain ⟨least, most⟩ := starts.year_mem
  obtain ⟨behind, before⟩ := l.date.dayNumber_mem
  have inDay := l.time.seconds_lt
  have first := daysBeforeYear_mono least
  have last := daysBeforeYear_mono (Int.add_le_add_right most 1)
  have start : daysBeforeYear 0 = -366 := rfl
  have stop : daysBeforeYear (9999 + 1) = 3652059 := rfl
  have calendarStart : daysBeforeYear (-262143) < -367 := by decide
  have calendarStop : 3652060 < daysBeforeYear 262143 := by decide
  have seconds : -86400 < l.secondsIn ∧ l.secondsIn < 172800 := by
    unfold secondsIn
    omega
  obtain ⟨d, number⟩ : ∃ d : Date, d.dayNumber = l.date.dayNumber + l.secondsIn / 86400 :=
    Date.exists_dayNumber (by omega) (by omega)
  refine ⟨_, Option.map_eq_some_iff.mpr ⟨d, Date.ofDayNumber?_eq_some_iff.mpr number, rfl⟩, number⟩

/-- The local date of a timestamp is that of its instant just if it has begun and is not over in
UTC. -/
theorem date_eq_iff {i : Instant}
    (day : i.date.dayNumber = l.date.dayNumber + l.secondsIn / 86400) :
    i.date = l.date ↔ 0 ≤ l.secondsIn ∧ l.secondsIn < 86400 := by
  have same : i.date = l.date ↔ i.date.dayNumber = l.date.dayNumber :=
    ⟨congrArg Date.dayNumber, Date.eq_of_dayNumber⟩
  rw [same]
  omega

end Local

end Calendar

end RecordQuery
