import Mathlib.Data.List.Forall2
import RecordQuery.Proofs.Json.Scalar

/-! # Trees that are read back

Characters are read as a tree whatever stands behind them, as long as a number ends there. Arrays
and objects are read from the characters of their parts, between which blanks do not matter. Each
level of brackets takes one from the depth that the reader allows. -/

namespace RecordQuery

namespace Json

/-- All numbers of the tree are whole ones that are kept exactly. -/
inductive IsExact : Json → Prop where
  | null : IsExact .null
  | bool {value : Bool} : IsExact (.bool value)
  | integer {n : Int} (least : -0x8000000000000000 ≤ n) (most : n < 0x10000000000000000) :
      IsExact (.integer n)
  | string {text : String} : IsExact (.string text)
  | array {items : List Json} (each : ∀ item ∈ items, IsExact item) : IsExact (.array items)
  | object {members : List (String × Json)} (each : ∀ member ∈ members, IsExact member.2) :
      IsExact (.object members)

variable {depth : Nat} {cs rest lead gap : List Char} {json : Json}

/-! ## Blanks -/

theorem skipSpace_append (blank : ∀ c ∈ gap, isSpace c = true) (cs : List Char) :
    skipSpace (gap ++ cs) = skipSpace cs :=
  List.dropWhile_append_of_pos blank

theorem skipSpace_cons {c : Char} (noSpace : isSpace c = false) (cs : List Char) :
    skipSpace (c :: cs) = c :: cs :=
  List.dropWhile_cons_of_neg (by simp [noSpace])

theorem isSpace_of_mem_nil : ∀ c ∈ ([] : List Char), isSpace c = true :=
  List.forall_mem_nil _

/-- Blanks in front of a value are skipped. -/
theorem readValue?_append (blank : ∀ c ∈ gap, isSpace c = true) (cs : List Char) :
    readValue? depth (gap ++ cs) = readValue? depth cs := by
  rw [readValue?.eq_def, readValue?.eq_def, skipSpace_append blank]

/-- A number ends in front of a comma, a closing bracket or a blank. -/
theorem endsNumber_cons {c : Char} (ends : c = ',' ∨ c = ']' ∨ c = '\x7d' ∨ isSpace c = true)
    (rest : List Char) : EndsNumber (c :: rest) := by
  intro d first
  cases first
  rcases ends with rfl | rfl | rfl | space
  case inr.inr.inr =>
    simp only [isSpace, Bool.or_eq_true, beq_iff_eq] at space
    rcases space with ((rfl | rfl) | rfl) | rfl <;> decide
  all_goals decide

/-- A number ends where blanks and a closing bracket follow. -/
theorem endsNumber_append (blank : ∀ c ∈ gap, isSpace c = true) {closing : Char}
    (closes : closing = ']' ∨ closing = '\x7d') (rest : List Char) :
    EndsNumber (gap ++ closing :: rest) := by
  cases gap with
  | nil => exact endsNumber_cons (.inr (closes.imp_right .inl)) rest
  | cons c gap =>
    exact endsNumber_cons (.inr (.inr (.inr (blank c List.mem_cons_self)))) _

/-! ## Values in front of a rest -/

/-- In front of a rest that no number goes on with, the characters are read as a tree. They begin
neither with a blank nor with a closing bracket. -/
structure ReadsAs (depth : Nat) (cs : List Char) (json : Json) : Prop where
  begins : ∃ c more, cs = c :: more ∧ isSpace c = false ∧ c ≠ ']'
  read {rest : List Char} (ended : EndsNumber rest) :
    readValue? depth (cs ++ rest) = some (json, rest)

/-- What begins with no bracket is read as a scalar. -/
theorem readsAs_scalar {c : Char} (noSpace : isSpace c = false) (noBracket : c ≠ ']')
    (noArray : c ≠ '[') (noObject : c ≠ '\x7b')
    (scalar : ∀ rest, EndsNumber rest → readScalar? (c :: cs ++ rest) = some (some json, rest)) :
    ReadsAs depth (c :: cs) json := by
  refine ⟨⟨c, cs, rfl, noSpace, noBracket⟩, fun {rest} ended => ?_⟩
  have skipped : skipSpace (c :: cs ++ rest) = c :: cs ++ rest := skipSpace_cons noSpace _
  rw [readValue?.eq_def, skipped]
  split
  case h_1 same | h_3 same => exact absurd (List.cons.inj same).1 noArray
  case h_2 same | h_4 same => exact absurd (List.cons.inj same).1 noObject
  case h_5 => rw [scalar rest ended]; rfl

/-- The digits of a whole number of at most 64 bits are read as the number. -/
theorem readsAs_integer {n : Int} (least : -0x8000000000000000 ≤ n)
    (most : n < 0x10000000000000000) : ReadsAs depth (Numeral.signed n) (.integer n) := by
  obtain ⟨c, more, shape⟩ := List.exists_cons_of_ne_nil (Numeral.signed_ne_nil n)
  have allowed : c = '-' ∨ c.isDigit = true := Numeral.mem_signed (shape ▸ List.mem_cons_self)
  have apart {d : Char} (sign : '-' ≠ d) (noDigit : d.isDigit = false) : c ≠ d := by
    rintro rfl
    rcases allowed with rfl | digit
    · exact sign rfl
    · exact Bool.false_ne_true (noDigit.symm.trans digit)
  have noSpace : isSpace c = false := by
    simp only [isSpace, Bool.or_eq_false_iff, beq_eq_false_iff_ne]
    refine ⟨⟨⟨?_, ?_⟩, ?_⟩, ?_⟩ <;> exact apart (by decide) (by decide)
  rw [shape]
  refine readsAs_scalar noSpace (apart (by decide) (by decide)) (apart (by decide) (by decide))
    (apart (by decide) (by decide)) fun rest ended => ?_
  have number := readNumber?_signed least most ended
  rw [shape] at number
  rw [← number, readScalar?.eq_def]
  split
  case h_1 same | h_2 same | h_3 same | h_4 same =>
    exact absurd (List.cons.inj same).1 (apart (by decide) (by decide))
  case h_5 => rfl

/-- A quoted text is read as the text. -/
theorem readsAs_string (text : String) :
    ReadsAs depth ('"' :: (text.toList.flatMap escapeChar ++ ['"'])) (.string text) := by
  refine readsAs_scalar (by decide) (by decide) (by decide) (by decide) fun rest _ => ?_
  have read := readText?_escaped text rest
  rw [List.cons_append, List.append_assoc, List.singleton_append]
  change (readText? _).map _ = _
  rw [read]
  rfl

/-! ## Arrays -/

/-- There are not many more parts than characters between which separators stand. -/
theorem length_le_intercalate {separator : List Char} (long : separator ≠ [])
    (parts : List (List Char)) : parts.length ≤ (separator.intercalate parts).length + 1 := by
  have positive : 0 < separator.length := List.length_pos_iff.mpr long
  induction parts with
  | nil => exact Nat.zero_le _
  | cons part rest ih =>
    cases rest with
    | nil => simp
    | cons next others =>
      rw [List.intercalate_cons_cons, List.length_append, List.length_append, List.length_cons]
      omega

/-- The items of an array, with separators between them, do not begin with a blank or the closing
bracket. -/
theorem begins_intercalate {parts : List (List Char)} {items : List Json}
    (each : List.Forall₂ (ReadsAs depth) parts items) (nonempty : parts ≠ [])
    (separator : List Char) :
    ∃ c more, separator.intercalate parts = c :: more ∧ isSpace c = false ∧ c ≠ ']' := by
  cases each with
  | nil => exact absurd rfl nonempty
  | @cons part item parts items reads later =>
    obtain ⟨c, more, rfl, free⟩ := reads.begins
    cases parts with
    | nil => exact ⟨c, more, List.intercalate_singleton, free⟩
    | cons next others =>
      exact ⟨c, _, by rw [List.intercalate_cons_cons, List.cons_append, List.cons_append], free⟩

/-- Items are read one by one between commas and blanks. -/
theorem readItems?_intercalate (leads : ∀ c ∈ lead, isSpace c = true)
    (closes : ∀ c ∈ gap, isSpace c = true) {parts : List (List Char)} {items : List Json}
    (each : List.Forall₂ (ReadsAs depth) parts items) (nonempty : parts ≠ []) {before : List Char}
    (blank : ∀ c ∈ before, isSpace c = true) {fuel : Nat} (enough : parts.length ≤ fuel)
    (rest : List Char) :
    readItems? (readValue? depth) fuel
      (before ++ ((',' :: lead).intercalate parts ++ (gap ++ ']' :: rest))) =
        some (items, rest) := by
  induction each generalizing before fuel with
  | nil => exact absurd rfl nonempty
  | @cons part item parts items reads later ih =>
    obtain ⟨fuel, rfl⟩ := Nat.exists_eq_succ_of_ne_zero (n := fuel) (by
      rw [List.length_cons] at enough
      omega)
    rw [readItems?, readValue?_append blank]
    -- A number may end at the bracket behind the last item or at the comma behind another one.
    cases later with
    | nil =>
      rw [List.intercalate_singleton, reads.read (endsNumber_append closes (.inl rfl) rest)]
      simp only [Option.bind_eq_bind, Option.bind_some, skipSpace_append closes]
      rfl
    | cons first others =>
      have next := ih (by simp) leads (Nat.le_of_succ_le_succ enough)
      rw [List.intercalate_cons_cons, List.append_assoc, List.append_assoc, List.cons_append,
        reads.read (endsNumber_cons (.inl rfl) _)]
      simp only [Option.bind_eq_bind, Option.bind_some]
      rw [skipSpace_cons (by rfl)]
      simp only [next, Option.bind_some]
      rfl

/-- An array is read from its items between brackets. -/
theorem readsAs_array (leads : ∀ c ∈ lead, isSpace c = true) (closes : ∀ c ∈ gap, isSpace c = true)
    {parts : List (List Char)} {items : List Json}
    (each : List.Forall₂ (ReadsAs depth) parts items) (nonempty : parts ≠ []) :
    ReadsAs (depth + 1) ('[' :: (lead ++ ((',' :: lead).intercalate parts ++ (gap ++ [']']))))
      (.array items) := by
  refine ⟨⟨'[', _, rfl, by decide, by decide⟩, fun {rest} ended => ?_⟩
  have inside : lead ++ ((',' :: lead).intercalate parts ++ (gap ++ [']'])) ++ rest =
      lead ++ ((',' :: lead).intercalate parts ++ (gap ++ ']' :: rest)) := by simp
  obtain ⟨c, more, begins, noSpace, noBracket⟩ : ∃ c more,
      (',' :: lead).intercalate parts ++ (gap ++ ']' :: rest) = c :: more ∧
        isSpace c = false ∧ c ≠ ']' := by
    obtain ⟨c, more, begins, free⟩ := begins_intercalate each nonempty (',' :: lead)
    exact ⟨c, _, by rw [begins, List.cons_append], free⟩
  have fuel : parts.length ≤ (c :: more).length + 1 := by
    have enough := length_le_intercalate (List.cons_ne_nil ',' lead) parts
    rw [← begins, List.length_append]
    omega
  have read := readItems?_intercalate leads closes each nonempty isSpace_of_mem_nil fuel rest
  rw [List.nil_append, begins] at read
  rw [List.cons_append, inside, readValue?.eq_def, skipSpace_cons (by decide)]
  simp only [skipSpace_append leads]
  rw [begins, skipSpace_cons noSpace]
  split
  case h_1 same => exact absurd (List.cons.inj same).1 noBracket
  case h_2 => rw [read]; rfl

/-! ## Objects -/

/-- The characters are a name in quotation marks, a colon and what is read as a value. -/
inductive MemberReadsAs (depth : Nat) : List Char → String × Json → Prop where
  | intro {key : String} {value : Json} {space core : List Char}
      (blank : ∀ c ∈ space, isSpace c = true) (reads : ReadsAs depth core value) :
      MemberReadsAs depth
        ('"' :: (key.toList.flatMap escapeChar ++ '"' :: ':' :: (space ++ core))) (key, value)

/-- The members with their names as they are read. -/
def withNames (members : List (String × Json)) : List (Option String × Json) :=
  members.map fun member => (some member.1, member.2)

/-- Members with their names make an object. -/
theorem objectOf_withNames (members : List (String × Json)) :
    objectOf (withNames members) = object members := by
  suffices named : (withNames members).mapM (fun member => do return (← member.1, member.2)) =
      some members by
    exact congrArg (fun named => (named.map object).getD gap) named
  induction members with
  | nil => rfl
  | cons member rest ih =>
    rw [withNames] at ih
    rw [withNames, List.map_cons, List.mapM_cons, ih]
    rfl

/-- A member is read, and what stands behind it says whether there is another one. -/
theorem readMembers?_member {value? : List Char → Option (Json × List Char)} {key : String}
    {value : Json} {after behind : List Char} (valued : value? after = some (value, behind))
    (blank : ∀ c ∈ gap, isSpace c = true) (fuel : Nat) :
    readMembers? value? (fuel + 1)
        (gap ++ '"' :: (key.toList.flatMap escapeChar ++ '"' :: ':' :: after)) =
      match skipSpace behind with
      | ',' :: rest => do
        let (members, rest) ← readMembers? value? fuel rest
        return ((some key, value) :: members, rest)
      | '\x7d' :: rest => some ([(some key, value)], rest)
      | _ => none := by
  have named := readText?_escaped key (':' :: after)
  have colon : skipSpace (':' :: after) = ':' :: after := skipSpace_cons (by rfl) after
  rw [readMembers?, skipSpace_append blank, skipSpace_cons (by rfl)]
  simp only [named, colon, valued, Option.bind_eq_bind, Option.bind_some]
  rfl

/-- Members are read one by one between commas and blanks. -/
theorem readMembers?_intercalate (leads : ∀ c ∈ lead, isSpace c = true)
    (closes : ∀ c ∈ gap, isSpace c = true) {parts : List (List Char)}
    {members : List (String × Json)} (each : List.Forall₂ (MemberReadsAs depth) parts members)
    (nonempty : parts ≠ []) {before : List Char} (blank : ∀ c ∈ before, isSpace c = true)
    {fuel : Nat} (enough : parts.length ≤ fuel) (rest : List Char) :
    readMembers? (readValue? depth) fuel
      (before ++ ((',' :: lead).intercalate parts ++ (gap ++ '\x7d' :: rest))) =
        some (withNames members, rest) := by
  induction each generalizing before fuel with
  | nil => exact absurd rfl nonempty
  | @cons part member parts members reads later ih =>
    obtain ⟨fuel, rfl⟩ := Nat.exists_eq_succ_of_ne_zero (n := fuel) (by
      rw [List.length_cons] at enough
      omega)
    obtain @⟨key, value, space, core, spaced, reads⟩ := reads
    have valued {more : List Char} (ended : EndsNumber more) :
        readValue? depth (space ++ (core ++ more)) = some (value, more) := by
      rw [readValue?_append spaced, reads.read ended]
    cases later with
    | nil =>
      rw [List.intercalate_singleton]
      simp only [List.cons_append, List.append_assoc]
      rw [readMembers?_member (valued (endsNumber_append closes (.inr rfl) rest)) blank,
        skipSpace_append closes, skipSpace_cons (by rfl)]
      rfl
    | cons first others =>
      have next := ih (by simp) leads (Nat.le_of_succ_le_succ enough)
      rw [List.intercalate_cons_cons]
      simp only [List.cons_append, List.append_assoc]
      rw [readMembers?_member (valued (endsNumber_cons (.inl rfl) _)) blank,
        skipSpace_cons (by rfl)]
      simp only [next]
      rfl

/-- An object is read from its members between braces. -/
theorem readsAs_object (leads : ∀ c ∈ lead, isSpace c = true)
    (closes : ∀ c ∈ gap, isSpace c = true) {parts : List (List Char)}
    {members : List (String × Json)} (each : List.Forall₂ (MemberReadsAs depth) parts members)
    (nonempty : parts ≠ []) :
    ReadsAs (depth + 1)
      ('\x7b' :: (lead ++ ((',' :: lead).intercalate parts ++ (gap ++ ['\x7d']))))
      (.object members) := by
  refine ⟨⟨'\x7b', _, rfl, by decide, by decide⟩, fun {rest} ended => ?_⟩
  have inside : lead ++ ((',' :: lead).intercalate parts ++ (gap ++ ['\x7d'])) ++ rest =
      lead ++ ((',' :: lead).intercalate parts ++ (gap ++ '\x7d' :: rest)) := by simp
  obtain ⟨more, begins⟩ : ∃ more,
      (',' :: lead).intercalate parts ++ (gap ++ '\x7d' :: rest) = '"' :: more := by
    cases each with
    | nil => exact absurd rfl nonempty
    | @cons part member parts members reads later =>
      cases reads
      cases parts with
      | nil => exact ⟨_, by rw [List.intercalate_singleton, List.cons_append]⟩
      | cons next others => exact ⟨_, by rw [List.intercalate_cons_cons]; rfl⟩
  have fuel : parts.length ≤ ('"' :: more).length + 1 := by
    have enough := length_le_intercalate (List.cons_ne_nil ',' lead) parts
    rw [← begins, List.length_append]
    omega
  have read := readMembers?_intercalate leads closes each nonempty isSpace_of_mem_nil fuel rest
  rw [List.nil_append, begins] at read
  rw [List.cons_append, inside, readValue?.eq_def, skipSpace_cons (by decide)]
  simp only [skipSpace_append leads]
  rw [begins, skipSpace_cons (by decide)]
  split
  case h_1 same => exact absurd (List.cons.inj same).1 (by decide)
  case h_2 => rw [read, Option.map_some, objectOf_withNames]

end Json

end RecordQuery
