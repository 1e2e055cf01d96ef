import Mathlib.Data.List.Permutation
import RecordQuery.Proofs.Regex.Assembly
import RecordQuery.Proofs.Text.Like
import RecordQuery.Regex.Reader

/-! # Wildcard patterns as regular expressions

A wildcard pattern can be written in the notation of regular expressions. The reader of that
notation takes the text apart again, character by character of the pattern, and what it reads
matches the texts that the pattern stands for. -/

namespace RecordQuery.Text.Like

open Regex Regex.Reader

/-- The characters that the notation of regular expressions has a meaning for. -/
def marks : List Char :=
  ['\\', '.', '+', '*', '?', '(', ')', '|', '[', ']', '\x7b', '\x7d', '^', '$', '#', '&', '-', '~']

/-- A character of a pattern in the notation of regular expressions. -/
def written (c : Char) : List Char :=
  if c = '%' then ['.', '*']
  else if c = '_' then ['.']
  else if c ∈ marks then ['\\', c]
  else [c]

/-- The characters of a pattern up to the end of the text. -/
def writtenToEnd (pattern : List Char) : List Char := pattern.flatMap written ++ ['$']

/-- A pattern as a regular expression for whole texts; line breaks are characters like others. -/
def expressionText (pattern : String) : String :=
  String.ofList ("(?s)^".toList ++ writtenToEnd pattern.toList)

/-- What a character of a pattern is read as. -/
def node (c : Char) : Node :=
  if c = '%' then { regex := repeated (ofSet .any) 0 none, depth := 1 }
  else if c = '_' then { regex := ofSet .any, depth := 0 }
  else { regex := char c, depth := 0 }

/-! ## Reading -/

section Reading

variable {α β : Type}

/-- A place of the expression, once its flag is read. -/
def dotted (rest : List Char) : Place := { rest, flags := { dotAll := true }, names := [] }

/-- After a reader that has succeeded, reading goes on with its result at the place that it has
reached. -/
theorem bind_of_run {reader : Reader α} {f : α → Reader β} {place next : Place} {a : α}
    (run : reader place = some (a, next)) : (reader >>= f) place = f a next := by
  change (reader place).bind _ = _
  rw [run]
  rfl

/-- A question mark is not taken from in front of other characters. -/
theorem accept_question {rest : List Char} (other : rest.head? ≠ some '?') :
    accept "?" (dotted rest) = some (false, dotted rest) := by
  cases rest with
  | nil => rfl
  | cons d rest =>
    have differs : ('?' == d) = false :=
      beq_eq_false_iff_ne.mpr fun same => other (by rw [← same, List.head?_cons])
    have absent : "?".toList.isPrefixOf (d :: rest) = false := by
      change ('?' == d && true) = false
      rw [differs, Bool.false_and]
    have read : Reader.rest (dotted (d :: rest)) = some (d :: rest, dotted (d :: rest)) := rfl
    rw [accept, bind_of_run read, absent]
    rfl

variable {items : List Node} {fuel : Nat} {more : List Char}

/-- A dot is read as any character, since the flag for line breaks is set. -/
theorem readSequence_dot :
    readSequence items (fuel + 1) (dotted ('.' :: more)) =
      readSequence ({ regex := ofSet .any, depth := 0 } :: items) fuel (dotted more) := rfl

/-- A star repeats what has been read before it as often as may be. -/
theorem readSequence_star {item : Node} (expression : item.isDirective = false)
    (other : more.head? ≠ some '?') :
    readSequence (item :: items) (fuel + 1) (dotted ('*' :: more)) =
      readSequence ({ regex := repeated item.regex 0 none, depth := 1 + item.depth } :: items) fuel
        (dotted more) := by
  have kept : repeatLast (item :: items) 0 none (dotted more) =
      some ({ regex := repeated item.regex 0 none, depth := 1 + item.depth } :: items,
        dotted more) := by
    rw [repeatLast, expression]
    rfl
  change (repeatLast (item :: items) 0 none >>= fun items => accept "?" >>= fun _ =>
    readSequence items fuel) (dotted more) = _
  rw [bind_of_run kept, bind_of_run (accept_question other)]

/-- A mark behind a backslash is read as the mark itself. -/
theorem readSequence_escaped {c : Char} (mark : c ∈ marks) :
    readSequence items (fuel + 1) (dotted ('\\' :: c :: more)) =
      readSequence ({ regex := char c, depth := 0 } :: items) fuel (dotted more) := by
  simp only [marks, List.mem_cons, List.not_mem_nil, or_false] at mark
  rcases mark with rfl | rfl | rfl | rfl | rfl | rfl | rfl | rfl | rfl | rfl | rfl | rfl | rfl |
    rfl | rfl | rfl | rfl | rfl <;> rfl

/-- A character that is no mark is read as it is. -/
theorem readSequence_plain {c : Char} (plain : c ∉ marks) :
    readSequence items (fuel + 1) (dotted (c :: more)) =
      readSequence ({ regex := char c, depth := 0 } :: items) fuel (dotted more) := by
  have spaced : skipSpace (dotted (c :: more)) = some ((), dotted (c :: more)) := rfl
  have peeked : peek? (dotted (c :: more)) = some (some c, dotted (c :: more)) := rfl
  have differs : ∀ {d}, d ∈ marks → c = d → False := fun mark same => plain (same ▸ mark)
  rw [readSequence, bind_of_run spaced, bind_of_run peeked]
  -- All branches but the last are for marks.
  simp (disch := exact differs (by decide)) only
  rfl

/-- A dollar sign at the end of the notation is read as the end of the text. -/
theorem readSequence_textEnd :
    readSequence items (fuel + 2) (dotted ['$']) =
      some ({ regex := .assertion .textEnd, depth := 0 } :: items, dotted []) := rfl

/-- What the expression of a pattern begins with. -/
theorem readSequence_flag :
    readSequence [] (fuel + 3)
        { rest := "(?s)^".toList ++ more, flags := {}, names := [] } =
      readSequence
        [{ regex := .assertion .textStart, depth := 0 },
          { regex := .empty, depth := 0, isDirective := true }]
        (fuel + 1) (dotted more) := rfl

end Reading

/-- A written character is read as what stands for it, in two steps at most. -/
theorem readSequence_written (c : Char) (items : List Node) {fuel : Nat} {more : List Char}
    (other : more.head? ≠ some '?') (enough : 2 ≤ fuel) :
    ∃ left, fuel ≤ left + 2 ∧
      readSequence items fuel (dotted (written c ++ more)) =
        readSequence (node c :: items) left (dotted more) := by
  obtain ⟨left, rfl⟩ := Nat.exists_eq_add_of_le' enough
  unfold written node
  split
  · refine ⟨left, Nat.le_refl _, ?_⟩
    rw [List.cons_append, List.cons_append, List.nil_append, readSequence_dot,
      readSequence_star rfl other]
    rfl
  · refine ⟨left + 1, by omega, ?_⟩
    split
    · exact readSequence_dot
    · split
      · rename_i mark
        exact readSequence_escaped mark
      · rename_i plain
        exact readSequence_plain plain

theorem writtenToEnd_cons (c : Char) (pattern : List Char) :
    writtenToEnd (c :: pattern) = written c ++ writtenToEnd pattern := by
  rw [writtenToEnd, List.flatMap_cons, List.append_assoc, writtenToEnd]

/-- The notation of a character is not empty and does not begin with a question mark. -/
theorem exists_written_eq_cons (c : Char) : ∃ d rest, written c = d :: rest ∧ d ≠ '?' := by
  unfold written
  split
  · exact ⟨'.', ['*'], rfl, by decide⟩
  · split
    · exact ⟨'.', [], rfl, by decide⟩
    · split
      · exact ⟨'\\', [c], rfl, by decide⟩
      · rename_i plain
        exact ⟨c, [], rfl, fun question => plain (by rw [question]; decide)⟩

/-- A question mark, which would be read as a part of the repetition before it, never begins what is
still to be read. -/
theorem head?_writtenToEnd (pattern : List Char) : (writtenToEnd pattern).head? ≠ some '?' := by
  cases pattern with
  | nil => decide
  | cons c pattern =>
    obtain ⟨d, rest, starts, other⟩ := exists_written_eq_cons c
    rw [writtenToEnd_cons, starts, List.cons_append, List.head?_cons]
    exact fun question => other (Option.some.inj question)

/-- The reader takes a written pattern apart character by character. -/
theorem readSequence_writtenToEnd {pattern : List Char} {items : List Node} {fuel : Nat}
    (enough : 2 * pattern.length + 2 ≤ fuel) :
    readSequence items fuel (dotted (writtenToEnd pattern)) =
      some ({ regex := .assertion .textEnd, depth := 0 } :: ((pattern.map node).reverse ++ items),
        dotted []) := by
  -- Each character takes two steps at most, and two are left for the end.
  induction pattern generalizing items fuel with
  | nil =>
    obtain ⟨left, rfl⟩ := Nat.exists_eq_add_of_le' enough
    exact readSequence_textEnd
  | cons c pattern ih =>
    rw [List.length_cons] at enough
    have spare : 2 ≤ fuel := by omega
    obtain ⟨left, spent, read⟩ := readSequence_written c items (head?_writtenToEnd pattern) spare
    rw [writtenToEnd_cons, read, ih (by omega), List.map_cons, List.reverse_cons, List.append_assoc]
    rfl

/-- The expression that a written pattern is read as. -/
def expression (pattern : List Char) : Regex :=
  concat (.empty :: .assertion .textStart ::
    (pattern.map fun c => (node c).regex) ++ [.assertion .textEnd])

/-- What is read for one character of a pattern is nested once at most. -/
theorem depth_node_le (c : Char) : (node c).depth ≤ 1 := by
  unfold node
  split
  · exact Nat.le_refl 1
  · split <;> exact Nat.zero_le 1

theorem foldl_max_le {depths : List Nat} {start bound : Nat} (first : start ≤ bound)
    (within : ∀ depth ∈ depths, depth ≤ bound) : depths.foldl max start ≤ bound := by
  induction depths generalizing start with
  | nil => exact first
  | cons depth depths ih =>
    rw [List.forall_mem_cons] at within
    exact ih (Nat.max_le.mpr ⟨first, within.1⟩) within.2

/-- What a whole written pattern is read as. -/
def nodes (pattern : List Char) : List Node :=
  { regex := .empty, depth := 0, isDirective := true } ::
    { regex := .assertion .textStart, depth := 0 } ::
      (pattern.map node ++ [{ regex := .assertion .textEnd, depth := 0 }])

/-- The whole notation of a pattern is read as the sequence of what its characters are read as,
between the beginning and the end of the text. -/
theorem readChoice_expressionText (pattern : List Char) {fuel : Nat}
    (enough : 2 * pattern.length + 5 ≤ fuel) :
    readChoice fuel
        { rest := "(?s)^".toList ++ writtenToEnd pattern, flags := {}, names := [] } =
      some (sequenceNode (nodes pattern), dotted []) := by
  obtain ⟨left, rfl⟩ := Nat.exists_eq_add_of_le' (show 4 ≤ fuel by omega)
  have read : readSequence [] (left + 3)
      { rest := "(?s)^".toList ++ writtenToEnd pattern, flags := {}, names := [] } =
        some ((nodes pattern).reverse, dotted []) := by
    rw [readSequence_flag, readSequence_writtenToEnd (by omega)]
    simp [nodes]
  have ended : readBranches (left + 3) (dotted []) = some ([], dotted []) := rfl
  rw [readChoice, bind_of_run read, bind_of_run ended, List.reverse_reverse]
  rfl

/-- The expression that is read from the notation of a pattern is the expression of the pattern. -/
theorem regex_sequenceNode_nodes (pattern : List Char) :
    (sequenceNode (nodes pattern)).regex = expression pattern := by
  simp only [nodes, sequenceNode, expression, List.map_cons, List.map_append, List.map_map,
    List.map_nil, List.cons_append]
  rfl

/-- What is read from the notation of a pattern is nested twice at most. -/
theorem depth_sequenceNode_nodes (pattern : List Char) :
    (sequenceNode (nodes pattern)).depth ≤ 2 := by
  have within : ∀ depth ∈ (nodes pattern).map (·.depth), depth ≤ 1 := by
    simp only [nodes, List.map_cons, List.map_append, List.forall_mem_cons, List.forall_mem_append,
      List.forall_mem_map]
    exact ⟨Nat.zero_le 1, Nat.zero_le 1, fun c _ => depth_node_le c, Nat.zero_le 1, by simp⟩
  exact Nat.add_le_add_left (foldl_max_le (Nat.zero_le 1) within) 1

/-- The notation of a pattern is at least as long as the pattern. -/
theorem length_le_writtenToEnd (pattern : List Char) :
    pattern.length ≤ (writtenToEnd pattern).length := by
  induction pattern with
  | nil => exact Nat.zero_le _
  | cons c pattern ih =>
    obtain ⟨d, rest, starts, -⟩ := exists_written_eq_cons c
    rw [writtenToEnd_cons, starts, List.length_append, List.length_cons, List.length_cons]
    omega

/-- Reading a written pattern fails only for want of storage. -/
theorem ofText?_expressionText (pattern : String) :
    Regex.ofText? (expressionText pattern) =
      if Storage.isWithinLimit (expression pattern.toList) then some (expression pattern.toList)
      else none := by
  have chars : (expressionText pattern).toList = "(?s)^".toList ++ writtenToEnd pattern.toList :=
    String.toList_ofList
  have long : pattern.toList.length + 1 ≤ (expressionText pattern).length := by
    have enough := length_le_writtenToEnd pattern.toList
    have flag : "(?s)^".toList.length = 5 := rfl
    rw [← String.length_toList, chars, List.length_append, flag]
    omega
  have whole : readChoice (4 * (expressionText pattern).length + 4)
      { rest := (expressionText pattern).toList, flags := {}, names := [] } =
        some (sequenceNode (nodes pattern.toList), dotted []) := by
    rw [chars]
    exact readChoice_expressionText _ (by omega)
  have shallow : (sequenceNode (nodes pattern.toList)).depth ≤ 250 :=
    Nat.le_trans (depth_sequenceNode_nodes _) (by decide)
  have ended : Reader.rest (dotted []) = some ([], dotted []) := rfl
  rw [Regex.ofText?, readAll, bind_of_run whole, bind_of_run ended, decide_eq_true shallow,
    ← regex_sequenceNode_nodes]
  cases Storage.isWithinLimit (sequenceNode (nodes pattern.toList)).regex <;> rfl

/-! ## Matching -/

/-- The code points of all characters. -/
def anyChar : Regex := .chars [(0, 0xD7FF), (0xE000, 0x10FFFF)]

/-- Any character is an alternative over the code points of all characters. -/
theorem ofSet_any : ofSet .any = anyChar := by cbv

theorem repeated_any : repeated (ofSet .any) 0 none = .repetition anyChar 0 none := by
  rw [ofSet_any]
  rfl

section Matching

variable {text : List Char}

/-- Any character spans one place of a text, wherever there is one. -/
theorem spans_any_iff {i j : Nat} : Spans text anyChar i j ↔ i < text.length ∧ j = i + 1 := by
  have every (c : Char) : Case.inRanges [(0, 0xD7FF), (0xE000, 0x10FFFF)] c.toNat = true := by
    have valid : c.toNat < 0xD800 ∨ 0xDFFF < c.toNat ∧ c.toNat < 0x110000 := c.valid
    simp only [Case.inRanges, List.any_cons, List.any_nil, Bool.or_false, Bool.or_eq_true,
      Bool.and_eq_true, decide_eq_true_eq]
    omega
  simp only [anyChar, Spans, every, and_true, ← Option.isSome_iff_exists, isSome_getElem?]

/-- A number of any characters spans so many places, wherever there are enough. -/
theorem times_any_iff {n i k : Nat} (within : i ≤ text.length) :
    Times (Spans text anyChar) n i k ↔ k = i + n ∧ i + n ≤ text.length := by
  induction n generalizing i with
  | zero => simp [Times, within, eq_comm]
  | succ n ih =>
    simp only [Times, spans_any_iff]
    constructor
    · rintro ⟨_, ⟨inside, rfl⟩, rest⟩
      have further := (ih inside).mp rest
      omega
    · rintro ⟨ends, inside⟩
      have further : i + 1 ≤ text.length := by omega
      exact ⟨i + 1, ⟨further, rfl⟩, (ih further).mpr (by omega)⟩

/-- A dot with a star matches any part of the text. -/
theorem spans_anyText_iff {i k : Nat} (within : i ≤ text.length) :
    Spans text (repeated (ofSet .any) 0 none) i k ↔ i ≤ k ∧ k ≤ text.length := by
  rw [repeated_any, Spans]
  simp only [times_any_iff within]
  constructor
  · rintro ⟨extra, -, ends, inside⟩
    omega
  · rintro ⟨onward, inside⟩
    have unbounded : ∀ n, none = some n → k - i ≤ n - 0 := by simp
    exact ⟨k - i, unbounded, by omega, by omega⟩

/-- The beginning of a text is an empty span at its first place. -/
theorem spans_textStart_iff {i j : Nat} :
    Spans text (.assertion .textStart) i j ↔ i = 0 ∧ j = 0 := by
  have first : i ≤ text.length ∧ (before? text.toArray i).isNone = true ↔ i = 0 := by
    unfold before?
    split <;> simp <;> omega
  rw [Spans, Assertion.holds, ← and_assoc, first]
  omega

/-- The end of a text is an empty span behind its last place. -/
theorem spans_textEnd_iff {i j : Nat} :
    Spans text (.assertion .textEnd) i j ↔ i = text.length ∧ j = text.length := by
  simp only [Spans, Assertion.holds, Option.isNone_iff_eq_none, List.getElem?_eq_none_iff]
  omega

/-- What is behind a place begins with the character there. -/
theorem drop_eq_cons_iff {i : Nat} {d : Char} {tail : List Char} :
    text.drop i = d :: tail ↔ text[i]? = some d ∧ text.drop (i + 1) = tail := by
  rw [← List.head?_drop, ← List.tail_drop]
  cases text.drop i with
  | nil => simp
  | cons e rest => simp

/-- A character of a pattern that stands for one character matches that one. -/
theorem spans_node_iff {c : Char} (notAny : c ≠ '%') {i j : Nat} :
    Spans text (node c).regex i j ↔ ∃ d, text[i]? = some d ∧ (c = '_' ∨ c = d) ∧ j = i + 1 := by
  rw [node, if_neg notAny]
  split
  · rename_i isOne
    simp only [ofSet_any, spans_any_iff, isOne, true_or, true_and, exists_and_right,
      ← Option.isSome_iff_exists, isSome_getElem?]
  · rename_i notOne
    have here : [c] <+: text.drop i ↔ text[i]? = some c := by
      rw [← List.head?_drop]
      cases text.drop i <;> simp [eq_comm]
    simp only [char, Spans, List.length_singleton, notOne, false_or, here]
    constructor
    · rintro ⟨first, next⟩
      exact ⟨c, first, rfl, next⟩
    · rintro ⟨_, first, rfl, next⟩
      exact ⟨first, next⟩

/-- The ends of what is left of a text from a position on are what is left from later ones on. -/
theorem exists_suffix_drop_iff {i : Nat} (within : i ≤ text.length) {property : List Char → Prop} :
    (∃ tail, tail <:+ text.drop i ∧ property tail) ↔
      ∃ k, (i ≤ k ∧ k ≤ text.length) ∧ property (text.drop k) := by
  constructor
  · rintro ⟨tail, suffix, holds⟩
    obtain ⟨skipped, split⟩ := suffix
    have lengths : skipped.length + tail.length = text.length - i := by
      rw [← List.length_append, split, List.length_drop]
    have rest : text.drop (i + skipped.length) = tail := by
      rw [← List.drop_drop, ← split, List.drop_left]
    exact ⟨i + skipped.length, by omega, rest ▸ holds⟩
  · rintro ⟨k, ⟨onward, -⟩, holds⟩
    refine ⟨text.drop k, ?_, holds⟩
    rw [← Nat.add_sub_of_le onward, ← List.drop_drop]
    exact List.drop_suffix _ _

/-- From a position on, the expression of a pattern matches what the pattern stands for. -/
theorem spansEach_nodes_iff {pattern : List Char} {i j : Nat} (within : i ≤ text.length) :
    SpansEach text (pattern.map (fun c => (node c).regex) ++ [.assertion .textEnd]) i j ↔
      Stands pattern (text.drop i) ∧ j = text.length := by
  induction pattern generalizing i with
  | nil =>
    have ended : text.drop i = [] ↔ i = text.length := by
      rw [List.drop_eq_nil_iff]
      omega
    simp only [List.map_nil, List.nil_append, SpansEach, spans_textEnd_iff, stands_nil_iff, ended]
    constructor
    · rintro ⟨_, ⟨first, rfl⟩, rfl⟩
      exact ⟨first, rfl⟩
    · rintro ⟨first, rfl⟩
      exact ⟨_, ⟨first, rfl⟩, rfl⟩
  | cons c pattern ih =>
    rw [List.map_cons, List.cons_append, SpansEach]
    -- A percent sign leads to any later position, any other character to the next one.
    by_cases isAny : c = '%'
    · subst isAny
      have any {k : Nat} : Spans text (node '%').regex i k ↔ i ≤ k ∧ k ≤ text.length :=
        spans_anyText_iff within
      rw [stands_any_iff, exists_suffix_drop_iff within]
      constructor
      · rintro ⟨k, spans, rest⟩
        obtain ⟨stands, ends⟩ := (ih (any.mp spans).2).mp rest
        exact ⟨⟨k, any.mp spans, stands⟩, ends⟩
      · rintro ⟨⟨k, inside, stands⟩, ends⟩
        exact ⟨k, any.mpr inside, (ih inside.2).mpr ⟨stands, ends⟩⟩
    · simp only [stands_cons_iff isAny, spans_node_iff isAny, drop_eq_cons_iff]
      constructor
      · rintro ⟨_, ⟨d, here, agree, rfl⟩, rest⟩
        have further : i + 1 ≤ text.length := (List.getElem?_eq_some_iff.mp here).1
        obtain ⟨stands, ends⟩ := (ih further).mp rest
        exact ⟨⟨d, _, ⟨here, rfl⟩, agree, stands⟩, ends⟩
      · rintro ⟨⟨d, _, ⟨here, rfl⟩, agree, stands⟩, ends⟩
        have further : i + 1 ≤ text.length := (List.getElem?_eq_some_iff.mp here).1
        exact ⟨i + 1, ⟨d, here, agree, rfl⟩, (ih further).mpr ⟨stands, ends⟩⟩

end Matching

/-- The expression of a pattern matches the texts that the pattern stands for. -/
theorem isMatch_expression_iff {pattern : List Char} {text : String} :
    (expression pattern).isMatch text = true ↔ Stands pattern text.toList := by
  rw [Regex.isMatch_iff]
  simp only [expression, spans_concat_iff, List.cons_append, SpansEach, spans_textStart_iff]
  constructor
  · rintro ⟨_, _, -, _, rfl, _, ⟨rfl, rfl⟩, rest⟩
    exact ((spansEach_nodes_iff (Nat.zero_le _)).mp rest).1
  · intro stands
    exact ⟨0, _, Nat.zero_le _, 0, rfl, 0, ⟨rfl, rfl⟩,
      (spansEach_nodes_iff (Nat.zero_le _)).mpr ⟨stands, rfl⟩⟩

/-- The expression that is read from the text of a pattern matches as the matcher for patterns does,
provided that it can be stored. -/
theorem isMatch_of_ofText?_expressionText {pattern text : String} (regex : Regex)
    (read : Regex.ofText? (expressionText pattern) = some regex) :
    regex.isMatch text = isMatch pattern text := by
  rw [ofText?_expressionText] at read
  obtain ⟨-, same⟩ := Option.ite_none_right_eq_some.mp read
  obtain rfl := Option.some.inj same
  rw [Bool.eq_iff_iff, isMatch_expression_iff, isMatch_iff]

end RecordQuery.Text.Like
