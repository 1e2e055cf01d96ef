import Mathlib.Data.List.Basic
import RecordQuery.Path.Spelling

/-! # Written paths

A written path is read back as the parts that it is written from, as long as these have names
without the signs that paths are written with. A canonical path is written from the parts that stand
for its segments. -/

namespace RecordQuery

/-- A name that a path can be split at: it is not empty and has neither of the two signs. -/
def PathPart.IsName (name : String) : Prop :=
  name ≠ "" ∧ ∀ c ∈ name.toList, isNameChar c = true

-- The characters of the name are looked at, not all characters there are.
instance : DecidablePred PathPart.IsName := fun name =>
  decidable_of_iff (name ≠ "" ∧ name.toList.all PathPart.isNameChar = true)
    (by simp [PathPart.IsName])

namespace PathPart

/-- The part has a name that a path can be split at. -/
def IsNamed (part : PathPart) : Prop :=
  part.name ≠ [] ∧ ∀ c ∈ part.name, isNameChar c = true

/-- The sign before a part that is not the first. -/
def sign (part : PathPart) : Char := if part.relation then '>' else '.'

/-- What is written of parts behind other ones. -/
def laterChars (parts : List PathPart) : List Char :=
  parts.flatMap fun part => part.sign :: part.name

/-- What is written of a path. Only before a relation it has a sign at its start. -/
def chars : List PathPart → List Char
  | [] => []
  | part :: rest => (if part.relation then ['>'] else []) ++ (part.name ++ laterChars rest)

/-- The text of a path. -/
def written (parts : List PathPart) : String := String.ofList (chars parts)

theorem laterChars_cons (part : PathPart) (rest : List PathPart) :
    laterChars (part :: rest) = part.sign :: (part.name ++ laterChars rest) := rfl

/-- No name goes on into what is written behind it. -/
theorem takeWhile_laterChars (parts : List PathPart) :
    (laterChars parts).takeWhile isNameChar = [] := by
  cases parts with
  | nil => rfl
  | cons part rest =>
    rw [laterChars_cons, List.takeWhile_cons_of_neg]
    unfold sign
    split <;> decide

/-- What is written behind a name begins with no character of a name. -/
theorem dropWhile_laterChars (parts : List PathPart) :
    (laterChars parts).dropWhile isNameChar = laterChars parts := by
  cases parts with
  | nil => rfl
  | cons part rest =>
    rw [laterChars_cons, List.dropWhile_cons_of_neg]
    unfold sign
    split <;> decide

/-- Splits the first part off a path, of which a sign has been taken. -/
theorem split?_of_sign? {first : Bool} {cs : List Char} {part : PathPart} (named : part.IsNamed)
    {rest : List PathPart}
    (taken : sign? first cs = some (part.relation, part.name ++ laterChars rest)) :
    split? first cs = (split? false (laterChars rest)).map (part :: ·) := by
  have begun : cs ≠ [] := by
    rintro rfl
    simp [sign?, named.1] at taken
  rw [split?, if_neg (by simp [begun])]
  split
  · rename_i none
    rw [taken] at none
    cases none
  · rename_i other rest takenToo
    cases taken.symm.trans takenToo
    rw [List.takeWhile_append_of_pos named.2, takeWhile_laterChars, List.append_nil,
      List.dropWhile_append_of_pos named.2, dropWhile_laterChars]
    split
    · rename_i empty
      exact absurd empty named.1
    · rename_i c rest chars
      rw [← chars]

/-- Named parts that are written behind others are split off again. -/
theorem split?_laterChars {parts : List PathPart} (named : ∀ part ∈ parts, part.IsNamed) :
    split? false (laterChars parts) = some parts := by
  induction parts with
  | nil => simp [laterChars, split?]
  | cons part rest ih =>
    have taken : sign? false (laterChars (part :: rest)) =
        some (part.relation, part.name ++ laterChars rest) := by
      rw [laterChars_cons, sign]
      cases part.relation <;> rfl
    rw [split?_of_sign? (named part List.mem_cons_self) taken,
      ih fun other later => named other (List.mem_cons_of_mem _ later)]
    rfl

/-- A written path is read back as its parts. -/
theorem ofText?_written {parts : List PathPart} (nonempty : parts ≠ [])
    (named : ∀ part ∈ parts, part.IsNamed) : ofText? (written parts) = some parts := by
  cases parts with
  | nil => exact absurd rfl nonempty
  | cons part rest =>
    have first := named part List.mem_cons_self
    have taken : sign? true (chars (part :: rest)) =
        some (part.relation, part.name ++ laterChars rest) := by
      rw [chars]
      cases part.relation with
      | true => rfl
      | false =>
        obtain ⟨c, name, begins⟩ := List.exists_cons_of_ne_nil first.1
        have plain : isNameChar c = true := first.2 c (by simp [begins])
        simp only [isNameChar, Bool.and_eq_true, bne_iff_ne] at plain
        simp [begins, sign?, plain.1, plain.2]
    rw [ofText?, written, String.toList_ofList, split?_of_sign? first taken,
      split?_laterChars fun other later => named other (List.mem_cons_of_mem _ later)]
    rfl

end PathPart

namespace Segment

open PathPart

/-- The part of a canonical path that stands for a segment. -/
def part (segment : Segment) : PathPart := ⟨segment.isRelation, segment.name.toList⟩

/-- The part for a segment with a name is named. -/
theorem isNamed_part {segment : Segment} (named : IsName segment.name) : segment.part.IsNamed :=
  ⟨by simpa [part] using named.1, named.2⟩

/-- Behind other segments a segment is written as its sign and its name. -/
theorem appendTo_of_ne_nil {written : List Char} (started : written ≠ []) (segment : Segment) :
    appendTo written segment = written ++ segment.part.sign :: segment.part.name := by
  unfold appendTo sign part
  split <;> simp [started]

/-- Behind other segments, segments are written as the parts for them. -/
theorem foldl_appendTo {written : List Char} (started : written ≠ []) (segments : List Segment) :
    segments.foldl appendTo written = written ++ laterChars (segments.map part) := by
  induction segments generalizing written with
  | nil => simp [laterChars]
  | cons segment rest ih =>
    rw [List.foldl_cons, appendTo_of_ne_nil started, ih (by simp), List.map_cons, laterChars_cons]
    simp

/-- A canonical path is written from the parts of its segments. -/
theorem canonicalText_eq_written {segments : List Segment}
    (named : ∀ segment ∈ segments, IsName segment.name) :
    canonicalText segments = written (segments.map part) := by
  cases segments with
  | nil => rfl
  | cons segment rest =>
    have first : appendTo [] segment =
        (if segment.part.relation then ['>'] else []) ++ segment.part.name := by
      cases isRelation : segment.isRelation <;> simp [appendTo, part, isRelation]
    have begun : appendTo [] segment ≠ [] := by
      simp [first, (isNamed_part (named segment List.mem_cons_self)).1]
    rw [canonicalText, canonicalChars, List.foldl_cons, foldl_appendTo begun, first, written,
      List.map_cons, chars, List.append_assoc]

/-- A canonical path is read back as its parts. -/
theorem ofText?_canonicalText {segments : List Segment} (nonempty : segments ≠ [])
    (named : ∀ segment ∈ segments, IsName segment.name) :
    ofText? (canonicalText segments) = some (segments.map part) := by
  rw [canonicalText_eq_written named]
  refine ofText?_written (by simpa using nonempty) fun part member => ?_
  obtain ⟨segment, listed, rfl⟩ := List.mem_map.mp member
  exact isNamed_part (named segment listed)

end Segment

end RecordQuery
