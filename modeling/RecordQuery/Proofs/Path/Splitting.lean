import Mathlib.Data.List.TakeWhile
import RecordQuery.Proofs.Path.Canonical

/-! # Splitting written paths

A text is split exactly if it is written from named parts, of which there is at least one, and it is
split into these parts. Canonical paths are therefore split into the parts of their segments. -/

namespace RecordQuery

namespace PathPart

variable {first relation : Bool} {cs rest : List Char}

/-- Where no name goes on, a later part follows its sign. -/
theorem cons_sign_of_sign? (stops : cs.takeWhile isNameChar = []) (begun : cs ≠ [])
    (taken : sign? false cs = some (relation, rest)) :
    cs = (if relation then '>' else '.') :: rest := by
  obtain ⟨c, later, rfl⟩ := List.exists_cons_of_ne_nil begun
  have signed : isNameChar c = false := by
    by_contra named
    rw [Bool.not_eq_false] at named
    rw [List.takeWhile_cons_of_pos named] at stops
    cases stops
  unfold sign? at taken
  split at taken
  case h_1 after same => cases taken; exact same
  case h_2 after same => cases taken; exact same
  case h_3 noRelation noPoint =>
    simp only [isNameChar, Bool.and_eq_false_iff, bne_eq_false_iff_eq] at signed
    rcases signed with rfl | rfl
    · exact absurd rfl (noPoint later)
    · exact absurd rfl (noRelation later)

/-- Only a relation has a sign in front of the first part. -/
theorem eq_append_of_sign? (taken : sign? true cs = some (relation, rest)) :
    cs = (if relation then ['>'] else []) ++ rest := by
  unfold sign? at taken
  split at taken
  case h_1 => cases taken; rfl
  case h_2 => cases taken
  case h_3 => cases taken; rfl

/-- What is split has come to its end, or begins with a sign and the longest name behind it. -/
theorem eq_nil_or_exists_of_split? {parts : List PathPart} (found : split? first cs = some parts) :
    (first = false ∧ cs = [] ∧ parts = []) ∨
      ∃ (part : PathPart) (rest : List Char) (later : List PathPart),
        sign? first cs = some (part.relation, part.name ++ rest) ∧ part.IsNamed ∧
          rest.takeWhile isNameChar = [] ∧ split? false rest = some later ∧
            parts = part :: later := by
  rw [split?] at found
  split at found
  case isTrue ended =>
    simp only [Bool.and_eq_true, Bool.not_eq_true', List.isEmpty_iff] at ended
    cases found
    exact .inl ⟨ended.1, ended.2, rfl⟩
  case isFalse =>
    split at found
    case h_1 => cases found
    case h_2 relation after taken =>
      split at found
      case h_1 => cases found
      case h_2 c name named =>
        obtain ⟨later, split, rfl⟩ := Option.map_eq_some_iff.mp found
        have whole : c :: name ++ after.dropWhile isNameChar = after := by
          rw [← named, List.takeWhile_append_dropWhile]
        refine .inr ⟨⟨relation, c :: name⟩, after.dropWhile isNameChar, later, ?_, ?_, ?_, split,
          rfl⟩
        · rw [taken, whole]
        · exact ⟨List.cons_ne_nil c name, fun d member =>
            List.mem_takeWhile_imp (named ▸ member)⟩
        · exact List.takeWhile_eq_nil_iff.mpr fun nonempty =>
            List.dropWhile_get_zero_not isNameChar after nonempty

/-- Behind other parts, what is split is what is written of the parts. -/
theorem laterChars_of_split? {parts : List PathPart} (stops : cs.takeWhile isNameChar = [])
    (found : split? false cs = some parts) :
    laterChars parts = cs ∧ ∀ part ∈ parts, part.IsNamed := by
  induction parts generalizing cs with
  | nil =>
    rcases eq_nil_or_exists_of_split? found with ⟨-, rfl, -⟩ | ⟨_, _, _, _, _, _, _, split⟩
    · exact ⟨rfl, by simp⟩
    · cases split
  | cons part later ih =>
    rcases eq_nil_or_exists_of_split? found with ⟨-, -, none⟩ | ⟨_, rest, _, taken, named, stopsToo,
      split, same⟩
    · cases none
    · cases same
      have begun : cs ≠ [] := by
        rintro rfl
        simp [sign?, named.1] at taken
      obtain ⟨written, each⟩ := ih stopsToo split
      refine ⟨?_, List.forall_mem_cons.mpr ⟨named, each⟩⟩
      rw [laterChars_cons, written, sign, cons_sign_of_sign? stops begun taken]

/-- A text is split exactly into the parts that it is written from. -/
theorem ofText?_eq_some_iff {path : String} {parts : List PathPart} :
    ofText? path = some parts ↔
      parts ≠ [] ∧ (∀ part ∈ parts, part.IsNamed) ∧ written parts = path := by
  constructor
  · intro found
    rcases eq_nil_or_exists_of_split? found with ⟨later, -, -⟩ | ⟨part, rest, later, taken, named,
      stops, split, rfl⟩
    · cases later
    · obtain ⟨writtenLater, each⟩ := laterChars_of_split? stops split
      refine ⟨List.cons_ne_nil part later, List.forall_mem_cons.mpr ⟨named, each⟩, ?_⟩
      rw [written, chars, writtenLater, ← eq_append_of_sign? taken, String.ofList_toList]
  · rintro ⟨nonempty, named, rfl⟩
    exact ofText?_written nonempty named

/-- The empty text has no part. -/
theorem ofText?_empty : ofText? "" = none := by
  refine Option.eq_none_iff_forall_ne_some.mpr fun parts found => ?_
  obtain ⟨nonempty, named, empty⟩ := ofText?_eq_some_iff.mp found
  obtain ⟨part, later, rfl⟩ := List.exists_cons_of_ne_nil nonempty
  have noChars : chars (part :: later) = [] := by
    rw [← String.toList_ofList (l := chars _), ← written, empty]
    rfl
  simp only [chars, List.append_eq_nil_iff] at noChars
  exact (named part List.mem_cons_self).1 noChars.2.1

end PathPart

/-- The way to the code of the country where a person lives. -/
def Sample.codeOfHome : List Segment :=
  [⟨"home", "Person", .embedded "Place"⟩, ⟨"land", "Place", .relation "Country" .one⟩,
    ⟨"code", "Country", .attr⟩]

namespace PathPart

open Segment in
/-- A text is split exactly if it is written from at least one part, where each part is a nonempty
name without signs, and it is split into these parts. The canonical path of segments with such names
is split, unless there is no segment, into the names with a sign for the relations among them. -/
theorem splits_as_written :
    (∀ (path : String) (parts : List PathPart), ofText? path = some parts ↔
      parts ≠ [] ∧ (∀ part ∈ parts, part.IsNamed) ∧ written parts = path) ∧
    ∀ segments : List Segment, (∀ segment ∈ segments, IsName segment.name) →
      ∀ parts, ofText? (canonicalText segments) = some parts ↔
        segments ≠ [] ∧ parts = segments.map part := by
  refine ⟨fun path parts => ofText?_eq_some_iff, fun segments named parts => ?_⟩
  constructor
  · intro found
    have nonempty : segments ≠ [] := by
      rintro rfl
      cases ofText?_empty.symm.trans found
    exact ⟨nonempty, Option.some.inj (found.symm.trans (ofText?_canonicalText nonempty named))⟩
  · rintro ⟨nonempty, rfl⟩
    exact ofText?_canonicalText nonempty named

open Segment Sample in
/-- A relation in front has a sign, and a path through a relation to one record is split into its
parts. -/
theorem splits_as_written_home :
    ofText? ">pets.a" = some [⟨true, ['p', 'e', 't', 's']⟩, ⟨false, ['a']⟩] ∧
      (∀ segment ∈ codeOfHome, IsName segment.name) ∧
      ofText? (canonicalText codeOfHome) =
        some [⟨false, "home".toList⟩, ⟨true, "land".toList⟩, ⟨false, "code".toList⟩] := by
  obtain ⟨texts, paths⟩ := splits_as_written
  have named : ∀ segment ∈ codeOfHome, IsName segment.name := by decide
  refine ⟨(texts _ _).mpr ⟨by simp, ?_, rfl⟩, named, (paths _ named _).mpr ⟨by decide, rfl⟩⟩
  simp [IsNamed, isNameChar]

open Segment in
/-- The path of no segments is empty, and the empty text is not split into no parts. -/
theorem canonicalText_nil_not_split : ¬ ∀ segments : List Segment,
    (∀ segment ∈ segments, IsName segment.name) →
      ofText? (canonicalText segments) = some (segments.map part) := by
  intro split
  cases ofText?_empty.symm.trans (split [] (by simp))

end PathPart

end RecordQuery
