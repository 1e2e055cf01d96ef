import Mathlib.Data.String.Basic
import RecordQuery.Json.Reader

/-! # Objects with sorted members

The members of an object that is read from a text come in ascending order of their names, none
twice. A member that is put among such members changes nothing about the others. -/

namespace RecordQuery

/-- The entries come in ascending order of their names, no name twice. -/
def Ascending {α : Type} (entries : List (String × α)) : Prop :=
  entries.Pairwise fun x y => x.1 < y.1

namespace Ascending

variable {α : Type} {xs ys : List (String × α)}

/-- Ascending names are distinct. -/
theorem names_nodup (ascending : Ascending xs) : (xs.map (·.1)).Nodup :=
  List.pairwise_map.mpr (ascending.imp fun less => ne_of_lt less)

/-- There is one ascending order of entries. -/
theorem eq_of_perm (first : Ascending xs) (second : Ascending ys) (same : xs.Perm ys) : xs = ys :=
  same.eq_of_pairwise (fun _ _ _ _ less greater => absurd less (lt_asymm greater)) first second

end Ascending

namespace Json

variable {members : List (String × Json)} {key : String} {value : Json}

/-- The members of every object of the tree come in ascending order of their names. -/
inductive Ordered : Json → Prop where
  | null : Ordered .null
  | bool {value : Bool} : Ordered (.bool value)
  | integer {n : Int} : Ordered (.integer n)
  | float {x : Binary64} : Ordered (.float x)
  | string {text : String} : Ordered (.string text)
  | array {items : List Json} (each : ∀ item ∈ items, Ordered item) : Ordered (.array items)
  | object {members : List (String × Json)} (ascending : Ascending members)
      (each : ∀ member ∈ members, Ordered member.2) : Ordered (.object members)

/-! ## Sorting members -/

/-- Members that are kept stay in their order. -/
theorem lastWins_sublist (members : List (String × Json)) :
    (lastWins members).Sublist members := by
  induction members with
  | nil => exact .slnil
  | cons first rest ih =>
    rw [lastWins]
    split
    · exact ih.cons first
    · exact ih.cons_cons first

/-- Of members of one name only one is kept. -/
theorem names_lastWins_nodup (members : List (String × Json)) :
    ((lastWins members).map (·.1)).Nodup := by
  induction members with
  | nil => exact List.nodup_nil
  | cons first rest ih =>
    rw [lastWins]
    split
    · exact ih
    · rename_i fresh
      refine List.nodup_cons.mpr ⟨?_, ih⟩
      intro named
      obtain ⟨other, kept, same⟩ := List.mem_map.mp named
      refine fresh (List.any_eq_true.mpr ⟨other, (lastWins_sublist rest).subset kept, ?_⟩)
      exact beq_iff_eq.mpr same

/-- Where names are distinct, all members are kept. -/
theorem lastWins_of_nodup (nodup : (members.map (·.1)).Nodup) : lastWins members = members := by
  induction members with
  | nil => rfl
  | cons first rest ih =>
    obtain ⟨fresh, later⟩ := List.nodup_cons.mp nodup
    have absent : ¬ rest.any (·.1 == first.1) = true := by
      intro found
      obtain ⟨other, member, same⟩ := List.any_eq_true.mp found
      exact fresh (List.mem_map.mpr ⟨other, member, beq_iff_eq.mp same⟩)
    rw [lastWins, if_neg absent, ih later]

theorem keyLe_iff {x y : String × Json} : keyLe x y = true ↔ x.1 ≤ y.1 := by
  rw [keyLe, Bool.not_eq_true', decide_eq_false_iff_not, not_lt]

/-- Sorted members have ascending names. -/
theorem ascending_sortMembers (members : List (String × Json)) :
    Ascending (sortMembers members) := by
  have inOrder : (sortMembers members).Pairwise fun x y => keyLe x y = true := by
    apply List.pairwise_mergeSort
    · intro x y z first second
      exact keyLe_iff.mpr (le_trans (keyLe_iff.mp first) (keyLe_iff.mp second))
    · intro x y
      rw [Bool.or_eq_true, keyLe_iff, keyLe_iff]
      exact le_total x.1 y.1
  have distinct : ((sortMembers members).map (·.1)).Nodup :=
    ((List.mergeSort_perm _ _).map _).nodup_iff.mpr (names_lastWins_nodup members)
  refine (inOrder.and (List.pairwise_map.mp distinct)).imp ?_
  rintro x y ⟨least, different⟩
  exact lt_of_le_of_ne (keyLe_iff.mp least) different

/-- Sorting adds no members. -/
theorem mem_of_mem_sortMembers {member : String × Json} (found : member ∈ sortMembers members) :
    member ∈ members :=
  (lastWins_sublist members).subset ((List.mergeSort_perm _ _).mem_iff.mp found)

/-- Where names are distinct, sorting loses no members. -/
theorem sortMembers_perm (nodup : (members.map (·.1)).Nodup) :
    (sortMembers members).Perm members := by
  rw [sortMembers, lastWins_of_nodup nodup]
  exact List.mergeSort_perm members keyLe

/-- A member is found under its name if no other has it. -/
theorem member?_of_mem (nodup : (members.map (·.1)).Nodup) (member : (key, value) ∈ members) :
    member? key members = some value := by
  induction members with
  | nil => cases member
  | cons first rest ih =>
    obtain ⟨fresh, later⟩ := List.nodup_cons.mp nodup
    rw [member?]
    rcases List.mem_cons.mp member with same | inRest
    · cases same
      exact if_pos rfl
    · have different : first.1 ≠ key := by
        intro same
        exact fresh (List.mem_map.mpr ⟨(key, value), inRest, same.symm⟩)
      rw [if_neg different, ih later inRest]

section Insertion

variable (ascending : Ascending members) (fresh : ∀ member ∈ members, member.1 ≠ key)

include ascending fresh

/-- A new member among ascending ones is sorted with none of them lost. -/
theorem sortMembers_cons_perm (value : Json) :
    (sortMembers ((key, value) :: members)).Perm ((key, value) :: members) := by
  apply sortMembers_perm
  refine List.nodup_cons.mpr ⟨?_, ascending.names_nodup⟩
  intro named
  obtain ⟨member, found, same⟩ := List.mem_map.mp named
  exact fresh member found same

/-- The member that is put among sorted members is found there. -/
theorem member?_sortMembers_cons (value : Json) :
    member? key (sortMembers ((key, value) :: members)) = some value := by
  apply member?_of_mem (ascending_sortMembers _).names_nodup
  exact (sortMembers_cons_perm ascending fresh value).mem_iff.mpr List.mem_cons_self

/-- The other members are those that were there, in their order. -/
theorem filter_sortMembers_cons (value : Json) :
    (sortMembers ((key, value) :: members)).filter (·.1 ≠ key) = members := by
  have others : ((key, value) :: members).filter (·.1 ≠ key) = members := by
    rw [List.filter_cons_of_neg (by simp), List.filter_eq_self]
    intro member found
    exact decide_eq_true (fresh member found)
  have same := (sortMembers_cons_perm ascending fresh value).filter (·.1 ≠ key)
  rw [others] at same
  exact Ascending.eq_of_perm ((ascending_sortMembers _).filter _) ascending same

end Insertion

/-! ## Trees that are read -/

mutual

/-- A sorted tree has its members in order on every level. -/
theorem ordered_sorted : ∀ json : Json, json.sorted.Ordered
  | .null => .null
  | .bool _ => .bool
  | .integer _ => .integer
  | .float _ => .float
  | .string _ => .string
  | .array items => .array (ordered_of_mem_sortedItems items)
  | .object members => by
    refine .object (ascending_sortMembers _) ?_
    intro member found
    exact ordered_of_mem_sortedMembers members member (mem_of_mem_sortMembers found)

/-- Each item of a sorted array has its members in order. -/
theorem ordered_of_mem_sortedItems : ∀ (items : List Json), ∀ item ∈ sortedItems items, item.Ordered
  | [] => by simp [sortedItems]
  | item :: rest => by
    rw [sortedItems]
    exact List.forall_mem_cons.mpr ⟨ordered_sorted item, ordered_of_mem_sortedItems rest⟩

/-- Each value in a sorted object has its members in order. -/
theorem ordered_of_mem_sortedMembers : ∀ (members : List (String × Json)),
    ∀ member ∈ sortedMembers members, member.2.Ordered
  | [] => by simp [sortedMembers]
  | (_, value) :: rest => by
    rw [sortedMembers]
    exact List.forall_mem_cons.mpr ⟨ordered_sorted value, ordered_of_mem_sortedMembers rest⟩

end

/-- Every object that is read from a text has sorted members. -/
theorem ordered_of_ofText? {text : String} {json : Json} (read : ofText? text = some json) :
    json.Ordered := by
  obtain ⟨written, _, rfl⟩ := Option.map_eq_some_iff.mp read
  exact ordered_sorted written

end Json

end RecordQuery
