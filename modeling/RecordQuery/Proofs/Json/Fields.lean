import RecordQuery.Json.Shape
import RecordQuery.Proofs.Json.Members
import RecordQuery.Proofs.Json.ReadBack

/-! # Fields of records in any order

A record is read from an object by the names of its members. So it is the same record in whatever
order the members come, for instance sorted. -/

namespace RecordQuery

namespace Json

variable {members arranged : List (String × Json)} {key : String} {value : Json}

/-! ## Members -/

/-- A member that is found is among the members. -/
theorem mem_of_member? (found : member? key members = some value) : (key, value) ∈ members := by
  induction members with
  | nil => cases found
  | cons first rest ih =>
    rw [member?] at found
    split at found
    case isTrue same =>
      cases same
      cases found
      exact List.mem_cons_self
    case isFalse => exact List.mem_cons_of_mem _ (ih found)

/-- Where names are distinct, a name finds exactly the member that has it. -/
theorem member?_eq_some_iff (nodup : (members.map (·.1)).Nodup) :
    member? key members = some value ↔ (key, value) ∈ members :=
  ⟨mem_of_member?, member?_of_mem nodup⟩

/-- The order of members with distinct names does not matter. -/
theorem member?_of_perm (nodup : (members.map (·.1)).Nodup) (same : arranged.Perm members)
    (key : String) : member? key arranged = member? key members := by
  have distinct : (arranged.map (·.1)).Nodup := (same.map _).nodup_iff.mpr nodup
  refine Option.ext fun value => ?_
  rw [member?_eq_some_iff distinct, member?_eq_some_iff nodup, same.mem_iff]

/-- Changing the values of members keeps what their names find. -/
theorem member?_map (key : String) (f : Json → Json) (members : List (String × Json)) :
    member? key (members.map fun member => (member.1, f member.2)) =
      (member? key members).map f := by
  induction members with
  | nil => rfl
  | cons first rest ih =>
    rw [List.map_cons, member?, member?, ih]
    split <;> rfl

/-- A name is looked up in the first members, and if it is not among them, then in the others. -/
theorem member?_append (key : String) (first second : List (String × Json)) :
    member? key (first ++ second) = (member? key first).or (member? key second) := by
  induction first with
  | nil => rfl
  | cons member rest ih =>
    rw [List.cons_append, member?, member?, ih]
    split <;> rfl

/-- Fields are read from an object with distinct names one by one. -/
theorem fields?_object (nodup : (members.map (·.1)).Nodup) (names : List String) :
    fields? names (.object members) = some (names.map fun name => member? name members) := by
  have once (name : String) : members.countP (·.1 == name) ≤ 1 := by
    have counted := List.nodup_iff_count.mp nodup name
    rwa [List.count, List.countP_map] at counted
  rw [fields?, if_pos (List.all_eq_true.mpr fun name _ => decide_eq_true (once name))]

/-! ## Rearranged trees -/

/-- The trees become trees that differ in the order of the members of objects only. -/
structure Rearranges (arrange : Json → Json) : Prop where
  null : arrange .null = .null
  bool (value : Bool) : arrange (.bool value) = .bool value
  integer (n : Int) : arrange (.integer n) = .integer n
  string (text : String) : arrange (.string text) = .string text
  array (items : List Json) : arrange (.array items) = .array (items.map arrange)
  object {members : List (String × Json)} (nodup : (members.map (·.1)).Nodup) :
    ∃ arranged, arrange (.object members) = .object arranged ∧
      arranged.Perm (members.map fun member => (member.1, arrange member.2))

theorem rearranges_id : Rearranges id where
  null := rfl
  bool _ := rfl
  integer _ := rfl
  string _ := rfl
  array items := by rw [List.map_id, id]
  object {members} _ := ⟨members, rfl, by simp⟩

theorem sortedItems_eq_map (items : List Json) : sortedItems items = items.map sorted := by
  induction items with
  | nil => rfl
  | cons item rest ih => rw [sortedItems, ih, List.map_cons]

theorem sortedMembers_eq_map (members : List (String × Json)) :
    sortedMembers members = members.map fun member => (member.1, member.2.sorted) := by
  induction members with
  | nil => rfl
  | cons member rest ih => rw [sortedMembers, ih, List.map_cons]

/-- A sorted tree differs in the order of the members of objects only. -/
theorem rearranges_sorted : Rearranges sorted where
  null := rfl
  bool _ := rfl
  integer _ := rfl
  string _ := rfl
  array items := by rw [sorted, sortedItems_eq_map]
  object {members} nodup := by
    refine ⟨_, by rw [sorted, sortedMembers_eq_map], sortMembers_perm ?_⟩
    rwa [List.map_map]

/-- Sorting does not touch numbers. -/
theorem IsExact.sorted {json : Json} (exact : json.IsExact) : json.sorted.IsExact := by
  induction exact with
  | null => exact .null
  | bool => exact .bool
  | integer least most => exact .integer least most
  | string => exact .string
  | @array items _ ih =>
    rw [Json.sorted, sortedItems_eq_map]
    exact .array (List.forall_mem_map.mpr ih)
  | @object members _ ih =>
    rw [Json.sorted, sortedMembers_eq_map]
    refine .object fun member found => ?_
    obtain ⟨written, listed, rfl⟩ := List.mem_map.mp (mem_of_mem_sortMembers found)
    exact ih written listed

/-! ## Reading fields -/

/-- A list is read back if each of its items is. -/
theorem list?_map {α : Type} {decode : Json → Option α} {encode : α → Json} {xs : List α}
    (each : ∀ x ∈ xs, decode (encode x) = some x) :
    list? decode (.array (xs.map encode)) = some xs := by
  rw [list?]
  induction xs with
  | nil => rfl
  | cons x rest ih =>
    rw [List.map_cons, List.mapM_cons, each x List.mem_cons_self,
      ih fun y later => each y (List.mem_cons_of_mem _ later)]
    rfl

/-- A field that is there is read as such if its type has no null. -/
theorem optional?_some {α : Type} {decode : Json → Option α} (noNull : decode .null = none)
    {json : Json} {a : α} (decoded : decode json = some a) :
    optional? decode (some json) = some (some a) := by
  cases json
  case null => cases noNull.symm.trans decoded
  all_goals rw [optional?, decoded, Option.map_some]; exact nofun

/-! ## Reading rearranged trees -/

namespace Rearranges

variable {arrange : Json → Json} (rearranges : Rearranges arrange)

include rearranges

/-- The fields of a rearranged object are its rearranged members. -/
theorem fields?_eq (nodup : (members.map (·.1)).Nodup) (names : List String) :
    fields? names (arrange (.object members)) =
      some (names.map fun name => (member? name members).map arrange) := by
  obtain ⟨arranged, shape, same⟩ := rearranges.object nodup
  have distinct : ((members.map fun member => (member.1, arrange member.2)).map (·.1)).Nodup := by
    rwa [List.map_map]
  rw [shape, fields?_object ((same.map _).nodup_iff.mpr distinct)]
  simp only [member?_of_perm distinct same, member?_map]

/-- The fields of an object with distinct names are found in the rearranged object, too, with their
values rearranged. -/
theorem contentFields?_eq (form : Form) (nodup : (members.map (·.1)).Nodup) (names : List String) :
    contentFields? form names (arrange (.object members)) =
      some (names.map fun name => (member? name members).map arrange) := by
  rw [← rearranges.fields?_eq nodup names]
  obtain ⟨arranged, shape, -⟩ := rearranges.object nodup
  rw [shape]
  cases form <;> rfl

/-- An alternative has one member, which has no other place. -/
theorem object_singleton (key : String) (value : Json) :
    arrange (.object [(key, value)]) = .object [(key, arrange value)] := by
  have distinct : ([(key, value)].map (·.1)).Nodup := by simp
  obtain ⟨arranged, shape, same⟩ := rearranges.object distinct
  rw [shape, List.perm_singleton.mp same]

/-- A list is read back from its rearranged items if each of them is. -/
theorem list?_eq {α : Type} {decode : Json → Option α} {encode : α → Json} {xs : List α}
    (each : ∀ x ∈ xs, decode (arrange (encode x)) = some x) :
    list? decode (arrange (.array (xs.map encode))) = some xs := by
  rw [rearranges.array, List.map_map]
  exact list?_map each

end Rearranges

end Json

end RecordQuery
