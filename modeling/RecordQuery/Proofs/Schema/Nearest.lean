import RecordQuery.Proofs.Catalog.Discovery

/-! # Nearest declarations

The fields of a record are looked up from its type upwards, so that the nearest declaration of a
name counts. Of the declarations above a type, the fields visible from it keep the farthest one. The
two agree on the records of a type exactly if no type between the declaring one and the type of the
records declares the name again. -/

namespace RecordQuery.Schema

variable {schema : Schema}

/-! ## Types between two types -/

/-- A type has fewer types above it than the types below it have. -/
theorem length_ancestors_lt (valid : schema.Valid) {base sub : String}
    (above : base ∈ schema.ancestors sub) :
    (schema.ancestors base).length < (schema.ancestors sub).length := by
  obtain ⟨nearer, farther, split, goesOn⟩ := (leads_ancestors valid sub).of_mem above
  rw [split, ← goesOn.unique (leads_ancestors valid base), List.length_append, List.length_cons]
  omega

/-- Two types that are above each other are the same. -/
theorem isAssignable_antisymm (valid : schema.Valid) {first second : String}
    (above : schema.isAssignable first second = true)
    (aboveToo : schema.isAssignable second first = true) : first = second := by
  rcases List.mem_cons.mp (isAssignable_iff.mp above) with same | strictly
  · exact same
  rcases List.mem_cons.mp (isAssignable_iff.mp aboveToo) with same | strictlyToo
  · exact same.symm
  · have shorter := length_ancestors_lt valid strictly
    have shorterToo := length_ancestors_lt valid strictlyToo
    omega

/-- A chain of base types goes through types strictly below a type on it, and then on from there. -/
theorem Leads.exists_eq_append (valid : schema.Valid) {base : Option String} {types : List String}
    (leads : Leads schema base types) {owner : String} (member : owner ∈ types) :
    ∃ nearer, types = nearer ++ schema.lineage owner ∧
      ∀ between ∈ nearer, owner ∈ schema.ancestors between := by
  induction leads with
  | top => cases member
  | @base first rest next ih =>
    rcases List.mem_cons.mp member with rfl | later
    · exact ⟨[], by rw [next.unique (leads_ancestors valid owner)]; rfl, by simp⟩
    · obtain ⟨nearer, split, below⟩ := ih later
      refine ⟨first :: nearer, by rw [split]; rfl, List.forall_mem_cons.mpr ⟨?_, below⟩⟩
      rwa [← next.unique (leads_ancestors valid first)]

/-! ## Looking up a field -/

/-- The field that a type declares itself under a name, with the type. -/
def ownField? (schema : Schema) (field owner : String) : Option (String × Field) :=
  ((schema.get? owner).bind (·.field? field)).map fun found => (owner, found)

/-- A field is the first one of its name in the lineage of the type. -/
theorem findField?_eq_findSome? (type field : String) :
    schema.findField? type field = (schema.lineage type).findSome? (schema.ownField? field) := rfl

/-- A field that is found in a type is declared there under its name. -/
theorem declares_of_ownField? {name owner : String} {found : String × Field}
    (own : schema.ownField? name owner = some found) :
    found.1 = owner ∧ schema.Declares owner found.2 ∧ found.2.name = name := by
  obtain ⟨field, listed, rfl⟩ := Option.map_eq_some_iff.mp own
  obtain ⟨entity, registered, listed⟩ := Option.bind_eq_some_iff.mp listed
  refine ⟨rfl, ⟨entity, registered, List.mem_of_find?_eq_some listed⟩, ?_⟩
  simpa using List.find?_some listed

/-- A declared field is found in its type under its name. -/
theorem ownField?_of_declares (valid : schema.Valid) {owner : String} {field : Field}
    (declares : schema.Declares owner field) :
    schema.ownField? field.name owner = some (owner, field) := by
  obtain ⟨entity, registered, member⟩ := declares
  simp [ownField?, registered, field?_of_mem (valid.fields registered) member]

/-- Two fields of one name that one type declares are the same. -/
theorem Declares.eq_of_name (valid : schema.Valid) {owner : String} {field twin : Field}
    (declares : schema.Declares owner field) (declaresTwin : schema.Declares owner twin)
    (name : twin.name = field.name) : twin = field := by
  have own := ownField?_of_declares valid declares
  have ownTwin := ownField?_of_declares valid declaresTwin
  rw [name, own] at ownTwin
  cases ownTwin
  rfl

/-- Below a type that declares a field, its name is found on a type from the one asked for up to the
declaring one. -/
theorem exists_findField? (valid : schema.Valid) {owner type : String} {field : Field}
    (declares : schema.Declares owner field) (above : schema.isAssignable owner type = true) :
    ∃ nearest, schema.findField? type field.name = some nearest ∧
      schema.isAssignable owner nearest.1 = true ∧ schema.isAssignable nearest.1 type = true ∧
        schema.Declares nearest.1 nearest.2 ∧ nearest.2.name = field.name := by
  have leads : Leads schema (some type) (schema.lineage type) := .base (leads_ancestors valid type)
  obtain ⟨nearer, split, below⟩ := leads.exists_eq_append valid (isAssignable_iff.mp above)
  have own : schema.ownField? field.name owner = some (owner, field) :=
    ownField?_of_declares valid declares
  -- The types below the declaring one are asked before it, and it answers at the latest.
  rw [findField?_eq_findSome?, split, List.findSome?_append, lineage, List.findSome?_cons, own]
  cases first : nearer.findSome? (schema.ownField? field.name) with
  | none => exact ⟨(owner, field), rfl, schema.isAssignable_self owner, above, declares, rfl⟩
  | some nearest =>
    obtain ⟨between, member, found⟩ := List.exists_of_findSome?_eq_some first
    obtain ⟨rfl, declaresNearest, name⟩ := declares_of_ownField? found
    refine ⟨nearest, rfl, ?_, ?_, declaresNearest, name⟩
    · exact isAssignable_iff.mpr (List.mem_cons_of_mem _ (below _ member))
    · rw [isAssignable_iff, split]
      exact List.mem_append_left _ member

/-- On a type below one that declares a visible field, the name of the field is found on a type from
there up to the declaring one. What is found is the visible field itself if and only if no other
type on the way declares the name. -/
theorem findField?_of_visible (validated : schema.validate = .ok ()) {entity owner type : String}
    {field : Field} (visible : (owner, field) ∈ schema.visibleFields entity)
    (above : schema.isAssignable owner type = true) :
    (∃ nearest, schema.findField? type field.name = some nearest ∧
      schema.isAssignable owner nearest.1 = true ∧ schema.isAssignable nearest.1 type = true ∧
        schema.Declares nearest.1 nearest.2 ∧ nearest.2.name = field.name) ∧
    (schema.findField? type field.name = some (owner, field) ↔
      ∀ between twin, schema.isAssignable owner between = true →
        schema.isAssignable between type = true → schema.Declares between twin →
          twin.name = field.name → between = owner) := by
  have valid := valid_of_validate validated
  have declares := (declares_of_mem_visibleFields visible).2
  have nearest := exists_findField? valid declares above
  refine ⟨nearest, ?_, fun alone => ?_⟩
  · intro found between twin belowOwner aboveType declaresTwin name
    obtain ⟨other, foundToo, aboveOther, _⟩ := exists_findField? valid declaresTwin aboveType
    rw [name, found] at foundToo
    cases foundToo
    exact isAssignable_antisymm valid aboveOther belowOwner
  · obtain ⟨⟨other, twin⟩, found, belowOwner, aboveType, declaresTwin, name⟩ := nearest
    obtain rfl := alone other twin belowOwner aboveType declaresTwin name
    have same : twin = field := declares.eq_of_name valid declaresTwin name
    rwa [same] at found

end RecordQuery.Schema

namespace RecordQuery

namespace Sample

/-- The code of an animal is a text, but that of a dog is a number. -/
def codes : Schema where
  entities := [
    { name := "Animal"
      fields := [{ name := "code", kind := .scalar .string, searchable := some {} }] },
    { name := "Dog"
      base := some "Animal"
      fields := [{ name := "code", kind := .scalar .integer, searchable := some {} }] },
    { name := "Cat", base := some "Animal" },
    { name := "Puppy", base := some "Dog" }]
  names_nodup := by decide

/-- The code of an animal. -/
def code : Field := { name := "code", kind := .scalar .string, searchable := some {} }

end Sample

namespace Schema

open Sample in
/-- The code that is visible from animals is not the one that puppies have, since dogs are between
the two and declare it again. -/
theorem findField?_code_puppy :
    (codes.validate = .ok () ∧ ("Animal", code) ∈ codes.visibleFields "Animal" ∧
      codes.isAssignable "Animal" "Puppy" = true) ∧
    (∃ nearest, codes.findField? "Puppy" "code" = some nearest ∧
      codes.isAssignable "Animal" nearest.1 = true ∧
        codes.isAssignable nearest.1 "Puppy" = true ∧
          codes.Declares nearest.1 nearest.2 ∧ nearest.2.name = "code") ∧
    codes.findField? "Puppy" "code" ≠ some ("Animal", code) := by
  have validated : codes.validate = .ok () := by decide +kernel
  have visible : ("Animal", code) ∈ codes.visibleFields "Animal" := by decide +kernel
  have above : codes.isAssignable "Animal" "Puppy" = true := by decide +kernel
  obtain ⟨nearest, exactly⟩ := findField?_of_visible validated visible above
  refine ⟨⟨validated, visible, above⟩, nearest, fun found => ?_⟩
  have dog : "Dog" = "Animal" := exactly.mp found "Dog"
    { name := "code", kind := .scalar .integer, searchable := some {} } (by decide +kernel)
    (by decide +kernel) ⟨_, rfl, List.mem_cons_self⟩ rfl
  exact absurd dog (by decide)

-- A search among dogs takes their code for a text, and their records hold a number.
open Sample in
example : codes.visibleFields "Dog" = [("Animal", code)] ∧
    (codes.findField? "Dog" "code").map (·.1) = some "Dog" := by decide +kernel

end Schema

end RecordQuery
