import RecordQuery.Proofs.Catalog.Lookup
import RecordQuery.Proofs.Compilation.Agreement

/-! # Requests in other spellings

A path may be written in several ways. Whichever is taken, in a filter or in a sort key, it means
the one field that accepts it, and the request is compiled to the same. -/

namespace RecordQuery

open Fallible

/-- The operators of the registry leave the fields that are searched as they are. -/
def Registry.KeepsFields (registry : Registry) : Prop :=
  ∀ called operator, registry.get? called = some operator → ∀ name args context result after,
    operator.evaluate name args context = .ok (result, after) → after.metadata = context.metadata

/-- The operators that are built in leave the fields of the context as they are. -/
theorem Registry.builtin_keepsFields : builtin.KeepsFields := by
  intro called operator found name args context result after evaluated
  rw [(builtin_reads found).stays evaluated]

/-- Some field accepts both written paths. -/
def Metadata.SameField (metadata : Metadata) (path other : String) : Prop :=
  ∃ d ∈ metadata.descriptors, d.accepts path = true ∧ d.accepts other = true

/-- In a context for fields that are told apart, spellings of one field are compiled to the same,
and faults differ at most in what they quote. -/
theorem Registry.KeepsFields.agrees {registry : Registry} (keeps : registry.KeepsFields)
    {metadata : Metadata} (discerns : metadata.Discerns) :
    registry.AgreesOnRequests metadata.SameField
      (fun context other => context = other ∧ context.metadata = metadata)
      (fun fault other => fault.code = other.code) where
  fields {path other} means := by
    rintro context _ ⟨rfl, rfl⟩
    obtain ⟨d, listed, accepts, acceptsToo⟩ := means
    have meant := discerns.get?_eq_some_iff.mpr ⟨listed, accepts⟩
    have meantToo := discerns.get?_eq_some_iff.mpr ⟨listed, acceptsToo⟩
    have same : context.field other = context.field path := by
      unfold Context.field Metadata.field
      rw [meant, meantToo]
    dsimp only
    rw [same]
    cases found : context.field path with
    | error fault => exact .error rfl
    | ok made =>
      obtain ⟨⟨expr, d⟩, after⟩ := made
      exact .ok ⟨rfl, rfl, (Context.field_some found).2.2⟩
  operators found args := by
    rintro context _ ⟨rfl, rfl⟩
    cases evaluated : Operator.evaluate _ _ args context with
    | error fault => exact .error rfl
    | ok made => exact .ok ⟨rfl, rfl, keeps _ _ found _ _ _ _ _ evaluated⟩
  arguments _ := rfl
  quotes operator reason other := rfl
  counts related := by rw [related.1]

namespace Catalog

/-- If all names can be written in paths, each written path is accepted by one field of a registered
entity at most, and this is the one that is found for it. A field is found by its canonical path and
by each spelling that leaves out the signs of some relations to one record. Requests that write the
same fields in other ways are compiled to the same. -/
theorem discover_finds_spellings {catalog : Catalog} (asked : catalog.Asked)
    (names : catalog.schema.PathNames) {entity : String}
    (registered : catalog.schema.contains entity = true) {registry : Registry}
    (keeps : registry.KeepsFields) :
    ∃ metadata next, catalog.discover entity = .ok (metadata, next) ∧
      (∀ path, metadata.descriptors.filter (·.accepts path) = (metadata.get? path).toList) ∧
      (∀ d ∈ metadata.descriptors, metadata.get? d.path = some d ∧
        ∀ parts, List.Forall₂ Segment.Spelled d.segments parts →
          metadata.get? (PathPart.written parts) = some d) ∧
      ∀ maxDepth request other, Request.Respelled metadata.SameField request other →
        Alike Query.SameMeaning (fun fault twin => fault.code = twin.code)
          (request.compile registry maxDepth catalog.schema metadata)
          (other.compile registry maxDepth catalog.schema metadata) := by
  obtain ⟨discovered, _⟩ := Metadata.discover_eq_chains names registered catalog.maxDepth
  obtain ⟨next, answered⟩ := asked.discover discovered
  obtain ⟨discerns, named⟩ := Metadata.discerns_of_discover names registered discovered
  refine ⟨_, next, answered, discerns.filter_accepts, fun d listed => ⟨?_, fun parts spelled => ?_⟩,
    fun maxDepth request other respelled => ?_⟩
  · exact discerns.get?_eq_some_iff.mpr ⟨listed, Descriptor.accepts_path (named d listed)⟩
  · exact discerns.get?_eq_some_iff.mpr
      ⟨listed, Descriptor.accepts_written (named d listed) spelled⟩
  · exact Request.compile_agree (keeps.agrees discerns) maxDepth ⟨rfl, rfl⟩ respelled

open Sample in
/-- The name of a parent is found with and without the sign of the relation. -/
theorem discover_finds_spellings_node :
    (Asked { schema := nodes, maxDepth := 2 } ∧ nodes.PathNames ∧ nodes.contains "Node" = true ∧
      Registry.builtin.KeepsFields) ∧
    ∃ metadata next, discover { schema := nodes, maxDepth := 2 } "Node" = .ok (metadata, next) ∧
      (∀ path, metadata.descriptors.filter (·.accepts path) = (metadata.get? path).toList) ∧
      (∀ d ∈ metadata.descriptors, metadata.get? d.path = some d ∧
        ∀ parts, List.Forall₂ Segment.Spelled d.segments parts →
          metadata.get? (PathPart.written parts) = some d) ∧
      ∀ maxDepth request other, Request.Respelled metadata.SameField request other →
        Alike Query.SameMeaning (fun fault twin => fault.code = twin.code)
          (request.compile .builtin maxDepth nodes metadata)
          (other.compile .builtin maxDepth nodes metadata) := by
  have names : nodes.PathNames := by decide
  exact ⟨⟨.new nodes 2, names, rfl, Registry.builtin_keepsFields⟩,
    discover_finds_spellings (.new nodes 2) names rfl Registry.builtin_keepsFields⟩

open Sample in
example : ((Metadata.discover nodes 2 "Node").map fun metadata =>
    ["parent.parent.name", "parent>parent.name", ".name", ">name"].map fun path =>
      (metadata.get? path).map (·.path)) =
    .ok [some ">parent>parent.name", some ">parent>parent.name", none, none] := by cbv

end Catalog

end RecordQuery
