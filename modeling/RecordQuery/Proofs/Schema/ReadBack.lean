import RecordQuery.Proofs.Fallible
import RecordQuery.Proofs.Json.Fields
import RecordQuery.Proofs.Json.RoundTrip
import RecordQuery.Schema.Validation

/-! # Schemas that are read back

Entities are read back from what they are written as, with the members of objects in any order and
as a tree or as a text. -/

namespace RecordQuery

open Json (Rearranges Form)

variable {arrange : Json → Json}

/-! ## Alternatives -/

/-- A target is read back from its name. -/
theorem Target.ofJson?_toJson (target : Target) : ofJson? target.toJson = some target := by
  cases target <;> rfl

theorem Cardinality.ofJson?_toJson (cardinality : Cardinality) :
    ofJson? cardinality.toJson = some cardinality := by
  cases cardinality <;> rfl

/-- There are no members to rearrange in a target. -/
theorem Target.arrange_toJson (rearranges : Rearranges arrange) (target : Target) :
    arrange target.toJson = target.toJson := by
  cases target <;> exact rearranges.string _

theorem Cardinality.arrange_toJson (rearranges : Rearranges arrange) (cardinality : Cardinality) :
    arrange cardinality.toJson = cardinality.toJson := by
  cases cardinality <;> exact rearranges.string _

/-! ## Types of values -/

namespace ValueType

/-- A type is read back from its rearranged tree as soon as the depth allowed is greater than that
of the tree. -/
theorem decode?_arrange (rearranges : Rearranges arrange) (form : Form) (type : ValueType)
    {depth : Nat} (enough : (arrange type.toJson).depth < depth) :
    decode? form depth (arrange type.toJson) = some type := by
  induction type generalizing depth with
  | enumeration name members =>
    obtain ⟨depth, rfl⟩ := Nat.exists_eq_succ_of_ne_zero (Nat.ne_of_gt (Nat.zero_lt_of_lt enough))
    have distinct : ([("name", Json.string name), ("members", .array (members.map .string))].map
        (·.1)).Nodup := by simp
    have fields := rearranges.contentFields?_eq form distinct ["name", "members"]
    have named : Json.list? Json.text? (arrange (.array (members.map .string))) = some members :=
      rearranges.list?_eq fun member _ => by rw [rearranges.string]; rfl
    rw [toJson, rearranges.object_singleton, decode?]
    simp only [Json.alternative?, fields, Json.member?]
    simp [Json.required?, rearranges.string, Json.text?, named]
  | list item ih =>
    obtain ⟨depth, rfl⟩ := Nat.exists_eq_succ_of_ne_zero (Nat.ne_of_gt (Nat.zero_lt_of_lt enough))
    rw [toJson, rearranges.object_singleton] at enough ⊢
    have inside : (arrange item.toJson).depth < depth := by
      simpa [Json.depth, Json.depthOfMembers] using enough
    rw [decode?]
    simp only [Json.alternative?, ih inside, Option.map_some]
  | _ =>
    obtain ⟨depth, rfl⟩ := Nat.exists_eq_succ_of_ne_zero (Nat.ne_of_gt (Nat.zero_lt_of_lt enough))
    rw [toJson, rearranges.string]
    rfl

/-- A type is read back from its rearranged tree. -/
theorem ofJson?_arrange (rearranges : Rearranges arrange) (form : Form) (type : ValueType) :
    ofJson? form (arrange type.toJson) = some type :=
  decode?_arrange rearranges form type (Nat.lt_succ_self _)

/-- A type is written without numbers. -/
theorem isExact_toJson (type : ValueType) : type.toJson.IsExact := by
  induction type with
  | enumeration name members =>
    have named : (Json.array (members.map .string)).IsExact :=
      .array (List.forall_mem_map.mpr fun _ _ => .string)
    exact .object (by simpa using .object (by simpa using ⟨.string, named⟩))
  | list item ih => exact .object (by simpa using ih)
  | _ => exact .string

end ValueType

/-! ## Directives -/

namespace Directives

/-- The sizes have sixty-four bits. -/
def SizesFit (directives : Directives) : Prop :=
  ∀ size, some size ∈ [directives.maxSize, directives.minSize, directives.maxDigits,
    directives.minDigits] → size < 0x10000000000000000

/-- A text that may be missing is read back. -/
theorem optional?_text (rearranges : Rearranges arrange) (value : Option String) :
    Json.optional? Json.text? (some (arrange ((value.map Json.string).getD .null))) =
      some value := by
  cases value with
  | none => rw [Option.map_none, Option.getD_none, rearranges.null]; rfl
  | some text => rw [Option.map_some, Option.getD_some, rearranges.string]; rfl

/-- A size of at most 64 bits that may be missing is read back. -/
theorem optional?_size (rearranges : Rearranges arrange) (value : Option Nat)
    (fits : ∀ n, some n = value → n < 0x10000000000000000) :
    Json.optional? Json.size? (some (arrange (((value.bind fun n => pure (n : Int)).map fun n =>
      Json.integer n).getD .null))) = some value := by
  cases value with
  | none =>
    change Json.optional? Json.size? (some (arrange .null)) = _
    rw [rearranges.null]
    rfl
  | some n =>
    have inRange : 0 ≤ (n : Int) ∧ (n : Int) < 0x10000000000000000 := by
      have small := fits n rfl
      omega
    change Json.optional? Json.size? (some (arrange (.integer n))) = _
    rw [rearranges.integer]
    refine Json.optional?_some rfl ?_
    rw [Json.size?, if_pos inRange, Int.toNat_natCast]

/-- Directives whose sizes fit are read back from their rearranged tree. -/
theorem ofJson?_arrange (rearranges : Rearranges arrange) {directives : Directives}
    (fit : directives.SizesFit) : ofJson? (arrange directives.toJson) = some directives := by
  have maxSize := optional?_size rearranges directives.maxSize fun n same =>
    fit n (by simp [same])
  have minSize := optional?_size rearranges directives.minSize fun n same =>
    fit n (by simp [same])
  have maxDigits := optional?_size rearranges directives.maxDigits fun n same =>
    fit n (by simp [same])
  have minDigits := optional?_size rearranges directives.minDigits fun n same =>
    fit n (by simp [same])
  simp only [toJson, ofJson?]
  rw [rearranges.fields?_eq (by simp)]
  simp only [List.map_cons, List.map_nil, Json.member?, String.reduceEq, ↓reduceIte,
    Option.map_some, Option.bind_eq_bind, Option.bind_some, Json.defaulted?, Json.truth?,
    optional?_text rearranges, maxSize, minSize, maxDigits, minDigits, rearranges.bool,
    Target.arrange_toJson rearranges, Target.ofJson?_toJson]
  rfl

theorem isExact_toJson {directives : Directives} (fit : directives.SizesFit) :
    directives.toJson.IsExact := by
  have text (value : Option String) : ((value.map Json.string).getD .null).IsExact := by
    cases value <;> constructor
  have size {value : Option Nat} (fits : ∀ n, some n = value → n < 0x10000000000000000) :
      (((value.bind fun n => pure (n : Int)).map fun n => Json.integer n).getD .null).IsExact := by
    cases value with
    | none => exact .null
    | some n =>
      have small := fits n rfl
      exact .integer (by omega) (by omega)
  have target : directives.target.toJson.IsExact := by
    cases directives.target <;> exact .string
  refine .object ?_
  simp only [List.forall_mem_cons]
  exact ⟨target, text _, size fun n same => fit n (by simp [same]),
    size fun n same => fit n (by simp [same]), text _, size fun n same => fit n (by simp [same]),
    size fun n same => fit n (by simp [same]), text _, .bool, .bool, by simp⟩

end Directives

/-! ## Fields and entities -/

namespace Field

variable {form : Form}

/-- The members that a field is written with. -/
def members (field : Field) : List (String × Json) :=
  ("name", .string field.name) :: (kindMembers field.kind ++
    (field.searchable.map fun directives => ("searchable", directives.toJson)).toList ++
    if field.nested then [("nested", .bool true)] else [])

theorem toJson_eq_object (field : Field) : field.toJson = .object field.members := rfl

/-- The members of a field have distinct names. -/
theorem names_nodup (field : Field) : (field.members.map (·.1)).Nodup := by
  obtain ⟨name, kind, searchable, nested⟩ := field
  unfold members
  cases kind <;> cases searchable <;> cases nested <;> simp [kindMembers]

/-- What a field has besides its kind has its own members. -/
theorem fields?_arrange (rearranges : Rearranges arrange) (field : Field) :
    (arrange field.toJson).fields? ["name", "type", "embedded", "relation", "cardinality",
      "searchable", "nested"] =
    some [some (.string field.name), (Json.member? "type" (kindMembers field.kind)).map arrange,
      (Json.member? "embedded" (kindMembers field.kind)).map arrange,
      (Json.member? "relation" (kindMembers field.kind)).map arrange,
      (Json.member? "cardinality" (kindMembers field.kind)).map arrange,
      field.searchable.map fun directives => arrange directives.toJson,
      if field.nested then some (.bool true) else none] := by
  have searchable (key : String) :
      Json.member? key
        (field.searchable.map fun directives => ("searchable", directives.toJson)).toList =
      if "searchable" = key then field.searchable.map Directives.toJson else none := by
    cases field.searchable with
    | none => simp [Json.member?]
    | some directives => simp [Json.member?]
  have nested (key : String) :
      Json.member? key (if field.nested then [("nested", .bool true)] else []) =
      if "nested" = key ∧ field.nested then some (.bool true) else none := by
    cases field.nested <;> simp [Json.member?]
  have noSearchable : Json.member? "searchable" (kindMembers field.kind) = none := by
    cases field.kind <;> rfl
  have noNested : Json.member? "nested" (kindMembers field.kind) = none := by
    cases field.kind <;> rfl
  have mark : (if field.nested then some (.bool true) else none : Option Json).map arrange =
      if field.nested then some (.bool true) else none := by
    cases field.nested
    · rfl
    · exact congrArg some (rearranges.bool true)
  rw [toJson_eq_object, rearranges.fields?_eq field.names_nodup, members]
  simp only [List.map_cons, List.map_nil, Json.member?, Json.member?_append, searchable, nested,
    noSearchable, noNested, String.reduceEq, ↓reduceIte, false_and, true_and, Option.or_none,
    Option.none_or, Option.map_some, rearranges.string, Option.map_map, Function.comp_def, mark]

/-- The kind of a field by the members that say what it holds. -/
def kindOf? (type : Option ValueType) (embedded relation : Option String)
    (cardinality : Option Cardinality) : Option FieldKind :=
  match type, embedded, relation with
  | some type, none, none => some (.scalar type)
  | none, some type, none => some (.embedded type)
  | none, none, some target => some (.relation target (cardinality.getD .one))
  | _, _, _ => none

/-- A field is read from its members one by one. -/
theorem ofJson?_of_fields {json : Json} {type embedded relation cardinality searchable nested :
      Option Json} {typed : Option ValueType} {valued target : Option String}
    {several : Option Cardinality} {field : Field}
    (fields : json.fields? ["name", "type", "embedded", "relation", "cardinality", "searchable",
      "nested"] =
        some [some (.string field.name), type, embedded, relation, cardinality, searchable, nested])
    (readType : Json.optional? (ValueType.ofJson? form) type = some typed)
    (readEmbedded : Json.optional? Json.text? embedded = some valued)
    (readRelation : Json.optional? Json.text? relation = some target)
    (readCardinality : Json.optional? Cardinality.ofJson? cardinality = some several)
    (readSearchable : Json.optional? Directives.ofJson? searchable = some field.searchable)
    (readNested : Json.defaulted? false Json.truth? nested = some field.nested)
    (kind : kindOf? typed valued target several = some field.kind) :
    ofJson? form json = some field := by
  simp only [ofJson?, fields, Option.bind_eq_bind, Option.bind_some, Json.required?, Json.text?,
    readType, readEmbedded, readRelation, readCardinality, readSearchable, readNested]
  obtain ⟨name, held, searchable, nested⟩ := field
  unfold kindOf? at kind
  split at kind <;> cases kind <;> rfl

/-- A field whose sizes fit is read back from its rearranged tree. -/
theorem ofJson?_arrange (rearranges : Rearranges arrange) (form : Form) {field : Field}
    (fit : ∀ directives, field.searchable = some directives → directives.SizesFit) :
    ofJson? form (arrange field.toJson) = some field := by
  have searchable : Json.optional? Directives.ofJson?
      (field.searchable.map fun directives => arrange directives.toJson) =
        some field.searchable := by
    cases same : field.searchable with
    | none => rfl
    | some directives =>
      exact Json.optional?_some rfl (Directives.ofJson?_arrange rearranges (fit directives same))
  have nested : Json.defaulted? false Json.truth?
      (if field.nested then some (.bool true) else none) = some field.nested := by
    cases field.nested <;> rfl
  have text (name : String) :
      Json.optional? Json.text? (some (arrange (.string name))) = some (some name) := by
    rw [rearranges.string]
    rfl
  have fields := fields?_arrange rearranges field
  cases same : field.kind with
  | scalar type =>
    rw [same] at fields
    have typed := Json.optional?_some rfl (ValueType.ofJson?_arrange rearranges form type)
    exact ofJson?_of_fields fields typed rfl rfl rfl searchable nested (congrArg some same.symm)
  | embedded type =>
    rw [same] at fields
    exact ofJson?_of_fields fields rfl (text type) rfl rfl searchable nested
      (congrArg some same.symm)
  | relation target cardinality =>
    rw [same] at fields
    have several : Json.optional? Cardinality.ofJson? (some (arrange cardinality.toJson)) =
        some (some cardinality) := by
      rw [Cardinality.arrange_toJson rearranges]
      exact Json.optional?_some rfl (Cardinality.ofJson?_toJson cardinality)
    exact ofJson?_of_fields fields rfl rfl (text target) several searchable nested
      (congrArg some same.symm)

theorem isExact_toJson {field : Field}
    (fit : ∀ directives, field.searchable = some directives → directives.SizesFit) :
    field.toJson.IsExact := by
  have kind : ∀ member ∈ kindMembers field.kind, member.2.IsExact := by
    cases field.kind with
    | scalar type => simpa [kindMembers] using ValueType.isExact_toJson type
    | embedded type => simpa [kindMembers] using .string
    | relation target cardinality =>
      have several : cardinality.toJson.IsExact := by cases cardinality <;> exact .string
      simpa [kindMembers] using ⟨.string, several⟩
  have searchable : ∀ member ∈ (field.searchable.map fun directives =>
      ("searchable", directives.toJson)).toList, member.2.IsExact := by
    intro member found
    obtain ⟨directives, same, rfl⟩ := Option.map_eq_some_iff.mp (Option.mem_toList.mp found)
    exact Directives.isExact_toJson (fit directives same)
  have nested : ∀ member ∈ (if field.nested then [("nested", Json.bool true)] else []),
      member.2.IsExact := by
    cases field.nested with
    | false => simp
    | true => simpa using .bool
  refine .object (List.forall_mem_cons.mpr ⟨.string, ?_⟩)
  simp only [List.forall_mem_append]
  exact ⟨⟨kind, searchable⟩, nested⟩

end Field

namespace Entity

/-- The sizes in the directives of all fields have sixty-four bits. -/
def SizesFit (entity : Entity) : Prop :=
  ∀ field ∈ entity.fields, ∀ directives, field.searchable = some directives → directives.SizesFit

variable {form : Form} {entity : Entity}

/-- An entity whose sizes fit is read back from its rearranged tree. -/
theorem ofJson?_arrange (rearranges : Rearranges arrange) (fit : entity.SizesFit) :
    ofJson? form (arrange entity.toJson) = some entity := by
  have fields : Json.list? (Field.ofJson? form)
      (arrange (.array (entity.fields.map Field.toJson))) = some entity.fields :=
    rearranges.list?_eq fun field member =>
      Field.ofJson?_arrange rearranges form (fit field member)
  obtain ⟨name, base, fields⟩ := entity
  cases base <;>
  · simp only [toJson, ofJson?]
    rw [rearranges.fields?_eq (by simp)]
    simp only [List.map_cons, List.map_nil, Json.member?, String.reduceEq, ↓reduceIte,
      Option.map_some, Option.map_none, Option.toList_none, Option.toList_some, List.cons_append,
      List.nil_append, Option.bind_eq_bind, Option.bind_some, Json.required?, Json.text?,
      Json.optional?, Json.defaulted?, rearranges.string, fields]
    rfl

theorem isExact_toJson (fit : entity.SizesFit) : entity.toJson.IsExact := by
  have fields : (Json.array (entity.fields.map Field.toJson)).IsExact :=
    .array (List.forall_mem_map.mpr fun field member => Field.isExact_toJson (fit field member))
  have base : ∀ member ∈ (entity.base.map fun base => ("extends", Json.string base)).toList,
      member.2.IsExact := by
    intro member found
    obtain ⟨base, -, rfl⟩ := Option.map_eq_some_iff.mp (Option.mem_toList.mp found)
    exact .string
  refine .object ?_
  simp only [List.cons_append, List.forall_mem_cons, List.forall_mem_append]
  exact ⟨.string, base, fields, by simp⟩

end Entity

/-! ## Schemas -/

namespace Schema

/-- The tree of a list of entities. -/
def treeOf (entities : List Entity) : Json := .array (entities.map Entity.toJson)

variable {entities : List Entity}

theorem isExact_treeOf (fit : ∀ entity ∈ entities, entity.SizesFit) :
    (treeOf entities).IsExact :=
  .array (List.forall_mem_map.mpr fun entity member => Entity.isExact_toJson (fit entity member))

/-- Entities whose sizes fit are read back from their rearranged tree. -/
theorem list?_arrange (rearranges : Rearranges arrange) (form : Form)
    (fit : ∀ entity ∈ entities, entity.SizesFit) :
    Json.list? (Entity.ofJson? form) (arrange (treeOf entities)) = some entities :=
  rearranges.list?_eq fun entity member => Entity.ofJson?_arrange rearranges (fit entity member)

/-- A text of entities that can be registered and are valid is read as their schema. -/
theorem ofText_eq_ok {text : String} {schema : Schema} (read : entitiesOfText? text = some entities)
    (registered : empty.registerAll entities = .ok schema) (valid : schema.validate = .ok ()) :
    ofText text = .ok schema := by
  simp only [ofText, read, registered, valid, Fallible.ok_bind, Fallible.pure_eq_ok]

/-- Entities are read back from their tree and from both its written forms, with the members of all
objects in the order in which they are declared or sorted. If the entities make up a valid schema,
this is the one that is read. -/
theorem entities_readBack {json : Json} (fit : ∀ entity ∈ entities, entity.SizesFit)
    (written : json = treeOf entities ∨ json = (treeOf entities).sorted) :
    (∀ form, Json.list? (Entity.ofJson? form) json = some entities) ∧
    (json.depth ≤ Json.depthLimit → ∀ text ∈ [json.compact, json.pretty],
      entitiesOfText? text = some entities ∧
      ∀ schema, empty.registerAll entities = .ok schema → schema.validate = .ok () →
        ofText text = .ok schema) := by
  have exact : json.IsExact := by
    rcases written with rfl | rfl
    · exact isExact_treeOf fit
    · exact (isExact_treeOf fit).sorted
  have read (form : Form) : Json.list? (Entity.ofJson? form) json = some entities := by
    rcases written with rfl | rfl
    · exact list?_arrange Json.rearranges_id form fit
    · exact list?_arrange Json.rearranges_sorted form fit
  refine ⟨read, fun shallow text form => ?_⟩
  have parsed : Json.ofTextRaw? text = some json := by
    simp only [List.mem_cons, List.not_mem_nil, or_false] at form
    rcases form with rfl | rfl
    · exact Json.ofTextRaw?_compact exact shallow
    · exact Json.ofTextRaw?_pretty exact shallow
  have entitiesRead : entitiesOfText? text = some entities := by
    rw [entitiesOfText?, parsed, Option.bind_some, read]
  exact ⟨entitiesRead, fun schema => ofText_eq_ok entitiesRead⟩

end Schema

namespace Sample

/-- A type with fields of all kinds. -/
def ticket : Entity where
  name := "Ticket"
  base := some "Base"
  fields :=
    [{ name := "term", kind := .scalar .string
       searchable := some
        { target := .string, maxSize := some 0x7FFFFFFFFFFFFFFF, minSize := some 0
          regexPattern := some "day|week", trim := true } },
     { name := "grid", kind := .scalar (.list (.list (.enumeration "State" ["OPEN", "\"A\nB\""])))
       searchable := some { target := .enumeration, sortable := false } },
     { name := "parts", kind := .relation "Ticket" .many, nested := true },
     { name := "origin", kind := .embedded "Base" }]

/-- A type with fields of all kinds and its base. -/
def tickets : List Entity := [{ name := "Base" }, ticket]

def ticketSchema : Schema := ⟨tickets, by decide⟩

end Sample

namespace Schema

open Sample in
/-- Fields of all kinds are read back, sorted, compact and indented. -/
theorem entities_readBack_tickets :
    ((∀ entity ∈ tickets, entity.SizesFit) ∧ (treeOf tickets).depth ≤ Json.depthLimit ∧
      empty.registerAll tickets = .ok ticketSchema ∧ ticketSchema.validate = .ok ()) ∧
    (∀ form, Json.list? (Entity.ofJson? form) (treeOf tickets).sorted = some tickets) ∧
    ofText (treeOf tickets).compact = .ok ticketSchema ∧
    ofText (treeOf tickets).pretty = .ok ticketSchema := by
  have fit : ∀ entity ∈ tickets, entity.SizesFit := by
    simp [tickets, ticket, Entity.SizesFit, Directives.SizesFit]
  have shallow : (treeOf tickets).depth ≤ Json.depthLimit := by decide +kernel
  have registered : empty.registerAll tickets = .ok ticketSchema := rfl
  have valid : ticketSchema.validate = .ok () := by decide +kernel
  obtain ⟨-, texts⟩ := entities_readBack fit (.inl rfl)
  obtain ⟨-, compact⟩ := texts shallow (treeOf tickets).compact (by simp)
  obtain ⟨-, pretty⟩ := texts shallow (treeOf tickets).pretty (by simp)
  exact ⟨⟨fit, shallow, registered, valid⟩, (entities_readBack fit (.inr rfl)).1,
    compact ticketSchema registered valid, pretty ticketSchema registered valid⟩

end Schema

end RecordQuery
