import RecordQuery.Proofs.Catalog.StepText

/-! # Sources that are made once

Sources are made once for each text of steps. If different steps of the ways to some fields have
different texts, a source that is found under a text is the one that its own steps lead to, and each
field is compiled to its own expression, whatever fields have been compiled before. -/

namespace RecordQuery

open Fallible

/-- The ways to the fields that written paths mean. -/
def Metadata.ways (metadata : Metadata) (schema : Schema) (paths : List String) : List Traversal :=
  paths.filterMap fun path => do
    let d ← metadata.get? path
    let steps ← (Traversal.resolve schema metadata.entity d).toOption
    return steps.dropLast

/-- The fields that written paths mean start at the entity. -/
def Metadata.Starts (metadata : Metadata) (schema : Schema) : Prop :=
  ∀ {path d}, metadata.get? path = some d → d.StartsAt schema metadata.entity

namespace Metadata

variable {metadata : Metadata} {schema : Schema}

/-- The ways of some paths are those to the fields that the paths mean, without the attributes at
their ends. -/
theorem mem_ways_iff {paths : List String} {way : Traversal} :
    way ∈ metadata.ways schema paths ↔ ∃ path ∈ paths, ∃ d, metadata.get? path = some d ∧
      ∃ steps, Traversal.resolve schema metadata.entity d = .ok steps ∧ steps.dropLast = way := by
  unfold ways
  rw [List.mem_filterMap]
  refine exists_congr fun path => and_congr_right fun _ => ?_
  cases metadata.get? path with
  | none => simp
  | some d =>
    cases resolved : Traversal.resolve schema metadata.entity d with
    | error fault => simp [resolved, Except.toOption]
    | ok steps => simp [resolved, Except.toOption]

/-- Fewer paths have no further ways. -/
theorem ways_subset {fewer paths : List String} (subset : fewer ⊆ paths) :
    metadata.ways schema fewer ⊆ metadata.ways schema paths := by
  intro way member
  obtain ⟨path, listed, meaning⟩ := mem_ways_iff.mp member
  exact mem_ways_iff.mpr ⟨path, subset listed, meaning⟩

/-- The ways of paths go between sources. -/
theorem isWay_of_mem_ways (starts : metadata.Starts schema) {paths : List String} {way : Traversal}
    (member : way ∈ metadata.ways schema paths) : Traversal.IsWay schema way := by
  obtain ⟨path, _, d, meant, steps, resolved, rfl⟩ := mem_ways_iff.mp member
  obtain ⟨way, name, rfl, isWay, _⟩ := (starts meant).exists_way resolved
  rwa [List.dropLast_concat]

/-- If names are plain, the ways to fields have different texts. -/
theorem unambiguous_ways (plain : schema.PlainNames) (starts : metadata.Starts schema)
    (paths : List String) : Traversal.Unambiguous (metadata.ways schema paths) :=
  Traversal.unambiguous_of_plainNames plain fun _ member => isWay_of_mem_ways starts member

end Metadata

namespace Context

variable {context after : Context}

/-! ## The expressions of written paths -/

/-- The expressions of written paths, compiled one after the other, each with the field that the
path means. -/
def fields (context : Context) : List String → Except Fault (List (Expr × Descriptor) × Context)
  | [] => .ok ([], context)
  | path :: rest => do
    let (first, context) ← context.field path
    let (others, context) ← context.fields rest
    return (first :: others, context)

/-- Compiling paths compiles the first one and then the others in the context that this leaves. -/
theorem fields_cons {path : String} {rest : List String} {found : List (Expr × Descriptor)}
    (compiled : context.fields (path :: rest) = .ok (found, after)) :
    ∃ first middle others, context.field path = .ok (first, middle) ∧
      middle.fields rest = .ok (others, after) ∧ found = first :: others := by
  rw [fields] at compiled
  obtain ⟨⟨first, middle⟩, head, compiled⟩ := bind_eq_ok_iff.mp compiled
  obtain ⟨⟨others, _⟩, tail, compiled⟩ := bind_eq_ok_iff.mp compiled
  cases compiled
  exact ⟨first, middle, others, head, tail, rfl⟩

/-- Paths in two pieces are compiled one piece after the other. -/
theorem fields_append {paths more : List String} {found others : List (Expr × Descriptor)}
    {middle : Context} (first : context.fields paths = .ok (found, middle))
    (later : middle.fields more = .ok (others, after)) :
    context.fields (paths ++ more) = .ok (found ++ others, after) := by
  induction paths generalizing context found with
  | nil =>
    cases first
    exact later
  | cons path rest ih =>
    obtain ⟨head, next, tail, compiled, goesOn, rfl⟩ := fields_cons first
    rw [List.cons_append, fields, compiled, ok_bind]
    simp only [ih goesOn, ok_bind]
    rfl

/-- A path compiles exactly if it means a field whose expression is compiled. -/
theorem field_eq_ok_iff {path : String} {expr : Expr} {d : Descriptor} :
    context.field path = .ok ((expr, d), after) ↔
      context.metadata.get? path = some d ∧ context.expr d = .ok (expr, after) := by
  unfold Context.field Metadata.field
  cases context.metadata.get? path with
  | none => simp
  | some other =>
    simp only [ok_bind, Option.some.injEq]
    constructor
    · intro compiled
      obtain ⟨⟨made, _⟩, found, compiled⟩ := bind_eq_ok_iff.mp compiled
      cases compiled
      exact ⟨rfl, found⟩
    · rintro ⟨rfl, found⟩
      rw [found]
      rfl

/-- A path that means nothing is reported as unknown. -/
theorem field_of_unknown {path : String} (unknown : context.metadata.get? path = none) :
    context.field path = .error (.unknownField context.entity path) := by
  unfold Context.field Metadata.field
  rw [unknown]
  rfl

/-- The expression of a field is where following its steps ends. -/
theorem expr_eq_ok_iff {d : Descriptor} {expr : Expr} :
    context.expr d = .ok (expr, after) ↔
      ∃ steps, Traversal.resolve context.schema context.entity d = .ok steps ∧
        context.follow "" context.root steps = (some expr, after) := by
  refine bind_eq_ok_iff.trans (exists_congr fun steps => and_congr_right fun _ => ?_)
  cases followed : context.follow "" context.root steps with
  | mk result last => cases result <;> simp

/-- To follow a step is to enter its source and to go on from there. -/
theorem follow_cons {key : String} {reached : Source} {step : Step}
    (follows : ∀ name, step ≠ .attr name) (rest : Traversal) :
    context.follow key reached (step :: rest) =
      let entered := context.enter (key ++ step.text) step.isJoin (step.lead reached)
      entered.2.follow (key ++ step.text) entered.1 rest := by
  cases step with
  | attr name => exact absurd rfl (follows name)
  | _ => rfl

/-- What steps are followed to is an attribute, and the fields of the context stay. -/
theorem follow_some {key : String} {reached : Source} {steps : Traversal} {expr : Expr}
    (followed : context.follow key reached steps = (some expr, after)) :
    (∃ source name, expr = .attr source name) ∧ after.metadata = context.metadata := by
  induction steps generalizing context key reached with
  | nil => cases followed
  | cons step rest ih =>
    by_cases isAttr : ∃ name, step = .attr name
    · obtain ⟨name, rfl⟩ := isAttr
      cases followed
      exact ⟨⟨_, _, rfl⟩, rfl⟩
    · rw [follow_cons fun name same => isAttr ⟨name, same⟩] at followed
      obtain ⟨found, same⟩ := ih followed
      refine ⟨found, same.trans ?_⟩
      unfold enter
      split <;> rfl

/-- Following a way and an attribute ends in the attribute, whatever sources there are. -/
theorem exists_follow {schema : Schema} {way : Traversal} (isWay : way.IsWay schema) (key : String)
    (reached : Source) (name : String) : ∃ source after,
      context.follow key reached (way ++ [.attr name]) = (some (.attr source name), after) ∧
        after.schema = context.schema ∧ after.metadata = context.metadata := by
  induction way generalizing context key reached with
  | nil => exact ⟨reached, context, rfl, rfl, rfl⟩
  | cons step rest ih =>
    rw [List.cons_append, follow_cons isWay.head.ne_attr]
    generalize entering : context.enter (key ++ step.text) step.isJoin (step.lead reached) = entered
    obtain ⟨source, after, followed, sameSchema, sameFields⟩ :=
      @ih entered.2 isWay.tail (key ++ step.text) entered.1
    refine ⟨source, after, followed, sameSchema.trans ?_, sameFields.trans ?_⟩
    all_goals
      rw [← entering]
      unfold enter
      split <;> rfl

/-- A written path is compiled to an attribute and the field that it means. -/
theorem field_some {path : String} {expr : Expr} {d : Descriptor}
    (compiled : context.field path = .ok ((expr, d), after)) :
    (∃ source name, expr = .attr source name) ∧ context.metadata.get? path = some d ∧
      after.metadata = context.metadata := by
  obtain ⟨meant, made⟩ := field_eq_ok_iff.mp compiled
  obtain ⟨steps, _, followed⟩ := expr_eq_ok_iff.mp made
  obtain ⟨isAttr, same⟩ := follow_some followed
  exact ⟨isAttr, meant, same⟩

theorem fields_single {path : String} {expr : Expr} {d : Descriptor}
    (compiled : context.field path = .ok ((expr, d), after)) :
    context.fields [path] = .ok ([(expr, d)], after) := by
  rw [fields, compiled]
  rfl

/-- Each compiled field is meant by some path. -/
theorem exists_path_of_mem_fields {paths : List String} {found : List (Expr × Descriptor)}
    (compiled : context.fields paths = .ok (found, after)) {field : Expr × Descriptor}
    (listed : field ∈ found) : ∃ path, context.metadata.get? path = some field.2 := by
  induction paths generalizing context found with
  | nil =>
    cases compiled
    cases listed
  | cons path rest ih =>
    obtain ⟨⟨expr, d⟩, middle, others, first, later, rfl⟩ := fields_cons compiled
    obtain ⟨_, meant, same⟩ := field_some first
    rcases List.mem_cons.mp listed with rfl | further
    · exact ⟨path, meant⟩
    · rw [← same]
      exact ih later further

/-! ## Sources of unambiguous steps -/

variable {schema : Schema} {metadata : Metadata} {ways : List Traversal}

/-- The context of a request whose sources are each the one that some steps with its text lead to,
where these steps start one of the ways. -/
structure Keeps (schema : Schema) (metadata : Metadata) (ways : List Traversal)
    (context : Context) : Prop where
  sameSchema : context.schema = schema
  sameMetadata : context.metadata = metadata
  sources {key : String} {source : Source} (found : context.sources.lookup key = some source) :
    ∃ way ∈ ways, ∃ steps, steps <+: way ∧ Traversal.text steps = key ∧
      source = (Source.root metadata.entity).through steps

/-- A context without sources keeps to any ways. -/
theorem keeps_initial : Keeps schema metadata ways { schema, metadata } where
  sameSchema := rfl
  sameMetadata := rfl
  sources found := by cases found

theorem Keeps.mono (keeps : context.Keeps schema metadata ways) {more : List Traversal}
    (subset : ways ⊆ more) : context.Keeps schema metadata more where
  sameSchema := keeps.sameSchema
  sameMetadata := keeps.sameMetadata
  sources found := by
    obtain ⟨way, listed, rest⟩ := keeps.sources found
    exact ⟨way, subset listed, rest⟩

/-- The source of steps at the start of a way is found or made. -/
theorem Keeps.enter (keeps : context.Keeps schema metadata ways)
    (apart : Traversal.Unambiguous ways) {way steps : Traversal} (listed : way ∈ ways)
    (start : steps <+: way) (isJoin : Bool) :
    ∃ after, context.enter (Traversal.text steps) isJoin
        ((Source.root metadata.entity).through steps) =
          ((Source.root metadata.entity).through steps, after) ∧
      after.Keeps schema metadata ways := by
  unfold Context.enter
  cases known : context.sources.lookup (Traversal.text steps) with
  | some source =>
    obtain ⟨other, listedToo, others, startToo, same, rfl⟩ := keeps.sources known
    have isSame : others = steps := apart other listedToo way listed others
      ((List.mem_inits _ _).mpr startToo) steps ((List.mem_inits _ _).mpr start) same
    exact ⟨context, by rw [isSame], keeps⟩
  | none =>
    refine ⟨_, rfl, keeps.sameSchema, keeps.sameMetadata, ?_⟩
    intro key source found
    rw [List.lookup_cons] at found
    split at found
    · rename_i isKey
      cases found
      exact ⟨way, listed, steps, start, (beq_iff_eq.mp isKey).symm, rfl⟩
    · exact keeps.sources found

/-- Following the rest of a way and an attribute leads to the attribute of the source that the whole
way leads to. -/
theorem Keeps.follow (keeps : context.Keeps schema metadata ways)
    (apart : Traversal.Unambiguous ways) {done rest : Traversal} (listed : done ++ rest ∈ ways)
    (isWay : Traversal.IsWay schema rest) (name : String) :
    ∃ after, context.follow (Traversal.text done) ((Source.root metadata.entity).through done)
        (rest ++ [.attr name]) =
          (some (.attr ((Source.root metadata.entity).through (done ++ rest)) name), after) ∧
      after.Keeps schema metadata ways := by
  induction rest generalizing context done with
  | nil => exact ⟨context, by rw [List.append_nil]; rfl, keeps⟩
  | cons step rest ih =>
    have whole : done ++ step :: rest = (done ++ [step]) ++ rest := by simp
    rw [whole] at listed ⊢
    obtain ⟨middle, entered, keepsMiddle⟩ :=
      keeps.enter apart listed (List.prefix_append _ _) step.isJoin
    obtain ⟨after, followed, keepsAfter⟩ := ih keepsMiddle listed isWay.tail
    refine ⟨after, ?_, keepsAfter⟩
    rw [Traversal.text_append, Traversal.text_single, Source.through_append,
      Source.through_single] at entered followed
    rw [List.cons_append, follow_cons isWay.head.ne_attr]
    simp only [entered]
    exact followed

/-- Where different steps have different texts, a field is compiled to its own expression, and the
context keeps to the ways. -/
theorem Keeps.exists_expr (keeps : context.Keeps schema metadata ways)
    (apart : Traversal.Unambiguous ways) {d : Descriptor} {way : Traversal} {name : String}
    (resolved : Traversal.resolve schema metadata.entity d = .ok (way ++ [.attr name]))
    (isWay : Traversal.IsWay schema way) (listed : way ∈ ways) :
    ∃ after, context.expr d =
        .ok (.attr ((Source.root metadata.entity).through way) name, after) ∧
      after.Keeps schema metadata ways := by
  have whole : [] ++ way ∈ ways := listed
  obtain ⟨after, followed, keepsAfter⟩ := keeps.follow apart whole isWay name
  refine ⟨after, expr_eq_ok_iff.mpr ⟨way ++ [.attr name], ?_, ?_⟩, keepsAfter⟩
  · rwa [keeps.sameSchema, entity, keeps.sameMetadata]
  · rw [root, entity, keeps.sameMetadata]
    exact followed

/-- A field is compiled to its own expression, whatever has been compiled before. -/
theorem Keeps.expr (keeps : context.Keeps schema metadata ways)
    (apart : Traversal.Unambiguous ways) (starts : metadata.Starts schema) {path : String}
    (covered : metadata.ways schema [path] ⊆ ways) {d : Descriptor}
    (meant : metadata.get? path = some d) {expr : Expr}
    (compiled : context.expr d = .ok (expr, after)) :
    d.ownExpr? schema metadata.entity = some expr ∧ after.Keeps schema metadata ways := by
  obtain ⟨steps, resolved, _⟩ := expr_eq_ok_iff.mp compiled
  rw [keeps.sameSchema, entity, keeps.sameMetadata] at resolved
  obtain ⟨way, name, rfl, isWay, _⟩ := (starts meant).exists_way resolved
  have listed : way ∈ ways := covered (Metadata.mem_ways_iff.mpr
    ⟨path, List.mem_cons_self, d, meant, _, resolved, List.dropLast_concat⟩)
  obtain ⟨last, made, keepsLast⟩ := keeps.exists_expr apart resolved isWay listed
  cases made.symm.trans compiled
  exact ⟨Descriptor.ownExpr?_of_resolve resolved, keepsLast⟩

/-- Paths whose ways have different texts are compiled to the own expressions of their fields. -/
theorem Keeps.fields (keeps : context.Keeps schema metadata ways)
    (apart : Traversal.Unambiguous ways) (starts : metadata.Starts schema) {paths : List String}
    (covered : metadata.ways schema paths ⊆ ways) {found : List (Expr × Descriptor)}
    (compiled : context.fields paths = .ok (found, after)) :
    (∀ field ∈ found, field.2.ownExpr? schema metadata.entity = some field.1) ∧
      after.Keeps schema metadata ways := by
  induction paths generalizing context found with
  | nil =>
    cases compiled
    exact ⟨by simp, keeps⟩
  | cons path rest ih =>
    obtain ⟨⟨expr, d⟩, next, others, first, later, rfl⟩ := fields_cons compiled
    obtain ⟨meant, made⟩ := field_eq_ok_iff.mp first
    rw [keeps.sameMetadata] at meant
    have single : metadata.ways schema [path] ⊆ ways :=
      List.Subset.trans (Metadata.ways_subset (by simp)) covered
    have fewer : metadata.ways schema rest ⊆ ways :=
      List.Subset.trans (Metadata.ways_subset (List.subset_cons_self path rest)) covered
    obtain ⟨own, keepsNext⟩ := keeps.expr apart starts single meant made
    obtain ⟨ownOthers, keepsLast⟩ := ih keepsNext fewer later
    exact ⟨List.forall_mem_cons.mpr ⟨own, ownOthers⟩, keepsLast⟩

end Context

end RecordQuery
