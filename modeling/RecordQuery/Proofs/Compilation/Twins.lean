import RecordQuery.Proofs.Compilation.Filter
import RecordQuery.Proofs.Operator.Uniformity

/-! # One filter for two entities

Where the paths of a filter mean the same fields of two entities, and each field is read for one
entity from a source that is given for its source for the other, the filter is compiled to one
predicate with other sources. -/

namespace RecordQuery

open Fallible

/-- The filter does not call an operator. -/
inductive Filter.Without (operator : String) : Filter → Prop where
  | literal {value : Value} : Without operator (.literal value)
  | field {path : String} : Without operator (.field path)
  | call {name : String} {args : List Filter} (other : name ≠ operator)
      (each : ∀ arg ∈ args, Without operator arg) : Without operator (.call name args)

/-- Some paths mean the same fields of two entities. The expression of each for the second entity is
that for the first one, drawn from other sources. Different steps have different texts. -/
structure Metadata.Twins (schema : Schema) (sources : Source → String → Source)
    (paths : List String) (metadata other : Metadata) : Prop where
  starts : metadata.Starts schema
  startsToo : other.Starts schema
  apart : Traversal.Unambiguous (metadata.ways schema paths)
  apartToo : Traversal.Unambiguous (other.ways schema paths)
  same {path : String} (listed : path ∈ paths) : metadata.get? path = other.get? path
  moves {path : String} {d : Descriptor} {expr exprToo : Expr} (listed : path ∈ paths)
    (meant : metadata.get? path = some d) (own : d.ownExpr? schema metadata.entity = some expr)
    (ownToo : d.ownExpr? schema other.entity = some exprToo) : exprToo = expr.redraw sources

/-- Two contexts keep what has been found of some paths, each for its own entity. -/
structure Context.KeepBoth (schema : Schema) (paths : List String) (metadata other : Metadata)
    (context contextToo : Context) : Prop where
  first : context.Keeps schema metadata (metadata.ways schema paths)
  second : contextToo.Keeps schema other (other.ways schema paths)

namespace Filter

variable {schema : Schema} {sources : Source → String → Source} {paths : List String}
  {metadata other : Metadata}

/-- A path is compiled to one field with other sources. -/
theorem operand_field_redraw (twins : Metadata.Twins schema sources paths metadata other)
    {path : String} (listed : path ∈ paths) {context after contextToo afterToo : Context}
    (keep : Context.KeepBoth schema paths metadata other context contextToo)
    {result resultToo : Operand}
    (compiled : Context.fieldOperand path context = .ok (result, after))
    (compiledToo : Context.fieldOperand path contextToo = .ok (resultToo, afterToo)) :
    resultToo = result.redraw sources ∧
      Context.KeepBoth schema paths metadata other after afterToo := by
  obtain ⟨expr, d, rfl, found⟩ := Context.of_fieldOperand compiled
  obtain ⟨exprToo, dToo, rfl, foundToo⟩ := Context.of_fieldOperand compiledToo
  obtain ⟨meant, made⟩ := Context.field_eq_ok_iff.mp found
  obtain ⟨meantToo, madeToo⟩ := Context.field_eq_ok_iff.mp foundToo
  rw [keep.first.sameMetadata] at meant
  rw [keep.second.sameMetadata] at meantToo
  cases (twins.same listed).symm.trans meant |>.symm.trans meantToo
  have single : [path] ⊆ paths := by simpa using listed
  obtain ⟨own, keepsAfter⟩ :=
    keep.first.expr twins.apart twins.starts (Metadata.ways_subset single) meant made
  obtain ⟨ownToo, keepsAfterToo⟩ :=
    keep.second.expr twins.apartToo twins.startsToo (Metadata.ways_subset single) meantToo madeToo
  rw [twins.moves listed meant own ownToo]
  exact ⟨rfl, ⟨keepsAfter, keepsAfterToo⟩⟩

mutual

/-- A filter is compiled to one operand with other sources. -/
theorem operand_redraw (twins : Metadata.Twins schema sources paths metadata other) :
    ∀ {filter : Filter} {context after contextToo afterToo : Context} {result resultToo : Operand},
      filter.Without "enum" → filter.fields ⊆ paths →
        Context.KeepBoth schema paths metadata other context contextToo →
          operand .builtin filter context = .ok (result, after) →
            operand .builtin filter contextToo = .ok (resultToo, afterToo) →
              resultToo = result.redraw sources ∧
                Context.KeepBoth schema paths metadata other after afterToo
  | .literal value, _, _, _, _, _, _, _, _, keep, compiled, compiledToo => by
    rw [operand] at compiled compiledToo
    obtain ⟨rfl, rfl⟩ := Compiler.pure_eq_ok_iff.mp compiled
    obtain ⟨rfl, rfl⟩ := Compiler.pure_eq_ok_iff.mp compiledToo
    exact ⟨rfl, keep⟩
  | .field path, _, _, _, _, _, _, _, covered, keep, compiled, compiledToo => by
    rw [operand] at compiled compiledToo
    have listed : path ∈ paths := covered List.mem_cons_self
    exact operand_field_redraw twins listed keep compiled compiledToo
  | .call name args, context, after, contextToo, afterToo, result, resultToo, .call noEnum each,
      covered, keep, compiled, compiledToo => by
    obtain ⟨operator, results, middle, registered, made, evaluated⟩ := of_operand_call compiled
    obtain ⟨_, resultsToo, middleToo, registeredToo, madeToo, evaluatedToo⟩ :=
      of_operand_call compiledToo
    cases registered.symm.trans registeredToo
    obtain ⟨rfl, keepMiddle⟩ := operands_redraw twins each covered keep made madeToo
    -- An operator that does the same for all sources makes the same of redrawn operands.
    have uniform := Registry.builtin_uniform registered noEnum
    have redraws := uniform.redraws sources name results middle middleToo
    rw [evaluated, evaluatedToo] at redraws
    cases uniform.stays evaluated
    cases redraws
    exact ⟨rfl, keepMiddle⟩

/-- Arguments are compiled for the second entity to what they are compiled to for the first one,
drawn from other sources. -/
theorem operands_redraw (twins : Metadata.Twins schema sources paths metadata other) :
    ∀ {args : List Filter} {context after contextToo afterToo : Context}
      {results resultsToo : List Operand}, (∀ arg ∈ args, arg.Without "enum") →
      fieldsOfArgs args ⊆ paths →
        Context.KeepBoth schema paths metadata other context contextToo →
          operands .builtin args context = .ok (results, after) →
            operands .builtin args contextToo = .ok (resultsToo, afterToo) →
              resultsToo = results.map (Operand.redraw sources) ∧
                Context.KeepBoth schema paths metadata other after afterToo
  | [], _, _, _, _, _, _, _, _, keep, compiled, compiledToo => by
    rw [operands] at compiled compiledToo
    obtain ⟨rfl, rfl⟩ := Compiler.pure_eq_ok_iff.mp compiled
    obtain ⟨rfl, rfl⟩ := Compiler.pure_eq_ok_iff.mp compiledToo
    exact ⟨rfl, keep⟩
  | arg :: rest, _, _, _, _, _, _, each, covered, keep, compiled, compiledToo => by
    obtain ⟨first, others, middle, head, tail, rfl⟩ := of_operands_cons compiled
    obtain ⟨firstToo, othersToo, middleToo, headToo, tailToo, rfl⟩ := of_operands_cons compiledToo
    obtain ⟨withoutArg, withoutRest⟩ := List.forall_mem_cons.mp each
    obtain ⟨inArg, inRest⟩ := List.append_subset.mp covered
    obtain ⟨rfl, keepMiddle⟩ := operand_redraw twins withoutArg inArg keep head headToo
    obtain ⟨rfl, keepLast⟩ := operands_redraw twins withoutRest inRest keepMiddle tail tailToo
    exact ⟨rfl, keepLast⟩

end

/-- A filter is compiled to one predicate with other sources. -/
theorem predicate_redraw {filter : Filter}
    (twins : Metadata.Twins schema sources filter.fields metadata other)
    (noEnum : filter.Without "enum") {predicate predicateToo : Predicate} {after afterToo : Context}
    (compiled : filter.predicate .builtin { schema, metadata } = .ok (predicate, after))
    (compiledToo : filter.predicate .builtin { schema, metadata := other } =
      .ok (predicateToo, afterToo)) : predicateToo = predicate.redraw sources := by
  obtain ⟨root, made, condition⟩ := of_predicate compiled
  obtain ⟨rootToo, madeToo, conditionToo⟩ := of_predicate compiledToo
  have keep : Context.KeepBoth schema filter.fields metadata other { schema, metadata }
      { schema, metadata := other } := ⟨Context.keeps_initial, Context.keeps_initial⟩
  obtain ⟨rfl, -⟩ := operand_redraw twins noEnum (List.Subset.refl _) keep made madeToo
  rw [Operand.toPredicate_redraw, condition] at conditionToo
  cases conditionToo
  rfl

end Filter

end RecordQuery
