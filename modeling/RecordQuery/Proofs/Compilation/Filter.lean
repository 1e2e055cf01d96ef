import RecordQuery.Proofs.Compilation.Sources
import RecordQuery.Proofs.Operator.Preservation
import RecordQuery.Compilation.Filter

/-! # What filters are compiled to

Compiling a filter compiles the paths in it in the order of the text. What comes out is over the
fields of these paths. -/

namespace RecordQuery

open Fallible

/-! ## Compilers as computations -/

namespace Compiler

variable {α β : Type} {context after : Context}

theorem pure_eq_ok_iff {a b : α} :
    (pure a : Compiler α) context = .ok (b, after) ↔ a = b ∧ context = after := by
  refine ⟨fun made => ?_, fun ⟨same, stays⟩ => by rw [same, stays]; rfl⟩
  cases made
  exact ⟨rfl, rfl⟩

/-- Two compilers one after the other succeed exactly if the first one does and the second one does
in the context that it leaves. -/
theorem bind_eq_ok_iff {x : Compiler α} {f : α → Compiler β} {b : β} :
    (x >>= f) context = .ok (b, after) ↔
      ∃ a middle, x context = .ok (a, middle) ∧ f a middle = .ok (b, after) := by
  refine Fallible.bind_eq_ok_iff.trans ⟨?_, ?_⟩
  · rintro ⟨⟨a, middle⟩, first, later⟩
    exact ⟨a, middle, first, later⟩
  · rintro ⟨a, middle, first, later⟩
    exact ⟨(a, middle), first, later⟩

/-- A computation without a context succeeds in any context and leaves it as it is. -/
theorem lift_eq_ok_iff {x : Except Fault α} {a : α} :
    (liftM x : Compiler α) context = .ok (a, after) ↔ x = .ok a ∧ context = after := by
  cases x with
  | error fault => exact ⟨fun made => (by cases made), fun made => (by cases made.1)⟩
  | ok value =>
    refine ⟨fun made => ?_, fun ⟨same, stays⟩ => by cases same; cases stays; rfl⟩
    cases made
    exact ⟨rfl, rfl⟩

/-- Compiling a list compiles its first item and then the others in the context that this leaves. -/
theorem of_mapM_cons {f : α → Compiler β} {x : α} {xs : List α} {ys : List β}
    (compiled : (x :: xs).mapM f context = .ok (ys, after)) :
    ∃ y others middle, f x context = .ok (y, middle) ∧ xs.mapM f middle = .ok (others, after) ∧
      ys = y :: others := by
  rw [List.mapM_cons] at compiled
  obtain ⟨y, middle, head, compiled⟩ := bind_eq_ok_iff.mp compiled
  obtain ⟨others, last, tail, compiled⟩ := bind_eq_ok_iff.mp compiled
  obtain ⟨rfl, rfl⟩ := pure_eq_ok_iff.mp compiled
  exact ⟨y, others, middle, head, tail, rfl⟩

end Compiler

/-! ## Fields -/

namespace Context

variable {context after : Context}

/-- The operand of a path is the field that the path is compiled to. -/
theorem of_fieldOperand {path : String} {result : Operand}
    (compiled : fieldOperand path context = .ok (result, after)) :
    ∃ expr d, result = .field expr d ∧ context.field path = .ok ((expr, d), after) := by
  obtain ⟨⟨⟨expr, d⟩, _⟩, found, compiled⟩ := bind_eq_ok_iff.mp compiled
  cases compiled
  exact ⟨expr, d, rfl, found⟩

end Context

/-! ## Filters -/

namespace Filter

variable {registry : Registry} {context after : Context}

/-- To compile a call is to compile its arguments and to evaluate the operator of its name. -/
theorem of_operand_call {name : String} {args : List Filter} {result : Operand}
    (compiled : operand registry (.call name args) context = .ok (result, after)) :
    ∃ operator results middle, registry.get? name = some operator ∧
      operands registry args context = .ok (results, middle) ∧
        operator.evaluate name results middle = .ok (result, after) := by
  rw [operand] at compiled
  cases registered : registry.get? name with
  | none =>
    rw [registered] at compiled
    cases compiled
  | some operator =>
    rw [registered] at compiled
    obtain ⟨_, _, checked, compiled⟩ := Compiler.bind_eq_ok_iff.mp compiled
    obtain ⟨_, rfl⟩ := Compiler.lift_eq_ok_iff.mp checked
    obtain ⟨results, middle, made, evaluated⟩ := Compiler.bind_eq_ok_iff.mp compiled
    exact ⟨operator, results, middle, rfl, made, evaluated⟩

/-- A call that compiles has as many arguments as its operator takes. -/
theorem counted_of_operand_call {name : String} {args : List Filter} {result : Operand}
    {operator : Operator} (registered : registry.get? name = some operator)
    (compiled : operand registry (.call name args) context = .ok (result, after)) :
    operator.arity.accepts args.length = true := by
  rw [operand, registered] at compiled
  obtain ⟨_, _, checked, _⟩ := Compiler.bind_eq_ok_iff.mp compiled
  obtain ⟨checked, _⟩ := Compiler.lift_eq_ok_iff.mp checked
  by_contra refused
  cases (if_neg refused).symm.trans checked

/-- A call compiles to what its operator makes of its compiled arguments, if their number is
right. -/
theorem operand_call {name : String} {args : List Filter} {operator : Operator}
    {results : List Operand} {middle : Context} {result : Operand}
    (registered : registry.get? name = some operator)
    (counted : operator.arity.check name args.length = .ok ())
    (made : operands registry args context = .ok (results, middle))
    (evaluated : operator.evaluate name results middle = .ok (result, after)) :
    operand registry (.call name args) context = .ok (result, after) := by
  rw [operand, registered]
  refine Compiler.bind_eq_ok_iff.mpr ⟨(), context, Compiler.lift_eq_ok_iff.mpr ⟨counted, rfl⟩, ?_⟩
  exact Compiler.bind_eq_ok_iff.mpr ⟨results, middle, made, evaluated⟩

/-- Compiling arguments compiles the first one and then the others in the context that this
leaves. -/
theorem of_operands_cons {arg : Filter} {rest : List Filter} {results : List Operand}
    (compiled : operands registry (arg :: rest) context = .ok (results, after)) :
    ∃ first others middle, operand registry arg context = .ok (first, middle) ∧
      operands registry rest middle = .ok (others, after) ∧ results = first :: others := by
  rw [operands] at compiled
  obtain ⟨first, middle, head, compiled⟩ := Compiler.bind_eq_ok_iff.mp compiled
  obtain ⟨others, last, tail, compiled⟩ := Compiler.bind_eq_ok_iff.mp compiled
  obtain ⟨rfl, rfl⟩ := Compiler.pure_eq_ok_iff.mp compiled
  exact ⟨first, others, middle, head, tail, rfl⟩

/-- The predicate of a filter is the condition that its operand stands for. -/
theorem of_predicate {filter : Filter} {predicate : Predicate}
    (compiled : filter.predicate registry context = .ok (predicate, after)) :
    ∃ root, operand registry filter context = .ok (root, after) ∧
      root.toPredicate filter.rootName = .ok predicate := by
  obtain ⟨root, middle, made, taken⟩ := Compiler.bind_eq_ok_iff.mp compiled
  cases condition : root.toPredicate filter.rootName with
  | error fault =>
    rw [condition] at taken
    cases taken
  | ok other =>
    rw [condition] at taken
    obtain ⟨rfl, rfl⟩ := Compiler.pure_eq_ok_iff.mp taken
    exact ⟨root, made, condition⟩

end Filter

/-- If the path is known, the field that it means is scalar. -/
def Metadata.IsScalar (metadata : Metadata) (path : String) : Prop :=
  ∀ d, metadata.get? path = some d → d.IsScalar

namespace Filter

/-- The paths of the filter mean scalar fields, apart from those that are tested for presence
directly. -/
inductive ReadsScalars (metadata : Metadata) : Filter → Prop where
  | literal {value : Value} : ReadsScalars metadata (.literal value)
  | field {path : String} (scalar : metadata.IsScalar path) : ReadsScalars metadata (.field path)
  | call {name : String} {args : List Filter}
      (each : ∀ arg ∈ args, ReadsScalars metadata arg) : ReadsScalars metadata (.call name args)
  | presence {name : String} {args : List Filter} (test : name ∈ Registry.presenceNames)
      (each : ∀ arg ∈ args, (∀ path, arg ≠ .field path) → ReadsScalars metadata arg) :
      ReadsScalars metadata (.call name args)

/-- A path is compiled to the field that it means. -/
theorem operand_field {path : String} {context after : Context} {result : Operand}
    (compiled : operand .builtin (.field path) context = .ok (result, after)) :
    ∃ found, context.fields [path] = .ok (found, after) ∧ after.metadata = context.metadata ∧
      ∀ all, found ⊆ all → result.Known all ∧
        ((field path).ReadsScalars context.metadata → result.Over all) := by
  rw [operand] at compiled
  obtain ⟨expr, d, rfl, found⟩ := Context.of_fieldOperand compiled
  obtain ⟨⟨source, name, rfl⟩, meant, same⟩ := Context.field_some found
  refine ⟨_, Context.fields_single found, same, fun all subset => ⟨?_, fun scalars => ?_⟩⟩
  · exact .inr ⟨source, name, d, rfl, subset List.mem_cons_self⟩
  · cases scalars with
    | field scalar => exact .field (subset List.mem_cons_self) (scalar d meant)

mutual

/-- A filter is compiled to an operand over the fields of its paths. -/
theorem operand_over : ∀ {filter : Filter} {context after : Context} {result : Operand},
    filter.ReadsScalars context.metadata →
      operand .builtin filter context = .ok (result, after) →
        ∃ found, context.fields filter.fields = .ok (found, after) ∧
          after.metadata = context.metadata ∧ ∀ all, found ⊆ all → result.Over all
  | .literal value, context, after, result, _, compiled => by
    rw [operand] at compiled
    obtain ⟨rfl, rfl⟩ := Compiler.pure_eq_ok_iff.mp compiled
    exact ⟨[], rfl, rfl, fun _ _ => .literal⟩
  | .field path, context, after, result, reads, compiled => by
    obtain ⟨found, read, same, known⟩ := operand_field compiled
    exact ⟨found, read, same, fun all subset => (known all subset).2 reads⟩
  | .call name args, context, after, result, reads, compiled => by
    obtain ⟨operator, results, middle, registered, each, evaluated⟩ := of_operand_call compiled
    have direct : ∀ arg ∈ args, (∀ path, arg ≠ .field path) →
        arg.ReadsScalars context.metadata := by
      cases reads with
      | call each => exact fun arg member _ => each arg member
      | presence _ each => exact each
    obtain ⟨found, read, same, isOver⟩ := operands_known direct each
    have made : ∀ all, found ⊆ all → result.Over all ∧ after = middle := by
      intro all subset
      obtain ⟨known, whole⟩ := isOver all subset
      cases reads with
      | call each => exact (Registry.builtin_preserves registered).made (whole each) evaluated
      | presence test _ =>
        obtain ⟨negate, rfl | rfl⟩ := Registry.builtin_presence test registered
        · exact Operator.nullCheck_over known evaluated
        · exact Operator.emptyCheck_over known evaluated
    obtain ⟨_, rfl⟩ := made found (List.Subset.refl _)
    exact ⟨found, read, same, fun all subset => (made all subset).1⟩

/-- The operands of arguments are over the fields of their paths, with fields that stand alone among
them. -/
theorem operands_known : ∀ {args : List Filter} {context after : Context} {results : List Operand},
    (∀ arg ∈ args, (∀ path, arg ≠ .field path) → arg.ReadsScalars context.metadata) →
      operands .builtin args context = .ok (results, after) →
        ∃ found, context.fields (fieldsOfArgs args) = .ok (found, after) ∧
          after.metadata = context.metadata ∧ ∀ all, found ⊆ all →
            (∀ result ∈ results, result.Known all) ∧
              ((∀ arg ∈ args, arg.ReadsScalars context.metadata) →
                ∀ result ∈ results, result.Over all)
  | [], context, after, results, _, compiled => by
    rw [operands] at compiled
    obtain ⟨rfl, rfl⟩ := Compiler.pure_eq_ok_iff.mp compiled
    exact ⟨[], rfl, rfl, fun _ _ => ⟨by simp, by simp⟩⟩
  | arg :: rest, context, after, results, reads, compiled => by
    obtain ⟨first, others, middle, head, tail, rfl⟩ := of_operands_cons compiled
    obtain ⟨one, readOne, sameOne, knownOne⟩ :
        ∃ found, context.fields arg.fields = .ok (found, middle) ∧
          middle.metadata = context.metadata ∧ ∀ all, found ⊆ all →
            first.Known all ∧ (arg.ReadsScalars context.metadata → first.Over all) := by
      -- A path that is an argument itself may lead to a field of any kind.
      by_cases isField : ∃ path, arg = .field path
      · obtain ⟨path, rfl⟩ := isField
        exact operand_field head
      · have scalars := reads arg List.mem_cons_self fun path same => isField ⟨path, same⟩
        obtain ⟨found, read, same, isOver⟩ := operand_over scalars head
        refine ⟨found, read, same, fun all subset => ?_⟩
        exact ⟨.inl (isOver all subset), fun _ => isOver all subset⟩
    have readsRest : ∀ other ∈ rest, (∀ path, other ≠ .field path) →
        other.ReadsScalars middle.metadata := by
      rw [sameOne]
      exact fun other member => reads other (List.mem_cons_of_mem _ member)
    obtain ⟨two, readTwo, sameTwo, knownTwo⟩ := operands_known readsRest tail
    refine ⟨one ++ two, Context.fields_append readOne readTwo, sameTwo.trans sameOne, ?_⟩
    intro all subset
    obtain ⟨known, isOver⟩ := knownOne all fun field member =>
      subset (List.mem_append_left _ member)
    obtain ⟨knownRest, overRest⟩ := knownTwo all fun field member =>
      subset (List.mem_append_right _ member)
    rw [sameOne] at overRest
    exact ⟨List.forall_mem_cons.mpr ⟨known, knownRest⟩, fun scalars =>
      List.forall_mem_cons.mpr ⟨isOver (scalars arg List.mem_cons_self),
        overRest fun other member => scalars other (List.mem_cons_of_mem _ member)⟩⟩

end

end Filter

end RecordQuery
