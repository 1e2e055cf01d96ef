import RecordQuery.Proofs.Compilation.Agreement
import RecordQuery.Proofs.Filter.Reading

/-! # What a compilation does not refuse

Reading a filter refuses it where an operator is unknown or where it nests too deep. Compiling a
filter finds fault with neither of these as long as its operators are registered and it nests no
deeper than allowed, unless one of its operators does. -/

namespace RecordQuery

open Fallible

/-- The faults of reading a filter: an operator is unknown, or the filter nests too deep. -/
inductive Fault.IsOfReading : Fault → Prop where
  | unknownOperator {name : String} : IsOfReading (.unknownOperator name)
  | tooDeep {maxDepth : Nat} : IsOfReading (Filter.tooDeep maxDepth)

/-- A fault that starts with another letter is not the one of filters that nest too deep. -/
theorem Fault.not_isOfReading_of_head {operator reason : String} {c : Char}
    (starts : reason.toList.head? = some c) (other : c ≠ 'n') :
    ¬ (Fault.malformed operator reason).IsOfReading := by
  have startsWithN (maxDepth : Nat) :
      (s!"nesting exceeds the maximum depth of {maxDepth}").toList.head? = some 'n' := by
    simp only [String.toList_append]
    rfl
  generalize made : Fault.malformed operator reason = fault
  intro ofReading
  cases ofReading with
  | unknownOperator => cases made
  | @tooDeep maxDepth =>
    cases made
    rw [startsWithN maxDepth] at starts
    exact other (Option.some.inj starts).symm

/-- What an operator says of its arguments is no fault of reading. -/
theorem Fault.not_isOfReading_of_operator {operator reason : String} (other : operator ≠ "filter") :
    ¬ (Fault.malformed operator reason).IsOfReading := by
  generalize made : Fault.malformed operator reason = fault
  intro ofReading
  cases ofReading with
  | unknownOperator => cases made
  | tooDeep =>
    cases made
    exact other rfl

/-- No operator but one that is called like filters themselves blames its arguments in this way. -/
theorem Fault.IsOfReading.isForeign {fault : Fault} (ofReading : fault.IsOfReading)
    {called : String}
    (other : called ≠ "filter") : fault.IsForeign called := by
  cases ofReading with
  | unknownOperator => trivial
  | tooDeep => exact other.symm

namespace Compiler

variable {α β : Type} {bad : Fault → Prop}

/-- In no context the compiler fails with a bad fault. -/
def Avoids (bad : Fault → Prop) (x : Compiler α) : Prop :=
  ∀ context, Fallible.Avoids bad (x context)

theorem Avoids.pure (a : α) : Avoids bad (pure a) := fun _ => avoids_ok _

theorem Avoids.throw {fault : Fault} (harmless : ¬ bad fault) :
    Avoids bad (throw fault : Compiler α) := fun _ => avoids_error_iff.mpr harmless

/-- A computation avoids the same faults within a compiler. -/
theorem Avoids.lift {x : Except Fault α} (avoids : Fallible.Avoids bad x) :
    Avoids bad (liftM x : Compiler α) := by
  intro context
  cases x with
  | error fault => exact avoids_error_iff.mpr (avoids fault rfl)
  | ok a => exact avoids_ok _

/-- Two compilers one after the other avoid bad faults if each of them does. -/
theorem Avoids.bind {x : Compiler α} {f : α → Compiler β} (first : Avoids bad x)
    (rest : ∀ a, Avoids bad (f a)) : Avoids bad (x >>= f) := fun context =>
  (first context).bind fun (a, after) => rest a after

/-- Compiling a list avoids bad faults if compiling any item does. -/
theorem Avoids.mapM {f : α → Compiler β} (each : ∀ x, Avoids bad (f x)) (xs : List α) :
    Avoids bad (xs.mapM f) := by
  induction xs with
  | nil => exact Avoids.pure []
  | cons x rest ih =>
    rw [List.mapM_cons]
    exact (each x).bind fun _ => ih.bind fun _ => Avoids.pure _

end Compiler

/-- The registry has an operator under a name, and calling it gives no bad fault. -/
def Registry.Serves (registry : Registry) (bad : Fault → Prop) (name : String) : Prop :=
  ∃ operator, registry.get? name = some operator ∧
    (∀ count, Avoids bad (operator.arity.check name count)) ∧
      ∀ args, Compiler.Avoids bad (operator.evaluate name args)

variable {registry : Registry} {bad : Fault → Prop}

/-- A path that cannot be compiled is no fault of reading. -/
theorem Context.avoids_field (ofReading : ∀ {fault}, bad fault → fault.IsOfReading) (path : String)
    (context : Context) : Avoids bad (context.field path) := by
  have known : Avoids bad (context.metadata.field path) := by
    unfold Metadata.field
    split
    · exact avoids_ok _
    · exact avoids_error_iff.mpr fun isBad => by cases ofReading isBad
  have resolved (d : Descriptor) (current : String) (segments : List Segment) :
      Avoids bad (Traversal.ofSegments context.schema d.path current segments) := by
    induction segments generalizing current with
    | nil => exact avoids_ok _
    | cons segment rest ih =>
      unfold Traversal.ofSegments
      split
      · exact avoids_error_iff.mpr fun isBad => by cases ofReading isBad
      · exact (ih _).bind fun _ => avoids_ok _
  have made (d : Descriptor) : Avoids bad (context.expr d) := by
    refine (resolved d context.entity d.segments).bind fun steps => ?_
    split
    · exact avoids_ok _
    · exact avoids_error_iff.mpr fun isBad => by cases ofReading isBad
  exact known.bind fun d => (made d).bind fun _ => avoids_ok _

namespace Filter

mutual

/-- A filter whose operators are served is compiled without a bad fault. -/
theorem operand_avoids (ofReading : ∀ {fault}, bad fault → fault.IsOfReading) :
    ∀ {filter : Filter}, (∀ {name}, filter.Calls name → registry.Serves bad name) →
      Compiler.Avoids bad (operand registry filter)
  | .literal _, _ => by
    rw [operand]
    exact .pure _
  | .field path, _ => by
    rw [operand]
    exact fun context => (context.avoids_field ofReading path).bind fun _ => avoids_ok _
  | .call name args, serves => by
    obtain ⟨operator, found, checked, evaluated⟩ := serves .here
    rw [operand, found]
    refine (Compiler.Avoids.lift (checked args.length)).bind fun _ => ?_
    have each := operands_avoids ofReading fun arg member _ calls => serves (.inside member calls)
    exact each.bind evaluated

/-- Arguments avoid bad faults if the operators that they call do. -/
theorem operands_avoids (ofReading : ∀ {fault}, bad fault → fault.IsOfReading) :
    ∀ {args : List Filter}, (∀ arg ∈ args, ∀ {name}, arg.Calls name → registry.Serves bad name) →
      Compiler.Avoids bad (operands registry args)
  | [], _ => by
    rw [operands]
    exact .pure _
  | arg :: rest, serves => by
    obtain ⟨first, later⟩ := List.forall_mem_cons.mp serves
    rw [operands]
    exact (operand_avoids ofReading first).bind fun _ =>
      (operands_avoids ofReading later).bind fun _ => .pure _

end

/-- A filter avoids bad faults if the operators that it calls do. -/
theorem predicate_avoids (ofReading : ∀ {fault}, bad fault → fault.IsOfReading) {filter : Filter}
    (serves : ∀ {name}, filter.Calls name → registry.Serves bad name) :
    Compiler.Avoids bad (filter.predicate registry) := by
  refine (operand_avoids ofReading serves).bind fun root => ?_
  split
  · exact .pure _
  · refine .throw fun isBad => Fault.not_isOfReading_of_head (c := 't') ?_ (by decide)
      (ofReading isBad)
    simp only [String.toList_append]
    rfl

end Filter

/-- A sort key that cannot be compiled is no fault of reading. -/
theorem SortCriterion.order_avoids (ofReading : ∀ {fault}, bad fault → fault.IsOfReading)
    (criterion : SortCriterion) : Compiler.Avoids bad criterion.order := fun context => by
  refine (context.avoids_field ofReading criterion.path).bind fun ((expr, d), after) => ?_
  dsimp only
  split
  · exact avoids_ok _
  · exact avoids_error_iff.mpr fun isBad =>
      Fault.not_isOfReading_of_operator (by decide) (ofReading isBad)

/-- A request is compiled without a bad fault if the operators of its filter are served and the
filter nests no deeper than allowed. -/
theorem Request.compile_avoids (ofReading : ∀ {fault}, bad fault → fault.IsOfReading)
    {request : Request} {maxDepth : Nat} (schema : Schema) (metadata : Metadata)
    (serves : ∀ filter, request.filter = some filter → filter.depth ≤ maxDepth ∧
      ∀ {name}, filter.Calls name → registry.Serves bad name) :
    Avoids bad (request.compile registry maxDepth schema metadata) := by
  have filtered : Compiler.Avoids bad (predicate registry maxDepth request.filter) := by
    cases given : request.filter with
    | none => exact .pure _
    | some filter =>
      obtain ⟨fits, served⟩ := serves filter given
      simp only [predicate, if_neg (Nat.not_lt_of_le fits)]
      exact (Filter.predicate_avoids ofReading served).bind fun _ => .pure _
  have sorted : Compiler.Avoids bad (request.sort.mapM SortCriterion.order) :=
    .mapM (SortCriterion.order_avoids ofReading) request.sort
  exact (filtered _).bind fun result => (sorted result.2).bind fun _ => avoids_ok _

/-- Operators that are built in find no fault of reading with their arguments. -/
theorem Registry.builtin_avoids_reading {name : String} {operator : Operator}
    (found : builtin.get? name = some operator) (args : List Operand) :
    Compiler.Avoids Fault.IsOfReading (operator.evaluate name args) := by
  have other : name ≠ "filter" := by
    rintro rfl
    cases found
  intro context fault refused ofReading
  exact (builtin_reads found).avoids name args context fault refused (ofReading.isForeign other)

/-- A wrong number of arguments is no fault of reading. -/
theorem Arity.check_avoids_reading (arity : Arity) (name : String) (count : Nat) :
    Avoids Fault.IsOfReading (arity.check name count) := by
  unfold check
  split
  · exact avoids_ok _
  · refine avoids_error_iff.mpr (Fault.not_isOfReading_of_head (c := 'e') ?_ (by decide))
    simp only [String.toList_append]
    rfl

end RecordQuery
