import RecordQuery.Proofs.Compilation.Filter
import RecordQuery.Proofs.Operator.Reading
import RecordQuery.Compilation.Request

/-! # Compilations side by side

Two filters that differ in some of their paths only are compiled alike in contexts that are related,
if the paths and the operators are. The same holds for requests. -/

namespace RecordQuery

open Fallible

/-! ## Respelled requests -/

/-- Two filters are the same but for paths that are written in another way. -/
inductive Filter.Respelled (same : String → String → Prop) : Filter → Filter → Prop where
  | literal {value : Value} : Respelled same (.literal value) (.literal value)
  | field {path other : String} (means : same path other) :
      Respelled same (.field path) (.field other)
  | call {name : String} {args others : List Filter}
      (each : List.Forall₂ (Respelled same) args others) :
      Respelled same (.call name args) (.call name others)

/-- Two requests are the same but for paths that are written in another way. -/
structure Request.Respelled (same : String → String → Prop) (request other : Request) : Prop where
  filter : Option.Rel (Filter.Respelled same) request.filter other.filter
  sort : List.Forall₂ (fun criterion twin =>
    same criterion.path twin.path ∧ criterion.direction = twin.direction) request.sort other.sort

variable {same : String → String → Prop}

namespace Filter

mutual

theorem Respelled.refl (refl : ∀ path, same path path) : ∀ filter : Filter,
    filter.Respelled same filter
  | .literal _ => .literal
  | .field path => .field (refl path)
  | .call _ args => .call (respelledArgs_refl refl args)

theorem respelledArgs_refl (refl : ∀ path, same path path) : ∀ args : List Filter,
    List.Forall₂ (Respelled same) args args
  | [] => .nil
  | arg :: rest => .cons (Respelled.refl refl arg) (respelledArgs_refl refl rest)

end

mutual

/-- Respelling does not change how deep a filter nests. -/
theorem Respelled.depth : ∀ {filter other : Filter}, filter.Respelled same other →
    filter.depth = other.depth
  | .literal _, _, .literal => rfl
  | .field _, _, .field _ => rfl
  | .call _ _, _, .call each => by rw [Filter.depth, Filter.depth, depthOfArgs_respelled each]

/-- Respelling does not change how deep arguments nest. -/
theorem depthOfArgs_respelled : ∀ {args others : List Filter},
    List.Forall₂ (Respelled same) args others → depthOfArgs args = depthOfArgs others
  | [], _, .nil => rfl
  | _ :: _, _, .cons first rest => by
    rw [depthOfArgs, depthOfArgs, Respelled.depth first, depthOfArgs_respelled rest]

end

/-- Respelling does not change the operator at the root. -/
theorem Respelled.rootName {filter other : Filter} (respelled : filter.Respelled same other) :
    filter.rootName = other.rootName := by
  cases respelled <;> rfl

end Filter

theorem Request.Respelled.refl (refl : ∀ path, same path path) (request : Request) :
    request.Respelled same request where
  filter := by
    cases request.filter with
    | none => exact .none
    | some filter => exact .some (Filter.Respelled.refl refl filter)
  sort := List.forall₂_same.mpr fun criterion _ => ⟨refl criterion.path, rfl⟩

/-! ## Compilers that agree -/

variable {contexts : Context → Context → Prop} {faults : Fault → Fault → Prop}

/-- From related contexts two compilers make related results and leave related contexts, or they
fail with related faults. -/
def Compiler.Agree {α β : Type} (contexts : Context → Context → Prop)
    (faults : Fault → Fault → Prop) (results : α → β → Prop) (x : Compiler α) (y : Compiler β) :
    Prop :=
  ∀ context other : Context, contexts context other →
    Alike (fun made twin => results made.1 twin.1 ∧ contexts made.2 twin.2) faults (x context)
      (y other)

namespace Compiler

variable {α β α' β' : Type}

theorem Agree.pure {results : α → β → Prop} {a : α} {b : β} (related : results a b) :
    Agree contexts faults results (pure a) (pure b) := fun _ _ entered =>
  .ok ⟨related, entered⟩

theorem Agree.throw {results : α → β → Prop} {fault other : Fault} (related : faults fault other) :
    Agree contexts faults results (throw fault) (throw other) := fun _ _ _ => .error related

/-- A computation agrees with itself if its faults are related to themselves. -/
theorem Agree.lift {x : Except Fault α} (refused : ∀ fault, x = .error fault → faults fault fault) :
    Agree contexts faults Eq (liftM x) (liftM x) := by
  intro context other entered
  cases x with
  | error fault => exact .error (refused fault rfl)
  | ok a => exact .ok ⟨rfl, entered⟩

/-- Compilers that agree do so when followed by compilers that agree. -/
theorem Agree.bind {results : α → β → Prop} {further : α' → β' → Prop} {x : Compiler α}
    {y : Compiler β} {f : α → Compiler α'} {g : β → Compiler β'}
    (first : Agree contexts faults results x y)
    (rest : ∀ {a b}, results a b → Agree contexts faults further (f a) (g b)) :
    Agree contexts faults further (x >>= f) (y >>= g) := fun _ _ entered =>
  (first _ _ entered).bind fun ⟨related, left⟩ => rest related _ _ left

/-- Lists are compiled alike if their items are. -/
theorem Agree.mapM {results : α' → β' → Prop} {items : α → β → Prop} {f : α → Compiler α'}
    {g : β → Compiler β'}
    (each : ∀ {a b}, items a b → Agree contexts faults results (f a) (g b)) {xs : List α}
    {ys : List β} (listed : List.Forall₂ items xs ys) :
    Agree contexts faults (List.Forall₂ results) (xs.mapM f) (ys.mapM g) := by
  induction listed with
  | nil => exact Agree.pure .nil
  | cons first _ ih =>
    rw [List.mapM_cons, List.mapM_cons]
    exact (each first).bind fun one => ih.bind fun others => Agree.pure (.cons one others)

end Compiler

/-- In related contexts the operators of a registry, and paths that are the same in other words, are
compiled alike, and a fault of arguments is related to itself. -/
structure Registry.Agrees (registry : Registry) (same : String → String → Prop)
    (contexts : Context → Context → Prop) (faults : Fault → Fault → Prop) : Prop where
  fields {path other : String} (means : same path other) :
    Compiler.Agree contexts faults Eq (Context.field · path) (Context.field · other)
  operators {name : String} {operator : Operator} (found : registry.get? name = some operator)
    (args : List Operand) :
    Compiler.Agree contexts faults Eq (operator.evaluate name args) (operator.evaluate name args)
  arguments {fault : Fault} (harmless : ¬ fault.IsOfSearch) : faults fault fault

/-- Besides, faults that quote a filter or a sort key are related however these are written, and in
related contexts there are as many joins. -/
structure Registry.AgreesOnRequests (registry : Registry) (same : String → String → Prop)
    (contexts : Context → Context → Prop) (faults : Fault → Fault → Prop) : Prop
    extends registry.Agrees same contexts faults where
  quotes (operator reason other : String) :
    faults (.malformed operator reason) (.malformed operator other)
  counts {context other : Context} (related : contexts context other) :
    context.joinCount = other.joinCount

/-- An operator that only reads its context is compiled alike in contexts for the same fields. -/
theorem Operator.Reads.agree {operator : Operator} (reads : operator.Reads)
    (sameFields : ∀ {context other}, contexts context other → context.metadata = other.metadata)
    (arguments : ∀ {fault}, ¬ Fault.IsOfSearch fault → faults fault fault) (name : String)
    (args : List Operand) :
    Compiler.Agree contexts faults Eq (operator.evaluate name args)
      (operator.evaluate name args) := by
  intro context other entered
  rw [reads.same (sameFields entered) name args]
  cases evaluated : operator.evaluate name args context with
  | error fault =>
    have blamed := reads.avoids name args context fault evaluated
    exact .error (arguments fun ofSearch => blamed (ofSearch.isForeign name))
  | ok made =>
    refine .ok ⟨rfl, ?_⟩
    rwa [reads.stays evaluated]

/-- The operators that are built in are compiled alike in contexts for the same fields. -/
theorem Registry.builtin_agrees
    (sameFields : ∀ {context other}, contexts context other → context.metadata = other.metadata)
    (fields : ∀ {path other}, same path other →
      Compiler.Agree contexts faults Eq (Context.field · path) (Context.field · other))
    (arguments : ∀ {fault}, ¬ Fault.IsOfSearch fault → faults fault fault) :
    builtin.Agrees same contexts faults where
  fields := fields
  operators found args := (builtin_reads found).agree sameFields arguments _ args
  arguments := arguments

namespace Filter

variable {registry : Registry}

/-- Paths that are the same in other words are compiled to the same operand. -/
theorem fieldOperand_agree (agrees : registry.Agrees same contexts faults) {path other : String}
    (means : same path other) : Compiler.Agree contexts faults Eq (Context.fieldOperand path)
      (Context.fieldOperand other) := by
  intro context contextToo entered
  refine (agrees.fields means _ _ entered).bind fun ⟨found, left⟩ => ?_
  exact .ok ⟨by simp only [found], left⟩

mutual

/-- Filters with paths that are the same in other words are compiled alike. -/
theorem operand_agree (agrees : registry.Agrees same contexts faults) :
    ∀ {filter other : Filter}, filter.Respelled same other →
      Compiler.Agree contexts faults Eq (operand registry filter) (operand registry other)
  | .literal _, _, .literal => by
    simp only [operand]
    exact .pure rfl
  | .field _, _, .field means => by
    simp only [operand]
    exact fieldOperand_agree agrees means
  | .call name args, .call _ others, .call each => by
    simp only [operand]
    cases found : registry.get? name with
    | none => exact .throw (agrees.arguments (by simp))
    | some operator =>
      dsimp only
      rw [each.length_eq]
      -- The operator is evaluated last, in the contexts that compiling the arguments leaves.
      refine (Compiler.Agree.lift fun fault refused => agrees.arguments fun ofSearch =>
        operator.arity.avoids_check name others.length fault refused
          (ofSearch.isForeign name)).bind fun _ => ?_
      refine (operands_agree agrees each).bind fun made => ?_
      rw [made]
      exact agrees.operators found _

/-- Respelled arguments are compiled alike. -/
theorem operands_agree (agrees : registry.Agrees same contexts faults) :
    ∀ {args others : List Filter}, List.Forall₂ (Respelled same) args others →
      Compiler.Agree contexts faults Eq (operands registry args) (operands registry others)
  | [], _, .nil => by
    simp only [operands]
    exact .pure rfl
  | _ :: _, _, .cons first rest => by
    simp only [operands]
    refine (operand_agree agrees first).bind fun one => ?_
    exact (operands_agree agrees rest).bind fun more => .pure (by rw [one, more])

end

/-- A filter is compiled alike in related contexts. -/
theorem predicate_agree_self (agrees : registry.Agrees same contexts faults)
    (refl : ∀ path, same path path) (filter : Filter) :
    Compiler.Agree contexts faults Eq (filter.predicate registry) (filter.predicate registry) := by
  refine (operand_agree agrees (Respelled.refl refl filter)).bind fun made => ?_
  subst made
  split
  · exact .pure rfl
  · exact .throw (agrees.arguments (by simp))

/-- A condition at the root of a filter; faults quote the filter as it is written. -/
theorem predicate_agree (agrees : registry.AgreesOnRequests same contexts faults)
    {filter other : Filter} (respelled : filter.Respelled same other) :
    Compiler.Agree contexts faults Eq (filter.predicate registry) (other.predicate registry) := by
  refine (operand_agree agrees.toAgrees respelled).bind fun made => ?_
  rw [made, respelled.rootName]
  split
  · exact .pure rfl
  · exact .throw (agrees.quotes _ _ _)

end Filter

/-- Two orders are by one expression in one direction. -/
def SortOrder.SameKey (order other : SortOrder) : Prop :=
  order.expr = other.expr ∧ order.direction = other.direction

/-- Two queries ask for the same, and as many joins were made for them. -/
structure Query.SameMeaning (query other : Query) : Prop where
  entity : query.entity = other.entity
  predicate : query.predicate = other.predicate
  orders : List.Forall₂ SortOrder.SameKey query.orders other.orders
  joinCount : query.joinCount = other.joinCount

namespace Request

variable {registry : Registry}

/-- The filters of respelled requests are compiled alike. -/
theorem predicate_agree (agrees : registry.AgreesOnRequests same contexts faults)
    (maxDepth : Nat) {filter other : Option Filter}
    (respelled : Option.Rel (Filter.Respelled same) filter other) :
    Compiler.Agree contexts faults Eq (predicate registry maxDepth filter)
      (predicate registry maxDepth other) := by
  cases respelled with
  | none => exact .pure rfl
  | some respelled =>
    simp only [predicate, respelled.depth]
    split
    · exact .throw (agrees.quotes _ _ _)
    · exact (Filter.predicate_agree agrees respelled).bind fun made => .pure (by rw [made])

/-- Criteria with paths that are the same in other words are compiled to orders with one key. -/
theorem order_agree (agrees : registry.AgreesOnRequests same contexts faults)
    {criterion other : SortCriterion} (means : same criterion.path other.path)
    (direction : criterion.direction = other.direction) :
    Compiler.Agree contexts faults SortOrder.SameKey criterion.order other.order := by
  intro context contextToo entered
  refine (agrees.fields means _ _ entered).bind fun {made twin} ⟨found, left⟩ => ?_
  obtain ⟨⟨expr, d⟩, after⟩ := made
  obtain ⟨⟨_, _⟩, afterToo⟩ := twin
  cases found
  dsimp only
  split
  · exact .ok ⟨⟨rfl, direction⟩, left⟩
  · exact .error (agrees.quotes _ _ _)

/-- Requests with paths that are the same in other words are compiled alike. -/
theorem compile_agree (agrees : registry.AgreesOnRequests same contexts faults)
    (maxDepth : Nat) {schema : Schema} {metadata : Metadata}
    (entered : contexts { schema, metadata } { schema, metadata }) {request other : Request}
    (respelled : request.Respelled same other) :
    Alike Query.SameMeaning faults (request.compile registry maxDepth schema metadata)
      (other.compile registry maxDepth schema metadata) := by
  refine (predicate_agree agrees maxDepth respelled.filter _ _ entered).bind
    fun ⟨predicate, left⟩ => ?_
  refine (Compiler.Agree.mapM (fun ⟨means, direction⟩ =>
    order_agree agrees means direction) respelled.sort _ _ left).bind fun ⟨orders, left⟩ => ?_
  exact .ok ⟨rfl, predicate, orders, agrees.counts left⟩

end Request

end RecordQuery
