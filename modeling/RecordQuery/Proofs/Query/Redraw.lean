import RecordQuery.Proofs.Fallible
import RecordQuery.Proofs.Query.JoinOrder
import RecordQuery.Proofs.Query.Assignment

/-! # Drawing values from other sources

The attributes of a predicate can be drawn from other sources. If these begin elsewhere but stand
for the same records, a predicate has the same truth as what it becomes: an assignment for the new
joins is one for those that they come from. -/

namespace RecordQuery

open Fallible

/-! ## Redrawing expressions and predicates -/

/-- The expression with each attribute drawn from the source that is given for it. -/
def Expr.redraw (sources : Source → String → Source) : Expr → Expr
  | attr source name => attr (sources source name) name
  | literal value => literal value
  | mapped function inner => mapped function (inner.redraw sources)
  | concat left right => concat (left.redraw sources) (right.redraw sources)

namespace Predicate

mutual

/-- The predicate with each attribute drawn from the source that is given for it. -/
def redraw (sources : Source → String → Source) : Predicate → Predicate
  | equal left right => equal (left.redraw sources) (right.redraw sources)
  | notEqual left right => notEqual (left.redraw sources) (right.redraw sources)
  | compare comparison left right =>
    compare comparison (left.redraw sources) (right.redraw sources)
  | between subject lower upper =>
    between (subject.redraw sources) (lower.redraw sources) (upper.redraw sources)
  | like subject pattern => like (subject.redraw sources) (pattern.redraw sources)
  | isIn subject values => isIn (subject.redraw sources) (values.map (Expr.redraw sources))
  | isNull subject => isNull (subject.redraw sources)
  | isEmpty subject => isEmpty (subject.redraw sources)
  | isTrue subject => isTrue (subject.redraw sources)
  | conjunction conditions => conjunction (redrawAll sources conditions)
  | disjunction conditions => disjunction (redrawAll sources conditions)
  | negation condition => negation (condition.redraw sources)
  | constant value => constant value

/-- The conditions drawn from other sources, one by one. -/
def redrawAll (sources : Source → String → Source) : List Predicate → List Predicate
  | [] => []
  | condition :: rest => condition.redraw sources :: redrawAll sources rest

end

theorem redrawAll_eq_map (sources : Source → String → Source) (conditions : List Predicate) :
    redrawAll sources conditions = conditions.map (redraw sources) := by
  induction conditions with
  | nil => rfl
  | cons condition rest ih => rw [redrawAll, ih, List.map_cons]

end Predicate

/-! ## Sources that begin elsewhere -/

/-- Where sources begin instead of at the record searched for or at a narrowing of it: for the name
that is read there, and the subtype that it is narrowed to. -/
abbrev Source.Base := String → Option String → Source

/-- The source from which a name is read, begun elsewhere. -/
def Source.rebase (base : Base) : Source → String → Source
  | root _, name => base name none
  | join parent relation kind, _ => join (parent.rebase base relation) relation kind
  | embedded parent inner, _ => embedded (parent.rebase base inner) inner
  | narrow (root _) type, name => base name (some type)
  | narrow parent type, name => narrow (parent.rebase base name) type

/-- The join begun elsewhere. -/
def Join.rebase (base : Source.Base) (j : Join) : Join :=
  ⟨j.parent.rebase base j.relation, j.relation, j.kind⟩

/-- Narrowing behind the beginning of a source is kept where the source begins elsewhere. -/
theorem Source.rebase_narrow {base : Base} {parent : Source}
    (inner : ∀ entity, parent ≠ root entity) (type name : String) :
    (narrow parent type).rebase base name = narrow (parent.rebase base name) type := by
  cases parent with
  | root entity => exact absurd rfl (inner entity)
  | _ => rfl

/-- What a record searched for, and each narrowing of it, stand for is what the base stands for. -/
structure Source.Base.Fits (schema : Schema) (root : Record) (base : Base) : Prop where
  joins (name : String) (type : Option String) : (base name type).joins = []
  whole (name : String) (assignment : Assignment) :
    (base name none).record? schema root assignment = some root
  narrowed (name type : String) (assignment : Assignment) :
    (base name (some type)).record? schema root assignment =
      (some root).filter fun record => schema.isAssignable type record.entity

variable {schema : Schema} {root : Record} {base : Source.Base} {assignment : Assignment}

/-- The joins of a source that begins elsewhere begin there, too. -/
theorem Source.joins_rebase (fits : base.Fits schema root) (source : Source) (name : String) :
    (source.rebase base name).joins = source.joins.map (Join.rebase base) := by
  induction source generalizing name with
  | root entity => exact fits.joins name none
  | join parent relation kind ih => simp only [rebase, joins, ih, List.map_append]; rfl
  | embedded parent inner ih => exact ih inner
  | narrow parent type ih =>
    by_cases inner : ∀ entity, parent ≠ .root entity
    · rw [rebase_narrow inner]
      exact ih name
    · obtain ⟨entity, rfl⟩ := not_forall_not.mp inner
      exact fits.joins name (some type)

/-- The joins of an expression begin where its sources begin. -/
theorem Expr.joins_redraw (fits : base.Fits schema root) (expr : Expr) :
    (expr.redraw (Source.rebase base)).joins = expr.joins.map (Join.rebase base) := by
  induction expr with
  | attr source name => exact source.joins_rebase fits name
  | literal value => rfl
  | mapped function inner ih => exact ih
  | concat left right leftIh rightIh => simp only [redraw, joins, leftIh, rightIh, List.map_append]

namespace Predicate

mutual

/-- The joins of a predicate begin where its sources begin. -/
theorem joins_redraw (fits : base.Fits schema root) : ∀ predicate : Predicate,
    (predicate.redraw (Source.rebase base)).joins = predicate.joins.map (Join.rebase base)
  | equal _ _ | notEqual _ _ | compare _ _ _ | like _ _ | between _ _ _ | isNull _ | isEmpty _
  | isTrue _ => by
    simp only [redraw, joins, Expr.joins_redraw fits, List.map_append]
  | isIn _ _ => by
    simp only [redraw, joins, Expr.joins_redraw fits, List.map_append, List.flatMap_map,
      List.map_flatMap]
  | conjunction conditions | disjunction conditions => joinsOfAll_redraw fits conditions
  | negation condition => joins_redraw fits condition
  | constant _ => rfl

/-- The joins of several predicates begin where their sources begin. -/
theorem joinsOfAll_redraw (fits : base.Fits schema root) : ∀ predicates : List Predicate,
    joinsOfAll (redrawAll (Source.rebase base) predicates) =
      (joinsOfAll predicates).map (Join.rebase base)
  | [] => rfl
  | condition :: rest => by
    simp only [redrawAll, joinsOfAll, joins_redraw fits condition, joinsOfAll_redraw fits rest,
      List.map_append]

end

end Predicate

/-! ## Assignments that are taken over -/

namespace Assignment

/-- What joins stand for if each is taken for the one that it becomes. -/
def takeOver (base : Source.Base) (joins : List Join) (assignment : Assignment) : Assignment :=
  joins.map fun j => (j, assignment.record? (j.rebase base))

/-- In the assignment that is taken over, a join stands for what the join stood for that it
becomes. -/
theorem record?_takeOver {joins : List Join} {j : Join} (member : j ∈ joins) :
    (takeOver base joins assignment).record? j = assignment.record? (j.rebase base) := by
  rw [record?, takeOver, List.lookup_graph _ member]
  rfl

end Assignment

variable {among : List Join}

/-- A source stands for the same record as the source that it becomes. -/
theorem Source.record?_takeOver (fits : base.Fits schema root) {source : Source}
    (covered : source.joins ⊆ among) (name : String) :
    source.record? schema root (assignment.takeOver base among) =
      (source.rebase base name).record? schema root assignment := by
  induction source generalizing name with
  | root entity => exact (fits.whole name assignment).symm
  | join parent relation kind _ =>
    exact Assignment.record?_takeOver (covered (by simp [joins]))
  | embedded parent inner ih => simp only [record?, rebase, ih covered inner]
  | narrow parent type ih =>
    by_cases inner : ∀ entity, parent ≠ .root entity
    · rw [rebase_narrow inner, record?, record?, ih covered name]
    · obtain ⟨entity, rfl⟩ := not_forall_not.mp inner
      exact (fits.narrowed name type assignment).symm

/-- Under the assignment that is taken over, an attribute is what it is where its source begins
elsewhere. -/
theorem Source.datum?_takeOver (fits : base.Fits schema root) {source : Source}
    (covered : source.joins ⊆ among) (name : String) :
    source.datum? schema root (assignment.takeOver base among) name =
      (source.rebase base name).datum? schema root assignment name := by
  simp only [datum?, record?_takeOver fits covered name]

/-- An assignment that is taken over respects a join if the assignment respects what the join
becomes. -/
theorem Assignment.Respects.takeOver (fits : base.Fits schema root) {j : Join} (member : j ∈ among)
    (way : j.parent.joins ⊆ among) (respects : assignment.Respects schema root (j.rebase base)) :
    (assignment.takeOver base among).Respects schema root j := by
  rw [respects_iff] at respects ⊢
  rw [record?_takeOver member]
  have same : j.choices schema root (assignment.takeOver base among) =
      (j.rebase base).choices schema root assignment := by
    simp only [Join.choices, Join.targets, Source.datum?_takeOver fits way j.relation]
    rfl
  rwa [same]

/-! ## Values and truth -/

variable (assignment)

namespace Expr

-- The text of a fault names the source that it comes from, so that only values are the same.
/-- Under the assignment that is taken over, an expression has the value that it has where its
sources begin elsewhere. -/
theorem value_takeOver (fits : base.Fits schema root) {expr : Expr} (covered : expr.joins ⊆ among) :
    (expr.value schema root (assignment.takeOver base among)).toOption =
      ((expr.redraw (Source.rebase base)).value schema root assignment).toOption := by
  induction expr with
  | attr source name =>
    simp only [value, redraw, Source.datum?_takeOver fits covered name]
    split <;> rfl
  | literal value => rfl
  | mapped function inner ih => simp only [value, redraw, toOption_bind, ih covered]
  | concat left right leftIh rightIh =>
    obtain ⟨inLeft, inRight⟩ := List.append_subset.mp covered
    simp only [value, redraw, toOption_bind, leftIh inLeft, rightIh inRight]

/-- Under the assignment that is taken over, an expression is null or not as it is where its sources
begin elsewhere. -/
theorem isNull_takeOver (fits : base.Fits schema root) {expr : Expr}
    (covered : expr.joins ⊆ among) :
    (expr.isNull schema root (assignment.takeOver base among)).toOption =
      ((expr.redraw (Source.rebase base)).isNull schema root assignment).toOption := by
  have same := value_takeOver assignment fits covered
  cases expr with
  | attr source name => simp only [isNull, redraw, Source.datum?_takeOver fits covered name]
  | _ =>
    simp only [redraw] at same
    simp only [isNull, redraw, toOption_bind, same]

/-- Under the assignment that is taken over, an expression is empty or not as it is where its
sources begin elsewhere. -/
theorem isEmpty_takeOver (fits : base.Fits schema root) {expr : Expr}
    (covered : expr.joins ⊆ among) :
    (expr.isEmpty schema root (assignment.takeOver base among)).toOption =
      ((expr.redraw (Source.rebase base)).isEmpty schema root assignment).toOption := by
  have same := value_takeOver assignment fits covered
  cases expr with
  | attr source name => simp only [isEmpty, redraw, Source.datum?_takeOver fits covered name]
  | _ =>
    simp only [redraw] at same
    simp only [isEmpty, redraw, toOption_bind, same]

/-- Under the assignment that is taken over, a value is among the same expressions as where their
sources begin elsewhere. -/
theorem contains_takeOver (fits : base.Fits schema root) (subject : Value) {exprs : List Expr}
    (covered : exprs.flatMap Expr.joins ⊆ among) :
    (contains schema root (assignment.takeOver base among) subject exprs).toOption =
      (contains schema root assignment subject
        (exprs.map (redraw (Source.rebase base)))).toOption := by
  induction exprs with
  | nil => rfl
  | cons candidate rest ih =>
    rw [List.flatMap_cons] at covered
    obtain ⟨inFirst, inRest⟩ := List.append_subset.mp covered
    simp only [contains, List.map_cons, toOption_bind]
    refine congrArg₂ Option.bind (value_takeOver assignment fits inFirst) (funext fun value => ?_)
    split
    · rfl
    · exact ih inRest
    · simp only [toOption_bind, ih inRest]

end Expr

namespace Predicate

mutual

/-- A predicate has the same truth as the predicate that it becomes. -/
theorem truth_takeOver (fits : base.Fits schema root) : ∀ {predicate : Predicate},
    predicate.joins ⊆ among →
      (predicate.truth schema root (assignment.takeOver base among)).toOption =
        ((predicate.redraw (Source.rebase base)).truth schema root assignment).toOption
  | equal _ _, covered | notEqual _ _, covered | compare _ _ _, covered | like _ _, covered => by
    obtain ⟨inLeft, inRight⟩ := List.append_subset.mp covered
    simp only [truth, redraw, toOption_bind, Expr.value_takeOver assignment fits inLeft,
      Expr.value_takeOver assignment fits inRight]
  | between _ _ _, covered => by
    obtain ⟨inBoth, inUpper⟩ := List.append_subset.mp covered
    obtain ⟨inSubject, inLower⟩ := List.append_subset.mp inBoth
    simp only [truth, redraw, toOption_bind, Expr.value_takeOver assignment fits inSubject,
      Expr.value_takeOver assignment fits inLower, Expr.value_takeOver assignment fits inUpper]
  | isIn _ _, covered => by
    obtain ⟨inSubject, inValues⟩ := List.append_subset.mp covered
    have each := fun subject => Expr.contains_takeOver assignment fits subject inValues
    simp only [truth, redraw, toOption_bind, Expr.value_takeOver assignment fits inSubject, each]
  | isNull _, covered => by
    simp only [truth, redraw, toOption_bind, Expr.isNull_takeOver assignment fits covered]
  | isEmpty _, covered => by
    simp only [truth, redraw, toOption_bind, Expr.isEmpty_takeOver assignment fits covered]
  | isTrue _, covered => by
    simp only [truth, redraw, toOption_bind, Expr.value_takeOver assignment fits covered]
  | conjunction _, covered | disjunction _, covered => by
    simp only [truth, redraw, toOption_bind, truths_takeOver fits covered]
  | negation condition, covered => by
    have inside : condition.joins ⊆ among := covered
    simp only [truth, redraw, toOption_bind, truth_takeOver fits inside]
  | constant _, _ => rfl

/-- Under the assignment that is taken over, predicates have the truths that they have where their
sources begin elsewhere. -/
theorem truths_takeOver (fits : base.Fits schema root) : ∀ {predicates : List Predicate},
    joinsOfAll predicates ⊆ among →
      (truths schema root (assignment.takeOver base among) predicates).toOption =
        (truths schema root assignment (redrawAll (Source.rebase base) predicates)).toOption
  | [], _ => rfl
  | _ :: _, covered => by
    obtain ⟨inFirst, inRest⟩ := List.append_subset.mp covered
    simp only [truths, redrawAll, toOption_bind, truth_takeOver fits inFirst,
      truths_takeOver fits inRest]

end

variable {assignment}

/-- If an assignment respects the joins of what a predicate becomes and makes it true, the same
assignment taken over does so for the predicate. -/
theorem exists_assignment_of_redraw (fits : base.Fits schema root) {predicate : Predicate}
    (respects : ∀ j, (predicate.redraw (Source.rebase base)).Mentions j →
      assignment.Respects schema root j)
    (holds : (predicate.redraw (Source.rebase base)).truth schema root assignment =
      .ok (some true)) :
    ∃ other : Assignment, (∀ j, predicate.Mentions j → other.Respects schema root j) ∧
      predicate.truth schema root other = .ok (some true) := by
  refine ⟨assignment.takeOver base predicate.joins, fun j mentioned => ?_, ?_⟩
  · have member : j ∈ predicate.joins := mem_joins_iff.mpr mentioned
    have becomes : j.rebase base ∈ (predicate.redraw (Source.rebase base)).joins := by
      rw [joins_redraw fits]
      exact List.mem_map_of_mem member
    refine .takeOver fits member (fun i way => ?_) (respects _ (mem_joins_iff.mp becomes))
    exact mem_joins_iff.mpr (mentioned.parent way)
  · have same := truth_takeOver assignment fits (List.Subset.refl predicate.joins)
    rw [holds] at same
    exact toOption_eq_some_iff.mp same

end Predicate

end RecordQuery
