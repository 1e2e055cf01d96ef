import RecordQuery.Query.Evaluation

/-! # Joins that occur in a query

A join occurs in a source if it is a step on the way there, and in an expression or a predicate if
it occurs in the source of one of its attributes. Values and truth depend on the joins that occur
and on nothing else of an assignment. -/

namespace RecordQuery

/-- The way to a source passes through a join. -/
inductive Source.Crosses (j : Join) : Source → Prop where
  | here : Crosses j j.source
  | join {parent relation kind} (before : Crosses j parent) :
      Crosses j (.join parent relation kind)
  | embedded {parent name} (before : Crosses j parent) : Crosses j (.embedded parent name)
  | narrow {parent type} (before : Crosses j parent) : Crosses j (.narrow parent type)

/-- A join is crossed on the way to some attribute of an expression. -/
inductive Expr.Mentions (j : Join) : Expr → Prop where
  | attr {source name} (crossed : source.Crosses j) : Mentions j (.attr source name)
  | mapped {function inner} (inside : Mentions j inner) : Mentions j (.mapped function inner)
  | left {left right} (inside : Mentions j left) : Mentions j (.concat left right)
  | right {left right} (inside : Mentions j right) : Mentions j (.concat left right)

namespace Predicate

/-- The expressions whose values a predicate looks at itself. -/
def operands : Predicate → List Expr
  | equal left right | notEqual left right | compare _ left right | like left right =>
    [left, right]
  | between subject lower upper => [subject, lower, upper]
  | isIn subject values => subject :: values
  | isNull subject | isEmpty subject | isTrue subject => [subject]
  | conjunction _ | disjunction _ | negation _ | constant _ => []

/-- The predicates that a predicate is put together from. -/
def conditions : Predicate → List Predicate
  | conjunction conditions | disjunction conditions => conditions
  | negation condition => [condition]
  | _ => []

/-- A join is mentioned by an operand of a predicate or of a condition inside it. -/
inductive Mentions (j : Join) : Predicate → Prop where
  | operand {predicate expr} (taken : expr ∈ predicate.operands) (inside : expr.Mentions j) :
      Mentions j predicate
  | condition {predicate condition} (taken : condition ∈ predicate.conditions)
      (inside : Mentions j condition) : Mentions j predicate

end Predicate

/-! ## The lists of joins are complete -/

/-- The joins of a source are those that are crossed on the way to it. -/
theorem Source.mem_joins_iff {source : Source} {j : Join} :
    j ∈ source.joins ↔ source.Crosses j := by
  constructor
  · intro member
    induction source with
    | root entity => simp [joins] at member
    | join parent relation kind ih =>
      rcases List.mem_append.mp member with earlier | last
      · exact .join (ih earlier)
      · cases List.mem_singleton.mp last
        exact .here
    | embedded parent name ih => exact .embedded (ih member)
    | narrow parent type ih => exact .narrow (ih member)
  · intro crossed
    induction crossed with
    | here => simp [Join.source, joins]
    | join _ ih => exact List.mem_append_left _ ih
    | embedded _ ih => exact ih
    | narrow _ ih => exact ih

/-- The joins of an expression are those that it mentions. -/
theorem Expr.mem_joins_iff {expr : Expr} {j : Join} : j ∈ expr.joins ↔ expr.Mentions j := by
  constructor
  · intro member
    induction expr with
    | attr source name => exact .attr (Source.mem_joins_iff.mp member)
    | literal value => simp [joins] at member
    | mapped function inner ih => exact .mapped (ih member)
    | concat left right leftIh rightIh =>
      rcases List.mem_append.mp member with inLeft | inRight
      · exact .left (leftIh inLeft)
      · exact .right (rightIh inRight)
  · intro mentioned
    induction mentioned with
    | attr crossed => exact Source.mem_joins_iff.mpr crossed
    | mapped _ ih => exact ih
    | left _ ih => exact List.mem_append_left _ ih
    | right _ ih => exact List.mem_append_right _ ih

namespace Predicate

/-- The joins of several predicates are those of each of them. -/
theorem mem_joinsOfAll_iff {predicates : List Predicate} {j : Join} :
    j ∈ joinsOfAll predicates ↔ ∃ predicate ∈ predicates, j ∈ predicate.joins := by
  induction predicates with
  | nil => simp [joinsOfAll]
  | cons predicate rest ih => simp [joinsOfAll, ih]

/-- The joins of a predicate are those of its operands and those of its conditions. -/
theorem mem_joins_iff_step {predicate : Predicate} {j : Join} :
    j ∈ predicate.joins ↔
      (∃ expr ∈ predicate.operands, j ∈ expr.joins) ∨
        ∃ condition ∈ predicate.conditions, j ∈ condition.joins := by
  cases predicate <;>
    simp [joins, operands, conditions, mem_joinsOfAll_iff]

/-- The conditions of a predicate are smaller than the predicate. -/
theorem sizeOf_lt_of_mem_conditions {predicate condition : Predicate}
    (taken : condition ∈ predicate.conditions) : sizeOf condition < sizeOf predicate := by
  cases predicate with
  | conjunction conditions =>
    have smaller : sizeOf condition < sizeOf conditions := List.sizeOf_lt_of_mem taken
    simp only [conjunction.sizeOf_spec]
    omega
  | disjunction conditions =>
    have smaller : sizeOf condition < sizeOf conditions := List.sizeOf_lt_of_mem taken
    simp only [disjunction.sizeOf_spec]
    omega
  | negation condition =>
    cases List.mem_singleton.mp taken
    simp only [negation.sizeOf_spec]
    omega
  | _ => simp [conditions] at taken

/-- A predicate mentions the joins that are listed for it. -/
theorem mentions_of_mem_joins {predicate : Predicate} {j : Join} (member : j ∈ predicate.joins) :
    predicate.Mentions j := by
  rcases mem_joins_iff_step.mp member with ⟨expr, taken, inside⟩ | ⟨condition, taken, inside⟩
  · exact .operand taken (Expr.mem_joins_iff.mp inside)
  · exact .condition taken (mentions_of_mem_joins inside)
termination_by sizeOf predicate
decreasing_by exact sizeOf_lt_of_mem_conditions taken

/-- The joins of a predicate are those that it mentions. -/
theorem mem_joins_iff {predicate : Predicate} {j : Join} :
    j ∈ predicate.joins ↔ predicate.Mentions j := by
  refine ⟨mentions_of_mem_joins, fun mentioned => ?_⟩
  induction mentioned with
  | operand taken inside =>
    exact mem_joins_iff_step.mpr (.inl ⟨_, taken, Expr.mem_joins_iff.mpr inside⟩)
  | condition taken _ ih => exact mem_joins_iff_step.mpr (.inr ⟨_, taken, ih⟩)

end Predicate

/-! ## Evaluation depends on the joins that occur -/

/-- Two assignments agree on joins. -/
def Assignment.AgreeOn (joins : List Join) (first second : Assignment) : Prop :=
  ∀ j ∈ joins, first.record? j = second.record? j

namespace Assignment.AgreeOn

variable {first second third : Assignment} {joins fewer : List Join}

theorem symm (agree : AgreeOn joins first second) : AgreeOn joins second first :=
  fun j member => (agree j member).symm

theorem trans (agree : AgreeOn joins first second) (next : AgreeOn joins second third) :
    AgreeOn joins first third :=
  fun j member => (agree j member).trans (next j member)

theorem mono (agree : AgreeOn joins first second) (subset : fewer ⊆ joins) :
    AgreeOn fewer first second :=
  fun j member => agree j (subset member)

theorem left {more : List Join} (agree : AgreeOn (joins ++ more) first second) :
    AgreeOn joins first second :=
  agree.mono (List.subset_append_left _ _)

theorem right {more : List Join} (agree : AgreeOn (joins ++ more) first second) :
    AgreeOn more first second :=
  agree.mono (List.subset_append_right _ _)

end Assignment.AgreeOn

variable {schema : Schema} {root : Record} {first second : Assignment}

/-- The record of a source depends on the joins of the source only. -/
theorem Source.record?_congr {source : Source}
    (agree : Assignment.AgreeOn source.joins first second) :
    source.record? schema root first = source.record? schema root second := by
  induction source with
  | root entity => rfl
  | join parent relation kind _ =>
    exact agree ⟨parent, relation, kind⟩ (by simp [joins])
  | embedded parent name ih => simp only [record?, ih agree]
  | narrow parent type ih => simp only [record?, ih agree]

/-- An attribute depends on the joins of its source only. -/
theorem Source.datum?_congr {source : Source} {name : String}
    (agree : Assignment.AgreeOn source.joins first second) :
    source.datum? schema root first name = source.datum? schema root second name := by
  simp only [datum?, record?_congr agree]

/-- The targets of a join depend on the joins on the way to it only. -/
theorem Join.targets_congr {j : Join} (agree : Assignment.AgreeOn j.parent.joins first second) :
    j.targets schema root first = j.targets schema root second := by
  simp only [targets, Source.datum?_congr agree]

namespace Expr

/-- The value of an expression depends on its joins only. -/
theorem value_congr {expr : Expr} (agree : Assignment.AgreeOn expr.joins first second) :
    expr.value schema root first = expr.value schema root second := by
  induction expr with
  | attr source name => simp only [value, Source.datum?_congr agree]
  | literal value => rfl
  | mapped function inner ih => simp only [value, ih agree]
  | concat left right leftIh rightIh => simp only [value, leftIh agree.left, rightIh agree.right]

theorem isNull_congr {expr : Expr} (agree : Assignment.AgreeOn expr.joins first second) :
    expr.isNull schema root first = expr.isNull schema root second := by
  cases expr with
  | attr source name => simp only [isNull, Source.datum?_congr agree]
  | _ => simp only [isNull, value_congr agree]

theorem isEmpty_congr {expr : Expr} (agree : Assignment.AgreeOn expr.joins first second) :
    expr.isEmpty schema root first = expr.isEmpty schema root second := by
  cases expr with
  | attr source name => simp only [isEmpty, Source.datum?_congr agree]
  | _ => simp only [isEmpty, value_congr agree]

/-- Whether a value is among several expressions depends on their joins only. -/
theorem contains_congr {subject : Value} {exprs : List Expr}
    (agree : Assignment.AgreeOn (exprs.flatMap joins) first second) :
    contains schema root first subject exprs = contains schema root second subject exprs := by
  induction exprs with
  | nil => rfl
  | cons candidate rest ih =>
    rw [List.flatMap_cons] at agree
    simp only [contains, value_congr agree.left, ih agree.right]

end Expr

namespace Predicate

mutual

/-- The truth of a predicate depends on the joins that it mentions only. -/
theorem truth_congr : ∀ {predicate : Predicate},
    Assignment.AgreeOn predicate.joins first second →
      predicate.truth schema root first = predicate.truth schema root second
  | equal _ _, agree | notEqual _ _, agree | compare _ _ _, agree | like _ _, agree => by
    simp only [truth, Expr.value_congr agree.left, Expr.value_congr agree.right]
  | between _ _ _, agree => by
    simp only [truth, Expr.value_congr agree.left.left, Expr.value_congr agree.left.right,
      Expr.value_congr agree.right]
  | isIn _ _, agree => by
    simp only [truth, Expr.value_congr agree.left, Expr.contains_congr agree.right]
  | isNull _, agree => by simp only [truth, Expr.isNull_congr agree]
  | isEmpty _, agree => by simp only [truth, Expr.isEmpty_congr agree]
  | isTrue _, agree => by simp only [truth, Expr.value_congr agree]
  | conjunction _, agree | disjunction _, agree => by simp only [truth, truths_congr agree]
  | negation condition, agree => by
    have inside : Assignment.AgreeOn condition.joins first second := agree
    simp only [truth, truth_congr inside]
  | constant _, _ => rfl

/-- The truths of several predicates depend on their joins only. -/
theorem truths_congr : ∀ {predicates : List Predicate},
    Assignment.AgreeOn (joinsOfAll predicates) first second →
      truths schema root first predicates = truths schema root second predicates
  | [], _ => rfl
  | _ :: _, agree => by
    simp only [truths, truth_congr agree.left, truths_congr agree.right]

end

end Predicate

end RecordQuery
