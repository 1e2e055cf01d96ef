import RecordQuery.Proofs.Query.Occurrence
import RecordQuery.Query.Basic

/-! # The order of joins

The joins of a query come each once and after the joins on the way to them, so that the source which
a join starts from has been reached when the join is looked at. -/

namespace RecordQuery

namespace Join

/-- Each join comes after those on the way to it, or these have been seen before. -/
def Led (seen : List Join) : List Join → Prop
  | [] => True
  | j :: rest => j.parent.joins ⊆ seen ∧ Led (j :: seen) rest

/-- The joins are led, each comes once, and none has been seen before. -/
def Ordered (seen : List Join) : List Join → Prop
  | [] => True
  | j :: rest => j ∉ seen ∧ j.parent.joins ⊆ seen ∧ Ordered (j :: seen) rest

theorem Led.mono {seen more joins : List Join} (led : Led seen joins) (subset : seen ⊆ more) :
    Led more joins := by
  induction joins generalizing seen more with
  | nil => trivial
  | cons j rest ih =>
    exact ⟨fun i member => subset (led.1 member), ih led.2 (List.cons_subset_cons j subset)⟩

theorem Led.append {seen joins more : List Join} (led : Led seen joins) (next : Led seen more) :
    Led seen (joins ++ more) := by
  induction joins generalizing seen with
  | nil => exact next
  | cons j rest ih => exact ⟨led.1, ih led.2 (next.mono (List.subset_cons_self j seen))⟩

/-- A join may come last if those on the way to it have come before. -/
theorem Led.concat {seen joins : List Join} {j : Join} (led : Led seen joins)
    (way : j.parent.joins ⊆ joins ++ seen) : Led seen (joins ++ [j]) := by
  induction joins generalizing seen with
  | nil => exact ⟨way, trivial⟩
  | cons i rest ih =>
    refine ⟨led.1, ih led.2 fun k member => ?_⟩
    rcases List.mem_append.mp (way member) with first | earlier
    · rcases List.mem_cons.mp first with rfl | later
      · exact List.mem_append_right _ List.mem_cons_self
      · exact List.mem_append_left _ later
    · exact List.mem_append_right _ (List.mem_cons_of_mem _ earlier)

/-- Joins of several items are led if those of each item are. -/
theorem Led.flatMap {α : Type} {seen : List Join} {items : List α} {joins : α → List Join}
    (led : ∀ item ∈ items, Led seen (joins item)) : Led seen (items.flatMap joins) := by
  induction items with
  | nil => trivial
  | cons item rest ih =>
    rw [List.flatMap_cons]
    exact (led item List.mem_cons_self).append
      (ih fun other member => led other (List.mem_cons_of_mem _ member))

/-- Joins in order have not been seen before. -/
theorem Ordered.notMem {seen joins : List Join} (ordered : Ordered seen joins) {j : Join}
    (member : j ∈ joins) : j ∉ seen := by
  induction joins generalizing seen with
  | nil => cases member
  | cons i rest ih =>
    rcases List.mem_cons.mp member with rfl | later
    · exact ordered.1
    · exact fun earlier => ih ordered.2.2 later (List.mem_cons_of_mem _ earlier)

/-- Of joins in order none comes twice. -/
theorem Ordered.nodup {seen joins : List Join} (ordered : Ordered seen joins) : joins.Nodup := by
  induction joins generalizing seen with
  | nil => exact List.nodup_nil
  | cons j rest ih =>
    refine List.nodup_cons.mpr ⟨fun later => ?_, ih ordered.2.2⟩
    exact ordered.2.2.notMem later List.mem_cons_self

end Join

/-! ## The joins of sources, expressions and predicates are led -/

/-- The joins on the way to a source are led. -/
theorem Source.joins_led (source : Source) : Join.Led [] source.joins := by
  induction source with
  | root entity => trivial
  | join parent relation kind ih => exact ih.concat (List.subset_append_left _ _)
  | embedded parent name ih => exact ih
  | narrow parent type ih => exact ih

/-- The joins on the way to a join on the way to a source are themselves on the way. -/
theorem Source.parent_joins_subset {source : Source} {j : Join} (member : j ∈ source.joins) :
    j.parent.joins ⊆ source.joins := by
  induction source with
  | root entity => cases member
  | join parent relation kind ih =>
    rcases List.mem_append.mp member with earlier | last
    · exact List.Subset.trans (ih earlier) (List.subset_append_left _ _)
    · cases List.mem_singleton.mp last
      exact List.subset_append_left _ _
  | embedded parent name ih => exact ih member
  | narrow parent type ih => exact ih member

/-- The joins of an expression are led. -/
theorem Expr.joins_led (expr : Expr) : Join.Led [] expr.joins := by
  induction expr with
  | attr source name => exact source.joins_led
  | literal value => trivial
  | mapped function inner ih => exact ih
  | concat left right leftIh rightIh => exact leftIh.append rightIh

/-- With a join, an expression has those on the way to it. -/
theorem Expr.parent_joins_subset {expr : Expr} {j : Join} (member : j ∈ expr.joins) :
    j.parent.joins ⊆ expr.joins := by
  induction expr with
  | attr source name => exact Source.parent_joins_subset member
  | literal value => cases member
  | mapped function inner ih => exact ih member
  | concat left right leftIh rightIh =>
    rcases List.mem_append.mp member with inLeft | inRight
    · exact List.Subset.trans (leftIh inLeft) (List.subset_append_left _ _)
    · exact List.Subset.trans (rightIh inRight) (List.subset_append_right _ _)

namespace Predicate

mutual

/-- The joins of a predicate are led. -/
theorem joins_led : ∀ predicate : Predicate, Join.Led [] predicate.joins
  | equal left right | notEqual left right | compare _ left right | like left right =>
    left.joins_led.append right.joins_led
  | between subject lower upper =>
    (subject.joins_led.append lower.joins_led).append upper.joins_led
  | isIn subject _ => subject.joins_led.append (Join.Led.flatMap fun value _ => value.joins_led)
  | isNull subject | isEmpty subject | isTrue subject => subject.joins_led
  | conjunction conditions | disjunction conditions => joinsOfAll_led conditions
  | negation condition => joins_led condition
  | constant _ => trivial

theorem joinsOfAll_led : ∀ predicates : List Predicate, Join.Led [] (joinsOfAll predicates)
  | [] => trivial
  | predicate :: rest => (joins_led predicate).append (joinsOfAll_led rest)

end

/-- A predicate that mentions a join mentions the joins on the way to it. -/
theorem Mentions.parent {predicate : Predicate} {j i : Join} (mentioned : predicate.Mentions j)
    (way : i ∈ j.parent.joins) : predicate.Mentions i := by
  induction mentioned with
  | operand taken inside =>
    exact .operand taken (Expr.mem_joins_iff.mp
      (Expr.parent_joins_subset (Expr.mem_joins_iff.mpr inside) way))
  | condition taken _ ih => exact .condition taken ih

end Predicate

/-! ## Each join once -/

namespace Query

/-- Leaving repeated joins out loses none. -/
theorem mem_distinctJoins {joins : List Join} {j : Join} :
    j ∈ distinctJoins joins ↔ j ∈ joins := by
  induction joins with
  | nil => rfl
  | cons i rest ih =>
    by_cases same : j = i
    · simp [distinctJoins, same]
    · simp [distinctJoins, same, ih]

/-- A query has the joins that its predicate or one of its orders mentions. -/
theorem mem_joins_iff {query : Query} {j : Join} :
    j ∈ query.joins ↔
      (∃ predicate, query.predicate = some predicate ∧ predicate.Mentions j) ∨
        ∃ order ∈ query.orders, order.expr.Mentions j := by
  rw [joins, mem_distinctJoins, List.mem_append, List.mem_flatMap]
  simp only [Expr.mem_joins_iff]
  cases query.predicate with
  | none => simp
  | some predicate => simp [Predicate.mem_joins_iff]

/-- Behind other joins, only those that are not among them are kept. -/
theorem distinctJoins_append (joins more : List Join) :
    distinctJoins (joins ++ more) =
      distinctJoins joins ++ (distinctJoins more).filter (· ∉ joins) := by
  induction joins with
  | nil => exact (List.filter_eq_self.mpr (by simp)).symm
  | cons j rest ih =>
    simp only [List.cons_append, distinctJoins, ih, List.filter_append, List.filter_filter]
    congr 2
    apply List.filter_congr
    intro i _
    by_cases same : i = j <;> simp [same]

/-- Of led joins, those that have not been seen before are ordered once repetitions are dropped. -/
theorem ordered_filter_distinctJoins {seen joins : List Join} (led : Join.Led seen joins) :
    Join.Ordered seen ((distinctJoins joins).filter (· ∉ seen)) := by
  induction joins generalizing seen with
  | nil => trivial
  | cons j rest ih =>
    by_cases known : j ∈ seen
    · have same : (distinctJoins (j :: rest)).filter (· ∉ seen) =
          (distinctJoins rest).filter (· ∉ seen) := by
        simp only [distinctJoins, List.filter_cons, known, not_true_eq_false, decide_false,
          Bool.false_eq_true, ↓reduceIte, List.filter_filter]
        apply List.filter_congr
        intro i _
        by_cases other : i = j <;> simp [other, known]
      rw [same]
      exact ih (led.2.mono (List.cons_subset.mpr ⟨known, List.Subset.refl _⟩))
    · have same : (distinctJoins (j :: rest)).filter (· ∉ seen) =
          j :: (distinctJoins rest).filter (· ∉ j :: seen) := by
        simp only [distinctJoins, List.filter_cons, known, not_false_eq_true, decide_true,
          ↓reduceIte, List.filter_filter, List.mem_cons, not_or]
        congr 1
        apply List.filter_congr
        intro i _
        by_cases other : i = j <;> simp [other]
      rw [same]
      exact ⟨known, led.1, ih led.2⟩

/-- Joins that are led are in order once repeated ones are left out. -/
theorem ordered_distinctJoins {joins : List Join} (led : Join.Led [] joins) :
    Join.Ordered [] (distinctJoins joins) := by
  have ordered := ordered_filter_distinctJoins led
  rwa [List.filter_eq_self.mpr (by simp)] at ordered

/-- The joins of a query come each once and after the joins on the way to them. -/
theorem joins_ordered (query : Query) : Join.Ordered [] query.joins := by
  apply ordered_distinctJoins
  apply Join.Led.append
  · cases query.predicate with
    | none => trivial
    | some predicate => exact predicate.joins_led
  · exact Join.Led.flatMap fun order _ => order.expr.joins_led

end Query

end RecordQuery
