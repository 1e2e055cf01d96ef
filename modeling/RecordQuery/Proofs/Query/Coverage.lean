import RecordQuery.Proofs.Fallible
import RecordQuery.Proofs.Query.Assignment
import RecordQuery.Proofs.Store.Matching

/-! # Joins that are looked up

The record of a source is looked up for the last join on the way to it. The joins of a query come in
such an order that the one which is looked up has always been assigned something: while assignments
are made, and when the attributes of the query are read. -/

namespace RecordQuery

open Fallible

/-! ## Sources that are read -/

/-- An attribute of the expression is read from a source. -/
inductive Expr.ReadsFrom (source : Source) : Expr → Prop where
  | attr {name} : ReadsFrom source (.attr source name)
  | mapped {function inner} (inside : ReadsFrom source inner) :
      ReadsFrom source (.mapped function inner)
  | left {left right} (inside : ReadsFrom source left) : ReadsFrom source (.concat left right)
  | right {left right} (inside : ReadsFrom source right) : ReadsFrom source (.concat left right)

/-- An attribute of an operand of the predicate, or of a condition inside it, is read from a
source. -/
inductive Predicate.ReadsFrom (source : Source) : Predicate → Prop where
  | operand {predicate : Predicate} {expr} (taken : expr ∈ predicate.operands)
      (inside : expr.ReadsFrom source) : ReadsFrom source predicate
  | condition {predicate condition : Predicate} (taken : condition ∈ predicate.conditions)
      (inside : ReadsFrom source condition) : ReadsFrom source predicate

/-- An attribute of the predicate or of an order is read from a source. -/
inductive Query.ReadsFrom (source : Source) (query : Query) : Prop where
  | predicate {predicate : Predicate} (given : query.predicate = some predicate)
      (inside : predicate.ReadsFrom source)
  | order {order : SortOrder} (given : order ∈ query.orders)
      (inside : order.expr.ReadsFrom source)

/-- An expression mentions the joins on the way to the sources that it reads from. -/
theorem Expr.mentions_iff {expr : Expr} {j : Join} :
    expr.Mentions j ↔ ∃ source, expr.ReadsFrom source ∧ source.Crosses j := by
  constructor
  · intro mentioned
    induction mentioned with
    | attr crossed => exact ⟨_, .attr, crossed⟩
    | mapped _ ih => exact ih.imp fun _ found => ⟨.mapped found.1, found.2⟩
    | left _ ih => exact ih.imp fun _ found => ⟨.left found.1, found.2⟩
    | right _ ih => exact ih.imp fun _ found => ⟨.right found.1, found.2⟩
  · rintro ⟨source, reads, crossed⟩
    induction reads with
    | attr => exact .attr crossed
    | mapped _ ih => exact .mapped ih
    | left _ ih => exact .left ih
    | right _ ih => exact .right ih

/-- A predicate mentions the joins on the way to the sources that it reads from. -/
theorem Predicate.mentions_iff {predicate : Predicate} {j : Join} :
    predicate.Mentions j ↔ ∃ source, predicate.ReadsFrom source ∧ source.Crosses j := by
  constructor
  · intro mentioned
    induction mentioned with
    | operand taken inside =>
      obtain ⟨source, reads, crossed⟩ := Expr.mentions_iff.mp inside
      exact ⟨source, .operand taken reads, crossed⟩
    | condition taken _ ih => exact ih.imp fun _ found => ⟨.condition taken found.1, found.2⟩
  · rintro ⟨source, reads, crossed⟩
    induction reads with
    | operand taken inside => exact .operand taken (Expr.mentions_iff.mpr ⟨source, inside, crossed⟩)
    | condition taken _ ih => exact .condition taken ih

/-- A query has the joins that are crossed on the way to a source that it reads. -/
theorem Query.mem_joins_iff_crosses {query : Query} {j : Join} :
    j ∈ query.joins ↔ ∃ source, query.ReadsFrom source ∧ source.Crosses j := by
  rw [mem_joins_iff]
  constructor
  · rintro (⟨predicate, given, mentioned⟩ | ⟨order, given, mentioned⟩)
    · obtain ⟨source, reads, crossed⟩ := Predicate.mentions_iff.mp mentioned
      exact ⟨source, .predicate given reads, crossed⟩
    · obtain ⟨source, reads, crossed⟩ := Expr.mentions_iff.mp mentioned
      exact ⟨source, .order given reads, crossed⟩
  · rintro ⟨source, ⟨given, reads⟩ | ⟨given, reads⟩, crossed⟩
    · exact .inl ⟨_, given, Predicate.mentions_iff.mpr ⟨source, reads, crossed⟩⟩
    · exact .inr ⟨_, given, Expr.mentions_iff.mpr ⟨source, reads, crossed⟩⟩

/-! ## Entries of assignments -/

/-- The joins that an assignment has an entry for. -/
def Assignment.entries (assignment : Assignment) : List Join := assignment.map (·.1)

/-- The record of a source, or the join that is looked up and has no entry. -/
def Source.lookUp (schema : Schema) (root : Record) (assignment : Assignment) :
    Source → Except Join (Option Record)
  | .root _ => .ok (some root)
  | join parent relation kind =>
    match assignment.lookup ⟨parent, relation, kind⟩ with
    | some choice => .ok choice
    | none => .error ⟨parent, relation, kind⟩
  | embedded parent name => do
    match (← parent.lookUp schema root assignment).bind (·.get? name) with
    | some (.embedded value) => return some value
    | _ => return none
  | narrow parent type => do
    return (← parent.lookUp schema root assignment).filter fun record =>
      schema.isAssignable type record.entity

variable {schema : Schema} {root : Record} {assignment extended : Assignment}

/-- A join with an entry is looked up successfully. -/
theorem Assignment.exists_lookup {j : Join} (entered : j ∈ assignment.entries) :
    ∃ choice, assignment.lookup j = some choice := by
  obtain ⟨entry, member, rfl⟩ := List.mem_map.mp entered
  refine Option.ne_none_iff_exists'.mp fun missing => ?_
  have different := List.lookup_eq_none_iff.mp missing entry member
  exact absurd different (by simp)

/-- Where the joins on the way have entries, no join is reported and the record is found. -/
theorem Source.lookUp_eq_ok {source : Source} (entered : source.joins ⊆ assignment.entries) :
    source.lookUp schema root assignment = .ok (source.record? schema root assignment) := by
  induction source with
  | root entity => rfl
  | join parent relation kind _ =>
    have last : (⟨parent, relation, kind⟩ : Join) ∈ assignment.entries := entered (by simp [joins])
    obtain ⟨choice, found⟩ := Assignment.exists_lookup last
    rw [lookUp, record?, Assignment.record?, found]
    rfl
  | embedded parent name ih =>
    rw [lookUp, ih entered, record?, ok_bind]
    generalize (parent.record? schema root assignment).bind (·.get? name) = held
    cases held with
    | none => rfl
    | some datum => cases datum <;> rfl
  | narrow parent type ih =>
    rw [lookUp, ih entered, record?]
    rfl

namespace Assignment

/-- An extension has entries for the joins that it adds and for those before. -/
theorem entries_of_mem_extensions {joins : List Join}
    (member : extended ∈ extensions schema root assignment joins) :
    extended.entries = joins.reverse ++ assignment.entries := by
  induction joins generalizing assignment with
  | nil => cases List.mem_singleton.mp member; rfl
  | cons j rest ih =>
    obtain ⟨choice, _, later⟩ := List.mem_flatMap.mp member
    rw [ih later, List.reverse_cons, List.append_assoc]
    rfl

/-- An assignment that is tried has an entry for each join, the last one in front. -/
theorem entries_of_mem_all {joins : List Join} (member : extended ∈ all schema root joins) :
    extended.entries = joins.reverse := by
  rw [entries_of_mem_extensions member]
  exact List.append_nil _

end Assignment

/-- The joins on the way to a join come before it. -/
theorem Join.Ordered.parent_joins_subset {seen before after : List Join} {j : Join}
    (ordered : Ordered seen (before ++ j :: after)) : j.parent.joins ⊆ before ++ seen := by
  induction before generalizing seen with
  | nil => exact ordered.2.1
  | cons i rest ih =>
    intro k member
    have found := ih ordered.2.2 member
    simp only [List.cons_append, List.mem_append, List.mem_cons] at found ⊢
    grind

namespace Query

/-- The joins of a query are those that are crossed on the way to a source which it reads. Each
comes once, and after all joins on the way to it. An assignment that is tried has an entry for each
of them and no other, and no join without an entry is looked up: neither for the source that a join
starts from, under an assignment of the joins before it, nor for a source that the query reads. -/
theorem joins_cover (query : Query) :
    (∀ j, j ∈ query.joins ↔ ∃ source, query.ReadsFrom source ∧ source.Crosses j) ∧
    query.joins.Nodup ∧
    (∀ before j after, query.joins = before ++ j :: after →
      (∀ i, j.parent.Crosses i → i ∈ before) ∧
      ∀ schema root, ∀ assignment ∈ Assignment.all schema root before,
        j.parent.lookUp schema root assignment =
          .ok (j.parent.record? schema root assignment)) ∧
    ∀ schema root, ∀ assignment ∈ Assignment.all schema root query.joins,
      assignment.entries.Perm query.joins ∧
      ∀ source, query.ReadsFrom source → source.lookUp schema root assignment =
        .ok (source.record? schema root assignment) := by
  refine ⟨fun j => mem_joins_iff_crosses, query.joins_ordered.nodup, ?_, ?_⟩
  · intro before j after split
    -- The joins on the way to the start of a join come before it.
    have way : j.parent.joins ⊆ before := by
      have ordered := query.joins_ordered
      rw [split] at ordered
      simpa using ordered.parent_joins_subset
    refine ⟨fun i crossed => way (Source.mem_joins_iff.mpr crossed), ?_⟩
    intro schema root assignment made
    apply Source.lookUp_eq_ok
    rw [Assignment.entries_of_mem_all made]
    exact fun i onWay => List.mem_reverse.mpr (way onWay)
  · intro schema root assignment tried
    have entries := Assignment.entries_of_mem_all tried
    refine ⟨entries ▸ List.reverse_perm _, fun source reads => Source.lookUp_eq_ok ?_⟩
    intro i onWay
    rw [entries, List.mem_reverse]
    exact mem_joins_iff_crosses.mpr ⟨source, reads, Source.mem_joins_iff.mp onWay⟩

end Query

namespace Sample

def petJoin : Join := ⟨.root "Person", "pets", .left⟩

/-- What the animals of a person wear is made by somebody. -/
def makerJoin : Join := ⟨.embedded petJoin.source "tag", "maker", .left⟩

/-- People by their pets, where a pet wears something that is made by somebody with a name. -/
def byMaker : Query where
  entity := "Person"
  predicate := some (.negation (.isNull (.mapped .upper (.attr makerJoin.source "name"))))
  orders := [⟨"pets.name", .attr petJoin.source "name", .ascending⟩]

/-- One of Ann's pets, which wears nothing. -/
def ofRex : Assignment := [(makerJoin, none), (petJoin, some (dog "Rex" 3))]

end Sample

namespace Query

open Sample in
/-- The maker is looked up after the pet, and is missing without being left out. -/
theorem joins_cover_byMaker :
    (byMaker.joins = [petJoin] ++ makerJoin :: [] ∧
      ofRex ∈ Assignment.all Sample.schema ann byMaker.joins ∧
      byMaker.ReadsFrom makerJoin.source) ∧
    (∀ i, makerJoin.parent.Crosses i → i ∈ [petJoin]) ∧
      ofRex.entries.Perm byMaker.joins ∧
      makerJoin.source.lookUp Sample.schema ann ofRex = .ok none := by
  have order : byMaker.joins = [petJoin] ++ makerJoin :: [] := by decide
  have tried : ofRex ∈ Assignment.all Sample.schema ann byMaker.joins := by
    have all : Assignment.all Sample.schema ann byMaker.joins =
        [[(makerJoin, none), (petJoin, some (cat "Tom"))], ofRex] := by rfl
    rw [all]
    simp
  have reads : byMaker.ReadsFrom makerJoin.source :=
    .predicate rfl (.condition (List.mem_singleton_self _)
      (.operand (List.mem_singleton_self _) (.mapped .attr)))
  obtain ⟨-, -, ordered, entered⟩ := joins_cover byMaker
  obtain ⟨entries, found⟩ := entered Sample.schema ann ofRex tried
  exact ⟨⟨order, tried, reads⟩, (ordered _ _ _ order).1, entries, found _ reads⟩

end Query

end RecordQuery
