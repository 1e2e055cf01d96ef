import RecordQuery.Proofs.Query.JoinOrder

/-! # Assignments that respect relations

An assignment respects a join if the join stands for a record that its relation leads to, or for
none where the relation leads nowhere and the join is a left one. The assignments that are tried for
a record are, up to the joins that a query has, exactly those that respect each of its joins. -/

namespace RecordQuery

/-- A relation of a record leads to another record. -/
inductive Record.LeadsTo (record : Record) (relation : String) (target : Record) : Prop where
  | one (held : record.get? relation = some (.one (some target)))
  | many {targets : List Record} (held : record.get? relation = some (.many targets))
      (member : target ∈ targets)

/-- A join leads to a record from what its parent stands for. -/
def Join.LeadsTo (schema : Schema) (root : Record) (assignment : Assignment) (j : Join)
    (target : Record) : Prop :=
  ∃ record, j.parent.record? schema root assignment = some record ∧
    record.LeadsTo j.relation target

/-- A join stands for a record that it leads to, or for no record if it leads to none and is a left
join. -/
def Assignment.Respects (schema : Schema) (root : Record) (assignment : Assignment) (j : Join) :
    Prop :=
  match assignment.record? j with
  | some target => j.LeadsTo schema root assignment target
  | none => (∀ target, ¬ j.LeadsTo schema root assignment target) ∧ j.kind = .left

/-- The records that a source may stand for, along whatever relations lead there. -/
inductive Source.Reaches (schema : Schema) (root : Record) : Source → Record → Prop where
  | root {entity} : Reaches schema root (.root entity) root
  | join {parent relation kind record target} (before : Reaches schema root parent record)
      (step : record.LeadsTo relation target) :
      Reaches schema root (.join parent relation kind) target
  | embedded {parent name record value} (before : Reaches schema root parent record)
      (held : record.get? name = some (.embedded value)) :
      Reaches schema root (.embedded parent name) value
  | narrow {parent type record} (before : Reaches schema root parent record)
      (subtype : schema.isAssignable type record.entity = true) :
      Reaches schema root (.narrow parent type) record

variable {schema : Schema} {root : Record} {assignment extended : Assignment}

/-! ## Choices for one join -/

/-- What an attribute holds of records are those that the relation leads to. -/
theorem Datum.mem_targets_iff {record : Record} {relation : String} {target : Record} :
    target ∈ ((record.get? relation).map Datum.targets).getD [] ↔
      record.LeadsTo relation target := by
  constructor
  · intro member
    cases held : record.get? relation with
    | none => simp [held] at member
    | some datum =>
      simp only [held, Option.map_some, Option.getD_some] at member
      match datum with
      | .value _ | .embedded _ | .one none => simp [targets] at member
      | .one (some only) =>
        cases List.mem_singleton.mp member
        exact .one held
      | .many _ => exact .many held member
  · rintro (held | ⟨held, member⟩)
    · simp [held, targets]
    · simpa [held, targets] using member

/-- The targets of a join are the records that it leads to. -/
theorem Join.mem_targets_iff {j : Join} {target : Record} :
    target ∈ j.targets schema root assignment ↔ j.LeadsTo schema root assignment target := by
  unfold targets LeadsTo Source.datum?
  cases reached : j.parent.record? schema root assignment with
  | none => simp
  | some record => simp [Datum.mem_targets_iff]

/-- A join is tried with each of its targets, and a left join without any with none. -/
theorem Join.mem_choices_iff {j : Join} {choice : Option Record} :
    choice ∈ j.choices schema root assignment ↔
      match choice with
      | some target => target ∈ j.targets schema root assignment
      | none => j.targets schema root assignment = [] ∧ j.kind = .left := by
  unfold choices
  cases targets : j.targets schema root assignment with
  | nil => cases kind : j.kind <;> cases choice <;> simp
  | cons first rest => cases choice <;> simp

/-- A left join always leaves a choice. -/
theorem Join.choices_ne_nil {j : Join} (left : j.kind = .left) :
    j.choices schema root assignment ≠ [] := by
  unfold choices
  cases j.targets schema root assignment <;> simp [left]

/-- A join has no targets exactly if it leads nowhere. -/
theorem Join.targets_eq_nil_iff {j : Join} :
    j.targets schema root assignment = [] ↔
      ∀ target, ¬ j.LeadsTo schema root assignment target := by
  simp only [List.eq_nil_iff_forall_not_mem, mem_targets_iff]

/-- An assignment respects a join if it takes one of the join's choices. -/
theorem Assignment.respects_iff {j : Join} :
    assignment.Respects schema root j ↔
      assignment.record? j ∈ j.choices schema root assignment := by
  rw [Join.mem_choices_iff]
  unfold Respects
  cases assignment.record? j with
  | none => simp only [Join.targets_eq_nil_iff]
  | some target => simp only [Join.mem_targets_iff]

/-- What a join is tried with depends on the joins on the way to it only. -/
theorem Join.choices_congr {j : Join}
    (agree : Assignment.AgreeOn j.parent.joins assignment extended) :
    j.choices schema root assignment = j.choices schema root extended := by
  simp only [choices, targets_congr agree]

/-- To respect a join depends on the join and on those on the way to it. -/
theorem Assignment.Respects.congr {j : Join} (respects : assignment.Respects schema root j)
    (way : AgreeOn j.parent.joins assignment extended)
    (same : assignment.record? j = extended.record? j) : extended.Respects schema root j := by
  rw [respects_iff] at respects ⊢
  rwa [← same, ← Join.choices_congr way]

/-- What a source stands for under an assignment that respects the joins on the way is reached. -/
theorem Source.reaches_of_record? {source : Source} {record : Record}
    (respects : ∀ j ∈ source.joins, assignment.Respects schema root j)
    (found : source.record? schema root assignment = some record) :
    source.Reaches schema root record := by
  induction source generalizing record with
  | root entity =>
    cases found
    exact .root
  | join parent relation kind ih =>
    have last := respects ⟨parent, relation, kind⟩ (by simp [joins])
    simp only [record?] at found
    simp only [Assignment.Respects, found] at last
    obtain ⟨before, reached, step⟩ := last
    exact .join (ih (fun j member => respects j (List.mem_append_left _ member)) reached) step
  | embedded parent name ih =>
    simp only [record?] at found
    split at found
    · rename_i value held
      cases found
      obtain ⟨before, reached, held⟩ := Option.bind_eq_some_iff.mp held
      exact .embedded (ih respects reached) held
    · cases found
  | narrow parent type ih =>
    obtain ⟨reached, subtype⟩ := Option.filter_eq_some_iff.mp found
    exact .narrow (ih respects reached) subtype

/-! ## The assignments that are tried -/

namespace Assignment

/-- A join stands for what it has been assigned last. -/
theorem record?_cons_self {j : Join} {choice : Option Record} :
    record? ((j, choice) :: assignment) j = choice := by
  rw [record?, List.lookup_cons_self, Option.join_some]

/-- Assigning something to a join leaves all others as they are. -/
theorem record?_cons_of_ne {i j : Join} {choice : Option Record} (different : i ≠ j) :
    record? ((j, choice) :: assignment) i = assignment.record? i := by
  have apart : (i == j) = false := beq_eq_false_iff_ne.mpr different
  rw [record?, List.lookup_cons, apart]
  rfl

/-- An extension leaves all other joins as they are. -/
theorem record?_of_mem_extensions {joins : List Join} {i : Join} (other : i ∉ joins)
    (member : extended ∈ extensions schema root assignment joins) :
    extended.record? i = assignment.record? i := by
  induction joins generalizing assignment with
  | nil => cases List.mem_singleton.mp member; rfl
  | cons j rest ih =>
    obtain ⟨choice, _, later⟩ := List.mem_flatMap.mp member
    rw [List.mem_cons, not_or] at other
    rw [ih other.2 later, record?_cons_of_ne other.1]

/-- Extending an assignment leaves the joins that have been seen before as they are. -/
theorem agreeOn_of_mem_extensions {seen joins : List Join}
    (apart : ∀ j ∈ joins, j ∉ seen)
    (member : extended ∈ extensions schema root assignment joins) :
    AgreeOn seen extended assignment :=
  fun j known => record?_of_mem_extensions (fun inside => apart j inside known) member

/-- An extension respects the joins that it adds. -/
theorem respects_of_mem_extensions {seen joins : List Join} (ordered : Join.Ordered seen joins)
    (member : extended ∈ extensions schema root assignment joins) :
    ∀ j ∈ joins, extended.Respects schema root j := by
  induction joins generalizing seen assignment with
  | nil => simp
  | cons j rest ih =>
    obtain ⟨choice, allowed, later⟩ := List.mem_flatMap.mp member
    intro i inside
    rcases List.mem_cons.mp inside with rfl | inRest
    · have known : AgreeOn (i :: seen) extended ((i, choice) :: assignment) :=
        agreeOn_of_mem_extensions (fun k inRest => ordered.2.2.notMem inRest) later
      have way : AgreeOn i.parent.joins ((i, choice) :: assignment) assignment := by
        intro k onWay
        exact record?_cons_of_ne fun same => ordered.1 (ordered.2.1 (same ▸ onWay))
      have toParent : i.parent.joins ⊆ i :: seen :=
        fun k onWay => List.mem_cons_of_mem _ (ordered.2.1 onWay)
      rw [respects_iff, known i List.mem_cons_self, record?_cons_self,
        Join.choices_congr ((known.mono toParent).trans way)]
      exact allowed
    · exact ih ordered.2.2 later i inRest

/-- Whatever respects further joins agrees with one of the extensions for them. -/
theorem exists_mem_extensions {seen joins : List Join} (ordered : Join.Ordered seen joins)
    {wanted : Assignment} (known : AgreeOn seen wanted assignment)
    (respects : ∀ j ∈ joins, wanted.Respects schema root j) :
    ∃ extended ∈ extensions schema root assignment joins,
      AgreeOn (joins ++ seen) wanted extended := by
  induction joins generalizing seen assignment with
  | nil => exact ⟨assignment, List.mem_singleton_self _, known⟩
  | cons j rest ih =>
    have allowed : wanted.record? j ∈ j.choices schema root assignment := by
      rw [← Join.choices_congr (known.mono ordered.2.1)]
      exact respects_iff.mp (respects j List.mem_cons_self)
    have nextKnown : AgreeOn (j :: seen) wanted ((j, wanted.record? j) :: assignment) := by
      intro i member
      by_cases same : i = j
      · rw [same, record?_cons_self]
      · rw [record?_cons_of_ne same]
        exact known i ((List.mem_cons.mp member).resolve_left same)
    obtain ⟨extended, later, agree⟩ := ih ordered.2.2 nextKnown
      fun i inRest => respects i (List.mem_cons_of_mem _ inRest)
    refine ⟨extended, List.mem_flatMap.mpr ⟨_, allowed, later⟩, agree.mono ?_⟩
    intro i member
    simp only [List.cons_append, List.mem_cons, List.mem_append] at member ⊢
    grind

/-- Joins at the end of a list extend the assignments for the others. -/
theorem extensions_append (joins more : List Join) :
    extensions schema root assignment (joins ++ more) =
      (extensions schema root assignment joins).flatMap fun extended =>
        extensions schema root extended more := by
  induction joins generalizing assignment with
  | nil => simp [extensions]
  | cons j rest ih => simp only [List.cons_append, extensions, ih, List.flatMap_assoc]

/-- Left joins can always be added. -/
theorem extensions_ne_nil {joins : List Join} (left : ∀ j ∈ joins, j.kind = .left) :
    extensions schema root assignment joins ≠ [] := by
  induction joins generalizing assignment with
  | nil => simp [extensions]
  | cons j rest ih =>
    intro empty
    rw [extensions, List.flatMap_eq_nil_iff] at empty
    have offered : j.choices schema root assignment ≠ [] :=
      Join.choices_ne_nil (left j List.mem_cons_self)
    obtain ⟨choice, allowed⟩ := List.exists_mem_of_ne_nil _ offered
    exact ih (fun i inRest => left i (List.mem_cons_of_mem _ inRest)) (empty choice allowed)

/-- The assignments tried for the joins of a query respect each of them. -/
theorem respects_of_mem_all {query : Query}
    (member : assignment ∈ all schema root query.joins) :
    ∀ j ∈ query.joins, assignment.Respects schema root j :=
  respects_of_mem_extensions query.joins_ordered member

/-- Whatever respects the joins of a query agrees on them with an assignment that is tried. -/
theorem exists_mem_all {query : Query}
    (respects : ∀ j ∈ query.joins, assignment.Respects schema root j) :
    ∃ tried ∈ all schema root query.joins, AgreeOn query.joins assignment tried := by
  obtain ⟨tried, member, agree⟩ := exists_mem_extensions query.joins_ordered
    (fun _ none => by cases none) respects
  exact ⟨tried, member, agree.left⟩

end Assignment

end RecordQuery
