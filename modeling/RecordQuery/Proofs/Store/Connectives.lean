import RecordQuery.Proofs.Store.Matching
import RecordQuery.Proofs.Truth

/-! # Finding by disjunctions and conjunctions

A disjunction of predicates over left joins finds what one of them finds. A conjunction finds no
more than what both find, since one assignment has to make both true; it finds all of it where the
joins that both mention lead to one record at most. -/

namespace RecordQuery

open Fallible

/-! ## Putting assignments together -/

namespace Assignment

variable {schema : Schema} {root : Record} {first second : Assignment} {joins more : List Join}

/-- The first assignment on some joins, and the second one on all others. -/
def overlay (joins : List Join) (first second : Assignment) : Assignment :=
  joins.map (fun j => (j, first.record? j)) ++ second

/-- In an overlay, the given joins stand for what the first assignment says, and all others for what
the second one says. -/
theorem record?_overlay (i : Join) :
    (overlay joins first second).record? i =
      if i ∈ joins then first.record? i else second.record? i := by
  induction joins with
  | nil => rfl
  | cons j rest ih =>
    by_cases same : i = j
    · subst same
      rw [if_pos List.mem_cons_self]
      exact record?_cons_self
    · have later : (overlay (j :: rest) first second).record? i =
          (overlay rest first second).record? i := record?_cons_of_ne same
      simp only [later, ih, List.mem_cons, same, false_or]

/-- Two assignments that agree where they meet are parts of one. -/
theorem exists_common (meet : ∀ j ∈ joins, j ∈ more → first.record? j = second.record? j) :
    ∃ common : Assignment, AgreeOn joins first common ∧ AgreeOn more second common := by
  refine ⟨overlay joins first second, fun j member => ?_, fun j member => ?_⟩
  · rw [record?_overlay, if_pos member]
  · rw [record?_overlay]
    split
    · rename_i both
      exact (meet j both member).symm
    · rfl

/-- Left joins can always be respected besides other joins. -/
theorem exists_respecting (led : Join.Led [] joins) (ledMore : Join.Led [] more)
    (left : ∀ j ∈ more, j.kind = .left) (respects : ∀ j ∈ joins, first.Respects schema root j) :
    ∃ further : Assignment, AgreeOn joins first further ∧
      ∀ j ∈ joins ++ more, further.Respects schema root j := by
  obtain ⟨known, tried, agree⟩ := exists_mem_extensions
    (Query.ordered_distinctJoins led) (fun _ none => by cases none)
    fun j member => respects j (Query.mem_distinctJoins.mp member)
  let added := (Query.distinctJoins more).filter (· ∉ joins)
  have leftAdded : ∀ j ∈ added, j.kind = .left := fun j member =>
    left j (Query.mem_distinctJoins.mp (List.mem_filter.mp member).1)
  obtain ⟨further, member⟩ := List.exists_mem_of_ne_nil _
    (extensions_ne_nil leftAdded : extensions schema root known added ≠ [])
  have apart : ∀ j ∈ added, j ∉ joins := fun j inside =>
    of_decide_eq_true (List.mem_filter.mp inside).2
  refine ⟨further, ?_, fun j inside => ?_⟩
  · have onJoins : AgreeOn joins first known :=
      agree.mono fun j inside => List.mem_append_left _ (Query.mem_distinctJoins.mpr inside)
    exact onJoins.trans (agreeOn_of_mem_extensions apart member).symm
  · have whole : further ∈ extensions schema root [] (Query.distinctJoins (joins ++ more)) := by
      rw [Query.distinctJoins_append, extensions_append]
      exact List.mem_flatMap.mpr ⟨known, tried, member⟩
    exact respects_of_mem_extensions (Query.ordered_distinctJoins (led.append ledMore)) whole j
      (Query.mem_distinctJoins.mpr inside)

end Assignment

/-- Two choices for a join are the same unless they are different records. -/
theorem Join.choice_eq {schema : Schema} {root : Record} {assignment : Assignment} {j : Join}
    {choice other : Option Record} (taken : choice ∈ j.choices schema root assignment)
    (also : other ∈ j.choices schema root assignment)
    (single : ∀ target twin, choice = some target → other = some twin → target = twin) :
    choice = other := by
  rw [mem_choices_iff] at taken also
  cases choice with
  | none =>
    cases other with
    | none => rfl
    | some twin => simp [taken.1] at also
  | some target =>
    cases other with
    | none => simp [also.1] at taken
    | some twin => exact congrArg some (single target twin rfl rfl)

/-- A join leads to one record at most from a record searched for. -/
def Join.ReachesAtMostOne (schema : Schema) (root : Record) (j : Join) : Prop :=
  ∀ target other, j.source.Reaches schema root target → j.source.Reaches schema root other →
    target = other

/-- Assignments agree on the way to a source if each join there leads to one record at most. -/
theorem Source.agreeOn_of_reachesAtMostOne {schema : Schema} {root : Record}
    {first second : Assignment} {source : Source}
    (firstRespects : ∀ j ∈ source.joins, first.Respects schema root j)
    (secondRespects : ∀ j ∈ source.joins, second.Respects schema root j)
    (single : ∀ j ∈ source.joins, j.ReachesAtMostOne schema root) :
    Assignment.AgreeOn source.joins first second := by
  induction source with
  | root entity => exact fun j member => by cases member
  | embedded parent name ih => exact ih firstRespects secondRespects single
  | narrow parent type ih => exact ih firstRespects secondRespects single
  | join parent relation kind ih =>
    have way : Assignment.AgreeOn parent.joins first second :=
      ih (fun j member => firstRespects j (List.mem_append_left _ member))
        (fun j member => secondRespects j (List.mem_append_left _ member))
        fun j member => single j (List.mem_append_left _ member)
    intro j member
    rcases List.mem_append.mp member with earlier | last
    · exact way j earlier
    cases List.mem_singleton.mp last
    have inFirst := Assignment.respects_iff.mp (firstRespects _ member)
    have inSecond := Assignment.respects_iff.mp (secondRespects _ member)
    rw [← Join.choices_congr way] at inSecond
    refine Join.choice_eq inFirst inSecond fun target twin taken other => ?_
    exact single _ member target twin (reaches_of_record? firstRespects taken)
      (reaches_of_record? secondRespects other)

/-! ## Truth of two conditions -/

namespace Predicate

variable {schema : Schema} {record : Record} {assignment : Assignment} {first second : Predicate}

/-- Two predicates have truths together exactly if each has one. -/
theorem truths_pair_eq_ok_iff {found : List Truth} :
    truths schema record assignment [first, second] = .ok found ↔
      ∃ one two, first.truth schema record assignment = .ok one ∧
        second.truth schema record assignment = .ok two ∧ found = [one, two] := by
  simp only [truths, bind_eq_ok_iff, pure_eq_ok, Except.ok.injEq]
  constructor
  · rintro ⟨one, holds, _, ⟨two, holdsToo, _, rfl, rfl⟩, rfl⟩
    exact ⟨one, two, holds, holdsToo, rfl⟩
  · rintro ⟨one, two, holds, holdsToo, rfl⟩
    exact ⟨one, holds, _, ⟨two, holdsToo, _, rfl, rfl⟩, rfl⟩

/-- A conjunction of two is true exactly if both are. -/
theorem truth_conjunction_eq_true_iff :
    (conjunction [first, second]).truth schema record assignment = .ok (some true) ↔
      first.truth schema record assignment = .ok (some true) ∧
        second.truth schema record assignment = .ok (some true) := by
  simp only [truth, bind_eq_ok_iff, truths_pair_eq_ok_iff, pure_eq_ok, Except.ok.injEq,
    Truth.all_eq_true_iff]
  constructor
  · rintro ⟨_, ⟨one, two, holds, holdsToo, rfl⟩, all⟩
    rw [holds, holdsToo, all one (by simp), all two (by simp)]
    exact ⟨rfl, rfl⟩
  · rintro ⟨holds, holdsToo⟩
    exact ⟨_, ⟨_, _, holds, holdsToo, rfl⟩, by simp⟩

/-- A disjunction of two is true exactly if both have a truth and one of them is true. -/
theorem truth_disjunction_eq_true_iff :
    (disjunction [first, second]).truth schema record assignment = .ok (some true) ↔
      ∃ one two, first.truth schema record assignment = .ok one ∧
        second.truth schema record assignment = .ok two ∧ (one = some true ∨ two = some true) := by
  simp only [truth, bind_eq_ok_iff, truths_pair_eq_ok_iff, pure_eq_ok, Except.ok.injEq,
    Truth.any_eq_true_iff]
  constructor
  · rintro ⟨_, ⟨one, two, holds, holdsToo, rfl⟩, any⟩
    simp only [List.mem_cons, List.not_mem_nil, or_false, exists_eq_or_imp, exists_eq_left] at any
    exact ⟨one, two, holds, holdsToo, any⟩
  · rintro ⟨one, two, holds, holdsToo, either⟩
    refine ⟨_, ⟨one, two, holds, holdsToo, rfl⟩, ?_⟩
    simpa only [List.mem_cons, List.not_mem_nil, or_false, exists_eq_or_imp, exists_eq_left]

/-! ## Records that satisfy one of two predicates, or both -/

/-- A conjunction mentions the joins of both of its members. -/
theorem mentions_conjunction_iff {j : Join} :
    (conjunction [first, second]).Mentions j ↔ first.Mentions j ∨ second.Mentions j := by
  simp only [← mem_joins_iff, joins, joinsOfAll, List.append_nil, List.mem_append]

/-- A disjunction mentions the joins of both of its members. -/
theorem mentions_disjunction_iff {j : Join} :
    (disjunction [first, second]).Mentions j ↔ first.Mentions j ∨ second.Mentions j := by
  simp only [← mem_joins_iff, joins, joinsOfAll, List.append_nil, List.mem_append]

/-- What makes a predicate true can be extended to the left joins of another predicate. -/
theorem SatisfiedBy.extend (satisfied : first.SatisfiedBy schema record)
    (left : ∀ j, second.Mentions j → j.kind = .left) :
    ∃ assignment : Assignment,
      (∀ j, first.Mentions j ∨ second.Mentions j → assignment.Respects schema record j) ∧
        first.truth schema record assignment = .ok (some true) := by
  obtain ⟨known, respects, holds⟩ := satisfied
  obtain ⟨further, agree, respectsAll⟩ := Assignment.exists_respecting first.joins_led
    second.joins_led (fun j member => left j (mem_joins_iff.mp member))
    fun j member => respects j (mem_joins_iff.mp member)
  refine ⟨further, fun j mentioned => respectsAll j ?_, ?_⟩
  · simpa only [List.mem_append, mem_joins_iff] using mentioned
  · rw [← truth_congr agree]
    exact holds

/-- Where a disjunction over left joins evaluates, a record satisfies it exactly if it satisfies one
of its members. -/
theorem satisfiedBy_disjunction_iff (leftFirst : ∀ j, first.Mentions j → j.kind = .left)
    (leftSecond : ∀ j, second.Mentions j → j.kind = .left)
    (evaluates : ∀ assignment : Assignment,
      (∀ j, (disjunction [first, second]).Mentions j → assignment.Respects schema record j) →
        ∃ truth, (disjunction [first, second]).truth schema record assignment = .ok truth) :
    (disjunction [first, second]).SatisfiedBy schema record ↔
      first.SatisfiedBy schema record ∨ second.SatisfiedBy schema record := by
  have parts : ∀ assignment : Assignment,
      (∀ j, first.Mentions j ∨ second.Mentions j → assignment.Respects schema record j) →
        ∃ one two, first.truth schema record assignment = .ok one ∧
          second.truth schema record assignment = .ok two := by
    intro assignment respects
    obtain ⟨_, found⟩ := evaluates assignment
      fun j mentioned => respects j (mentions_disjunction_iff.mp mentioned)
    obtain ⟨_, pair, _⟩ := bind_eq_ok_iff.mp (by simpa only [truth] using found)
    obtain ⟨one, two, holds, holdsToo, _⟩ := truths_pair_eq_ok_iff.mp pair
    exact ⟨one, two, holds, holdsToo⟩
  constructor
  · rintro ⟨assignment, respects, holds⟩
    obtain ⟨one, two, isOne, isTwo, rfl | rfl⟩ := truth_disjunction_eq_true_iff.mp holds
    · exact .inl ⟨assignment, fun j mentioned =>
        respects j (mentions_disjunction_iff.mpr (.inl mentioned)), isOne⟩
    · exact .inr ⟨assignment, fun j mentioned =>
        respects j (mentions_disjunction_iff.mpr (.inr mentioned)), isTwo⟩
  -- Left joins let an assignment for one member be extended by the joins of the other one.
  · rintro (satisfied | satisfied)
    · obtain ⟨assignment, respects, holds⟩ := satisfied.extend leftSecond
      obtain ⟨one, two, isOne, isTwo⟩ := parts assignment respects
      refine ⟨assignment, fun j mentioned => respects j (mentions_disjunction_iff.mp mentioned), ?_⟩
      exact truth_disjunction_eq_true_iff.mpr ⟨_, two, holds, isTwo, .inl rfl⟩
    · obtain ⟨assignment, respects, holds⟩ := satisfied.extend leftFirst
      obtain ⟨one, two, isOne, isTwo⟩ := parts assignment fun j mentioned =>
        respects j mentioned.symm
      refine ⟨assignment, fun j mentioned =>
        respects j (mentions_disjunction_iff.mp mentioned).symm, ?_⟩
      exact truth_disjunction_eq_true_iff.mpr ⟨one, _, isOne, holds, .inr rfl⟩

/-- A record that satisfies a conjunction satisfies both of its members. -/
theorem SatisfiedBy.of_conjunction (satisfied : (conjunction [first, second]).SatisfiedBy schema
    record) : first.SatisfiedBy schema record ∧ second.SatisfiedBy schema record := by
  obtain ⟨assignment, respects, holds⟩ := satisfied
  obtain ⟨one, two⟩ := truth_conjunction_eq_true_iff.mp holds
  exact ⟨⟨assignment, fun j mentioned =>
      respects j (mentions_conjunction_iff.mpr (.inl mentioned)), one⟩,
    ⟨assignment, fun j mentioned =>
      respects j (mentions_conjunction_iff.mpr (.inr mentioned)), two⟩⟩

/-- Where the joins that two predicates share lead to one record at most, what satisfies both
satisfies their conjunction. -/
theorem SatisfiedBy.conjunction (satisfied : first.SatisfiedBy schema record)
    (satisfiedToo : second.SatisfiedBy schema record)
    (single : ∀ j, first.Mentions j → second.Mentions j → j.ReachesAtMostOne schema record) :
    (conjunction [first, second]).SatisfiedBy schema record := by
  obtain ⟨one, oneRespects, oneHolds⟩ := satisfied
  obtain ⟨two, twoRespects, twoHolds⟩ := satisfiedToo
  -- A shared join is reached by shared joins, so the two assignments agree along the whole way.
  have meet : ∀ j ∈ first.joins, j ∈ second.joins → one.record? j = two.record? j := by
    intro j inFirst inSecond
    rw [mem_joins_iff] at inFirst inSecond
    have way : ∀ i ∈ j.source.joins, first.Mentions i ∧ second.Mentions i := by
      intro i member
      rcases List.mem_append.mp member with earlier | last
      · exact ⟨inFirst.parent earlier, inSecond.parent earlier⟩
      · cases List.mem_singleton.mp last
        exact ⟨inFirst, inSecond⟩
    have agree : Assignment.AgreeOn j.source.joins one two :=
      Source.agreeOn_of_reachesAtMostOne (fun i member => oneRespects i (way i member).1)
        (fun i member => twoRespects i (way i member).2)
        fun i member => single i (way i member).1 (way i member).2
    exact agree j (Source.mem_joins_iff.mpr .here)
  obtain ⟨common, onFirst, onSecond⟩ := Assignment.exists_common meet
  refine ⟨common, fun j mentioned => ?_, truth_conjunction_eq_true_iff.mpr ⟨?_, ?_⟩⟩
  · rcases mentions_conjunction_iff.mp mentioned with inFirst | inSecond
    · exact (oneRespects j inFirst).congr
        (onFirst.mono fun i member => mem_joins_iff.mpr (inFirst.parent member))
        (onFirst j (mem_joins_iff.mpr inFirst))
    · exact (twoRespects j inSecond).congr
        (onSecond.mono fun i member => mem_joins_iff.mpr (inSecond.parent member))
        (onSecond j (mem_joins_iff.mpr inSecond))
  · rw [← truth_congr onFirst]
    exact oneHolds
  · rw [← truth_congr onSecond]
    exact twoHolds

end Predicate

/-- The query for the records of an entity that satisfy a predicate. -/
def Query.satisfying (entity : String) (predicate : Predicate) : Query where
  entity
  predicate := some predicate

namespace Store

variable {store : Store} {entity : String}

/-- A predicate evaluates for all records of an entity. -/
def Evaluates (store : Store) (entity : String) (predicate : Predicate) : Prop :=
  ∀ record ∈ store.candidates entity, predicate.Evaluates store.schema record

/-- A search for a predicate that evaluates succeeds. -/
theorem exists_fetch_of_evaluates {predicate : Predicate}
    (evaluates : store.Evaluates entity predicate) :
    ∃ answer, store.fetch (.satisfying entity predicate) = .ok answer := by
  refine exists_fetch (fun other given => ?_) fun order listed => by cases listed
  cases given
  exact evaluates

/-- A search for a predicate finds the records of the entity that satisfy it. -/
theorem mem_fetch_satisfying_iff {predicate : Predicate} {answer : List Record}
    (fetched : store.fetch (.satisfying entity predicate) = .ok answer) {record : Record} :
    record ∈ answer ↔
      record ∈ store.candidates entity ∧ predicate.SatisfiedBy store.schema record := by
  rw [mem_fetch_iff rfl fetched, mem_candidates_iff, and_assoc]
  simp only [Query.Selects, Query.satisfying, Option.some.injEq, forall_eq']

/-- For predicates over left joins that evaluate without a fault, the searches succeed; a
disjunction finds the records that one of the predicates finds, a conjunction finds only records
that both find, and all of these where each join that both mention leads to one record at most. -/
theorem fetch_connectives {first second : Predicate}
    (left : ∀ j, first.Mentions j ∨ second.Mentions j → j.kind = .left)
    (evaluates : ∀ predicate ∈ [first, second, .disjunction [first, second],
      .conjunction [first, second]], store.Evaluates entity predicate) :
    ∃ ofFirst ofSecond either both,
      store.fetch (.satisfying entity first) = .ok ofFirst ∧
      store.fetch (.satisfying entity second) = .ok ofSecond ∧
      store.fetch (.satisfying entity (.disjunction [first, second])) = .ok either ∧
      store.fetch (.satisfying entity (.conjunction [first, second])) = .ok both ∧
      (∀ record, record ∈ either ↔ record ∈ ofFirst ∨ record ∈ ofSecond) ∧
      (∀ record, record ∈ both → record ∈ ofFirst ∧ record ∈ ofSecond) ∧
      ((∀ j, first.Mentions j → second.Mentions j → ∀ root ∈ store.candidates entity,
          j.ReachesAtMostOne store.schema root) →
        ∀ record, record ∈ both ↔ record ∈ ofFirst ∧ record ∈ ofSecond) := by
  obtain ⟨ofFirst, fetchedFirst⟩ := exists_fetch_of_evaluates (evaluates first (by simp))
  obtain ⟨ofSecond, fetchedSecond⟩ := exists_fetch_of_evaluates (evaluates second (by simp))
  obtain ⟨either, fetchedEither⟩ :=
    exists_fetch_of_evaluates (evaluates (.disjunction [first, second]) (by simp))
  obtain ⟨both, fetchedBoth⟩ :=
    exists_fetch_of_evaluates (evaluates (.conjunction [first, second]) (by simp))
  have inBoth : ∀ record, record ∈ both → record ∈ ofFirst ∧ record ∈ ofSecond := by
    intro record member
    rw [mem_fetch_satisfying_iff fetchedBoth] at member
    obtain ⟨one, two⟩ := member.2.of_conjunction
    exact ⟨(mem_fetch_satisfying_iff fetchedFirst).mpr ⟨member.1, one⟩,
      (mem_fetch_satisfying_iff fetchedSecond).mpr ⟨member.1, two⟩⟩
  refine ⟨ofFirst, ofSecond, either, both, fetchedFirst, fetchedSecond, fetchedEither, fetchedBoth,
    fun record => ?_, inBoth, fun single record => ⟨inBoth record, ?_⟩⟩
  · rw [mem_fetch_satisfying_iff fetchedEither, mem_fetch_satisfying_iff fetchedFirst,
      mem_fetch_satisfying_iff fetchedSecond, ← and_or_left]
    refine and_congr_right fun candidate => ?_
    exact Predicate.satisfiedBy_disjunction_iff (fun j mentioned => left j (.inl mentioned))
      (fun j mentioned => left j (.inr mentioned))
      (evaluates (.disjunction [first, second]) (by simp) record candidate)
  · rintro ⟨inFirst, inSecond⟩
    rw [mem_fetch_satisfying_iff fetchedFirst] at inFirst
    rw [mem_fetch_satisfying_iff fetchedSecond] at inSecond
    refine (mem_fetch_satisfying_iff fetchedBoth).mpr ⟨inFirst.1, ?_⟩
    exact inFirst.2.conjunction inSecond.2 fun j one two => single j one two record inFirst.1

/-- Two predicates that always evaluate do so in searches, and so do their connectives. -/
theorem evaluates_connectives {first second : Predicate}
    (one : ∀ root assignment, ∃ truth, first.truth store.schema root assignment = .ok truth)
    (two : ∀ root assignment, ∃ truth, second.truth store.schema root assignment = .ok truth) :
    ∀ predicate ∈ [first, second, .disjunction [first, second], .conjunction [first, second]],
      store.Evaluates entity predicate := by
  intro predicate member root _ assignment _
  obtain ⟨truth, found⟩ := one root assignment
  obtain ⟨truthToo, foundToo⟩ := two root assignment
  have both : Predicate.truths store.schema root assignment [first, second] =
      .ok [truth, truthToo] := Predicate.truths_pair_eq_ok_iff.mpr ⟨_, _, found, foundToo, rfl⟩
  simp only [List.mem_cons, List.not_mem_nil, or_false] at member
  rcases member with rfl | rfl | rfl | rfl
  · exact ⟨truth, found⟩
  · exact ⟨truthToo, foundToo⟩
  · exact ⟨_, by rw [Predicate.truth, both]; rfl⟩
  · exact ⟨_, by rw [Predicate.truth, both]; rfl⟩

end Store

namespace Sample

/-- Where there is an animal, its age is missing unless it is a dog. -/
def ageless : Predicate := .isNull (.attr (.narrow (pets .left) "Dog") "age")

/-- There is an animal that has a name. -/
def petted : Predicate := .negation (.isNull (.attr (pets .left) "name"))

/-- Both predicates and the opposite of the first mention the animals of a person only. -/
theorem eq_pets_of_mentions {predicate : Predicate}
    (listed : predicate ∈ [ageless, .negation ageless, petted]) {j : Join}
    (mentioned : predicate.Mentions j) : j = ⟨.root "Person", "pets", .left⟩ := by
  simp only [List.mem_cons, List.not_mem_nil, or_false] at listed
  rcases listed with rfl | rfl | rfl <;>
    simpa [← Predicate.mem_joins_iff, Predicate.joins, ageless, petted, pets, Expr.joins,
      Source.joins] using mentioned

/-- Somebody with one cat. -/
def eve : Record := person "Eve" [cat "Tom"]

/-- Nobody has more than one animal. -/
def modest : Store := { schema, records := [bob, eve] }

/-- The join to the animals of a person leads to one record at most. -/
theorem reachesAtMostOne_modest {j : Join} (isPets : j = ⟨.root "Person", "pets", .left⟩) :
    ∀ root ∈ modest.candidates "Person", j.ReachesAtMostOne modest.schema root := by
  have single : ∀ root ∈ modest.records, ∀ target, root.LeadsTo "pets" target →
      target = cat "Tom" := by
    intro root member target leads
    have listed := Datum.mem_targets_iff.mpr leads
    have ofBob : bob.get? "pets" = some (.many []) := by cbv
    have ofEve : eve.get? "pets" = some (.many [cat "Tom"]) := by cbv
    simp only [modest, List.mem_cons, List.not_mem_nil, or_false] at member
    rcases member with rfl | rfl
    · simp [ofBob, Datum.targets] at listed
    · simpa [ofEve, Datum.targets] using listed
  subst isPets
  intro root candidate target other reached reachedToo
  obtain ⟨member, -⟩ := Store.mem_candidates_iff.mp candidate
  cases reached with
  | join before step =>
    cases before
    cases reachedToo with
    | join before stepToo =>
      cases before
      exact (single root member _ step).trans (single root member _ stepToo).symm

end Sample

namespace Store

open Sample in
/-- Somebody with a cat and a dog is found by each of two predicates and not by their
conjunction, as the join that both mention leads to two records. Among people with one animal at
most, the conjunction finds whom both find. -/
theorem fetch_connectives_ageless :
    ((∀ j, ageless.Mentions j ∨ (Predicate.negation ageless).Mentions j → j.kind = .left) ∧
      ∀ predicate ∈ [ageless, .negation ageless, .disjunction [ageless, .negation ageless],
        .conjunction [ageless, .negation ageless]],
        Sample.store.Evaluates "Person" predicate) ∧
      (∃ ofFirst ofSecond either both,
        Sample.store.fetch (.satisfying "Person" ageless) = .ok ofFirst ∧
        Sample.store.fetch (.satisfying "Person" (.negation ageless)) = .ok ofSecond ∧
        Sample.store.fetch (.satisfying "Person"
          (.disjunction [ageless, .negation ageless])) = .ok either ∧
        Sample.store.fetch (.satisfying "Person"
          (.conjunction [ageless, .negation ageless])) = .ok both ∧
        (∀ record, record ∈ either ↔ record ∈ ofFirst ∨ record ∈ ofSecond) ∧
        (∀ record, record ∈ both → record ∈ ofFirst ∧ record ∈ ofSecond) ∧
        ((∀ j, ageless.Mentions j → (Predicate.negation ageless).Mentions j →
            ∀ root ∈ Sample.store.candidates "Person",
              j.ReachesAtMostOne Sample.store.schema root) →
          ∀ record, record ∈ both ↔ record ∈ ofFirst ∧ record ∈ ofSecond)) ∧
      ((∀ j, ageless.Mentions j ∨ petted.Mentions j → j.kind = .left) ∧
        (∀ predicate ∈ [ageless, petted, .disjunction [ageless, petted],
          .conjunction [ageless, petted]], modest.Evaluates "Person" predicate) ∧
        ∀ j, ageless.Mentions j → petted.Mentions j → ∀ root ∈ modest.candidates "Person",
          j.ReachesAtMostOne modest.schema root) ∧
      ∃ ofFirst ofSecond both,
        modest.fetch (.satisfying "Person" ageless) = .ok ofFirst ∧
        modest.fetch (.satisfying "Person" petted) = .ok ofSecond ∧
        modest.fetch (.satisfying "Person" (.conjunction [ageless, petted])) = .ok both ∧
        eve ∈ both ∧ ∀ record, record ∈ both ↔ record ∈ ofFirst ∧ record ∈ ofSecond := by
  have left : ∀ j, ageless.Mentions j ∨ (Predicate.negation ageless).Mentions j →
      j.kind = .left := by
    rintro j (mentioned | mentioned) <;> rw [eq_pets_of_mentions (by simp) mentioned]
  have leftToo : ∀ j, ageless.Mentions j ∨ petted.Mentions j → j.kind = .left := by
    rintro j (mentioned | mentioned) <;> rw [eq_pets_of_mentions (by simp) mentioned]
  have evaluates : ∀ predicate ∈ [ageless, .negation ageless,
      .disjunction [ageless, .negation ageless], .conjunction [ageless, .negation ageless]],
      Sample.store.Evaluates "Person" predicate :=
    evaluates_connectives (fun _ _ => ⟨_, rfl⟩) fun _ _ => ⟨_, rfl⟩
  have evaluatesToo : ∀ predicate ∈ [ageless, petted, .disjunction [ageless, petted],
      .conjunction [ageless, petted]], modest.Evaluates "Person" predicate :=
    evaluates_connectives (fun _ _ => ⟨_, rfl⟩) fun _ _ => ⟨_, rfl⟩
  have single : ∀ j, ageless.Mentions j → petted.Mentions j →
      ∀ root ∈ modest.candidates "Person", j.ReachesAtMostOne modest.schema root :=
    fun j mentioned _ => reachesAtMostOne_modest (eq_pets_of_mentions (by simp) mentioned)
  refine ⟨⟨left, evaluates⟩, fetch_connectives left evaluates, ⟨leftToo, evaluatesToo, single⟩, ?_⟩
  obtain ⟨ofFirst, ofSecond, _, both, first, second, -, conjunction, -, -, exact⟩ :=
    fetch_connectives leftToo evaluatesToo
  refine ⟨ofFirst, ofSecond, both, first, second, conjunction, ?_, exact single⟩
  have found : modest.fetch (.satisfying "Person" (.conjunction [ageless, petted])) =
      .ok [eve] := by cbv
  obtain rfl := Except.ok.inj (conjunction.symm.trans found)
  exact List.mem_singleton_self eve

end Store

end RecordQuery
