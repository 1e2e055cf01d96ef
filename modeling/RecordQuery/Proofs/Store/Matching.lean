import Mathlib
import RecordQuery.Proofs.Query.Totality
import RecordQuery.Proofs.Store.Search

/-! # What a search finds

A search without orders finds the records of its entity for which some assignment that respects the
joins of the predicate makes the predicate true, each stored record once and in the order of the
store. -/

namespace RecordQuery

open Fallible

/-- Some assignment that respects the joins of a predicate makes it true for a record. -/
def Predicate.SatisfiedBy (schema : Schema) (predicate : Predicate) (record : Record) : Prop :=
  ∃ assignment : Assignment,
    (∀ j, predicate.Mentions j → assignment.Respects schema record j) ∧
      predicate.truth schema record assignment = .ok (some true)

/-- A query selects the records of its entity that satisfy its predicate, if it has one. -/
def Query.Selects (schema : Schema) (query : Query) (record : Record) : Prop :=
  schema.isAssignable query.entity record.entity = true ∧
    ∀ predicate, query.predicate = some predicate → predicate.SatisfiedBy schema record

namespace Query

variable {query : Query} {schema : Schema} {record : Record}

/-- A query has the joins that its predicate mentions. -/
theorem mem_joins_of_mentions {predicate : Predicate} (given : query.predicate = some predicate)
    {j : Join} (mentioned : predicate.Mentions j) : j ∈ query.joins :=
  mem_joins_iff.mpr (.inl ⟨predicate, given, mentioned⟩)

/-- An assignment that is tried and accepted shows that the record satisfies the predicate. -/
theorem satisfied_of_accepts {assignment : Assignment}
    (tried : assignment ∈ Assignment.all schema record query.joins)
    (accepted : query.accepts schema record assignment = .ok true) :
    ∀ predicate, query.predicate = some predicate → predicate.SatisfiedBy schema record := by
  intro predicate given
  refine ⟨assignment, fun j mentioned => ?_, accepts_eq_true_iff.mp accepted predicate given⟩
  exact Assignment.respects_of_mem_all tried j (mem_joins_of_mentions given mentioned)

/-- For a record that satisfies the predicate of a query without orders, some assignment that is
tried is accepted. -/
theorem exists_accepts_of_satisfied (unordered : query.orders = [])
    (satisfied : ∀ predicate, query.predicate = some predicate →
      predicate.SatisfiedBy schema record) :
    ∃ assignment ∈ Assignment.all schema record query.joins,
      query.accepts schema record assignment = .ok true := by
  cases given : query.predicate with
  | none =>
    have noJoins : query.joins = [] := by simp [joins, given, unordered, distinctJoins]
    refine ⟨[], by simp [noJoins, Assignment.all, Assignment.extensions], ?_⟩
    exact accepts_eq_true_iff.mpr (by simp [given])
  | some predicate =>
    obtain ⟨assignment, respects, holds⟩ := satisfied predicate given
    have respectsAll : ∀ j ∈ query.joins, assignment.Respects schema record j := by
      intro j member
      rcases mem_joins_iff.mp member with ⟨other, same, mentioned⟩ | ⟨order, listed, _⟩
      · cases given.symm.trans same
        exact respects j mentioned
      · simp [unordered] at listed
    obtain ⟨tried, member, agree⟩ := Assignment.exists_mem_all respectsAll
    refine ⟨tried, member, accepts_eq_true_iff.mpr fun other same => ?_⟩
    cases given.symm.trans same
    have onPredicate : Assignment.AgreeOn predicate.joins assignment tried :=
      agree.mono fun j inside =>
        mem_joins_of_mentions given (Predicate.mem_joins_iff.mp inside)
    rw [← Predicate.truth_congr onPredicate]
    exact holds

/-- A record yields a match if it satisfies the predicate, and no match if it does not. -/
theorem matchOf?_isSome_iff (unordered : query.orders = [])
    {result : Option (Record × List Value)} (yields : query.matchOf? schema record = .ok result) :
    result.isSome = true ↔
      ∀ predicate, query.predicate = some predicate → predicate.SatisfiedBy schema record := by
  cases result with
  | none =>
    simp only [Option.isSome_none, Bool.false_eq_true, false_iff]
    intro satisfied
    obtain ⟨assignment, tried, accepted⟩ := exists_accepts_of_satisfied unordered satisfied
    have refused := refuses_of_firstAccepted_none (matchOf?_eq_none_iff.mp yields) assignment tried
    rw [accepted] at refused
    cases refused
  | some found =>
    simp only [Option.isSome_some, true_iff]
    obtain ⟨_, assignment, first, _⟩ := matchOf?_eq_some_iff.mp yields
    obtain ⟨tried, accepted⟩ := accepts_of_firstAccepted_some first
    exact satisfied_of_accepts tried accepted

open Classical in
/-- The matches among some records are those that satisfy the predicate. -/
theorem matchesOf_records (unordered : query.orders = []) {records : List Record}
    {found : List (Record × List Value)} (matched : query.matchesOf schema records = .ok found) :
    found.map (·.1) = records.filter fun record =>
      decide (∀ predicate, query.predicate = some predicate →
        predicate.SatisfiedBy schema record) := by
  induction records generalizing found with
  | nil =>
    cases matched
    rfl
  | cons record rest ih =>
    rw [matchesOf_cons, bind_eq_ok_iff] at matched
    obtain ⟨result, yields, matched⟩ := matched
    obtain ⟨others, later, same⟩ := bind_eq_ok_iff.mp matched
    cases same
    have selected := matchOf?_isSome_iff unordered yields
    rw [List.map_append, ih later]
    cases result with
    | none =>
      rw [List.filter_cons_of_neg (by simpa using selected.not.mp (by simp))]
      rfl
    | some single =>
      obtain ⟨same, _⟩ := matchOf?_eq_some_iff.mp yields
      rw [List.filter_cons_of_pos (by simpa using selected.mp rfl), ← same]
      rfl

end Query

namespace Store

/-- The candidates for an entity are the stored records that are assignable to it. -/
theorem mem_candidates_iff {store : Store} {entity : String} {record : Record} :
    record ∈ store.candidates entity ↔
      record ∈ store.records ∧ store.schema.isAssignable entity record.entity = true :=
  List.mem_filter

/-- A search succeeds if its predicate and its orders evaluate for all records that may answer. -/
theorem exists_fetch {store : Store} {query : Query}
    (predicates : ∀ predicate, query.predicate = some predicate →
      ∀ record ∈ store.candidates query.entity, predicate.Evaluates store.schema record)
    (orders : ∀ order ∈ query.orders, ∀ record ∈ store.candidates query.entity,
      order.expr.Evaluates store.schema record) :
    ∃ answer, store.fetch query = .ok answer := by
  have yields : ∀ record ∈ store.candidates query.entity, ∃ result,
      query.matchOf? store.schema record = .ok result := by
    intro record candidate
    apply Query.exists_matchOf?
    · intro assignment tried
      cases given : query.predicate with
      | none => exact ⟨true, by simp [Query.accepts, given]⟩
      | some predicate =>
        obtain ⟨truth, found⟩ := predicates predicate given record candidate assignment
          fun j mentioned => Assignment.respects_of_mem_all tried j
            (Query.mem_joins_of_mentions given mentioned)
        exact ⟨truth == some true, by simp [Query.accepts, given, found]⟩
    · intro assignment tried
      refine exists_mapM fun order listed => orders order listed record candidate assignment ?_
      intro j member
      have ofQuery : j ∈ query.joins :=
        Query.mem_joins_iff.mpr (.inr ⟨order, listed, Expr.mem_joins_iff.mp member⟩)
      exact Assignment.respects_of_mem_all tried j ofQuery
  obtain ⟨found, matched⟩ := Query.exists_matchesOf yields
  exact ⟨_, fetch_eq_ok_iff.mpr ⟨found, matched, rfl⟩⟩

open Classical in
/-- A search without orders finds a stored record if and only if its query selects the record. -/
theorem mem_fetch_iff {store : Store} {query : Query} {answer : List Record}
    (unordered : query.orders = []) (fetched : store.fetch query = .ok answer) {record : Record} :
    record ∈ answer ↔ record ∈ store.records ∧ query.Selects store.schema record := by
  obtain ⟨found, matched, rfl⟩ := fetch_eq_ok_iff.mp fetched
  rw [ranking_of_orders_eq_nil unordered, Query.matchesOf_records unordered matched,
    List.mem_filter, decide_eq_true_eq, mem_candidates_iff, and_assoc]
  rfl

open Classical in
/-- A search without orders that succeeds finds the records that its query selects, in the order of
the store and each stored record once. -/
theorem fetch_eq_selected {store : Store} {query : Query} {answer : List Record}
    (unordered : query.orders = []) (fetched : store.fetch query = .ok answer) :
    answer = store.records.filter fun record => decide (query.Selects store.schema record) := by
  obtain ⟨found, matched, rfl⟩ := fetch_eq_ok_iff.mp fetched
  rw [ranking_of_orders_eq_nil unordered, Query.matchesOf_records unordered matched, candidates,
    List.filter_filter]
  apply List.filter_congr
  intro record _
  rw [Bool.eq_iff_iff]
  simp only [Bool.and_eq_true, decide_eq_true_eq]
  exact and_comm

end Store

namespace Sample

/-- People with animals, some of which are dogs. -/
def schema : Schema where
  entities := [
    { name := "Animal"
      fields := [{ name := "name", kind := .scalar .string, searchable := some {} }] },
    { name := "Dog"
      base := some "Animal"
      fields := [{ name := "age", kind := .scalar .integer, searchable := some {} }] },
    { name := "Person"
      fields := [
        { name := "name", kind := .scalar .string, searchable := some {} },
        { name := "pets", kind := .relation "Animal" .many, nested := true }] }]
  names_nodup := by decide

def cat (name : String) : Record := ⟨"Animal", [("name", .value (.string name))]⟩

def dog (name : String) (age : Int64) : Record :=
  ⟨"Dog", [("age", .value (.integer age)), ("name", .value (.string name))]⟩

def person (name : String) (pets : List Record) : Record :=
  ⟨"Person", [("name", .value (.string name)), ("pets", .many pets)]⟩

/-- Somebody with a cat and a dog. -/
def ann : Record := person "Ann" [cat "Tom", dog "Rex" 3]

/-- Somebody without animals. -/
def bob : Record := person "Bob" []

/-- Somebody with two dogs. -/
def cid : Record := person "Cid" [dog "Ace" 7, dog "Rex" 5]

/-- A store with people and an animal of its own, in which somebody stands twice. -/
def store : Store := { schema, records := [ann, bob, cat "Tom", cid, ann] }

/-- The animals of a person. -/
def pets (kind : JoinKind) : Source := .join (.root "Person") "pets" kind

/-- An animal of a person has a name. -/
def named (kind : JoinKind) (name : String) : Predicate :=
  .equal (.attr (pets kind) "name") (.literal (.string name))

/-- A dog of a person has at least an age. -/
def aged (kind : JoinKind) (age : Int64) : Predicate :=
  .compare .atLeast (.attr (.narrow (pets kind) "Dog") "age") (.literal (.integer age))

/-- People with a dog of an age whose name is not the given one. -/
def others (name : String) (age : Int64) : Query where
  entity := "Person"
  predicate := some (.conjunction [.negation (named .inner name), aged .inner age])

end Sample

namespace Store

open Sample in
open Classical in
/-- One of the dogs of a person makes the predicate true although the other one does not. -/
theorem fetch_others_eq_selected :
    ((others "Ace" 4).orders = [] ∧ Sample.store.fetch (others "Ace" 4) = .ok [cid]) ∧
      [cid] = Sample.store.records.filter fun record =>
        decide ((others "Ace" 4).Selects Sample.store.schema record) :=
  ⟨⟨rfl, by cbv⟩, fetch_eq_selected rfl (by cbv)⟩

end Store

end RecordQuery
