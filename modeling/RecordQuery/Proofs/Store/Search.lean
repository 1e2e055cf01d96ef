import RecordQuery.Proofs.Fallible
import RecordQuery.Store.Search

/-! # Steps of a search

What one step of a search does: the first assignment that is accepted, the match that a record
yields, and sorting. -/

namespace RecordQuery

open Fallible

namespace Query

variable {query : Query} {schema : Schema} {record : Record}

/-- An assignment is accepted exactly if the predicate, should there be one, is true under it. -/
theorem accepts_eq_true_iff {assignment : Assignment} :
    query.accepts schema record assignment = .ok true ↔
      ∀ predicate, query.predicate = some predicate →
        predicate.truth schema record assignment = .ok (some true) := by
  unfold accepts
  cases query.predicate with
  | none => simp
  | some predicate =>
    simp only [Option.some.injEq, forall_eq']
    cases predicate.truth schema record assignment <;> simp

/-- The first assignment is taken if it is accepted and passed over if it is refused. -/
theorem firstAccepted_cons (assignment : Assignment) (rest : List Assignment) :
    query.firstAccepted schema record (assignment :: rest) =
      match query.accepts schema record assignment with
      | .ok true => .ok (some assignment)
      | .ok false => query.firstAccepted schema record rest
      | .error fault => .error fault := by
  rw [firstAccepted]
  cases query.accepts schema record assignment with
  | error fault => rfl
  | ok accepted => cases accepted <;> rfl

/-- The assignment that is found has been tried and accepted. -/
theorem accepts_of_firstAccepted_some {tried : List Assignment} {assignment : Assignment}
    (found : query.firstAccepted schema record tried = .ok (some assignment)) :
    assignment ∈ tried ∧ query.accepts schema record assignment = .ok true := by
  induction tried with
  | nil => cases found
  | cons first rest ih =>
    rw [firstAccepted_cons] at found
    split at found
    · rename_i accepted
      cases found
      exact ⟨List.mem_cons_self, accepted⟩
    · obtain ⟨member, accepted⟩ := ih found
      exact ⟨List.mem_cons_of_mem _ member, accepted⟩
    · cases found

/-- If no assignment is found, all have been refused. -/
theorem refuses_of_firstAccepted_none {tried : List Assignment}
    (found : query.firstAccepted schema record tried = .ok none) :
    ∀ assignment ∈ tried, query.accepts schema record assignment = .ok false := by
  induction tried with
  | nil => simp
  | cons first rest ih =>
    rw [firstAccepted_cons] at found
    split at found
    · cases found
    · rename_i refused
      intro assignment member
      rcases List.mem_cons.mp member with rfl | later
      · exact refused
      · exact ih found assignment later
    · cases found

/-- If each assignment is decided, so is which is the first one accepted. -/
theorem exists_firstAccepted {tried : List Assignment}
    (decided : ∀ assignment ∈ tried, ∃ accepted,
      query.accepts schema record assignment = .ok accepted) :
    ∃ result, query.firstAccepted schema record tried = .ok result := by
  induction tried with
  | nil => exact ⟨none, rfl⟩
  | cons first rest ih =>
    obtain ⟨accepted, found⟩ := decided first List.mem_cons_self
    rw [firstAccepted_cons, found]
    cases accepted with
    | true => exact ⟨some first, rfl⟩
    | false => exact ih fun assignment later => decided assignment (List.mem_cons_of_mem _ later)

/-- The match that a record yields, if it yields one. -/
def matchOf? (query : Query) (schema : Schema) (record : Record) :
    Except Fault (Option (Record × List Value)) := do
  match ← query.firstAccepted schema record (Assignment.all schema record query.joins) with
  | some assignment => return some (record, ← query.keys schema record assignment)
  | none => return none

theorem matchesOf_cons (rest : List Record) :
    query.matchesOf schema (record :: rest) = do
      let first ← query.matchOf? schema record
      let others ← query.matchesOf schema rest
      return first.toList ++ others := by
  rw [matchesOf, matchOf?]
  cases query.firstAccepted schema record (Assignment.all schema record query.joins) with
  | error fault => rfl
  | ok accepted =>
    cases accepted with
    | none => cases query.matchesOf schema rest <;> simp
    | some assignment =>
      cases keys : query.keys schema record assignment with
      | error fault => simp [keys]
      | ok values => cases query.matchesOf schema rest <;> simp [keys]

/-- A record yields a match exactly if an assignment is accepted, and then with the keys under the
first such. -/
theorem matchOf?_eq_some_iff {found : Record × List Value} :
    query.matchOf? schema record = .ok (some found) ↔
      found.1 = record ∧ ∃ assignment,
        query.firstAccepted schema record (Assignment.all schema record query.joins) =
          .ok (some assignment) ∧
        query.keys schema record assignment = .ok found.2 := by
  unfold matchOf?
  cases query.firstAccepted schema record (Assignment.all schema record query.joins) with
  | error fault => simp
  | ok accepted =>
    cases accepted with
    | none => simp
    | some assignment =>
      cases keys : query.keys schema record assignment <;>
        simp [keys, Prod.ext_iff, eq_comm]

/-- Each match is yielded by one of the records. -/
theorem mem_matchesOf {records : List Record} {found : List (Record × List Value)}
    (matched : query.matchesOf schema records = .ok found) {row : Record × List Value}
    (member : row ∈ found) :
    ∃ record ∈ records, query.matchOf? schema record = .ok (some row) := by
  induction records generalizing found with
  | nil =>
    cases matched
    cases member
  | cons record rest ih =>
    rw [matchesOf_cons] at matched
    obtain ⟨result, yields, matched⟩ := bind_eq_ok_iff.mp matched
    obtain ⟨others, later, same⟩ := bind_eq_ok_iff.mp matched
    cases same
    rcases List.mem_append.mp member with first | member
    · rw [Option.mem_toList.mp first] at yields
      exact ⟨record, List.mem_cons_self, yields⟩
    · obtain ⟨other, listed, yields⟩ := ih later member
      exact ⟨other, List.mem_cons_of_mem _ listed, yields⟩

/-- The matches are in the order of the records. -/
theorem matchesOf_sublist {records : List Record} {found : List (Record × List Value)}
    (matched : query.matchesOf schema records = .ok found) :
    (found.map (·.1)).Sublist records := by
  induction records generalizing found with
  | nil =>
    cases matched
    exact .slnil
  | cons record rest ih =>
    rw [matchesOf_cons] at matched
    obtain ⟨result, yields, matched⟩ := bind_eq_ok_iff.mp matched
    obtain ⟨others, later, same⟩ := bind_eq_ok_iff.mp matched
    cases same
    cases result with
    | none => exact (ih later).cons record
    | some row =>
      obtain ⟨rfl, _⟩ := matchOf?_eq_some_iff.mp yields
      exact (ih later).cons_cons row.1

/-- There are no more matches than records. -/
theorem length_matchesOf_le {records : List Record} {found : List (Record × List Value)}
    (matched : query.matchesOf schema records = .ok found) : found.length ≤ records.length := by
  have fewer := (matchesOf_sublist matched).length_le
  rwa [List.length_map] at fewer

/-- A record yields no match exactly if no assignment is accepted. -/
theorem matchOf?_eq_none_iff :
    query.matchOf? schema record = .ok none ↔
      query.firstAccepted schema record (Assignment.all schema record query.joins) = .ok none := by
  unfold matchOf?
  cases query.firstAccepted schema record (Assignment.all schema record query.joins) with
  | error fault => simp
  | ok accepted =>
    cases accepted with
    | none => simp
    | some assignment => cases keys : query.keys schema record assignment <;> simp [keys]

/-- A record yields its match or none if no assignment that is tried makes the evaluation fail. -/
theorem exists_matchOf?
    (decided : ∀ assignment ∈ Assignment.all schema record query.joins, ∃ accepted,
      query.accepts schema record assignment = .ok accepted)
    (keyed : ∀ assignment ∈ Assignment.all schema record query.joins, ∃ values,
      query.keys schema record assignment = .ok values) :
    ∃ result, query.matchOf? schema record = .ok result := by
  obtain ⟨result, first⟩ := exists_firstAccepted decided
  cases result with
  | none => exact ⟨none, matchOf?_eq_none_iff.mpr first⟩
  | some assignment =>
    obtain ⟨values, keys⟩ := keyed assignment (accepts_of_firstAccepted_some first).1
    exact ⟨some (record, values), matchOf?_eq_some_iff.mpr ⟨rfl, assignment, first, keys⟩⟩

/-- If each record yields something or nothing, all matches are found. -/
theorem exists_matchesOf {records : List Record}
    (yields : ∀ record ∈ records, ∃ result, query.matchOf? schema record = .ok result) :
    ∃ found, query.matchesOf schema records = .ok found := by
  induction records with
  | nil => exact ⟨[], rfl⟩
  | cons record rest ih =>
    obtain ⟨result, first⟩ := yields record List.mem_cons_self
    obtain ⟨found, later⟩ := ih fun other member => yields other (List.mem_cons_of_mem _ member)
    exact ⟨_, by rw [matchesOf_cons, first, later]; rfl⟩

end Query

namespace Store

variable {α : Type} {compare : α → α → Ordering}

/-- Insertion adds one element and loses none. -/
theorem insertDescending_perm (x : α) (xs : List α) :
    (insertDescending compare x xs).Perm (x :: xs) := by
  induction xs with
  | nil => exact .refl _
  | cons y ys ih =>
    unfold insertDescending
    split
    · exact (ih.cons y).trans (.swap x y ys)
    · exact .refl _

/-- Repeated insertion loses no elements. -/
theorem foldl_insertDescending_perm (xs sorted : List α) :
    (xs.foldl (fun sorted x => insertDescending compare x sorted) sorted).Perm (xs ++ sorted) := by
  induction xs generalizing sorted with
  | nil => exact .refl _
  | cons x rest ih =>
    refine (ih _).trans ?_
    exact ((insertDescending_perm x sorted).append_left rest).trans List.perm_middle

/-- Sorting neither adds nor drops nor repeats an element. -/
theorem sortBy_perm (xs : List α) : (sortBy compare xs).Perm xs := by
  refine (List.reverse_perm _).trans ?_
  simpa using foldl_insertDescending_perm xs []

/-- A list whose elements all tie stays as it is. -/
theorem sortBy_of_tied (tied : ∀ x y, compare x y ≠ .lt) (xs : List α) :
    sortBy compare xs = xs := by
  have front : ∀ x sorted, insertDescending compare x sorted = x :: sorted := by
    intro x sorted
    cases sorted with
    | nil => rfl
    | cons y ys => rw [insertDescending, if_neg (tied x y)]
  simp [sortBy, front]

/-- The records of a store that may answer a query for an entity. -/
def candidates (store : Store) (entity : String) : List Record :=
  store.records.filter fun record => store.schema.isAssignable entity record.entity

/-- The matches of a query in their order. -/
def ranking (query : Query) (found : List (Record × List Value)) : List (Record × List Value) :=
  sortBy (fun x y => SortOrder.compareKeys query.orders x.2 y.2) found

/-- Ranking loses no matches. -/
theorem ranking_perm (query : Query) (found : List (Record × List Value)) :
    (ranking query found).Perm found :=
  sortBy_perm found

/-- A search ranks the matches of its candidates and leaves out their keys. -/
theorem fetch_eq_map (store : Store) (query : Query) :
    store.fetch query = (query.matchesOf store.schema (store.candidates query.entity)).map
      fun found => (ranking query found).map (·.1) := by
  change (query.matchesOf store.schema (store.candidates query.entity) >>= fun found =>
    pure ((ranking query found).map (·.1))) = _
  cases query.matchesOf store.schema (store.candidates query.entity) <;> rfl

/-- A search succeeds exactly if its candidates are matched, and with the ranked records of the
matches. -/
theorem fetch_eq_ok_iff {store : Store} {query : Query} {answer : List Record} :
    store.fetch query = .ok answer ↔ ∃ found,
      query.matchesOf store.schema (store.candidates query.entity) = .ok found ∧
        answer = (ranking query found).map (·.1) := by
  rw [fetch_eq_map, map_eq_ok_iff]
  exact exists_congr fun found => and_congr_right fun _ => eq_comm

/-- A search finds no more records than there are. -/
theorem length_fetch_le {store : Store} {query : Query} {answer : List Record}
    (fetched : store.fetch query = .ok answer) : answer.length ≤ store.records.length := by
  obtain ⟨found, matched, rfl⟩ := fetch_eq_ok_iff.mp fetched
  have asMany : (ranking query found).length = found.length := (ranking_perm query found).length_eq
  have fewer := Query.length_matchesOf_le matched
  have some : (store.candidates query.entity).length ≤ store.records.length :=
    List.length_filter_le _ _
  rw [List.length_map]
  omega

/-- Without orders the matches stay in the order of the store. -/
theorem ranking_of_orders_eq_nil {query : Query} (unordered : query.orders = [])
    (found : List (Record × List Value)) : ranking query found = found := by
  apply sortBy_of_tied
  intro x y
  simp [unordered, SortOrder.compareKeys]

end Store

end RecordQuery
