import RecordQuery.Proofs.Store.Matching

/-! # What a further order does

Assignments are tried with earlier joins varying more slowly. The joins of a further order come
last, so each assignment that was tried without them is followed by its extensions to them, and
these are accepted or refused together. A further order over left joins therefore ranks the same
matches by the same keys, and by its own key after them. -/

namespace RecordQuery

open Fallible

namespace Query

/-- The query without its orders. -/
def unordered (query : Query) : Query := { query with orders := [] }

/-- The query with further orders that decide between matches that tie. -/
def thenBy (query : Query) (more : List SortOrder) : Query :=
  { query with orders := query.orders ++ more }

variable {query coarser finer : Query} {schema : Schema} {record : Record}
  {more : List SortOrder}

/-- Further orders add their joins behind the others. -/
theorem exists_joins_thenBy (query : Query) (more : List SortOrder) :
    ∃ added, (query.thenBy more).joins = query.joins ++ added ∧ ∀ j ∈ added, j ∉ query.joins := by
  have split := distinctJoins_append
    ((query.predicate.map Predicate.joins).getD [] ++
      query.orders.flatMap fun order => order.expr.joins)
    (more.flatMap fun order => order.expr.joins)
  rw [List.append_assoc, ← List.flatMap_append] at split
  refine ⟨_, split, fun j member => ?_⟩
  rw [joins, mem_distinctJoins]
  exact of_decide_eq_true (List.mem_filter.mp member).2

/-! ## The first accepted assignment -/

/-- Further assignments are tried if none of the first ones is accepted. -/
theorem firstAccepted_append (tried further : List Assignment) :
    query.firstAccepted schema record (tried ++ further) =
      match query.firstAccepted schema record tried with
      | .ok (some assignment) => .ok (some assignment)
      | .ok none => query.firstAccepted schema record further
      | .error fault => .error fault := by
  induction tried with
  | nil => rfl
  | cons first rest ih =>
    rw [List.cons_append, firstAccepted_cons, firstAccepted_cons]
    cases query.accepts schema record first with
    | error fault => rfl
    | ok accepted =>
      cases accepted with
      | true => rfl
      | false => exact ih

/-- If each assignment is refused, none is accepted. -/
theorem firstAccepted_of_refused {tried : List Assignment}
    (refused : ∀ assignment ∈ tried, query.accepts schema record assignment = .ok false) :
    query.firstAccepted schema record tried = .ok none := by
  induction tried with
  | nil => rfl
  | cons first rest ih =>
    rw [firstAccepted_cons, refused first List.mem_cons_self]
    exact ih fun assignment later => refused assignment (List.mem_cons_of_mem _ later)

/-- If every assignment is replaced by some that are accepted exactly when it is, the first one that
is accepted replaces the first one that was. -/
theorem exists_firstAccepted_flatMap {tried : List Assignment}
    {branch : Assignment → List Assignment}
    (same : ∀ assignment ∈ tried, ∀ extended ∈ branch assignment,
      finer.accepts schema record extended = coarser.accepts schema record assignment)
    (nonempty : ∀ assignment ∈ tried, branch assignment ≠ [])
    {result : Option Assignment}
    (found : coarser.firstAccepted schema record tried = .ok result) :
    ∃ finerResult,
      finer.firstAccepted schema record (tried.flatMap branch) = .ok finerResult ∧
        Option.Rel (fun assignment extended => extended ∈ branch assignment) result
          finerResult := by
  induction tried with
  | nil =>
    cases found
    exact ⟨none, rfl, .none⟩
  | cons first rest ih =>
    rw [List.flatMap_cons, firstAccepted_append]
    rw [firstAccepted_cons] at found
    split at found
    · rename_i accepted
      cases found
      obtain ⟨head, tail, cons⟩ := List.exists_cons_of_ne_nil (nonempty first List.mem_cons_self)
      have member : head ∈ branch first := by simp [cons]
      have taken : finer.firstAccepted schema record (branch first) = .ok (some head) := by
        rw [cons, firstAccepted_cons, same first List.mem_cons_self head member, accepted]
      exact ⟨some head, by rw [taken], .some member⟩
    · rename_i refused
      -- All that a refused assignment is replaced by is refused, too, and the rest is tried.
      have passed : finer.firstAccepted schema record (branch first) = .ok none := by
        refine firstAccepted_of_refused fun extended member => ?_
        rw [same first List.mem_cons_self extended member, refused]
      rw [passed]
      exact ih (fun assignment later => same assignment (List.mem_cons_of_mem _ later))
        (fun assignment later => nonempty assignment (List.mem_cons_of_mem _ later)) found
    · cases found

/-- What is accepted depends on the predicate and on the joins of the query only. -/
theorem accepts_congr {first second : Assignment} (same : finer.predicate = coarser.predicate)
    (agree : Assignment.AgreeOn coarser.joins first second) :
    finer.accepts schema record first = coarser.accepts schema record second := by
  unfold accepts
  rw [same]
  cases given : coarser.predicate with
  | none => rfl
  | some predicate =>
    have onPredicate : Assignment.AgreeOn predicate.joins first second := agree.mono
      fun j member => mem_joins_of_mentions given (Predicate.mem_joins_iff.mp member)
    simp only [Predicate.truth_congr onPredicate]

/-- The keys of a match depend on the joins of the query only. -/
theorem keys_congr {first second : Assignment}
    (agree : Assignment.AgreeOn query.joins first second) :
    query.keys schema record first = query.keys schema record second := by
  have values : ∀ order ∈ query.orders,
      order.expr.value schema record first = order.expr.value schema record second := by
    intro order listed
    refine Expr.value_congr (agree.mono fun j member => ?_)
    exact mem_joins_iff.mpr (.inr ⟨order, listed, Expr.mem_joins_iff.mp member⟩)
  exact mapM_congr values

/-! ## Matches under further orders -/

/-- Two matches of one record, where the keys of the second start with those of the first. -/
structure SameMatch (more : List SortOrder) (first second : Record × List Value) : Prop where
  record : second.1 = first.1
  keys : ∃ added, added.length = more.length ∧ second.2 = first.2 ++ added

/-- Under further orders the keys go on behind those that the query has. -/
theorem keys_thenBy {assignment : Assignment} {values : List Value}
    (keyed : (query.thenBy more).keys schema record assignment = .ok values) :
    ∃ known added, query.keys schema record assignment = .ok known ∧
      added.length = more.length ∧ values = known ++ added := by
  rw [keys, thenBy, List.mapM_append] at keyed
  obtain ⟨known, first, keyed⟩ := bind_eq_ok_iff.mp keyed
  obtain ⟨added, later, keyed⟩ := bind_eq_ok_iff.mp keyed
  cases keyed
  exact ⟨known, added, first, (mapM_eq_ok_iff.mp later).length_eq.symm, rfl⟩

/-- With further orders the first assignment that is accepted agrees on the joins of the query with
the one that is accepted without them. -/
theorem exists_firstAccepted_thenBy (left : ∀ j ∈ (query.thenBy more).joins, j.kind = .left)
    {result : Option Assignment}
    (found : query.firstAccepted schema record (Assignment.all schema record query.joins) =
      .ok result) :
    ∃ finerResult, (query.thenBy more).firstAccepted schema record
        (Assignment.all schema record (query.thenBy more).joins) = .ok finerResult ∧
      Option.Rel (fun assignment extended => Assignment.AgreeOn query.joins extended assignment)
        result finerResult := by
  obtain ⟨added, joins, apart⟩ := exists_joins_thenBy query more
  rw [joins] at left
  let branch := fun assignment => Assignment.extensions schema record assignment added
  have agree : ∀ assignment, ∀ extended ∈ branch assignment,
      Assignment.AgreeOn query.joins extended assignment := fun assignment extended member =>
    Assignment.agreeOn_of_mem_extensions apart member
  -- The assignments of the longer query are those of the shorter one, each by its extensions.
  have tried : Assignment.all schema record (query.thenBy more).joins =
      (Assignment.all schema record query.joins).flatMap branch := by
    rw [joins]
    exact Assignment.extensions_append _ _
  have same : ∀ assignment ∈ Assignment.all schema record query.joins,
      ∀ extended ∈ branch assignment, (query.thenBy more).accepts schema record extended =
        query.accepts schema record assignment := fun assignment _ extended member =>
    accepts_congr rfl (agree assignment extended member)
  have nonempty : ∀ assignment ∈ Assignment.all schema record query.joins,
      branch assignment ≠ [] := fun assignment _ =>
    Assignment.extensions_ne_nil fun j inside => left j (List.mem_append_right _ inside)
  rw [tried]
  obtain ⟨finerResult, finds, related⟩ := exists_firstAccepted_flatMap same nonempty found
  refine ⟨finerResult, finds, ?_⟩
  cases related with
  | none => exact .none
  | some member => exact .some (agree _ _ member)

/-- With further orders a record yields the same match as without them. -/
theorem matchOf?_thenBy (left : ∀ j ∈ (query.thenBy more).joins, j.kind = .left)
    {first second : Option (Record × List Value)}
    (yields : query.matchOf? schema record = .ok first)
    (yieldsToo : (query.thenBy more).matchOf? schema record = .ok second) :
    Option.Rel (SameMatch more) first second := by
  cases first with
  | none =>
    obtain ⟨_, found, related⟩ := exists_firstAccepted_thenBy left (matchOf?_eq_none_iff.mp yields)
    cases related
    rw [matchOf?_eq_none_iff.mpr found] at yieldsToo
    cases yieldsToo
    exact .none
  | some first =>
    obtain ⟨same, assignment, accepted, keyed⟩ := matchOf?_eq_some_iff.mp yields
    obtain ⟨_, found, related⟩ := exists_firstAccepted_thenBy left accepted
    cases related with
    | some agree =>
      cases second with
      | none =>
        rw [matchOf?_eq_none_iff.mp yieldsToo] at found
        cases found
      | some second =>
        obtain ⟨sameToo, _, acceptedToo, keyedToo⟩ := matchOf?_eq_some_iff.mp yieldsToo
        cases found.symm.trans acceptedToo
        obtain ⟨known, added, keyedBefore, length, values⟩ := keys_thenBy keyedToo
        rw [keys_congr agree, keyed] at keyedBefore
        cases keyedBefore
        exact .some ⟨sameToo.trans same.symm, added, length, values⟩

/-- With further orders a query has the same matches as without them. -/
theorem matchesOf_thenBy (left : ∀ j ∈ (query.thenBy more).joins, j.kind = .left)
    {records : List Record} {found ranked : List (Record × List Value)}
    (matched : query.matchesOf schema records = .ok found)
    (matchedToo : (query.thenBy more).matchesOf schema records = .ok ranked) :
    List.Forall₂ (SameMatch more) found ranked := by
  induction records generalizing found ranked with
  | nil =>
    cases matched
    cases matchedToo
    exact .nil
  | cons record rest ih =>
    rw [matchesOf_cons] at matched matchedToo
    obtain ⟨first, yields, matched⟩ := bind_eq_ok_iff.mp matched
    obtain ⟨others, later, matched⟩ := bind_eq_ok_iff.mp matched
    obtain ⟨second, yieldsToo, matchedToo⟩ := bind_eq_ok_iff.mp matchedToo
    obtain ⟨othersToo, laterToo, matchedToo⟩ := bind_eq_ok_iff.mp matchedToo
    cases matched
    cases matchedToo
    cases matchOf?_thenBy left yields yieldsToo with
    | none => exact ih later laterToo
    | some same => exact .cons same (ih later laterToo)

/-- The same matches are matches of the same records. -/
theorem records_of_sameMatch {found ranked : List (Record × List Value)}
    (same : List.Forall₂ (SameMatch more) found ranked) :
    found.map (·.1) = ranked.map (·.1) := by
  induction same with
  | nil => rfl
  | cons head _ ih => rw [List.map_cons, List.map_cons, ih, head.record]

/-- The same matches under one order more, put together in one list. -/
theorem exists_matches_of_sameMatch {order : SortOrder} {found ranked : List (Record × List Value)}
    (same : List.Forall₂ (SameMatch [order]) found ranked) :
    ∃ table : List (Record × List Value × Value),
      found = table.map (fun row => (row.1, row.2.1)) ∧
        ranked = table.map fun row => (row.1, row.2.1 ++ [row.2.2]) := by
  induction same with
  | nil => exact ⟨[], rfl, rfl⟩
  | @cons first second _ _ head _ ih =>
    obtain ⟨table, rfl, rfl⟩ := ih
    obtain ⟨record, added, single, keys⟩ := head
    obtain ⟨last, rfl⟩ := List.length_eq_one_iff.mp single
    refine ⟨(first.1, first.2, last) :: table, rfl, ?_⟩
    rw [List.map_cons, ← record, ← keys]

end Query

namespace Store

variable {store : Store} {query : Query}

/-- Ranking the matches that are made of the rows of a table only moves their records. -/
theorem map_ranking_perm {α : Type} (query : Query) (table : List α)
    (found : α → Record × List Value) :
    ((ranking query (table.map found)).map (·.1)).Perm (table.map fun row => (found row).1) := by
  have permuted := (ranking_perm query (table.map found)).map (·.1)
  rwa [List.map_map] at permuted

/-- Searches without orders, with the orders of a query and with one order more find the same
records. The last two rank them by the same keys, the last one by its own key after these. -/
theorem fetch_thenBy {order : SortOrder} {plain shorter longer : List Record}
    (left : ∀ j ∈ (query.thenBy [order]).joins, j.kind = .left)
    (fetchedPlain : store.fetch query.unordered = .ok plain)
    (fetchedShorter : store.fetch query = .ok shorter)
    (fetchedLonger : store.fetch (query.thenBy [order]) = .ok longer) :
    shorter.Perm plain ∧ longer.Perm plain ∧
      ∃ table : List (Record × List Value × Value),
        let known := table.map fun row => (row.1, row.2.1)
        let extended := table.map fun row => (row.1, row.2.1 ++ [row.2.2])
        plain = table.map (·.1) ∧
        query.matchesOf store.schema (store.candidates query.entity) = .ok known ∧
        (query.thenBy [order]).matchesOf store.schema (store.candidates query.entity) =
          .ok extended ∧
        shorter = (ranking query known).map (·.1) ∧
        longer = (ranking (query.thenBy [order]) extended).map (·.1) := by
  obtain ⟨found, matchedPlain, isPlain⟩ := fetch_eq_ok_iff.mp fetchedPlain
  obtain ⟨known, matched, isShorter⟩ := fetch_eq_ok_iff.mp fetchedShorter
  obtain ⟨extended, matchedToo, isLonger⟩ := fetch_eq_ok_iff.mp fetchedLonger
  rw [ranking_of_orders_eq_nil rfl] at isPlain
  obtain ⟨joined, joins, _⟩ := query.exists_joins_thenBy [order]
  have leftShorter : ∀ j ∈ (query.unordered.thenBy query.orders).joins, j.kind = .left := by
    intro j member
    rw [joins] at left
    exact left j (List.mem_append_left _ member)
  -- The shorter query is the one without orders with its own orders behind it.
  have records := Query.records_of_sameMatch
    (Query.matchesOf_thenBy leftShorter matchedPlain matched)
  obtain ⟨table, rfl, rfl⟩ :=
    Query.exists_matches_of_sameMatch (Query.matchesOf_thenBy left matched matchedToo)
  have plainTable : plain = table.map (·.1) := by
    rw [isPlain, records, List.map_map]
    rfl
  refine ⟨?_, ?_, table, plainTable, matched, matchedToo, isShorter, isLonger⟩
  · rw [isShorter, plainTable]
    exact map_ranking_perm query table _
  · rw [isLonger, plainTable]
    exact map_ranking_perm (query.thenBy [order]) table _

end Store

namespace Sample

/-- Everybody, the last name of the alphabet first. -/
def everybody : Query where
  entity := "Person"
  orders := [⟨"name", .attr (.root "Person") "name", .descending⟩]

def byPet : SortOrder := ⟨"pets.name", .attr (pets .left) "name", .ascending⟩

end Sample

namespace Store

open Sample in
/-- Somebody with two animals is still found once when the names of the animals count. -/
theorem fetch_thenBy_byPet :
    ((∀ j ∈ (everybody.thenBy [byPet]).joins, j.kind = .left) ∧
      Sample.store.fetch everybody.unordered = .ok [ann, bob, cid, ann] ∧
      Sample.store.fetch everybody = .ok [cid, bob, ann, ann] ∧
      Sample.store.fetch (everybody.thenBy [byPet]) = .ok [cid, bob, ann, ann]) ∧
      [cid, bob, ann, ann].Perm [ann, bob, cid, ann] ∧
      [cid, bob, ann, ann].Perm [ann, bob, cid, ann] ∧
      ∃ table : List (Record × List Value × Value),
        let known := table.map fun row => (row.1, row.2.1)
        let extended := table.map fun row => (row.1, row.2.1 ++ [row.2.2])
        [ann, bob, cid, ann] = table.map (·.1) ∧
        everybody.matchesOf Sample.store.schema (Sample.store.candidates "Person") = .ok known ∧
        (everybody.thenBy [byPet]).matchesOf Sample.store.schema
          (Sample.store.candidates "Person") = .ok extended ∧
        [cid, bob, ann, ann] = (ranking everybody known).map (·.1) ∧
        [cid, bob, ann, ann] = (ranking (everybody.thenBy [byPet]) extended).map (·.1) := by
  have left : ∀ j ∈ (everybody.thenBy [byPet]).joins, j.kind = .left := by decide
  have plain : Sample.store.fetch everybody.unordered = .ok [ann, bob, cid, ann] := by cbv
  have shorter : Sample.store.fetch everybody = .ok [cid, bob, ann, ann] := by cbv
  have longer : Sample.store.fetch (everybody.thenBy [byPet]) = .ok [cid, bob, ann, ann] := by cbv
  exact ⟨⟨left, plain, shorter, longer⟩, fetch_thenBy left plain shorter longer⟩

end Store

end RecordQuery
