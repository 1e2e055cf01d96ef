import RecordQuery.Proofs.Value.Order
import RecordQuery.Proofs.Store.Ranking

/-! # Sorted matches

Where the keys of every order are on one scale, comparing the keys of two matches is an order up to
ties. Insertion keeps a list sorted by such a comparison, and it keeps elements that tie in the
order in which they come. -/

namespace RecordQuery

open Fallible

/-- A comparison is an order, up to ties, of the elements with a property. -/
structure OrdersOn {α : Type} (compare : α → α → Ordering) (p : α → Prop) : Prop where
  swap : ∀ x y, compare y x = (compare x y).swap
  trans : ∀ {x y z}, p x → p y → p z → (compare x y).isLE → (compare y z).isLE → (compare x z).isLE

namespace OrdersOn

variable {α : Type} {compare : α → α → Ordering} {p : α → Prop} {x y z : α}

/-- What is not before something is behind it or ties with it. -/
theorem isLE_of_ne_lt (ordered : OrdersOn compare p) (given : compare x y ≠ .lt) :
    (compare y x).isLE := by
  rw [ordered.swap x y]
  cases same : compare x y with
  | lt => exact absurd same given
  | eq => rfl
  | gt => rfl

/-- Two elements that are each not behind the other tie. -/
theorem eq_of_isLE (ordered : OrdersOn compare p) (first : (compare x y).isLE)
    (back : (compare y x).isLE) : compare x y = .eq := by
  rw [ordered.swap x y] at back
  cases given : compare x y with
  | lt => simp [given] at back
  | eq => rfl
  | gt => simp [given] at first

/-- What is between elements that tie ties with them. -/
theorem eq_of_between (ordered : OrdersOn compare p) (left : p x) (middle : p y) (right : p z)
    (first : (compare x y).isLE) (second : (compare y z).isLE) (same : compare x z = .eq) :
    compare x y = .eq ∧ compare y z = .eq := by
  have back : (compare z x).isLE := by
    rw [ordered.swap x z, same]
    rfl
  have firstBack := ordered.trans middle right left second back
  have secondBack := ordered.trans right left middle back first
  exact ⟨ordered.eq_of_isLE first firstBack, ordered.eq_of_isLE second secondBack⟩

/-- A further comparison that decides between elements that tie keeps the order transitive. -/
theorem isLE_then (ordered : OrdersOn compare p) (left : p x) (middle : p y) (right : p z)
    {a b c : Ordering} (later : a.isLE → b.isLE → c.isLE) (first : ((compare x y).then a).isLE)
    (second : ((compare y z).then b).isLE) : ((compare x z).then c).isLE := by
  have xy := Ordering.isLE_left_of_isLE_then first
  have yz := Ordering.isLE_left_of_isLE_then second
  have xz := ordered.trans left middle right xy yz
  rcases Ordering.isLE_iff_eq_lt_or_eq_eq.mp xz with less | same
  · rw [less]
    rfl
  · obtain ⟨xy, yz⟩ := ordered.eq_of_between left middle right xy yz same
    rw [xy] at first
    rw [yz] at second
    rw [same]
    exact later first second

/-- What is looked at may be a part of the elements. -/
theorem on {β : Type} (ordered : OrdersOn compare p) (f : β → α) :
    OrdersOn (fun x y => compare (f x) (f y)) fun x => p (f x) :=
  ⟨fun x y => ordered.swap (f x) (f y), ordered.trans⟩

theorem flip (ordered : OrdersOn compare p) : OrdersOn (fun x y => compare y x) p :=
  ⟨fun x y => ordered.swap y x, fun left middle right first second =>
    ordered.trans right middle left second first⟩

/-- An order in a direction is an order. -/
theorem orient (ordered : OrdersOn compare p) (direction : Direction) :
    OrdersOn (fun x y => direction.orient (compare x y)) p := by
  cases direction with
  | ascending => exact ordered
  | descending =>
    have turned : (fun x y => (compare x y).swap) = fun x y => compare y x :=
      funext₂ fun x y => (ordered.swap x y).symm
    change OrdersOn (fun x y => (compare x y).swap) p
    rw [turned]
    exact ordered.flip

end OrdersOn

/-- Values on one scale are in order. -/
theorem Value.ordersOn (scale : Scale) : OrdersOn sortCompare (·.IsOn {scale}) :=
  ⟨sortCompare_swap, sortCompare_trans⟩

/-- The scale of the values of a kind that are not floating point numbers. -/
def Value.Scale.ofKind : String → Scale
  | "Boolean" => truth
  | "Integer" => number
  | "Decimal" => number
  | "String" => text
  | "Date" => day
  | "DateTime" => moment
  | "Time" => clock
  | _ => unordered

/-- Values of one kind other than floating point numbers are on one scale, null among them. -/
theorem Value.isOn_ofKind {value : Value} {kind : String} (exact : kind ≠ "Float")
    (given : value = .null ∨ value.kindName = kind) : value.IsOn {.ofKind kind} := by
  rcases given with rfl | rfl
  · rintro _ ⟨⟩
  · cases value with
    | null => rintro _ ⟨⟩
    | float x => exact absurd rfl exact
    | _ =>
      rintro _ ⟨⟩
      rfl

/-! ## Lists of keys -/

/-- Null is in front of other keys in ascending order and behind them in descending order. -/
def Direction.PutsNull : Direction → Value → Value → Prop
  | ascending, x, y => y = .null → x = .null
  | descending, x, y => x = .null → y = .null

/-- Only null ties with null. -/
theorem Value.eq_null_iff_of_tied {x y : Value} (same : x.sortCompare y = .eq) :
    x = .null ↔ y = .null := by
  cases x <;> cases y <;> simp_all [sortCompare, isNull]

namespace Direction

/-- What ties in a direction ties. -/
theorem eq_of_orient (direction : Direction) {order : Ordering}
    (same : direction.orient order = .eq) : order = .eq := by
  cases direction with
  | ascending => exact same
  | descending => exact Ordering.swap_inj.mp same

/-- Where one of two keys is put ahead, null is put where the direction has it. -/
theorem putsNull_of_ahead (direction : Direction) {x y : Value}
    (first : direction.orient (x.sortCompare y) = .lt) : direction.PutsNull x y := by
  cases direction with
  | ascending =>
    rintro rfl
    cases x <;> cases first
  | descending =>
    rintro rfl
    cases y <;> cases first

end Direction

namespace SortOrder

/-- Two lists of keys tie at each order. -/
def Tied (xs ys : List Value) : Prop := List.Forall₂ (fun x y => x.sortCompare y = .eq) xs ys

/-- Two lists with a key for each order are in order: the first two keys that do not tie are in the
direction of their order, or there are none. -/
inductive InOrder : List SortOrder → List Value → List Value → Prop
  | nil : InOrder [] [] []
  | ahead {order : SortOrder} {orders : List SortOrder} {x y : Value} {xs ys : List Value}
      (first : order.direction.orient (x.sortCompare y) = .lt)
      (nulls : order.direction.PutsNull x y)
      (keys : xs.length = orders.length) (others : ys.length = orders.length) :
      InOrder (order :: orders) (x :: xs) (y :: ys)
  | tied {order : SortOrder} {orders : List SortOrder} {x y : Value} {xs ys : List Value}
      (same : x.sortCompare y = .eq) (nulls : x = .null ↔ y = .null)
      (rest : InOrder orders xs ys) : InOrder (order :: orders) (x :: xs) (y :: ys)

/-- The keys for the orders are on the given scales. -/
def AreOn (scales : List Value.Scale) (keys : List Value) : Prop :=
  List.Forall₂ (fun key scale => key.IsOn {scale}) keys scales

/-- Keys of given kinds other than floating point numbers are on the scales of these kinds. -/
theorem areOn_ofKind {keys : List Value} {kinds : List String} (exact : "Float" ∉ kinds)
    (alike : List.Forall₂ (fun key kind => key = .null ∨ key.kindName = kind) keys kinds) :
    AreOn (kinds.map .ofKind) keys := by
  induction alike with
  | nil => exact .nil
  | cons given rest ih =>
    rw [List.mem_cons, not_or] at exact
    exact .cons (Value.isOn_ofKind (Ne.symm exact.1) given) (ih exact.2)

/-- Comparing keys the other way round reverses the result. -/
theorem compareKeys_swap (orders : List SortOrder) (xs ys : List Value) :
    compareKeys orders ys xs = (compareKeys orders xs ys).swap := by
  induction orders generalizing xs ys with
  | nil => rfl
  | cons order orders ih =>
    cases xs with
    | nil => cases ys <;> rfl
    | cons x xs =>
      cases ys with
      | nil => rfl
      | cons y ys =>
        have first := ((Value.ordersOn .truth).orient order.direction).swap x y
        rw [compareKeys, compareKeys, Ordering.swap_then, ← first, ih]

/-- Comparing keys on given scales is transitive. -/
theorem compareKeys_trans {orders : List SortOrder} {scales : List Value.Scale}
    {xs ys zs : List Value} (left : AreOn scales xs) (middle : AreOn scales ys)
    (right : AreOn scales zs) (first : (compareKeys orders xs ys).isLE)
    (second : (compareKeys orders ys zs).isLE) : (compareKeys orders xs zs).isLE := by
  induction orders generalizing scales xs ys zs with
  | nil => rfl
  | cons order orders ih =>
    cases left with
    | nil =>
      cases middle
      cases right
      rfl
    | @cons x scale xs scales x_on xs_on =>
      cases middle with
      | @cons y _ ys _ y_on ys_on =>
        cases right with
        | @cons z _ zs _ z_on zs_on =>
          have ordered := (Value.ordersOn scale).orient order.direction
          exact ordered.isLE_then x_on y_on z_on (ih xs_on ys_on zs_on) first second

/-- Keys on given scales are in order. -/
theorem ordersOn (orders : List SortOrder) (scales : List Value.Scale) :
    OrdersOn (compareKeys orders) (AreOn scales) :=
  ⟨compareKeys_swap orders, compareKeys_trans⟩

/-- Keys that tie at each order tie. -/
theorem compareKeys_of_tied {orders : List SortOrder} {xs ys : List Value} (tied : Tied xs ys) :
    compareKeys orders xs ys = .eq := by
  induction orders generalizing xs ys with
  | nil => rfl
  | cons order orders ih =>
    cases tied with
    | nil => rfl
    | cons same rest =>
      rw [compareKeys, same, ih rest]
      cases order.direction <;> rfl

/-- Lists of keys that compare as being in order are in order. -/
theorem inOrder_of_compareKeys {orders : List SortOrder} {xs ys : List Value}
    (keys : xs.length = orders.length) (others : ys.length = orders.length)
    (compared : (compareKeys orders xs ys).isLE) : InOrder orders xs ys := by
  induction orders generalizing xs ys with
  | nil =>
    obtain rfl := List.length_eq_zero_iff.mp keys
    obtain rfl := List.length_eq_zero_iff.mp others
    exact .nil
  | cons order orders ih =>
    obtain ⟨x, xs, rfl⟩ := List.exists_cons_of_length_eq_add_one keys
    obtain ⟨y, ys, rfl⟩ := List.exists_cons_of_length_eq_add_one others
    rw [List.length_cons, List.length_cons, Nat.add_right_cancel_iff] at keys others
    rcases Ordering.isLE_then_iff_or.mp compared with first | ⟨same, rest⟩
    · exact .ahead first (order.direction.putsNull_of_ahead first) keys others
    · have same := order.direction.eq_of_orient same
      exact .tied same (x.eq_null_iff_of_tied same) (ih keys others rest)

end SortOrder

/-! ## Insertion -/

namespace Store

variable {α : Type} {compare : α → α → Ordering} {p : α → Prop}

/-- Insertion keeps a list sorted. -/
theorem pairwise_insertDescending (ordered : OrdersOn compare p) {x : α} {sorted : List α}
    (given : p x) (known : ∀ y ∈ sorted, p y)
    (descending : sorted.Pairwise fun x y => (compare y x).isLE) :
    (insertDescending compare x sorted).Pairwise fun x y => (compare y x).isLE := by
  induction sorted with
  | nil => exact List.pairwise_singleton _ x
  | cons y ys ih =>
    obtain ⟨below, descends⟩ := List.pairwise_cons.mp descending
    obtain ⟨first, known⟩ := List.forall_mem_cons.mp known
    rw [insertDescending]
    split
    · rename_i less
      refine List.pairwise_cons.mpr ⟨fun z member => ?_, ih known descends⟩
      rcases List.mem_cons.mp ((insertDescending_perm x ys).mem_iff.mp member) with rfl | member
      · rw [less]
        rfl
      · exact below z member
    · rename_i notLess
      have above := ordered.isLE_of_ne_lt notLess
      refine List.pairwise_cons.mpr ⟨fun z member => ?_, descending⟩
      rcases List.mem_cons.mp member with rfl | member
      · exact above
      · exact ordered.trans (known z member) first given (below z member) above

/-- Repeated insertion keeps a list sorted. -/
theorem pairwise_foldl_insertDescending (ordered : OrdersOn compare p) {xs sorted : List α}
    (given : ∀ x ∈ xs, p x) (known : ∀ y ∈ sorted, p y)
    (descending : sorted.Pairwise fun x y => (compare y x).isLE) :
    (xs.foldl (fun sorted x => insertDescending compare x sorted) sorted).Pairwise
      fun x y => (compare y x).isLE := by
  induction xs generalizing sorted with
  | nil => exact descending
  | cons x xs ih =>
    obtain ⟨first, given⟩ := List.forall_mem_cons.mp given
    refine ih given (fun y member => ?_) (pairwise_insertDescending ordered first known descending)
    rcases List.mem_cons.mp ((insertDescending_perm x sorted).mem_iff.mp member) with rfl | member
    · exact first
    · exact known y member

/-- Sorting puts a list in order. -/
theorem pairwise_sortBy (ordered : OrdersOn compare p) {xs : List α} (given : ∀ x ∈ xs, p x) :
    (sortBy compare xs).Pairwise fun x y => (compare x y).isLE :=
  List.pairwise_reverse.mpr (pairwise_foldl_insertDescending ordered given (by simp) .nil)

/-- Insertion keeps the elements in the order that they are in. -/
theorem sublist_insertDescending (x : α) (sorted : List α) :
    sorted.Sublist (insertDescending compare x sorted) := by
  induction sorted with
  | nil => exact List.nil_sublist _
  | cons y ys ih =>
    rw [insertDescending]
    split
    · exact ih.cons_cons y
    · exact List.sublist_cons_self x _

/-- An element is put in front of those that it is not less than. -/
theorem cons_sublist_insertDescending {x : α} {kept sorted : List α} (within : kept.Sublist sorted)
    (notLess : ∀ y ∈ kept, compare x y ≠ .lt) :
    (x :: kept).Sublist (insertDescending compare x sorted) := by
  induction within with
  | slnil => exact List.Sublist.refl [x]
  | @cons kept ys y within ih =>
    rw [insertDescending]
    split
    · exact (ih notLess).cons y
    · exact (within.cons y).cons_cons x
  | @cons_cons kept ys y within ih =>
    rw [insertDescending, if_neg (notLess y List.mem_cons_self)]
    exact (within.cons_cons y).cons_cons x

/-- Elements that need not change places are put in by repeated insertion without changing
places. -/
theorem sublist_foldl_insertDescending {part xs kept sorted : List α} (chosen : part.Sublist xs)
    (inOrder : part.Pairwise fun x y => compare y x ≠ .lt) (within : kept.Sublist sorted)
    (behind : ∀ x ∈ part, ∀ y ∈ kept, compare x y ≠ .lt) :
    (part.reverse ++ kept).Sublist
      (xs.foldl (fun sorted x => insertDescending compare x sorted) sorted) := by
  induction chosen generalizing kept sorted with
  | slnil => exact within
  | @cons part xs x chosen ih =>
    exact ih inOrder (within.trans (sublist_insertDescending x sorted)) behind
  | @cons_cons part xs x chosen ih =>
    obtain ⟨first, inOrder⟩ := List.pairwise_cons.mp inOrder
    obtain ⟨notLess, behind⟩ := List.forall_mem_cons.mp behind
    rw [List.reverse_cons, List.append_assoc]
    refine ih inOrder (cons_sublist_insertDescending within notLess) fun y member z found => ?_
    rcases List.mem_cons.mp found with rfl | found
    · exact first y member
    · exact behind y member z found

/-- What is in order already stays as it is, whatever else is sorted with it. -/
theorem sublist_sortBy {part xs : List α} (chosen : part.Sublist xs)
    (inOrder : part.Pairwise fun x y => compare y x ≠ .lt) : part.Sublist (sortBy compare xs) := by
  have reversed := sublist_foldl_insertDescending chosen inOrder (List.Sublist.refl []) (by simp)
  rw [List.append_nil] at reversed
  rw [sortBy, ← List.reverse_reverse part]
  exact reversed.reverse

/-! ## Sorted matches -/

variable {store : Store} {query : Query} {found : List (Record × List Value)}

/-- A ranking of matches whose keys are on one scale for each order is in order. -/
theorem pairwise_ranking {scales : List Value.Scale} {schema : Schema} {records : List Record}
    (matched : query.matchesOf schema records = .ok found)
    (on : ∀ row ∈ found, SortOrder.AreOn scales row.2) :
    (ranking query found).Pairwise fun x y => SortOrder.InOrder query.orders x.2 y.2 := by
  have keyed : ∀ row ∈ ranking query found, row.2.length = query.orders.length := by
    intro row member
    obtain ⟨record, _, yields⟩ :=
      Query.mem_matchesOf matched ((ranking_perm query found).mem_iff.mp member)
    obtain ⟨_, assignment, _, keys⟩ := Query.matchOf?_eq_some_iff.mp yields
    exact (mapM_eq_ok_iff.mp keys).length_eq.symm
  have sorted : (ranking query found).Pairwise fun x y =>
      (SortOrder.compareKeys query.orders x.2 y.2).isLE :=
    pairwise_sortBy ((SortOrder.ordersOn query.orders scales).on Prod.snd) on
  exact sorted.imp_of_mem fun first second compared =>
    SortOrder.inOrder_of_compareKeys (keyed _ first) (keyed _ second) compared

/-- Matches that tie keep their order. -/
theorem sublist_ranking {tied : List (Record × List Value)} (chosen : tied.Sublist found)
    (same : tied.Pairwise fun x y => SortOrder.Tied x.2 y.2) :
    tied.Sublist (ranking query found) := by
  refine sublist_sortBy chosen (same.imp fun {x y} tie less => ?_)
  rw [SortOrder.compareKeys_swap, SortOrder.compareKeys_of_tied tie] at less
  cases less

/-- A search whose matches have keys of one kind for each order, apart from nulls, lists the matches
in the order of their keys, and those that tie in the order of the store. -/
theorem fetch_sorted {answer : List Record} {kinds : List String}
    (fetched : store.fetch query = .ok answer)
    (matched : query.matchesOf store.schema (store.candidates query.entity) = .ok found)
    (exact : "Float" ∉ kinds)
    (alike : ∀ row ∈ found,
      List.Forall₂ (fun key kind => key = .null ∨ key.kindName = kind) row.2 kinds) :
    ∃ ranked : List (Record × List Value),
      answer = ranked.map (·.1) ∧ ranked.Perm found ∧
      (found.map (·.1)).Sublist store.records ∧
      ranked.Pairwise (fun x y => SortOrder.InOrder query.orders x.2 y.2) ∧
      ∀ tied : List (Record × List Value), tied.Sublist found →
        tied.Pairwise (fun x y => SortOrder.Tied x.2 y.2) → tied.Sublist ranked := by
  obtain ⟨_, again, isAnswer⟩ := fetch_eq_ok_iff.mp fetched
  obtain rfl := Except.ok.inj (matched.symm.trans again)
  have on : ∀ row ∈ found, SortOrder.AreOn (kinds.map .ofKind) row.2 := fun row member =>
    SortOrder.areOn_ofKind exact (alike row member)
  have inStore := (Query.matchesOf_sublist matched).trans List.filter_sublist
  exact ⟨ranking query found, isAnswer, ranking_perm query found, inStore,
    pairwise_ranking matched on, fun tied => sublist_ranking⟩

end Store

namespace Sample

/-- People by the names of their animals, the last name of the alphabet first among those who tie.
-/
def byPetThenName : Query := { everybody with orders := byPet :: everybody.orders }

/-- The people with their keys. -/
def keyed : List (Record × List Value) :=
  [(ann, [.string "Tom", .string "Ann"]), (bob, [.null, .string "Bob"]),
    (cid, [.string "Ace", .string "Cid"]), (ann, [.string "Tom", .string "Ann"])]

end Sample

namespace Store

open Sample in
/-- Who has no animal comes first. -/
theorem fetch_sorted_byPetThenName :
    (Sample.store.fetch byPetThenName = .ok [bob, cid, ann, ann] ∧
      byPetThenName.matchesOf Sample.store.schema (Sample.store.candidates "Person") = .ok keyed ∧
      "Float" ∉ ["String", "String"] ∧
      ∀ row ∈ keyed, List.Forall₂ (fun key kind => key = .null ∨ key.kindName = kind) row.2
        ["String", "String"]) ∧
    ∃ ranked : List (Record × List Value),
      [bob, cid, ann, ann] = ranked.map (·.1) ∧ ranked.Perm keyed ∧
      (keyed.map (·.1)).Sublist Sample.store.records ∧
      ranked.Pairwise (fun x y => SortOrder.InOrder byPetThenName.orders x.2 y.2) ∧
      ∀ tied : List (Record × List Value), tied.Sublist keyed →
        tied.Pairwise (fun x y => SortOrder.Tied x.2 y.2) → tied.Sublist ranked := by
  have fetched : Sample.store.fetch byPetThenName = .ok [bob, cid, ann, ann] := by cbv
  have matched : byPetThenName.matchesOf Sample.store.schema (Sample.store.candidates "Person") =
      .ok keyed := by cbv
  have exact : "Float" ∉ ["String", "String"] := by decide
  have alike : ∀ row ∈ keyed, List.Forall₂ (fun key kind => key = .null ∨ key.kindName = kind)
      row.2 ["String", "String"] := by
    simp [keyed, Value.kindName]
  exact ⟨⟨fetched, matched, exact, alike⟩, fetch_sorted fetched matched exact alike⟩

end Store

end RecordQuery
