import RecordQuery.Proofs.Paging

/-! # Page sizes that are configured

Setting the page sizes puts the default between one and the greatest size, and no other setting
moves them. A configuration that is read from JSON has the sizes that are written there, whatever
they are. So pages have a size between one and the greatest one if the sizes have been set or were
in order before. -/

namespace RecordQuery

open Fallible

/-- A whole number of at most the limit is read as a size. -/
theorem Json.size?_integer {n : Nat} (fits : n ≤ PageRequest.limit) :
    Json.size? (.integer n) = some n := by
  have inRange : 0 ≤ (n : Int) ∧ (n : Int) < 0x10000000000000000 := by
    unfold PageRequest.limit at fits
    omega
  rw [Json.size?, if_pos inRange, Int.toNat_natCast]

namespace Config

/-- A setting that is changed. -/
inductive Change where
  | maxDiscoveryDepth (depth : Nat)
  | maxExpressionDepth (depth : Nat)
  | pageSizes (defaultSize maxSize : Nat)
  | collisionPolicy (policy : CollisionPolicy)

/-- The configuration after one change. -/
def change (config : Config) : Change → Config
  | .maxDiscoveryDepth depth => { config with maxDiscoveryDepth := depth }
  | .maxExpressionDepth depth => { config with maxExpressionDepth := depth }
  | .pageSizes defaultSize maxSize => config.withPageSizes defaultSize maxSize
  | .collisionPolicy policy => { config with collisionPolicy := policy }

/-- The configuration after changes, one after the other. -/
def after (config : Config) (changes : List Change) : Config := changes.foldl change config

/-- The default page size lies between one and the greatest page size. -/
structure SizesInOrder (config : Config) : Prop where
  positive : 1 ≤ config.defaultPageSize
  capped : config.defaultPageSize ≤ config.maxPageSize

/-- Setting the page sizes brings them in order, whatever they are set to. -/
theorem withPageSizes_sizesInOrder (config : Config) (defaultSize maxSize : Nat) :
    (config.withPageSizes defaultSize maxSize).SizesInOrder where
  positive := by
    change 1 ≤ min (max defaultSize 1) (max maxSize 1)
    omega
  capped := Nat.min_le_right (max defaultSize 1) (max maxSize 1)

/-- A change keeps sizes in order or not, unless it sets them. -/
theorem change_sizesInOrder_iff (config : Config) (next : Change) :
    (config.change next).SizesInOrder ↔
      config.SizesInOrder ∨ ∃ defaultSize maxSize, next = .pageSizes defaultSize maxSize := by
  cases next with
  | pageSizes defaultSize maxSize =>
    have inOrder := config.withPageSizes_sizesInOrder defaultSize maxSize
    exact iff_of_true inOrder (.inr ⟨defaultSize, maxSize, rfl⟩)
  | _ =>
    simp only [reduceCtorEq, exists_false, or_false]
    exact ⟨fun ⟨positive, capped⟩ => ⟨positive, capped⟩,
      fun ⟨positive, capped⟩ => ⟨positive, capped⟩⟩

/-- Sizes are in order after changes if they were before or if one of the changes sets them. -/
theorem after_sizesInOrder_iff (config : Config) (changes : List Change) :
    (config.after changes).SizesInOrder ↔
      config.SizesInOrder ∨
        ∃ defaultSize maxSize, .pageSizes defaultSize maxSize ∈ changes := by
  induction changes generalizing config with
  | nil => simp [after]
  | cons next rest ih =>
    have step : config.after (next :: rest) = (config.change next).after rest := rfl
    rw [step, ih, change_sizesInOrder_iff, or_assoc]
    apply or_congr_right
    simp only [List.mem_cons, exists_or, eq_comm]

/-- A policy for collisions is read back from its name. -/
theorem ofJson?_toJson_policy (policy : CollisionPolicy) :
    CollisionPolicy.ofJson? policy.toJson = some policy := by
  cases policy <;> rfl

/-- Reading takes each setting as it is written. -/
theorem ofJson?_of_fields {json discovery expression standard greatest policy : Json}
    {config : Config}
    (fields : json.fields? ["maxDiscoveryDepth", "maxExpressionDepth", "defaultPageSize",
      "maxPageSize", "collisionPolicy"] =
        some [some discovery, some expression, some standard, some greatest, some policy])
    (readDiscovery : discovery.size? = some config.maxDiscoveryDepth)
    (readExpression : expression.size? = some config.maxExpressionDepth)
    (readStandard : standard.size? = some config.defaultPageSize)
    (readGreatest : greatest.size? = some config.maxPageSize)
    (readPolicy : CollisionPolicy.ofJson? policy = some config.collisionPolicy) :
    ofJson? json = some config := by
  simp only [ofJson?, fields, Json.defaulted?, readDiscovery, readExpression, readStandard,
    readGreatest, readPolicy, Option.bind_eq_bind, Option.bind_some, Option.pure_def]

/-- Each configuration whose numbers have sixty-four bits can be read, whatever its page sizes. -/
theorem ofJson?_toJson {config : Config} (discovery : config.maxDiscoveryDepth ≤ PageRequest.limit)
    (expression : config.maxExpressionDepth ≤ PageRequest.limit)
    (standard : config.defaultPageSize ≤ PageRequest.limit)
    (greatest : config.maxPageSize ≤ PageRequest.limit) : ofJson? config.toJson = some config := by
  refine ofJson?_of_fields rfl ?_ ?_ ?_ ?_ (ofJson?_toJson_policy config.collisionPolicy)
  · exact Json.size?_integer discovery
  · exact Json.size?_integer expression
  · exact Json.size?_integer standard
  · exact Json.size?_integer greatest

end Config

namespace PageRequest

/-- Every page that is not refused has a size between one and the greatest one. -/
def AreInBounds (config : Config) : Prop :=
  ∀ asked offset page, normalize asked offset config = .ok page →
    1 ≤ page.size ∧ page.size ≤ config.maxPageSize

/-- Pages have a size between one and the greatest one exactly if the configured sizes are in
order. -/
theorem areInBounds_iff (config : Config) : AreInBounds config ↔ config.SizesInOrder := by
  constructor
  · intro inBounds
    obtain ⟨positive, capped⟩ := inBounds none 0 { size := config.defaultPageSize, offset := 0 } rfl
    exact ⟨positive, capped⟩
  · rintro ⟨positive, capped⟩ asked offset page normal
    match asked with
    | none =>
      cases normal
      exact ⟨positive, capped⟩
    | some 0 => cases normal
    | some (size + 1) =>
      cases normal
      have notZero : 1 ≤ min (size + 1) config.maxPageSize := by omega
      exact ⟨notZero, Nat.min_le_right (size + 1) config.maxPageSize⟩

end PageRequest

namespace Searcher

/-- After changes to a configuration, wherever it comes from, all pages have a size between one and
the greatest one if and only if the sizes were in order before or one of the changes sets them. Then
each record that is found is on some page. -/
theorem pages_areInBounds_iff (base : Config) (changes : List Config.Change) :
    (PageRequest.AreInBounds (base.after changes) ↔
      base.SizesInOrder ∨
        ∃ defaultSize maxSize, .pageSizes defaultSize maxSize ∈ changes) ∧
    ∀ (searcher : Searcher) (store : Store) (entity : String) (request : Request)
      (found : List Record), PageRequest.AreInBounds (base.after changes) →
      searcher.config = base.after changes → store.records.length ≤ PageRequest.limit →
      request.pageSize ≠ some 0 → searcher.search store entity request = .ok found →
      ∀ record ∈ found, ∃ offset page,
        searcher.searchPage store entity { request with pageOffset := offset } = .ok page ∧
          offset < page.totalPages ∧ record ∈ page.content := by
  constructor
  · rw [PageRequest.areInBounds_iff, Config.after_sizesInOrder_iff]
  · intro searcher store entity request found inBounds configured fits asked answered record listed
    rw [← configured, PageRequest.areInBounds_iff] at inBounds
    have greatest : 1 ≤ searcher.config.maxPageSize :=
      Nat.le_trans inBounds.positive inBounds.capped
    obtain ⟨size, positive, normal⟩ :=
      PageRequest.exists_normalize asked inBounds.positive greatest
    have divide := PageRequest.divide_sectionOf positive found
    obtain ⟨offset, counted, onPage⟩ := divide.mem_iff.mp listed
    refine ⟨offset, _, searchPage_of_search fits answered (normal offset), ?_, onPage⟩
    exact Nat.lt_of_lt_of_eq counted (divide.totalPages_eq offset).symm

/-- A configuration that has been read may have a default of zero, and then no page without a size
of its own has any content. -/
example :
    (Config.ofJson? (.object [("defaultPageSize", .integer 0)])).map
        (PageRequest.normalize none 7) = some (.ok { size := 0, offset := 7 }) := by
  decide

end Searcher

namespace Sample

/-- A configuration without a default page size. -/
def unpaged : Config := { defaultPageSize := 0 }

/-- The sizes are set, and something else is set after them. -/
def sizesSet : List Config.Change := [.pageSizes 0 2, .maxExpressionDepth 9]

/-- A searcher whose page sizes have been set. -/
def pagingSearcher : Searcher := { schema := Sample.schema, config := unpaged.after sizesSet }

end Sample

namespace Searcher

open Sample in
/-- A default of zero was read, but the sizes were set after that. Nobody is left out. -/
theorem pages_areInBounds_unpaged :
    (Config.ofJson? (.object [("defaultPageSize", .integer 0)]) = some unpaged ∧
      pagingSearcher.search Sample.store "Person" people = .ok [cid, bob, ann, ann]) ∧
    PageRequest.AreInBounds (unpaged.after sizesSet) ∧
    ∀ record ∈ [cid, bob, ann, ann], ∃ offset page,
      pagingSearcher.searchPage Sample.store "Person" { people with pageOffset := offset } =
        .ok page ∧ offset < page.totalPages ∧ record ∈ page.content := by
  obtain ⟨inBounds, found⟩ := pages_areInBounds_iff unpaged sizesSet
  have set : PageRequest.AreInBounds (unpaged.after sizesSet) :=
    inBounds.mpr (.inr ⟨0, 2, List.mem_cons_self⟩)
  have answered : pagingSearcher.search Sample.store "Person" people =
      .ok [cid, bob, ann, ann] := by cbv
  exact ⟨⟨by decide, answered⟩, set,
    found pagingSearcher Sample.store "Person" people _ set rfl (by decide) (by decide) answered⟩

end Searcher

end RecordQuery
