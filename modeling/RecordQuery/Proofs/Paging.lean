import RecordQuery.Proofs.Store.Matching
import RecordQuery.Searcher

/-! # Pages of a result

The pages of one size divide a result: put together in their order they are the whole result. All of
them are full but the last one, and behind it every page is empty. -/

namespace RecordQuery

open Fallible

/-- Pages, numbered from zero, divide a result into parts of one size. -/
structure Page.Divide {α : Type} (pages : Nat → Page α) (whole : List α)
    (pageSize totalPages : Nat) : Prop where
  numbered (offset : Nat) : (pages offset).pageOffset = offset
  pageSize_eq (offset : Nat) : (pages offset).pageSize = pageSize
  totalElements_eq (offset : Nat) : (pages offset).totalElements = whole.length
  totalPages_eq (offset : Nat) : (pages offset).totalPages = totalPages
  size_le (offset : Nat) : (pages offset).size ≤ pageSize
  whole_eq : (List.range totalPages).flatMap (fun offset => (pages offset).content) = whole
  content_ne_nil {offset : Nat} (inside : offset < totalPages) : (pages offset).content ≠ []
  full {offset : Nat} (early : offset + 1 < totalPages) : (pages offset).size = pageSize
  empty {offset : Nat} (beyond : totalPages ≤ offset) : (pages offset).content = []

/-- Each element of the result is on some page that is counted, and nothing else is. -/
theorem Page.Divide.mem_iff {α : Type} {pages : Nat → Page α} {whole : List α}
    {pageSize totalPages : Nat} (divide : Page.Divide pages whole pageSize totalPages) {x : α} :
    x ∈ whole ↔ ∃ offset < totalPages, x ∈ (pages offset).content := by
  rw [← divide.whole_eq, List.mem_flatMap]
  simp only [List.mem_range]

namespace PageRequest

variable {α : Type}

/-- The elements of a result that are on the page. -/
def sectionOf (request : PageRequest) (xs : List α) : List α :=
  (xs.drop (request.offset * request.size)).take request.size

/-- Positions in a result that is not too long are not cut off. -/
theorem bounds_eq (request : PageRequest) {total : Nat} (fits : total ≤ limit) :
    request.bounds total = (min (request.offset * request.size) total,
      min (request.offset * request.size + request.size) total) := by
  have first : min (min (request.offset * request.size) limit) total =
      min (request.offset * request.size) total := by omega
  have last : min (min (min (request.offset * request.size) total + request.size) limit) total =
      min (request.offset * request.size + request.size) total := by omega
  unfold bounds PageRequest.first
  simp only [first, last]

/-- What stands between the bounds of a page is the page. -/
theorem take_drop_bounds (request : PageRequest) {xs : List α} (fits : xs.length ≤ limit) :
    (xs.drop (request.bounds xs.length).1).take
        ((request.bounds xs.length).2 - (request.bounds xs.length).1) = request.sectionOf xs := by
  rw [bounds_eq request fits, sectionOf]
  by_cases inside : request.offset * request.size < xs.length
  · rw [Nat.min_eq_left (Nat.le_of_lt inside), List.take_eq_take_iff, List.length_drop]
    omega
  · have nothing : xs.drop (request.offset * request.size) = [] :=
      List.drop_eq_nil_of_le (Nat.le_of_not_lt inside)
    rw [Nat.min_eq_right (Nat.le_of_not_lt inside), List.drop_length, nothing]
    simp only [List.take_nil]

/-- A page has as many results as its size, as long as so many are left. -/
theorem length_sectionOf (request : PageRequest) (xs : List α) :
    (request.sectionOf xs).length =
      min request.size (xs.length - request.offset * request.size) := by
  rw [sectionOf, List.length_take, List.length_drop]

/-- Pages of a size that is not zero begin inside a result as long as they are counted. -/
theorem lt_totalPages_iff {size total offset : Nat} (positive : 0 < size) :
    offset < (total + size - 1) / size ↔ offset * size < total := by
  rw [← Nat.succ_le_iff, Nat.le_div_iff_mul_le positive, Nat.succ_mul]
  omega

/-- The first pages of a result are its beginning. -/
theorem flatMap_sectionOf (xs : List α) (size count : Nat) :
    (List.range count).flatMap (fun offset => sectionOf { size, offset } xs) =
      xs.take (count * size) := by
  induction count with
  | zero => simp
  | succ count ih =>
    rw [List.range_succ, List.flatMap_append, ih, Nat.succ_mul, List.take_add]
    simp [sectionOf]

/-- The pages of a size that is not zero divide a result. -/
theorem divide_sectionOf {size : Nat} (positive : 0 < size) (whole : List α) :
    Page.Divide
      (fun offset =>
        Page.ofContent (sectionOf { size, offset } whole) { size, offset } whole.length)
      whole size ((whole.length + size - 1) / size) := by
  have atLeastOne : max size 1 = size := Nat.max_eq_left positive
  have length (offset : Nat) : (sectionOf { size, offset } whole).length =
      min size (whole.length - offset * size) := length_sectionOf _ whole
  refine ⟨fun offset => rfl, fun offset => rfl, fun offset => rfl, fun offset => ?_,
    fun offset => ?_, ?_, fun {offset} inside => ?_, fun {offset} early => ?_,
    fun {offset} beyond => ?_⟩
  · simp only [Page.ofContent, atLeastOne]
  · change (sectionOf { size, offset } whole).length ≤ size
    rw [length]
    exact Nat.min_le_left size _
  -- The pages that are counted reach to the end of the result.
  · have enough : whole.length ≤ (whole.length + size - 1) / size * size :=
      Nat.le_of_not_lt fun more => Nat.lt_irrefl _ ((lt_totalPages_iff positive).mpr more)
    simp only [Page.ofContent]
    rw [flatMap_sectionOf, List.take_of_length_le enough]
  · have begins := (lt_totalPages_iff positive).mp inside
    apply List.ne_nil_of_length_pos
    change 0 < (sectionOf { size, offset } whole).length
    rw [length]
    omega
  · have nextBegins := (lt_totalPages_iff positive).mp early
    rw [Nat.succ_mul] at nextBegins
    change (sectionOf { size, offset } whole).length = size
    rw [length]
    omega
  · have ends : ¬ offset * size < whole.length :=
      fun begins => Nat.not_lt_of_le beyond ((lt_totalPages_iff positive).mpr begins)
    apply List.eq_nil_of_length_eq_zero
    change (sectionOf { size, offset } whole).length = 0
    rw [length]
    omega

/-- The size of a page does not depend on its number, and it is not zero if the sizes that are
configured are not. -/
theorem exists_normalize {config : Config} {asked : Option Nat} (positive : asked ≠ some 0)
    (standard : 1 ≤ config.defaultPageSize) (greatest : 1 ≤ config.maxPageSize) :
    ∃ size, 0 < size ∧ ∀ offset, normalize asked offset config = .ok { size, offset } := by
  match asked with
  | none => exact ⟨config.defaultPageSize, standard, fun offset => rfl⟩
  | some 0 => exact absurd rfl positive
  | some (size + 1) =>
    have notZero : 0 < min (size + 1) config.maxPageSize := by omega
    exact ⟨min (size + 1) config.maxPageSize, notZero, fun offset => rfl⟩

end PageRequest

namespace Searcher

variable {searcher : Searcher} {store : Store} {entity : String} {request : Request}
  {found : List Record}

/-- If a search succeeds, so does the search for one of its pages, which has its section of the
result. -/
theorem searchPage_of_search (fits : store.records.length ≤ PageRequest.limit)
    (answered : searcher.search store entity request = .ok found) {offset : Nat}
    {page : PageRequest}
    (normal : PageRequest.normalize request.pageSize offset searcher.config = .ok page) :
    searcher.searchPage store entity { request with pageOffset := offset } =
      .ok (Page.ofContent (page.sectionOf found) page found.length) := by
  obtain ⟨query, compiled, fetched⟩ := bind_eq_ok_iff.mp answered
  have compiledToo : searcher.compile entity { request with pageOffset := offset } = .ok query :=
    compiled
  have fitsToo : found.length ≤ PageRequest.limit := by
    have := Store.length_fetch_le fetched
    omega
  have counted : store.count query = .ok found.length := by
    rw [Store.count, fetched]
    rfl
  have asked : searcher.searchPage store entity { request with pageOffset := offset } =
      if (page.bounds found.length).1 < (page.bounds found.length).2 then
        (store.fetchSection query (page.bounds found.length).1
          ((page.bounds found.length).2 - (page.bounds found.length).1)).map
            fun content => Page.ofContent content page found.length
      else .ok (Page.ofContent [] page found.length) := by
    simp only [searchPage, normal, compiledToo, counted, ok_bind]
    rfl
  rw [asked, ← page.take_drop_bounds fitsToo]
  -- A section without records is not asked for.
  by_cases inside : (page.bounds found.length).1 < (page.bounds found.length).2
  · have notZero : (page.bounds found.length).2 - (page.bounds found.length).1 ≠ 0 := by omega
    rw [if_pos inside, Store.fetchSection, if_neg notZero, fetched]
    rfl
  · rw [if_neg inside, Nat.sub_eq_zero_of_le (Nat.le_of_not_lt inside), List.take_zero]

/-- Where the sizes that are configured and the size that is asked for are not zero, the pages of a
search that succeeds divide its result. Every page can be had, also behind the last one. A store has
no more records than there are positions. -/
theorem searchPage_divides (standard : 1 ≤ searcher.config.defaultPageSize)
    (greatest : 1 ≤ searcher.config.maxPageSize)
    (fits : store.records.length ≤ PageRequest.limit) (asked : request.pageSize ≠ some 0)
    (answered : searcher.search store entity request = .ok found) :
    ∃ pages pageSize totalPages,
      (∀ offset, searcher.searchPage store entity { request with pageOffset := offset } =
        .ok (pages offset)) ∧
      Page.Divide pages found pageSize totalPages := by
  obtain ⟨size, positive, normal⟩ := PageRequest.exists_normalize asked standard greatest
  refine ⟨_, size, _, fun offset => ?_, PageRequest.divide_sectionOf positive found⟩
  exact searchPage_of_search fits answered (normal offset)

end Searcher

namespace Sample

/-- People in the descending order of their names, three on a page. -/
def people : Request where
  sort := [⟨"name", .descending⟩]
  pageSize := some 3

end Sample

namespace Searcher

open Sample in
/-- Four people are one full page and one person more. -/
theorem searchPage_divides_people :
    ((1 ≤ ({ schema := Sample.schema } : Searcher).config.defaultPageSize ∧
        1 ≤ ({ schema := Sample.schema } : Searcher).config.maxPageSize ∧
        Sample.store.records.length ≤ PageRequest.limit ∧ people.pageSize ≠ some 0) ∧
      ({ schema := Sample.schema } : Searcher).search Sample.store "Person" people =
        .ok [cid, bob, ann, ann]) ∧
    ∃ pages pageSize totalPages,
      (∀ offset, ({ schema := Sample.schema } : Searcher).searchPage Sample.store "Person"
        { people with pageOffset := offset } = .ok (pages offset)) ∧
      Page.Divide pages [cid, bob, ann, ann] pageSize totalPages := by
  have fits : Sample.store.records.length ≤ PageRequest.limit := by decide
  have asked : people.pageSize ≠ some 0 := by decide
  have answered : ({ schema := Sample.schema } : Searcher).search Sample.store "Person" people =
      .ok [cid, bob, ann, ann] := by cbv
  exact ⟨⟨⟨by decide, by decide, fits, asked⟩, answered⟩,
    searchPage_divides (by decide) (by decide) fits asked answered⟩

end Searcher

end RecordQuery
