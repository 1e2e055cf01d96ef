import RecordQuery.Config
import RecordQuery.Fault

/-! # Pages

A page is a section of a result. Pages have one size and are numbered from zero; sizes and positions
are at most the greatest number of sixty-four bits. -/

namespace RecordQuery

/-- Which page is asked for. -/
structure PageRequest where
  size : Nat
  offset : Nat
deriving DecidableEq, Repr

/-- A section of a result with what is known about the whole. -/
structure Page (α : Type) where
  content : List α
  pageSize : Nat
  pageOffset : Nat
  totalElements : Nat
  totalPages : Nat
deriving Repr

namespace PageRequest

/-- The greatest position. -/
def limit : Nat := 0xFFFFFFFFFFFFFFFF

/-- The page that a request asks for. A missing size is the default, and a size is cut down to the
greatest one. -/
def normalize (size : Option Nat) (offset : Nat) (config : Config) : Except Fault PageRequest :=
  match size with
  | some 0 => .error (.invalidRequest "pageSize must be at least 1")
  | some size => .ok { size := min size config.maxPageSize, offset }
  | none => .ok { size := config.defaultPageSize, offset }

/-- The position of the first element. -/
def first (request : PageRequest) : Nat := min (request.offset * request.size) limit

/-- The positions where the page begins and ends in a result. -/
def bounds (request : PageRequest) (total : Nat) : Nat × Nat :=
  let start := min request.first total
  (start, min (min (start + request.size) limit) total)

end PageRequest

namespace Page

/-- A page with its content. -/
def ofContent {α : Type} (content : List α) (request : PageRequest) (total : Nat) : Page α :=
  { content
    pageSize := request.size
    pageOffset := request.offset
    totalElements := total
    totalPages := (total + max request.size 1 - 1) / max request.size 1 }

/-- The number of elements on the page. -/
def size {α : Type} (page : Page α) : Nat := page.content.length

def toJson {α : Type} (encode : α → Json) (page : Page α) : Json :=
  .object [("content", .array (page.content.map encode)), ("pageOffset", .integer page.pageOffset),
    ("pageSize", .integer page.pageSize), ("size", .integer page.size),
    ("totalElements", .integer page.totalElements), ("totalPages", .integer page.totalPages)]

end Page

end RecordQuery
