import RecordQuery.Text.Case

/-! # Sets of characters

Sets of code points built from ranges by set operations and by closing under case folding. Each set
can be asked for its members one by one and listed as ranges in order. -/

namespace RecordQuery.Text

/-- A set of code points. -/
inductive CharSet where
  | ranges (ranges : List (Nat × Nat))
  | union (left right : CharSet)
  | inter (left right : CharSet)
  | compl (set : CharSet)
  /-- The code points that have the same case folding as a member. -/
  | folded (set : CharSet)
deriving Repr

namespace CharSet

/-- Membership of a code point. -/
def contains : CharSet → Nat → Bool
  | ranges rs, n => Case.inRanges rs n
  | union a b, n => a.contains n || b.contains n
  | inter a b, n => a.contains n && b.contains n
  | compl a, n => !a.contains n
  | folded a, n => (Case.variants n).any a.contains

def empty : CharSet := ranges []

def single (n : Nat) : CharSet := ranges [(n, n)]

def any : CharSet := ranges [(0, 0x10FFFF)]

def ascii : CharSet := ranges [(0, 127)]

/-- The code points that are characters. -/
def scalars : CharSet := ranges [(0, 0xD7FF), (0xE000, 0x10FFFF)]

def diff (a b : CharSet) : CharSet := inter a (compl b)

def symmDiff (a b : CharSet) : CharSet := union (diff a b) (diff b a)

def complIf (negated : Bool) (a : CharSet) : CharSet := if negated then compl a else a

def unions (sets : List CharSet) : CharSet := sets.foldr union empty

/-- Every `step`-th code point of each run `(first, last, step)`. -/
def ofRuns (runs : List (Nat × Nat × Nat)) : CharSet :=
  ranges (runs.flatMap fun (first, last, step) =>
    if step = 1 then [(first, last)]
    else (List.range ((last - first) / step + 1)).map fun i => (first + step * i, first + step * i))

/-- Joins ranges that are in the order of their beginnings to ranges with gaps between them, after a
range that begins before them all. -/
def join (current : Nat × Nat) : List (Nat × Nat) → List (Nat × Nat)
  | [] => [current]
  | next :: rest =>
    if next.1 ≤ current.2 + 1 then join (current.1, max current.2 next.2) rest
    else current :: join next rest

/-- The same code points as ranges in order with gaps between them. -/
def arrange (ranges : List (Nat × Nat)) : List (Nat × Nat) :=
  match ranges.mergeSort fun a b => a.1 ≤ b.1 with
  | [] => []
  | first :: rest => join first rest

/-- The gaps from a code point on between ranges in order. -/
def gaps (start : Nat) : List (Nat × Nat) → List (Nat × Nat)
  | [] => if start ≤ 0x10FFFF then [(start, 0x10FFFF)] else []
  | (first, last) :: rest =>
    if start < first then (start, first - 1) :: gaps (last + 1) rest else gaps (last + 1) rest

/-- Adds the code points that have the same case folding as one in the ranges. -/
def foldRanges (ranges : List (Nat × Nat)) : List (Nat × Nat) :=
  let targets := Case.foldPairs.filter fun (source, _) => Case.inRanges ranges source
  let folded := arrange (ranges ++ targets.map fun (_, target) => (target, target))
  let sources := Case.foldPairs.filter fun (_, target) => Case.inRanges folded target
  arrange (folded ++ sources.map fun (source, _) => (source, source))

/-- The members as ranges in order with gaps between them. -/
def toRanges : CharSet → List (Nat × Nat)
  | ranges rs => arrange rs
  | union a b => arrange (a.toRanges ++ b.toRanges)
  | inter a b => gaps 0 (arrange (gaps 0 a.toRanges ++ gaps 0 b.toRanges))
  | compl a => gaps 0 a.toRanges
  | folded a => foldRanges a.toRanges

/-- The set of the members that are characters. -/
def charRanges (set : CharSet) : List (Nat × Nat) := (inter set scalars).toRanges

end CharSet

end RecordQuery.Text
