import RecordQuery.Binary64.Basic

/-! # JSON trees

A JSON document as a tree. Whole numbers from −2^63 to 2^64 − 1 are kept exactly, every other number
is a binary64 number. Members of an object are in the order of the text until they are sorted. -/

namespace RecordQuery

inductive Json where
  | null
  | bool (value : Bool)
  | integer (value : Int)
  | float (value : Binary64)
  | string (value : String)
  | array (items : List Json)
  | object (members : List (String × Json))
deriving Repr, Inhabited

namespace Json

/-- The value of the first member with a name. -/
def member? (name : String) : List (String × Json) → Option Json
  | [] => none
  | (key, value) :: rest => if key = name then some value else member? name rest

/-- The order of texts by their code points, which is also the order of their UTF-8 bytes. -/
def keyLe (x y : String × Json) : Bool := !decide (y.1 < x.1)

/-- Of members with one name keeps the last. -/
def lastWins : List (String × Json) → List (String × Json)
  | [] => []
  | (key, value) :: rest =>
    if rest.any (·.1 == key) then lastWins rest else (key, value) :: lastWins rest

/-- The members without repetitions, in the order of their names. -/
def sortMembers (members : List (String × Json)) : List (String × Json) :=
  (lastWins members).mergeSort keyLe

mutual

/-- Every object of the tree with its members sorted and the last of equal names kept. -/
def sorted : Json → Json
  | array items => array (sortedItems items)
  | object members => object (sortMembers (sortedMembers members))
  | other => other

def sortedItems : List Json → List Json
  | [] => []
  | item :: rest => sorted item :: sortedItems rest

def sortedMembers : List (String × Json) → List (String × Json)
  | [] => []
  | (key, value) :: rest => (key, sorted value) :: sortedMembers rest

end

mutual

/-- How deep arrays and objects nest. -/
def depth : Json → Nat
  | array items => depthOfItems items + 1
  | object members => depthOfMembers members + 1
  | _ => 0

def depthOfItems : List Json → Nat
  | [] => 0
  | item :: rest => max (depth item) (depthOfItems rest)

def depthOfMembers : List (String × Json) → Nat
  | [] => 0
  | (_, value) :: rest => max (depth value) (depthOfMembers rest)

end

end Json

end RecordQuery
