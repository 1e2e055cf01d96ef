/-! # Wildcard patterns

In a pattern `%` stands for any text and `_` for any one character; every other character stands for
itself. -/

namespace RecordQuery.Text.Like

/-- Whether some flag of a list is set, for the list and for each of its tails. -/
def anyFromHere : List Bool → List Bool
  | [] => []
  | flag :: rest =>
    let later := anyFromHere rest
    (flag || later.headD false) :: later

/-- For a text and each of its tails, the longest first, whether the pattern stands for it. -/
def matchesTails : List Char → List Char → List Bool
  | [], text => text.map (fun _ => false) ++ [true]
  | c :: pattern, text =>
    let tails := matchesTails pattern text
    if c = '%' then anyFromHere tails
    else
      List.zipWith (fun d rest => (c == '_' || c == d) && rest) text (tails.drop 1) ++ [false]

/-- The pattern stands for the whole text. -/
def isMatch (pattern text : String) : Bool :=
  (matchesTails pattern.toList text.toList).headD false

end RecordQuery.Text.Like
