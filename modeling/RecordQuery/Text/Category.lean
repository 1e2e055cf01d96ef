import RecordQuery.Text.CharSet
import RecordQuery.Text.Category.Table

/-! # General categories

Each category under its short and its long name, together with the groups of categories. -/

namespace RecordQuery.Text.Category

/-- The categories with their loose names and code points. -/
def categories : List (String × String × List (Nat × Nat)) :=
  [("lu", "uppercaseletter", uppercaseLetter), ("ll", "lowercaseletter", lowercaseLetter),
   ("lt", "titlecaseletter", titlecaseLetter), ("lm", "modifierletter", modifierLetter),
   ("lo", "otherletter", otherLetter), ("mn", "nonspacingmark", nonspacingMark),
   ("mc", "spacingmark", spacingMark), ("me", "enclosingmark", enclosingMark),
   ("nd", "decimalnumber", decimalNumber), ("nl", "letternumber", letterNumber),
   ("no", "othernumber", otherNumber), ("pc", "connectorpunctuation", connectorPunctuation),
   ("pd", "dashpunctuation", dashPunctuation), ("ps", "openpunctuation", openPunctuation),
   ("pe", "closepunctuation", closePunctuation), ("pi", "initialpunctuation", initialPunctuation),
   ("pf", "finalpunctuation", finalPunctuation), ("po", "otherpunctuation", otherPunctuation),
   ("sm", "mathsymbol", mathSymbol), ("sc", "currencysymbol", currencySymbol),
   ("sk", "modifiersymbol", modifierSymbol), ("so", "othersymbol", otherSymbol),
   ("zs", "spaceseparator", spaceSeparator), ("zl", "lineseparator", lineSeparator),
   ("zp", "paragraphseparator", paragraphSeparator), ("cc", "control", control),
   ("cf", "format", format), ("co", "privateuse", privateUse)]

/-- The groups with their loose names and the short names of their members. -/
def groups : List (List String × List String) :=
  [(["l", "letter"], ["lu", "ll", "lt", "lm", "lo"]),
   (["lc", "casedletter"], ["lu", "ll", "lt"]),
   (["m", "mark", "combiningmark"], ["mn", "mc", "me"]),
   (["n", "number"], ["nd", "nl", "no"]),
   (["digit"], ["nd"]),
   (["p", "punctuation", "punct"], ["pc", "pd", "ps", "pe", "pi", "pf", "po"]),
   (["s", "symbol"], ["sm", "sc", "sk", "so"]),
   (["z", "separator"], ["zs", "zl", "zp"]),
   (["cntrl"], ["cc"])]

/-- The code points of the categories with the given short names. -/
def members (shorts : List String) : CharSet :=
  .ranges (shorts.flatMap fun short => ((categories.find? (·.1 == short)).map (·.2.2)).getD [])

/-- Every code point that has a category of the table or is a surrogate. -/
def assigned : CharSet :=
  .ranges ((0xD800, 0xDFFF) :: categories.flatMap (·.2.2))

def letters : CharSet := members ["lu", "ll", "lt", "lm", "lo"]

def marks : CharSet := members ["mn", "mc", "me"]

def numbers : CharSet := members ["nd", "nl", "no"]

/-- The code points of the category or the group with a loose name. -/
def ofName? (name : String) : Option CharSet :=
  match categories.find? fun (short, long, _) => short == name || long == name with
  | some (_, _, ranges) => some (.ranges ranges)
  | none =>
    match groups.find? fun (names, _) => names.contains name with
    | some (_, shorts) => some (members shorts)
    | none =>
      match name with
      | "any" => some .any
      | "ascii" => some .ascii
      | "assigned" => some assigned
      | "cn" | "unassigned" => some (.compl assigned)
      | "c" | "other" => some (.union (members ["cc", "cf", "co"]) (.compl assigned))
      | _ => none

end RecordQuery.Text.Category
