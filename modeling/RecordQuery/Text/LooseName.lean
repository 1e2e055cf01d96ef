/-! # Names of properties

Properties of characters and their values are named loosely: letter case, blanks, hyphens and
underscores do not matter, nor does a leading `is`. -/

namespace RecordQuery.Text

/-- A name reduced to what distinguishes it: without a leading `is`, blanks, hyphens, underscores,
in lower case. -/
def looseName (name : String) : String :=
  let letters (cs : List Char) : List Char :=
    (cs.filter fun c => c.toNat < 128 && c != ' ' && c != '_' && c != '-').map Char.toLower
  match name.toList with
  | i :: s :: rest =>
    if i.toLower = 'i' ∧ s.toLower = 's' then
      if letters rest = ['c'] then "isc" else String.ofList (letters rest)
    else String.ofList (letters name.toList)
  | cs => String.ofList (letters cs)

end RecordQuery.Text
