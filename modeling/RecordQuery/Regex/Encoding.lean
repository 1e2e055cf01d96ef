/-! # Encoded ranges of characters

Ranges of code points as sequences of ranges of bytes in UTF-8, and automata that recognise such
sequences. -/

namespace RecordQuery.Regex.Encoding

/-- A range of bytes. -/
abbrev Bytes := Nat × Nat

/-- The sequences for the numbers from `low` to `high` with one leading byte and `more` bytes of six
bits each; `base` marks the leading byte. A sequence stands for every choice of bytes from its
ranges. -/
def sequences (base : Nat) : Nat → Nat → Nat → List (List Bytes)
  | 0, low, high => [[(base + low, base + high)]]
  | more + 1, low, high =>
    let unit := Nat.pow 64 (more + 1)
    let first := low / unit
    let last := high / unit
    let within (lead low high : Nat) : List (List Bytes) :=
      (sequences 0x80 more low high).map ((base + lead, base + lead) :: ·)
    if first = last then within first (low % unit) (high % unit)
    else
      let whole := if low % unit = 0 then first else first + 1
      let stop := if high % unit = unit - 1 then last + 1 else last
      (if whole = first then [] else within first (low % unit) (unit - 1)) ++
        (if whole < stop then
          [(base + whole, base + stop - 1) :: List.replicate (more + 1) (0x80, 0xBF)]
        else []) ++
        (if stop = last then within last 0 (high % unit) else [])

/-- The lengths of encoded characters: the first and the last code point of each, the mark of the
leading byte and the number of further bytes. -/
def lengths : List (Nat × Nat × Nat × Nat) :=
  [(0, 0x7F, 0, 0), (0x80, 0x7FF, 0xC0, 1), (0x800, 0xFFFF, 0xE0, 2), (0x10000, 0x10FFFF, 0xF0, 3)]

/-- The sequences of a range of code points, in order. -/
def ofRange (range : Nat × Nat) : List (List Bytes) :=
  lengths.flatMap fun (first, last, base, more) =>
    let low := max first range.1
    let high := min last range.2
    if low ≤ high then sequences base more low high else []

/-- The number of bytes that two sequences have in common at their beginnings. -/
def commonLength : List Bytes → List Bytes → Nat
  | a :: as, b :: bs => if a = b then commonLength as bs + 1 else 0
  | _, _ => 0

/-- The number of the beginnings of sequences in order, each counted once. -/
def beginnings : List (List Bytes) → Nat
  | [] => 0
  | [last] => last.length
  | first :: second :: rest =>
    first.length - commonLength first second + beginnings (second :: rest)

/-- A state of an automaton: the ranges of bytes that it accepts, each with the number of the next
state. -/
abbrev State := List (Bytes × Nat)

/-- Adds the states that accept the given sequences, which are in order, unless there are such;
`fuel` bounds their length. The result is the number of the state that begins; number 0 accepts. -/
def addStates : Nat → List (List Bytes) → StateM (List State) Nat
  | 0, _ => return 0
  | fuel + 1, sequences => do
    if sequences.all List.isEmpty then return 0
    let runs := sequences.splitBy fun a b => a.head? == b.head?
    let mut state : State := []
    for run in runs do
      match run.head?.bind List.head? with
      | some bytes => state := state ++ [(bytes, ← addStates fuel (run.map List.tail))]
      | none => pure ()
    let states ← get
    match states.idxOf? state with
    | some i => return i + 1
    | none =>
      set (states ++ [state])
      return states.length + 1

/-- The states of the least automaton for sequences in order. -/
def states (sequences : List (List Bytes)) : List State :=
  ((addStates 5 sequences).run []).2

end RecordQuery.Regex.Encoding
