import RecordQuery.Fault

/-! # Arities

How many arguments an operator takes. -/

namespace RecordQuery

/-- At least `least` and, if bounded, at most `most` arguments. -/
structure Arity where
  least : Nat
  most : Option Nat
deriving DecidableEq, Repr

namespace Arity

def exactly (n : Nat) : Arity := ⟨n, some n⟩

def atLeast (n : Nat) : Arity := ⟨n, none⟩

def between (least most : Nat) : Arity := ⟨least, some most⟩

def accepts (arity : Arity) (count : Nat) : Bool :=
  arity.least ≤ count &&
    match arity.most with
    | some most => count ≤ most
    | none => true

def text (arity : Arity) : String :=
  match arity.most with
  | some most => if most = arity.least then s!"{most}" else s!"{arity.least}..={most}"
  | none => s!"at least {arity.least}"

/-- A number of arguments that is not accepted. -/
def wrongCount (arity : Arity) (operator : String) (count : Nat) : Fault :=
  .malformed operator s!"expected {arity.text} argument(s), got {count}"

/-- Refuses a wrong number of arguments. -/
def check (arity : Arity) (operator : String) (count : Nat) : Except Fault Unit :=
  if arity.accepts count then .ok () else .error (arity.wrongCount operator count)

end Arity

end RecordQuery
