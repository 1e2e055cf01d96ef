import RecordQuery.Coercion
import RecordQuery.Operator.Basic

/-! # Operators that make literals

Dates, members of enumerations, decimals and periods, which JSON does not have. -/

namespace RecordQuery.Operator

/-- The instant of a text. -/
def date : Operator :=
  unary .valueTransform fun _ name arg => do
    let text ← arg.toText name
    match Value.instantOfText? none (Text.trim text) with
    | some instant => return .literal (.dateTime instant)
    | none =>
      throw (.coercion (Value.string text).text "DateTime" "not an ISO-8601 timestamp")

/-- A member of an enumeration that some field of the entity has. -/
def enumeration : Operator :=
  binary .valueTransform fun context name typeName member => do
    let typeName ← typeName.toText name
    let member ← member.toText name
    match context.metadata.findEnum? typeName with
    | some (.enumeration fullName members) =>
      if members.contains member then
        return .literal (.enumMember { typeName := fullName, member })
      else
        throw (.coercion (Value.string member).text fullName
          s!"'{member}' is not a member of '{fullName}'")
    | _ =>
      throw (.coercion (Value.string member).text typeName
        s!"no enumeration '{typeName}' on '{context.entity}'")

/-- The decimal of a text or number. -/
def bigDecimal : Operator :=
  unary .valueTransform fun _ name arg =>
    let fromText (value : Value) : Except Fault Operand :=
      (Value.decimalOfText value.plainText).map fun d => .literal (.decimal d)
    match arg with
    | .literal (.string s) => fromText (.string s)
    | .literal (.integer n) => fromText (.integer n)
    | .literal (.float x) => fromText (.float x)
    | .literal (.decimal d) => fromText (.decimal d)
    | other =>
      .error (.malformed name s!"expected a string or number literal, got {other.kindName}")

/-- The period of a text. -/
def period : Operator :=
  unary .valueTransform fun _ name arg => do
    return .literal (.period (← Value.periodOfText (← arg.toText name)))

end RecordQuery.Operator
