import RecordQuery.Proofs.Operator.Uniformity

/-! # What operators read and refuse

Of their context the operators that are built in read the fields of the entity at most, and they
leave it as it is. They may refuse their arguments, but never because a field is out of reach. -/

namespace RecordQuery

open Fallible

/-- No way leads to a field, or a search cannot be carried out. -/
@[simp]
def Fault.IsOfSearch : Fault → Prop
  | unresolvableJoin _ _ _ _ | execution _ => True
  | _ => False

/-- The fault does not come from the arguments of an operator: no conversion has failed, and it is
not reported under the name that the operator is called by. -/
@[simp]
def Fault.IsForeign (called : String) : Fault → Prop
  | malformed operator _ => operator ≠ called
  | coercion _ _ _ | invalidSchema _ _ => False
  | _ => True

/-- Faults of a search do not come from arguments. -/
theorem Fault.IsOfSearch.isForeign {fault : Fault} (ofSearch : fault.IsOfSearch) (called : String) :
    fault.IsForeign called := by
  cases fault <;> simp_all

/-- The operator leaves its context as it is and makes the same of its arguments in each context for
the same fields. If it fails, its arguments are to blame. -/
structure Operator.Reads (operator : Operator) : Prop where
  same {context other : Context} (sameFields : context.metadata = other.metadata) (name : String)
    (args : List Operand) : operator.evaluate name args other =
      (operator.evaluate name args context).map fun made => (made.1, other)
  avoids (name : String) (args : List Operand) (context : Context) :
    Avoids (Fault.IsForeign name) (operator.evaluate name args context)

/-- An operator that only reads its context leaves it as it is. -/
theorem Operator.Reads.stays {operator : Operator} (reads : operator.Reads) {name : String}
    {args : List Operand} {context after : Context} {result : Operand}
    (evaluated : operator.evaluate name args context = .ok (result, after)) : after = context := by
  have same := reads.same (rfl : context.metadata = context.metadata) name args
  rw [evaluated] at same
  exact congrArg Prod.snd (Except.ok.inj same)

/-! ## Conversions -/

namespace Value

variable {called : String}

/-- That a value is of the wrong kind is a fault of the value. -/
theorem avoids_mismatch {α : Type} (value : Value) (target : String) :
    Avoids (Fault.IsForeign called) (value.mismatch target : Except Fault α) := by
  simp [mismatch]

/-- That a text cannot be read is a fault of the text. -/
theorem avoids_unreadable {α : Type} (value : Value) (target : String) (pattern : Option String) :
    Avoids (Fault.IsForeign called) (value.unreadable target pattern : Except Fault α) := by
  simp [unreadable]

/-- Where a moment has no text in the form of a pattern, the conversion is to blame. -/
theorem avoids_formatMoment (value : Value) (pattern : String) (moment : Calendar.Moment) :
    Avoids (Fault.IsForeign called) (value.formatMoment pattern moment) := by
  unfold formatMoment
  dsimp only
  split
  · simp
  · split <;> simp

/-- Where a floating point number is no decimal, the number is to blame. -/
theorem avoids_decimalOfFloat (value : Value) (x : Binary64) :
    Avoids (Fault.IsForeign called) (value.decimalOfFloat x) := by
  unfold decimalOfFloat
  split <;> simp

/-- Where a text is no decimal, the text is to blame. -/
theorem avoids_decimalOfText (text : String) :
    Avoids (Fault.IsForeign called) (decimalOfText text) := by
  unfold decimalOfText
  split <;> simp

/-- Where a text is no period, the text is to blame. -/
theorem avoids_periodOfText (text : String) :
    Avoids (Fault.IsForeign called) (periodOfText text) := by
  unfold periodOfText
  cases Period.ofText text <;> simp [Except.mapError]

/-- Where a value has no text, the value is to blame. -/
theorem avoids_toText (value : Value) (directives : Directives) :
    Avoids (Fault.IsForeign called) (value.toText directives) := by
  unfold toText
  split
  all_goals try split
  all_goals simp [avoids_formatMoment, avoids_decimalOfFloat, avoids_mismatch]

theorem avoids_toInteger (value : Value) : Avoids (Fault.IsForeign called) value.toInteger := by
  unfold toInteger
  dsimp only
  split <;> simp [avoids_mismatch]

theorem avoids_toFloat (value : Value) : Avoids (Fault.IsForeign called) value.toFloat := by
  unfold toFloat
  dsimp only
  split <;> simp [avoids_mismatch]

/-- Where a value is no decimal, the value is to blame. -/
theorem avoids_toDecimal (value : Value) : Avoids (Fault.IsForeign called) value.toDecimal := by
  unfold toDecimal
  split <;> simp [avoids_decimalOfFloat, avoids_decimalOfText, avoids_mismatch]

theorem avoids_toBoolean (value : Value) : Avoids (Fault.IsForeign called) value.toBoolean := by
  unfold toBoolean
  dsimp only
  split <;> simp [avoids_mismatch]

/-- Where a value is no date, the value is to blame. -/
theorem avoids_toDate (value : Value) (pattern : Option String) :
    Avoids (Fault.IsForeign called) (value.toDate pattern) := by
  unfold toDate
  dsimp only
  split
  · simp
  · simp
  · split <;> simp [avoids_unreadable]
  · exact avoids_mismatch value "Date"

theorem avoids_toInstant (value : Value) (pattern : Option String) :
    Avoids (Fault.IsForeign called) (value.toInstant pattern) := by
  unfold toInstant
  split
  · simp
  · simp
  · split <;> simp [avoids_unreadable]
  · exact avoids_mismatch value "DateTime"

theorem avoids_toTime (value : Value) (pattern : Option String) :
    Avoids (Fault.IsForeign called) (value.toTime pattern) := by
  unfold toTime
  dsimp only
  split
  · simp
  · simp
  · split <;> simp [avoids_unreadable]
  · exact avoids_mismatch value "Time"

theorem avoids_toPeriod (value : Value) : Avoids (Fault.IsForeign called) value.toPeriod := by
  unfold toPeriod
  split <;> simp [avoids_periodOfText, avoids_mismatch]

/-- Where a value is no member of an enumeration, the value is to blame. -/
theorem avoids_toMember (value : Value) (native : Option ValueType) :
    Avoids (Fault.IsForeign called) (value.toMember native) := by
  unfold toMember
  split
  · rename_i name members _
    have checked (member : String) : Avoids (Fault.IsForeign called)
        (if members.contains member = true then pure { typeName := name, member }
          else .error (.coercion value.text name s!"'{member}' is not a member of '{name}'") :
          Except Fault EnumMember) := by
      split <;> simp
    dsimp only
    split
    · split
      · exact checked _
      · simp
    · exact checked _
    · exact (avoids_mismatch value name).bind checked
  · simp

/-- A conversion fails through the value that is converted only. -/
theorem avoids_convert (value : Value) (target : Target) (native : Option ValueType)
    (directives : Directives) :
    Avoids (Fault.IsForeign called) (value.convert target native directives) := by
  cases target <;> simp only [convert, avoids_map_iff, avoids_ok, avoids_toText, avoids_toInteger,
    avoids_toFloat, avoids_toDecimal, avoids_toBoolean, avoids_toDate, avoids_toInstant,
    avoids_toTime, avoids_toPeriod, avoids_toMember]

/-- A count that is out of its limits is reported with the given fault. -/
theorem avoids_checkCount {count : Nat} {least most : Option Nat} {below above : Nat → String}
    {fault : String → Fault} (harmless : ∀ reason, ¬ (fault reason).IsForeign called) :
    Avoids (Fault.IsForeign called) (checkCount count least most below above fault) := by
  unfold checkCount
  dsimp only
  split
  · split
    · simp [harmless, -Fault.IsForeign]
    · split
      · split <;> simp [harmless, -Fault.IsForeign]
      · simp
  · split
    · split <;> simp [harmless, -Fault.IsForeign]
    · simp

/-- Where a value does not satisfy a field, the value is to blame. -/
theorem avoids_check (value : Value) (d : Descriptor) :
    Avoids (Fault.IsForeign called) (value.check d) := by
  unfold check
  extract_lets fault digits pattern
  have harmless : ∀ reason, ¬ (fault reason).IsForeign called := fun reason => id
  have ofDigits : ∀ done, Avoids (Fault.IsForeign called) (digits done) := by
    intro done
    unfold digits
    split
    · exact avoids_checkCount harmless
    · exact avoids_ok _
  have ofPattern : ∀ done, Avoids (Fault.IsForeign called) (pattern done) := by
    intro done
    unfold pattern
    split
    · split
      · split
        · simp [harmless, -Fault.IsForeign]
        · exact ofDigits ()
      · simp
    · exact ofDigits ()
  split
  · exact (avoids_checkCount harmless).bind ofPattern
  · exact ofPattern ()

mutual

/-- A literal is refused for a field through no fault but its own. -/
theorem avoids_coerce (d : Descriptor) (value : Value) :
    Avoids (Fault.IsForeign called) (coerce d value) := by
  unfold coerce
  split
  · simp
  · rename_i items
    exact avoids_map_iff.mpr (avoids_coerceItems d items)
  · exact (avoids_convert _ _ _ _).bind fun converted =>
      (avoids_check converted d).bind fun _ => avoids_ok _

/-- Items are refused for a field through no fault but their own. -/
theorem avoids_coerceItems (d : Descriptor) (items : List Value) :
    Avoids (Fault.IsForeign called) (coerceItems d items) := by
  unfold coerceItems
  split
  · simp
  · rename_i item rest
    exact (avoids_coerce d item).bind fun _ => (avoids_coerceItems d rest).bind fun _ => avoids_ok _

end

end Value

/-! ## Operands and comparands -/

/-- A wrong number of arguments is reported under the name of the operator. -/
theorem Arity.avoids_check (arity : Arity) (name : String) (count : Nat) :
    Avoids (Fault.IsForeign name) (arity.check name count) := by
  unfold check
  split <;> simp [wrongCount]

namespace Operand

/-- An argument that is no text is reported under the name of the operator. -/
theorem avoids_toText (name : String) (operand : Operand) :
    Avoids (Fault.IsForeign name) (operand.toText name) := by
  unfold toText
  split <;> simp

/-- An argument without a value is reported under the name of the operator. -/
theorem avoids_toExpr (name : String) (operand : Operand) :
    Avoids (Fault.IsForeign name) (operand.toExpr name) := by
  cases operand <;> simp [toExpr]

/-- An argument that is no condition is reported under the name of the operator. -/
theorem avoids_toPredicate (name : String) (operand : Operand) :
    Avoids (Fault.IsForeign name) (operand.toPredicate name) := by
  unfold toPredicate
  split
  · simp
  · simp
  · simp
  · split <;> simp
  · simp

/-- A subject that is neither a field nor an expression is reported under the name of the
operator. -/
theorem avoids_requireSubject (name : String) (operand : Operand) :
    Avoids (Fault.IsForeign name) (operand.requireSubject name) := by
  cases operand <;> simp [requireSubject]

end Operand

namespace Comparand

/-- An operand that cannot be compared is reported under the name of the operator. -/
theorem avoids_ofOperand (name : String) (against : Option Descriptor) (operand : Operand) :
    Avoids (Fault.IsForeign name) (ofOperand name against operand) := by
  unfold ofOperand
  split
  · split
    · exact avoids_map_iff.mpr (Value.avoids_coerce _ _)
    · exact avoids_ok _
  · exact avoids_map_iff.mpr (operand.avoids_toExpr name)

/-- Two operands that cannot be compared are reported under the name of the operator. -/
theorem avoids_pair (name : String) (left right : Operand) :
    Avoids (Fault.IsForeign name) (pair name left right) :=
  (avoids_ofOperand name _ left).bind fun _ =>
    (avoids_ofOperand name _ right).bind fun _ => avoids_ok _

/-- An operand that cannot be one side of a comparison is reported under the name of the
operator. -/
theorem avoids_side (name : String) (against : Option Descriptor) (trim : Bool)
    (operand : Operand) : Avoids (Fault.IsForeign name) (side name against trim operand) :=
  (avoids_ofOperand name against operand).bind fun _ => avoids_ok _

end Comparand

/-! ## Operators -/

namespace Operator

variable {kind : OperatorKind}

/-- An operator reads its context if what it makes depends on the fields only and its arguments are
to blame for failures. -/
theorem reader_reads {arity : Arity} {f : Context → String → List Operand → Except Fault Operand}
    (same : ∀ {context other : Context}, context.metadata = other.metadata → f context = f other)
    (avoids : ∀ context name args, Avoids (Fault.IsForeign name) (f context name args)) :
    (reader kind arity f).Reads where
  same {context other} sameFields name args := by
    simp only [reader, same sameFields]
    cases f other name args <;> rfl
  avoids name args context := (avoids context name args).bind fun _ => avoids_ok _

/-- An operator on one argument reads its context if what it makes of the argument depends on the
fields only. -/
theorem unary_reads {f : Context → String → Operand → Except Fault Operand}
    (same : ∀ {context other : Context}, context.metadata = other.metadata → f context = f other)
    (avoids : ∀ context name arg, Avoids (Fault.IsForeign name) (f context name arg)) :
    (unary kind f).Reads := by
  refine reader_reads (fun sameFields => ?_) fun context name args => ?_
  · funext name args
    rw [same sameFields]
  · split
    · exact avoids context name _
    · simp [Arity.wrongCount]

/-- An operator on two arguments reads its context if what it makes of them depends on the fields
only. -/
theorem binary_reads {f : Context → String → Operand → Operand → Except Fault Operand}
    (same : ∀ {context other : Context}, context.metadata = other.metadata → f context = f other)
    (avoids : ∀ context name left right,
      Avoids (Fault.IsForeign name) (f context name left right)) :
    (binary kind f).Reads := by
  refine reader_reads (fun sameFields => ?_) fun context name args => ?_
  · funext name args
    rw [same sameFields]
  · split
    · exact avoids context name _ _
    · simp [Arity.wrongCount]

/-- Operators that combine conditions do not need the context. -/
theorem combinator_reads (combine : List Predicate → Predicate) : (combinator combine).Reads :=
  reader_reads (fun _ => rfl) fun _ name args =>
    (Avoids.mapM (Operand.avoids_toPredicate name) args).bind fun _ => avoids_ok _

theorem negation_reads : negation.Reads :=
  unary_reads (fun _ => rfl) fun _ name arg =>
    (arg.avoids_toPredicate name).bind fun _ => avoids_ok _

theorem equality_reads (negate ignoreCase : Bool) : (equality negate ignoreCase).Reads :=
  binary_reads (fun _ => rfl) fun _ name left right =>
    (Comparand.avoids_pair name left right).bind fun _ => avoids_ok _

theorem ordering_reads (comparison : RecordQuery.Comparison) : (ordering comparison).Reads :=
  binary_reads (fun _ => rfl) fun _ name left right =>
    (Comparand.avoids_pair name left right).bind fun _ => avoids_ok _

theorem membership_reads (negate : Bool) : (membership negate).Reads := by
  rw [membership_eq]
  refine reader_reads (fun _ => rfl) fun _ name args => ?_
  cases args with
  | nil => simp
  | cons subject args =>
    refine (subject.avoids_requireSubject name).bind fun _ => ?_
    refine (Avoids.mapM (Comparand.avoids_side name _ _) _).bind fun values => ?_
    split
    · exact avoids_ok _
    · exact (Comparand.avoids_side name _ _ subject).bind fun _ => avoids_ok _

/-- Bounds that are not two are reported under the name of the operator. -/
theorem avoids_bounds (name : String) (args : List Operand) :
    Avoids (Fault.IsForeign name) (bounds name args) := by
  unfold bounds
  split <;> simp

theorem range_reads : range.Reads := by
  refine reader_reads (fun _ => rfl) fun _ name args => ?_
  cases args with
  | nil => simp
  | cons subject args =>
    refine (subject.avoids_requireSubject name).bind fun _ => ?_
    refine (avoids_bounds name args).bind fun (lower, upper) => ?_
    exact (Comparand.avoids_side name _ _ subject).bind fun _ =>
      (Comparand.avoids_side name _ _ lower).bind fun _ =>
        (Comparand.avoids_side name _ _ upper).bind fun _ => avoids_ok _

theorem matching_reads (occurrence : Occurrence) (ignoreCase : Bool) :
    (matching occurrence ignoreCase).Reads := by
  refine binary_reads (fun _ => rfl) fun _ name left right => ?_
  refine (Comparand.avoids_pair name left right).bind fun (subject, text) => ?_
  dsimp only
  split <;> simp

theorem lowerCase_reads : lowerCase.Reads := by
  refine unary_reads (fun _ => rfl) fun _ name arg => ?_
  split <;> simp

theorem nullCheck_reads (negate : Bool) : (nullCheck negate).Reads :=
  unary_reads (fun _ => rfl) fun _ name subject =>
    (subject.avoids_requireSubject name).bind fun _ =>
      (subject.avoids_toExpr name).bind fun _ => avoids_ok _

/-- A field that is no collection is reported under the name of the operator. -/
theorem avoids_requireCollection (name : String) (subject : Operand) :
    Avoids (Fault.IsForeign name) (requireCollection name subject) := by
  unfold requireCollection
  split
  · split <;> simp
  · simp

theorem emptyCheck_reads (negate : Bool) : (emptyCheck negate).Reads :=
  unary_reads (fun _ => rfl) fun _ name subject =>
    (subject.avoids_requireSubject name).bind fun _ =>
      (avoids_requireCollection name subject).bind fun _ =>
        (subject.avoids_toExpr name).bind fun _ => avoids_ok _

theorem date_reads : date.Reads := by
  refine unary_reads (fun _ => rfl) fun _ name arg => (arg.avoids_toText name).bind fun text => ?_
  split <;> simp

/-- Of its context `enum` reads the enumerations of the fields and the entity. -/
theorem enumeration_reads : enumeration.Reads := by
  refine binary_reads (fun sameFields => ?_) fun context name typeName member => ?_
  · simp only [sameFields, Context.entity]
  refine (typeName.avoids_toText name).bind fun typeName => ?_
  refine (member.avoids_toText name).bind fun member => ?_
  split
  · split <;> simp
  · simp

theorem bigDecimal_reads : bigDecimal.Reads := by
  refine unary_reads (fun _ => rfl) fun _ name arg => ?_
  dsimp only
  split <;> simp [Value.avoids_decimalOfText]

theorem period_reads : period.Reads :=
  unary_reads (fun _ => rfl) fun _ name arg =>
    (arg.avoids_toText name).bind fun text =>
      (Value.avoids_periodOfText text).bind fun _ => avoids_ok _

end Operator

/-- The operators that are built in read the fields of the entity at most. -/
theorem Registry.builtin_reads {name : String} {operator : Operator}
    (found : builtin.get? name = some operator) : operator.Reads := by
  have each : ∀ entry ∈ builtin.entries, entry.2.Reads := by
    unfold builtin
    simp only [List.forall_mem_cons]
    exact ⟨Operator.combinator_reads _, Operator.combinator_reads _, Operator.negation_reads,
      Operator.equality_reads _ _, Operator.equality_reads _ _, Operator.equality_reads _ _,
      Operator.equality_reads _ _, Operator.ordering_reads _, Operator.ordering_reads _,
      Operator.ordering_reads _, Operator.ordering_reads _, Operator.membership_reads _,
      Operator.membership_reads _, Operator.range_reads, Operator.matching_reads _ _,
      Operator.matching_reads _ _, Operator.matching_reads _ _, Operator.matching_reads _ _,
      Operator.matching_reads _ _, Operator.matching_reads _ _, Operator.lowerCase_reads,
      Operator.nullCheck_reads _, Operator.nullCheck_reads _, Operator.emptyCheck_reads _,
      Operator.emptyCheck_reads _, Operator.date_reads, Operator.enumeration_reads,
      Operator.bigDecimal_reads, Operator.period_reads, fun _ none => by cases none⟩
  exact each _ (mem_entries_of_get? found)

end RecordQuery
