import Mathlib.Data.List.Infix
import RecordQuery.Proofs.Catalog.Way

/-! # Texts of steps

Steps are told apart by their texts only as far as these differ. If no name has a sign that its step
may end at, different steps have different texts. -/

namespace RecordQuery

namespace Traversal

/-- At the start of some ways, different steps have different texts. -/
def Unambiguous (ways : List Traversal) : Prop :=
  ∀ first ∈ ways, ∀ second ∈ ways, ∀ steps ∈ first.inits, ∀ others ∈ second.inits,
    text steps = text others → steps = others

instance : DecidablePred Unambiguous := fun ways =>
  inferInstanceAs (Decidable (∀ first ∈ ways, ∀ second ∈ ways, ∀ steps ∈ first.inits,
    ∀ others ∈ second.inits, text steps = text others → steps = others))

theorem text_append (steps more : Traversal) : text (steps ++ more) = text steps ++ text more := by
  rw [text, List.map_append, String.join_append, text, text]

theorem text_cons (step : Step) (rest : Traversal) :
    text (step :: rest) = step.text ++ text rest := by
  rw [text, List.map_cons, String.join_cons, text]

theorem text_single (step : Step) : text [step] = step.text := by
  rw [text_cons, text, List.map_nil, String.join_nil, String.append_empty]

end Traversal

/-- The signs that steps begin with. -/
def Step.isSign (c : Char) : Bool := c == '<' || c == '>' || c == '.'

/-- No type that declares a field has `>` in its name, and no field has one of the signs in its. -/
def Schema.PlainNames (schema : Schema) : Prop :=
  ∀ entity ∈ schema.entities, ∀ field ∈ entity.fields,
    (∀ c ∈ entity.name.toList, c ≠ '>') ∧ ∀ c ∈ field.name.toList, Step.isSign c = false

-- The characters of the names are looked at, not all characters there are.
instance : DecidablePred Schema.PlainNames := fun schema =>
  decidable_of_iff ((schema.entities.all fun entity => entity.fields.all fun field =>
      entity.name.toList.all (· != '>') && field.name.toList.all (!Step.isSign ·)) = true)
    (by simp [Schema.PlainNames])

/-- In a schema with plain names, the types that declare fields and the fields have plain names. -/
theorem Schema.PlainNames.of_declares {schema : Schema} (plain : schema.PlainNames) {type : String}
    {field : Field} (declares : schema.Declares type field) :
    (∀ c ∈ type.toList, c ≠ '>') ∧ ∀ c ∈ field.name.toList, Step.isSign c = false := by
  obtain ⟨entity, found, member⟩ := declares
  obtain ⟨listed, rfl⟩ := mem_of_get? found
  exact plain entity listed field member

namespace Step

/-- The text of a step up to its name, the name, and the rest of the text. -/
def parts : Step → Char × String × List Char
  | narrow type => ('<', type, ['>'])
  | join relation => ('>', relation, [])
  | embedded name => ('.', name, [])
  | attr name => ('.', name, [])

/-- The text of a step is its sign, its name and the sign behind it, if there is one. -/
theorem toList_text (step : Step) :
    step.text.toList = step.parts.1 :: step.parts.2.1.toList ++ step.parts.2.2 := by
  cases step <;> simp [text, parts]

/-- No step has an empty text. -/
theorem text_ne_empty (step : Step) : step.text ≠ "" := by
  intro empty
  have chars := step.toList_text
  simp [empty] at chars

/-- The name of a step ends where one of these signs begins. -/
def endsAt : Step → Char → Bool
  | narrow _ => (· == '>')
  | _ => isSign

/-- Where names are plain, the name in a step does not have a sign that the step ends at. -/
theorem endsAt_eq_false_of_follows {schema : Schema} (plain : schema.PlainNames) {step : Step}
    (follows : step.Follows schema) : ∀ c ∈ step.parts.2.1.toList, step.endsAt c = false := by
  cases follows with
  | narrow declares => simpa [parts, endsAt] using (plain.of_declares declares).1
  | join declares => exact (plain.of_declares declares).2
  | embedded declares => exact (plain.of_declares declares).2

/-- Steps with one sign end at the same signs. -/
theorem endsAt_eq {step other : Step} (sign : step.parts.1 = other.parts.1) :
    step.endsAt = other.endsAt := by
  cases step <;> cases other <;> first | rfl | simp [parts] at sign

/-- Steps between sources are told apart by their signs and names. -/
theorem eq_of_parts {schema : Schema} {step other : Step} (follows : step.Follows schema)
    (followsToo : other.Follows schema) (sign : step.parts.1 = other.parts.1)
    (name : step.parts.2.1 = other.parts.2.1) : step = other := by
  cases follows <;> cases followsToo <;> simp_all [parts]

end Step

namespace Traversal

/-- What follows a name is empty or begins with a sign that the name ends at. -/
def StartsWith (isEnd : Char → Bool) (cs : List Char) : Prop := ∀ c ∈ cs.head?, isEnd c = true

/-- Two names that end at signs are equal if the texts from them on are. -/
theorem append_cancel {isEnd : Char → Bool} {name other rest others : List Char}
    (plain : ∀ c ∈ name, isEnd c = false) (plainToo : ∀ c ∈ other, isEnd c = false)
    (starts : StartsWith isEnd rest) (startsToo : StartsWith isEnd others)
    (same : name ++ rest = other ++ others) : name = other ∧ rest = others := by
  induction name generalizing other with
  | nil =>
    cases other with
    | nil => exact ⟨rfl, same⟩
    | cons c cs =>
      have sign := starts c (by simp [show rest = c :: (cs ++ others) from same])
      simp [plainToo c List.mem_cons_self] at sign
  | cons c cs ih =>
    cases other with
    | nil =>
      have sign := startsToo c (by simp [← show c :: (cs ++ rest) = others from same])
      simp [plain c List.mem_cons_self] at sign
    | cons d ds =>
      obtain ⟨rfl, later⟩ := List.cons.inj same
      obtain ⟨rfl, sameRest⟩ := ih (fun e inside => plain e (List.mem_cons_of_mem _ inside))
        (fun e inside => plainToo e (List.mem_cons_of_mem _ inside)) later
      exact ⟨rfl, sameRest⟩

/-- The text of at least one step is not empty. -/
theorem text_cons_ne_empty (step : Step) (rest : Traversal) : text (step :: rest) ≠ "" := by
  rw [text_cons]
  exact fun empty => step.text_ne_empty (String.append_eq_empty_iff.mp empty).1

/-- Behind the name of the first step come the sign behind it and the text of the other steps. -/
theorem toList_text_cons (step : Step) (rest : Traversal) :
    (text (step :: rest)).toList =
      step.parts.1 :: (step.parts.2.1.toList ++ (step.parts.2.2 ++ (text rest).toList)) := by
  rw [text_cons, String.toList_append, Step.toList_text, List.cons_append, List.cons_append,
    List.append_assoc]

/-- The text of steps begins with the sign of a step. -/
theorem startsWith_text (steps : Traversal) : StartsWith Step.isSign (text steps).toList := by
  cases steps with
  | nil => simp [StartsWith, text]
  | cons step rest =>
    rw [toList_text_cons]
    cases step <;> simp [StartsWith, Step.parts, Step.isSign]

/-- Behind the name of a step comes a sign that the step ends at. -/
theorem startsWith_behind_name (step : Step) (rest : Traversal) :
    StartsWith step.endsAt (step.parts.2.2 ++ (text rest).toList) := by
  cases step with
  | narrow type => simp [StartsWith, Step.parts, Step.endsAt]
  | _ => exact startsWith_text rest

/-- If names are plain, the text of steps between sources determines the steps. -/
theorem text_injective {schema : Schema} (plain : schema.PlainNames) {steps others : Traversal}
    (way : IsWay schema steps) (wayToo : IsWay schema others) (same : text steps = text others) :
    steps = others := by
  induction steps generalizing others with
  | nil =>
    cases others with
    | nil => rfl
    | cons step rest => exact absurd same.symm (text_cons_ne_empty step rest)
  | cons step rest ih =>
    cases others with
    | nil => exact absurd same (text_cons_ne_empty step rest)
    | cons other others =>
      have chars := congrArg String.toList same
      rw [toList_text_cons, toList_text_cons] at chars
      obtain ⟨sign, chars⟩ := List.cons.inj chars
      obtain ⟨name, behind⟩ := append_cancel (Step.endsAt_eq_false_of_follows plain way.head)
        (Step.endsAt_eq sign ▸ Step.endsAt_eq_false_of_follows plain wayToo.head)
        (startsWith_behind_name step rest)
        (Step.endsAt_eq sign ▸ startsWith_behind_name other others) chars
      have sameStep : step = other :=
        Step.eq_of_parts way.head wayToo.head sign (String.toList_inj.mp name)
      subst sameStep
      have later : text rest = text others :=
        String.toList_inj.mp (List.append_cancel_left behind)
      rw [ih way.tail wayToo.tail later]

/-- Where names are plain, different steps on any ways have different texts. -/
theorem unambiguous_of_plainNames {schema : Schema} (plain : schema.PlainNames)
    {ways : List Traversal} (each : ∀ way ∈ ways, IsWay schema way) : Unambiguous ways := by
  intro first inWays second inWaysToo steps start others startToo same
  have way := (each first inWays).of_start ((List.mem_inits _ _).mp start)
  have wayToo := (each second inWaysToo).of_start ((List.mem_inits _ _).mp startToo)
  exact text_injective plain way wayToo same

end Traversal

end RecordQuery
