import RecordQuery.Proofs.Fallible
import RecordQuery.Filter.Reader

/-! # Reading and writing filters

Reading accepts exactly the trees that filters of the grammar are written as, and it gives back the
filter. A list that stands as a literal does not start with a string, since such an array is a call;
lists inside a list are no literals of the filter and may start with anything. -/

namespace RecordQuery

open Fallible

/-- The whole numbers of the tree have sixty-four bits, and its other numbers are finite. -/
inductive Json.Exact : Json → Prop where
  | null : Exact .null
  | bool {value : Bool} : Exact (.bool value)
  | integer {n : Int} (least : Int64.minValue.toInt ≤ n) (most : n ≤ Int64.maxValue.toInt) :
      Exact (.integer n)
  | float {x : Binary64} (finite : x.isFinite = true) : Exact (.float x)
  | string {text : String} : Exact (.string text)
  | array {items : List Json} (each : ∀ item ∈ items, Exact item) : Exact (.array items)
  | object {members : List (String × Json)} (each : ∀ member ∈ members, Exact member.2) :
      Exact (.object members)

/-- The value is of a kind that JSON has, with lists made of such values. -/
inductive Value.Written : Value → Prop where
  | null : Written .null
  | boolean {value : Bool} : Written (.boolean value)
  | integer {n : Int64} : Written (.integer n)
  | float {x : Binary64} (finite : x.isFinite = true) : Written (.float x)
  | string {text : String} : Written (.string text)
  | list {items : List Value} (each : ∀ item ∈ items, Written item) : Written (.list items)

/-- The calls of the filter are calls of known operators other than the form of fields, and its
literals are of kinds that JSON has; none is a list that starts with a string. -/
inductive Filter.Written (grammar : Filter.Grammar) : Filter → Prop where
  | literal {value : Value} (written : value.Written)
      (noCall : ∀ head rest, value ≠ .list (.string head :: rest)) :
      Written grammar (.literal value)
  | field {path : String} : Written grammar (.field path)
  | call {operator : String} {args : List Filter} (known : grammar.isOperator operator = true)
      (noField : operator ≠ Filter.fieldForm) (each : ∀ arg ∈ args, Written grammar arg) :
      Written grammar (.call operator args)

/-- A call of the operator occurs in the filter. -/
inductive Filter.Calls (operator : String) : Filter → Prop where
  | here {args : List Filter} : Calls operator (.call operator args)
  | inside {other : String} {args : List Filter} {arg : Filter} (member : arg ∈ args)
      (calls : Calls operator arg) : Calls operator (.call other args)

/-! ## Values -/

namespace Value

theorem int64?_toInt (n : Int64) : int64? n.toInt = some n := by
  unfold int64?
  rw [if_pos ⟨Int64.minValue_le_toInt n, Int64.toInt_le n⟩, Int64.ofInt_toInt]

theorem toInt_of_int64? {n : Int} {m : Int64} (found : int64? n = some m) : m.toInt = n := by
  unfold int64? at found
  split at found
  · rename_i inRange
    cases found
    have least : Int64.minValue.toInt = -2 ^ 63 := rfl
    have most : Int64.maxValue.toInt = 2 ^ 63 - 1 := rfl
    exact Int64.toInt_ofInt_of_le (by omega) (by omega)
  · cases found

/-- A whole number within the bounds is kept exactly. -/
theorem ofInteger_of_exact {n : Int} (least : Int64.minValue.toInt ≤ n)
    (most : n ≤ Int64.maxValue.toInt) : ∃ m : Int64, ofInteger n = .integer m ∧ m.toInt = n := by
  have found : int64? n = some (Int64.ofInt n) := if_pos ⟨least, most⟩
  exact ⟨_, by rw [ofInteger, found], toInt_of_int64? found⟩

mutual

/-- A value that is read from exact numbers writes back to its tree. -/
theorem toJson_of_ofJson : ∀ {json : Json} {value : Value}, json.Exact →
    ofJson json = .ok value → value.toJson = json ∧ value.Written
  | .null, _, _, read => by
    cases read
    exact ⟨rfl, .null⟩
  | .bool _, _, _, read => by
    cases read
    exact ⟨rfl, .boolean⟩
  | .integer n, _, exact, read => by
    cases exact with
    | integer least most =>
      obtain ⟨m, made, same⟩ := ofInteger_of_exact least most
      rw [ofJson, made] at read
      cases read
      exact ⟨by rw [toJson, same], .integer⟩
  | .float x, _, exact, read => by
    cases exact with
    | float finite =>
      cases read
      exact ⟨by rw [toJson, if_pos finite], .float finite⟩
  | .string _, _, _, read => by
    cases read
    exact ⟨rfl, .string⟩
  | .array items, _, exact, read => by
    cases exact with
    | array each =>
      rw [ofJson] at read
      obtain ⟨values, readItems, rfl⟩ := map_eq_ok_iff.mp read
      obtain ⟨same, written⟩ := toJson_of_ofJsonItems each readItems
      exact ⟨by rw [toJson, same], .list written⟩
  | .object _, _, _, read => by
    rw [ofJson] at read
    cases read

/-- Items that are read from exact numbers write back to their trees. -/
theorem toJson_of_ofJsonItems : ∀ {items : List Json} {values : List Value},
    (∀ item ∈ items, item.Exact) → ofJsonItems items = .ok values →
      toJsonItems values = items ∧ ∀ value ∈ values, value.Written
  | [], _, _, read => by
    rw [ofJsonItems] at read
    cases read
    exact ⟨rfl, by simp⟩
  | item :: rest, _, exact, read => by
    rw [ofJsonItems] at read
    obtain ⟨first, readFirst, read⟩ := bind_eq_ok_iff.mp read
    obtain ⟨others, readRest, read⟩ := bind_eq_ok_iff.mp read
    cases read
    obtain ⟨exactFirst, exactRest⟩ := List.forall_mem_cons.mp exact
    obtain ⟨same, written⟩ := toJson_of_ofJson exactFirst readFirst
    obtain ⟨sameRest, writtenRest⟩ := toJson_of_ofJsonItems exactRest readRest
    exact ⟨by rw [toJsonItems, same, sameRest], List.forall_mem_cons.mpr ⟨written, writtenRest⟩⟩

end

/-- Items are read back if each of them is. -/
theorem ofJsonItems_toJsonItems {values : List Value}
    (each : ∀ value ∈ values, ofJson value.toJson = .ok value) :
    ofJsonItems (toJsonItems values) = .ok values := by
  induction values with
  | nil => rfl
  | cons value rest ih =>
    obtain ⟨first, later⟩ := List.forall_mem_cons.mp each
    rw [toJsonItems, ofJsonItems, first, ok_bind, ih later]
    rfl

/-- A value of a kind that JSON has is read back from what it is written as. -/
theorem ofJson_toJson {value : Value} (written : value.Written) :
    ofJson value.toJson = .ok value := by
  induction written with
  | integer => rw [toJson, ofJson, ofInteger, int64?_toInt]
  | float finite => rw [toJson, if_pos finite, ofJson]
  | list _ ih =>
    rw [toJson, ofJson, ofJsonItems_toJsonItems ih]
    rfl
  | _ => rfl

/-- Only a string is written as a string. -/
theorem Written.eq_string_of_toJson {value : Value} (written : value.Written) {text : String}
    (same : value.toJson = .string text) : value = .string text := by
  cases written with
  | float finite => simp [toJson, finite] at same
  | string =>
    cases same
    rfl
  | _ => simp [toJson] at same

/-- Only a list that starts with a string is written like a call. -/
theorem Written.noCall {value : Value} (written : value.Written)
    (noCall : ∀ head rest, value ≠ .list (.string head :: rest)) (head : String)
    (rest : List Json) : value.toJson ≠ .array (.string head :: rest) := by
  intro same
  cases written with
  | float finite => simp [toJson, finite] at same
  | @list items each =>
    cases items with
    | nil => simp [toJson, toJsonItems] at same
    | cons first others =>
      have start := (List.cons.inj (Json.array.inj same)).1
      have isString := (each first List.mem_cons_self).eq_string_of_toJson start
      exact noCall head others (by rw [isString])
  | _ => simp [toJson] at same

end Value

namespace Filter

/-! ## List literals -/

/-- An item of a list literal is read as any value, also where it is an array that starts with a
string. -/
theorem literalItem_eq_ok_iff {json : Json} {value : Value} :
    literalItem json = .ok value ↔ Value.ofJson json = .ok value := by
  cases json <;> simp [literalItem, Value.ofJson]

/-- The items of a list literal are read like the items of any list. -/
theorem mapM_literalItem_eq_ok_iff {items : List Json} {values : List Value} :
    items.mapM literalItem = .ok values ↔ Value.ofJsonItems items = .ok values := by
  induction items generalizing values with
  | nil => rfl
  | cons item rest ih =>
    simp only [List.mapM_cons, Value.ofJsonItems, bind_eq_ok_iff, literalItem_eq_ok_iff, ih]

/-! ## What reading accepts -/

variable {grammar : Grammar} {depth : Nat}

/-- Anything but a call is read as a literal. -/
theorem readAt_eq_ok_iff_of_noCall {json : Json} {filter : Filter}
    (noCall : ∀ head rest, json ≠ .array (.string head :: rest)) :
    readAt grammar depth json = .ok filter ↔ depth ≤ grammar.maxDepth ∧
      ∃ value, Value.ofJson json = .ok value ∧ .literal value = filter := by
  rw [readAt.eq_def]
  by_cases tooDeep : grammar.maxDepth < depth
  · simp only [if_pos tooDeep, reduceCtorEq, false_iff, not_and]
    omega
  rw [if_neg tooDeep, and_iff_right (by omega)]
  split
  · rename_i head rest
    exact absurd rfl (noCall head rest)
  · simp only [map_eq_ok_iff, mapM_literalItem_eq_ok_iff, Value.ofJson]
    grind
  · simp [Value.ofJson]
  · exact map_eq_ok_iff

/-- Nothing is read below the depth that is allowed. -/
theorem le_of_readAt {json : Json} {filter : Filter}
    (read : readAt grammar depth json = .ok filter) : depth ≤ grammar.maxDepth := by
  unfold readAt at read
  split at read
  · cases read
  · omega

/-- An array that starts with a string is a field or a call of a known operator. -/
theorem call_of_readAt {head : String} {args : List Json} {filter : Filter}
    (read : readAt grammar depth (.array (.string head :: args)) = .ok filter) :
    (∃ path, head = fieldForm ∧ args = [.string path] ∧ filter = .field path) ∨
      head ≠ fieldForm ∧ grammar.isOperator head = true ∧
        ∃ found, readArgsAt grammar (depth + 1) args = .ok found ∧ filter = .call head found := by
  unfold readAt at read
  split at read
  · cases read
  split at read
  · rename_i other rest same
    cases same
    split at read
    · rename_i isField
      split at read
      · cases read
        exact .inl ⟨_, isField, rfl, rfl⟩
      · cases read
    · rename_i noField
      split at read
      · rename_i known
        obtain ⟨found, each, rfl⟩ := map_eq_ok_iff.mp read
        exact .inr ⟨noField, known, found, each, rfl⟩
      · cases read
  · rename_i items other same
    cases same
    exact absurd rfl (other head args)
  · rename_i same
    cases same
  · rename_i other _ _
    exact absurd rfl (other head args)

/-- What is no call is read as a literal. -/
theorem eq_literal_of_readAt {json : Json} {filter : Filter}
    (noCall : ∀ head rest, json ≠ .array (.string head :: rest))
    (read : readAt grammar depth json = .ok filter) : ∃ value, filter = .literal value := by
  obtain ⟨_, value, _, same⟩ := (readAt_eq_ok_iff_of_noCall noCall).mp read
  exact ⟨value, same.symm⟩

mutual

/-- A filter that is read calls known operators only and nests no deeper than allowed. -/
theorem calls_of_readAt {json : Json} {depth : Nat} {filter : Filter}
    (read : readAt grammar depth json = .ok filter) :
    (∀ {operator}, filter.Calls operator → grammar.isOperator operator = true) ∧
      depth + filter.depth ≤ grammar.maxDepth + 1 := by
  have fits := le_of_readAt read
  -- The arguments of a call are read one level deeper, which is what its depth counts.
  by_cases isCall : ∃ head args, json = .array (.string head :: args)
  · obtain ⟨head, args, rfl⟩ := isCall
    rcases call_of_readAt read with ⟨path, rfl, rfl, rfl⟩ | ⟨_, known, found, readArgs, rfl⟩
    · exact ⟨fun calls => (by cases calls), by rw [Filter.depth]; omega⟩
    · obtain ⟨knownArgs, fitsArgs⟩ := calls_of_readArgsAt (by omega) readArgs
      refine ⟨fun calls => ?_, by rw [Filter.depth]; omega⟩
      cases calls with
      | here => exact known
      | inside member calls => exact knownArgs _ member calls
  · obtain ⟨value, rfl⟩ :=
      eq_literal_of_readAt (fun head args same => isCall ⟨head, args, same⟩) read
    exact ⟨fun calls => (by cases calls), by rw [Filter.depth]; omega⟩
termination_by sizeOf json

/-- Arguments that are read call operators of the grammar only, and they nest no deeper than
allowed. -/
theorem calls_of_readArgsAt {items : List Json} {depth : Nat} {args : List Filter}
    (fits : depth ≤ grammar.maxDepth + 1) (read : readArgsAt grammar depth items = .ok args) :
    (∀ arg ∈ args, ∀ {operator}, arg.Calls operator → grammar.isOperator operator = true) ∧
      depth + depthOfArgs args ≤ grammar.maxDepth + 1 := by
  cases items with
  | nil =>
    rw [readArgsAt] at read
    cases read
    exact ⟨by simp, fits⟩
  | cons item rest =>
    rw [readArgsAt] at read
    obtain ⟨first, readFirst, read⟩ := bind_eq_ok_iff.mp read
    obtain ⟨others, readRest, read⟩ := bind_eq_ok_iff.mp read
    cases read
    obtain ⟨known, fitsFirst⟩ := calls_of_readAt readFirst
    obtain ⟨knownRest, fitsRest⟩ := calls_of_readArgsAt fits readRest
    refine ⟨List.forall_mem_cons.mpr ⟨known, knownRest⟩, ?_⟩
    rw [depthOfArgs]
    omega
termination_by sizeOf items

end

/-- A literal that is read is of the grammar and writes back to its tree. -/
theorem toJson_of_readAt_literal {json : Json} {filter : Filter} (exact : json.Exact)
    (noCall : ∀ head rest, json ≠ .array (.string head :: rest))
    (read : readAt grammar depth json = .ok filter) :
    filter.toJson = json ∧ filter.Written grammar := by
  obtain ⟨_, value, found, rfl⟩ := (readAt_eq_ok_iff_of_noCall noCall).mp read
  obtain ⟨same, written⟩ := Value.toJson_of_ofJson exact found
  refine ⟨same, .literal written ?_⟩
  rintro head rest rfl
  exact noCall head (Value.toJsonItems rest) same.symm

mutual

/-- A filter that is read is of the grammar, nests no deeper than allowed and writes back to its
tree. -/
theorem toJson_of_readAt {json : Json} {depth : Nat} {filter : Filter} (exact : json.Exact)
    (read : readAt grammar depth json = .ok filter) :
    filter.toJson = json ∧ filter.Written grammar ∧
      depth + filter.depth ≤ grammar.maxDepth + 1 := by
  have fits := (calls_of_readAt read).2
  by_cases isCall : ∃ head args, json = .array (.string head :: args)
  · obtain ⟨head, args, rfl⟩ := isCall
    cases exact with
    | array each =>
      rcases call_of_readAt read with ⟨path, rfl, rfl, rfl⟩ | ⟨noField, known, found, readArgs, rfl⟩
      · exact ⟨rfl, .field, fits⟩
      · have exactArgs := (List.forall_mem_cons.mp each).2
        obtain ⟨same, written⟩ := toJson_of_readArgsAt exactArgs readArgs
        exact ⟨by rw [toJson, same], .call known noField written, fits⟩
  · obtain ⟨same, written⟩ := toJson_of_readAt_literal exact
      (fun head args same => isCall ⟨head, args, same⟩) read
    exact ⟨same, written, fits⟩
termination_by sizeOf json

/-- Arguments that are read are of the grammar and write back to their trees. -/
theorem toJson_of_readArgsAt {items : List Json} {depth : Nat} {args : List Filter}
    (exact : ∀ item ∈ items, item.Exact) (read : readArgsAt grammar depth items = .ok args) :
    argsToJson args = items ∧ ∀ arg ∈ args, arg.Written grammar := by
  cases items with
  | nil =>
    rw [readArgsAt] at read
    cases read
    exact ⟨rfl, by simp⟩
  | cons item rest =>
    rw [readArgsAt] at read
    obtain ⟨first, readFirst, read⟩ := bind_eq_ok_iff.mp read
    obtain ⟨others, readRest, read⟩ := bind_eq_ok_iff.mp read
    cases read
    obtain ⟨exactFirst, exactRest⟩ := List.forall_mem_cons.mp exact
    obtain ⟨same, written, _⟩ := toJson_of_readAt exactFirst readFirst
    obtain ⟨sameRest, writtenRest⟩ := toJson_of_readArgsAt exactRest readRest
    exact ⟨by rw [argsToJson, same, sameRest], List.forall_mem_cons.mpr ⟨written, writtenRest⟩⟩
termination_by sizeOf items

end

/-! ## What is written is read back -/

/-- No argument nests deeper than the arguments together. -/
theorem depth_le_depthOfArgs {arg : Filter} {args : List Filter} (member : arg ∈ args) :
    arg.depth ≤ depthOfArgs args := by
  induction args with
  | nil => cases member
  | cons first rest ih =>
    rw [depthOfArgs]
    rcases List.mem_cons.mp member with rfl | later
    · exact Nat.le_max_left _ _
    · exact Nat.le_trans (ih later) (Nat.le_max_right _ _)

/-- Arguments are read back if each of them is. -/
theorem readArgsAt_argsToJson {args : List Filter}
    (each : ∀ arg ∈ args, readAt grammar depth arg.toJson = .ok arg) :
    readArgsAt grammar depth (argsToJson args) = .ok args := by
  induction args with
  | nil => rw [argsToJson, readArgsAt]
  | cons arg rest ih =>
    obtain ⟨first, later⟩ := List.forall_mem_cons.mp each
    rw [argsToJson, readArgsAt, first, ok_bind, ih later]
    rfl

/-- A filter of the grammar that nests no deeper than allowed is read back from what it is written
as. -/
theorem readAt_toJson {filter : Filter} (written : filter.Written grammar)
    (fits : depth + filter.depth ≤ grammar.maxDepth + 1) :
    readAt grammar depth filter.toJson = .ok filter := by
  induction written generalizing depth with
  | @literal value written noCall =>
    rw [Filter.depth] at fits
    rw [toJson, readAt_eq_ok_iff_of_noCall (written.noCall noCall)]
    exact ⟨by omega, value, Value.ofJson_toJson written, rfl⟩
  | field =>
    rw [Filter.depth] at fits
    rw [toJson, readAt.eq_def, if_neg (by omega)]
    rfl
  | @call operator args known noField _ ih =>
    rw [Filter.depth] at fits
    have each : ∀ arg ∈ args, readAt grammar (depth + 1) arg.toJson = .ok arg := by
      intro arg member
      have below := depth_le_depthOfArgs member
      exact ih arg member (by omega)
    rw [toJson, readAt.eq_def, if_neg (by omega)]
    simp only [if_neg noField, if_pos known, readArgsAt_argsToJson each]
    rfl

/-- A tree with exact numbers is read as a filter if and only if the filter is written as that tree,
nests no deeper than allowed and is of the grammar. -/
theorem ofJson_eq_ok_iff_written {json : Json} (exact : json.Exact) {filter : Filter} :
    ofJson grammar json = .ok filter ↔
      filter.toJson = json ∧ filter.depth ≤ grammar.maxDepth ∧ filter.Written grammar := by
  constructor
  · intro read
    obtain ⟨same, written, fits⟩ := toJson_of_readAt exact read
    exact ⟨same, by omega, written⟩
  · rintro ⟨rfl, fits, written⟩
    exact readAt_toJson written (by omega)

end Filter

namespace Sample

/-- Two comparisons and a way to put them together, one level deep. -/
def grammar : Filter.Grammar where
  isOperator name := ["and", "eq", "in"].contains name
  maxDepth := 3

/-- A call of two calls. The second one has a list literal with a list inside that starts with a
string. -/
def bothJson : Json :=
  .array [.string "and",
    .array [.string "eq", .array [.string "field", .string "name"], .string "Rex"],
    .array [.string "in", .array [.string "field", .string "age"],
      .array [.integer 3, .array [.string "old"]]]]

/-- The filter that the tree stands for. -/
def both : Filter :=
  .call "and" [
    .call "eq" [.field "name", .literal (.string "Rex")],
    .call "in" [.field "age", .literal (.list [.integer 3, .list [.string "old"]])]]

theorem bothJson_exact : bothJson.Exact := by
  have field : ∀ path, (Json.array [.string "field", .string path]).Exact := by
    intro path
    refine .array ?_
    simp only [List.forall_mem_cons]
    exact ⟨.string, .string, by simp⟩
  have nested : (Json.array [.integer 3, .array [.string "old"]]).Exact := by
    refine .array ?_
    simp only [List.forall_mem_cons]
    exact ⟨.integer (by decide) (by decide), .array (by simp [Json.Exact.string]), by simp⟩
  refine .array ?_
  simp only [List.forall_mem_cons]
  refine ⟨.string, .array ?_, .array ?_, by simp⟩
  · simp only [List.forall_mem_cons]
    exact ⟨.string, field "name", .string, by simp⟩
  · simp only [List.forall_mem_cons]
    exact ⟨.string, field "age", nested, by simp⟩

end Sample

namespace Filter

open Sample in
/-- At the greatest depth that is allowed, the filter is read and writes back to its tree. -/
theorem ofJson_both :
    (bothJson.Exact ∧ ofJson grammar bothJson = .ok both) ∧
      both.toJson = bothJson ∧ both.depth ≤ grammar.maxDepth ∧ both.Written grammar := by
  have read : ofJson grammar bothJson = .ok both := rfl
  exact ⟨⟨bothJson_exact, read⟩, (ofJson_eq_ok_iff_written bothJson_exact).mp read⟩

end Filter

end RecordQuery
