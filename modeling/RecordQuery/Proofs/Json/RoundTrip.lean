import RecordQuery.Json.Writer
import RecordQuery.Proofs.Json.ReadBack

/-! # Trees that are written and read back

A tree whose numbers are whole ones of at most 64 bits is read back from its compact and from its
indented form, if it does not nest deeper than the reader allows. -/

namespace RecordQuery

namespace Json

variable {depth : Nat} {json : Json}

/-! ## Written forms -/

/-- No item of an array is deeper than the items together. -/
theorem depth_le_of_mem_items {item : Json} {items : List Json} (member : item ∈ items) :
    item.depth ≤ depthOfItems items := by
  induction items with
  | nil => cases member
  | cons first rest ih =>
    rw [depthOfItems]
    rcases List.mem_cons.mp member with rfl | later
    · exact Nat.le_max_left _ _
    · exact le_trans (ih later) (Nat.le_max_right _ _)

/-- No value in an object is deeper than the members together. -/
theorem depth_le_of_mem_members {member : String × Json} {members : List (String × Json)}
    (found : member ∈ members) : member.2.depth ≤ depthOfMembers members := by
  induction members with
  | nil => cases found
  | cons first rest ih =>
    rw [depthOfMembers]
    rcases List.mem_cons.mp found with rfl | later
    · exact Nat.le_max_left _ _
    · exact le_trans (ih later) (Nat.le_max_right _ _)

theorem compactItems_eq_map (items : List Json) : compactItems items = items.map compact := by
  induction items with
  | nil => rfl
  | cons item rest ih => rw [compactItems, ih, List.map_cons]

/-- The members of an object are written one by one, each as its quoted name with the value behind a
colon. -/
theorem compactMembers_eq_map (members : List (String × Json)) :
    compactMembers members =
      members.map fun member => quote member.1 ++ ":" ++ compact member.2 := by
  induction members with
  | nil => rfl
  | cons member rest ih => rw [compactMembers, ih, List.map_cons]

theorem indentedItems_eq_map (level : Nat) (items : List Json) :
    indentedItems level items = items.map (indented level) := by
  induction items with
  | nil => rfl
  | cons item rest ih => rw [indentedItems, ih, List.map_cons]

theorem indentedMembers_eq_map (level : Nat) (members : List (String × Json)) :
    indentedMembers level members =
      members.map fun member => quote member.1 ++ ": " ++ indented level member.2 := by
  induction members with
  | nil => rfl
  | cons member rest ih => rw [indentedMembers, ih, List.map_cons]

/-- A quoted text is its escaped characters between quotation marks. -/
theorem toList_quote (text : String) :
    (quote text).toList = '"' :: (text.toList.flatMap escapeChar ++ ['"']) := by
  simp [quote]

/-- Both written forms of a member are read if both forms of its value are. -/
theorem memberReadsAs_quote {member : String × Json} {space core : String}
    (blank : ∀ c ∈ space.toList, isSpace c = true) (reads : ReadsAs depth core.toList member.2) :
    MemberReadsAs depth (quote member.1 ++ (":" ++ space) ++ core).toList member := by
  have shape : (quote member.1 ++ (":" ++ space) ++ core).toList =
      '"' :: (member.1.toList.flatMap escapeChar ++
        '"' :: ':' :: (space.toList ++ core.toList)) := by
    simp [toList_quote]
  rw [shape]
  exact .intro blank reads

theorem readsAs_null : ReadsAs depth "null".toList .null :=
  readsAs_scalar (by decide) (by decide) (by decide) (by decide) fun _ _ => rfl

/-- The words for the truth values are read as these. -/
theorem readsAs_bool : ∀ value : Bool,
    ReadsAs depth (if value then "true" else "false").toList (.bool value)
  | true => readsAs_scalar (by decide) (by decide) (by decide) (by decide) fun _ _ => rfl
  | false => readsAs_scalar (by decide) (by decide) (by decide) (by decide) fun _ _ => rfl

/-- A quoted text is read as the text. -/
theorem readsAs_quote (text : String) : ReadsAs depth (quote text).toList (.string text) := by
  rw [toList_quote]
  exact readsAs_string text

/-! ## Brackets -/

theorem readsAs_nil (room : 0 < depth) : ReadsAs depth "[]".toList (.array []) := by
  obtain ⟨depth, rfl⟩ := Nat.exists_eq_succ_of_ne_zero (Nat.ne_of_gt room)
  exact ⟨⟨'[', _, rfl, by decide, by decide⟩, fun _ => by rw [readValue?.eq_def]; rfl⟩

theorem readsAs_empty (room : 0 < depth) : ReadsAs depth "\x7b\x7d".toList (.object []) := by
  obtain ⟨depth, rfl⟩ := Nat.exists_eq_succ_of_ne_zero (Nat.ne_of_gt room)
  exact ⟨⟨'\x7b', _, rfl, by decide, by decide⟩, fun _ => by rw [readValue?.eq_def]; rfl⟩

section Brackets

variable {lead gap : List Char} (leads : ∀ c ∈ lead, isSpace c = true)
  (closes : ∀ c ∈ gap, isSpace c = true) {text : Json → String}

include leads closes

/-- An array is read from the texts of its items if each of them is, at any depth that it fits. -/
theorem readsAs_items {items : List Json} (nonempty : items ≠ [])
    (each : ∀ item ∈ items, ∀ {depth}, item.depth ≤ depth → ReadsAs depth (text item).toList item)
    (shallow : (array items).depth ≤ depth) :
    ReadsAs depth ('[' :: (lead ++ ((',' :: lead).intercalate
      ((items.map text).map String.toList) ++ (gap ++ [']'])))) (.array items) := by
  obtain ⟨depth, rfl⟩ := Nat.exists_eq_succ_of_ne_zero (Nat.ne_of_gt (Nat.zero_lt_of_lt shallow))
  have inside : depthOfItems items ≤ depth := Nat.le_of_succ_le_succ shallow
  refine readsAs_array leads closes ?_ (by simpa)
  rw [List.map_map, List.forall₂_map_left_iff, List.forall₂_same]
  exact fun item member => each item member (le_trans (depth_le_of_mem_items member) inside)

/-- An object is read from its names and the texts of its values if each of these is. -/
theorem readsAs_members {space : String} (blank : ∀ c ∈ space.toList, isSpace c = true)
    {members : List (String × Json)} (nonempty : members ≠ [])
    (each : ∀ member ∈ members, ∀ {depth}, member.2.depth ≤ depth →
      ReadsAs depth (text member.2).toList member.2)
    (shallow : (object members).depth ≤ depth) :
    ReadsAs depth ('\x7b' :: (lead ++ ((',' :: lead).intercalate
      ((members.map fun member => quote member.1 ++ (":" ++ space) ++ text member.2).map
        String.toList) ++ (gap ++ ['\x7d'])))) (.object members) := by
  obtain ⟨depth, rfl⟩ := Nat.exists_eq_succ_of_ne_zero (Nat.ne_of_gt (Nat.zero_lt_of_lt shallow))
  have inside : depthOfMembers members ≤ depth := Nat.le_of_succ_le_succ shallow
  refine readsAs_object leads closes ?_ (by simpa)
  rw [List.map_map, List.forall₂_map_left_iff, List.forall₂_same]
  exact fun member found => memberReadsAs_quote blank
    (each member found (le_trans (depth_le_of_mem_members found) inside))

end Brackets

/-! ## The compact form -/

/-- A tree of exact numbers is read from its compact form. -/
theorem readsAs_compact (exact : json.IsExact) (shallow : json.depth ≤ depth) :
    ReadsAs depth json.compact.toList json := by
  induction exact generalizing depth with
  | null => exact readsAs_null
  | @bool value => exact readsAs_bool value
  | @integer n least most =>
    rw [compact, String.toList_ofList]
    exact readsAs_integer least most
  | @string text => exact readsAs_quote text
  | @array items _ ih =>
    rcases eq_or_ne items [] with rfl | nonempty
    · exact readsAs_nil shallow
    · have reads := readsAs_items isSpace_of_mem_nil isSpace_of_mem_nil nonempty ih shallow
      simpa [compact, compactItems_eq_map, String.toList_intercalate] using reads
  | @object members _ ih =>
    rcases eq_or_ne members [] with rfl | nonempty
    · exact readsAs_empty shallow
    · have noSpace : ∀ c ∈ "".toList, isSpace c = true := isSpace_of_mem_nil
      have reads := readsAs_members isSpace_of_mem_nil isSpace_of_mem_nil noSpace nonempty ih
        shallow
      simpa [compact, compactMembers_eq_map, String.toList_intercalate] using reads

/-! ## The indented form -/

/-- A line starts with blanks. -/
theorem isSpace_of_mem_lineStart (level : Nat) :
    ∀ c ∈ (lineStart level).toList, isSpace c = true := by
  rw [lineStart, String.toList_ofList]
  refine List.forall_mem_cons.mpr ⟨rfl, fun c blank => ?_⟩
  rw [List.eq_of_mem_replicate blank]
  rfl

/-- What stands in front of every part can be taken as the end of the separators. -/
theorem intercalate_map_append (separator lead : List Char) {parts : List (List Char)}
    (nonempty : parts ≠ []) :
    separator.intercalate (parts.map (lead ++ ·)) =
      lead ++ (separator ++ lead).intercalate parts := by
  induction parts with
  | nil => exact absurd rfl nonempty
  | cons part rest ih =>
    cases rest with
    | nil => simp
    | cons next others =>
      have later := ih (by simp)
      rw [List.map_cons] at later
      rw [List.map_cons, List.map_cons, List.intercalate_cons_cons, List.intercalate_cons_cons,
        later]
      simp

/-- Parts in brackets stand on lines of their own, one level further in. -/
theorem toList_bracketed (level : Nat) (start finish : String) {parts : List String}
    (nonempty : parts ≠ []) :
    (bracketed level start finish parts).toList =
      start.toList ++ ((lineStart (level + 1)).toList ++
        ((',' :: (lineStart (level + 1)).toList).intercalate (parts.map String.toList) ++
          ((lineStart level).toList ++ finish.toList))) := by
  have present : parts.map String.toList ≠ [] := by simpa
  have between := intercalate_map_append [','] (lineStart (level + 1)).toList present
  have same : (parts.map (lineStart (level + 1) ++ ·)).map String.toList =
      (parts.map String.toList).map ((lineStart (level + 1)).toList ++ ·) := by
    simp
  rw [bracketed, if_neg (by simpa), String.toList_append, String.toList_append,
    String.toList_append, String.toList_intercalate, same]
  change _ ++ [','].intercalate _ ++ _ ++ _ = _
  rw [between]
  simp

/-- A tree of exact numbers is read from its indented form. -/
theorem readsAs_indented (exact : json.IsExact) (shallow : json.depth ≤ depth) (level : Nat) :
    ReadsAs depth (indented level json).toList json := by
  -- Parts stand one level further in and have one level less of depth to them.
  induction exact generalizing depth level with
  | null | bool | integer | string =>
    exact readsAs_compact (by constructor <;> assumption) shallow
  | @array items _ ih =>
    rcases eq_or_ne items [] with rfl | nonempty
    · exact readsAs_nil shallow
    · have reads := readsAs_items (isSpace_of_mem_lineStart (level + 1))
        (isSpace_of_mem_lineStart level) nonempty
        (fun item member _ fits => ih item member fits (level + 1)) shallow
      rw [indented, indentedItems_eq_map, toList_bracketed _ _ _ (by simpa)]
      exact reads
  | @object members _ ih =>
    rcases eq_or_ne members [] with rfl | nonempty
    · exact readsAs_empty shallow
    · have blank : ∀ c ∈ " ".toList, isSpace c = true := by simp [isSpace]
      have reads := readsAs_members (isSpace_of_mem_lineStart (level + 1))
        (isSpace_of_mem_lineStart level) blank nonempty
        (fun member found _ fits => ih member found fits (level + 1)) shallow
      rw [indented, indentedMembers_eq_map, toList_bracketed _ _ _ (by simpa)]
      exact reads

/-! ## Whole texts -/

/-- A text that is read as a tree in front of any rest is read as that tree on its own. -/
theorem readWithGaps?_of_readsAs {text : String} (reads : ReadsAs depth text.toList json) :
    readWithGaps? depth text = some json := by
  have ended : EndsNumber [] := by simp [EndsNumber]
  have read := reads.read ended
  rw [List.append_nil] at read
  rw [readWithGaps?, read]
  rfl

/-- A tree of exact numbers that is not too deep is read back from its compact form. -/
theorem ofTextRaw?_compact (exact : json.IsExact) (shallow : json.depth ≤ depthLimit) :
    ofTextRaw? json.compact = some json :=
  readWithGaps?_of_readsAs (readsAs_compact exact shallow)

/-- A tree of exact numbers that is not too deep is read back from its indented form. -/
theorem ofTextRaw?_pretty (exact : json.IsExact) (shallow : json.depth ≤ depthLimit) :
    ofTextRaw? json.pretty = some json :=
  readWithGaps?_of_readsAs (readsAs_indented exact shallow 0)

end Json

end RecordQuery
