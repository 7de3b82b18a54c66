import RecordMapper.Json.Document
import RecordMapper.Proofs.Dictionary

/-! # Reading back what was written

The document of a value denotes that value again, unless the value nests deeper than is read; and every
value that is read is in order and nests no deeper. A definition with fixed fields is read from a record
field by field, each as it was written.
-/

namespace RecordMapper

namespace Json

mutual

/-- How deep lists and records nest in a value. -/
def nesting : Json → Nat
  | .list items => nestingOfItems items + 1
  | .record fields => nestingOfFields fields + 1
  | _ => 0

/-- How deep lists and records nest in the items of a list. -/
def nestingOfItems : List Json → Nat
  | [] => 0
  | item :: rest => max (nesting item) (nestingOfItems rest)

/-- How deep lists and records nest in the fields of a record. -/
def nestingOfFields : List (String × Json) → Nat
  | [] => 0
  | (_, value) :: rest => max (nesting value) (nestingOfFields rest)

end

theorem nestingOfFields_le_iff {fields : List (String × Json)} {depth : Nat} :
    nestingOfFields fields ≤ depth ↔ ∀ entry ∈ fields, nesting entry.2 ≤ depth := by
  induction fields with
  | nil => simp [nestingOfFields]
  | cons entry rest ih => rw [nestingOfFields, Nat.max_le, ih, List.forall_mem_cons]

theorem sortedFields_iff {fields : List (String × Json)} :
    SortedFields fields ↔ ∀ entry ∈ fields, Sorted entry.2 := by
  induction fields with
  | nil => simp [SortedFields]
  | cons entry rest ih => simp [SortedFields, ih]

end Json

namespace Document

/-! ## Values -/

mutual

/-- The document of a value denotes the value, if it nests no deeper than is read. -/
theorem toJson?_ofJson (depth : Nat) (value : Json) (sorted : value.Sorted) :
    toJson? depth (ofJson value) = if value.nesting ≤ depth then some value else none := by
  match value with
  | .null => rfl
  | .bool _ => rfl
  | .number _ => rfl
  | .text _ => rfl
  | .list items =>
    cases depth with
    | zero => rfl
    | succ depth =>
      rw [ofJson, toJson?, itemsToJson?_ofItems depth items sorted]
      simp only [Json.nesting, Nat.add_le_add_iff_right]
      split <;> rfl
  | .record fields =>
    cases depth with
    | zero => rfl
    | succ depth =>
      rw [ofJson, toJson?, membersToJson?_ofFields depth fields sorted.2]
      simp only [Json.nesting, Nat.add_le_add_iff_right]
      split
      · -- fields in order stay as they are when they are put in order
        rw [Option.map_some, Dictionary.Sorted.ofList_eq sorted.1 (.refl _)]
      · rfl

theorem itemsToJson?_ofItems (depth : Nat) (items : List Json) (sorted : Json.SortedItems items) :
    itemsToJson? depth (ofItems items) = if Json.nestingOfItems items ≤ depth then some items else none := by
  match items with
  | [] => rfl
  | item :: rest =>
    rw [ofItems, itemsToJson?, toJson?_ofJson depth item sorted.1, itemsToJson?_ofItems depth rest sorted.2]
    simp only [Json.nestingOfItems, Nat.max_le]
    split
    all_goals grind

theorem membersToJson?_ofFields (depth : Nat) (fields : List (String × Json)) (sorted : Json.SortedFields fields) :
    membersToJson? depth (ofFields fields) =
      if Json.nestingOfFields fields ≤ depth then some fields else none := by
  match fields with
  | [] => rfl
  | (name, value) :: rest =>
    rw [ofFields, membersToJson?, toJson?_ofJson depth value sorted.1,
      membersToJson?_ofFields depth rest sorted.2]
    simp only [Json.nestingOfFields, Nat.max_le]
    split
    all_goals grind

end

mutual

/-- A value that is read is in order and nests no deeper than is read. -/
theorem toJson?_eq_some {depth : Nat} {document : Document} {value : Json}
    (done : toJson? depth document = some value) : value.Sorted ∧ value.nesting ≤ depth := by
  match document with
  | .null =>
    obtain rfl := Option.some.inj done
    exact ⟨trivial, Nat.zero_le _⟩
  | .bool _ =>
    obtain rfl := Option.some.inj done
    exact ⟨trivial, Nat.zero_le _⟩
  | .number _ =>
    obtain ⟨_, -, rfl⟩ := Option.map_eq_some_iff.mp done
    exact ⟨trivial, Nat.zero_le _⟩
  | .text _ =>
    obtain ⟨_, -, rfl⟩ := Option.map_eq_some_iff.mp done
    exact ⟨trivial, Nat.zero_le _⟩
  | .list items =>
    cases depth with
    | zero => cases done
    | succ depth =>
      obtain ⟨values, read, rfl⟩ := Option.map_eq_some_iff.mp done
      obtain ⟨sorted, shallow⟩ := itemsToJson?_eq_some read
      exact ⟨sorted, Nat.succ_le_succ shallow⟩
  | .record members =>
    cases depth with
    | zero => cases done
    | succ depth =>
      obtain ⟨entries, read, rfl⟩ := Option.map_eq_some_iff.mp done
      have each := membersToJson?_eq_some read
      refine ⟨⟨Dictionary.sorted_ofList entries, Json.sortedFields_iff.mpr fun entry member => ?_⟩,
        Nat.succ_le_succ (Json.nestingOfFields_le_iff.mpr fun entry member => ?_)⟩
      · exact (each entry (Dictionary.mem_of_mem_ofList member)).1
      · exact (each entry (Dictionary.mem_of_mem_ofList member)).2

theorem itemsToJson?_eq_some {depth : Nat} {items : List Document} {values : List Json}
    (done : itemsToJson? depth items = some values) :
    Json.SortedItems values ∧ Json.nestingOfItems values ≤ depth := by
  match items with
  | [] =>
    obtain rfl := Option.some.inj done
    exact ⟨trivial, Nat.zero_le _⟩
  | item :: rest =>
    obtain ⟨value, here, done⟩ := Option.bind_eq_some_iff.mp done
    obtain ⟨others, there, done⟩ := Option.bind_eq_some_iff.mp done
    obtain rfl := Option.some.inj done
    obtain ⟨sorted, shallow⟩ := toJson?_eq_some here
    obtain ⟨othersSorted, othersShallow⟩ := itemsToJson?_eq_some there
    exact ⟨⟨sorted, othersSorted⟩, Nat.max_le.mpr ⟨shallow, othersShallow⟩⟩

theorem membersToJson?_eq_some {depth : Nat} {members : List (Option String × Document)}
    {entries : List (String × Json)} (done : membersToJson? depth members = some entries) :
    ∀ entry ∈ entries, entry.2.Sorted ∧ entry.2.nesting ≤ depth := by
  match members with
  | [] =>
    obtain rfl := Option.some.inj done
    simp
  | (name, member) :: rest =>
    obtain ⟨name, -, done⟩ := Option.bind_eq_some_iff.mp done
    obtain ⟨value, here, done⟩ := Option.bind_eq_some_iff.mp done
    obtain ⟨others, there, done⟩ := Option.bind_eq_some_iff.mp done
    obtain rfl := Option.some.inj done
    exact List.forall_mem_cons.mpr ⟨toJson?_eq_some here, membersToJson?_eq_some there⟩

end

/-! ## Fields -/

theorem ofFields_eq_map (fields : List (String × Json)) :
    ofFields fields = fields.map fun entry => (some entry.1, ofJson entry.2) := by
  induction fields with
  | nil => rfl
  | cons entry rest ih => rw [ofFields, ih, List.map_cons]

theorem ofItems_eq_map (items : List Json) : ofItems items = items.map ofJson := by
  induction items with
  | nil => rfl
  | cons item rest ih => rw [ofItems, ih, List.map_cons]

/-- Where no name is repeated, a name has one member or none. -/
theorem filter_ofFields {fields : List (String × Json)} (nodup : (fields.map Prod.fst).Nodup) (name : String) :
    (ofFields fields).filter (fun member => member.1 == some name) =
      ((Dictionary.get? fields name).map fun value => (some name, ofJson value)).toList := by
  induction fields with
  | nil => rfl
  | cons entry rest ih =>
    obtain ⟨fresh, distinct⟩ := List.nodup_cons.mp nodup
    obtain ⟨other, value⟩ := entry
    by_cases same : other = name
    · subst same
      have absent : Dictionary.get? rest other = none := Dictionary.get?_eq_none_iff.mpr fresh
      simp [ofFields, Dictionary.get?, ih distinct, absent]
    · simp [ofFields, Dictionary.get?, ih distinct, same]

theorem members?_ofFields {fields : List (String × Json)} (nodup : (fields.map Prod.fst).Nodup)
    (names : List String) :
    members? (ofFields fields) names = some (names.map fun name => (Dictionary.get? fields name).map ofJson) := by
  induction names with
  | nil => rfl
  | cons name names ih =>
    rw [members?, ih, filter_ofFields nodup, List.map_cons]
    cases Dictionary.get? fields name <;> rfl

/-- The fields of a record are read as they were written. -/
theorem fields?_ofJson {fields : List (String × Json)} (nodup : (fields.map Prod.fst).Nodup)
    (names : List String) :
    fields? names (ofJson (.record fields)) =
      some (names.map fun name => (Dictionary.get? fields name).map ofJson) := by
  rw [ofJson, fields?, if_neg, members?_ofFields nodup]
  rw [ofFields_eq_map]
  simp

/-! ## Lists and dictionaries -/

section

variable {α β : Type} (fits : α → Bool) (image : α → β)

/-- Steps that succeed where an item fits succeed together where all items do. -/
theorem mapM_eq_ite {items : List α} {step : α → Option β}
    (each : ∀ item ∈ items, step item = if fits item then some (image item) else none) :
    items.mapM step = if items.all fits then some (items.map image) else none := by
  induction items with
  | nil => rfl
  | cons item rest ih =>
    obtain ⟨here, later⟩ := List.forall_mem_cons.mp each
    rw [List.mapM_cons, here, ih later, List.all_cons]
    cases fits item with
    | false => rfl
    | true => cases rest.all fits <;> rfl

/-- The values of a list of steps each come from one of them. -/
theorem exists_of_mapM_eq_some {items : List α} {step : α → Option β} {values : List β}
    (done : items.mapM step = some values) : ∀ value ∈ values, ∃ item ∈ items, step item = some value := by
  induction items generalizing values with
  | nil =>
    obtain rfl := Option.some.inj done
    simp
  | cons item rest ih =>
    rw [List.mapM_cons] at done
    obtain ⟨first, here, done⟩ := Option.bind_eq_some_iff.mp done
    obtain ⟨others, there, done⟩ := Option.bind_eq_some_iff.mp done
    obtain rfl := Option.some.inj done
    intro value member
    rcases List.mem_cons.mp member with rfl | member
    · exact ⟨item, List.mem_cons_self .., here⟩
    · obtain ⟨other, isItem, step⟩ := ih there value member
      exact ⟨other, List.mem_cons_of_mem _ isItem, step⟩

theorem listOf?_ofJson {read? : Document → Option β} {write : α → Json} {items : List α}
    (reads : ∀ item ∈ items, read? (ofJson (write item)) = if fits item then some (image item) else none) :
    listOf? read? (ofJson (.list (items.map write))) = if items.all fits then some (items.map image) else none := by
  rw [ofJson, listOf?, ofItems_eq_map, List.map_map, List.mapM_map]
  exact mapM_eq_ite fits image reads

theorem dictionaryOf?_ofJson {read? : Document → Option β} {write : α → Json} {entries : Dictionary α}
    (sorted : Dictionary.Sorted entries)
    (reads : ∀ entry ∈ entries,
      read? (ofJson (write entry.2)) = if fits entry.2 then some (image entry.2) else none) :
    dictionaryOf? read? (ofJson (.record (entries.map fun entry => (entry.1, write entry.2)))) =
      if entries.all fun entry => fits entry.2 then
        some ⟨entries.map fun entry => (entry.1, image entry.2), sorted.mapValues image⟩
      else none := by
  have pairs : ∀ entry ∈ entries,
      (do let value ← read? (ofJson (write entry.2)); return (entry.1, value)) =
        if fits entry.2 then some (entry.1, image entry.2) else none := by
    intro entry member
    rw [reads entry member]
    split <;> rfl
  rw [ofJson, dictionaryOf?, ofFields_eq_map, List.map_map, List.mapM_map]
  refine (congrArg (· >>= fun entries => pure (Dictionary.Ordered.ofList entries)) (mapM_eq_ite _ _ pairs)).trans ?_
  split
  · exact congrArg some (Subtype.ext ((sorted.mapValues image).ofList_eq (.refl _)))
  · rfl

/-- A dictionary whose entries are all read as they were written is read as it was written. -/
theorem dictionaryOf?_ofJson_of_all {read? : Document → Option α} {write : α → Json} {entries : Dictionary α}
    (sorted : Dictionary.Sorted entries) (reads : ∀ entry ∈ entries, read? (ofJson (write entry.2)) = some entry.2) :
    dictionaryOf? read? (ofJson (.record (entries.map fun entry => (entry.1, write entry.2)))) =
      some ⟨entries, sorted⟩ := by
  rw [dictionaryOf?_ofJson (fun _ => true) id sorted (by simpa using fun name value => reads (name, value))]
  simp

theorem dictionaryOf?_eq_some {read? : Document → Option β} {document : Document} {entries : Dictionary.Ordered β}
    (done : dictionaryOf? read? document = some entries) :
    ∀ entry ∈ entries.val, ∃ written, read? written = some entry.2 := by
  unfold dictionaryOf? at done
  split at done
  · next members =>
    obtain ⟨pairs, read, done⟩ := Option.bind_eq_some_iff.mp done
    obtain rfl := Option.some.inj done
    intro entry member
    obtain ⟨written, -, step⟩ := exists_of_mapM_eq_some read _ (Dictionary.mem_of_mem_ofList member)
    obtain ⟨name, -, step⟩ := Option.bind_eq_some_iff.mp step
    obtain ⟨value, isValue, step⟩ := Option.bind_eq_some_iff.mp step
    exact ⟨written.2, isValue.trans (congrArg some (congrArg Prod.snd (Option.some.inj step)))⟩
  · cases done

theorem listOf?_eq_some {read? : Document → Option β} {document : Document} {values : List β}
    (done : listOf? read? document = some values) : ∀ value ∈ values, ∃ written, read? written = some value := by
  unfold listOf? at done
  split at done
  · intro value member
    obtain ⟨written, -, step⟩ := exists_of_mapM_eq_some done value member
    exact ⟨written, step⟩
  · cases done

end

end Document

end RecordMapper
