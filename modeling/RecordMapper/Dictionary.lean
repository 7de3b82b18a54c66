/-! # Dictionaries ordered by name

A dictionary is a finite map from names, held as an association list. Every operation that builds one
keeps its names in increasing code-point order, so two dictionaries with the same content are the
same list. `Dictionary.Sorted` states that order and `Dictionary.Ordered` carries it; `get?_insert` and
`get?_erase` say what each operation does to the content.
-/

namespace RecordMapper

universe u

/-- A finite map from names to values. -/
abbrev Dictionary (α : Type u) := List (String × α)

namespace Dictionary

variable {α : Type u}

/-- The names are in strictly increasing order, so none is repeated. -/
def Sorted (entries : Dictionary α) : Prop :=
  (entries.map Prod.fst).Pairwise (· < ·)

/-- The value under a name. -/
def get? (entries : Dictionary α) (name : String) : Option α :=
  match entries with
  | [] => none
  | (other, value) :: rest => if other = name then some value else get? rest name

/-- Whether a name has a value. -/
def contains (entries : Dictionary α) (name : String) : Bool :=
  (get? entries name).isSome

/-- The names, in order. -/
def names (entries : Dictionary α) : List String :=
  entries.map Prod.fst

/-- The dictionary with `value` under `name`, whatever stood there before. -/
def insert (entries : Dictionary α) (name : String) (value : α) : Dictionary α :=
  match entries with
  | [] => [(name, value)]
  | (other, old) :: rest =>
    if other = name then (name, value) :: rest
    else if name < other then (name, value) :: (other, old) :: rest
    else (other, old) :: insert rest name value

/-- The dictionary without `name`. -/
def erase (entries : Dictionary α) (name : String) : Dictionary α :=
  match entries with
  | [] => []
  | (other, old) :: rest => if other = name then erase rest name else (other, old) :: erase rest name

/-- The first dictionary with every entry of the second written over it. -/
def insertAll (entries : Dictionary α) (others : List (String × α)) : Dictionary α :=
  others.foldl (fun sofar entry => insert sofar entry.1 entry.2) entries

/-- The dictionary of a list of entries in any order; of a repeated name the last entry stays. -/
def ofList (entries : List (String × α)) : Dictionary α :=
  insertAll [] entries

theorem get?_insert (entries : Dictionary α) (name other : String) (value : α) :
    get? (insert entries name value) other = if name = other then some value else get? entries other := by
  induction entries with
  | nil => simp only [insert, get?]
  | cons entry rest ih =>
    obtain ⟨first, old⟩ := entry
    simp only [insert]
    split
    · next same =>
      subst same
      simp only [get?]
      split <;> rfl
    · next differ =>
      split
      · simp only [get?]
      · simp only [get?, ih]
        by_cases here : first = other
        · subst here
          rw [if_pos rfl, if_neg (fun same => differ same.symm), if_pos rfl]
        · rw [if_neg here, if_neg here]

theorem get?_erase (entries : Dictionary α) (name other : String) :
    get? (erase entries name) other = if name = other then none else get? entries other := by
  induction entries with
  | nil => simp only [erase, get?, ite_self]
  | cons entry rest ih =>
    obtain ⟨first, old⟩ := entry
    simp only [erase]
    by_cases same : first = name
    · subst same
      rw [if_pos rfl, ih]
      by_cases here : first = other
      · rw [if_pos here, if_pos here]
      · rw [if_neg here, if_neg here, get?, if_neg here]
    · rw [if_neg same]
      simp only [get?, ih]
      by_cases here : first = other
      · subst here
        rw [if_pos rfl, if_neg (fun same' => same same'.symm), if_pos rfl]
      · rw [if_neg here, if_neg here]

/-! ## Order -/

instance (entries : Dictionary α) : Decidable (Sorted entries) :=
  inferInstanceAs (Decidable ((entries.map Prod.fst).Pairwise (· < ·)))

theorem get?_eq_none_iff {entries : Dictionary α} {name : String} :
    get? entries name = none ↔ name ∉ names entries := by
  induction entries with
  | nil => simp [get?, names]
  | cons entry rest ih =>
    obtain ⟨first, value⟩ := entry
    by_cases same : first = name
    · simp [get?, names, same]
    · simp only [names] at ih
      simp [get?, names, same, Ne.symm same, ih]

theorem exists_get?_iff {entries : Dictionary α} {name : String} :
    (∃ value, get? entries name = some value) ↔ name ∈ names entries := by
  rw [← Option.isSome_iff_exists, ← Option.ne_none_iff_isSome, ne_eq, get?_eq_none_iff, Classical.not_not]

theorem mem_names_insert {entries : Dictionary α} {name other : String} {value : α} :
    other ∈ names (insert entries name value) ↔ other = name ∨ other ∈ names entries := by
  rw [← exists_get?_iff, ← exists_get?_iff]
  by_cases same : name = other
  · simp [get?_insert, same]
  · simp [get?_insert, same, Ne.symm same]

theorem sorted_insert {entries : Dictionary α} (sorted : Sorted entries) (name : String) (value : α) :
    Sorted (insert entries name value) := by
  induction entries with
  | nil => exact List.pairwise_singleton _ _
  | cons entry rest ih =>
    obtain ⟨first, old⟩ := entry
    obtain ⟨before, rest_sorted⟩ := List.pairwise_cons.mp sorted
    simp only [insert]
    split
    · next same => exact same ▸ sorted
    · next differ =>
      split
      · next less =>
        refine List.pairwise_cons.mpr ⟨?_, sorted⟩
        intro other member
        rcases List.mem_cons.mp member with rfl | later
        · exact less
        · exact Std.lt_trans less (before other later)
      · next notLess =>
        refine List.pairwise_cons.mpr ⟨?_, ih rest_sorted⟩
        intro other member
        rcases mem_names_insert.mp member with rfl | later
        · exact Std.lt_of_le_of_ne (Std.not_lt.mp notLess) differ
        · exact before other later

theorem sorted_insertAll {entries : Dictionary α} (sorted : Sorted entries)
    (others : List (String × α)) :
    Sorted (insertAll entries others) := by
  induction others generalizing entries with
  | nil => exact sorted
  | cons entry rest ih => exact ih (sorted_insert sorted entry.1 entry.2)

theorem sorted_nil : Sorted ([] : Dictionary α) :=
  List.Pairwise.nil

theorem sorted_ofList (entries : List (String × α)) : Sorted (ofList entries) :=
  sorted_insertAll sorted_nil entries

/-- Other values under the same names are in order, too. -/
theorem Sorted.mapValues {β : Type u} {entries : Dictionary β} (sorted : Sorted entries) (image : β → α) :
    Sorted (entries.map fun entry => (entry.1, image entry.2)) := by
  unfold Sorted
  rw [List.map_map]
  exact sorted

/-- A dictionary with the proof that its names are in order. -/
abbrev Ordered (α : Type u) :=
  { entries : Dictionary α // Sorted entries }

/-- The dictionary of a list of entries, with its order. -/
def Ordered.ofList (entries : List (String × α)) : Ordered α :=
  ⟨Dictionary.ofList entries, sorted_ofList entries⟩

end Dictionary

end RecordMapper
