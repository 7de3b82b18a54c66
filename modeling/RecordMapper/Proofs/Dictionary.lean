import RecordMapper.Dictionary

/-! # Laws of dictionaries

What a dictionary holds is what its look-up finds. Each operation is described through the look-up,
all of them keep the names in order, and two dictionaries in order that hold the same are the same
list.
-/

namespace RecordMapper.Dictionary

universe u

variable {α : Type u}

/-! ## Looking up -/

theorem mem_of_get? {entries : Dictionary α} {name : String} {value : α}
    (found : get? entries name = some value) : (name, value) ∈ entries := by
  induction entries with
  | nil => simp [get?] at found
  | cons entry rest ih =>
    obtain ⟨first, old⟩ := entry
    by_cases same : first = name
    · simp only [get?, same, if_true, Option.some.injEq] at found
      simp [same, found]
    · simp only [get?, same, if_false] at found
      exact List.mem_cons_of_mem _ (ih found)

theorem contains_iff {entries : Dictionary α} {name : String} :
    contains entries name = true ↔ name ∈ names entries := by
  rw [contains, Option.isSome_iff_exists, exists_get?_iff]

/-- Where no name is repeated, every entry is found. -/
theorem get?_of_mem {entries : Dictionary α} {name : String} {value : α}
    (nodup : (names entries).Nodup) (member : (name, value) ∈ entries) :
    get? entries name = some value := by
  induction entries with
  | nil => simp at member
  | cons entry rest ih =>
    obtain ⟨first, old⟩ := entry
    obtain ⟨fresh, rest_nodup⟩ := List.nodup_cons.mp nodup
    rcases List.mem_cons.mp member with here | later
    · obtain ⟨sameName, sameValue⟩ := Prod.mk.injEq .. ▸ here
      simp only [get?, sameName, sameValue, if_true]
    · have other : first ≠ name := by
        rintro rfl
        exact fresh (List.mem_map.mpr ⟨_, later, rfl⟩)
      simp only [get?, other, if_false]
      exact ih rest_nodup later

theorem get?_append (entries others : Dictionary α) (name : String) :
    get? (entries ++ others) name = (get? entries name).or (get? others name) := by
  induction entries with
  | nil => rfl
  | cons entry rest ih =>
    obtain ⟨first, value⟩ := entry
    rw [List.cons_append, get?, get?, ih]
    split <;> rfl

theorem get?_filter_names (entries : Dictionary α) (keep : String → Bool) (name : String) :
    get? (entries.filter fun entry => keep entry.1) name =
      if keep name then get? entries name else none := by
  induction entries with
  | nil => simp [get?]
  | cons entry rest ih =>
    obtain ⟨first, value⟩ := entry
    by_cases same : first = name
    · subst same
      by_cases kept : keep first
      · simp [get?, kept]
      · simpa [get?, kept] using ih
    · by_cases kept : keep first <;> simp [get?, kept, same, ih]

/-- Where no name is repeated, an entry of which nothing is made leaves nothing under its name. -/
theorem get?_filterMap {β : Type u} {entries : Dictionary β} (nodup : (names entries).Nodup)
    (image : β → Option α) (name : String) :
    get? (entries.filterMap fun entry => (image entry.2).map (entry.1, ·)) name =
      (get? entries name).bind image := by
  induction entries with
  | nil => rfl
  | cons entry rest ih =>
    obtain ⟨fresh, distinct⟩ := List.nodup_cons.mp nodup
    obtain ⟨other, before⟩ := entry
    by_cases same : other = name
    · subst same
      have missing : get? rest other = none := get?_eq_none_iff.mpr fresh
      cases value : image before with
      | none => simp [get?, value, ih distinct, missing]
      | some value => simp [get?, value]
    · cases value : image before with
      | none => simp [get?, value, same, ih distinct]
      | some value => simp [get?, value, same, ih distinct]

/-! ## Writing -/

theorem mem_insert {entries : Dictionary α} {name : String} {value : α} {entry : String × α}
    (member : entry ∈ insert entries name value) : entry = (name, value) ∨ entry ∈ entries := by
  induction entries with
  | nil => exact .inl (List.mem_singleton.mp member)
  | cons first rest ih =>
    rw [insert] at member
    split at member
    · exact (List.mem_cons.mp member).imp_right (List.mem_cons_of_mem _)
    · split at member
      · exact List.mem_cons.mp member
      · rcases List.mem_cons.mp member with rfl | later
        · exact .inr (List.mem_cons_self ..)
        · exact (ih later).imp_right (List.mem_cons_of_mem _)

/-- What is written under a name that is dropped is dropped. -/
theorem filter_insert {keep : String → Bool} {name : String} (dropped : keep name = false)
    (entries : Dictionary α) (value : α) :
    (insert entries name value).filter (fun entry => keep entry.1) =
      entries.filter fun entry => keep entry.1 := by
  induction entries with
  | nil => simp [insert, dropped]
  | cons entry rest ih =>
    obtain ⟨first, old⟩ := entry
    rw [insert]
    split
    · next same => simp [same, dropped]
    · split
      · rw [List.filter_cons_of_neg (by simp [dropped])]
      · rw [List.filter_cons, List.filter_cons, ih]

theorem erase_eq_filter (entries : Dictionary α) (name : String) :
    erase entries name = entries.filter fun entry => entry.1 ≠ name := by
  induction entries with
  | nil => rfl
  | cons entry rest ih =>
    rw [erase]
    split
    · next same => rw [List.filter_cons_of_neg (by simpa using same), ih]
    · next differ => rw [List.filter_cons_of_pos (by simpa using differ), ih]

theorem get?_insertAll_of_notMem {entries : Dictionary α} {others : List (String × α)}
    {name : String} (untouched : name ∉ others.map Prod.fst) :
    get? (insertAll entries others) name = get? entries name := by
  induction others generalizing entries with
  | nil => rfl
  | cons entry rest ih =>
    simp only [List.map_cons, List.mem_cons, not_or] at untouched
    change get? (insertAll (insert entries entry.1 entry.2) rest) name = _
    rw [ih untouched.2, get?_insert, if_neg (Ne.symm untouched.1)]

/-- Entries of distinct names are all in the dictionary that they were written into. -/
theorem get?_insertAll {entries : Dictionary α} {others : List (String × α)}
    (nodup : (others.map Prod.fst).Nodup) (name : String) :
    get? (insertAll entries others) name = (get? others name).or (get? entries name) := by
  induction others generalizing entries with
  | nil => rfl
  | cons entry rest ih =>
    obtain ⟨first, value⟩ := entry
    obtain ⟨fresh, rest_nodup⟩ := List.nodup_cons.mp nodup
    change get? (insertAll (insert entries first value) rest) name = _
    by_cases same : first = name
    · subst same
      rw [get?_insertAll_of_notMem fresh, get?_insert]
      simp [get?]
    · rw [ih rest_nodup, get?_insert, if_neg same]
      simp only [get?, same, if_false]

theorem get?_ofList {entries : List (String × α)} (nodup : (entries.map Prod.fst).Nodup)
    (name : String) :
    get? (ofList entries) name = get? entries name := by
  rw [ofList, get?_insertAll nodup]
  exact Option.or_none

/-- Whatever names they repeat, entries that are written over others hide them. -/
theorem get?_insertAll_ofList {entries : Dictionary α} {others : List (String × α)} (name : String) :
    get? (insertAll entries others) name = (get? (ofList others) name).or (get? entries name) := by
  induction others generalizing entries with
  | nil => rfl
  | cons entry rest ih =>
    change get? (insertAll (insert entries entry.1 entry.2) rest) name =
      (get? (insertAll (insert [] entry.1 entry.2) rest) name).or _
    rw [ih, ih, get?_insert, get?_insert]
    split <;> simp [get?]

theorem mem_names_insertAll {entries : Dictionary α} {others : List (String × α)} {name : String} :
    name ∈ names (insertAll entries others) ↔ name ∈ others.map Prod.fst ∨ name ∈ names entries := by
  induction others generalizing entries with
  | nil => simp [insertAll]
  | cons entry rest ih =>
    change name ∈ names (insertAll (insert entries entry.1 entry.2) rest) ↔ _
    rw [ih, mem_names_insert, List.map_cons, List.mem_cons]
    exact or_left_comm.trans or_assoc.symm

theorem mem_names_ofList {entries : List (String × α)} {name : String} :
    name ∈ names (ofList entries) ↔ name ∈ entries.map Prod.fst := by
  rw [ofList, mem_names_insertAll]
  simp [names]

/-! ## Order -/

theorem Sorted.nodup {entries : Dictionary α} (sorted : Sorted entries) : (names entries).Nodup :=
  sorted.imp Std.ne_of_lt

theorem Sorted.filter {entries : Dictionary α} (sorted : Sorted entries) (keep : String × α → Bool) :
    Sorted (entries.filter keep) :=
  List.Pairwise.sublist (List.filter_sublist.map Prod.fst) sorted

/-- Dictionaries without repeated names that hold the same have the same entries. -/
theorem perm_of_get? {entries others : Dictionary α} (nodup : (names entries).Nodup)
    (others_nodup : (names others).Nodup) (same : ∀ name, get? entries name = get? others name) :
    entries.Perm others := by
  have entries_nodup {entries : Dictionary α} (nodup : (names entries).Nodup) : entries.Nodup :=
    List.Pairwise.of_map Prod.fst (fun _ _ differ equal => differ (congrArg Prod.fst equal)) nodup
  apply (List.perm_ext_iff_of_nodup (entries_nodup nodup) (entries_nodup others_nodup)).mpr
  intro entry
  obtain ⟨name, value⟩ := entry
  constructor
  · intro member
    exact mem_of_get? ((same name).symm.trans (get?_of_mem nodup member))
  · intro member
    exact mem_of_get? ((same name).trans (get?_of_mem others_nodup member))

/-- A dictionary in order is determined by its entries. -/
theorem Sorted.eq_of_perm {entries others : Dictionary α} (sorted : Sorted entries)
    (others_sorted : Sorted others) (perm : entries.Perm others) : entries = others := by
  refine perm.eq_of_pairwise ?_ (List.pairwise_map.mp sorted) (List.pairwise_map.mp others_sorted)
  intro first second _ _ less greater
  exact absurd (Std.lt_trans less greater) Std.lt_irrefl

/-- A dictionary in order is determined by what it holds. -/
theorem Sorted.eq_of_get? {entries others : Dictionary α} (sorted : Sorted entries)
    (others_sorted : Sorted others) (same : ∀ name, get? entries name = get? others name) :
    entries = others :=
  sorted.eq_of_perm others_sorted (perm_of_get? sorted.nodup others_sorted.nodup same)

/-- Entries can be put in order before they are written. -/
theorem Sorted.insertAll_ofList {entries : Dictionary α} (sorted : Sorted entries)
    (others : List (String × α)) : insertAll entries (ofList others) = insertAll entries others := by
  refine (sorted_insertAll sorted _).eq_of_get? (sorted_insertAll sorted _) fun name => ?_
  rw [get?_insertAll (sorted_ofList others).nodup, get?_insertAll_ofList]

/-- The dictionary of entries of distinct names has just these entries. -/
theorem perm_ofList {entries : List (String × α)} (nodup : (entries.map Prod.fst).Nodup) :
    (ofList entries).Perm entries :=
  perm_of_get? (sorted_ofList entries).nodup nodup (get?_ofList nodup)

theorem Sorted.ofList_eq {entries : Dictionary α} (sorted : Sorted entries)
    {others : List (String × α)} (perm : others.Perm entries) : ofList others = entries := by
  have nodup : (others.map Prod.fst).Nodup := (perm.map Prod.fst).nodup_iff.mpr sorted.nodup
  exact (sorted_ofList others).eq_of_perm sorted ((perm_ofList nodup).trans perm)

/-- The entries of a dictionary that are kept by their names are those of the list that are kept. -/
theorem filter_ofList {entries : List (String × α)} (nodup : (entries.map Prod.fst).Nodup)
    (keep : String × α → Bool) : (ofList entries).filter keep = ofList (entries.filter keep) := by
  have kept_nodup : ((entries.filter keep).map Prod.fst).Nodup :=
    (List.filter_sublist.map Prod.fst).nodup nodup
  refine ((sorted_ofList entries).filter keep).eq_of_perm (sorted_ofList _) ?_
  exact ((perm_ofList nodup).filter keep).trans (perm_ofList kept_nodup).symm

/-- What is found after entries were written over a dictionary is one of them, or was found before. -/
theorem of_get?_insertAll {entries : Dictionary α} {others : List (String × α)} {name : String} {value : α}
    (found : get? (insertAll entries others) name = some value) :
    (name, value) ∈ others ∨ get? entries name = some value := by
  induction others generalizing entries with
  | nil => exact .inr found
  | cons entry rest ih =>
    rcases ih found with later | before
    · exact .inl (List.mem_cons_of_mem _ later)
    · rw [get?_insert] at before
      split at before
      · next same =>
        obtain rfl := Option.some.inj before
        exact .inl (same ▸ List.mem_cons_self ..)
      · exact .inr before

/-- What the dictionary of a list holds is an entry of the list. -/
theorem mem_of_get?_ofList {entries : List (String × α)} {name : String} {value : α}
    (found : get? (ofList entries) name = some value) : (name, value) ∈ entries :=
  (of_get?_insertAll found).resolve_right nofun

/-- The dictionary of entries of distinct names holds these entries and no other. -/
theorem get?_ofList_eq_some_iff {entries : List (String × α)} (nodup : (entries.map Prod.fst).Nodup) {name : String}
    {value : α} : get? (ofList entries) name = some value ↔ (name, value) ∈ entries :=
  ⟨mem_of_get?_ofList, fun member => (get?_ofList nodup name).trans (get?_of_mem nodup member)⟩

theorem mem_of_mem_ofList {entries : List (String × α)} {entry : String × α} (member : entry ∈ ofList entries) :
    entry ∈ entries :=
  mem_of_get?_ofList (get?_of_mem (sorted_ofList entries).nodup member)

end RecordMapper.Dictionary
