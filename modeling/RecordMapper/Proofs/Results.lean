import Mathlib.Data.List.Forall2

/-! # Results

A result is a value or an error, and steps that may fail are put together in a few ways only. For
each of them, this says from which results of its steps the value of the whole comes.
-/

namespace RecordMapper.Results

variable {ε δ α β : Type}

theorem bind_eq_ok {first : Except ε α} {next : α → Except ε β} {value : β} :
    first >>= next = .ok value ↔ ∃ middle, first = .ok middle ∧ next middle = .ok value := by
  cases first with
  | error error => simp [bind, Except.bind]
  | ok middle => simp [bind, Except.bind]

theorem bind_eq_error {first : Except ε α} {next : α → Except ε β} {error : ε} :
    first >>= next = .error error ↔
      first = .error error ∨ ∃ middle, first = .ok middle ∧ next middle = .error error := by
  cases first with
  | error error => simp [bind, Except.bind]
  | ok middle => simp [bind, Except.bind]

theorem pure_eq_ok {value other : α} : (pure value : Except ε α) = .ok other ↔ value = other := by
  simp [pure, Except.pure]

theorem map_eq_ok {result : Except ε α} {function : α → β} {value : β} :
    result.map function = .ok value ↔ ∃ before, result = .ok before ∧ function before = value := by
  cases result <;> simp [Except.map]

theorem map_eq_error {result : Except ε α} {function : α → β} {error : ε} :
    result.map function = .error error ↔ result = .error error := by
  cases result <;> simp [Except.map]

/-- A check that passed, and what comes after it. -/
theorem unless_eq_ok {test : Prop} [Decidable test] {error : ε} {rest : Except ε α} {value : α}
    (done : (if test then (.error error : Except ε Unit) >>= fun _ => rest else rest) = .ok value) :
    ¬test ∧ rest = .ok value := by
  by_cases fails : test
  · rw [if_pos fails] at done
    cases done
  · rw [if_neg fails] at done
    exact ⟨fails, done⟩

theorem exists_map_eq_ok_iff {result : Except ε α} {function : α → β} :
    (∃ value, result.map function = .ok value) ↔ ∃ before, result = .ok before := by
  simp only [map_eq_ok]
  exact ⟨fun ⟨_, before, done, _⟩ => ⟨before, done⟩, fun ⟨before, done⟩ => ⟨_, before, done, rfl⟩⟩

theorem exists_bind_pure_eq_ok_iff {result : Except ε α} {function : α → β} :
    (∃ value, (result >>= fun before => pure (function before)) = .ok value) ↔ ∃ before, result = .ok before := by
  cases result with
  | error error => exact iff_of_false nofun nofun
  | ok before => exact iff_of_true ⟨_, rfl⟩ ⟨_, rfl⟩

/-- Two steps, neither of which depends on the other, succeed when both do. -/
theorem exists_both_eq_ok_iff {γ : Type} {first : Except ε α} {second : Except ε β} {function : α → β → γ} :
    (∃ value, (do let one ← first; let other ← second; pure (function one other)) = .ok value) ↔
      (∃ one, first = .ok one) ∧ ∃ other, second = .ok other := by
  cases first with
  | error error => exact iff_of_false nofun nofun
  | ok one => exact exists_bind_pure_eq_ok_iff.trans (and_iff_right ⟨one, rfl⟩).symm

theorem mapError_eq_ok {result : Except ε α} {function : ε → δ} {value : α} :
    result.mapError function = .ok value ↔ result = .ok value := by
  cases result <;> simp [Except.mapError]

theorem mapError_eq_error {result : Except ε α} {function : ε → δ} {error : δ} :
    result.mapError function = .error error ↔
      ∃ before, result = .error before ∧ function before = error := by
  cases result <;> simp [Except.mapError]

/-- A list of steps succeeds with the values that they succeed with one by one. -/
theorem mapM_eq_ok {items : List α} {step : α → Except ε β} {values : List β} :
    items.mapM step = .ok values ↔ items.map step = values.map .ok := by
  induction items generalizing values with
  | nil => cases values <;> simp [pure_eq_ok]
  | cons item rest ih =>
    rw [List.mapM_cons, bind_eq_ok]
    constructor
    · rintro ⟨value, here, later⟩
      obtain ⟨others, there, whole⟩ := bind_eq_ok.mp later
      obtain rfl := pure_eq_ok.mp whole
      rw [List.map_cons, here, ih.mp there, List.map_cons]
    · intro same
      cases values with
      | nil => simp at same
      | cons value others =>
        obtain ⟨here, there⟩ := List.cons.inj same
        exact ⟨value, here, bind_eq_ok.mpr ⟨others, ih.mpr there, rfl⟩⟩

/-- A list of steps succeeds with values one by one. -/
theorem mapM_eq_ok_iff_forall₂ {items : List α} {step : α → Except ε β} {values : List β} :
    items.mapM step = .ok values ↔ List.Forall₂ (fun item value => step item = .ok value) items values := by
  rw [mapM_eq_ok]
  induction items generalizing values with
  | nil => cases values <;> simp
  | cons item rest ih =>
    cases values with
    | nil => simp
    | cons value others => rw [List.map_cons, List.map_cons, List.cons.injEq, ih, List.forall₂_cons]

/-- Steps that make something of their items on a condition each succeed, as a list, on all of the conditions. -/
theorem mapM_eq_ok_iff_of_each {items : List α} {step : α → Except ε β} {condition : α → Prop} {image : α → β}
    (each : ∀ item ∈ items, ∀ value, step item = .ok value ↔ condition item ∧ image item = value) {values : List β} :
    items.mapM step = .ok values ↔ (∀ item ∈ items, condition item) ∧ items.map image = values := by
  induction items generalizing values with
  | nil => simp [pure_eq_ok]
  | cons item rest ih =>
    obtain ⟨here, later⟩ := List.forall_mem_cons.mp each
    simp only [List.mapM_cons, bind_eq_ok, pure_eq_ok, here, ih later, List.forall_mem_cons, List.map_cons]
    constructor
    · rintro ⟨_, ⟨holds, rfl⟩, _, ⟨hold, rfl⟩, rfl⟩
      exact ⟨⟨holds, hold⟩, rfl⟩
    · rintro ⟨⟨holds, hold⟩, rfl⟩
      exact ⟨_, ⟨holds, rfl⟩, _, ⟨hold, rfl⟩, rfl⟩

/-- Lists of steps that are the same one by one are the same. -/
theorem mapM_congr {items : List α} {step other : α → Except ε β} (same : ∀ item ∈ items, step item = other item) :
    items.mapM step = items.mapM other := by
  induction items with
  | nil => rfl
  | cons item rest ih =>
    obtain ⟨here, later⟩ := List.forall_mem_cons.mp same
    rw [List.mapM_cons, List.mapM_cons, here, ih later]

/-- To make something of each value of a list of steps is to do so of the values of the steps. -/
theorem mapM_map {γ : Type} (image : β → γ) {items : List α} {step : α → Except ε β} :
    items.mapM (fun item => (step item).map image) = (items.mapM step).map (List.map image) := by
  induction items with
  | nil => rfl
  | cons item rest ih =>
    rw [List.mapM_cons, List.mapM_cons, ih]
    cases step item with
    | error error => rfl
    | ok value => cases rest.mapM step <;> rfl

/-- A list of steps with one in its middle. -/
theorem mapM_middle_eq_ok {before later : List α} {item : α} {step : α → Except ε β} {values : List β} :
    (before ++ item :: later).mapM step = .ok values ↔
      ∃ front value back, before.mapM step = .ok front ∧ step item = .ok value ∧ later.mapM step = .ok back ∧
        front ++ value :: back = values := by
  rw [List.mapM_append, bind_eq_ok]
  simp only [List.mapM_cons, bind_eq_ok, pure_eq_ok]
  constructor
  · rintro ⟨front, isFront, _, ⟨value, isValue, back, isBack, rfl⟩, rfl⟩
    exact ⟨front, value, back, isFront, isValue, isBack, rfl⟩
  · rintro ⟨front, value, back, isFront, isValue, isBack, rfl⟩
    exact ⟨front, isFront, _, ⟨value, isValue, back, isBack, rfl⟩, rfl⟩

/-- Each step of a list of steps succeeds with the value in its place. -/
theorem exists_zip_of_mapM {items : List α} {step : α → Except ε β} {values : List β}
    (done : items.mapM step = .ok values) {item : α} (member : item ∈ items) :
    ∃ value, step item = .ok value ∧ (item, value) ∈ items.zip values := by
  have each := mapM_eq_ok_iff_forall₂.mp done
  clear done
  induction each with
  | nil => cases member
  | @cons first value rest values here later ih =>
    rcases List.mem_cons.mp member with rfl | member
    · exact ⟨value, here, List.mem_cons_self ..⟩
    · obtain ⟨value, isValue, inZip⟩ := ih member
      exact ⟨value, isValue, List.mem_cons_of_mem _ inZip⟩

/-- A list of steps succeeds when each of them does. -/
theorem exists_mapM_eq_ok_iff {items : List α} {step : α → Except ε β} :
    (∃ values, items.mapM step = .ok values) ↔ ∀ item ∈ items, ∃ value, step item = .ok value := by
  induction items with
  | nil => simp [pure_eq_ok]
  | cons item rest ih =>
    simp only [List.mem_cons, forall_eq_or_imp, List.mapM_cons, bind_eq_ok, pure_eq_ok, ← ih]
    constructor
    · rintro ⟨_, value, here, others, there, -⟩
      exact ⟨⟨value, here⟩, others, there⟩
    · rintro ⟨⟨value, here⟩, others, there⟩
      exact ⟨value :: others, value, here, others, there, rfl⟩

/-- What each step keeps of its item, the list of steps keeps of the list. -/
theorem map_eq_of_mapM {γ : Type} {items : List α} {step : α → Except ε β} {values : List β}
    {back : β → γ} {front : α → γ}
    (each : ∀ item ∈ items, ∀ value, step item = .ok value → back value = front item)
    (done : items.mapM step = .ok values) : values.map back = items.map front := by
  have steps := mapM_eq_ok.mp done
  clear done
  induction items generalizing values with
  | nil => simpa using steps
  | cons item rest ih =>
    cases values with
    | nil => simp at steps
    | cons value others =>
      obtain ⟨here, there⟩ := List.cons.inj steps
      obtain ⟨first, later⟩ := List.forall_mem_cons.mp each
      rw [List.map_cons, List.map_cons, first value here, ih later there]

/-- The value of a step is among those of the list, and each of these comes from a step. -/
theorem mem_mapM_iff {items : List α} {step : α → Except ε β} {values : List β}
    (done : items.mapM step = .ok values) {value : β} :
    value ∈ values ↔ ∃ item ∈ items, step item = .ok value := by
  have steps := mapM_eq_ok.mp done
  rw [← List.mem_map, steps, List.mem_map]
  constructor
  · intro member
    exact ⟨value, member, rfl⟩
  · rintro ⟨other, member, same⟩
    exact Except.ok.inj same ▸ member

theorem length_of_mapM {items : List α} {step : α → Except ε β} {values : List β}
    (done : items.mapM step = .ok values) : values.length = items.length := by
  have lengths := congrArg List.length (mapM_eq_ok.mp done)
  rw [List.length_map, List.length_map] at lengths
  exact lengths.symm

theorem mapM_take {items : List α} {step : α → Except ε β} {values : List β}
    (done : items.mapM step = .ok values) (count : Nat) :
    (items.take count).mapM step = .ok (values.take count) := by
  rw [mapM_eq_ok, List.map_take, List.map_take, mapM_eq_ok.mp done]

theorem mapM_drop {items : List α} {step : α → Except ε β} {values : List β}
    (done : items.mapM step = .ok values) (count : Nat) :
    (items.drop count).mapM step = .ok (values.drop count) := by
  rw [mapM_eq_ok, List.map_drop, List.map_drop, mapM_eq_ok.mp done]

/-- A list of steps fails with the error of the first of them that fails. -/
theorem mapM_eq_error_iff {items : List α} {step : α → Except ε β} {error : ε} :
    items.mapM step = .error error ↔
      ∃ before item later, items = before ++ item :: later ∧
        (∀ earlier ∈ before, ∃ value, step earlier = .ok value) ∧ step item = .error error := by
  induction items with
  | nil => simp [pure, Except.pure]
  | cons item rest ih =>
    rw [List.mapM_cons, bind_eq_error]
    constructor
    · rintro (here | ⟨value, isValue, failed⟩)
      · exact ⟨[], item, rest, rfl, List.forall_mem_nil _, here⟩
      · rcases bind_eq_error.mp failed with there | ⟨others, -, never⟩
        · obtain ⟨before, first, later, rfl, passed, fails⟩ := ih.mp there
          exact ⟨item :: before, first, later, rfl, List.forall_mem_cons.mpr ⟨⟨value, isValue⟩, passed⟩, fails⟩
        · cases never
    · rintro ⟨before, first, later, split, passed, fails⟩
      cases before with
      | nil =>
        obtain ⟨rfl, rfl⟩ := List.cons.inj split
        exact .inl fails
      | cons earlier before =>
        obtain ⟨rfl, rfl⟩ := List.cons.inj split
        obtain ⟨⟨value, isValue⟩, passed⟩ := List.forall_mem_cons.mp passed
        exact .inr ⟨value, isValue, bind_eq_error.mpr (.inl (ih.mpr ⟨before, first, later, rfl, passed, fails⟩))⟩

/-- A list of steps fails with the error of one of them. -/
theorem exists_of_mapM_eq_error {items : List α} {step : α → Except ε β} {error : ε}
    (failed : items.mapM step = .error error) : ∃ item ∈ items, step item = .error error := by
  obtain ⟨before, item, later, rfl, -, fails⟩ := mapM_eq_error_iff.mp failed
  exact ⟨item, by simp, fails⟩

/-- A list of checks fails with the error of one of them. -/
theorem exists_of_forM_eq_error {items : List α} {step : α → Except ε Unit} {error : ε}
    (failed : items.forM step = .error error) : ∃ item ∈ items, step item = .error error := by
  induction items with
  | nil => cases failed
  | cons item rest ih =>
    rw [List.forM] at failed
    rcases bind_eq_error.mp failed with here | ⟨⟨⟩, -, later⟩
    · exact ⟨item, List.mem_cons_self .., here⟩
    · obtain ⟨other, member, same⟩ := ih later
      exact ⟨other, List.mem_cons_of_mem _ member, same⟩

theorem forM_eq_ok {items : List α} {step : α → Except ε Unit} :
    items.forM step = .ok () ↔ ∀ item ∈ items, step item = .ok () := by
  induction items with
  | nil => simp [pure_eq_ok]
  | cons item rest ih =>
    rw [List.forM, bind_eq_ok]
    simp only [List.mem_cons, forall_eq_or_imp, ← ih]
    constructor
    · rintro ⟨⟨⟩, here, there⟩
      exact ⟨here, there⟩
    · rintro ⟨here, there⟩
      exact ⟨(), here, there⟩

/-! ## Lists item by item -/

section

variable {γ : Type} {first : α → β → Prop} {second : α → γ → Prop} {items : List α} {values : List β} {others : List γ}

/-- Two lists that are related to the same list are related. -/
theorem forall₂_of_common (left : List.Forall₂ first items values) (right : List.Forall₂ second items others) :
    List.Forall₂ (fun value other => ∃ item, first item value ∧ second item other) values others := by
  induction left generalizing others with
  | nil =>
    cases right
    exact .nil
  | cons here _ ih =>
    cases right with
    | cons there later => exact .cons ⟨_, here, there⟩ (ih later)

/-- Of two lists that are related to the same list, one is related to it besides the other. -/
theorem forall₂_and (left : List.Forall₂ first items values) (right : List.Forall₂ second items others) :
    List.Forall₂ (fun item value => first item value ∧ ∃ other, second item other) items values := by
  induction left generalizing others with
  | nil => exact .nil
  | cons here _ ih =>
    cases right with
    | cons there later => exact .cons ⟨here, _, there⟩ (ih later)

/-- Of two lists that are related, each item of the second is related to one of the first. -/
theorem exists_mem_of_forall₂ (each : List.Forall₂ first items values) :
    ∀ value ∈ values, ∃ item ∈ items, first item value := by
  induction each with
  | nil => simp
  | cons here _ ih =>
    refine List.forall_mem_cons.mpr ⟨⟨_, List.mem_cons_self .., here⟩, fun value member => ?_⟩
    obtain ⟨item, isItem, related⟩ := ih value member
    exact ⟨item, List.mem_cons_of_mem _ isItem, related⟩

/-- What exists for each item of a list makes a list. -/
theorem exists_forall₂_of_forall (each : ∀ item ∈ items, ∃ value, first item value) :
    ∃ values, List.Forall₂ first items values := by
  induction items with
  | nil => exact ⟨[], .nil⟩
  | cons item rest ih =>
    obtain ⟨⟨value, here⟩, later⟩ := List.forall_mem_cons.mp each
    obtain ⟨values, there⟩ := ih later
    exact ⟨value :: values, .cons here there⟩

/-- What is chosen for each item of a list and its value makes a list. -/
theorem exists_forall₂ {third : β → γ → Prop}
    (each : List.Forall₂ (fun item value => ∃ other, second item other ∧ third value other) items values) :
    ∃ others, List.Forall₂ second items others ∧ List.Forall₂ third values others := by
  induction each with
  | nil => exact ⟨[], .nil, .nil⟩
  | cons here _ ih =>
    obtain ⟨other, left, right⟩ := here
    obtain ⟨others, lefts, rights⟩ := ih
    exact ⟨other :: others, .cons left lefts, .cons right rights⟩

end

end RecordMapper.Results
