import RecordMapper.Proofs.Execution.Finding

/-! # Embedding and taking apart

A store embeds associated rows in a row one join after the other, each under the field of its join. When
the row is read, these are taken out again and the rest becomes the record. What a join embeds depends on the
column of the row that it reads alone, and what is read of the rest depends on the fields outside the joins.
-/

namespace RecordMapper

open Results

variable {σ : Type}

/-! ## Rows with joins -/

namespace Join

variable {joined : List (Join × List Record)}

/-- The fields that joins embed under. -/
def fields (joins : List Join) : List String :=
  joins.map Join.field

/-- Whether a field is outside of joins. -/
def leaves (joins : List Join) (name : String) : Bool :=
  !(fields joins).contains name

theorem leaves_iff {joins : List Join} {name : String} :
    leaves joins name = true ↔ name ∉ fields joins := by
  simp [leaves]

section

variable {join : Join} {children : List Record} {row : Record} {key : Json}

theorem embed_of_absent (absent : Json.present? (Dictionary.get? row join.parentKey) = none) :
    join.embed children row = join.empty := by
  rw [embed, absent]

theorem embed_singular (singular : join.collection = false)
    (holds : Json.present? (Dictionary.get? row join.parentKey) = some key) :
    join.embed children row = ((children.find? fun child =>
      match Dictionary.get? child join.childKey with
      | some held => held.same key
      | none => false).map Json.record).getD .null := by
  rw [embed, holds, empty, singular]
  rfl

theorem embed_plural {criteria : Criteria} (plural : join.collection = true)
    (isCriteria : join.criteria = some criteria)
    (holds : Json.present? (Dictionary.get? row join.parentKey) = some key) :
    join.embed children row =
      .list ((((join.restricted criteria key).select children).map (Record.project criteria.selection [])).map
        .record) := by
  rw [embed, holds, plural, isCriteria, List.map_map]
  rfl

/-- Without criteria a plural join embeds nothing. -/
theorem embed_of_never (plural : join.collection = true) (never : join.criteria = none) :
    join.embed children row = .list [] := by
  rw [embed, empty, plural, never]
  split <;> rfl

end

/-- What a join embeds depends on the column that it reads. -/
theorem embed_congr {join : Join} {children : List Record} {row other : Record}
    (same : Dictionary.get? row join.parentKey = Dictionary.get? other join.parentKey) :
    join.embed children row = join.embed children other := by
  rw [embed, embed, same]

theorem get?_attach (row : Record) (entry : Join × List Record) (name : String) :
    Dictionary.get? (attach row entry) name =
      if entry.1.field = name then some (entry.1.embed entry.2 row) else Dictionary.get? row name :=
  Dictionary.get?_insert ..

/-- Joins leave alone what they do not embed under. -/
theorem get?_foldl_attach {name : String} (outside : name ∉ fields (joined.map Prod.fst)) (row : Record) :
    Dictionary.get? (joined.foldl attach row) name = Dictionary.get? row name := by
  induction joined generalizing row with
  | nil => rfl
  | cons entry rest ih =>
    obtain ⟨differ, outside⟩ := List.ne_and_not_mem_of_not_mem_cons outside
    rw [List.foldl_cons, ih outside, get?_attach, if_neg (Ne.symm differ)]

/-- The fields outside of joins are those of the row without joins. -/
theorem filter_foldl_attach {keep : String → Bool}
    (drops : ∀ field ∈ fields (joined.map Prod.fst), keep field = false) (row : Record) :
    (joined.foldl attach row).filter (fun entry => keep entry.1) = row.filter fun entry => keep entry.1 := by
  induction joined generalizing row with
  | nil => rfl
  | cons entry rest ih =>
    obtain ⟨here, later⟩ := List.forall_mem_cons.mp drops
    rw [List.foldl_cons, ih later, attach, Dictionary.filter_insert here]

/-- Under the field of a join stands what it embeds in the row with the joins before it. -/
theorem get?_foldl_attach_field {before later : List (Join × List Record)} {join : Join}
    {children : List Record} (single : join.field ∉ fields (later.map Prod.fst)) (row : Record) :
    Dictionary.get? ((before ++ (join, children) :: later).foldl attach row) join.field =
      some (join.embed children (before.foldl attach row)) := by
  rw [List.foldl_append, List.foldl_cons, get?_foldl_attach single, get?_attach, if_pos rfl]

/-- Joins are taken out of a row one by one. -/
theorem map_fst_detach (joins : List Join) (row : Record) : (detach joins row).1.map Prod.fst = joins := by
  induction joins generalizing row with
  | nil => rfl
  | cons join rest ih => exact congrArg (join :: ·) (ih _)

/-- What is left of a row when joins are taken out of it are the fields outside of them. -/
theorem detach_rest (joins : List Join) (row : Record) :
    (detach joins row).2 = row.filter fun entry => leaves joins entry.1 := by
  induction joins generalizing row with
  | nil => simp [detach, leaves, fields]
  | cons join rest ih =>
    rw [detach, ih, Dictionary.erase_eq_filter, List.filter_filter]
    refine List.filter_congr fun entry _ => ?_
    rw [Bool.eq_iff_iff, Bool.and_eq_true, leaves_iff, leaves_iff, fields, fields, List.map_cons, List.mem_cons,
      not_or, decide_eq_true_iff, and_comm]

/-- What stands under the fields of joins, and the rest of the row. -/
theorem detach_eq {joins : List Join} (nodup : (fields joins).Nodup) (row : Record) :
    detach joins row = (joins.map fun join => (join, Dictionary.get? row join.field),
      row.filter fun entry => leaves joins entry.1) := by
  refine Prod.ext ?_ (detach_rest joins row)
  induction joins generalizing row with
  | nil => rfl
  | cons join rest ih =>
    obtain ⟨fresh, nodup⟩ := List.nodup_cons.mp nodup
    refine congrArg (_ :: ·) ((ih nodup _).trans (List.map_congr_left fun other member => ?_))
    have differ : join.field ≠ other.field := fun same => fresh (same ▸ List.mem_map_of_mem member)
    rw [Dictionary.get?_erase, if_neg differ]

end Join

/-- The joins of a query, with the rows that it joins. -/
theorem Store.joins_of_children {store : Store} {datastore : String} {joins : List Join}
    {joined : List (Join × List Record)} (done : store.children datastore joins = .ok joined) :
    joined.map Prod.fst = joins := by
  have same : joined.map Prod.fst = joins.map id := map_eq_of_mapM (fun join _ entry step => by
    obtain ⟨rows, -, rfl⟩ := map_eq_ok.mp step
    rfl) done
  exact same.trans (List.map_id joins)

namespace Record

/-- A projection keeps what is always shown. -/
theorem get?_project {selection : Option (List String)} {always : List String} {name : String}
    (isShown : name ∈ always) (row : Record) :
    Dictionary.get? (project selection always row) name = Dictionary.get? row name := by
  unfold project
  split
  · rfl
  · rw [Dictionary.get?_filter_names row fun name => _ || _, if_pos]
    rw [List.contains_iff_mem.mpr isShown, Bool.or_true]

/-- Besides what is always shown, a projection keeps what is selected. -/
theorem filter_project {selection : Option (List String)} {always : List String} {keep : String → Bool}
    (apart : ∀ name ∈ always, keep name = false) (row : Record) :
    (project selection always row).filter (fun entry => keep entry.1) =
      row.filter fun entry => Criteria.selects selection entry.1 && keep entry.1 := by
  unfold project Criteria.selects
  cases selection with
  | none => simp
  | some names =>
    dsimp only
    rw [List.filter_filter]
    refine List.filter_congr fun entry _ => ?_
    by_cases isShown : entry.1 ∈ always
    · simp [apart _ isShown]
    · simp [isShown, Bool.and_comm]

/-- Of a row with joins that is cut down, what is outside of the joins is what is shown of the row. -/
theorem filter_project_attached (joined : List (Join × List Record)) (selection : Option (List String))
    (row : Record) :
    (project selection (Join.fields (joined.map Prod.fst)) (joined.foldl Join.attach row)).filter
        (fun entry => Join.leaves (joined.map Prod.fst) entry.1) =
      row.filter fun entry => Criteria.selects selection entry.1 && Join.leaves (joined.map Prod.fst) entry.1 := by
  rw [filter_project fun field isField => Bool.eq_false_iff.mpr fun leaves => Join.leaves_iff.mp leaves isField]
  refine @Join.filter_foldl_attach joined (fun name =>
    Criteria.selects selection name && Join.leaves (joined.map Prod.fst) name) (fun field isField => ?_) row
  rw [Bool.and_eq_false_iff]
  exact .inr (Bool.eq_false_iff.mpr fun leaves => Join.leaves_iff.mp leaves isField)

end Record

/-! ## Reading a row with joins -/

/-- A record is answered with that fits its model, if it is to be verified. -/
theorem RegisteredModel.verified_eq_ok {registered : RegisteredModel σ} {verified : Bool} {record other : Record} :
    (if verified = true then registered.verify record >>= fun _ => pure record else pure record) = .ok other ↔
      record = other ∧ (verified = true → registered.model.drift? record = none) := by
  cases verified with
  | false => simp [pure_eq_ok]
  | true =>
    rw [if_pos rfl, bind_eq_ok]
    unfold verify
    split <;> simp_all [pure_eq_ok]

namespace Registry

variable {registry : Registry σ} {registered : RegisteredModel σ}

/-- What joins embed is written over a record field by field. -/
theorem foldlM_embedded {verified : Bool} {detached : List (Join × Option Json)} {start record : Record} :
    (detached.foldlM (fun record entry =>
        (registry.embedded registered verified entry.1 entry.2).map fun value =>
          Dictionary.insert record entry.1.field value) start) = .ok record ↔
      ∃ values, detached.mapM (fun entry => registry.embedded registered verified entry.1 entry.2) = .ok values ∧
        Dictionary.insertAll start ((Join.fields (detached.map Prod.fst)).zip values) = record := by
  induction detached generalizing start with
  | nil => simp [pure_eq_ok, Dictionary.insertAll, Join.fields]
  | cons entry rest ih =>
    rw [List.foldlM_cons, List.mapM_cons, bind_eq_ok]
    simp only [map_eq_ok, ih, bind_eq_ok, pure_eq_ok]
    constructor
    · rintro ⟨_, ⟨value, here, rfl⟩, values, there, rfl⟩
      exact ⟨_, ⟨value, here, values, there, rfl⟩, rfl⟩
    · rintro ⟨_, ⟨value, here, values, there, rfl⟩, rfl⟩
      exact ⟨_, ⟨value, here, rfl⟩, values, there, rfl⟩

/-- A row with joins is read as a record: the fields outside of the joins are raised, and what the joins take
out of the row is read and written over that. -/
theorem materializeRow_eq_ok_detached {joins : List Join} {verified : Bool} {row record : Record} :
    registry.materializeRow registered joins verified row = .ok record ↔
      ∃ bare values, registered.columns.raise (row.filter fun entry => Join.leaves joins entry.1) = .ok bare ∧
        (Join.detach joins row).1.mapM (fun entry => registry.embedded registered verified entry.1 entry.2) =
          .ok values ∧
        Dictionary.insertAll bare ((Join.fields joins).zip values) = record ∧
        (verified = true → registered.model.drift? record = none) := by
  unfold materializeRow
  dsimp only
  rw [bind_eq_ok, Join.detach_rest]
  simp only [RegisteredModel.raise, mapError_eq_ok, bind_eq_ok, foldlM_embedded, Join.map_fst_detach]
  constructor
  · rintro ⟨bare, raised, _, ⟨values, read, rfl⟩, done⟩
    obtain ⟨rfl, fit⟩ := RegisteredModel.verified_eq_ok.mp done
    exact ⟨bare, values, raised, read, rfl, fit⟩
  · rintro ⟨bare, values, raised, read, rfl, fit⟩
    exact ⟨bare, raised, _, ⟨values, read, rfl⟩, RegisteredModel.verified_eq_ok.mpr ⟨rfl, fit⟩⟩

/-- Where no two joins have one field, each of them reads what stands under its own. -/
theorem materializeRow_eq_ok_iff {joins : List Join} (nodup : (Join.fields joins).Nodup) {verified : Bool}
    {row record : Record} :
    registry.materializeRow registered joins verified row = .ok record ↔
      ∃ bare values, registered.columns.raise (row.filter fun entry => Join.leaves joins entry.1) = .ok bare ∧
        joins.mapM (fun join => registry.embedded registered verified join (Dictionary.get? row join.field)) =
          .ok values ∧
        Dictionary.insertAll bare ((Join.fields joins).zip values) = record ∧
        (verified = true → registered.model.drift? record = none) := by
  rw [materializeRow_eq_ok_detached, Join.detach_eq nodup, List.mapM_map]
  rfl

/-! ## Finding rows with joins -/

/-- Whether a record is what a row is read as, once joins are embedded in it and a selection has cut it down. -/
def ReadAs (registry : Registry σ) (registered : RegisteredModel σ) (joined : List (Join × List Record))
    (selection : Option (List String)) (verified : Bool) (row record : Record) : Prop :=
  ∃ bare values,
    registered.columns.raise (row.filter fun entry =>
      Criteria.selects selection entry.1 && Join.leaves (joined.map Prod.fst) entry.1) = .ok bare ∧
    joined.mapM (fun entry => registry.embedded registered verified entry.1
      (Dictionary.get? (joined.foldl Join.attach row) entry.1.field)) = .ok values ∧
    Dictionary.insertAll bare ((Join.fields (joined.map Prod.fst)).zip values) = record ∧
    (verified = true → registered.model.drift? record = none)

/-- Without joins, the fields that are shown are raised. -/
theorem readAs_nil {verified : Bool} {row record : Record} :
    registry.ReadAs registered [] none verified row record ↔
      registered.columns.raise row = .ok record ∧ (verified = true → registered.model.drift? record = none) := by
  have all : (row.filter fun entry => Criteria.selects none entry.1 && Join.leaves [] entry.1) = row :=
    List.filter_eq_self.mpr fun _ _ => rfl
  constructor
  · rintro ⟨bare, values, raised, -, rfl, fits⟩
    exact ⟨(congrArg _ all).symm.trans raised, fits⟩
  · rintro ⟨raised, fits⟩
    exact ⟨record, [], (congrArg _ all).trans raised, rfl, rfl, fits⟩

/-- With one join, what it embeds in the row is read and written over the fields that are shown. -/
theorem readAs_single {join : Join} {children : List Record} {selection : Option (List String)} {verified : Bool}
    {row record : Record} :
    registry.ReadAs registered [(join, children)] selection verified row record ↔
      ∃ bare value, registered.columns.raise (row.filter fun entry =>
          Criteria.selects selection entry.1 && Join.leaves [join] entry.1) = .ok bare ∧
        registry.embedded registered verified join (some (join.embed children row)) = .ok value ∧
        Dictionary.insert bare join.field value = record ∧
        (verified = true → registered.model.drift? record = none) := by
  have attached : Dictionary.get? (Join.attach row (join, children)) join.field = some (join.embed children row) := by
    rw [Join.get?_attach, if_pos rfl]
  unfold ReadAs
  simp only [List.mapM_cons, List.mapM_nil, List.foldl_cons, List.foldl_nil, attached, bind_eq_ok, pure_eq_ok]
  constructor
  · rintro ⟨bare, _, raised, ⟨value, embedded, _, rfl, rfl⟩, rfl, fits⟩
    exact ⟨bare, value, raised, embedded, rfl, fits⟩
  · rintro ⟨bare, value, raised, embedded, rfl, fits⟩
    exact ⟨bare, [value], raised, ⟨value, embedded, [], rfl, rfl⟩, rfl, fits⟩

theorem materializeRow_attached {joined : List (Join × List Record)}
    (nodup : (Join.fields (joined.map Prod.fst)).Nodup) {selection : Option (List String)} {verified : Bool}
    {row record : Record} :
    registry.materializeRow registered (joined.map Prod.fst) verified
        (Record.project selection (Join.fields (joined.map Prod.fst)) (joined.foldl Join.attach row)) =
          .ok record ↔
      registry.ReadAs registered joined selection verified row record := by
  have embedded : (joined.map Prod.fst).mapM (fun join => registry.embedded registered verified join
        (Dictionary.get? (Record.project selection (Join.fields (joined.map Prod.fst))
          (joined.foldl Join.attach row)) join.field)) =
      joined.mapM fun entry => registry.embedded registered verified entry.1
        (Dictionary.get? (joined.foldl Join.attach row) entry.1.field) := by
    rw [List.mapM_map]
    refine mapM_congr fun entry member => ?_
    have isField : entry.1.field ∈ Join.fields (joined.map Prod.fst) := by
      rw [Join.fields, List.map_map]
      exact List.mem_map_of_mem member
    rw [Function.comp_apply, Record.get?_project isField]
  rw [materializeRow_eq_ok_iff nodup, embedded, Record.filter_project_attached]
  rfl

/-- A store finds rows that are read as records when the rows that are selected are read as them one by one. -/
theorem find_read_iff {store : Store} {physical : PhysicalQuery} (nodup : (Join.fields physical.joins).Nodup)
    {options : Meta} {records : List Record} :
    (∃ answer, store.find registered.datastore physical = .ok answer ∧
        registry.materialize registered physical.joins options answer = .ok records) ↔
      ∃ rows joined, store.rows registered.datastore physical.table = .ok rows ∧
        store.children registered.datastore physical.joins = .ok joined ∧
        List.Forall₂ (registry.ReadAs registered joined physical.criteria.selection (!options.skipVerification))
          (physical.criteria.select rows) records := by
  have each {joined : List (Join × List Record)}
      (isJoined : store.children registered.datastore physical.joins = .ok joined) (rows : List Record) :
      registry.materialize registered physical.joins options
          ((rows.map fun row => joined.foldl Join.attach row).map
            (Record.project physical.criteria.selection (physical.joins.map Join.field))) = .ok records ↔
        List.Forall₂ (registry.ReadAs registered joined physical.criteria.selection (!options.skipVerification))
          rows records := by
    have joins := Store.joins_of_children isJoined
    rw [materialize, mapM_eq_ok_iff_forall₂, List.map_map, List.forall₂_map_left_iff, ← joins]
    exact iff_of_eq (congrArg (List.Forall₂ · rows records) (funext₂ fun row record => propext
      (materializeRow_attached (joins ▸ nodup))))
  constructor
  · rintro ⟨answer, found, materialized⟩
    obtain ⟨rows, stored, found⟩ := bind_eq_ok.mp found
    obtain ⟨joined, isJoined, found⟩ := bind_eq_ok.mp found
    rw [← pure_eq_ok.mp found] at materialized
    exact ⟨rows, joined, stored, isJoined, (each isJoined _).mp materialized⟩
  · rintro ⟨rows, joined, stored, isJoined, read⟩
    exact ⟨_, bind_eq_ok.mpr ⟨rows, stored, bind_eq_ok.mpr ⟨joined, isJoined, rfl⟩⟩, (each isJoined _).mpr read⟩

end Registry

end RecordMapper
