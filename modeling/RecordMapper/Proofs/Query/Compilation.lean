import RecordMapper.Proofs.Criteria.Fields
import RecordMapper.Query.Logical

/-! # What a compiled query is made of

Every part of a compiled query is compiled from the same part of its description, and the parts do
not depend on each other. Values and records for writing name the attributes that the description
names; an update stamps some more.
-/

namespace RecordMapper

open Results

/-- The names of the fields of a value; only a record has some. -/
def Json.fieldNames : Json → List String
  | .record fields => Dictionary.names fields
  | _ => []

namespace Model

/-! ## Values for writing -/

/-- Every one of some names is a stored attribute. -/
def Stores (model : Model) (names : List String) : Prop :=
  ∀ name ∈ names, name ∈ Dictionary.names model.stored

/-- Every one of some names is an attribute. -/
def Declares (model : Model) (names : List String) : Prop :=
  ∀ name ∈ names, name ∈ Dictionary.names model.attributes

/-- The attributes that every update writes. -/
def stamped (model : Model) : List String :=
  Dictionary.names (model.attributes.filter fun entry => entry.2.autoUpdatedAt)

theorem attribute?_mem {model : Model} {name : String} {declared : Attribute}
    (found : model.attribute? name = some declared) : name ∈ Dictionary.names model.attributes :=
  List.mem_map.mpr ⟨_, Dictionary.mem_of_get? found, rfl⟩

theorem givenAttribute_eq_ok {model : Model} {name : String} {declared : Attribute}
    (done : model.givenAttribute name = .ok declared) : model.attribute? name = some declared := by
  unfold givenAttribute at done
  split at done
  · next found => rw [found, Except.ok.inj done]
  · cases done

theorem readChange_eq_ok {model : Model} {entry change : String × Json}
    (done : model.readChange entry = .ok change) :
    change = entry ∧ entry.1 ∈ Dictionary.names model.attributes := by
  unfold readChange at done
  obtain ⟨declared, found, done⟩ := bind_eq_ok.mp done
  split at done
  · cases done
  · obtain ⟨⟨⟩, -, done⟩ := bind_eq_ok.mp done
    exact ⟨(pure_eq_ok.mp done).symm, attribute?_mem (givenAttribute_eq_ok found)⟩

theorem readEntry_eq_ok {model : Model} {entry : String × Json} {entries : List (String × Json)}
    (done : model.readEntry entry = .ok entries) :
    (entries = [entry] ∨ entries = [] ∧ entry.1 = model.primaryKey) ∧
      entry.1 ∈ Dictionary.names model.attributes := by
  unfold readEntry at done
  obtain ⟨declared, found, done⟩ := bind_eq_ok.mp done
  refine ⟨?_, attribute?_mem (givenAttribute_eq_ok found)⟩
  split at done
  · next nullKey => exact .inr ⟨(pure_eq_ok.mp done).symm, nullKey.1⟩
  · obtain ⟨⟨⟩, -, done⟩ := bind_eq_ok.mp done
    exact .inl (pure_eq_ok.mp done).symm

theorem stamped_declares (model : Model) : model.Declares model.stamped := by
  intro name member
  obtain ⟨entry, isStamped, rfl⟩ := List.mem_map.mp member
  exact List.mem_map.mpr ⟨entry, (List.mem_filter.mp isStamped).1, rfl⟩

/-- An update writes the attributes that it is given values for and those that it stamps. -/
theorem readChanges_names {model : Model} {now : Instant} {raw : Json} {values : Record}
    (done : model.readChanges now raw = .ok values) :
    model.Declares raw.fieldNames ∧
      ∀ name, name ∈ Dictionary.names values ↔ name ∈ raw.fieldNames ∨ name ∈ model.stamped := by
  unfold readChanges at done
  split at done
  · next entries =>
    obtain ⟨given, read, done⟩ := bind_eq_ok.mp done
    obtain rfl := pure_eq_ok.mp done
    have same : given.map id = entries.map id :=
      map_eq_of_mapM (fun entry _ change step => (readChange_eq_ok step).1) read
    obtain rfl : given = entries := by simpa using same
    constructor
    · intro name member
      obtain ⟨entry, isEntry, rfl⟩ := List.mem_map.mp member
      obtain ⟨change, step⟩ := exists_mapM_eq_ok_iff.mp ⟨_, read⟩ entry isEntry
      exact (readChange_eq_ok step).2
    · intro name
      rw [Dictionary.mem_names_insertAll, or_comm]
      by_cases isGiven : name ∈ Dictionary.names given
      · simp [Json.fieldNames, isGiven]
      · have absent : Dictionary.contains given name = false := by
          rw [Bool.eq_false_iff, ne_eq, Dictionary.contains_iff]
          exact isGiven
        simp [Json.fieldNames, stamps, stamped, Dictionary.names, absent]
  · cases done

/-- An update that is given no values stamps. -/
theorem readChanges_empty (model : Model) (now : Instant) :
    model.readChanges now (.record []) = .ok (Dictionary.ofList (model.stamps now [])) := rfl

/-- A new record is stored when the attributes that it is given values for are; what is filled in
always is. -/
theorem readRecord_names {model : Model} {now : Instant} {raw : Json} {record : Record}
    (key : model.primaryKey ∈ Dictionary.names model.stored)
    (done : model.readRecord now raw = .ok record) :
    model.Declares raw.fieldNames ∧
      (model.Stores raw.fieldNames ↔ model.Stores (Dictionary.names record)) := by
  unfold readRecord at done
  split at done
  · next entries =>
    obtain ⟨lists, read, done⟩ := bind_eq_ok.mp done
    obtain ⟨filled, filling, done⟩ := bind_eq_ok.mp done
    obtain rfl := pure_eq_ok.mp done
    constructor
    · intro name member
      obtain ⟨entry, isEntry, rfl⟩ := List.mem_map.mp member
      obtain ⟨list, step⟩ := exists_mapM_eq_ok_iff.mp ⟨_, read⟩ entry isEntry
      exact (readEntry_eq_ok step).2
    · have filledStored : model.Stores (filled.map Prod.fst) := by
        intro name member
        obtain ⟨fill, isFilled, rfl⟩ := List.mem_map.mp member
        obtain ⟨entry, isOpen, step⟩ := (mem_mapM_iff filling).mp isFilled
        obtain ⟨value, -, rfl⟩ := map_eq_ok.mp step
        exact List.mem_map.mpr ⟨entry, (List.mem_filter.mp isOpen).1, rfl⟩
      have kept (entry : String × Json) : entry ∈ lists.flatten → entry ∈ entries := by
        intro member
        obtain ⟨list, isList, inList⟩ := List.mem_flatten.mp member
        obtain ⟨other, isEntry, step⟩ := (mem_mapM_iff read).mp isList
        rcases (readEntry_eq_ok step).1 with rfl | ⟨rfl, -⟩
        · exact List.mem_singleton.mp inList ▸ isEntry
        · cases inList
      have left (entry : String × Json) (isEntry : entry ∈ entries) :
          entry ∈ lists.flatten ∨ entry.1 = model.primaryKey := by
        obtain ⟨list, step⟩ := exists_mapM_eq_ok_iff.mp ⟨_, read⟩ entry isEntry
        rcases (readEntry_eq_ok step).1 with rfl | ⟨-, isKey⟩
        · exact .inl (List.mem_flatten.mpr ⟨_, (mem_mapM_iff read).mpr ⟨entry, isEntry, step⟩,
            List.mem_singleton_self _⟩)
        · exact .inr isKey
      constructor
      · intro stores name member
        rcases Dictionary.mem_names_insertAll.mp member with isFilled | isGiven
        · exact filledStored name isFilled
        · obtain ⟨entry, isEntry, rfl⟩ := List.mem_map.mp isGiven
          exact stores _ (List.mem_map.mpr ⟨entry, kept entry isEntry, rfl⟩)
      · intro stores name member
        obtain ⟨entry, isEntry, rfl⟩ := List.mem_map.mp member
        rcases left entry isEntry with isGiven | isKey
        · exact stores _ (Dictionary.mem_names_insertAll.mpr
            (.inr (List.mem_map.mpr ⟨entry, isGiven, rfl⟩)))
        · exact isKey ▸ key
  · cases done

theorem readRecordsFrom_names {model : Model} {now : Instant} {index : Nat} {items : List Json}
    {records : List Record} (key : model.primaryKey ∈ Dictionary.names model.stored)
    (done : model.readRecordsFrom now index items = .ok records) :
    model.Declares (items.flatMap Json.fieldNames) ∧
      (model.Stores (items.flatMap Json.fieldNames) ↔
        ∀ record ∈ records, model.Stores (Dictionary.names record)) := by
  induction items generalizing index records with
  | nil =>
    obtain rfl := Except.ok.inj done
    simp [Declares, Stores]
  | cons item rest ih =>
    obtain ⟨record, here, done⟩ := bind_eq_ok.mp done
    obtain ⟨others, there, done⟩ := bind_eq_ok.mp done
    obtain rfl := pure_eq_ok.mp done
    obtain ⟨declares, stores⟩ := readRecord_names key (mapError_eq_ok.mp here)
    obtain ⟨declaresRest, storesRest⟩ := ih there
    rw [List.flatMap_cons]
    constructor
    · exact List.forall_mem_append.mpr ⟨declares, declaresRest⟩
    · rw [List.forall_mem_cons, ← stores, ← storesRest]
      exact List.forall_mem_append

/-- Of the entries of a new record, those that are kept stay in order. -/
theorem readEntries_sublist {model : Model} {entries : List (String × Json)}
    {lists : List (List (String × Json))} (done : entries.mapM model.readEntry = .ok lists) :
    lists.flatten.Sublist entries := by
  have steps := mapM_eq_ok.mp done
  clear done
  induction entries generalizing lists with
  | nil =>
    obtain rfl : lists = [] := by simpa using steps
    exact List.Sublist.refl []
  | cons entry rest ih =>
    cases lists with
    | nil => simp at steps
    | cons list others =>
      obtain ⟨here, there⟩ := List.cons.inj steps
      rw [List.flatten_cons]
      rcases (readEntry_eq_ok here).1 with rfl | ⟨rfl, -⟩
      · exact (ih there).cons_cons entry
      · exact (ih there).cons entry

/-- A new record is in order if what it is read from is. -/
theorem readRecord_sorted {model : Model} {now : Instant} {raw : Json} (given : raw.Sorted)
    {record : Record} (done : model.readRecord now raw = .ok record) : Dictionary.Sorted record := by
  unfold readRecord at done
  split at done
  · next entries =>
    obtain ⟨lists, read, done⟩ := bind_eq_ok.mp done
    obtain ⟨filled, -, done⟩ := bind_eq_ok.mp done
    obtain rfl := pure_eq_ok.mp done
    have kept : Dictionary.Sorted lists.flatten :=
      List.Pairwise.sublist ((readEntries_sublist read).map Prod.fst) given.1
    exact Dictionary.sorted_insertAll kept filled
  · cases done

theorem readRecordsFrom_sorted {model : Model} {now : Instant} {index : Nat} {items : List Json}
    (given : Json.SortedItems items) {records : List Record}
    (done : model.readRecordsFrom now index items = .ok records) :
    ∀ record ∈ records, Dictionary.Sorted record := by
  induction items generalizing index records with
  | nil =>
    obtain rfl := Except.ok.inj done
    simp
  | cons item rest ih =>
    obtain ⟨itemGiven, restGiven⟩ := given
    obtain ⟨record, here, done⟩ := bind_eq_ok.mp done
    obtain ⟨others, there, done⟩ := bind_eq_ok.mp done
    obtain rfl := pure_eq_ok.mp done
    exact List.forall_mem_cons.mpr ⟨readRecord_sorted itemGiven (mapError_eq_ok.mp here), ih restGiven there⟩

end Model

namespace Description

variable {σ : Type} {registry : Registry σ} {now : Instant} {query : Description σ}
    {compiled : LogicalQuery σ}

/-- The parts of a compiled query, and what each of them comes from. -/
structure CompiledTo (query : Description σ) (registry : Registry σ) (now : Instant) (model : Model)
    (compiled : LogicalQuery σ) : Prop where
  method_eq : compiled.method = query.method
  model_eq : compiled.model = query.model
  options_eq : compiled.options = query.options
  parts : query.checkParts = .ok ()
  criteria : query.compileCriteria model = .ok compiled.criteria
  values : query.compileValues model now = .ok compiled.values
  records : query.compileRecords model now = .ok compiled.records
  numericAttribute : query.compileNumericAttribute model = .ok compiled.numericAttribute
  populates : query.compilePopulates registry model = .ok compiled.populates
  iteratee : query.compileIteratee = .ok compiled.iteratee

theorem compile_eq_ok :
    query.compile registry now = .ok compiled ↔
      ∃ registered, registry.model? query.model = some registered ∧
        query.CompiledTo registry now registered.model compiled := by
  unfold compile
  cases found : registry.model? query.model with
  | none =>
    refine iff_of_false (fun done => ?_) (by simp)
    cases done
  | some registered =>
    constructor
    · intro done
      obtain ⟨_, same, done⟩ := bind_eq_ok.mp done
      obtain rfl := Except.ok.inj same
      obtain ⟨⟨⟩, parts, done⟩ := bind_eq_ok.mp done
      obtain ⟨criteria, criteriaDone, done⟩ := bind_eq_ok.mp done
      obtain ⟨values, valuesDone, done⟩ := bind_eq_ok.mp done
      obtain ⟨records, recordsDone, done⟩ := bind_eq_ok.mp done
      obtain ⟨numericAttribute, numericDone, done⟩ := bind_eq_ok.mp done
      obtain ⟨populates, populatesDone, done⟩ := bind_eq_ok.mp done
      obtain ⟨iteratee, iterateeDone, done⟩ := bind_eq_ok.mp done
      obtain rfl := pure_eq_ok.mp done
      exact ⟨registered, rfl, ⟨rfl, rfl, rfl, parts, criteriaDone, valuesDone, recordsDone, numericDone,
        populatesDone, iterateeDone⟩⟩
    · rintro ⟨_, same, made⟩
      obtain rfl := Option.some.inj same
      refine bind_eq_ok.mpr ⟨registered, rfl, bind_eq_ok.mpr ⟨(), made.parts, ?_⟩⟩
      refine bind_eq_ok.mpr ⟨_, made.criteria, bind_eq_ok.mpr ⟨_, made.values, ?_⟩⟩
      refine bind_eq_ok.mpr ⟨_, made.records, bind_eq_ok.mpr ⟨_, made.numericAttribute, ?_⟩⟩
      refine bind_eq_ok.mpr ⟨_, made.populates, bind_eq_ok.mpr ⟨_, made.iteratee, pure_eq_ok.mpr ?_⟩⟩
      rw [← made.method_eq, ← made.model_eq, ← made.options_eq]

/-- The parts of a query fit its method when each of them is one that the method takes. -/
theorem checkParts_eq_ok :
    query.checkParts = .ok () ↔
      (query.criteria.isSome = true → query.method.takesCriteria = true) ∧
      (query.values.isSome = true → query.method.takesValues = true) ∧
      (query.records.isSome = true → query.method.takesRecords = true) ∧
      (query.numericAttribute.isSome = true → query.method.takesNumericAttribute = true) ∧
      (query.populates.isSome = true → query.method.takesPopulates = true) ∧
      (query.eachRecord.isSome = true ∨ query.eachBatch.isSome = true → query.method = .stream) := by
  have passes : query.checkParts = .ok () ↔ query.unexpected? = none := by
    unfold checkParts
    cases query.unexpected? <;> simp
  have next {test : Prop} [Decidable test] {part : QueryPart × String} {rest : Option (QueryPart × String)} :
      (if test then some part else rest) = none ↔ ¬test ∧ rest = none := by
    by_cases holds : test <;> simp [holds]
  rw [passes, unexpected?, next, next, next, next, next, next]
  simp only [Bool.and_eq_true, Bool.not_eq_true', not_and, Bool.not_eq_false, Bool.or_eq_true, ne_eq,
    decide_not, decide_eq_true_eq, and_true]

/-! ## The parts of a mutation -/

/-- A query whose method takes no associations has none. -/
theorem CompiledTo.populates_eq_nil {model : Model} (made : query.CompiledTo registry now model compiled)
    (takes : query.method.takesPopulates = false) : compiled.populates = [] := by
  obtain ⟨-, -, -, -, takesPopulates, -⟩ := checkParts_eq_ok.mp made.parts
  have done := made.populates
  unfold compilePopulates at done
  split at done
  · next entries given =>
    rw [given, takes] at takesPopulates
    cases takesPopulates rfl
  · exact (Except.ok.inj done).symm

/-- A query whose method adds no records has none. -/
theorem CompiledTo.records_eq_nil {model : Model} (made : query.CompiledTo registry now model compiled)
    (takes : query.method.takesRecords = false) : compiled.records = [] := by
  have done := made.records
  unfold compileRecords at done
  split at done
  · next create _ => simp [create, Method.takesRecords] at takes
  · next create _ => simp [create, Method.takesRecords] at takes
  · cases done
  · cases done
  · exact (Except.ok.inj done).symm

/-- A create has one record. -/
theorem CompiledTo.records_of_create {model : Model} (made : query.CompiledTo registry now model compiled)
    (create : query.method = .create) : ∃ record, compiled.records = [record] := by
  have done := made.records
  unfold compileRecords at done
  rw [create] at done
  cases given : query.records with
  | none =>
    rw [given] at done
    cases done
  | some raw =>
    rw [given] at done
    obtain ⟨record, -, one⟩ := map_eq_ok.mp done
    exact ⟨record, one.symm⟩

/-- New records are in order if what they are read from is. -/
theorem CompiledTo.records_sorted {model : Model} (made : query.CompiledTo registry now model compiled)
    (given : ∀ raw, query.records = some raw → raw.Sorted) :
    ∀ record ∈ compiled.records, Dictionary.Sorted record := by
  have done := made.records
  unfold compileRecords at done
  split at done
  · next raw _ isRaw =>
    obtain ⟨record, read, one⟩ := map_eq_ok.mp done
    rw [← one]
    exact List.forall_mem_singleton.mpr (Model.readRecord_sorted (given raw isRaw) (mapError_eq_ok.mp read))
  · next raw _ isRaw =>
    have sorted := given raw isRaw
    unfold Model.compileRecords at done
    split at done
    · cases done
    · exact Model.readRecordsFrom_sorted sorted (mapError_eq_ok.mp done)
    · cases done
  · cases done
  · cases done
  · rw [← Except.ok.inj done]
    simp

/-- The values of an update are read from the ones that it is given. -/
theorem CompiledTo.values_of_update {model : Model} (made : query.CompiledTo registry now model compiled)
    (update : query.method = .update) :
    ∃ raw values, query.values = some raw ∧ model.readChanges now raw = .ok values ∧
      compiled.values = some values := by
  have done := made.values
  unfold compileValues at done
  split at done
  · next raw _ given =>
    obtain ⟨values, read, same⟩ := map_eq_ok.mp done
    exact ⟨raw, values, given, mapError_eq_ok.mp read, same.symm⟩
  · cases done
  · next takes =>
    rw [update] at takes
    cases takes

/-- An aggregate has an attribute to aggregate over. -/
theorem numericAttribute_of_takes {model : Model} {numericAttribute : Option String}
    (takes : query.method.takesNumericAttribute = true)
    (done : query.compileNumericAttribute model = .ok numericAttribute) :
    ∃ name, numericAttribute = some name := by
  unfold compileNumericAttribute at done
  rw [if_pos takes] at done
  split at done
  · cases done
  · split at done
    · exact ⟨_, (Except.ok.inj done).symm⟩
    · cases done
    · cases done

/-- Only an empty list of new records asks for nothing. -/
theorem records_of_noop {model : Model} {details : String}
    (noop : query.compileRecords model now = .error (.noop details)) :
    query.method = .createEach ∧ query.records = some (.list []) := by
  unfold compileRecords at noop
  split at noop
  · next raw _ given =>
    have noop := map_eq_error.mp noop
    unfold Model.compileRecord at noop
    obtain ⟨_, -, same⟩ := mapError_eq_error.mp noop
    cases same
  · next raw method given =>
    unfold Model.compileRecords at noop
    split at noop
    · exact ⟨method, given⟩
    · obtain ⟨_, -, same⟩ := mapError_eq_error.mp noop
      cases same
    · cases noop
  · cases noop
  · cases noop
  · cases noop

/-! ## Queries that ask for nothing -/

theorem compileValues_ne_noop {model : Model} {details : String} :
    query.compileValues model now ≠ .error (.noop details) := by
  intro noop
  unfold compileValues at noop
  split at noop
  · unfold Model.compileChanges at noop
    cases read : model.readChanges now _ with
    | error fault =>
      rw [read] at noop
      cases noop
    | ok values =>
      rw [read] at noop
      cases noop
  all_goals cases noop

theorem compileNumericAttribute_ne_noop {model : Model} {details : String} :
    query.compileNumericAttribute model ≠ .error (.noop details) := by
  intro noop
  unfold compileNumericAttribute at noop
  split at noop
  · split at noop
    · cases noop
    · split at noop
      all_goals cases noop
  · cases noop

/-- An association is looked up, or the populates are invalid. -/
theorem associated_cases (registry : Registry σ) (model : Model) (name : String) (subcriteria : Option Json) :
    (∃ details, associated registry model name subcriteria = .error (.invalid .populates details)) ∨
      ∃ target child, (model.kind? name = some (.model target) ∨
          ∃ via, model.kind? name = some (.collection target via)) ∧
        registry.model? target = some child ∧ child.datastore = model.datastore ∧
        associated registry model name subcriteria = .ok child.model := by
  unfold associated
  simp only [pure_bind]
  rcases model.kind? name with _ | (type | target | ⟨target, via⟩)
  case none => exact .inl ⟨_, rfl⟩
  case some.scalar => exact .inl ⟨_, rfl⟩
  case some.model =>
    dsimp only
    split
    · exact .inl ⟨_, rfl⟩
    · cases isChild : registry.model? target with
      | none => exact .inl ⟨_, rfl⟩
      | some child =>
        by_cases together : child.datastore = model.datastore
        · exact .inr ⟨target, child, .inl rfl, isChild, together, if_pos together⟩
        · exact .inl ⟨_, if_neg together⟩
  case some.collection =>
    dsimp only
    cases isChild : registry.model? target with
    | none => exact .inl ⟨_, rfl⟩
    | some child =>
      by_cases together : child.datastore = model.datastore
      · exact .inr ⟨target, child, .inr ⟨via, rfl⟩, isChild, together, if_pos together⟩
      · exact .inl ⟨_, if_neg together⟩

theorem associated_eq_ok {model child : Model} {name : String} {subcriteria : Option Json}
    (done : associated registry model name subcriteria = .ok child) :
    ∃ target registered, (model.kind? name = some (.model target) ∨
        ∃ via, model.kind? name = some (.collection target via)) ∧
      registry.model? target = some registered ∧ registered.model = child ∧
      registered.datastore = model.datastore := by
  rcases associated_cases registry model name subcriteria with
    ⟨_, failed⟩ | ⟨target, registered, kind, isRegistered, together, found⟩
  · cases failed.symm.trans done
  · exact ⟨target, registered, kind, isRegistered, Except.ok.inj (found.symm.trans done), together⟩

theorem associated_ne_noop {model : Model} {name : String} {subcriteria : Option Json}
    {details : String} :
    associated registry model name subcriteria ≠ .error (.noop details) := by
  intro noop
  rcases associated_cases registry model name subcriteria with ⟨_, failed⟩ | ⟨_, _, _, _, _, found⟩
  · cases failed.symm.trans noop
  · cases found.symm.trans noop

theorem compilePopulates_ne_noop {model : Model} {details : String} :
    query.compilePopulates registry model ≠ .error (.noop details) := by
  intro noop
  unfold compilePopulates at noop
  split at noop
  · obtain ⟨entry, -, step⟩ := exists_of_mapM_eq_error noop
    unfold compilePopulate at step
    rcases bind_eq_error.mp step with here | ⟨child, -, later⟩
    · exact associated_ne_noop here
    · split at later
      all_goals cases later
  · cases noop

theorem compileIteratee_ne_noop {details : String} :
    query.compileIteratee ≠ .error (.noop details) := by
  intro noop
  unfold compileIteratee at noop
  split at noop
  all_goals cases noop

/-- A query asks for nothing because of its criteria or because of its records. -/
theorem compile_eq_noop {details : String}
    (noop : query.compile registry now = .error (.noop details)) :
    ∃ registered, registry.model? query.model = some registered ∧ query.checkParts = .ok () ∧
      (query.compileCriteria registered.model = .error (.noop details) ∨
        query.compileRecords registered.model now = .error (.noop details)) := by
  unfold compile at noop
  cases found : registry.model? query.model with
  | none =>
    rw [found] at noop
    cases noop
  | some registered =>
    rw [found] at noop
    obtain ⟨_, same, noop⟩ := (bind_eq_error.mp noop).resolve_left (by rintro ⟨⟩)
    obtain rfl := Except.ok.inj same
    have checkParts_ne_noop : query.checkParts ≠ .error (.noop details) := by
      unfold checkParts
      split <;> simp
    obtain ⟨⟨⟩, parts, noop⟩ := (bind_eq_error.mp noop).resolve_left checkParts_ne_noop
    refine ⟨registered, rfl, parts, ?_⟩
    rcases bind_eq_error.mp noop with inCriteria | ⟨_, -, noop⟩
    · exact .inl inCriteria
    · obtain ⟨_, -, noop⟩ := (bind_eq_error.mp noop).resolve_left compileValues_ne_noop
      rcases bind_eq_error.mp noop with inRecords | ⟨_, -, noop⟩
      · exact .inr inRecords
      · obtain ⟨_, -, noop⟩ := (bind_eq_error.mp noop).resolve_left compileNumericAttribute_ne_noop
        obtain ⟨_, -, noop⟩ := (bind_eq_error.mp noop).resolve_left compilePopulates_ne_noop
        obtain ⟨_, -, noop⟩ := (bind_eq_error.mp noop).resolve_left compileIteratee_ne_noop
        cases noop

/-- A query whose criteria ask for nothing asks for nothing, whatever its associations are. -/
theorem compile_of_noop {registered : RegisteredModel σ} (found : registry.model? query.model = some registered)
    (parts : query.checkParts = .ok ()) {details : String}
    (noop : query.compileCriteria registered.model = .error (.noop details)) :
    query.compile registry now = .error (.noop details) := by
  unfold compile
  rw [found]
  refine bind_eq_error.mpr (.inr ⟨registered, rfl, bind_eq_error.mpr (.inr ⟨(), parts, ?_⟩)⟩)
  exact bind_eq_error.mpr (.inl noop)

/-- The parts of a query with other associations. -/
theorem checkParts_repopulated (takes : query.method.takesPopulates = true) (parts : query.checkParts = .ok ())
    (populates : Option (Dictionary Json)) : checkParts { query with populates } = .ok () := by
  obtain ⟨criteria, values, records, numericAttribute, -, iteratees⟩ := checkParts_eq_ok.mp parts
  exact checkParts_eq_ok.mpr ⟨criteria, values, records, numericAttribute, fun _ => takes, iteratees⟩

/-- A compiled query with other associations. -/
theorem CompiledTo.repopulated {model : Model} (made : query.CompiledTo registry now model compiled)
    (takes : query.method.takesPopulates = true) {entries : Option (Dictionary Json)}
    {populates : Dictionary (Option Criteria)}
    (done : compilePopulates { query with populates := entries } registry model = .ok populates) :
    CompiledTo { query with populates := entries } registry now model { compiled with populates } :=
  { made with parts := checkParts_repopulated takes made.parts entries, populates := done }

/-! ## What a query writes -/

/-- The names of the fields of new records. -/
def recordNames : Option Json → List String
  | some (.list items) => items.flatMap Json.fieldNames
  | some raw => raw.fieldNames
  | none => []

/-- The attributes that the values of an update write: their own, and those that are stamped. -/
def valueNames (model : Model) : Option Json → List String
  | some raw => raw.fieldNames ++ model.stamped
  | none => []

/-- The attributes that a query writes. -/
def written (query : Description σ) (model : Model) : List String :=
  valueNames model query.values ++ recordNames query.records

theorem compileValues_names {model : Model} {values : Option Record}
    (takes : query.values.isSome = true → query.method.takesValues = true)
    (done : query.compileValues model now = .ok values) :
    model.Declares (valueNames model query.values) ∧ (model.Stores (valueNames model query.values) ↔
      ∀ record, values = some record → model.Stores (Dictionary.names record)) := by
  unfold compileValues at done
  cases given : query.values with
  | none =>
    simp only [given] at done
    split at done
    · next same => cases same
    · cases done
    · obtain rfl := Except.ok.inj done
      simp [valueNames, Model.Declares, Model.Stores]
  | some raw =>
    simp only [given, takes (by rw [given]; rfl)] at done
    obtain ⟨record, read, rfl⟩ := map_eq_ok.mp done
    obtain ⟨declares, names⟩ := Model.readChanges_names (mapError_eq_ok.mp read)
    refine ⟨List.forall_mem_append.mpr ⟨declares, model.stamped_declares⟩, ?_⟩
    simp only [valueNames, Model.Stores, List.mem_append, Option.some.injEq, forall_eq', names]

theorem compileRecords_names {model : Model} {records : List Record}
    (key : model.primaryKey ∈ Dictionary.names model.stored)
    (takes : query.records.isSome = true → query.method.takesRecords = true)
    (done : query.compileRecords model now = .ok records) :
    model.Declares (recordNames query.records) ∧ (model.Stores (recordNames query.records) ↔
      ∀ record ∈ records, model.Stores (Dictionary.names record)) := by
  unfold compileRecords at done
  split at done
  · next raw _ given =>
    obtain ⟨record, read, rfl⟩ := map_eq_ok.mp done
    have read := mapError_eq_ok.mp read
    have names := Model.readRecord_names key read
    cases raw with
    | list items => cases read
    | _ => simpa only [given, recordNames, List.mem_singleton, forall_eq] using names
  · next raw _ given =>
    unfold Model.compileRecords at done
    split at done
    · cases done
    · simpa only [given, recordNames] using Model.readRecordsFrom_names key (mapError_eq_ok.mp done)
    · cases done
  · cases done
  · cases done
  · next notCreate notCreateEach _ _ =>
    obtain rfl := Except.ok.inj done
    have absent : query.records = none := by
      cases given : query.records with
      | none => rfl
      | some raw =>
        have takesRecords := takes (by rw [given]; rfl)
        cases method : query.method <;> simp_all [Method.takesRecords]
    simp [absent, recordNames, Model.Declares, Model.Stores]

/-- What a query writes are attributes, and it is stored when what the query was compiled to is. -/
theorem CompiledTo.written_stores {model : Model}
    (made : query.CompiledTo registry now model compiled)
    (key : model.primaryKey ∈ Dictionary.names model.stored) :
    model.Declares (query.written model) ∧ (model.Stores (query.written model) ↔
      (∀ values, compiled.values = some values → model.Stores (Dictionary.names values)) ∧
        ∀ record ∈ compiled.records, model.Stores (Dictionary.names record)) := by
  obtain ⟨-, takesValues, takesRecords, -⟩ := checkParts_eq_ok.mp made.parts
  obtain ⟨declaresValues, values⟩ := compileValues_names takesValues made.values
  obtain ⟨declaresRecords, records⟩ := compileRecords_names key takesRecords made.records
  exact ⟨List.forall_mem_append.mpr ⟨declaresValues, declaresRecords⟩,
    List.forall_mem_append.trans (and_congr values records)⟩

end Description

end RecordMapper
