import RecordMapper.Criteria.Reading
import RecordMapper.Proofs.Dictionary
import RecordMapper.Proofs.Results

/-! # The parts of raw criteria

However raw criteria are written, they have a clause, and they may have a skip, a limit, sort terms
and a choice of attributes. `RawCriteria.clause` and `RawCriteria.part` say where each of them
stands, and `Criteria.read` reads nothing else.
-/

namespace RecordMapper

open Results

namespace RawCriteria

/-- The entries of raw criteria that are a dictionary. -/
def entries : Option Json → Record
  | some (.record entries) => entries
  | _ => []

/-- What stands under a top-level key. -/
def part (raw : Option Json) (key : String) : Option Json :=
  Dictionary.get? (entries raw) key

/-- The clause of raw criteria: what stands under `where`, or else everything that stands under no
top-level key. A key, or one out of a list of keys, is what the primary key has to be. -/
def clause (primaryKey : String) : Option Json → Json
  | some (.record entries) =>
    match Dictionary.get? entries "where" with
    | some clause => clause
    | none => .record (entries.filter fun entry => !Criteria.topLevelKeys.contains entry.1)
  | none | some .null => .record []
  | some (.list keys) => .record [(primaryKey, .record [("in", .list keys)])]
  | some key => .record [(primaryKey, key)]

theorem get?_known (entries : Record) {key : String} (isKey : key ∈ Criteria.topLevelKeys) :
    Dictionary.get? (entries.filter fun entry => Criteria.topLevelKeys.contains entry.1) key =
      Dictionary.get? entries key := by
  rw [Dictionary.get?_filter_names, List.contains_eq_mem, if_pos (decide_eq_true isKey)]

/-- Sorting the entries of a dictionary by their keys moves none of them. -/
theorem topLevel_eq_ok {entries known : Record} (done : Criteria.topLevel entries = .ok known) :
    (∀ key ∈ Criteria.topLevelKeys, key ≠ "where" → Dictionary.get? known key = Dictionary.get? entries key) ∧
      ∀ primaryKey, (Dictionary.get? known "where").getD (.record []) =
        clause primaryKey (some (.record entries)) := by
  simp only [Criteria.topLevel, List.partition_eq_filter_filter] at done
  have kept (key : String) (isKey : key ∈ Criteria.topLevelKeys) := get?_known entries isKey
  by_cases unknown : (entries.filter fun entry => Criteria.topLevelKeys.contains entry.1) = []
  · -- without any top-level key the dictionary is a clause itself
    rw [unknown] at kept
    have absent (key : String) (isKey : key ∈ Criteria.topLevelKeys) : Dictionary.get? entries key = none :=
      (kept key isKey).symm
    simp only [unknown, List.isEmpty_nil, if_true, Except.ok.injEq] at done
    subst done
    constructor
    · intro key isKey notWhere
      simp only [Dictionary.get?, if_neg (Ne.symm notWhere), absent key isKey]
    · intro primaryKey
      have all : (entries.filter fun entry => !Criteria.topLevelKeys.contains entry.1) = entries := by
        apply List.filter_eq_self.mpr
        intro entry member
        have stray := List.filter_eq_nil_iff.mp unknown entry member
        simpa using stray
      simp only [clause, absent "where" (by decide), all, Dictionary.get?, if_true, Option.getD_some]
  · rw [List.isEmpty_eq_false_iff.mpr unknown] at done
    simp only [Bool.false_eq_true, if_false] at done
    split at done
    · next noOthers =>
      obtain rfl := Except.ok.inj done
      refine ⟨fun key isKey _ => kept key isKey, ?_⟩
      intro primaryKey
      have others : (entries.filter fun entry => !Criteria.topLevelKeys.contains entry.1) = [] := by
        simpa [Function.comp_def] using noOthers
      rw [kept "where" (by decide)]
      simp only [clause, others]
      cases Dictionary.get? entries "where" <;> rfl
    · split at done
      · cases done
      · next noWhere =>
        obtain rfl := Except.ok.inj done
        have absent : Dictionary.get? entries "where" = none := by
          rw [Dictionary.contains, kept "where" (by decide)] at noWhere
          simpa using noWhere
        constructor
        · intro key isKey notWhere
          rw [Dictionary.get?_insert, if_neg (Ne.symm notWhere), kept key isKey]
        · intro primaryKey
          simp [clause, absent, Dictionary.get?_insert, Function.comp_def]

theorem entriesOf_eq_none {model : Model} {raw : Option Json}
    (done : Criteria.entriesOf model raw = .ok none) :
    entries raw = [] ∧ clause model.primaryKey raw = .record [] := by
  unfold Criteria.entriesOf at done
  split at done
  · exact ⟨rfl, rfl⟩
  · exact ⟨rfl, rfl⟩
  all_goals simp [map_eq_ok] at done

theorem entriesOf_eq_some {model : Model} {raw : Option Json} {known : Record}
    (done : Criteria.entriesOf model raw = .ok (some known)) :
    (∀ key ∈ Criteria.topLevelKeys, key ≠ "where" → Dictionary.get? known key = part raw key) ∧
      (Dictionary.get? known "where").getD (.record []) = clause model.primaryKey raw := by
  have alone (written : Json) : ∀ key ∈ Criteria.topLevelKeys, key ≠ "where" →
      Dictionary.get? [("where", written)] key = none := by
    intro key _ notWhere
    simp only [Dictionary.get?, if_neg (Ne.symm notWhere)]
  unfold Criteria.entriesOf at done
  split at done
  · cases done
  · cases done
  · obtain ⟨_, sorted, same⟩ := map_eq_ok.mp done
    obtain rfl := Option.some.inj same
    obtain ⟨kept, written⟩ := topLevel_eq_ok sorted
    exact ⟨kept, written model.primaryKey⟩
  all_goals
    cases done
    try exact ⟨alone _, rfl⟩

theorem readKey_where {model : Model} {known : Record} {written : Json}
    (same : (Dictionary.get? known "where").getD (.record []) = written) :
    Criteria.readKey known "where" (Clause.read model) .everything = Clause.read model written := by
  subst same
  unfold Criteria.readKey
  cases Dictionary.get? known "where" <;> rfl

theorem readKey_congr {α : Type} {known : Record} {raw : Option Json} {key : String}
    (same : Dictionary.get? known key = part raw key) (read : Json → Except CriteriaFault α)
    (default : α) :
    Criteria.readKey known key read default = Criteria.readKey (entries raw) key read default := by
  unfold Criteria.readKey
  rw [same, part]

theorem readKey_of_absent {α : Type} {raw : Option Json} {key : String} (absent : part raw key = none)
    (read : Json → Except CriteriaFault α) (default : α) :
    Criteria.readKey (entries raw) key read default = .ok default := by
  unfold Criteria.readKey
  rw [part] at absent
  rw [absent]

end RawCriteria

namespace Criteria

/-- What criteria are read from, part by part. -/
structure ReadFrom (model : Model) (raw : Option Json) (criteria : Criteria) : Prop where
  clause : ∃ written, Clause.read model (RawCriteria.clause model.primaryKey raw) = .ok written ∧
    written.simplify = some criteria.clause
  skip : readKey (RawCriteria.entries raw) "skip" (readCount "skip") 0 = .ok criteria.skip
  sort : readKey (RawCriteria.entries raw) "sort" (SortTerm.read model) [] = .ok criteria.sort
  selection : readKey (RawCriteria.entries raw) "select" (readSelection model) none = .ok criteria.selection
  omission : readKey (RawCriteria.entries raw) "omit" (readOmission model) [] = .ok criteria.omission
  limit : readKey (RawCriteria.entries raw) "limit" (fun raw => (readCount "limit" raw).map some) none =
    .ok criteria.limit
  /-- Attributes are chosen in one way only. -/
  choice : criteria.selection = none ∨ RawCriteria.part raw "omit" = none
  /-- Something is asked for. -/
  notZero : criteria.limit ≠ some 0

/-- Criteria that are written without a selection show all. -/
theorem ReadFrom.selection_eq_none {model : Model} {raw : Option Json} {criteria : Criteria}
    (parts : criteria.ReadFrom model raw) (absent : RawCriteria.part raw "select" = none) :
    criteria.selection = none :=
  (Except.ok.inj ((RawCriteria.readKey_of_absent absent _ _).symm.trans parts.selection)).symm

/-- Criteria that are written without an omission leave out nothing. -/
theorem ReadFrom.omission_eq_nil {model : Model} {raw : Option Json} {criteria : Criteria}
    (parts : criteria.ReadFrom model raw) (absent : RawCriteria.part raw "omit" = none) :
    criteria.omission = [] :=
  (Except.ok.inj ((RawCriteria.readKey_of_absent absent _ _).symm.trans parts.omission)).symm

@[simp] theorem invalid_eq_ok {α : Type} {result : Except CriteriaFault α} {value : α} :
    invalid result = .ok value ↔ result = .ok value :=
  mapError_eq_ok

/-- A fault is never a noop. -/
@[simp] theorem invalid_ne_noop {α : Type} (result : Except CriteriaFault α) (details : String) :
    ¬invalid result = .error (.noop details) := by
  simp [invalid, mapError_eq_error]

theorem bind_simplify_eq_ok {α : Type} {clause : Clause} {details : String}
    {next : Clause → Except CompileError α}
    {value : α} (done : (match clause.simplify with
      | some clause => (Except.ok clause : Except CompileError Clause) >>= next
      | none => (Except.error (.noop details) : Except CompileError Clause) >>= next) = .ok value) :
    ∃ simple, clause.simplify = some simple ∧ next simple = .ok value := by
  cases simplified : clause.simplify with
  | none =>
    rw [simplified] at done
    cases done
  | some simple =>
    rw [simplified] at done
    exact ⟨simple, rfl, done⟩

theorem readFrom_of_read {model : Model} {method : Method} {raw : Option Json} {criteria : Criteria}
    (done : read model method raw = .ok criteria) : criteria.ReadFrom model raw := by
  unfold read at done
  obtain ⟨known, found, done⟩ := bind_eq_ok.mp done
  have found := invalid_eq_ok.mp found
  cases known with
  | none =>
    obtain ⟨noEntries, written⟩ := RawCriteria.entriesOf_eq_none found
    obtain rfl := pure_eq_ok.mp done
    exact ⟨⟨.everything, by rw [written]; rfl, rfl⟩, by rw [noEntries]; rfl, by rw [noEntries]; rfl,
      by rw [noEntries]; rfl, by rw [noEntries]; rfl, by rw [noEntries]; rfl, .inl rfl, by simp⟩
  | some known =>
    obtain ⟨kept, written⟩ := RawCriteria.entriesOf_eq_some found
    have same {α : Type} (key : String) (isKey : key ∈ topLevelKeys) (notWhere : key ≠ "where")
        (read : Json → Except CriteriaFault α) (default : α) :=
      RawCriteria.readKey_congr (kept key isKey notWhere) read default
    obtain ⟨⟨⟩, -, done⟩ := bind_eq_ok.mp done
    obtain ⟨clause, clauseRead, done⟩ := bind_eq_ok.mp done
    obtain ⟨simple, simplified, done⟩ := bind_simplify_eq_ok done
    obtain ⟨skip, skipRead, done⟩ := bind_eq_ok.mp done
    obtain ⟨sort, sortRead, done⟩ := bind_eq_ok.mp done
    obtain ⟨selection, selectionRead, done⟩ := bind_eq_ok.mp done
    obtain ⟨oneChoice, done⟩ := unless_eq_ok done
    obtain ⟨omission, omissionRead, done⟩ := bind_eq_ok.mp done
    obtain ⟨limit, limitRead, done⟩ := bind_eq_ok.mp done
    obtain ⟨notZero, done⟩ := unless_eq_ok done
    obtain rfl := pure_eq_ok.mp done
    rw [invalid_eq_ok, RawCriteria.readKey_where written] at clauseRead
    rw [invalid_eq_ok, same _ (by decide) (by decide)] at skipRead sortRead selectionRead omissionRead limitRead
    refine ⟨⟨clause, clauseRead, simplified⟩, skipRead, sortRead, selectionRead, omissionRead,
      limitRead, ?_, notZero⟩
    rw [Dictionary.contains, kept _ (by decide) (by decide)] at oneChoice
    cases selection with
    | none => exact .inl rfl
    | some names => exact .inr (by simpa using oneChoice)

/-- Whether criteria show every attribute, once they are read. -/
def ShowAll (model : Model) (raw : Option Json) : Prop :=
  ∀ criteria, read model .find raw = .ok criteria → criteria.selection = none ∧ criteria.omission = []

/-- Criteria without a choice of attributes show every one. -/
theorem showAll_of_absent {raw : Option Json} (noSelect : RawCriteria.part raw "select" = none)
    (noOmit : RawCriteria.part raw "omit" = none) (model : Model) : ShowAll model raw := by
  intro criteria done
  have parts := readFrom_of_read done
  exact ⟨parts.selection_eq_none noSelect, parts.omission_eq_nil noOmit⟩

/-- A dictionary of top-level keys is read part by part. -/
theorem read_of_parts {model : Model} {method : Method} {known : Record} {criteria : Criteria} {written : Clause}
    (keys : ∀ key ∈ Dictionary.names known, key ∈ topLevelKeys ∧ allowsKey method key = true)
    (isGiven : known ≠ [])
    (clause : readKey known "where" (Clause.read model) .everything = .ok written)
    (simplified : written.simplify = some criteria.clause)
    (skip : readKey known "skip" (readCount "skip") 0 = .ok criteria.skip)
    (sort : readKey known "sort" (SortTerm.read model) [] = .ok criteria.sort)
    (selection : readKey known "select" (readSelection model) none = .ok criteria.selection)
    (omission : readKey known "omit" (readOmission model) [] = .ok criteria.omission)
    (limit : readKey known "limit" (fun raw => (readCount "limit" raw).map some) none = .ok criteria.limit)
    (choice : criteria.selection = none ∨ Dictionary.get? known "omit" = none)
    (notZero : criteria.limit ≠ some 0) : read model method (some (.record known)) = .ok criteria := by
  have isKnown : ∀ entry ∈ known, topLevelKeys.contains entry.1 = true := fun entry member =>
    List.contains_iff_mem.mpr (keys entry.1 (List.mem_map_of_mem member)).1
  have entries : entriesOf model (some (.record known)) = .ok (some known) := by
    rw [entriesOf, topLevel, List.partition_eq_filter_filter, List.filter_eq_self.mpr isKnown,
      List.filter_eq_nil_iff.mpr (by simpa using isKnown)]
    simp [isGiven]
    rfl
  have allowed : checkKeys method known = .ok () := by
    unfold checkKeys
    split
    · next key isFirst =>
      have refused := List.find?_some isFirst
      rw [(keys key (List.mem_of_find?_eq_some isFirst)).2] at refused
      cases refused
    · rfl
  have oneChoice : ¬(criteria.selection.isSome && Dictionary.contains known "omit") = true := by
    rcases choice with none | none <;> simp [none, Dictionary.contains]
  unfold read
  refine bind_eq_ok.mpr ⟨_, invalid_eq_ok.mpr entries, ?_⟩
  refine bind_eq_ok.mpr ⟨_, invalid_eq_ok.mpr allowed, bind_eq_ok.mpr ⟨_, invalid_eq_ok.mpr clause, ?_⟩⟩
  rw [simplified]
  refine bind_eq_ok.mpr ⟨_, rfl, bind_eq_ok.mpr ⟨_, invalid_eq_ok.mpr skip, ?_⟩⟩
  refine bind_eq_ok.mpr ⟨_, invalid_eq_ok.mpr sort, bind_eq_ok.mpr ⟨_, invalid_eq_ok.mpr selection, ?_⟩⟩
  rw [if_neg oneChoice]
  refine bind_eq_ok.mpr ⟨_, invalid_eq_ok.mpr omission, bind_eq_ok.mpr ⟨_, invalid_eq_ok.mpr limit, ?_⟩⟩
  rw [if_neg notZero]
  rfl

theorem allowsKey_of_checkKeys {method : Method} {known : Record} {key : String}
    (checked : checkKeys method known = .ok ()) (present : key ∈ Dictionary.names known) :
    allowsKey method key = true := by
  unfold checkKeys at checked
  split at checked
  · cases checked
  · next none =>
    have allowed := List.find?_eq_none.mp none key present
    simpa using allowed

/-- Criteria that a method takes are read in the same way for a method that allows as much. -/
theorem read_of_allowed {narrow wide : Method} (allows : ∀ key, allowsKey narrow key = true → allowsKey wide key = true)
    (model : Model) (raw : Option Json) :
    (∃ details, read model narrow raw = .error (.invalid .criteria details)) ∨
      read model wide raw = read model narrow raw := by
  unfold read
  cases invalid (entriesOf model raw) with
  | error error => exact .inr rfl
  | ok known =>
    cases known with
    | none => exact .inr rfl
    | some entries =>
      cases checked : checkKeys narrow entries with
      | error fault => exact .inl ⟨fault.message,
          by simp [checked, invalid, bind, Except.bind, Except.mapError]⟩
      | ok value =>
        have allowed : checkKeys wide entries = .ok value := by
          unfold checkKeys
          rw [List.find?_eq_none.mpr fun key present => by
            simpa using allows key (allowsKey_of_checkKeys checked present)]
        right
        change invalid (checkKeys wide entries) >>= _ = invalid (checkKeys narrow entries) >>= _
        rw [allowed, checked]

/-- Criteria are found to ask for nothing because of their clause or, if their method allows one, because
of their limit. -/
theorem read_eq_noop {model : Model} {method : Method} {raw : Option Json} {details : String}
    (noop : read model method raw = .error (.noop details)) :
    (∃ written, Clause.read model (RawCriteria.clause model.primaryKey raw) = .ok written ∧
      written.simplify = none) ∨
    method.allowsPaging = true ∧
      readKey (RawCriteria.entries raw) "limit" (fun raw => (readCount "limit" raw).map some) none =
        .ok (some 0) := by
  have next {α β : Type} {result : Except CriteriaFault α} {next : α → Except CompileError β}
      (failed : invalid result >>= next = .error (.noop details)) :
      ∃ value, result = .ok value ∧ next value = .error (.noop details) := by
    rcases bind_eq_error.mp failed with fault | ⟨value, done, later⟩
    · exact absurd fault (invalid_ne_noop result details)
    · exact ⟨value, invalid_eq_ok.mp done, later⟩
  unfold read at noop
  obtain ⟨known, found, noop⟩ := next noop
  cases known with
  | none => cases noop
  | some known =>
    obtain ⟨kept, written⟩ := RawCriteria.entriesOf_eq_some found
    obtain ⟨⟨⟩, checked, noop⟩ := next noop
    obtain ⟨clause, clauseRead, noop⟩ := next noop
    rw [RawCriteria.readKey_where written] at clauseRead
    cases simplified : clause.simplify with
    | none => exact .inl ⟨clause, clauseRead, simplified⟩
    | some simple =>
      rw [simplified] at noop
      obtain ⟨skip, -, noop⟩ := next noop
      obtain ⟨sort, -, noop⟩ := next noop
      obtain ⟨selection, -, noop⟩ := next noop
      by_cases bothChosen : (selection.isSome && Dictionary.contains known "omit") = true
      · rw [if_pos bothChosen] at noop
        cases noop
      · rw [if_neg bothChosen] at noop
        obtain ⟨omission, -, noop⟩ := next noop
        obtain ⟨limit, limitRead, noop⟩ := next noop
        by_cases isZero : limit = some 0
        · have present : "limit" ∈ Dictionary.names known := by
            rw [isZero, readKey] at limitRead
            split at limitRead
            · next found => exact Dictionary.exists_get?_iff.mp ⟨_, found⟩
            · cases limitRead
          rw [RawCriteria.readKey_congr (kept _ (by decide) (by decide)), isZero] at limitRead
          exact .inr ⟨allowsKey_of_checkKeys checked present, limitRead⟩
        · rw [if_neg isZero] at noop
          cases noop

end Criteria

end RecordMapper
