import RecordMapper.Proofs.Criteria.Meaning
import RecordMapper.Proofs.Model.Rows
import RecordMapper.Proofs.Query.Compilation
import RecordMapper.Query.Lowering

/-! # Criteria on rows

Criteria that are renamed to columns select of rows what the criteria themselves select of records,
as long as each row holds under a column what its record holds under the attribute. Cut down to the
columns that are shown, a row is the row of the record cut down to the attributes that are shown.
-/

namespace RecordMapper

open Results

/-- A row holds under the new names of some fields what a record holds under the old ones. -/
def Record.RenamedOn {ε : Type} (name : String → Except ε String) (fields : List String) (record row : Record) :
    Prop :=
  ∀ field ∈ fields, ∀ other, name field = .ok other → Dictionary.get? row other = Dictionary.get? record field

/-- A row holds under a new name what a record holds under the old one. -/
def Record.RenamedBy {ε : Type} (name : String → Except ε String) (record row : Record) : Prop :=
  ∀ field other, name field = .ok other → Dictionary.get? row other = Dictionary.get? record field

variable {ε : Type} {name : String → Except ε String}

theorem Record.RenamedBy.on {record row : Record} (renamed : Record.RenamedBy name record row) (fields : List String) :
    Record.RenamedOn name fields record row :=
  fun field _ => renamed field

namespace Clause

mutual

/-- A renamed clause matches a row when the clause matches its record. -/
theorem accepts_rename {record row : Record} {clause other : Clause}
    (renamed : Record.RenamedOn name (clause.predicates.map Predicate.field) record row)
    (done : clause.rename name = .ok other) : accepts row other = accepts record clause := by
  cases clause with
  | and parts =>
    obtain ⟨others, found, rfl⟩ := map_eq_ok.mp (by simpa only [rename] using done)
    rw [accepts, accepts]
    exact (acceptsParts_rename renamed found).1
  | or parts =>
    obtain ⟨others, found, rfl⟩ := map_eq_ok.mp (by simpa only [rename] using done)
    rw [accepts, accepts]
    exact (acceptsParts_rename renamed found).2
  | leaf predicate =>
    obtain ⟨field, found, rfl⟩ := map_eq_ok.mp (by simpa only [rename] using done)
    rw [accepts, accepts, Predicate.accepts, Predicate.accepts, Record.read, Record.read,
      renamed _ (List.mem_singleton_self _) field found]

theorem acceptsParts_rename {record row : Record} {parts others : List Clause}
    (renamed : Record.RenamedOn name ((predicatesOfParts parts).map Predicate.field) record row)
    (done : renameParts name parts = .ok others) :
    acceptsEvery row others = acceptsEvery record parts ∧
      acceptsSome row others = acceptsSome record parts := by
  cases parts with
  | nil =>
    obtain rfl := Except.ok.inj (by simpa only [renameParts] using done)
    exact ⟨rfl, rfl⟩
  | cons part rest =>
    simp only [renameParts] at done
    obtain ⟨other, here, done⟩ := bind_eq_ok.mp done
    obtain ⟨later, there, done⟩ := bind_eq_ok.mp done
    obtain rfl := pure_eq_ok.mp done
    rw [predicatesOfParts, List.map_append] at renamed
    obtain ⟨first, second⟩ := List.forall_mem_append.mp renamed
    obtain ⟨every, some⟩ := acceptsParts_rename second there
    rw [acceptsEvery, acceptsEvery, acceptsSome, acceptsSome, accepts_rename first here, every, some]
    exact ⟨rfl, rfl⟩

end

end Clause

namespace SortTerm

/-- Renamed sort terms order rows as the terms order their records. -/
theorem orderBy_rename {first second firstRow secondRow : Record} {terms others : List SortTerm}
    (firstRenamed : Record.RenamedOn name (terms.map field) first firstRow)
    (secondRenamed : Record.RenamedOn name (terms.map field) second secondRow)
    (done : (terms.mapM fun term => (name term.field).map fun field => { term with field }) = .ok others) :
    orderBy others firstRow secondRow = orderBy terms first second := by
  induction terms generalizing others with
  | nil =>
    obtain rfl := pure_eq_ok.mp done
    rfl
  | cons term rest ih =>
    rw [List.mapM_cons] at done
    obtain ⟨other, here, done⟩ := bind_eq_ok.mp done
    obtain ⟨later, there, done⟩ := bind_eq_ok.mp done
    obtain rfl := pure_eq_ok.mp done
    obtain ⟨field, found, rfl⟩ := map_eq_ok.mp here
    obtain ⟨firstHere, firstLater⟩ := List.forall_mem_cons.mp firstRenamed
    obtain ⟨secondHere, secondLater⟩ := List.forall_mem_cons.mp secondRenamed
    rw [orderBy, orderBy, order, order, firstHere _ found, secondHere _ found, ih firstLater secondLater there]

/-- Renamed sort terms arrange the rows of records as the terms arrange the records. -/
theorem arrange_rename {terms others : List SortTerm} {records : List Record} {image : Record → Record}
    (each : ∀ record ∈ records, Record.RenamedOn name (terms.map field) record (image record))
    (done : (terms.mapM fun term => (name term.field).map fun field => { term with field }) = .ok others) :
    arrange others (records.map image) = (arrange terms records).map image := by
  refine (List.map_mergeSort fun first isFirst second isSecond => ?_).symm
  rw [orderBy_rename (each first isFirst) (each second isSecond) done]

/-- Without terms, records stay in their order. -/
theorem arrange_nil (records : List Record) : arrange [] records = records :=
  List.mergeSort_of_pairwise (List.pairwise_of_forall fun _ _ => rfl)

end SortTerm

/-- The first ones of the images are the images of the first ones. -/
theorem takeUpTo_map {α β : Type} (limit : Option Nat) (image : α → β) (items : List α) :
    takeUpTo limit (items.map image) = (takeUpTo limit items).map image := by
  cases limit with
  | none => rfl
  | some count => exact List.map_take.symm

/-- The images that pass a test are the images of what passes the test that it comes from. -/
theorem filter_map_eq {α β : Type} {image : α → β} {test : α → Bool} {imageTest : β → Bool} {items : List α}
    (same : ∀ item ∈ items, imageTest (image item) = test item) :
    (items.map image).filter imageTest = (items.filter test).map image := by
  rw [List.filter_map]
  exact congrArg (List.map image) (List.filter_congr same)

/-- A projection without fields that are always shown keeps the fields that the selection shows. -/
theorem Record.project_eq_filter (selection : Option (List String)) (record : Record) :
    Record.project selection [] record = record.filter fun entry => Criteria.selects selection entry.1 := by
  cases selection with
  | none => exact (List.filter_eq_self.mpr fun _ _ => rfl).symm
  | some names => exact List.filter_congr fun _ _ => Bool.or_false _

namespace Criteria

/-- Criteria that ask for nothing in particular select everything. -/
theorem select_default (records : List Record) : select {} records = records := by
  have all : (records.filter fun record => Clause.everything.accepts record) = records :=
    List.filter_eq_self.mpr fun _ _ => rfl
  change (SortTerm.arrange [] (records.filter _)).drop 0 = records
  rw [all, SortTerm.arrange_nil, List.drop_zero]

/-- Renamed criteria select the rows of the records that the criteria select. -/
theorem select_rename {criteria renamed : Criteria} (done : criteria.rename name = .ok renamed)
    {records : List Record} {image : Record → Record}
    (each : ∀ record ∈ records, Record.RenamedBy name record (image record)) :
    renamed.select (records.map image) = (criteria.select records).map image := by
  obtain ⟨clause, sort, -, -, limit, skip⟩ := rename_eq_ok.mp done
  have matched : (records.map image).filter (fun row => renamed.clause.accepts row) =
      (records.filter fun record => criteria.clause.accepts record).map image :=
    filter_map_eq fun record member => Clause.accepts_rename ((each record member).on _) clause
  have arranged : SortTerm.arrange renamed.sort
        ((records.filter fun record => criteria.clause.accepts record).map image) =
      (SortTerm.arrange criteria.sort (records.filter fun record => criteria.clause.accepts record)).map image :=
    SortTerm.arrange_rename (fun record member => (each record (List.mem_filter.mp member).1).on _) sort
  rw [select, select, matched, arranged, limit, skip, ← takeUpTo_map, List.map_drop]

/-- What is selected are records of the list. -/
theorem mem_of_mem_select {criteria : Criteria} {records : List Record} {record : Record}
    (member : record ∈ criteria.select records) : record ∈ records := by
  have inside {limit : Option Nat} {items : List Record} (member : record ∈ takeUpTo limit items) :
      record ∈ items := by
    cases limit with
    | none => exact member
    | some count => exact List.mem_of_mem_take member
  have arranged := List.mem_of_mem_drop (inside member)
  exact (List.mem_filter.mp (List.mem_mergeSort.mp arranged)).1

/-- A renamed selection shows a column when the selection shows its attribute. -/
theorem selects_rename {criteria renamed : Criteria} (done : criteria.rename name = .ok renamed)
    (injective : ∀ first second other, name first = .ok other → name second = .ok other → first = second)
    {field other : String} (found : name field = .ok other) :
    selects renamed.selection other = selects criteria.selection field := by
  obtain ⟨-, -, selection, -, -, -⟩ := rename_eq_ok.mp done
  cases shown : criteria.selection with
  | none =>
    rw [shown] at selection
    rw [← Except.ok.inj selection]
    rfl
  | some fields =>
    rw [shown] at selection
    obtain ⟨others, each, same⟩ := map_eq_ok.mp selection
    rw [← same, selects, selects, Bool.eq_iff_iff, List.contains_iff_mem, List.contains_iff_mem,
      mem_mapM_iff each]
    constructor
    · rintro ⟨second, member, step⟩
      exact injective _ _ _ step found ▸ member
    · intro member
      exact ⟨field, member, found⟩

/-- Resolving the omission leaves alone what criteria select. -/
theorem select_resolveOmission (model : Model) (criteria : Criteria) (records : List Record) :
    (LogicalQuery.resolveOmission model criteria).select records = criteria.select records := by
  unfold LogicalQuery.resolveOmission
  split <;> rfl

/-- Of a selection and an omission that exclude each other, the resolved selection shows what both
show. -/
theorem selects_resolveOmission {model : Model} {criteria : Criteria}
    (choice : criteria.selection = none ∨ criteria.omission = []) {name : String}
    (stored : name ∈ Dictionary.names model.stored) :
    selects (LogicalQuery.resolveOmission model criteria).selection name = criteria.shows name := by
  unfold LogicalQuery.resolveOmission shows
  split
  · next empty =>
    rw [List.isEmpty_iff.mp empty]
    exact (Bool.and_true _).symm
  · next omits =>
    rcases choice with everything | nothing
    · rw [everything, selects, selects, Bool.true_and, Bool.eq_iff_iff, List.contains_iff_mem,
        List.mem_filter]
      exact and_iff_right stored
    · rw [nothing] at omits
      exact absurd rfl omits

/-- A row cut down to the columns that are shown is the row of the record cut down to what is
shown. -/
theorem project_rowOf {model : Model} {columns : Columns} (faithful : columns.Faithful)
    {criteria renamed : Criteria} (choice : criteria.selection = none ∨ criteria.omission = [])
    (done : (LogicalQuery.resolveOmission model criteria).rename columns.column = .ok renamed)
    {record : Record} (storable : columns.Storable record)
    (stores : model.Stores (Dictionary.names record)) :
    Record.project renamed.selection [] (columns.rowOf record) =
      columns.rowOf (record.filter fun entry => criteria.shows entry.1) := by
  rw [Record.project_eq_filter, faithful.filter_rowOf storable]
  refine congrArg columns.rowOf (List.filter_congr fun entry member => ?_)
  have isName : entry.1 ∈ Dictionary.names record := List.mem_map_of_mem member
  rw [selects_rename done (fun _ _ _ => faithful.eq_of_column) (storable.covers entry.1 isName),
    selects_resolveOmission choice (stores entry.1 isName)]

end Criteria

end RecordMapper
