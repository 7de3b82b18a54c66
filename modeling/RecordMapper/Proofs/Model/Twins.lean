import RecordMapper.Proofs.Query.Lowering
import RecordMapper.Proofs.Store.Keys

/-! # Twins

Every attribute with a column has two different values that fit it. So a model has records that give all of these
attributes a value, and among them twins: two records that agree in one attribute and in no other. They are what
two rows look like that a table can only refuse for the one column in which they agree.
-/

namespace RecordMapper

open Results

namespace Attribute

/-- One of two values that fit an attribute. -/
def sample (declared : Attribute) (second : Bool) : Json :=
  match declared.kind with
  | .scalar .string => .text (if second then "b" else "a")
  | .scalar .boolean => .bool second
  | _ => .ofNat second.toNat

variable {declared : Attribute}

theorem isNull_sample (second : Bool) : (declared.sample second).isNull = false := by
  unfold sample
  split <;> rfl

theorem checkValue_sample (column : declared.hasColumn = true) (name : String) (second : Bool) :
    declared.checkValue name (declared.sample second) = .ok () := by
  have singular := hasColumn_iff.mp column
  rw [checkValue, isNull_sample]
  unfold sample
  cases kind : declared.kind with
  | scalar type => cases type <;> rfl
  | model target => rfl
  | collection target via => exact absurd kind (singular target via)

theorem same_sample_iff (first second : Bool) :
    (declared.sample first).same (declared.sample second) = true ↔ first = second := by
  unfold sample
  split
  · cases first <;> cases second <;> decide
  · cases first <;> cases second <;> decide
  · cases first <;> cases second <;> decide

theorem sample_cases (declared : Attribute) (second : Bool) :
    declared.sample second = .text (if second then "b" else "a") ∨ declared.sample second = .bool second ∨
      declared.sample second = .ofNat second.toNat := by
  rw [sample]
  split
  · exact .inl rfl
  · exact .inr (.inl rfl)
  · exact .inr (.inr rfl)

/-- The first sample of an attribute is not the second one of any attribute. -/
theorem not_same_sample (declared other : Attribute) : (declared.sample false).same (other.sample true) = false := by
  rcases declared.sample_cases false with first | first | first <;>
    rcases other.sample_cases true with second | second | second <;> rw [first, second] <;> rfl

/-- Nor is it a number other than zero. -/
theorem not_same_ofNat (declared : Attribute) {number : Nat} (notZero : number ≠ 0) :
    (declared.sample false).same (.ofNat number) = false := by
  rcases declared.sample_cases false with first | first | first
  · rw [first]
    rfl
  · rw [first]
    rfl
  · rw [first]
    simp only [Json.same, Json.ofNat, Number.same, beq_eq_false_iff_ne, Bool.toNat_false]
    omega

end Attribute

namespace Model

/-- A record that gives every attribute with a column a value. -/
def filled (model : Model) (value : String × Attribute → Json) : Record :=
  model.stored.map fun entry => (entry.1, value entry)

/-- Values, none of them null, that fit the attributes with a column. -/
def Suits (model : Model) (value : String × Attribute → Json) : Prop :=
  ∀ entry ∈ model.stored, (value entry).isNull = false ∧ entry.2.checkValue entry.1 (value entry) = .ok ()

/-- One of two records that agree in the shared attribute and in no other. -/
def twin (model : Model) (shared : String) (second : Bool) : Record :=
  model.stored.map fun entry => (entry.1, entry.2.sample (second && entry.1 != shared))

variable {model : Model} {shared : String} {value : String × Attribute → Json}

theorem names_filled (model : Model) (value : String × Attribute → Json) :
    Dictionary.names (model.filled value) = Dictionary.names model.stored := by
  rw [Dictionary.names, filled, List.map_map]
  rfl

theorem sorted_filled (model : Model) (value : String × Attribute → Json) : Dictionary.Sorted (model.filled value) := by
  have names := model.sorted_stored
  unfold Dictionary.Sorted at names ⊢
  rw [← Dictionary.names, names_filled]
  exact names

theorem get?_filled {entry : String × Attribute} (stored : entry ∈ model.stored) :
    Dictionary.get? (model.filled value) entry.1 = some (value entry) :=
  Dictionary.get?_of_mem (model.sorted_filled value).nodup
    (List.mem_map_of_mem (f := fun entry : String × Attribute => (entry.1, value entry)) stored)

/-- A value that fits an attribute with a column is taken as it is. -/
theorem readEntry_of_fits {name : String} {declared : Attribute}
    (stored : (name, declared) ∈ model.stored) {given : Json} (notNull : given.isNull = false)
    (fits : declared.checkValue name given = .ok ()) : model.readEntry (name, given) = .ok [(name, given)] := by
  have isAttribute : model.givenAttribute name = .ok declared := by
    rw [givenAttribute, attribute?_of_mem (List.mem_filter.mp stored).1]
  simp [readEntry, isAttribute, notNull, fits, bind, Except.bind, pure, Except.pure]

/-- Each entry of a record of values that fit is taken as it is. -/
theorem readEntries_filled (suits : model.Suits value) :
    (model.filled value).mapM model.readEntry = .ok ((model.filled value).map fun entry => [entry]) := by
  rw [mapM_eq_ok, List.map_map]
  refine List.map_congr_left fun entry member => ?_
  obtain ⟨entry, stored, rfl⟩ := List.mem_map.mp member
  exact readEntry_of_fits stored (suits entry stored).1 (suits entry stored).2

/-- A record that gives every attribute with a column a value leaves none open. -/
theorem openAttributes_filled (model : Model) (value : String × Attribute → Json) :
    model.openAttributes (model.filled value) = [] := by
  refine List.filter_eq_nil_iff.mpr fun entry stored => ?_
  have given : Dictionary.contains (model.filled value) entry.1 = true := by
    rw [Dictionary.contains_iff, names_filled]
    exact List.mem_map_of_mem stored
  simp [given]

/-- A record of values that fit is a new record as it is. -/
theorem readRecord_filled (suits : model.Suits value) (now : Instant) :
    model.readRecord now (.record (model.filled value)) = .ok (model.filled value) := by
  have flat : ((model.filled value).map fun entry => [entry]).flatten = model.filled value := by
    rw [← List.flatMap_def, List.flatMap_singleton']
  refine bind_eq_ok.mpr ⟨_, readEntries_filled suits, ?_⟩
  rw [flat]
  dsimp only
  rw [openAttributes_filled]
  rfl

/-- A record that holds stored attributes only is covered. -/
theorem Stores.covers {record : Record} (stores : model.Stores (Dictionary.names record)) :
    (Columns.ofModel model).Covers record := by
  intro name member
  obtain ⟨column, found⟩ := Columns.exists_column_iff.mpr (stores name member)
  rw [found, Columns.columnOf_of_ok found]

theorem covers_filled (model : Model) (value : String × Attribute → Json) :
    (Columns.ofModel model).Covers (model.filled value) := by
  apply Stores.covers
  rw [names_filled]
  exact fun _ => id

/-! ## Two samples -/

theorem suits_sample (model : Model) (which : String → Bool) :
    model.Suits fun entry => entry.2.sample (which entry.1) :=
  fun entry stored => ⟨entry.2.isNull_sample _, Attribute.checkValue_sample (List.mem_filter.mp stored).2 _ _⟩

/-- A sample of an attribute that has a column is taken as it is. -/
theorem readEntry_sample {name : String} {declared : Attribute}
    (stored : (name, declared) ∈ model.stored) (second : Bool) :
    model.readEntry (name, declared.sample second) = .ok [(name, declared.sample second)] :=
  readEntry_of_fits stored (declared.isNull_sample second)
    (Attribute.checkValue_sample (List.mem_filter.mp stored).2 name second)

/-- A twin is a new record as it is. -/
theorem readRecord_twin (model : Model) (shared : String) (now : Instant) (second : Bool) :
    model.readRecord now (.record (model.twin shared second)) = .ok (model.twin shared second) :=
  readRecord_filled (model.suits_sample fun name => second && name != shared) now

theorem covers_twin (model : Model) (shared : String) (second : Bool) :
    (Columns.ofModel model).Covers (model.twin shared second) :=
  model.covers_filled _

section Rows

variable {models : List Model} (valid : model.Valid models)

include valid

/-- In the column of an attribute, the row of a record that fills all of them holds the value of it. -/
theorem get?_rowOf_filled {name column : String} (found : (Columns.ofModel model).column name = .ok column) :
    ∃ declared, (name, declared) ∈ model.stored ∧ ∀ value : String × Attribute → Json,
      Dictionary.get? ((Columns.ofModel model).rowOf (model.filled value)) column = some (value (name, declared)) := by
  obtain ⟨⟨_, declared⟩, stored, rfl⟩ := List.mem_map.mp (Columns.exists_column_iff.mp ⟨column, found⟩)
  refine ⟨declared, stored, fun value => ?_⟩
  rw [(Columns.faithful_ofModel valid).get?_rowOf ⟨model.sorted_filled value, covers_filled model value⟩ found]
  exact get?_filled stored

omit valid in
/-- In any other column it holds nothing. -/
theorem get?_rowOf_filled_eq_none {column : String}
    (unclaimed : ¬∃ name, (Columns.ofModel model).column name = .ok column) (value : String × Attribute → Json) :
    Dictionary.get? ((Columns.ofModel model).rowOf (model.filled value)) column = none :=
  Columns.get?_rowOf_eq_none fun name member same =>
    unclaimed ⟨name, same ▸ covers_filled model value name member⟩

/-- In the column of an attribute, the rows of twins hold samples of it. -/
theorem get?_rowOf_twin {name column : String} (found : (Columns.ofModel model).column name = .ok column)
    (shared : String) : ∃ declared : Attribute, ∀ second,
      Dictionary.get? ((Columns.ofModel model).rowOf (model.twin shared second)) column =
        some (declared.sample (second && name != shared)) := by
  obtain ⟨declared, -, holds⟩ := get?_rowOf_filled valid found
  exact ⟨declared, fun second => holds _⟩

omit valid in
theorem get?_rowOf_twin_eq_none {column : String}
    (unclaimed : ¬∃ name, (Columns.ofModel model).column name = .ok column) (shared : String) (second : Bool) :
    Dictionary.get? ((Columns.ofModel model).rowOf (model.twin shared second)) column = none :=
  get?_rowOf_filled_eq_none unclaimed _

/-- The rows of twins agree in the column of the attribute that they share, and in no other. -/
theorem agree_twins_iff {shared shown : String} (isColumn : (Columns.ofModel model).column shared = .ok shown)
    (column : String) :
    Record.Agree column ((Columns.ofModel model).rowOf (model.twin shared false))
      ((Columns.ofModel model).rowOf (model.twin shared true)) ↔ column = shown := by
  by_cases claimed : ∃ name, (Columns.ofModel model).column name = .ok column
  · obtain ⟨name, found⟩ := claimed
    obtain ⟨declared, holds⟩ := get?_rowOf_twin valid found shared
    have agree : Record.Agree column ((Columns.ofModel model).rowOf (model.twin shared false))
        ((Columns.ofModel model).rowOf (model.twin shared true)) ↔ name = shared := by
      simp [Record.Agree, holds, Attribute.isNull_sample, Attribute.same_sample_iff]
    rw [agree]
    constructor
    · rintro rfl
      exact Except.ok.inj (found.symm.trans isColumn)
    · rintro rfl
      exact (Columns.faithful_ofModel valid).eq_of_column found isColumn
  · refine iff_of_false ?_ fun same => claimed ⟨shared, same ▸ isColumn⟩
    rintro ⟨value, -, held, -⟩
    rw [get?_rowOf_twin_eq_none claimed] at held
    cases held

/-- Either both rows of twins hold something in a column, or none of them does. -/
theorem has_twins_iff (shared column : String) :
    ((Columns.ofModel model).rowOf (model.twin shared false)).Has column ↔
      ((Columns.ofModel model).rowOf (model.twin shared true)).Has column := by
  by_cases claimed : ∃ name, (Columns.ofModel model).column name = .ok column
  · obtain ⟨name, found⟩ := claimed
    obtain ⟨declared, holds⟩ := get?_rowOf_twin valid found shared
    simp [Record.Has, Json.present?, holds, Option.filter, Attribute.isNull_sample]
  · simp [Record.Has, get?_rowOf_twin_eq_none claimed]

end Rows

variable {σ : Type}

/-- A create of one record that calls no hook. -/
def createOne (model : Model) (record : Record) : Description σ where
  method := .create
  model := model.identity
  records := some (.record record)
  options := { skipHooks := true }

/-- The create of one record in its checked form. -/
def addOne (model : Model) (record : Record) : LogicalQuery σ where
  method := .create
  model := model.identity
  records := [record]
  options := { skipHooks := true }

/-- A create of the twins of a model that calls no hook. -/
def createTwins (model : Model) (shared : String) : Description σ where
  method := .createEach
  model := model.identity
  records := some (.list [.record (model.twin shared false), .record (model.twin shared true)])
  options := { skipHooks := true }

/-- The create of twins in its checked form. -/
def addTwins (model : Model) (shared : String) : LogicalQuery σ where
  method := .createEach
  model := model.identity
  records := [model.twin shared false, model.twin shared true]
  options := { skipHooks := true }

end Model

namespace RegisteredModel

variable {σ : Type} {registry : Registry σ} {registered : RegisteredModel σ}

/-- The create of one record in terms of the table of its model. -/
def addOne (registered : RegisteredModel σ) (record : Record) : PhysicalQuery where
  method := .create
  table := registered.model.table
  records := [registered.columns.rowOf record]
  options := { skipHooks := true }

/-- The create of twins in terms of the table of their model. -/
def addTwins (registered : RegisteredModel σ) (shared : String) : PhysicalQuery where
  method := .createEach
  table := registered.model.table
  records := [registered.columns.rowOf (registered.model.twin shared false),
    registered.columns.rowOf (registered.model.twin shared true)]
  options := { skipHooks := true }

theorem compile_createOne (found : registry.model? registered.model.identity = some registered)
    {given record : Record} {now : Instant} (read : registered.model.readRecord now (.record given) = .ok record) :
    (registered.model.createOne given : Description σ).compile registry now =
      .ok (registered.model.addOne record) := by
  refine Description.compile_eq_ok.mpr ⟨registered, found, rfl, rfl, rfl, rfl, rfl, rfl, ?_, rfl, rfl, rfl⟩
  change ((registered.model.readRecord now (.record given)).mapError _).map _ = _
  rw [read]
  rfl

theorem lower_addOne {record : Record} (covers : registered.columns.Covers record) :
    (registered.model.addOne record : LogicalQuery σ).lower registered registry = .ok (registered.addOne record) := by
  refine LogicalQuery.lower_eq_ok.mpr ⟨rfl, rfl, rfl, rfl, rfl, rfl, ?_, rfl⟩
  exact Columns.lower_rows fun other member => List.mem_singleton.mp member ▸ covers

theorem compile_createTwins (found : registry.model? registered.model.identity = some registered)
    (shared : String) (now : Instant) :
    (registered.model.createTwins shared : Description σ).compile registry now =
      .ok (registered.model.addTwins shared) := by
  refine Description.compile_eq_ok.mpr ⟨registered, found, rfl, rfl, rfl, rfl, rfl, rfl, ?_, rfl, rfl, rfl⟩
  change (registered.model.readRecordsFrom now 0 _).mapError _ = _
  rw [Model.readRecordsFrom, Model.readRecord_twin, Model.readRecordsFrom, Model.readRecord_twin]
  rfl

theorem lower_addTwins (ofModel : registered.columns = Columns.ofModel registered.model) (shared : String) :
    (registered.model.addTwins shared : LogicalQuery σ).lower registered registry =
      .ok (registered.addTwins shared) := by
  refine LogicalQuery.lower_eq_ok.mpr ⟨rfl, rfl, rfl, rfl, rfl, rfl, ?_, rfl⟩
  refine Columns.lower_rows fun record member => ?_
  rw [ofModel]
  rcases List.mem_pair.mp member with rfl | rfl
  · exact Model.covers_twin registered.model shared false
  · exact Model.covers_twin registered.model shared true

end RegisteredModel

end RecordMapper
