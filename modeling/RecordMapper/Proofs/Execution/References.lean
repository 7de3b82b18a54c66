import RecordMapper.Proofs.Criteria.Referring
import RecordMapper.Proofs.Execution.Populating
import RecordMapper.Proofs.Model.Fitting

/-! # Rows with a reference

A row holds the key of another one in the column of a singular association. The row that it refers to is the first
one of the model that holds this key. A row that can be read without the association is read with it as what it
refers to allows: the rest of the row is raised as before, and under the name of the association stands the record
of what the row refers to, or null. The record is verified after that, and then only this value may not fit.
-/

namespace RecordMapper

open Attempt Results

variable {σ : Type}

/-! ## What a row refers to -/

/-- The row that a row refers to: the first one that holds the key which the row holds. -/
def Record.referred? (foreignKey key : String) (children : List Record) (row : Record) : Option Record :=
  (Json.present? (Dictionary.get? row foreignKey)).bind fun value => children.find? fun child =>
    match Dictionary.get? child key with
    | some held => held.same value
    | none => false

/-- The join of a singular association embeds the row that a row refers to, or null. -/
theorem Join.embed_eq_referred {join : Join} (singular : join.collection = false) (children : List Record)
    (row : Record) :
    join.embed children row =
      ((row.referred? join.parentKey join.childKey children).map Json.record).getD .null := by
  unfold Record.referred?
  cases holds : Json.present? (Dictionary.get? row join.parentKey) with
  | none =>
    rw [embed_of_absent holds, empty, singular]
    rfl
  | some key =>
    rw [embed_singular singular holds]
    rfl

namespace Model

variable {model : Model}

/-- A record that has its key drifts in an attribute that holds what does not fit. -/
theorem exists_misfit {record : Record} {drift : Drift} (has : record.Has model.primaryKey)
    (drifts : model.drift? record = some drift) :
    ∃ name declared, (name, declared) ∈ model.attributes ∧ ∃ value, Dictionary.get? record name = some value ∧
      declared.fits value = false ∧ drift = .misfit name value := by
  obtain ⟨key, present⟩ := has
  unfold drift? at drifts
  rw [present] at drifts
  obtain ⟨⟨name, declared⟩, isAttribute, drifts⟩ := List.exists_of_findSome?_eq_some drifts
  dsimp only at drifts
  split at drifts
  · next value held =>
    split at drifts
    · cases drifts
    · next misfit =>
      exact ⟨name, declared, isAttribute, value, held, Bool.eq_false_iff.mpr misfit, (Option.some.inj drifts).symm⟩
  · cases drifts

/-- A record that has its key, and in which one attribute is set while all others fit, drifts exactly if the value
that is set does not fit. -/
theorem drift?_insert {name : String} {declared : Attribute} (isAttribute : (name, declared) ∈ model.attributes)
    (notKey : name ≠ model.primaryKey) {part : Record} (has : part.Has model.primaryKey)
    (others : ∀ other declared, (other, declared) ∈ model.attributes → other ≠ name →
      ∀ value, Dictionary.get? part other = some value → declared.fits value = true) (value : Json) :
    model.drift? (Dictionary.insert part name value) =
      if declared.fits value then none else some (.misfit name value) := by
  have hasKey : Record.Has model.primaryKey (Dictionary.insert part name value) := by
    unfold Record.Has
    rwa [Dictionary.get?_insert, if_neg notKey]
  cases drifts : model.drift? (Dictionary.insert part name value) with
  | none =>
    have fits := (drift?_eq_none.mp drifts).2 _ isAttribute value (by rw [Dictionary.get?_insert, if_pos rfl])
    rw [if_pos fits]
  | some drift =>
    obtain ⟨other, found, isEntry, held, isHeld, misfit, rfl⟩ := exists_misfit hasKey drifts
    rw [Dictionary.get?_insert] at isHeld
    by_cases same : name = other
    · subst same
      obtain rfl := attribute_eq isAttribute (attribute?_of_mem isEntry)
      rw [if_pos rfl, Option.some.injEq] at isHeld
      rw [isHeld, misfit, if_neg Bool.false_ne_true]
    · rw [if_neg same] at isHeld
      rw [others other found isEntry (Ne.symm same) held isHeld] at misfit
      cases misfit

end Model

/-! ## Showing one more column -/

namespace Columns

variable {columns : Columns}

/-- A row whose fields are columns of attributes can be raised. -/
theorem Faithful.exists_raise (faithful : columns.Faithful) {row : Record} (nodup : (Dictionary.names row).Nodup)
    (claimed : ∀ column ∈ Dictionary.names row, ∃ name, columns.column name = .ok column) :
    ∃ record, columns.raise row = .ok record := by
  refine ⟨_, raise_eq_ok.mpr ⟨?_, rfl⟩⟩
  have distinct : ((Dictionary.names row).map columns.nameOf).Nodup := by
    refine List.Nodup.map_on (fun first isFirst second isSecond same => ?_) nodup
    obtain ⟨name, isName⟩ := claimed first isFirst
    obtain ⟨other, isOther⟩ := claimed second isSecond
    rw [faithful.nameOf_eq isName, faithful.nameOf_eq isOther] at same
    exact Except.ok.inj (isName.symm.trans (same ▸ isOther))
  rwa [Dictionary.names, List.map_map] at distinct

section

variable {name shown : String} (isColumn : columns.column name = .ok shown) {selection other : Option (List String)}
  (shows : ∀ column, Criteria.selects other column = (Criteria.selects selection column || column == shown))
  {row bare : Record} (raised : columns.raise (row.filter fun entry => Criteria.selects selection entry.1) = .ok bare)
  {keep : String → Bool}

include isColumn shows raised

/-- If what a selection shows of a row can be raised, then so can any part of what is shown with one more column of
an attribute. -/
theorem Faithful.exists_raise_showing (faithful : columns.Faithful)
    (claimed : ∀ chosen, selection = some chosen → ∀ column ∈ chosen, ∃ name, columns.column name = .ok column)
    (sorted : Dictionary.Sorted row) :
    ∃ part, columns.raise (row.filter fun entry => Criteria.selects other entry.1 && keep entry.1) = .ok part := by
  cases chosen : selection with
  | none =>
    -- everything was shown before
    have all : (row.filter fun entry => Criteria.selects none entry.1) = row :=
      List.filter_eq_self.mpr fun _ _ => rfl
    rw [chosen, all] at raised
    exact exists_raise_filter raised fun entry => Criteria.selects other entry.1 && keep entry.1
  | some names =>
    refine faithful.exists_raise (sorted.filter _).nodup fun column member => ?_
    obtain ⟨entry, isEntry, rfl⟩ := List.mem_map.mp member
    have isShown := (Bool.and_eq_true _ _ ▸ (List.mem_filter.mp isEntry).2).1
    rw [shows, chosen, Bool.or_eq_true, beq_iff_eq] at isShown
    rcases isShown with before | isNew
    · exact claimed names chosen entry.1 (List.contains_iff_mem.mp before)
    · exact ⟨name, isNew ▸ isColumn⟩

/-- What is raised with one more column of an attribute holds what was held before where no field is left out, and
nothing new but that attribute. -/
theorem Faithful.get?_raise_showing (faithful : columns.Faithful) {part : Record}
    (partRaised : columns.raise (row.filter fun entry => Criteria.selects other entry.1 && keep entry.1) = .ok part)
    (field : String) (value : Json) :
    ((∀ column, columns.nameOf column = field → keep column = true) →
        Dictionary.get? bare field = some value → Dictionary.get? part field = some value) ∧
      (field ≠ name → Dictionary.get? part field = some value → Dictionary.get? bare field = some value) := by
  refine ⟨fun kept held => ?_, fun differs held => ?_⟩
  · obtain ⟨column, member, isField⟩ := (get?_raise raised).mp held
    obtain ⟨inRow, isShown⟩ := List.mem_filter.mp member
    refine (get?_raise partRaised).mpr ⟨column, List.mem_filter.mpr ⟨inRow, ?_⟩, isField⟩
    rw [shows, isShown, kept column isField]
    rfl
  · obtain ⟨column, member, isField⟩ := (get?_raise partRaised).mp held
    obtain ⟨inRow, isShown⟩ := List.mem_filter.mp member
    refine (get?_raise raised).mpr ⟨column, List.mem_filter.mpr ⟨inRow, ?_⟩, isField⟩
    have isShown := (Bool.and_eq_true _ _ ▸ isShown).1
    rw [shows, Bool.or_eq_true, beq_iff_eq] at isShown
    refine isShown.resolve_right fun isNew => differs ?_
    obtain rfl : column = shown := isNew
    rw [← isField, faithful.nameOf_eq isColumn]

end

end Columns

/-! ## Reading a row with its reference -/

namespace RegisteredModel

/-- The row of a model that a row refers to under the name of an association. -/
def referred? (registered child : RegisteredModel σ) (name : String) (children : List Record) (row : Record) :
    Option Record :=
  match registered.columns.column name, child.columns.column child.model.primaryKey with
  | .ok foreignKey, .ok key => row.referred? foreignKey key children
  | _, _ => none

variable {registered child : RegisteredModel σ} {name : String} {declared : Attribute} {verified : Bool}
  {rest record : Record} {referred : Option Record}

/-- What is read of the rest of a row and of what the row refers to. Without the latter the association is null,
which does not fit if it is required. -/
def withReferred (registered child : RegisteredModel σ) (name : String) (declared : Attribute)
    (verified : Bool) (rest : Record) : Option Record → Except QueryError Record
  | none =>
    if verified && declared.required then .error (.drift registered.identity (.misfit name .null))
    else .ok (Dictionary.insert rest name .null)
  | some referred =>
    (child.raiseChild verified referred).map fun record => Dictionary.insert rest name (.record record)

/-- Another record agrees with one on all attributes that are neither called like an association nor shadowed by
it. -/
def AgreesBeside (registered : RegisteredModel σ) (name : String) (record other : Record) : Prop :=
  ∀ field, field ≠ name → ¬registered.columns.Shadowed [name] field →
    Dictionary.get? other field = Dictionary.get? record field

/-- What rows refer to can be read. -/
def ReadsReferred (registered child : RegisteredModel σ) (name : String) (verified : Bool)
    (children rows : List Record) : Prop :=
  ∀ row ∈ rows, ∀ referred, registered.referred? child name children row = some referred →
    ∃ record, child.raiseChild verified referred = .ok record

/-- Some row refers to nothing. -/
def Dangles (registered child : RegisteredModel σ) (name : String) (children rows : List Record) : Prop :=
  ∃ row ∈ rows, registered.referred? child name children row = none

/-- Under the name of an association stands the record of what a row refers to, or null. -/
def HoldsReferred (child : RegisteredModel σ) (name : String) (verified : Bool) (record : Record) :
    Option Record → Prop
  | none => Dictionary.get? record name = some .null
  | some referred => ∃ found, child.raiseChild verified referred = .ok found ∧
      Dictionary.get? record name = some (.record found)

/-- A record that has its key, and in which one attribute is set while all others fit, is verified exactly if the
value that is set fits. -/
theorem verify_insert (isAttribute : (name, declared) ∈ registered.model.attributes)
    (notKey : name ≠ registered.model.primaryKey) (has : rest.Has registered.model.primaryKey)
    (others : ∀ other declared, (other, declared) ∈ registered.model.attributes → other ≠ name →
      ∀ value, Dictionary.get? rest other = some value → declared.fits value = true) (value : Json) :
    registered.verify (Dictionary.insert rest name value) =
      if declared.fits value then .ok () else .error (.drift registered.identity (.misfit name value)) := by
  rw [verify, Model.drift?_insert isAttribute notKey has others]
  cases declared.fits value <;> rfl

/-- A row is read if what it refers to can be, or if it refers to nothing and may. -/
theorem exists_withReferred_iff :
    (∃ record, registered.withReferred child name declared verified rest referred = .ok record) ↔
      (∀ row, referred = some row → ∃ record, child.raiseChild verified row = .ok record) ∧
        (declared.required = true → verified = true → referred ≠ none) := by
  cases referred with
  | none => cases verified <;> cases required : declared.required <;> simp [withReferred, required]
  | some row => simp [withReferred, exists_map_eq_ok_iff]

/-- What is read holds what the row refers to besides the rest. -/
theorem withReferred_eq_ok (done : registered.withReferred child name declared verified rest referred = .ok record) :
    child.HoldsReferred name verified record referred ∧
      ∀ field, field ≠ name → Dictionary.get? record field = Dictionary.get? rest field := by
  cases referred with
  | none =>
    rw [withReferred] at done
    split at done
    · cases done
    · obtain rfl := Except.ok.inj done
      refine ⟨?_, fun field differs => ?_⟩
      · rw [HoldsReferred, Dictionary.get?_insert, if_pos rfl]
      · rw [Dictionary.get?_insert, if_neg (Ne.symm differs)]
  | some row =>
    obtain ⟨found, read, rfl⟩ := map_eq_ok.mp done
    refine ⟨⟨found, read, ?_⟩, fun field differs => ?_⟩
    · rw [Dictionary.get?_insert, if_pos rfl]
    · rw [Dictionary.get?_insert, if_neg (Ne.symm differs)]

/-- If what a row refers to can be read, then the row cannot be read only for lack of it. -/
theorem withReferred_eq_error {error : QueryError}
    (readable : ∀ row, referred = some row → ∃ record, child.raiseChild verified row = .ok record)
    (failed : registered.withReferred child name declared verified rest referred = .error error) :
    error = .drift registered.identity (.misfit name .null) := by
  cases referred with
  | none =>
    rw [withReferred] at failed
    split at failed
    · exact (Except.error.inj failed).symm
    · cases failed
  | some row =>
    obtain ⟨record, read⟩ := readable row rfl
    rw [withReferred, read] at failed
    cases failed

end RegisteredModel

namespace Registry

variable {registry : Registry σ} {registered child : RegisteredModel σ}

/-- What the join of a singular association embeds is read as null, or as a record of its model. -/
theorem embedded_referred {verified : Bool} {join : Join} (isChild : registry.model? join.childModel = some child)
    (singular : join.collection = false) (children : List Record) (row : Record) :
    registry.embedded registered verified join (some (join.embed children row)) =
      match row.referred? join.parentKey join.childKey children with
      | none => .ok .null
      | some referred => (child.raiseChild verified referred).map .record := by
  unfold embedded
  rw [Join.embed_eq_referred singular, require, isChild, singular]
  cases row.referred? join.parentKey join.childKey children with
  | none => rfl
  | some referred => rfl

/-- A row with one join is read as what is raised of the rest, with what the join embeds. -/
theorem materializeRow_single {join : Join} {verified : Bool} {row rest : Record}
    (raised : registered.columns.raise (row.filter fun entry => Join.leaves [join] entry.1) = .ok rest) :
    registry.materializeRow registered [join] verified row =
      registry.embedded registered verified join (Dictionary.get? row join.field) >>= fun value =>
        if verified then (registered.verify (Dictionary.insert rest join.field value)).map fun _ =>
          Dictionary.insert rest join.field value
        else .ok (Dictionary.insert rest join.field value) := by
  have distinct : (Join.fields [join]).Nodup := List.pairwise_singleton _ _
  unfold materializeRow
  rw [Join.detach_eq distinct]
  dsimp only
  rw [RegisteredModel.raise, raised, List.map_singleton]
  simp only [Except.mapError, List.foldlM_cons, List.foldlM_nil, bind_pure]
  cases registry.embedded registered verified join (Dictionary.get? row join.field) with
  | error error => rfl
  | ok value =>
    cases verified with
    | false => rfl
    | true =>
      simp only [bind, Except.bind, Except.map, pure, Except.pure, if_true]

section

variable {name : String} {join : Join} {verified : Bool} {selection other : Option (List String)}
  {row bare rest : Record}

/-- If a row can be read without an association, then what is shown with it of the rest can be raised, and it agrees
with what was read before. -/
theorem exists_rest (faithful : registered.columns.Faithful) (isField : join.field = name)
    (isColumn : registered.columns.column name = .ok join.parentKey)
    (claimed : ∀ chosen, selection = some chosen → ∀ column ∈ chosen,
      ∃ name, registered.columns.column name = .ok column)
    (shows : ∀ column, Criteria.selects other column = (Criteria.selects selection column || column == join.parentKey))
    (inOrder : Dictionary.Sorted row) (without : registry.ReadAs registered [] selection verified row bare) :
    ∃ rest, registered.columns.raise
        (row.filter fun entry => Criteria.selects other entry.1 && Join.leaves [join] entry.1) = .ok rest ∧
      registered.AgreesBeside name bare rest ∧
      ∀ field value, field ≠ name → Dictionary.get? rest field = some value →
        Dictionary.get? bare field = some value := by
  obtain ⟨start, values, raised, -, isBare, -⟩ := without
  obtain rfl : start = bare := isBare
  have unjoined (entry : String × Json) :
      (Criteria.selects selection entry.1 && Join.leaves [] entry.1) = Criteria.selects selection entry.1 :=
    Bool.and_true _
  rw [List.map_nil, funext unjoined] at raised
  obtain ⟨rest, restRaised⟩ := faithful.exists_raise_showing isColumn shows raised claimed inOrder
  have holds := faithful.get?_raise_showing isColumn shows raised restRaised
  have fields : Join.fields [join] = [name] := congrArg ([·]) isField
  refine ⟨rest, restRaised, fun field differs unshadowed => Option.ext fun value =>
    ⟨(holds field value).2 differs, (holds field value).1 fun column isName => ?_⟩, fun field value =>
    (holds field value).2⟩
  refine leaves_of_clear ?_ (fields ▸ unshadowed) isName
  rw [fields]
  exact List.mem_singleton.not.mpr differs

/-- A row that is read without an association is read with it as what it refers to allows. -/
theorem materializeRow_referring {declared : Attribute} {target : String}
    (isAttribute : (name, declared) ∈ registered.model.attributes) (isModel : declared.kind = .model target)
    (notKey : name ≠ registered.model.primaryKey)
    (clear : ¬registered.columns.Shadowed [name] registered.model.primaryKey) (isField : join.field = name)
    (singular : join.collection = false) (isChild : registry.model? join.childModel = some child)
    (fits : verified = true → registered.model.drift? bare = none)
    (raised : registered.columns.raise
      (row.filter fun entry => Criteria.selects other entry.1 && Join.leaves [join] entry.1) = .ok rest)
    (agrees : registered.AgreesBeside name bare rest)
    (only : ∀ field value, field ≠ name → Dictionary.get? rest field = some value →
      Dictionary.get? bare field = some value) (children : List Record) :
    registry.materializeRow registered [join] verified
        (Record.project other [join.field] (Join.attach row (join, children))) =
      registered.withReferred child name declared verified rest
        (row.referred? join.parentKey join.childKey children) := by
  subst isField
  have attached : Dictionary.get? (Record.project other [join.field] (Join.attach row (join, children))) join.field =
      some (join.embed children row) := by
    rw [Record.get?_project (List.mem_singleton_self _), Join.get?_attach, if_pos rfl]
  have verifies (isVerified : verified = true) := by
    obtain ⟨key, each⟩ := Model.drift?_eq_none.mp (fits isVerified)
    have has : rest.Has registered.model.primaryKey := by
      rw [Record.Has, agrees _ (Ne.symm notKey) clear]
      exact key
    exact RegisteredModel.verify_insert isAttribute notKey has fun field other isEntry differs value held =>
      each (field, other) isEntry value (only field value differs held)
  have outside : registered.columns.raise ((Record.project other [join.field] (Join.attach row (join, children))).filter
      fun entry => Join.leaves [join] entry.1) = .ok rest :=
    (congrArg _ (Record.filter_project_attached [(join, children)] other row)).trans raised
  rw [materializeRow_single outside, attached, embedded_referred isChild singular]
  cases row.referred? join.parentKey join.childKey children with
  | none =>
    cases verified with
    | false => rfl
    | true =>
      change (registered.verify (Dictionary.insert rest join.field .null)).map _ = _
      rw [verifies rfl, RegisteredModel.withReferred]
      have nullFits : declared.fits .null = !declared.required := rfl
      rw [nullFits]
      cases declared.required <;> rfl
  | some referred =>
    have recordFits (record : Record) : declared.fits (.record record) = true := by
      unfold Attribute.fits
      rw [isModel]
      rfl
    rw [RegisteredModel.withReferred]
    dsimp only
    cases child.raiseChild verified referred with
    | error error => rfl
    | ok record =>
      cases verified with
      | false => rfl
      | true =>
        change (registered.verify (Dictionary.insert rest join.field (.record record))).map _ = _
        rw [verifies rfl, if_pos (recordFits record)]
        rfl

end

end Registry

end RecordMapper
