import RecordMapper.Execution.Materialization
import RecordMapper.Proofs.Model.Twins

/-! # What is written fits

A value that a caller gives is checked when it is written, by the same rules as when it is read back. What is
filled in is not checked. A stamp fits every attribute with a column that can ask for one, but no plural
association, and those are stamped by updates too. A default fits only if whoever declared it saw to it.
-/

namespace RecordMapper

open Results

namespace Attribute

variable {declared : Attribute} {value : Json}

/-- What may be written may be read. -/
theorem fits_of_checkValue {name : String} (passed : declared.checkValue name value = .ok ()) :
    declared.fits value = true := by
  unfold checkValue at passed
  unfold fits
  split at passed
  · next isNull =>
    rw [if_pos isNull]
    split at passed
    · cases passed
    · next optional => simpa using optional
  · next notNull =>
    rw [if_neg notNull]
    cases kind : declared.kind with
    | scalar type =>
      simp only [kind] at passed
      split at passed
      · next accepted => exact accepted
      · cases passed
    | model target =>
      simp only [kind] at passed
      split at passed
      · next isKey =>
        dsimp only
        rw [isKey]
        rfl
      · cases passed
    | collection target via =>
      simp only [kind] at passed
      cases passed

/-- The declared type of a sound attribute for plain values. -/
theorem type_of_sound {model : Model} {models : List Model} (sound : model.attributeFault? models declared = none)
    {type : ScalarType} (isScalar : declared.kind = .scalar type) : declared.type = some type := by
  unfold Model.attributeFault? at sound
  split at sound
  · cases sound
  · next oneKind =>
    unfold Attribute.kind at isScalar
    split at isScalar
    · cases isScalar
    · cases isScalar
    · next noModel noCollection =>
      rw [Model.declaredKinds, noModel, noCollection] at oneKind
      cases isType : declared.type with
      | none => simp [isType] at oneKind
      | some other => rw [← (AttributeKind.scalar.inj isScalar), isType, Option.getD_some]

/-- A sound attribute for plain values that is stamped holds texts or numbers. -/
theorem stamped_of_sound {model : Model} {models : List Model} (sound : model.attributeFault? models declared = none)
    (stamped : (declared.autoCreatedAt || declared.autoUpdatedAt) = true) {type : ScalarType}
    (isScalar : declared.kind = .scalar type) : type = .string ∨ type = .number := by
  unfold Model.attributeFault? at sound
  split at sound
  · cases sound
  · rw [isScalar, stamped] at sound
    dsimp only at sound
    split at sound
    · cases sound
    · cases type <;> simp at sound ⊢

theorem isNull_stamp (now : Instant) : (declared.stamp now).isNull = false := by
  unfold stamp
  split <;> rfl

/-- The stamp of an attribute with a column fits. -/
theorem fits_stamp {model : Model} {models : List Model} (sound : model.attributeFault? models declared = none)
    (stamped : (declared.autoCreatedAt || declared.autoUpdatedAt) = true) (column : declared.hasColumn = true)
    (now : Instant) : declared.fits (declared.stamp now) = true := by
  rw [fits, isNull_stamp, if_neg Bool.false_ne_true]
  cases kind : declared.kind with
  | scalar type =>
    have isType := type_of_sound sound kind
    rcases stamped_of_sound sound stamped kind with rfl | rfl
    all_goals
      rw [stamp, isType]
      rfl
  | model target =>
    unfold stamp
    cases declared.type with
    | none => rfl
    | some type => cases type <;> rfl
  | collection target via => exact absurd kind (hasColumn_iff.mp column target via)

/-- No stamp fits a plural association. -/
theorem not_fits_stamp (plural : declared.hasColumn = false) (now : Instant) :
    declared.fits (declared.stamp now) = false := by
  rw [fits, isNull_stamp, if_neg Bool.false_ne_true]
  unfold hasColumn at plural
  split at plural
  · next isCollection =>
    rw [isCollection, stamp]
    cases declared.type with
    | none => rfl
    | some type => cases type <;> rfl
  · cases plural

end Attribute

namespace Model

/-- Everything that a record holds fits. -/
def Fits (model : Model) (record : Record) : Prop :=
  ∀ name declared, (name, declared) ∈ model.attributes →
    ∀ value, Dictionary.get? record name = some value → declared.fits value = true

/-- The defaults that new records are given fit. -/
def DefaultsFit (model : Model) : Prop :=
  ∀ name declared, (name, declared) ∈ model.stored → name ≠ model.primaryKey →
    ∀ value, declared.default = some value → declared.fits value = true

variable {model : Model} {models : List Model} {now : Instant} {raw : Json} {name : String} {declared : Attribute}
  {value : Json}

/-- In a model no name is declared twice. -/
theorem attribute_eq (isAttribute : (name, declared) ∈ model.attributes)
    {other : Attribute} (found : model.attribute? name = some other) : other = declared := by
  rw [attribute?_of_mem isAttribute] at found
  exact (Option.some.inj found).symm

/-- What is filled in fits, a default apart. -/
theorem fits_of_fillIn (sound : model.attributeFault? models declared = none) (column : declared.hasColumn = true)
    (defaultFits : ∀ value, declared.default = some value → declared.fits value = true)
    (filled : fillIn now name declared = .ok value) : declared.fits value = true := by
  unfold fillIn at filled
  split at filled
  · next value isDefault =>
    obtain rfl := Except.ok.inj filled
    exact defaultFits value isDefault
  · split at filled
    · next stamped =>
      obtain rfl := Except.ok.inj filled
      exact Attribute.fits_stamp sound stamped column now
    · split at filled
      · cases filled
      · next optional =>
        obtain rfl := Except.ok.inj filled
        simpa [Attribute.fits, Json.isNull] using optional

theorem checkValue_of_readEntry {entry : String × Json} {entries : List (String × Json)}
    (done : model.readEntry entry = .ok entries) (kept : (name, value) ∈ entries) :
    ∃ declared, model.attribute? name = some declared ∧ declared.checkValue name value = .ok () := by
  unfold readEntry at done
  obtain ⟨declared, given, done⟩ := bind_eq_ok.mp done
  split at done
  · obtain rfl := pure_eq_ok.mp done
    cases kept
  · obtain ⟨⟨⟩, passed, done⟩ := bind_eq_ok.mp done
    obtain rfl := pure_eq_ok.mp done
    obtain ⟨rfl, rfl⟩ := Prod.mk.inj (List.mem_singleton.mp kept)
    exact ⟨declared, givenAttribute_eq_ok given, passed⟩

theorem checkValue_of_readChange {entry : String × Json}
    (done : model.readChange entry = .ok (name, value)) :
    ∃ declared, model.attribute? name = some declared ∧ declared.checkValue name value = .ok () := by
  unfold readChange at done
  obtain ⟨declared, given, done⟩ := bind_eq_ok.mp done
  split at done
  · cases done
  · obtain ⟨⟨⟩, passed, done⟩ := bind_eq_ok.mp done
    obtain ⟨rfl, rfl⟩ := Prod.mk.inj (pure_eq_ok.mp done)
    exact ⟨declared, givenAttribute_eq_ok given, passed⟩

section

variable (valid : model.Valid models)

include valid

/-! ## New records -/

/-- If the defaults of a model fit, so do its new records. -/
theorem readRecord_fits (defaults : model.DefaultsFit) {record : Record}
    (done : model.readRecord now raw = .ok record) : model.Fits record := by
  unfold readRecord at done
  split at done
  · next entries =>
    obtain ⟨lists, read, done⟩ := bind_eq_ok.mp done
    obtain ⟨filled, filling, done⟩ := bind_eq_ok.mp done
    obtain rfl := pure_eq_ok.mp done
    intro _ declared isAttribute value held
    rcases Dictionary.of_get?_insertAll held with isFilled | isGiven
    · obtain ⟨⟨name, other⟩, isOpen, step⟩ := (mem_mapM_iff filling).mp isFilled
      obtain ⟨value, isValue, same⟩ := map_eq_ok.mp step
      obtain ⟨rfl, rfl⟩ := Prod.mk.inj same
      obtain ⟨isStored, unset⟩ := List.mem_filter.mp isOpen
      obtain ⟨isOther, column⟩ := List.mem_filter.mp isStored
      obtain rfl := attribute_eq isAttribute (attribute?_of_mem isOther)
      have notKey : name ≠ model.primaryKey := by
        simp only [Bool.and_eq_true, decide_eq_true_eq] at unset
        exact unset.1
      exact fits_of_fillIn (valid.attributes _ _ isOther) column (defaults _ _ isStored notKey) isValue
    · obtain ⟨list, isList, inList⟩ := List.mem_flatten.mp (Dictionary.mem_of_get? isGiven)
      obtain ⟨entry, -, step⟩ := (mem_mapM_iff read).mp isList
      obtain ⟨other, found, passed⟩ := checkValue_of_readEntry step inList
      obtain rfl := attribute_eq isAttribute found
      exact Attribute.fits_of_checkValue passed
  · cases done

omit valid in
/-- New records are read one by one. -/
theorem exists_readRecord {index : Nat} {items : List Json} {records : List Record}
    (done : model.readRecordsFrom now index items = .ok records) :
    ∀ record ∈ records, ∃ item ∈ items, model.readRecord now item = .ok record := by
  induction items generalizing index records with
  | nil =>
    obtain rfl := Except.ok.inj done
    simp
  | cons item rest ih =>
    obtain ⟨record, here, done⟩ := bind_eq_ok.mp done
    obtain ⟨others, there, done⟩ := bind_eq_ok.mp done
    obtain rfl := pure_eq_ok.mp done
    refine List.forall_mem_cons.mpr ⟨⟨item, List.mem_cons_self .., mapError_eq_ok.mp here⟩, fun other member => ?_⟩
    obtain ⟨item, isItem, read⟩ := ih there other member
    exact ⟨item, List.mem_cons_of_mem _ isItem, read⟩

/-- If the defaults of a model fit, so do the records of a list of new ones. -/
theorem compileRecords_fits (defaults : model.DefaultsFit) {records : List Record}
    (done : model.compileRecords now raw = .ok records) : ∀ record ∈ records, model.Fits record := by
  unfold compileRecords at done
  split at done
  · cases done
  · intro record member
    obtain ⟨item, -, read⟩ := exists_readRecord (mapError_eq_ok.mp done) record member
    exact readRecord_fits valid defaults read
  · cases done

omit valid in
/-- An attribute that a new record is not given is filled in. -/
theorem get?_readRecord {entries : Record} {record : Record}
    (done : model.readRecord now (.record entries) = .ok record) (stored : (name, declared) ∈ model.stored)
    (notKey : name ≠ model.primaryKey) (notGiven : name ∉ Dictionary.names entries) :
    ∃ value, fillIn now name declared = .ok value ∧ Dictionary.get? record name = some value := by
  obtain ⟨lists, read, done⟩ := bind_eq_ok.mp done
  obtain ⟨filled, filling, done⟩ := bind_eq_ok.mp done
  obtain rfl := pure_eq_ok.mp done
  have unset : name ∉ Dictionary.names lists.flatten :=
    fun member => notGiven (((readEntries_sublist read).map Prod.fst).subset member)
  have isOpen : (name, declared) ∈ model.openAttributes lists.flatten := by
    refine List.mem_filter.mpr ⟨stored, ?_⟩
    rw [← Dictionary.contains_iff, Bool.not_eq_true] at unset
    simp [notKey, unset]
  obtain ⟨_, step⟩ := exists_mapM_eq_ok_iff.mp ⟨_, filling⟩ _ isOpen
  obtain ⟨value, isValue, rfl⟩ := map_eq_ok.mp step
  have names : filled.map Prod.fst = (model.openAttributes lists.flatten).map Prod.fst := by
    refine map_eq_of_mapM (fun entry _ fill step => ?_) filling
    obtain ⟨value, -, rfl⟩ := map_eq_ok.mp step
    rfl
  have nodup : (filled.map Prod.fst).Nodup := by
    rw [names]
    exact (model.sorted_stored.filter _).nodup
  have isFilled : (name, value) ∈ filled := (mem_mapM_iff filling).mpr ⟨_, isOpen, step⟩
  refine ⟨value, isValue, ?_⟩
  rw [Dictionary.get?_insertAll nodup, Dictionary.get?_of_mem nodup isFilled, Option.some_or]

/-! ## A record that leaves one attribute open -/

omit valid in
/-- A record with a sample of every attribute that has a column, except for one. -/
def leaving (model : Model) (name : String) : Record :=
  (model.stored.filter fun entry => entry.1 ≠ name).map fun entry => (entry.1, entry.2.sample false)

omit valid in
theorem readEntries_leaving (name : String) :
    (model.leaving name).mapM model.readEntry = .ok ((model.leaving name).map fun entry => [entry]) := by
  rw [mapM_eq_ok, List.map_map]
  refine List.map_congr_left fun entry member => ?_
  obtain ⟨⟨other, declared⟩, kept, rfl⟩ := List.mem_map.mp member
  exact readEntry_sample (List.mem_filter.mp kept).1 false

omit valid in
theorem names_leaving (model : Model) (name : String) :
    Dictionary.names (model.leaving name) = (Dictionary.names model.stored).filter (· ≠ name) := by
  rw [Dictionary.names, leaving, List.map_map, Dictionary.names, List.filter_map]
  rfl

omit valid in
theorem notMem_names_leaving (model : Model) (name : String) : name ∉ Dictionary.names (model.leaving name) := by
  simp [names_leaving]

omit valid in
/-- With a default for the attribute that it leaves open, it can be read. -/
theorem exists_readRecord_leaving (stored : (name, declared) ∈ model.stored)
    (isDefault : declared.default = some value) (now : Instant) :
    ∃ record, model.readRecord now (.record (model.leaving name)) = .ok record := by
  have flat : ((model.leaving name).map fun entry => [entry]).flatten = model.leaving name := by
    rw [← List.flatMap_def, List.flatMap_singleton']
  obtain ⟨filled, filling⟩ : ∃ filled, (model.openAttributes (model.leaving name)).mapM (fun entry =>
      (fillIn now entry.1 entry.2).map fun value => (entry.1, value)) = .ok filled := by
    refine exists_mapM_eq_ok_iff.mpr fun entry isOpen => ?_
    obtain ⟨isStored, unset⟩ := List.mem_filter.mp isOpen
    -- it is the one attribute that is left open
    have isName : entry.1 = name := by
      by_contra differs
      have given : Dictionary.contains (model.leaving name) entry.1 = true := by
        rw [Dictionary.contains_iff, names_leaving, List.mem_filter]
        exact ⟨List.mem_map_of_mem isStored, by simpa using differs⟩
      simp [given] at unset
    obtain ⟨_, other⟩ := entry
    obtain rfl : _ = name := isName
    obtain rfl := attribute_eq (List.mem_filter.mp stored).1 (attribute?_of_mem (List.mem_filter.mp isStored).1)
    refine ⟨_, map_eq_ok.mpr ⟨value, ?_, rfl⟩⟩
    unfold fillIn
    rw [isDefault]
  refine ⟨Dictionary.insertAll (model.leaving name) filled,
    bind_eq_ok.mpr ⟨_, readEntries_leaving name, ?_⟩⟩
  rw [flat]
  exact bind_eq_ok.mpr ⟨filled, filling, rfl⟩

omit valid in
/-- A default of a model that does not fit is found in some new record, if it is not the key's. -/
theorem exists_default_kept (stored : (name, declared) ∈ model.stored) (notKey : name ≠ model.primaryKey)
    (isDefault : declared.default = some value) (now : Instant) :
    ∃ record, model.readRecord now (.record (model.leaving name)) = .ok record ∧
      Dictionary.get? record name = some value := by
  obtain ⟨record, read⟩ := exists_readRecord_leaving stored isDefault now
  obtain ⟨other, filled, held⟩ := get?_readRecord read stored notKey (notMem_names_leaving model name)
  rw [fillIn, isDefault] at filled
  rw [← Except.ok.inj filled] at held
  exact ⟨record, read, held⟩

/-- New records fit exactly if the defaults of their model do. -/
theorem records_fit_iff :
    (∀ now raw record, model.readRecord now raw = .ok record → model.Fits record) ↔ model.DefaultsFit := by
  constructor
  · intro fits name declared stored notKey value isDefault
    obtain ⟨record, read, held⟩ := exists_default_kept stored notKey isDefault ⟨0⟩
    exact fits _ _ record read name declared (List.mem_filter.mp stored).1 value held
  · intro defaults now raw record done
    exact readRecord_fits valid defaults done

/-- The records of lists of new ones fit exactly if the defaults of their model do. -/
theorem recordLists_fit_iff :
    (∀ now raw records, model.compileRecords now raw = .ok records → ∀ record ∈ records, model.Fits record) ↔
      model.DefaultsFit := by
  constructor
  · intro fits
    refine (records_fit_iff valid).mp fun now raw record done => ?_
    have listed : model.compileRecords now (.list [raw]) = .ok [record] := by
      change (model.readRecordsFrom now 0 [raw]).mapError _ = _
      rw [readRecordsFrom, done]
      rfl
    exact fits now (.list [raw]) [record] listed record (List.mem_singleton_self record)
  · intro defaults now raw records done
    exact compileRecords_fits valid defaults done

/-! ## Values of an update -/

omit valid in
/-- An update that is given no values writes the stamp of every attribute that asks for one. -/
theorem get?_stamps (isAttribute : (name, declared) ∈ model.attributes) (stamped : declared.autoUpdatedAt = true)
    (now : Instant) :
    Dictionary.get? (Dictionary.ofList (model.stamps now [])) name = some (declared.stamp now) := by
  have nodup : ((model.stamps now []).map Prod.fst).Nodup := by
    rw [stamps, List.map_map]
    exact (model.sorted.filter _).nodup
  rw [Dictionary.get?_ofList nodup]
  apply Dictionary.get?_of_mem nodup
  refine List.mem_map.mpr ⟨(name, declared), List.mem_filter.mpr ⟨isAttribute, ?_⟩, rfl⟩
  simp [stamped, Dictionary.contains, Dictionary.get?]

/-- If no plural association is stamped, the values of updates fit. -/
theorem readChanges_fits (stores : model.Stores model.stamped) {values : Record}
    (done : model.readChanges now raw = .ok values) : model.Fits values := by
  unfold readChanges at done
  split at done
  · next entries =>
    obtain ⟨given, read, done⟩ := bind_eq_ok.mp done
    obtain rfl := pure_eq_ok.mp done
    intro _ declared isAttribute value held
    rcases Dictionary.of_get?_insertAll held with isStamp | isGiven
    · obtain ⟨⟨name, other⟩, isStamped, same⟩ := List.mem_map.mp isStamp
      obtain ⟨rfl, rfl⟩ := Prod.mk.inj same
      obtain ⟨isOther, asks⟩ := List.mem_filter.mp isStamped
      obtain rfl := attribute_eq isAttribute (attribute?_of_mem isOther)
      have stamped : other.autoUpdatedAt = true := (Bool.and_eq_true _ _ ▸ asks).1
      have isStored := stores name (List.mem_map.mpr ⟨_, List.mem_filter.mpr ⟨isOther, stamped⟩, rfl⟩)
      obtain ⟨⟨_, again⟩, inStored, rfl⟩ := List.mem_map.mp isStored
      obtain ⟨isAgain, column⟩ := List.mem_filter.mp inStored
      obtain rfl := attribute_eq isOther (attribute?_of_mem isAgain)
      exact Attribute.fits_stamp (valid.attributes _ _ isAgain) (by rw [stamped, Bool.or_true]) column now
    · obtain ⟨entry, -, step⟩ := (mem_mapM_iff read).mp (Dictionary.mem_of_get? isGiven)
      obtain ⟨other, found, passed⟩ := checkValue_of_readChange step
      obtain rfl := attribute_eq isAttribute found
      exact Attribute.fits_of_checkValue passed
  · cases done

/-- The values of updates fit exactly if no plural association is stamped. -/
theorem changes_fit_iff :
    (∀ now raw values, model.readChanges now raw = .ok values → model.Fits values) ↔
      ¬∃ name ∈ model.stamped, model.Plural name := by
  rw [← model.stamped_declares.stores_iff]
  constructor
  · intro fits name member
    obtain ⟨⟨_, declared⟩, isStamped, rfl⟩ := List.mem_map.mp member
    obtain ⟨isAttribute, stamped⟩ := List.mem_filter.mp isStamped
    cases column : declared.hasColumn with
    | true => exact List.mem_map_of_mem (List.mem_filter.mpr ⟨isAttribute, column⟩)
    | false =>
      have held := get?_stamps isAttribute stamped ⟨0⟩
      have fit := fits _ _ _ (model.readChanges_empty ⟨0⟩) _ _ isAttribute _ held
      rw [Attribute.not_fits_stamp column] at fit
      cases fit
  · intro stores now raw values done
    exact readChanges_fits valid stores done

end

end Model

end RecordMapper
