import RecordMapper.Model.Basic
import RecordMapper.Proofs.Json.Document
import RecordMapper.Proofs.Json.Text

/-! # Configurations written and read back

Each part of a definition is written under its own name and read back from there. Writing and reading
differ in one part only, the default of an attribute: a default of null is written as such and is then
read as none, and one that nests too deep is not read at all. `Configuration.parse?_toJson_iff` says that
nothing else is lost, whether a configuration was read before or made part by part.
-/

namespace RecordMapper

namespace Document

/-! ## Parts of a definition -/

/-- A part of a definition as it is written: left out when it is not set. -/
def part (name : String) (value : Option Json) : List (String × Json) :=
  match value with
  | some value => [(name, value)]
  | none => []

theorem get?_part (name other : String) (value : Option Json) :
    Dictionary.get? (part name value) other = if name = other then value else none := by
  cases value <;> simp [part, Dictionary.get?]

theorem forall_mem_part {accepts : Json → Prop} {name : String} {value : Option Json} :
    (∀ entry ∈ part name value, accepts entry.2) ↔ ∀ given, value = some given → accepts given := by
  cases value <;> simp [part]

theorem part_names_sublist (name : String) (value : Option Json) :
    ((part name value).map Prod.fst).Sublist [name] := by
  cases value <;> simp [part]

theorem optional?_map_text (value : Option String) :
    optional? text? ((value.map Json.text).map ofJson) = some value := by
  cases value <;> rfl

theorem optional?_of_ne_null {α : Type} {read? : Document → Option α} {document : Document}
    (notNull : document ≠ .null) : optional? read? (some document) = (read? document).map some := by
  cases document <;> first | rfl | exact absurd rfl notNull

theorem ofJson_eq_null_iff {value : Json} : ofJson value = .null ↔ value = .null := by
  cases value <;> simp [ofJson]

/-- A value that is not null is read back under a name that may be absent; null is not. -/
theorem optional?_toJson? {depth : Nat} {value : Option Json} (sorted : ∀ given, value = some given → given.Sorted) :
    optional? (toJson? depth) (value.map ofJson) =
      if value.all fun given => decide (given.nesting ≤ depth) then some (Json.present? value) else none := by
  cases value with
  | none => rfl
  | some given =>
    by_cases isNull : given = .null
    · -- a null is written, and then taken for an absent value
      subst isNull
      rfl
    · have notNull : ofJson given ≠ .null := mt ofJson_eq_null_iff.mp isNull
      have kept : Json.present? (some given) = some given := by
        cases given <;> first | rfl | exact absurd rfl isNull
      rw [Option.map_some, optional?_of_ne_null notNull, toJson?_ofJson depth given (sorted given rfl), kept]
      simp only [Option.all_some, decide_eq_true_eq]
      split <;> rfl

theorem toJson?_eq_null {depth : Nat} {document : Document} (done : toJson? depth document = some .null) :
    document = .null := by
  cases document with
  | null => rfl
  | bool value => cases done
  | number value => simp [toJson?] at done
  | text content => simp [toJson?] at done
  | list items => cases depth <;> simp [toJson?] at done
  | record members => cases depth <;> simp [toJson?] at done

/-- What is read under a name that may be absent is in order, is not null, and nests no deeper than is read. -/
theorem optional?_toJson?_eq_some {depth : Nat} {document : Option Document} {value : Json}
    (done : optional? (toJson? depth) document = some (some value)) :
    value.Sorted ∧ value.isNull = false ∧ value.nesting ≤ depth := by
  unfold optional? at done
  split at done
  · cases done
  · cases done
  · next written notNull =>
    obtain ⟨given, read, same⟩ := Option.map_eq_some_iff.mp done
    obtain rfl := Option.some.inj same
    obtain ⟨sorted, shallow⟩ := toJson?_eq_some read
    refine ⟨sorted, ?_, shallow⟩
    cases given with
    | null => exact (notNull (toJson?_eq_null read)).elim
    | _ => rfl

end Document

namespace Attribute

open Document

/-- The parts of a definition, under the names under which they are written. -/
def parts (declared : Attribute) : List (String × Json) :=
  part "type" (declared.type.map fun type => .text type.name) ++
  [("required", .bool declared.required)] ++
  part "columnName" (declared.column.map .text) ++
  part "defaultsTo" declared.default ++
  [("autoCreatedAt", .bool declared.autoCreatedAt), ("autoUpdatedAt", .bool declared.autoUpdatedAt),
    ("unique", .bool declared.unique)] ++
  part "model" (declared.model.map .text) ++
  part "collection" (declared.collection.map .text) ++
  part "via" (declared.via.map .text)

theorem toJson_eq (declared : Attribute) : declared.toJson = .record (Dictionary.ofList declared.parts) :=
  rfl

theorem parts_names_nodup (declared : Attribute) : (declared.parts.map Prod.fst).Nodup := by
  have sublist : (declared.parts.map Prod.fst).Sublist fieldNames := by
    simp only [parts, List.map_append]
    exact ((((((part_names_sublist ..).append (.refl _)).append (part_names_sublist ..)).append
      (part_names_sublist ..)).append (.refl _)).append (part_names_sublist ..)).append (part_names_sublist ..)
      |>.append (part_names_sublist ..)
  exact sublist.nodup (by decide)

theorem fields?_toJson (declared : Attribute) :
    (ofJson declared.toJson).fields? fieldNames = some ([
      declared.type.map fun type => .text type.name, some (.bool declared.required), declared.column.map .text,
      declared.default, some (.bool declared.autoCreatedAt), some (.bool declared.autoUpdatedAt),
      some (.bool declared.unique), declared.model.map .text, declared.collection.map .text,
      declared.via.map .text].map fun value => value.map ofJson) := by
  rw [toJson_eq, fields?_ofJson (Dictionary.sorted_ofList _).nodup]
  simp only [Dictionary.get?_ofList declared.parts_names_nodup]
  simp [parts, fieldNames, Dictionary.get?_append, get?_part, Dictionary.get?]

/-- A definition without a default of null. -/
def withoutNull (declared : Attribute) : Attribute :=
  { declared with default := Json.present? declared.default }

/-- The default of a definition nests no deeper than is read. -/
def defaultFits (depth : Nat) (declared : Attribute) : Bool :=
  declared.default.all fun value => decide (value.nesting ≤ depth)

theorem withoutNull_eq_iff {declared : Attribute} :
    declared.withoutNull = declared ↔ ∀ value, declared.default = some value → value.isNull = false := by
  obtain ⟨type, required, column, default, createdAt, updatedAt, unique, model, collection, via⟩ := declared
  cases default <;> simp [withoutNull, Json.present?]

theorem defaultFits_iff {declared : Attribute} {depth : Nat} :
    declared.defaultFits depth = true ↔ ∀ value, declared.default = some value → value.nesting ≤ depth := by
  rw [defaultFits, Option.all_eq_true]
  simp

/-- The default of a definition is in order. -/
def DefaultSorted (declared : Attribute) : Prop :=
  ∀ value, declared.default = some value → value.Sorted

theorem typeOf?_name (type : ScalarType) : typeOf? (.text (some type.name)) = some type := by
  cases type <;> rfl

theorem optional?_map_type (type : Option ScalarType) :
    optional? typeOf? ((type.map fun type => Json.text type.name).map ofJson) = some type := by
  cases type with
  | none => rfl
  | some type => exact congrArg (Option.map some) (typeOf?_name type)

/-- A definition is read back with its default, unless that is null or nests too deep. -/
theorem ofDocument?_toJson {declared : Attribute} (sorted : declared.DefaultSorted) (depth : Nat) :
    ofDocument? depth (ofJson declared.toJson) =
      if declared.defaultFits depth then some declared.withoutNull else none := by
  unfold ofDocument?
  rw [fields?_toJson]
  simp only [List.map_cons, List.map_nil, Option.bind_eq_bind, Option.bind_some, optional?_map_type,
    optional?_map_text, optional?_toJson? sorted]
  unfold defaultFits
  split <;> rfl

/-- The numbers that a definition is written with are those in its default. -/
theorem eachNumber_toJson {declared : Attribute} {accepts : Number → Prop}
    (numbers : ∀ value, declared.default = some value → value.EachNumber accepts) :
    declared.toJson.EachNumber accepts := by
  have all : ∀ entry ∈ declared.parts, Json.EachNumber accepts entry.2 := by
    simp only [parts, List.forall_mem_append, forall_mem_part, Option.map_eq_some_iff]
    simpa [Json.EachNumber] using numbers
  exact Json.eachNumberOfFields_iff.mpr fun entry member => all entry (Dictionary.mem_of_mem_ofList member)

/-- A default that was read is a value that can be written and read again. -/
theorem default_of_read {depth : Nat} {document : Document} {declared : Attribute}
    (read : ofDocument? depth document = some declared) {value : Json} (isDefault : declared.default = some value) :
    value.Sorted ∧ value.isNull = false ∧ value.nesting ≤ depth := by
  unfold ofDocument? at read
  obtain ⟨fields, -, read⟩ := Option.bind_eq_some_iff.mp read
  split at read
  · next type required column default createdAt updatedAt unique model collection via =>
    simp only [Option.bind_eq_bind, Option.bind_eq_some_iff, Option.pure_def, Option.some.injEq] at read
    obtain ⟨_, -, _, -, _, -, found, defaultRead, _, -, _, -, _, -, _, -, _, -, _, -, rfl⟩ := read
    obtain rfl : found = some value := isDefault
    exact optional?_toJson?_eq_some defaultRead
  · cases read

end Attribute

namespace Model

open Document

/-- The parts of a model, under the names under which they are written. -/
def parts (model : Model) : List (String × Json) :=
  [("identity", .text model.identity), ("datastore", .text model.datastore),
    ("primaryKey", .text model.primaryKey),
    ("attributes", .record (model.attributes.map fun entry => (entry.1, entry.2.toJson)))] ++
  part "tableName" (model.tableName.map .text)

theorem toJson_eq (model : Model) : model.toJson = .record (Dictionary.ofList model.parts) := by
  unfold toJson parts
  cases model.tableName <;> rfl

theorem parts_names_nodup (model : Model) : (model.parts.map Prod.fst).Nodup := by
  have sublist : (model.parts.map Prod.fst).Sublist
      ["identity", "datastore", "primaryKey", "attributes", "tableName"] := by
    rw [parts, List.map_append]
    exact List.Sublist.append (.refl _) (part_names_sublist ..)
  exact sublist.nodup (by decide)

theorem fields?_toJson (model : Model) :
    (ofJson model.toJson).fields? fieldNames = some ([
      some (.text model.identity), some (.text model.datastore), model.tableName.map .text,
      some (.text model.primaryKey),
      some (.record (model.attributes.map fun entry => (entry.1, entry.2.toJson)))].map
        fun value => value.map ofJson) := by
  rw [toJson_eq, fields?_ofJson (Dictionary.sorted_ofList _).nodup]
  simp only [Dictionary.get?_ofList model.parts_names_nodup]
  simp [parts, fieldNames, get?_part, Dictionary.get?]

/-- A model whose attributes have no default of null. -/
def withoutNulls (model : Model) : Model :=
  { model with
    attributes := model.attributes.map fun entry => (entry.1, entry.2.withoutNull)
    inOrder := decide_eq_true (model.sorted.mapValues _) }

/-- The defaults of a model nest no deeper than is read. -/
def defaultsFit (depth : Nat) (model : Model) : Bool :=
  model.attributes.all fun entry => entry.2.defaultFits depth

/-- The defaults of a model are in order. -/
def DefaultsSorted (model : Model) : Prop :=
  ∀ entry ∈ model.attributes, entry.2.DefaultSorted

theorem ofDocument?_toJson {model : Model} (sorted : model.DefaultsSorted) (depth : Nat) :
    ofDocument? depth (ofJson model.toJson) =
      if model.defaultsFit depth then some model.withoutNulls else none := by
  have attributes := dictionaryOf?_ofJson _ _ model.sorted fun entry member =>
    Attribute.ofDocument?_toJson (sorted entry member) depth
  unfold ofDocument?
  rw [fields?_toJson]
  simp only [List.map_cons, List.map_nil, Option.bind_eq_bind, Option.bind_some, optional?_map_text,
    Option.map_some, defaulted?, attributes]
  unfold defaultsFit
  split <;> rfl

theorem withoutNulls_eq_iff {model : Model} :
    model.withoutNulls = model ↔ ∀ entry ∈ model.attributes, entry.2.withoutNull = entry.2 := by
  have same : model.withoutNulls = model ↔
      model.attributes.map (fun entry => (entry.1, entry.2.withoutNull)) = model.attributes.map id := by
    rw [List.map_id]
    exact ⟨fun same => congrArg Model.attributes same, fun same => by simp only [withoutNulls, same]⟩
  rw [same, List.map_inj_left]
  exact forall₂_congr fun entry _ => by rw [id, Prod.ext_iff, and_iff_right rfl]

theorem eachNumber_toJson {model : Model} {accepts : Number → Prop}
    (numbers : ∀ entry ∈ model.attributes, entry.2.toJson.EachNumber accepts) : model.toJson.EachNumber accepts := by
  have attributes : ∀ entry ∈ model.attributes.map fun entry => (entry.1, entry.2.toJson),
      Json.EachNumber accepts entry.2 := by
    intro written member
    obtain ⟨entry, isEntry, rfl⟩ := List.mem_map.mp member
    exact numbers entry isEntry
  have all : ∀ entry ∈ model.parts, Json.EachNumber accepts entry.2 := by
    rw [parts, List.forall_mem_append]
    constructor
    · simpa [Json.EachNumber, Json.eachNumberOfFields_iff] using attributes
    · rw [forall_mem_part]
      simp [Json.EachNumber]
  rw [toJson_eq]
  exact Json.eachNumberOfFields_iff.mpr fun entry member => all entry (Dictionary.mem_of_mem_ofList member)

/-- A model that was read has attributes that were read. -/
theorem attributes_of_read {depth : Nat} {document : Document} {model : Model}
    (read : ofDocument? depth document = some model) :
    ∀ entry ∈ model.attributes, ∃ written, Attribute.ofDocument? depth written = some entry.2 := by
  unfold ofDocument? at read
  obtain ⟨fields, -, read⟩ := Option.bind_eq_some_iff.mp read
  split at read
  · simp only [Option.bind_eq_bind, Option.bind_eq_some_iff, Option.pure_def, Option.some.injEq] at read
    obtain ⟨attributes, isAttributes, _, -, _, -, _, -, _, -, _, -, _, -, rfl⟩ := read
    unfold defaulted? at isAttributes
    split at isAttributes
    · obtain rfl := Option.some.inj isAttributes
      exact List.forall_mem_nil _
    · exact dictionaryOf?_eq_some isAttributes
  · cases read

end Model

namespace Datastore

theorem ofDocument?_toJson (datastore : Datastore) :
    ofDocument? (.ofJson datastore.toJson) = some datastore :=
  rfl

end Datastore

namespace Configuration

open Document

theorem fields?_toJson (configuration : Configuration) :
    (ofJson configuration.toJson).fields? ["datastores", "models"] = some ([
      some (.record (configuration.datastores.map fun entry => (entry.1, entry.2.toJson))),
      some (.list (configuration.models.map Model.toJson))].map fun value => value.map ofJson) := by
  rw [toJson, fields?_ofJson (by simp)]
  simp [Dictionary.get?]

/-- A configuration whose attributes have no default of null. -/
def withoutNulls (configuration : Configuration) : Configuration :=
  { configuration with models := configuration.models.map Model.withoutNulls }

/-- The defaults of a configuration nest no deeper than is read. -/
def defaultsFit (configuration : Configuration) : Bool :=
  configuration.models.all (Model.defaultsFit defaultDepth)

/-- The defaults of a configuration are in order. -/
def DefaultsSorted (configuration : Configuration) : Prop :=
  ∀ model ∈ configuration.models, model.DefaultsSorted

theorem ofDocument?_toJson {configuration : Configuration} (sorted : configuration.DefaultsSorted) :
    ofDocument? (ofJson configuration.toJson) =
      if configuration.defaultsFit then some configuration.withoutNulls else none := by
  have datastores := dictionaryOf?_ofJson_of_all configuration.sorted fun entry _ =>
    Datastore.ofDocument?_toJson entry.2
  have models := listOf?_ofJson _ _ fun model member =>
    Model.ofDocument?_toJson (sorted model member) defaultDepth
  unfold ofDocument?
  rw [fields?_toJson]
  simp only [List.map_cons, List.map_nil, Option.bind_eq_bind, Option.bind_some, Option.map_some, defaulted?,
    datastores, models]
  unfold defaultsFit
  split <;> rfl

/-- A configuration that was read has models that were read. -/
theorem models_of_read {document : Document} {configuration : Configuration}
    (read : ofDocument? document = some configuration) :
    ∀ model ∈ configuration.models, ∃ written, Model.ofDocument? defaultDepth written = some model := by
  unfold ofDocument? at read
  obtain ⟨fields, -, read⟩ := Option.bind_eq_some_iff.mp read
  split at read
  · simp only [Option.bind_eq_bind, Option.bind_eq_some_iff, Option.pure_def, Option.some.injEq] at read
    obtain ⟨_, -, models, isModels, rfl⟩ := read
    unfold defaulted? at isModels
    split at isModels
    · obtain rfl := Option.some.inj isModels
      exact List.forall_mem_nil _
    · exact listOf?_eq_some isModels
  · cases read

end Configuration

/-! ## How definitions are obtained -/

/-- An attribute is read, or it is made of a plain one part by part. -/
inductive Attribute.Obtained : Attribute → Prop
  | read {depth : Nat} {document : Document} {declared : Attribute}
      (done : ofDocument? depth document = some declared) : Obtained declared
  | blank : Obtained {}
  | ofType (type : ScalarType) : Obtained (ofType type)
  | belongsTo (target : String) : Obtained (belongsTo target)
  | hasMany (target via : String) : Obtained (hasMany target via)
  | required {declared : Attribute} (before : Obtained declared) : Obtained { declared with required := true }
  | column {declared : Attribute} (before : Obtained declared) (name : String) :
      Obtained { declared with column := some name }
  | default {declared : Attribute} (before : Obtained declared) {value : Json} (sorted : value.Sorted) :
      Obtained { declared with default := some value }
  | unique {declared : Attribute} (before : Obtained declared) : Obtained { declared with unique := true }
  | autoCreatedAt {declared : Attribute} (before : Obtained declared) :
      Obtained { declared with autoCreatedAt := true }
  | autoUpdatedAt {declared : Attribute} (before : Obtained declared) :
      Obtained { declared with autoUpdatedAt := true }

/-- A model is read, or it is made of one without attributes part by part. -/
inductive Model.Obtained : Model → Prop
  | read {depth : Nat} {document : Document} {model : Model} (done : ofDocument? depth document = some model) :
      Obtained model
  | blank (identity datastore : String) : Obtained { identity, datastore }
  | primaryKey {model : Model} (before : Obtained model) (name : String) :
      Obtained { model with primaryKey := name }
  | tableName {model : Model} (before : Obtained model) (name : String) :
      Obtained { model with tableName := some name }
  | declares {model : Model} (before : Obtained model) (name : String) {declared : Attribute}
      (obtained : declared.Obtained) :
      Obtained { model with
        attributes := Dictionary.insert model.attributes name declared
        inOrder := decide_eq_true (Dictionary.sorted_insert model.sorted name declared) }

/-- A configuration is read, or it is made of an empty one part by part. -/
inductive Configuration.Obtained : Configuration → Prop
  | read {text : String} {configuration : Configuration} (done : parse? text = some configuration) :
      Obtained configuration
  | blank : Obtained {}
  | datastore {configuration : Configuration} (before : Obtained configuration) (name adapter : String) :
      Obtained { configuration with
        datastores := Dictionary.insert configuration.datastores name { adapter }
        inOrder := decide_eq_true (Dictionary.sorted_insert configuration.sorted name { adapter }) }
  | model {configuration : Configuration} (before : Obtained configuration) {model : Model}
      (obtained : model.Obtained) : Obtained { configuration with models := configuration.models ++ [model] }

theorem Attribute.Obtained.defaultSorted {declared : Attribute} (obtained : declared.Obtained) :
    declared.DefaultSorted := by
  induction obtained with
  | read done => exact fun value isDefault => (default_of_read done isDefault).1
  | blank => nofun
  | ofType type => nofun
  | belongsTo target => nofun
  | hasMany target via => nofun
  | default before sorted => exact fun value isDefault => Option.some.inj isDefault ▸ sorted
  | required before ih => exact ih
  | column before name ih => exact ih
  | unique before ih => exact ih
  | autoCreatedAt before ih => exact ih
  | autoUpdatedAt before ih => exact ih

theorem Model.defaultsSorted_of_read {depth : Nat} {document : Document} {model : Model}
    (read : ofDocument? depth document = some model) : model.DefaultsSorted := by
  intro entry member
  obtain ⟨written, done⟩ := attributes_of_read read entry member
  exact (Attribute.Obtained.read done).defaultSorted

theorem Model.Obtained.defaultsSorted {model : Model} (obtained : model.Obtained) : model.DefaultsSorted := by
  induction obtained with
  | read done => exact defaultsSorted_of_read done
  | blank identity datastore => exact List.forall_mem_nil _
  | primaryKey before name ih => exact ih
  | tableName before name ih => exact ih
  | declares before name obtained ih =>
    intro entry member
    rcases Dictionary.mem_insert member with rfl | member
    · exact obtained.defaultSorted
    · exact ih entry member

theorem Configuration.defaultsSorted_of_read {document : Document} {configuration : Configuration}
    (read : ofDocument? document = some configuration) : configuration.DefaultsSorted := by
  intro model member
  obtain ⟨written, done⟩ := models_of_read read model member
  exact Model.defaultsSorted_of_read done

theorem Configuration.Obtained.defaultsSorted {configuration : Configuration} (obtained : configuration.Obtained) :
    configuration.DefaultsSorted := by
  induction obtained with
  | read done =>
    obtain ⟨document, -, read⟩ := Option.bind_eq_some_iff.mp done
    exact defaultsSorted_of_read read
  | blank => exact List.forall_mem_nil _
  | datastore before name adapter ih => exact ih
  | model before obtained ih =>
    intro model member
    rcases List.mem_append.mp member with member | added
    · exact ih model member
    · exact List.mem_singleton.mp added ▸ obtained.defaultsSorted

/-! ## The round trip -/

namespace Configuration

/-- What every default of a configuration is. -/
def EachDefault (configuration : Configuration) (accepts : Json → Prop) : Prop :=
  ∀ model ∈ configuration.models, ∀ entry ∈ model.attributes, ∀ value, entry.2.default = some value → accepts value

theorem eachDefault_and {configuration : Configuration} {accepts others : Json → Prop} :
    (configuration.EachDefault fun value => accepts value ∧ others value) ↔
      configuration.EachDefault accepts ∧ configuration.EachDefault others := by
  simp only [EachDefault, imp_and, forall_and]

theorem withoutNulls_eq_iff {configuration : Configuration} :
    configuration.withoutNulls = configuration ↔ configuration.EachDefault fun value => value.isNull = false := by
  have same : configuration.withoutNulls = configuration ↔
      configuration.models.map Model.withoutNulls = configuration.models.map id := by
    rw [List.map_id]
    exact ⟨fun same => congrArg Configuration.models same, fun same => by rw [withoutNulls, same]⟩
  rw [same, List.map_inj_left]
  refine forall₂_congr fun model _ => ?_
  rw [id, Model.withoutNulls_eq_iff]
  exact forall₂_congr fun entry _ => Attribute.withoutNull_eq_iff

theorem defaultsFit_iff {configuration : Configuration} :
    configuration.defaultsFit = true ↔ configuration.EachDefault fun value => value.nesting ≤ defaultDepth := by
  simp only [defaultsFit, Model.defaultsFit, List.all_eq_true, Attribute.defaultFits_iff, EachDefault]

/-- The defaults of a configuration that was read can all be written and read again. -/
theorem eachDefault_of_read {document : Document} {configuration : Configuration}
    (read : ofDocument? document = some configuration) :
    configuration.EachDefault fun value => value.isNull = false ∧ value.nesting ≤ defaultDepth := by
  intro model isModel entry isEntry value isDefault
  obtain ⟨written, modelRead⟩ := models_of_read read model isModel
  obtain ⟨declaration, attributeRead⟩ := Model.attributes_of_read modelRead entry isEntry
  exact (Attribute.default_of_read attributeRead isDefault).2

/-- The numbers that a configuration is written with are those in its defaults. -/
theorem eachNumber_toJson {configuration : Configuration} {accepts : Number → Prop}
    (numbers : configuration.EachDefault (Json.EachNumber accepts)) : configuration.toJson.EachNumber accepts := by
  have models : ∀ written ∈ configuration.models.map Model.toJson, Json.EachNumber accepts written := by
    intro written member
    obtain ⟨model, isModel, rfl⟩ := List.mem_map.mp member
    refine Model.eachNumber_toJson fun entry isEntry => ?_
    exact Attribute.eachNumber_toJson (numbers model isModel entry isEntry)
  have datastores : ∀ entry ∈ configuration.datastores.map fun entry => (entry.1, entry.2.toJson),
      Json.EachNumber accepts entry.2 := by
    intro written member
    obtain ⟨entry, -, rfl⟩ := List.mem_map.mp member
    exact ⟨trivial, trivial⟩
  exact ⟨Json.eachNumberOfFields_iff.mpr datastores, Json.eachNumberOfItems_iff.mpr models, trivial⟩

/-- What is read of the text of a configuration: the same without its defaults of null, or nothing if a
default nests too deep. -/
theorem parse?_toJson {configuration : Configuration} (sorted : configuration.DefaultsSorted)
    (numbers : configuration.EachDefault (Json.EachNumber Number.Legible)) :
    parse? configuration.toJson.compact =
      if configuration.defaultsFit then some configuration.withoutNulls else none := by
  rw [parse?, Document.parse?_compact (eachNumber_toJson numbers)]
  exact ofDocument?_toJson sorted

/-- A configuration is read back as it was written exactly when no default is null and none nests deeper
than is read; so a configuration that was itself read always is. -/
theorem parse?_toJson_iff {configuration : Configuration} (obtained : configuration.Obtained)
    (numbers : configuration.EachDefault (Json.EachNumber Number.Legible)) :
    (parse? configuration.toJson.compact = some configuration ↔
      configuration.EachDefault fun value => value.isNull = false ∧ value.nesting ≤ defaultDepth) ∧
    ((∃ text, parse? text = some configuration) → parse? configuration.toJson.compact = some configuration) := by
  have exactly : parse? configuration.toJson.compact = some configuration ↔
      configuration.EachDefault fun value => value.isNull = false ∧ value.nesting ≤ defaultDepth := by
    rw [parse?_toJson obtained.defaultsSorted numbers, Option.ite_none_right_eq_some, Option.some.injEq,
      defaultsFit_iff, withoutNulls_eq_iff]
    exact and_comm.trans eachDefault_and.symm
  refine ⟨exactly, ?_⟩
  rintro ⟨text, parsed⟩
  obtain ⟨document, -, read⟩ := Option.bind_eq_some_iff.mp parsed
  exact exactly.mpr (eachDefault_of_read read)

/-- Users with a name that has to be given, but is null by default. -/
def namelessUsers : Configuration where
  datastores := [("default", { adapter := "memory" })]
  models := [{
    identity := "user", datastore := "default"
    attributes := [("id", .ofType .number),
      ("name", { Attribute.ofType .string with required := true, default := some .null })] }]

theorem namelessUsers_obtained : namelessUsers.Obtained := by
  have sorted : Json.Sorted .null := trivial
  have name := Attribute.Obtained.default (.required (.ofType .string)) sorted
  have user := ((Model.Obtained.blank "user" "default").declares "id" (.ofType .number)).declares "name" name
  exact .model (.datastore .blank "default" "memory") user

/-- The default of null is lost when these are written and read back. -/
theorem namelessUsers_not_read_back :
    namelessUsers.Obtained ∧ namelessUsers.EachDefault (Json.EachNumber Number.Legible) ∧
      parse? namelessUsers.toJson.compact ≠ some namelessUsers := by
  have nullOnly : namelessUsers.EachDefault (· = .null) := by
    intro model isModel entry isEntry value isDefault
    obtain rfl := List.mem_singleton.mp isModel
    rcases List.mem_cons.mp isEntry with rfl | isEntry
    · cases isDefault
    · obtain rfl := List.mem_singleton.mp isEntry
      exact (Option.some.inj isDefault).symm
  have numbers : namelessUsers.EachDefault (Json.EachNumber Number.Legible) := by
    intro model isModel entry isEntry value isDefault
    rw [nullOnly model isModel entry isEntry value isDefault]
    trivial
  refine ⟨namelessUsers_obtained, numbers, fun same => ?_⟩
  have notNull := (parse?_toJson_iff namelessUsers_obtained numbers).1.mp same _ (List.mem_singleton_self _)
    _ (List.mem_cons_of_mem _ (List.mem_singleton_self _)) _ rfl
  cases notNull.1

end Configuration

end RecordMapper
