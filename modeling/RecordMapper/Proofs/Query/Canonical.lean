import RecordMapper.Proofs.Criteria.NormalForm
import RecordMapper.Proofs.Criteria.Verdict
import RecordMapper.Proofs.Query.Lowering
import RecordMapper.Store.Answering

/-! # The one form of compiled queries

However a query is described, what it is compiled to has one form. It has the parts that its method needs and
no others, and its associations lead to models of the same datastore. Its criteria, and those of every
association, name stored attributes only; their clause is normal, they ask for something, and a choice of
attributes names each of them once and always keeps the key. Criteria of a change are a clause and nothing
else, and only a query that finds records chooses attributes.
-/

namespace RecordMapper

open Results

/-! ## Criteria -/

namespace Criteria

/-- Criteria in the form that reading gives them. -/
structure Canonical (model : Model) (criteria : Criteria) : Prop where
  stored : model.Stores criteria.fields
  clause : criteria.clause.Normal
  limit : ∀ limit, criteria.limit = some limit → 1 ≤ limit
  selection : ∀ names, criteria.selection = some names → names.Nodup ∧ model.primaryKey ∈ names
  omission : criteria.omission.Nodup ∧ model.primaryKey ∉ criteria.omission
  /-- Attributes are chosen in one way only. -/
  choice : criteria.selection ≠ none → criteria.omission = []

/-- A list without the later occurrences of what is in it has nothing twice. -/
theorem nodup_eraseDups (names : List String) : names.eraseDups.Nodup := by
  cases names with
  | nil => exact List.nodup_nil
  | cons name rest =>
    rw [List.eraseDups_cons, List.nodup_cons, List.mem_eraseDups]
    refine ⟨fun member => ?_, nodup_eraseDups _⟩
    simpa using (List.mem_filter.mp member).2
termination_by names.length
decreasing_by exact Nat.lt_succ_of_le (List.length_filter_le _ rest)

variable {model : Model} {method : Method} {raw : Option Json} {criteria : Criteria}

theorem nodup_readNames {key : String} {given : Json} {names : List String}
    (done : readNames key given = .ok names) : names.Nodup := by
  unfold readNames at done
  split at done
  · obtain ⟨listed, -, done⟩ := bind_eq_ok.mp done
    obtain rfl := pure_eq_ok.mp done
    exact nodup_eraseDups listed
  · cases done

/-- A selection has no name twice, and always that of the key. -/
theorem readSelection_keeps {given : Json} {names : List String}
    (done : readSelection model given = .ok (some names)) : names.Nodup ∧ model.primaryKey ∈ names := by
  unfold readSelection at done
  obtain ⟨listed, isListed, done⟩ := bind_eq_ok.mp done
  have distinct := nodup_readNames isListed
  split at done
  · split at done
    · cases done
    · cases pure_eq_ok.mp done
  · obtain ⟨⟨⟩, -, done⟩ := bind_eq_ok.mp done
    obtain rfl := Option.some.inj (pure_eq_ok.mp done)
    split
    · next hasKey => exact ⟨distinct, List.contains_iff_mem.mp hasKey⟩
    · next noKey =>
      exact ⟨List.nodup_cons.mpr ⟨mt List.contains_iff_mem.mpr noKey, distinct⟩, List.mem_cons_self ..⟩

/-- An omission has no name twice, and never that of the key. -/
theorem readOmission_keeps {given : Json} {names : List String} (done : readOmission model given = .ok names) :
    names.Nodup ∧ model.primaryKey ∉ names := by
  unfold readOmission at done
  obtain ⟨listed, isListed, done⟩ := bind_eq_ok.mp done
  obtain ⟨⟨⟩, checked, done⟩ := bind_eq_ok.mp done
  obtain rfl := pure_eq_ok.mp done
  refine ⟨nodup_readNames isListed, fun member => ?_⟩
  obtain ⟨declared, -, refused⟩ := bind_eq_ok.mp (forM_eq_ok.mp checked _ member)
  rw [if_pos rfl] at refused
  cases refused

/-- The key of a valid model is stored, and criteria that were read for it are canonical. -/
theorem canonical_of_read (key : model.primaryKey ∈ Dictionary.names model.stored)
    (done : read model method raw = .ok criteria) : criteria.Canonical model := by
  have parts := readFrom_of_read done
  obtain ⟨written, -, simplified⟩ := parts.clause
  constructor
  case stored => exact fields_of_read key done
  case clause => exact Clause.normal_simplify simplified
  case limit =>
    intro limit isLimit
    refine Nat.one_le_iff_ne_zero.mpr fun zero => parts.notZero ?_
    rw [isLimit, zero]
  case selection =>
    intro names chosen
    rcases readKey_eq_ok parts.selection with default | ⟨given, isRead⟩
    · cases chosen.symm.trans default
    · exact readSelection_keeps (chosen ▸ isRead)
  case omission =>
    rcases readKey_eq_ok parts.omission with default | ⟨given, isRead⟩
    · rw [default]
      exact ⟨List.nodup_nil, List.not_mem_nil⟩
    · exact readOmission_keeps isRead
  case choice =>
    intro chosen
    rcases parts.choice with showsAll | omitsNothing
    · exact absurd showsAll chosen
    · exact parts.omission_eq_nil omitsNothing

/-- A query without criteria means every record, which is canonical. -/
theorem canonical_default (model : Model) : Canonical model {} := by
  constructor
  case clause => exact Clause.normal_everything
  all_goals simp [Model.Stores, fields, Clause.everything, Clause.predicates, Clause.predicatesOfParts]

/-! ## What a method does not allow -/

/-- A part that the method does not allow is not there. -/
theorem part_eq_none_of_read {key : String} (done : read model method raw = .ok criteria)
    (isTop : key ∈ topLevelKeys) (notWhere : key ≠ "where") (refused : allowsKey method key = false) :
    RawCriteria.part raw key = none := by
  have shaped : Shaped model method raw := by
    by_contra shapeless
    obtain ⟨details, failed⟩ := read_of_not_shaped shapeless
    cases failed.symm.trans done
  obtain ⟨known, isKnown, checked⟩ := shaped
  cases known with
  | none => rw [RawCriteria.part, (RawCriteria.entriesOf_eq_none isKnown).1, Dictionary.get?]
  | some known =>
    rw [← (RawCriteria.entriesOf_eq_some isKnown).1 key isTop notWhere]
    by_contra present
    obtain ⟨given, isGiven⟩ := Option.ne_none_iff_exists'.mp present
    have allowed := allowsKey_of_checkKeys (checked known rfl) (Dictionary.exists_get?_iff.mp ⟨given, isGiven⟩)
    cases refused.symm.trans allowed

/-- Only a query that finds records chooses attributes. -/
theorem unchosen_of_read (done : read model method raw = .ok criteria) (refused : method.allowsProjection = false) :
    criteria.selection = none ∧ criteria.omission = [] := by
  have parts := readFrom_of_read done
  exact ⟨parts.selection_eq_none (part_eq_none_of_read done (by decide) (by decide) refused),
    parts.omission_eq_nil (part_eq_none_of_read done (by decide) (by decide) refused)⟩

/-- Criteria of a method without pages are their clause. -/
theorem eq_clause_of_read (done : read model method raw = .ok criteria) (noPaging : method.allowsPaging = false)
    (noProjection : method.allowsProjection = false) : criteria = { clause := criteria.clause } := by
  have parts := readFrom_of_read done
  obtain ⟨showsAll, omitsNothing⟩ := unchosen_of_read done noProjection
  have absent {α : Type} (key : String) {read : Json → Except CriteriaFault α} {default value : α}
      (isTop : key ∈ topLevelKeys) (notWhere : key ≠ "where") (refused : allowsKey method key = false)
      (isRead : readKey (RawCriteria.entries raw) key read default = .ok value) : value = default := by
    rw [RawCriteria.readKey_of_absent (part_eq_none_of_read done isTop notWhere refused)] at isRead
    exact (Except.ok.inj isRead).symm
  have noSkip := absent "skip" (by decide) (by decide) noPaging parts.skip
  have noSort := absent "sort" (by decide) (by decide) noPaging parts.sort
  have noLimit := absent "limit" (by decide) (by decide) noPaging parts.limit
  cases criteria
  simp_all

end Criteria

/-! ## Queries -/

variable {σ : Type} {registry : Registry σ} {query : Description σ} {compiled : LogicalQuery σ} {model : Model}
    {now : Instant}

namespace LogicalQuery

/-- An association that a query embeds leads to a model of the same datastore, for which its criteria are
canonical. -/
def CanonicalPopulate (registry : Registry σ) (model : Model) (populate : String × Option Criteria) : Prop :=
  ∃ target child, (model.kind? populate.1 = some (.model target) ∨
      ∃ via, model.kind? populate.1 = some (.collection target via)) ∧
    registry.model? target = some child ∧ child.datastore = model.datastore ∧
    ∀ criteria, populate.2 = some criteria → criteria.Canonical child.model

/-- A query in the form that compiling gives it. -/
structure Canonical (registry : Registry σ) (model : Model) (query : LogicalQuery σ) : Prop where
  values : query.values ≠ none ↔ query.method = .update
  record : query.method = .create → query.records.length = 1
  records : query.method = .createEach → 1 ≤ query.records.length
  noRecords : query.method ≠ .create → query.method ≠ .createEach → query.records = []
  aggregate : query.numericAttribute ≠ none ↔ query.method = .sum ∨ query.method = .avg
  number : ∀ name, query.numericAttribute = some name → model.kind? name = some (.scalar .number)
  iteratee : query.iteratee ≠ none ↔ query.method = .stream
  populating : query.populates ≠ [] → query.method = .find ∨ query.method = .stream
  populates : ∀ populate ∈ query.populates, CanonicalPopulate registry model populate
  criteria : query.criteria.Canonical model
  /-- The criteria of a change are a clause. -/
  change : query.method = .update ∨ query.method = .destroy → query.criteria = { clause := query.criteria.clause }
  /-- An aggregate shows no attributes. -/
  unprojected : query.method = .count ∨ query.method = .sum ∨ query.method = .avg →
    query.criteria.selection = none ∧ query.criteria.omission = []

end LogicalQuery

namespace Description

/-- Only an update has values to set. -/
theorem compileValues_ne_none_iff {values : Option Record} (done : query.compileValues model now = .ok values) :
    values ≠ none ↔ query.method = .update := by
  have takes_iff : query.method.takesValues = true ↔ query.method = .update := by
    cases query.method <;> simp [Method.takesValues]
  rw [← takes_iff]
  unfold compileValues at done
  split at done
  · next takes _ =>
    obtain ⟨changes, -, rfl⟩ := map_eq_ok.mp done
    exact iff_of_true nofun takes
  · cases done
  · next takes =>
    obtain rfl := Except.ok.inj done
    exact iff_of_false (fun given => given rfl) (Bool.eq_false_iff.mp takes)

/-- A list of new records is not empty. -/
theorem compileRecords_of_createEach {records : List Record} (done : query.compileRecords model now = .ok records)
    (createEach : query.method = .createEach) : 1 ≤ records.length := by
  unfold compileRecords at done
  rw [createEach] at done
  cases given : query.records with
  | none =>
    rw [given] at done
    cases done
  | some raw =>
    simp only [given, Model.compileRecords] at done
    split at done
    · cases done
    · next items nonempty =>
      obtain ⟨item, rest, rfl⟩ := List.exists_cons_of_ne_nil nonempty
      obtain ⟨record, -, later⟩ := bind_eq_ok.mp (mapError_eq_ok.mp done)
      obtain ⟨others, -, whole⟩ := bind_eq_ok.mp later
      obtain rfl := pure_eq_ok.mp whole
      exact Nat.succ_pos _
    · cases done

/-- Only an aggregate over an attribute has one, and it is a number. -/
theorem compileNumericAttribute_eq_ok {numericAttribute : Option String}
    (done : query.compileNumericAttribute model = .ok numericAttribute) :
    (numericAttribute ≠ none ↔ query.method = .sum ∨ query.method = .avg) ∧
      ∀ name, numericAttribute = some name → model.kind? name = some (.scalar .number) := by
  have takes_iff : query.method.takesNumericAttribute = true ↔ query.method = .sum ∨ query.method = .avg := by
    cases query.method <;> simp [Method.takesNumericAttribute]
  rw [← takes_iff]
  unfold compileNumericAttribute at done
  split at done
  · next takes =>
    split at done
    · cases done
    · split at done
      · next name _ isNumber =>
        obtain rfl := Except.ok.inj done
        exact ⟨iff_of_true nofun takes, fun _ same => Option.some.inj same ▸ isNumber⟩
      · cases done
      · cases done
  · next takes =>
    obtain rfl := Except.ok.inj done
    exact ⟨iff_of_false (fun given => given rfl) takes, nofun⟩

/-- Only a stream has an iteratee. -/
theorem compileIteratee_ne_none_iff {iteratee : Option (Iteratee σ)} (done : query.compileIteratee = .ok iteratee) :
    iteratee ≠ none ↔ query.method = .stream := by
  unfold compileIteratee at done
  split at done
  case h_5 notOneRecord notOneBatch notBoth notNeither =>
    obtain rfl := Except.ok.inj done
    refine iff_of_false (fun given => given rfl) fun stream => ?_
    cases eachRecord : query.eachRecord with
    | none => cases eachBatch : query.eachBatch <;> simp_all
    | some call => cases eachBatch : query.eachBatch <;> simp_all
  case h_1 | h_2 =>
    obtain rfl := Except.ok.inj done
    exact iff_of_true nofun ‹_›
  all_goals cases done

/-- The criteria of a compiled query are canonical, and restricted to what its method allows. -/
theorem compileCriteria_eq_ok {criteria : Criteria} (key : model.primaryKey ∈ Dictionary.names model.stored)
    (done : query.compileCriteria model = .ok criteria) :
    criteria.Canonical model ∧
      (query.method.allowsProjection = false → criteria.selection = none ∧ criteria.omission = []) ∧
      (query.method.allowsPaging = false → query.method.allowsProjection = false →
        criteria = { clause := criteria.clause }) := by
  unfold compileCriteria at done
  split at done
  · exact ⟨Criteria.canonical_of_read key done, Criteria.unchosen_of_read done, Criteria.eq_clause_of_read done⟩
  · obtain rfl := Except.ok.inj done
    exact ⟨Criteria.canonical_default model, fun _ => ⟨rfl, rfl⟩, fun _ _ => rfl⟩

theorem canonical_of_compilePopulates {configuration : Configuration} (built : registry.Built configuration)
    {populates : Dictionary (Option Criteria)} (done : query.compilePopulates registry model = .ok populates) :
    ∀ populate ∈ populates, LogicalQuery.CanonicalPopulate registry model populate := by
  unfold compilePopulates at done
  split at done
  · intro populate member
    obtain ⟨entry, -, isPopulate⟩ := (mem_mapM_iff done).mp member
    obtain ⟨isName, child, isChild, isRead⟩ := compilePopulate_eq_ok isPopulate
    obtain ⟨target, registered, kind, isRegistered, rfl, together⟩ := associated_eq_ok isChild
    refine ⟨target, registered, isName ▸ kind, isRegistered, together, fun criteria isCriteria => ?_⟩
    rcases isRead with ⟨_, chosen, isRead⟩ | ⟨none, -⟩
    · obtain rfl := Option.some.inj (chosen.symm.trans isCriteria)
      exact Criteria.canonical_of_read (built.valid_of_model? isRegistered).primaryKey_mem isRead
    · cases none.symm.trans isCriteria
  · obtain rfl := Except.ok.inj done
    exact nofun

end Description

/-- Whatever is compiled for a registry that was built has the one form of compiled queries. -/
theorem Registry.compiled_canonical {configuration : Configuration} {adapters : Dictionary (Adapter σ)}
    {hooks : Dictionary (Hooks σ)} {start finish : Run σ}
    (built : Attempt.result (build configuration adapters hooks) start = (.ok registry, finish))
    (done : query.compile registry now = .ok compiled) :
    ∃ registered, registry.model? compiled.model = some registered ∧ compiled.method = query.method ∧
      compiled.Canonical registry registered.model := by
  have built := built_of_build built
  obtain ⟨registered, found, made⟩ := Description.compile_eq_ok.mp done
  have key := (built.valid_of_model? found).primaryKey_mem
  obtain ⟨criteria, unchosen, onlyClause⟩ := Description.compileCriteria_eq_ok key made.criteria
  obtain ⟨aggregate, number⟩ := Description.compileNumericAttribute_eq_ok made.numericAttribute
  have isMethod := made.method_eq
  refine ⟨registered, made.model_eq ▸ found, isMethod, ?_⟩
  constructor
  all_goals try rw [isMethod]
  case values => exact Description.compileValues_ne_none_iff made.values
  case record =>
    intro create
    obtain ⟨record, one⟩ := made.records_of_create create
    rw [one, List.length_singleton]
  case records => exact Description.compileRecords_of_createEach made.records
  case noRecords =>
    intro notCreate notCreateEach
    refine made.records_eq_nil ?_
    cases method : query.method <;> simp_all [Method.takesRecords]
  case aggregate => exact aggregate
  case number => exact number
  case iteratee => exact Description.compileIteratee_ne_none_iff made.iteratee
  case populating =>
    intro embeds
    by_contra other
    refine embeds (made.populates_eq_nil ?_)
    cases method : query.method <;> simp_all [Method.takesPopulates]
  case populates => exact Description.canonical_of_compilePopulates built made.populates
  case criteria => exact criteria
  case change =>
    rintro (update | destroy)
    · exact onlyClause (by rw [update]; rfl) (by rw [update]; rfl)
    · exact onlyClause (by rw [destroy]; rfl) (by rw [destroy]; rfl)
  case unprojected =>
    rintro (count | sum | avg)
    · exact unchosen (by rw [count]; rfl)
    · exact unchosen (by rw [sum]; rfl)
    · exact unchosen (by rw [avg]; rfl)

namespace Registry

/-- A find of Ada whose criteria say some things twice, and others that do not matter. -/
def findAdaTwice : Description Store where
  method := .find
  model := "user"
  criteria := some (.record [
    ("select", .list [.text "name", .text "name"]),
    ("where", .record [("and", .list [
      .record [("or", .list [.record [("id", .list [])], .record [("name", .text "Ada")]])],
      .record [("and", .list [.record [], .record [("id", .record [("nin", .list [])])]])]])])])
  populates := some [("pets", .record [("omit", .list [.text "owner", .text "owner"])])]

/-- What the find is compiled to. -/
def findAda : LogicalQuery Store where
  method := .find
  model := "user"
  criteria := { clause := .leaf ⟨"name", .equals (.text "Ada")⟩, selection := some ["id", "name"] }
  populates := [("pets", some { omission := ["owner"] })]

theorem findAdaTwice_canonical :
    ∃ (registry : Registry Store) (start finish : Run Store) (registered : RegisteredModel Store),
      Attempt.result (build .usersAndPets [("memory", Store.adapter)] []) start = (.ok registry, finish) ∧
      findAdaTwice.compile registry ⟨0⟩ = .ok findAda ∧ registry.model? findAda.model = some registered ∧
      findAda.Canonical registry registered.model := by
  let start : Run Store := { environment := { keys := { draw := toString } } }
  let built := Attempt.result (build .usersAndPets [("memory", Store.adapter)] []) start
  have facts {registry : Registry Store} (isBuilt : built.1 = .ok registry) :
      findAdaTwice.compile registry ⟨0⟩ = .ok findAda := by
    obtain rfl := Except.ok.inj isBuilt
    rfl
  have compiled := facts rfl
  obtain ⟨registered, found, -, canonical⟩ := compiled_canonical (show built = _ from rfl) compiled
  exact ⟨_, start, _, registered, rfl, compiled, found, canonical⟩

end Registry

end RecordMapper
