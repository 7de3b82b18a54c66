import RecordMapper.Proofs.Criteria.Verdict
import RecordMapper.Proofs.Query.Compilation
import RecordMapper.Proofs.Registry.Build
import RecordMapper.Store.Answering

/-! # Malformed queries

A query has a flaw when something is wrong with a part of it that is not a clause. A flaw does not always
have the query refused. The criteria are read before all other parts, and when they ask for nothing, no
other part is looked at; and of the criteria of an association, what stands beside a clause that never
matches is not looked at. `flawed_refused_iff` says exactly which flawed queries are refused.
-/

namespace RecordMapper

open Results

namespace Description

variable {σ : Type}

/-! ## Flaws -/

/-- The parts of a query that can be malformed whatever its clauses are. -/
inductive Flaw where
  /-- The skip, the limit, the sort terms or the choice of attributes. -/
  | criteria
  /-- The values that an update sets. -/
  | values
  /-- The new records of a create. -/
  | records
  /-- The attribute that is aggregated over. -/
  | numericAttribute
  /-- An association to embed. -/
  | populate (name : String) (raw : Json)
  /-- The one iteratee of a stream. -/
  | iteratee

/-- The values that an update needs are missing or refused. -/
def BadValues (query : Description σ) (now : Instant) (model : Model) : Prop :=
  query.method.takesValues = true ∧
    ¬∃ raw values, query.values = some raw ∧ model.readChanges now raw = .ok values

/-- The records that a create needs are missing or refused. -/
def BadRecords (query : Description σ) (now : Instant) (model : Model) : Prop :=
  query.method = .create ∧ (¬∃ raw record, query.records = some raw ∧ model.readRecord now raw = .ok record) ∨
  query.method = .createEach ∧
    ¬∃ items records, query.records = some (.list items) ∧ model.readRecordsFrom now 0 items = .ok records

/-- The attribute that an aggregate needs is missing, unknown or not a number. -/
def BadNumericAttribute (query : Description σ) (model : Model) : Prop :=
  query.method.takesNumericAttribute = true ∧
    ¬∃ name, query.numericAttribute = some name ∧ model.kind? name = some (.scalar .number)

/-- An association cannot be embedded, or something is wrong with the criteria of its records. -/
def BadPopulate (registry : Registry σ) (model : Model) (entry : String × Json) : Prop :=
  ¬∃ child, associated registry model entry.1 (subcriteria? entry.2) = .ok child ∧
    Criteria.Sound child .find (subcriteria? entry.2)

/-- The criteria of an association to embed are well-shaped, and their clause never matches. -/
def EmptyPopulate (registry : Registry σ) (model : Model) (entry : String × Json) : Prop :=
  ∃ child, associated registry model entry.1 (subcriteria? entry.2) = .ok child ∧
    Criteria.Shaped child .find (subcriteria? entry.2) ∧ Criteria.NeverMatches child (subcriteria? entry.2)

/-- A stream has neither iteratee or both. -/
def BadIteratee (query : Description σ) : Prop :=
  query.method = .stream ∧ query.eachRecord.isSome = query.eachBatch.isSome

/-- Something is wrong with a part of a query. -/
def HasFlaw (query : Description σ) (registry : Registry σ) (now : Instant) (model : Model) : Flaw → Prop
  | .criteria => query.method.takesCriteria = true ∧ Criteria.Malformed model query.criteria
  | .values => query.BadValues now model
  | .records => query.BadRecords now model
  | .numericAttribute => query.BadNumericAttribute model
  | .populate name raw =>
    ∃ entries, query.populates = some entries ∧ (name, raw) ∈ entries ∧ BadPopulate registry model (name, raw)
  | .iteratee => query.BadIteratee

/-- What is wrong with an association is not looked at when its own criteria never match. -/
def Overlooked (registry : Registry σ) (model : Model) : Flaw → Prop
  | .populate name raw => EmptyPopulate registry model (name, raw)
  | _ => False

/-- A query is to add no records at all. -/
def AddsNothing (query : Description σ) : Prop :=
  query.method = .createEach ∧ query.records = some (.list [])

variable (query : Description σ) (registry : Registry σ) (now : Instant) (model : Model)

/-! ## The verdict on each part -/

theorem verdict_checkParts : Verdict False (query.checkParts ≠ .ok ()) query.checkParts := by
  unfold checkParts
  split
  · exact .invalid id nofun
  · exact .ok id (by simp)

theorem verdict_compileCriteria :
    Verdict (query.method.takesCriteria = true ∧ Criteria.AsksNothing model query.method query.criteria)
      (query.method.takesCriteria = true ∧ ¬Criteria.Sound model query.method query.criteria)
      (query.compileCriteria model) := by
  unfold compileCriteria
  split
  · next takes => exact (Criteria.verdict_read ..).congr (by simp [takes]) (by simp [takes])
  · next takes => exact .ok (by simp [takes]) (by simp [takes])

theorem verdict_compileValues :
    Verdict False (query.BadValues now model) (query.compileValues model now) := by
  unfold compileValues BadValues
  split
  · next raw takes given =>
    exact ((Verdict.ofResult _ .values ValueFault.message).map some).congr .rfl (by simp [takes, given])
  · next takes missing => exact .invalid id ⟨takes, by simp [missing]⟩
  · next takes => exact .ok id (by simp [takes])

/-- A list of new records is skipped when it is empty. -/
theorem verdict_readRecords (raw : Json) :
    Verdict (raw = .list []) (¬∃ items records, raw = .list items ∧ model.readRecordsFrom now 0 items = .ok records)
      (model.compileRecords now raw) := by
  unfold Model.compileRecords
  split
  · exact .noop rfl
  · next items notEmpty =>
    exact (Verdict.ofResult _ .records ValueFault.message).congr (by simpa using notEmpty) (by simp)
  · next notList => exact .invalid (notList []) fun ⟨items, _, same, _⟩ => notList items same

theorem verdict_compileRecords :
    Verdict query.AddsNothing (query.BadRecords now model) (query.compileRecords model now) := by
  unfold compileRecords BadRecords AddsNothing
  split
  · next raw create given =>
    exact ((Verdict.ofResult _ .records ValueFault.message).map _).congr (by simp [create]) (by simp [create, given])
  · next raw create given =>
    exact (verdict_readRecords now model raw).congr (by simp [create, given]) (by simp [create, given])
  · next create missing => exact .invalid (by simp [create]) (.inl ⟨create, by simp [missing]⟩)
  · next create missing => exact .invalid (by simp [missing]) (.inr ⟨create, by simp [missing]⟩)
  · next notCreate notCreateEach missing missingEach =>
    have other : query.method ≠ .create ∧ query.method ≠ .createEach := by
      cases given : query.records <;> simp_all
    refine .ok (fun nothing => other.2 nothing.1) ?_
    rintro (⟨create, -⟩ | ⟨createEach, -⟩)
    · exact other.1 create
    · exact other.2 createEach

theorem verdict_compileNumericAttribute :
    Verdict False (query.BadNumericAttribute model) (query.compileNumericAttribute model) := by
  unfold compileNumericAttribute BadNumericAttribute
  split
  · next takes =>
    split
    · next missing => exact .invalid id ⟨takes, by simp [missing]⟩
    · next name given =>
      split
      · next number => exact .ok id fun flawed => flawed.2 ⟨name, given, number⟩
      · next notNumber isKind =>
        exact .invalid id ⟨takes, by simpa [given, isKind] using notNumber⟩
      · next unknown => exact .invalid id ⟨takes, by simp [given, unknown]⟩
  · next takes => exact .ok id (by simp [takes])

theorem verdict_compileIteratee :
    Verdict False query.BadIteratee query.compileIteratee := by
  unfold compileIteratee BadIteratee
  split
  · next stream record batch => exact .ok id (by simp [record, batch])
  · next stream record batch => exact .ok id (by simp [record, batch])
  · next stream record batch => exact .invalid id ⟨stream, by simp [record, batch]⟩
  · next stream record batch => exact .invalid id ⟨stream, by simp [record, batch]⟩
  · next onlyRecord onlyBatch both neither =>
    refine .ok id ?_
    rintro ⟨stream, same⟩
    cases record : query.eachRecord <;> cases batch : query.eachBatch <;> simp_all

/-- An association is refused when something is wrong with it that is looked at. -/
theorem verdict_compilePopulate (entry : String × Json) :
    Verdict False (BadPopulate registry model entry ∧ ¬EmptyPopulate registry model entry)
      (compilePopulate registry model entry) := by
  obtain ⟨name, raw⟩ := entry
  unfold compilePopulate BadPopulate EmptyPopulate
  dsimp only
  rcases associated_cases registry model name (subcriteria? raw) with
    ⟨details, refused⟩ | ⟨-, child, -, -, -, found⟩
  · rw [refused]
    exact .invalid id (by simp)
  · rw [found]
    simp only [Except.ok.injEq, exists_eq_left', bind, Except.bind]
    have verdict := Criteria.verdict_read child.model .find (subcriteria? raw)
    generalize Criteria.read child.model .find (subcriteria? raw) = result at verdict
    cases verdict with
    | noop skips =>
      refine .ok id fun bad => ?_
      obtain ⟨shaped, never⟩ | ⟨sound, -⟩ := skips
      · exact bad.2 ⟨shaped, never⟩
      · exact bad.1 sound
    | invalid goesOn bad => exact .invalid id ⟨bad, fun empty => goesOn (.clause empty.1 empty.2)⟩
    | ok _ sound => exact .ok id fun bad => sound bad.1

theorem verdict_compilePopulates :
    Verdict False (∃ entries, query.populates = some entries ∧
        ∃ entry ∈ entries, BadPopulate registry model entry ∧ ¬EmptyPopulate registry model entry)
      (query.compilePopulates registry model) := by
  unfold compilePopulates
  split
  · next entries given =>
    exact (Verdict.mapM fun entry _ => verdict_compilePopulate registry model entry).congr .rfl (by simp [given])
  · next absent => exact .ok id (by simp [absent])

/-! ## The verdict on a query -/

/-- The flaws that are not overlooked, one by one. -/
theorem exists_flaw_iff :
    (∃ flaw, query.HasFlaw registry now model flaw ∧ ¬Overlooked registry model flaw) ↔
      query.method.takesCriteria = true ∧ Criteria.Malformed model query.criteria ∨ query.BadValues now model ∨
      query.BadRecords now model ∨ query.BadNumericAttribute model ∨
      (∃ entries, query.populates = some entries ∧
        ∃ entry ∈ entries, BadPopulate registry model entry ∧ ¬EmptyPopulate registry model entry) ∨
      query.BadIteratee := by
  constructor
  · rintro ⟨flaw, flawed, seen⟩
    cases flaw with
    | criteria => exact .inl flawed
    | values => exact .inr (.inl flawed)
    | records => exact .inr (.inr (.inl flawed))
    | numericAttribute => exact .inr (.inr (.inr (.inl flawed)))
    | populate name raw =>
      obtain ⟨entries, given, member, bad⟩ := flawed
      exact .inr (.inr (.inr (.inr (.inl ⟨entries, given, (name, raw), member, bad, seen⟩))))
    | iteratee => exact .inr (.inr (.inr (.inr (.inr flawed))))
  · rintro (flawed | flawed | flawed | flawed | ⟨entries, given, ⟨name, raw⟩, member, bad, seen⟩ | flawed)
    · exact ⟨.criteria, flawed, id⟩
    · exact ⟨.values, flawed, id⟩
    · exact ⟨.records, flawed, id⟩
    · exact ⟨.numericAttribute, flawed, id⟩
    · exact ⟨.populate name raw, ⟨entries, given, member, bad⟩, seen⟩
    · exact ⟨.iteratee, flawed, id⟩

/-- The query is skipped when its criteria ask for nothing, whatever else is wrong with it, or when it is
to add no records; and otherwise it is refused for every flaw that is not overlooked. -/
theorem verdict_compile {query : Description σ} {registry : Registry σ} {registered : RegisteredModel σ}
    (found : registry.model? query.model = some registered) (now : Instant) :
    Verdict
      (query.checkParts = .ok () ∧ (query.AddsNothing ∨ query.method.takesCriteria = true ∧
        Criteria.AsksNothing registered.model query.method query.criteria))
      (query.checkParts ≠ .ok () ∨
        query.method.takesCriteria = true ∧ ¬Criteria.Sound registered.model query.method query.criteria ∨
        ∃ flaw, query.HasFlaw registry now registered.model flaw ∧ ¬Overlooked registry registered.model flaw)
      (query.compile registry now) := by
  have verdict :=
    query.verdict_checkParts.next fun _ _ =>
      (query.verdict_compileCriteria registered.model).bind fun criteria _ =>
        (query.verdict_compileValues now registered.model).next fun values _ =>
          (query.verdict_compileRecords now registered.model).bind fun records _ =>
            (query.verdict_compileNumericAttribute registered.model).next fun numericAttribute _ =>
              (query.verdict_compilePopulates registry registered.model).next fun populates _ =>
                query.verdict_compileIteratee.next fun iteratee _ =>
                  (.ok id id : Verdict False False (pure ({ query with
                    criteria, values, records, numericAttribute, populates, iteratee } : LogicalQuery σ)))
  unfold compile
  rw [found]
  refine verdict.congr ?_ ?_
  · constructor
    · rintro ⟨parts, asksNothing | ⟨-, -, addsNothing | ⟨-, -, -, -, no⟩⟩⟩
      · exact ⟨not_not.mp parts, .inr asksNothing⟩
      · exact ⟨not_not.mp parts, .inl addsNothing⟩
      · exact no.elim
    · rintro ⟨parts, addsNothing | asksNothing⟩
      · -- only a createEach can be without records, and it has neither criteria nor values
        have noCriteria : ¬query.method.takesCriteria = true := by simp [addsNothing.1, Method.takesCriteria]
        have noValues : ¬query.method.takesValues = true := by simp [addsNothing.1, Method.takesValues]
        exact ⟨not_not.mpr parts, .inr ⟨fun bad => noCriteria bad.1, fun bad => noValues bad.1, .inl addsNothing⟩⟩
      · exact ⟨not_not.mpr parts, .inl asksNothing⟩
  · rw [exists_flaw_iff, or_false]
    -- criteria with a malformed part are not sound
    refine or_congr_right (Iff.trans (or_congr_left (or_iff_left_of_imp ?_).symm) or_assoc)
    rintro ⟨takes, malformed⟩
    exact ⟨takes, fun sound => sound.wellFormed malformed⟩

/-- A query that is to add no records has no flaw. -/
theorem AddsNothing.not_hasFlaw {query : Description σ} {registry : Registry σ} {now : Instant} {model : Model}
    (nothing : query.AddsNothing) (parts : query.checkParts = .ok ()) (flaw : Flaw) :
    ¬query.HasFlaw registry now model flaw := by
  obtain ⟨createEach, noRecords⟩ := nothing
  obtain ⟨-, -, -, -, takesPopulates, -⟩ := checkParts_eq_ok.mp parts
  cases flaw with
  | criteria => simp [HasFlaw, createEach, Method.takesCriteria]
  | values => simp [HasFlaw, BadValues, createEach, Method.takesValues]
  | records => simp [HasFlaw, BadRecords, createEach, noRecords, Model.readRecordsFrom]
  | numericAttribute => simp [HasFlaw, BadNumericAttribute, createEach, Method.takesNumericAttribute]
  | populate name raw =>
    rintro ⟨entries, given, -⟩
    rw [given, createEach] at takesPopulates
    cases takesPopulates rfl
  | iteratee => simp [HasFlaw, BadIteratee, createEach]

/-- A query with a flaw is answered as if there were nothing to do exactly when its criteria ask for
nothing, and refused exactly when they do not and something is wrong that is not overlooked. A query on
a model that is not registered is always refused. -/
theorem flawed_refused_iff (query : Description σ) (registry : Registry σ) (now : Instant) :
    (registry.model? query.model = none →
      ∃ part details, query.compile registry now = .error (.invalid part details)) ∧
    ∀ registered, registry.model? query.model = some registered →
      ∀ flaw, query.HasFlaw registry now registered.model flaw →
        ((∃ details, query.compile registry now = .error (.noop details)) ↔
          query.checkParts = .ok () ∧ query.method.takesCriteria = true ∧
            Criteria.AsksNothing registered.model query.method query.criteria) ∧
        ((∃ part details, query.compile registry now = .error (.invalid part details)) ↔
          query.checkParts ≠ .ok () ∨
          ¬(query.method.takesCriteria = true ∧
            Criteria.AsksNothing registered.model query.method query.criteria) ∧
          (query.method.takesCriteria = true ∧ ¬Criteria.Sound registered.model query.method query.criteria ∨
            ∃ other, query.HasFlaw registry now registered.model other ∧
              ¬Overlooked registry registered.model other)) := by
  constructor
  · intro unknown
    unfold compile
    rw [unknown]
    exact ⟨_, _, rfl⟩
  · intro registered found flaw flawed
    have verdict := verdict_compile found now
    rw [verdict.exists_noop_iff, verdict.exists_invalid_iff]
    -- of the two ways to be skipped, that of having no records to add leaves no room for a flaw
    have addsSome (parts : query.checkParts = .ok ()) : ¬query.AddsNothing := fun nothing =>
      nothing.not_hasFlaw parts flaw flawed
    constructor
    · tauto
    · tauto

/-- An update of the users with a key out of none, to a name that is a number. -/
def renameNoOne : Description Store where
  method := .update
  model := "user"
  criteria := some (.record [("id", .list [])])
  values := some (.record [("name", .ofNat 7)])

/-- A name that is a number is refused, but not in an update of no user: that is one with nothing to do. -/
theorem renameNoOne_skipped :
    ∃ (registry : Registry Store) (start finish : Run Store) (registered : RegisteredModel Store),
      Attempt.result (Registry.build .usersAndPets [("memory", Store.adapter)] []) start = (.ok registry, finish) ∧
      registry.model? renameNoOne.model = some registered ∧
      renameNoOne.HasFlaw registry ⟨0⟩ registered.model .values ∧
      ∃ details, renameNoOne.compile registry ⟨0⟩ = .error (.noop details) := by
  let start : Run Store := { environment := { keys := { draw := toString } } }
  have flawed {model : Model} (same : model = Configuration.usersAndPets.models[0]) :
      renameNoOne.BadValues ⟨0⟩ model := by
    refine ⟨rfl, ?_⟩
    rintro ⟨raw, values, given, read⟩
    obtain rfl := Option.some.inj given
    rw [same] at read
    cases read
  refine ⟨_, start, _, _, rfl, rfl, flawed rfl, ?_⟩
  refine Iff.mpr (And.left (And.right (flawed_refused_iff renameNoOne _ ⟨0⟩) _ rfl .values (flawed rfl)))
    ⟨rfl, rfl, .clause ?_ ?_⟩
  · exact ⟨_, rfl, fun entries same => Option.some.inj same ▸ rfl⟩
  · exact ⟨_, rfl, rfl⟩

end Description

end RecordMapper
