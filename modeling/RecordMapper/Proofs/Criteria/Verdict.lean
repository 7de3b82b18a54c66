import RecordMapper.Proofs.Criteria.Raw

/-! # Which raw criteria are refused, and which ask for nothing

A step of a compilation ends well, or in a noop, or because something is malformed; its `Verdict` says
exactly when it ends in which way, and the verdict of two steps in a row follows from theirs. Reading
criteria has such a verdict. The clause is read before the other parts and the limit after them, so
that a clause that never matches ends the reading before anything is found to be wrong with a skip, a
sort or a choice of attributes, while a limit of zero only does so once all else is in order.
-/

namespace RecordMapper

open Results

/-! ## Verdicts -/

/-- A compilation ends in a noop when it is skipped, in a usage error when it is flawed and not
skipped, and well otherwise. -/
inductive Verdict {α : Type} (skipped flawed : Prop) : Except CompileError α → Prop
  | noop {details : String} (skips : skipped) : Verdict skipped flawed (.error (.noop details))
  | invalid {part : QueryPart} {details : String} (goesOn : ¬skipped) (bad : flawed) :
      Verdict skipped flawed (.error (.invalid part details))
  | ok {value : α} (goesOn : ¬skipped) (sound : ¬flawed) : Verdict skipped flawed (.ok value)

namespace Verdict

variable {α β : Type} {skipped flawed skippedLater flawedLater : Prop} {result : Except CompileError α}

theorem exists_noop_iff (verdict : Verdict skipped flawed result) :
    (∃ details, result = .error (.noop details)) ↔ skipped := by
  cases verdict with
  | noop skips => exact iff_of_true ⟨_, rfl⟩ skips
  | invalid goesOn _ => exact iff_of_false nofun goesOn
  | ok goesOn _ => exact iff_of_false nofun goesOn

theorem exists_invalid_iff (verdict : Verdict skipped flawed result) :
    (∃ part details, result = .error (.invalid part details)) ↔ ¬skipped ∧ flawed := by
  cases verdict with
  | noop skips => exact iff_of_false nofun fun both => both.1 skips
  | invalid goesOn bad => exact iff_of_true ⟨_, _, rfl⟩ ⟨goesOn, bad⟩
  | ok _ sound => exact iff_of_false nofun fun both => sound both.2

theorem congr (verdict : Verdict skipped flawed result) (sameSkipped : skipped ↔ skippedLater)
    (sameFlawed : flawed ↔ flawedLater) : Verdict skippedLater flawedLater result := by
  rwa [← sameSkipped, ← sameFlawed]

/-- A result that is read for a part of a query is flawed when there is no value. -/
theorem ofResult {δ : Type} (result : Except δ α) (part : QueryPart) (message : δ → String) :
    Verdict False (¬∃ value, result = .ok value) (result.mapError fun fault => .invalid part (message fault)) := by
  cases result with
  | error fault => exact .invalid id (by simp)
  | ok value => exact .ok id (by simp)

theorem map (verdict : Verdict skipped flawed result) (image : α → β) :
    Verdict skipped flawed (result.map image) := by
  cases verdict with
  | noop skips => exact .noop skips
  | invalid goesOn bad => exact .invalid goesOn bad
  | ok goesOn sound => exact .ok goesOn sound

/-- A second step is only taken when the first ends well. -/
theorem bind {next : α → Except CompileError β} (first : Verdict skipped flawed result)
    (later : ∀ value, result = .ok value → Verdict skippedLater flawedLater (next value)) :
    Verdict (skipped ∨ ¬flawed ∧ skippedLater) (flawed ∨ flawedLater) (result >>= next) := by
  cases first with
  | noop skips => exact .noop (.inl skips)
  | invalid goesOn bad =>
    exact .invalid (not_or.mpr ⟨goesOn, fun both => both.1 bad⟩) (.inl bad)
  | @ok value goesOn sound =>
    change Verdict _ _ (next value)
    refine (later value rfl).congr ?_ ?_
    · simp [goesOn, sound]
    · simp [sound]

/-- A first step that asks for something is only a matter of flaws. -/
theorem next {next : α → Except CompileError β} (first : Verdict False flawed result)
    (later : ∀ value, result = .ok value → Verdict skippedLater flawedLater (next value)) :
    Verdict (¬flawed ∧ skippedLater) (flawed ∨ flawedLater) (result >>= next) :=
  (first.bind later).congr (by simp) .rfl

/-- A test that has to fail for the compilation to go on. -/
theorem ite {test : Prop} [Decidable test] {part : QueryPart} {details : String}
    (later : ¬test → Verdict skippedLater flawedLater result) :
    Verdict (¬test ∧ skippedLater) (test ∨ flawedLater)
      (if test then (.error (.invalid part details) : Except CompileError Unit) >>= fun _ => result
        else result) := by
  by_cases fails : test
  · rw [if_pos fails]
    exact .invalid (fun both => both.1 fails) (.inl fails)
  · rw [if_neg fails]
    exact (later fails).congr (by simp [fails]) (by simp [fails])

/-- A list of steps is flawed when one of them is. -/
theorem mapM {items : List α} {step : α → Except CompileError β} {flawed : α → Prop}
    (each : ∀ item ∈ items, Verdict False (flawed item) (step item)) :
    Verdict False (∃ item ∈ items, flawed item) (items.mapM step) := by
  induction items with
  | nil => exact .ok id (by simp)
  | cons item rest ih =>
    obtain ⟨here, later⟩ := List.forall_mem_cons.mp each
    rw [List.mapM_cons]
    have verdict : Verdict (¬flawed item ∧ ¬(∃ item ∈ rest, flawed item) ∧ False) _ _ :=
      here.next fun value _ => (ih later).next fun values _ =>
        (.ok id id : Verdict False False (pure (value :: values)))
    exact verdict.congr (by simp) (by simp)

end Verdict

namespace Criteria

variable {model : Model} {method : Method} {raw : Option Json}

/-! ## Raw criteria that are malformed -/

/-- Raw criteria are written in one of the forms there are, with keys that the method allows. -/
def Shaped (model : Model) (method : Method) (raw : Option Json) : Prop :=
  ∃ known, entriesOf model raw = .ok known ∧
    ∀ entries, known = some entries → checkKeys method entries = .ok ()

/-- The clause of raw criteria is well-formed. -/
def ClauseReads (model : Model) (raw : Option Json) : Prop :=
  ∃ clause, Clause.read model (RawCriteria.clause model.primaryKey raw) = .ok clause

/-- The clause of raw criteria is well-formed and has no simple form, so that no record matches it. -/
def NeverMatches (model : Model) (raw : Option Json) : Prop :=
  ∃ clause, Clause.read model (RawCriteria.clause model.primaryKey raw) = .ok clause ∧ clause.simplify = none

/-- What stands under a top-level key is refused. -/
def Refused {α : Type} (raw : Option Json) (key : String) (read : Json → Except CriteriaFault α) : Prop :=
  ∃ given fault, RawCriteria.part raw key = some given ∧ read given = .error fault

/-- Raw criteria choose attributes in both ways. -/
def ChoosesTwice (model : Model) (raw : Option Json) : Prop :=
  (∃ given names, RawCriteria.part raw "select" = some given ∧ readSelection model given = .ok (some names)) ∧
    RawCriteria.part raw "omit" ≠ none

/-- Some part of raw criteria other than their clause is malformed. -/
inductive Malformed (model : Model) (raw : Option Json) : Prop
  | skip (refused : Refused raw "skip" (readCount "skip"))
  | sort (refused : Refused raw "sort" (SortTerm.read model))
  | selection (refused : Refused raw "select" (readSelection model))
  | omission (refused : Refused raw "omit" (readOmission model))
  | limit (refused : Refused raw "limit" (readCount "limit"))
  | choice (twice : ChoosesTwice model raw)

theorem malformed_iff :
    Malformed model raw ↔ Refused raw "skip" (readCount "skip") ∨ Refused raw "sort" (SortTerm.read model) ∨
      Refused raw "select" (readSelection model) ∨ ChoosesTwice model raw ∨
      Refused raw "omit" (readOmission model) ∨ Refused raw "limit" (readCount "limit") := by
  constructor
  · rintro (refused | refused | refused | refused | refused | twice) <;> tauto
  · rintro (refused | refused | refused | twice | refused | refused)
    · exact .skip refused
    · exact .sort refused
    · exact .selection refused
    · exact .choice twice
    · exact .omission refused
    · exact .limit refused

/-- Nothing is wrong with raw criteria. -/
structure Sound (model : Model) (method : Method) (raw : Option Json) : Prop where
  shaped : Shaped model method raw
  clause : ClauseReads model raw
  wellFormed : ¬Malformed model raw

/-- The limit of raw criteria is zero. -/
def ZeroLimit (raw : Option Json) : Prop :=
  ∃ given, RawCriteria.part raw "limit" = some given ∧ readCount "limit" given = .ok 0

/-- Raw criteria ask for nothing: their clause never matches, whatever else they say, or nothing is
wrong with them and their limit is zero. -/
inductive AsksNothing (model : Model) (method : Method) (raw : Option Json) : Prop
  | clause (shaped : Shaped model method raw) (never : NeverMatches model raw)
  | limit (sound : Sound model method raw) (zero : ZeroLimit raw)

/-! ## The verdict on raw criteria -/

theorem verdict_readKey {α : Type} (raw : Option Json) (key : String) (read : Json → Except CriteriaFault α)
    (default : α) :
    Verdict False (Refused raw key read) (invalid (readKey (RawCriteria.entries raw) key read default)) := by
  refine (Verdict.ofResult _ .criteria CriteriaFault.message).congr .rfl ?_
  unfold readKey Refused RawCriteria.part
  cases Dictionary.get? (RawCriteria.entries raw) key with
  | none => simp
  | some given => cases outcome : read given <;> simp [outcome]

/-- A value other than the default is read from what stands under the key. -/
theorem readKey_eq_iff {α : Type} {key : String} {read : Json → Except CriteriaFault α} {default value other : α}
    (done : readKey (RawCriteria.entries raw) key read default = .ok value) (notDefault : other ≠ default) :
    value = other ↔ ∃ given, RawCriteria.part raw key = some given ∧ read given = .ok other := by
  unfold readKey at done
  unfold RawCriteria.part
  split at done
  · next given found => simp [found, done]
  · next absent => simp [absent, ← Except.ok.inj done, notDefault.symm]

/-- What is read of the entries of criteria besides their clause. -/
def readRest (model : Model) (entries : Dictionary Json) (clause : Clause) : Except CompileError Criteria := do
  let skip ← invalid (readKey entries "skip" (readCount "skip") 0)
  let sort ← invalid (readKey entries "sort" (SortTerm.read model) [])
  let selection ← invalid (readKey entries "select" (readSelection model) none)
  if selection.isSome && Dictionary.contains entries "omit" then
    .error (.invalid .criteria CriteriaFault.selectAndOmit.message)
  let omission ← invalid (readKey entries "omit" (readOmission model) [])
  let limit ← invalid (readKey entries "limit" (fun raw => (readCount "limit" raw).map some) none)
  if limit = some 0 then .error (.noop "`limit` is zero")
  return { clause, limit, skip, sort, selection, omission }

/-- Entries that agree with those of criteria but for the clause read alike but for the clause. -/
theorem readRest_congr {known : Dictionary Json} {clause : Clause}
    (kept : ∀ key ∈ topLevelKeys, key ≠ "where" → Dictionary.get? known key = RawCriteria.part raw key) :
    readRest model known clause = readRest model (RawCriteria.entries raw) clause := by
  have same {α : Type} (key : String) (isKey : key ∈ topLevelKeys) (notWhere : key ≠ "where")
      (read : Json → Except CriteriaFault α) (default : α) :=
    RawCriteria.readKey_congr (kept key isKey notWhere) read default
  have omits : Dictionary.contains known "omit" = Dictionary.contains (RawCriteria.entries raw) "omit" := by
    rw [Dictionary.contains, kept _ (by decide) (by decide), RawCriteria.part, Dictionary.contains]
  simp only [readRest, same "skip" (by decide) (by decide), same "sort" (by decide) (by decide),
    same "select" (by decide) (by decide), same "omit" (by decide) (by decide),
    same "limit" (by decide) (by decide), omits]

/-- Criteria in one of the forms there are are read clause first. -/
theorem read_of_shaped (shaped : Shaped model method raw) :
    read model method raw = (do
      let clause ← invalid (Clause.read model (RawCriteria.clause model.primaryKey raw))
      let clause ←
        match clause.simplify with
        | some clause => .ok clause
        | none => .error (.noop "`where` clause can never match any record")
      readRest model (RawCriteria.entries raw) clause) := by
  obtain ⟨known, found, allowed⟩ := shaped
  unfold read
  rw [found]
  cases known with
  | none =>
    obtain ⟨noEntries, written⟩ := RawCriteria.entriesOf_eq_none found
    rw [noEntries, written]
    rfl
  | some known =>
    obtain ⟨kept, written⟩ := RawCriteria.entriesOf_eq_some found
    change (invalid (checkKeys method known) >>= fun _ => _) = _
    rw [allowed known rfl]
    change (invalid (readKey known "where" (Clause.read model) .everything) >>= _) = _
    rw [RawCriteria.readKey_where written]
    simp only [← readRest_congr kept]
    rfl

/-- Attributes are chosen in both ways when there is a selection once it is read, and an omission. -/
theorem choosesTwice_iff {selection : Option (List String)}
    (done : invalid (readKey (RawCriteria.entries raw) "select" (readSelection model) none) = .ok selection) :
    (selection.isSome && Dictionary.contains (RawCriteria.entries raw) "omit") = true ↔ ChoosesTwice model raw := by
  have chosen (names : List String) : selection = some names ↔ _ :=
    readKey_eq_iff (invalid_eq_ok.mp done) (by simp)
  rw [Bool.and_eq_true, Option.isSome_iff_exists, Dictionary.contains, ← RawCriteria.part,
    Option.isSome_iff_ne_none, ChoosesTwice]
  simp only [chosen]
  exact and_congr_left fun _ => exists_comm

theorem zeroLimit_iff {limit : Option Nat} (done : invalid (readKey (RawCriteria.entries raw) "limit"
      (fun raw => (readCount "limit" raw).map some) none) = .ok limit) : limit = some 0 ↔ ZeroLimit raw := by
  rw [readKey_eq_iff (invalid_eq_ok.mp done) (by simp)]
  simp [ZeroLimit, map_eq_ok]

theorem refused_map_iff {α β : Type} {key : String} {read : Json → Except CriteriaFault α} {image : α → β} :
    Refused raw key (fun given => (read given).map image) ↔ Refused raw key read := by
  simp only [Refused, map_eq_error]

/-- Only once all parts besides the clause are in order, a limit of zero counts. -/
theorem verdict_readRest (clause : Clause) :
    Verdict (¬Malformed model raw ∧ ZeroLimit raw) (Malformed model raw)
      (readRest model (RawCriteria.entries raw) clause) := by
  have ending (criteria : Criteria) {limit : Option Nat} (isLimit : invalid (readKey (RawCriteria.entries raw)
      "limit" (fun raw => (readCount "limit" raw).map some) none) = .ok limit) :
      Verdict (ZeroLimit raw) False (if limit = some 0 then
        (Except.error (.noop "`limit` is zero") : Except CompileError Unit) >>= fun _ => pure criteria
        else pure criteria) := by
    have isZero := zeroLimit_iff isLimit
    split
    · next zero => exact .noop (isZero.mp zero)
    · next notZero => exact .ok (mt isZero.mpr notZero) id
  -- the checks, in the order in which they are made
  have verdict : Verdict _ _ (readRest model (RawCriteria.entries raw) clause) :=
    (verdict_readKey raw "skip" (readCount "skip") 0).next fun skip _ =>
      (verdict_readKey raw "sort" (SortTerm.read model) []).next fun sort _ =>
        (verdict_readKey raw "select" (readSelection model) none).next fun selection isSelection =>
          (Verdict.ite fun _ =>
            (verdict_readKey raw "omit" (readOmission model) []).next fun omission _ =>
              (verdict_readKey raw "limit" (fun raw => (readCount "limit" raw).map some) none).next
                fun limit isLimit => ending { clause, limit, skip, sort, selection, omission } isLimit).congr
            (and_congr_left fun _ => not_congr (choosesTwice_iff isSelection))
            (or_congr_left (choosesTwice_iff isSelection))
  refine verdict.congr ?_ ?_
  · rw [malformed_iff, refused_map_iff]
    tauto
  · rw [malformed_iff, refused_map_iff, or_false]

/-- A clause without simple form ends the reading before the other parts are looked at. -/
theorem verdict_simplify (model : Model) (raw : Option Json) (clause : Clause) :
    Verdict (clause.simplify = none ∨ ¬Malformed model raw ∧ ZeroLimit raw)
      (Malformed model raw) (do
        let clause ←
          match clause.simplify with
          | some clause => .ok clause
          | none => .error (.noop "`where` clause can never match any record")
        readRest model (RawCriteria.entries raw) clause) := by
  cases simplified : clause.simplify with
  | none => exact .noop (.inl rfl)
  | some simple => exact (verdict_readRest simple).congr (by simp) .rfl

theorem NeverMatches.clauseReads (never : NeverMatches model raw) : ClauseReads model raw := by
  obtain ⟨clause, read, -⟩ := never
  exact ⟨clause, read⟩

theorem sound_iff_of_shaped (shaped : Shaped model method raw) :
    Sound model method raw ↔ ClauseReads model raw ∧ ¬Malformed model raw :=
  ⟨fun sound => ⟨sound.clause, sound.wellFormed⟩, fun ⟨clause, wellFormed⟩ => ⟨shaped, clause, wellFormed⟩⟩

theorem neverMatches_iff {clause : Clause}
    (done : Clause.read model (RawCriteria.clause model.primaryKey raw) = .ok clause) :
    NeverMatches model raw ↔ clause.simplify = none := by
  simp [NeverMatches, done]

theorem read_of_not_shaped (shapeless : ¬Shaped model method raw) :
    ∃ details, read model method raw = .error (.invalid .criteria details) := by
  unfold read
  cases found : entriesOf model raw with
  | error fault => exact ⟨_, rfl⟩
  | ok known =>
    cases known with
    | none => exact absurd ⟨none, found, nofun⟩ shapeless
    | some known =>
      cases checked : checkKeys method known with
      | error fault =>
        change ∃ details, (invalid (checkKeys method known) >>= fun _ => _) = _
        rw [checked]
        exact ⟨_, rfl⟩
      | ok passed => exact absurd ⟨some known, found, fun _ same => Option.some.inj same ▸ checked⟩ shapeless

/-- Criteria are skipped when they ask for nothing, and refused when something else is wrong with them. -/
theorem verdict_read (model : Model) (method : Method) (raw : Option Json) :
    Verdict (AsksNothing model method raw) (¬Sound model method raw) (read model method raw) := by
  by_cases shaped : Shaped model method raw
  · rw [read_of_shaped shaped]
    have verdict := (Verdict.ofResult (Clause.read model (RawCriteria.clause model.primaryKey raw)) .criteria
      CriteriaFault.message).next fun clause isClause => (verdict_simplify model raw clause).congr
        (or_congr_left (neverMatches_iff (invalid_eq_ok.mp isClause)).symm) .rfl
    refine verdict.congr ?_ ?_
    · rw [not_not]
      constructor
      · rintro ⟨clause, never | ⟨wellFormed, zero⟩⟩
        · exact .clause shaped never
        · exact .limit ⟨shaped, clause, wellFormed⟩ zero
      · rintro (⟨-, never⟩ | ⟨sound, zero⟩)
        · exact ⟨never.clauseReads, .inl never⟩
        · exact ⟨sound.clause, .inr ⟨sound.wellFormed, zero⟩⟩
    · rw [sound_iff_of_shaped shaped, not_and_or, not_not]
      rfl
  · obtain ⟨details, refused⟩ := read_of_not_shaped shaped
    rw [refused]
    refine .invalid ?_ fun sound => shaped sound.shaped
    rintro (⟨isShaped, -⟩ | ⟨sound, -⟩)
    · exact shaped isShaped
    · exact shaped sound.shaped

end Criteria

end RecordMapper
