import RecordMapper.Proofs.Criteria.Fields
import RecordMapper.Proofs.Criteria.Verdict

/-! # The grammar of clauses

What can be written as a clause is said here once more, without reading it: which values an attribute can
be compared with, which modifiers there are and what stands under them, what an attribute can be asked to
be, and how dictionaries and lists of them nest. `Clause.read` accepts exactly what is grammatical, and the
rest is refused as malformed criteria. Nothing is simplified before all of it is read, so that a part that
is not grammatical is refused also where it could not matter.
-/

namespace RecordMapper

open Results

namespace Clause

/-! ## The grammar -/

/-- A value that an attribute of a kind can be compared with. -/
inductive Operand : AttributeKind → Json → Prop where
  | null {kind : AttributeKind} : Operand kind .null
  /-- A single value of the type of the attribute. -/
  | scalar {type : ScalarType} {value : Json} (typed : type.accepts value = true) (notList : value.isList = false)
      (notRecord : value.isRecord = false) : Operand (.scalar type) value
  /-- The key of the record that is referred to. -/
  | textKey {target content : String} : Operand (.model target) (.text content)
  | numberKey {target : String} {number : Number} : Operand (.model target) (.number number)

/-- A modifier with what stands under it. -/
inductive Modifier (kind : AttributeKind) : String → Json → Prop where
  | membership {name : String} {items : List Json} (known : name ∈ ["in", "nin"])
      (operands : ∀ item ∈ items, Operand kind item) : Modifier kind name (.list items)
  | difference {value : Json} (operand : Operand kind value) : Modifier kind "!=" value
  | numberOrder {name : String} {number : Number} (known : name ∈ ["<", "<=", ">", ">="]) :
      Modifier kind name (.number number)
  | textOrder {name content : String} (known : name ∈ ["<", "<=", ">", ">="]) : Modifier kind name (.text content)
  | pattern {name content : String} (known : name ∈ ["contains", "startsWith", "endsWith", "like"]) :
      Modifier kind name (.text content)

/-- What an attribute of a kind can be asked to be. -/
inductive Constraint (kind : AttributeKind) : Json → Prop where
  | operand {value : Json} (operand : Operand kind value) : Constraint kind value
  | operands {items : List Json} (operands : ∀ item ∈ items, Operand kind item) : Constraint kind (.list items)
  | modifiers {entries : List (String × Json)} (nonempty : entries ≠ [])
      (each : ∀ entry ∈ entries, Modifier kind entry.1 entry.2) : Constraint kind (.record entries)

mutual

/-- A value that writes a clause. -/
inductive Grammatical (model : Model) : Json → Prop where
  | dictionary {entries : List (String × Json)}
      (each : ∀ entry ∈ entries, GrammaticalEntry model entry.1 entry.2) : Grammatical model (.record entries)

/-- An entry of a dictionary that writes a clause. -/
inductive GrammaticalEntry (model : Model) : String → Json → Prop where
  | connective {name : String} {branches : List Json} (known : name = "and" ∨ name = "or")
      (nonempty : branches ≠ []) (each : ∀ branch ∈ branches, Grammatical model branch) :
      GrammaticalEntry model name (.list branches)
  /-- Only an attribute with a column can be asked about. -/
  | constrained {name : String} {declared : Attribute} {value : Json} (plain : ¬(name = "and" ∨ name = "or"))
      (isDeclared : model.attribute? name = some declared) (column : declared.hasColumn = true)
      (constraint : Constraint declared.kind value) : GrammaticalEntry model name value

end

/-! ## What is asked of an attribute -/

theorem isOperand_iff {kind : AttributeKind} {value : Json} :
    isOperand kind value = true ↔ Operand kind value := by
  constructor
  · intro accepted
    simp only [isOperand, Bool.and_eq_true, Bool.not_eq_true'] at accepted
    obtain ⟨⟨notList, notRecord⟩, fits⟩ := accepted
    rcases Bool.or_eq_true_iff.mp fits with isNull | fits
    · cases value with
      | null => exact .null
      | _ => cases isNull
    · cases kind with
      | scalar type => exact .scalar fits notList notRecord
      | model target =>
        cases value with
        | text content => exact .textKey
        | number number => exact .numberKey
        | _ => cases fits
      | collection target via => cases fits
  · rintro (_ | ⟨typed, notList, notRecord⟩ | _ | _)
    · rfl
    · simp [isOperand, typed, notList, notRecord]
    · rfl
    · rfl

variable {model : Model} {name : String} {declared : Attribute}

theorem exists_readOperand_iff {value : Json} :
    (∃ operand, readOperand name declared value = .ok operand) ↔ Operand declared.kind value := by
  rw [← isOperand_iff, readOperand]
  split
  · next accepted => exact iff_of_true ⟨_, rfl⟩ accepted
  · next refused => exact iff_of_false nofun refused

theorem exists_readOperands_iff {items : List Json} :
    (∃ operands, readOperands name declared items = .ok operands) ↔ ∀ item ∈ items, Operand declared.kind item := by
  simp only [readOperands, exists_mapM_eq_ok_iff, exists_readOperand_iff]

/-- Under which modifiers something stands that fits. -/
theorem modifier_iff {kind : AttributeKind} {modifier : String} {operand : Json} :
    Modifier kind modifier operand ↔
      modifier ∈ ["in", "nin"] ∧ (∃ items, operand = .list items ∧ ∀ item ∈ items, Operand kind item) ∨
      modifier = "!=" ∧ Operand kind operand ∨
      modifier ∈ ["<", "<=", ">", ">="] ∧ (operand.isNumber || operand.isText) = true ∨
      modifier ∈ ["contains", "startsWith", "endsWith", "like"] ∧ ∃ content, operand = .text content := by
  constructor
  · rintro (⟨known, operands⟩ | operand | known | known | known)
    · exact .inl ⟨known, _, rfl, operands⟩
    · exact .inr (.inl ⟨rfl, operand⟩)
    · exact .inr (.inr (.inl ⟨known, rfl⟩))
    · exact .inr (.inr (.inl ⟨known, rfl⟩))
    · exact .inr (.inr (.inr ⟨known, _, rfl⟩))
  · rintro (⟨known, items, rfl, operands⟩ | ⟨rfl, operand⟩ | ⟨known, comparable⟩ | ⟨known, content, rfl⟩)
    · exact .membership known operands
    · exact .difference operand
    · cases operand with
      | number number => exact .numberOrder known
      | text content => exact .textOrder known
      | _ => cases comparable
    · exact .pattern known

theorem exists_readModifier_iff {modifier : String} {operand : Json} :
    (∃ test, readModifier name declared modifier operand = .ok test) ↔ Modifier declared.kind modifier operand := by
  rw [modifier_iff]
  unfold readModifier
  dsimp only
  -- one case for each modifier in the order in which they are told apart, and one for what is none
  split
  case h_12 => simp_all
  case h_7 => simp [exists_map_eq_ok_iff, exists_readOperand_iff]
  case h_1 | h_2 => cases operand <;> simp [exists_map_eq_ok_iff, exists_readOperands_iff]
  case h_3 | h_4 | h_5 | h_6 => cases operand <;> simp [Json.isNumber, Json.isText]
  all_goals cases operand <;> simp

/-- What an attribute is asked to be, by the way in which it is written. -/
theorem constraint_iff {kind : AttributeKind} {value : Json} :
    Constraint kind value ↔ match value with
      | .list items => ∀ item ∈ items, Operand kind item
      | .record entries => entries ≠ [] ∧ ∀ entry ∈ entries, Modifier kind entry.1 entry.2
      | single => Operand kind single := by
  constructor
  · rintro (operand | operands | ⟨nonempty, each⟩)
    · cases operand with
      | @scalar type value typed notList notRecord =>
        cases value with
        | list items => cases notList
        | record entries => cases notRecord
        | _ => exact .scalar typed notList notRecord
      | null => exact .null
      | textKey => exact .textKey
      | numberKey => exact .numberKey
    · exact operands
    · exact ⟨nonempty, each⟩
  · intro fits
    split at fits
    · exact .operands fits
    · exact .modifiers fits.1 fits.2
    · exact .operand fits

theorem exists_readConstraint_iff {value : Json} (isStored : storedAttribute model "where" name = .ok declared) :
    (∃ parts, readConstraint model name value = .ok parts) ↔ Constraint declared.kind value := by
  have goesOn (rest : Attribute → Except CriteriaFault (List Clause)) : (.ok declared >>= rest) = rest declared := rfl
  rw [constraint_iff, readConstraint, isStored, goesOn]
  cases value with
  | list items => exact exists_bind_pure_eq_ok_iff.trans exists_readOperands_iff
  | record entries =>
    cases entries with
    | nil => exact iff_of_false nofun fun fits => fits.1 rfl
    | cons entry rest =>
      refine Iff.trans ?_ (and_iff_right (List.cons_ne_nil entry rest)).symm
      exact exists_mapM_eq_ok_iff.trans (forall₂_congr fun _ _ =>
        exists_bind_pure_eq_ok_iff.trans exists_readModifier_iff)
  | _ => exact exists_bind_pure_eq_ok_iff.trans exists_readOperand_iff

/-! ## Reading accepts the grammar -/

theorem storedAttribute_eq_ok_iff {key : String} :
    storedAttribute model key name = .ok declared ↔
      model.attribute? name = some declared ∧ declared.hasColumn = true := by
  unfold storedAttribute
  split
  · next absent => simp [absent]
  · next found =>
    rw [found, Option.some.injEq]
    split
    · next column =>
      rw [Except.ok.injEq]
      exact ⟨fun same => ⟨same, same ▸ column⟩, And.left⟩
    · next plural =>
      refine iff_of_false nofun ?_
      rintro ⟨rfl, column⟩
      exact plural column

/-- An entry under the name of an attribute is grammatical exactly if the constraint is read. -/
theorem exists_readConstraint_iff_grammatical {value : Json} (plain : ¬(name = "and" ∨ name = "or")) :
    (∃ parts, readConstraint model name value = .ok parts) ↔ GrammaticalEntry model name value := by
  constructor
  · rintro ⟨parts, done⟩
    obtain ⟨declared, isStored, -⟩ := bind_eq_ok.mp (by simpa only [readConstraint] using done)
    obtain ⟨isDeclared, column⟩ := storedAttribute_eq_ok_iff.mp isStored
    exact .constrained plain isDeclared column ((exists_readConstraint_iff isStored).mp ⟨parts, done⟩)
  · intro entry
    cases entry with
    | connective known => exact absurd known plain
    | constrained plain isDeclared column constraint =>
      exact (exists_readConstraint_iff (storedAttribute_eq_ok_iff.mpr ⟨isDeclared, column⟩)).mpr constraint

/-- The entries of a dictionary are read if the first is and the others are. -/
theorem exists_readEntries_cons_iff {value : Json} {rest : List (String × Json)} :
    (∃ parts, readEntries model ((name, value) :: rest) = .ok parts) ↔
      (if name = "and" ∨ name = "or" then
        ∃ branches, value = .list branches ∧ branches ≠ [] ∧ ∃ parts, readBranches model branches = .ok parts
      else ∃ parts, readConstraint model name value = .ok parts) ∧ ∃ others, readEntries model rest = .ok others := by
  rw [readEntries.eq_def]
  dsimp only
  by_cases known : name = "and" ∨ name = "or"
  · rw [if_pos known, if_pos known]
    cases value with
    | list branches =>
      cases branches with
      | nil =>
        refine iff_of_false (not_exists.mpr fun _ isRead => by cases isRead) ?_
        rintro ⟨⟨_, ⟨⟩, nonempty, -⟩, -⟩
        exact nonempty rfl
      | cons branch others =>
        simp only [pure_bind, Json.list.injEq, exists_eq_left', ne_eq, List.cons_ne_nil, not_false_eq_true, true_and]
        exact exists_both_eq_ok_iff
    | _ =>
      refine iff_of_false (not_exists.mpr fun _ isRead => by cases isRead) ?_
      rintro ⟨⟨_, ⟨⟩, -⟩, -⟩
  · rw [if_neg known, if_neg known]
    exact exists_both_eq_ok_iff

mutual

theorem exists_read_iff (model : Model) (written : Json) :
    (∃ clause, read model written = .ok clause) ↔ Grammatical model written := by
  cases written with
  | record entries =>
    rw [read, exists_map_eq_ok_iff, exists_readEntries_iff]
    exact ⟨.dictionary, fun ⟨each⟩ => each⟩
  | _ => exact iff_of_false nofun nofun

theorem exists_readEntries_iff (model : Model) (entries : List (String × Json)) :
    (∃ parts, readEntries model entries = .ok parts) ↔
      ∀ entry ∈ entries, GrammaticalEntry model entry.1 entry.2 := by
  cases entries with
  | nil => exact iff_of_true ⟨_, rfl⟩ nofun
  | cons entry rest =>
    obtain ⟨name, value⟩ := entry
    rw [List.forall_mem_cons, exists_readEntries_cons_iff, exists_readEntries_iff]
    refine and_congr_left fun _ => ?_
    split
    · next known =>
      cases value with
      | list branches =>
        have nested := exists_readBranches_iff model branches
        constructor
        · rintro ⟨_, ⟨⟩, nonempty, done⟩
          exact .connective known nonempty (nested.mp done)
        · rintro (⟨_, nonempty, each⟩ | ⟨plain⟩)
          · exact ⟨branches, rfl, nonempty, nested.mpr each⟩
          · exact absurd known plain
      | _ =>
        refine iff_of_false (fun ⟨_, isList, _⟩ => nomatch isList) ?_
        rintro (_ | ⟨plain⟩)
        exact plain known
    · next plain => exact exists_readConstraint_iff_grammatical plain

theorem exists_readBranches_iff (model : Model) (branches : List Json) :
    (∃ parts, readBranches model branches = .ok parts) ↔ ∀ branch ∈ branches, Grammatical model branch := by
  cases branches with
  | nil => exact iff_of_true ⟨_, rfl⟩ nofun
  | cons branch rest =>
    rw [List.forall_mem_cons, ← exists_read_iff, ← exists_readBranches_iff, readBranches]
    exact exists_both_eq_ok_iff

end

/-- A value is accepted as a clause exactly if it is grammatical. Any other is refused as malformed criteria,
and so are, for every method, criteria with such a clause: they are never skipped, whatever else the clause
says. -/
theorem accepted_iff_grammatical (model : Model) (written : Json) :
    ((∃ clause, read model written = .ok clause) ↔ Grammatical model written) ∧
    (∀ error, Criteria.invalid (read model written) = .error error → error.code = "E_INVALID_CRITERIA") ∧
    ∀ method raw, RawCriteria.clause model.primaryKey raw = written → ¬Grammatical model written →
      ∃ error, Criteria.read model method raw = .error error ∧ error.code = "E_INVALID_CRITERIA" := by
  refine ⟨exists_read_iff model written, fun error refused => ?_, ?_⟩
  · obtain ⟨fault, -, rfl⟩ := mapError_eq_error.mp refused
    rfl
  · rintro method raw rfl ungrammatical
    by_cases shaped : Criteria.Shaped model method raw
    · rw [Criteria.read_of_shaped shaped]
      cases outcome : read model (RawCriteria.clause model.primaryKey raw) with
      | ok clause => exact absurd ((exists_read_iff model _).mp ⟨clause, outcome⟩) ungrammatical
      | error fault => exact ⟨_, rfl, rfl⟩
    · obtain ⟨details, refused⟩ := Criteria.read_of_not_shaped shaped
      exact ⟨_, refused, rfl⟩

/-- Nothing can be among no values, but a modifier that there is not is refused beside it too. -/
example : (read { identity := "user", datastore := "default", attributes := [("id", .ofType .number)] }
    (.record [("or", .list [.record [("and", .list [
      .record [("id", .list [])], .record [("id", .record [("near", .ofNat 1)])]])], .record []])])).isOk = false := by
  cbv

end Clause

end RecordMapper
