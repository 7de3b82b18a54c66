import RecordMapper.Proofs.Criteria.Raw
import RecordMapper.Proofs.Criteria.Simplification
import RecordMapper.Proofs.Model.Columns

/-! # The fields that criteria name

Criteria name fields in their clause, their order and their choice of what is shown. Renaming
succeeds when each of these names has another one. Criteria that were read against a model name
stored attributes only, in simple form as before.
-/

namespace RecordMapper

open Results

namespace Clause

/-! ## Renaming a clause -/

mutual

theorem exists_rename_iff {ε : Type} {name : String → Except ε String} (clause : Clause) :
    (∃ renamed, clause.rename name = .ok renamed) ↔
      ∀ predicate ∈ clause.predicates, ∃ other, name predicate.field = .ok other := by
  cases clause with
  | and parts =>
    simp only [rename, predicates, exists_map_eq_ok_iff, ← exists_renameParts_iff parts]
  | or parts =>
    simp only [rename, predicates, exists_map_eq_ok_iff, ← exists_renameParts_iff parts]
  | leaf predicate =>
    simp only [rename, predicates, exists_map_eq_ok_iff, List.mem_singleton, forall_eq]

theorem exists_renameParts_iff {ε : Type} {name : String → Except ε String} (parts : List Clause) :
    (∃ renamed, renameParts name parts = .ok renamed) ↔
      ∀ predicate ∈ predicatesOfParts parts, ∃ other, name predicate.field = .ok other := by
  cases parts with
  | nil => simp [renameParts, predicatesOfParts]
  | cons part rest =>
    simp only [renameParts, predicatesOfParts, List.forall_mem_append, bind_eq_ok, pure_eq_ok,
      ← exists_rename_iff part, ← exists_renameParts_iff rest]
    constructor
    · rintro ⟨_, first, here, others, there, -⟩
      exact ⟨⟨first, here⟩, others, there⟩
    · rintro ⟨⟨first, here⟩, others, there⟩
      exact ⟨_, first, here, others, there, rfl⟩

end

/-! ## Reading a clause -/

theorem storedAttribute_eq_ok {model : Model} {key name : String} {declared : Attribute}
    (done : storedAttribute model key name = .ok declared) :
    model.attribute? name = some declared ∧ name ∈ Dictionary.names model.stored := by
  unfold storedAttribute at done
  split at done
  · cases done
  · next found =>
    split at done
    · next column =>
      obtain rfl := Except.ok.inj done
      exact ⟨found, Model.mem_stored_of_attribute? found column⟩
    · cases done

theorem readConstraint_fields {model : Model} {name : String} {value : Json} {parts : List Clause}
    (done : readConstraint model name value = .ok parts) :
    name ∈ Dictionary.names model.stored ∧ ∀ part ∈ parts, ∃ test, part = .leaf ⟨name, test⟩ := by
  unfold readConstraint at done
  obtain ⟨declared, found, done⟩ := bind_eq_ok.mp done
  refine ⟨(storedAttribute_eq_ok found).2, ?_⟩
  split at done
  · obtain ⟨operands, -, done⟩ := bind_eq_ok.mp done
    obtain rfl := pure_eq_ok.mp done
    simp
  · cases done
  · intro part member
    have steps := mapM_eq_ok.mp done
    obtain ⟨modifier, -, step⟩ := List.mem_map.mp (steps ▸ List.mem_map_of_mem member)
    obtain ⟨test, -, same⟩ := bind_eq_ok.mp step
    exact ⟨test, (pure_eq_ok.mp same).symm⟩
  · obtain ⟨operand, -, done⟩ := bind_eq_ok.mp done
    obtain rfl := pure_eq_ok.mp done
    simp

/-- What an entry brings into a conjunction: a conjunction or disjunction of the clauses in a list,
or what its attribute has to be. -/
theorem readEntries_cons_eq_ok {model : Model} {name : String} {value : Json}
    {rest : List (String × Json)} {parts : List Clause}
    (done : readEntries model ((name, value) :: rest) = .ok parts) :
    ∃ first others, parts = first ++ others ∧ readEntries model rest = .ok others ∧
      ((∃ branches branchParts, value = .list branches ∧ readBranches model branches = .ok branchParts ∧
          (name = "and" ∧ first = [.and branchParts] ∨ name = "or" ∧ first = [.or branchParts])) ∨
        (name ≠ "and" ∧ name ≠ "or" ∧ readConstraint model name value = .ok first)) := by
  rw [readEntries.eq_def] at done
  dsimp only at done
  split at done
  · next connective =>
    split at done
    · next branch branches =>
      obtain ⟨branchParts, read, done⟩ := bind_eq_ok.mp done
      obtain ⟨first, here, done⟩ := bind_eq_ok.mp done
      obtain ⟨others, there, done⟩ := bind_eq_ok.mp done
      obtain rfl := pure_eq_ok.mp done
      obtain rfl := pure_eq_ok.mp here
      refine ⟨_, others, rfl, there, .inl ⟨_, branchParts, rfl, read, ?_⟩⟩
      rcases connective with rfl | rfl
      · exact .inl ⟨rfl, rfl⟩
      · exact .inr ⟨rfl, rfl⟩
    · cases done
  · next plain =>
    obtain ⟨first, here, done⟩ := bind_eq_ok.mp done
    obtain ⟨others, there, done⟩ := bind_eq_ok.mp done
    obtain rfl := pure_eq_ok.mp done
    exact ⟨first, others, rfl, there, .inr ⟨fun same => plain (.inl same),
      fun same => plain (.inr same), here⟩⟩

theorem predicatesOfParts_leaves {parts : List Clause} {name : String}
    (leaves : ∀ part ∈ parts, ∃ test, part = .leaf ⟨name, test⟩) :
    ∀ predicate ∈ predicatesOfParts parts, predicate.field = name := by
  induction parts with
  | nil => simp [predicatesOfParts]
  | cons part rest ih =>
    obtain ⟨⟨test, rfl⟩, later⟩ := List.forall_mem_cons.mp leaves
    intro predicate member
    rcases List.mem_append.mp member with here | there
    · rw [List.mem_singleton.mp here]
    · exact ih later predicate there

mutual

theorem read_fields {model : Model} {raw : Json} {clause : Clause}
    (done : read model raw = .ok clause) :
    ∀ predicate ∈ clause.predicates, predicate.field ∈ Dictionary.names model.stored := by
  cases raw with
  | record entries =>
    obtain ⟨parts, found, rfl⟩ := map_eq_ok.mp (by simpa only [read] using done)
    rw [predicates_collapse .and (fun _ => rfl)]
    exact readEntries_fields found
  | _ => cases done

theorem readEntries_fields {model : Model} {entries : List (String × Json)} {parts : List Clause}
    (done : readEntries model entries = .ok parts) :
    ∀ predicate ∈ predicatesOfParts parts, predicate.field ∈ Dictionary.names model.stored := by
  cases entries with
  | nil =>
    obtain rfl := Except.ok.inj done
    simp [predicatesOfParts]
  | cons entry rest =>
    obtain ⟨name, value⟩ := entry
    have nested {branches : List Json} {branchParts : List Clause} (isList : value = .list branches)
        (read : readBranches model branches = .ok branchParts) :
        ∀ predicate ∈ predicatesOfParts branchParts, predicate.field ∈ Dictionary.names model.stored := by
      cases value with
      | list items =>
        obtain rfl := Json.list.inj isList
        exact readBranches_fields read
      | _ => cases isList
    obtain ⟨first, others, rfl, there, here⟩ := readEntries_cons_eq_ok done
    intro predicate member
    rw [predicatesOfParts_append, List.mem_append] at member
    rcases member with member | later
    · rcases here with ⟨branches, branchParts, isList, read, connective⟩ | ⟨-, -, read⟩
      · rcases connective with ⟨-, rfl⟩ | ⟨-, rfl⟩
        all_goals
          simp only [predicatesOfParts, predicates, List.append_nil] at member
          exact nested isList read predicate member
      · obtain ⟨stored, leaves⟩ := readConstraint_fields read
        rw [predicatesOfParts_leaves leaves predicate member]
        exact stored
    · exact readEntries_fields there predicate later

theorem readBranches_fields {model : Model} {branches : List Json} {parts : List Clause}
    (done : readBranches model branches = .ok parts) :
    ∀ predicate ∈ predicatesOfParts parts, predicate.field ∈ Dictionary.names model.stored := by
  cases branches with
  | nil =>
    obtain rfl := Except.ok.inj done
    simp [predicatesOfParts]
  | cons branch rest =>
    simp only [readBranches] at done
    obtain ⟨part, here, done⟩ := bind_eq_ok.mp done
    obtain ⟨others, there, done⟩ := bind_eq_ok.mp done
    obtain rfl := pure_eq_ok.mp done
    intro predicate member
    rcases List.mem_append.mp member with first | later
    · exact read_fields here predicate first
    · exact readBranches_fields there predicate later

end

end Clause

namespace SortTerm

theorem ofWords_fields {model : Model} {name word : String} {term : SortTerm}
    (done : ofWords model name word = .ok term) : term.field ∈ Dictionary.names model.stored := by
  unfold ofWords at done
  obtain ⟨declared, found, done⟩ := bind_eq_ok.mp done
  split at done
  · obtain rfl := pure_eq_ok.mp done
    exact (Clause.storedAttribute_eq_ok found).2
  · cases done

theorem readItem_fields {model : Model} {raw : Json} {terms : List SortTerm}
    (done : readItem model raw = .ok terms) :
    ∀ term ∈ terms, term.field ∈ Dictionary.names model.stored := by
  have single {name word : String} (done : (ofWords model name word).map ([·]) = .ok terms) :
      ∀ term ∈ terms, term.field ∈ Dictionary.names model.stored := by
    obtain ⟨term, found, rfl⟩ := map_eq_ok.mp done
    intro other member
    rw [List.mem_singleton.mp member]
    exact ofWords_fields found
  unfold readItem at done
  split at done
  · split at done
    · exact single done
    · exact single done
    · cases done
  · obtain rfl := Except.ok.inj done
    simp
  · exact single done
  all_goals cases done

theorem read_fields {model : Model} {raw : Json} {terms : List SortTerm}
    (done : read model raw = .ok terms) :
    ∀ term ∈ terms, term.field ∈ Dictionary.names model.stored := by
  unfold read at done
  split at done
  · obtain ⟨lists, found, done⟩ := bind_eq_ok.mp done
    obtain rfl := pure_eq_ok.mp done
    intro term member
    obtain ⟨list, isList, inList⟩ := List.mem_flatten.mp member
    obtain ⟨item, -, step⟩ := List.mem_map.mp (mapM_eq_ok.mp found ▸ List.mem_map_of_mem isList)
    split at step
    · cases step
    · exact readItem_fields step term inList
  · exact readItem_fields done

end SortTerm

namespace Criteria

/-- All names that criteria use. -/
def fields (criteria : Criteria) : List String :=
  criteria.clause.predicates.map Predicate.field ++ criteria.sort.map SortTerm.field ++
    criteria.selection.getD [] ++ criteria.omission

/-- Renaming works part by part. -/
theorem rename_eq_ok {ε : Type} {name : String → Except ε String} {criteria renamed : Criteria} :
    criteria.rename name = .ok renamed ↔
      criteria.clause.rename name = .ok renamed.clause ∧
      (criteria.sort.mapM fun term => (name term.field).map fun field => { term with field }) =
        .ok renamed.sort ∧
      (match criteria.selection with
        | some fields => (fields.mapM name).map some
        | none => .ok none) = .ok renamed.selection ∧
      criteria.omission.mapM name = .ok renamed.omission ∧
      renamed.limit = criteria.limit ∧ renamed.skip = criteria.skip := by
  unfold rename
  constructor
  · intro done
    obtain ⟨clause, clauseDone, done⟩ := bind_eq_ok.mp done
    obtain ⟨sort, sortDone, done⟩ := bind_eq_ok.mp done
    cases shown : criteria.selection
    all_goals
      simp only [shown] at done
      obtain ⟨selection, selectionDone, done⟩ := bind_eq_ok.mp done
      obtain ⟨omission, omissionDone, done⟩ := bind_eq_ok.mp done
      obtain rfl := pure_eq_ok.mp done
      exact ⟨clauseDone, sortDone, selectionDone, omissionDone, rfl, rfl⟩
  · rintro ⟨clauseDone, sortDone, selectionDone, omissionDone, limit, skip⟩
    refine bind_eq_ok.mpr ⟨_, clauseDone, bind_eq_ok.mpr ⟨_, sortDone, ?_⟩⟩
    cases shown : criteria.selection
    all_goals
      simp only [shown] at selectionDone ⊢
      refine bind_eq_ok.mpr ⟨_, selectionDone, bind_eq_ok.mpr ⟨_, omissionDone, ?_⟩⟩
      rw [← limit, ← skip]
      rfl

theorem exists_rename_iff {ε : Type} {name : String → Except ε String} (criteria : Criteria) :
    (∃ renamed, criteria.rename name = .ok renamed) ↔
      ∀ field ∈ criteria.fields, ∃ other, name field = .ok other := by
  have sorts : (∃ terms, criteria.sort.mapM (fun term =>
      (name term.field).map fun field => { term with field }) = .ok terms) ↔
      ∀ field ∈ criteria.sort.map SortTerm.field, ∃ other, name field = .ok other := by
    simp only [exists_mapM_eq_ok_iff, exists_map_eq_ok_iff, List.forall_mem_map]
  have selections : (∃ selection, (match criteria.selection with
        | some fields => (fields.mapM name).map some
        | none => .ok none) = Except.ok selection) ↔
      ∀ field ∈ criteria.selection.getD [], ∃ other, name field = .ok other := by
    cases criteria.selection with
    | none => simp
    | some names => simp only [exists_map_eq_ok_iff, exists_mapM_eq_ok_iff, Option.getD_some]
  have clauses : (∃ clause, criteria.clause.rename name = .ok clause) ↔
      ∀ field ∈ criteria.clause.predicates.map Predicate.field, ∃ other, name field = .ok other := by
    simp only [Clause.exists_rename_iff, List.forall_mem_map]
  simp only [fields, List.forall_mem_append, ← clauses, ← sorts, ← selections]
  constructor
  · rintro ⟨renamed, done⟩
    obtain ⟨clause, sort, selection, omission, -, -⟩ := rename_eq_ok.mp done
    exact ⟨⟨⟨⟨_, clause⟩, _, sort⟩, _, selection⟩, exists_mapM_eq_ok_iff.mp ⟨_, omission⟩⟩
  · rintro ⟨⟨⟨⟨clause, clauseDone⟩, sort, sortDone⟩, selection, selectionDone⟩, omissions⟩
    obtain ⟨omission, omissionDone⟩ := exists_mapM_eq_ok_iff.mpr omissions
    exact ⟨{ criteria with clause, sort, selection, omission },
      rename_eq_ok.mpr ⟨clauseDone, sortDone, selectionDone, omissionDone, rfl, rfl⟩⟩

theorem readSelection_fields {model : Model} {raw : Json} {selection : Option (List String)}
    (key : model.primaryKey ∈ Dictionary.names model.stored)
    (done : readSelection model raw = .ok selection) :
    ∀ name ∈ selection.getD [], name ∈ Dictionary.names model.stored := by
  unfold readSelection at done
  obtain ⟨names, -, done⟩ := bind_eq_ok.mp done
  split at done
  · split at done
    · cases done
    · obtain rfl := pure_eq_ok.mp done
      simp
  · obtain ⟨⟨⟩, checked, done⟩ := bind_eq_ok.mp done
    have stored : ∀ name ∈ names, name ∈ Dictionary.names model.stored := by
      intro name member
      obtain ⟨declared, found, -⟩ := map_eq_ok.mp (forM_eq_ok.mp checked name member)
      exact (Clause.storedAttribute_eq_ok found).2
    obtain rfl := pure_eq_ok.mp done
    intro name member
    simp only [Option.getD_some] at member
    split at member
    · exact stored name member
    · rcases List.mem_cons.mp member with rfl | member
      · exact key
      · exact stored name member

theorem readOmission_fields {model : Model} {raw : Json} {omission : List String}
    (done : readOmission model raw = .ok omission) :
    ∀ name ∈ omission, name ∈ Dictionary.names model.stored := by
  unfold readOmission at done
  obtain ⟨names, -, done⟩ := bind_eq_ok.mp done
  obtain ⟨⟨⟩, checked, done⟩ := bind_eq_ok.mp done
  obtain rfl := pure_eq_ok.mp done
  intro name member
  obtain ⟨declared, found, -⟩ := bind_eq_ok.mp (forM_eq_ok.mp checked name member)
  exact (Clause.storedAttribute_eq_ok found).2

theorem readKey_eq_ok {α : Type} {entries : Record} {key : String}
    {read : Json → Except CriteriaFault α} {default value : α}
    (done : readKey entries key read default = .ok value) :
    value = default ∨ ∃ raw, read raw = .ok value := by
  unfold readKey at done
  split at done
  · exact .inr ⟨_, done⟩
  · exact .inl (Except.ok.inj done).symm

/-- Criteria that were read name stored attributes only. -/
theorem fields_of_read {model : Model} {method : Method} {raw : Option Json} {criteria : Criteria}
    (key : model.primaryKey ∈ Dictionary.names model.stored)
    (done : read model method raw = .ok criteria) :
    ∀ field ∈ criteria.fields, field ∈ Dictionary.names model.stored := by
  have parts := readFrom_of_read done
  obtain ⟨written, clauseRead, simplified⟩ := parts.clause
  simp only [fields, List.forall_mem_append, List.forall_mem_map]
  refine ⟨⟨⟨?_, ?_⟩, ?_⟩, ?_⟩
  · intro predicate member
    exact Clause.read_fields clauseRead predicate (Clause.predicates_simplify simplified predicate member)
  · rcases readKey_eq_ok parts.sort with default | ⟨_, sortRead⟩
    · simp [default]
    · exact SortTerm.read_fields sortRead
  · rcases readKey_eq_ok parts.selection with default | ⟨_, selectionRead⟩
    · simp [default]
    · exact readSelection_fields key selectionRead
  · rcases readKey_eq_ok parts.omission with default | ⟨_, omissionRead⟩
    · simp [default]
    · exact readOmission_fields omissionRead

end Criteria

end RecordMapper
