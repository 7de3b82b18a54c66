import RecordMapper.Proofs.Criteria.Renaming
import RecordMapper.Proofs.Json.Equality
import RecordMapper.Proofs.Query.Lowering
import RecordMapper.Store.Reading

/-! # Criteria for records that refer to a key

Of the records that criteria mean, `Criteria.referring` means those that hold a key under an attribute. It is
what a join of a plural association asks for, and `RawCriteria.referring` is how a caller writes it.
-/

namespace RecordMapper

open Results

namespace Criteria

/-- Criteria for those of the meant records that hold a key under an attribute, which is shown. -/
def referring (criteria : Criteria) (via : String) (key : Json) : Criteria :=
  { LogicalQuery.showing via criteria with
    clause := Clause.collapse .and (.leaf ⟨via, .equals key⟩ :: criteria.clause.conjuncts) }

theorem referring_eq (criteria : Criteria) (via : String) (key : Json) :
    criteria.referring via key = { criteria with
      clause := Clause.collapse .and (.leaf ⟨via, .equals key⟩ :: criteria.clause.conjuncts)
      selection := (LogicalQuery.showing via criteria).selection } := by
  rw [referring, LogicalQuery.showing_eq]

/-- Criteria for the record with a key. -/
def ofKey (primaryKey : String) (key : Json) : Criteria where
  clause := .leaf ⟨primaryKey, .equals key⟩
  limit := some 1

end Criteria

/-! ## In terms of columns -/

variable {ε : Type} {name : String → Except ε String}

namespace Clause

theorem rename_conjuncts {clause renamed : Clause} (done : clause.rename name = .ok renamed) :
    renameParts name clause.conjuncts = .ok renamed.conjuncts := by
  have single {clause renamed : Clause} (done : clause.rename name = .ok renamed) :
      renameParts name [clause] = .ok [renamed] := by
    rw [renameParts, done]
    rfl
  cases clause with
  | and parts =>
    obtain ⟨others, renamedParts, rfl⟩ := map_eq_ok.mp done
    exact renamedParts
  | or parts =>
    obtain ⟨others, -, rfl⟩ := map_eq_ok.mp done
    exact single done
  | leaf predicate =>
    obtain ⟨field, -, rfl⟩ := map_eq_ok.mp done
    exact single done

theorem rename_collapse_and {parts others : List Clause} (done : renameParts name parts = .ok others) :
    (collapse .and parts).rename name = .ok (collapse .and others) := by
  have every : (Clause.and parts).rename name = .ok (.and others) := by
    rw [rename, done]
    rfl
  match parts, done, every with
  | [], done, every =>
    obtain rfl := Except.ok.inj done
    exact every
  | [only], done, _ =>
    obtain ⟨other, here, done⟩ := bind_eq_ok.mp done
    obtain ⟨_, none, done⟩ := bind_eq_ok.mp done
    obtain rfl := Except.ok.inj none
    obtain rfl := pure_eq_ok.mp done
    exact here
  | first :: second :: rest, done, every =>
    obtain ⟨_, -, done⟩ := bind_eq_ok.mp done
    obtain ⟨_, there, done⟩ := bind_eq_ok.mp done
    obtain ⟨_, -, there⟩ := bind_eq_ok.mp there
    obtain ⟨_, -, there⟩ := bind_eq_ok.mp there
    obtain rfl := pure_eq_ok.mp there
    obtain rfl := pure_eq_ok.mp done
    exact every

/-- Holding a key besides matching a clause. -/
theorem accepts_referring (record : Record) (field : String) (key : Json) (clause : Clause) :
    accepts record (collapse .and (.leaf ⟨field, .equals key⟩ :: clause.conjuncts)) =
      accepts record (.and [.leaf ⟨field, .equals key⟩, clause]) := by
  rw [accepts_collapse_and, accepts, acceptsEvery, acceptsEvery_conjuncts, acceptsEvery, acceptsEvery, acceptsEvery,
    Bool.and_true]

end Clause

namespace Criteria

/-- Criteria whose clauses match the same records, and that agree in all else, select the same. -/
theorem select_congr {criteria : Criteria} {clause : Clause}
    (same : ∀ record, clause.accepts record = criteria.clause.accepts record) (records : List Record) :
    ({ criteria with clause } : Criteria).select records = criteria.select records := by
  rw [select, select, List.filter_congr fun record _ => same record]

/-- The criteria of a join of a plural association, asked for the rows that refer to a key. -/
theorem rename_referring {criteria renamed : Criteria} {via column : String}
    (done : (LogicalQuery.showing via criteria).rename name = .ok renamed) (refers : name via = .ok column)
    (key : Json) :
    (criteria.referring via key).rename name = .ok { renamed with
      clause := Clause.collapse .and (.leaf ⟨column, .equals key⟩ :: renamed.clause.conjuncts) } := by
  obtain ⟨clause, sort, selection, omission, limit, skip⟩ := rename_eq_ok.mp done
  rw [LogicalQuery.showing_eq] at clause
  refine rename_eq_ok.mpr ⟨Clause.rename_collapse_and ?_, sort, selection, omission, limit, skip⟩
  rw [Clause.renameParts, Clause.rename, refers, Clause.rename_conjuncts clause]
  rfl

/-- The criteria for a key, asked of the column of the key. -/
theorem rename_ofKey {primaryKey column : String} (found : name primaryKey = .ok column) (key : Json) :
    (ofKey primaryKey key).rename name = .ok (ofKey column key) := by
  refine rename_eq_ok.mpr ⟨?_, rfl, rfl, rfl, rfl, rfl⟩
  rw [ofKey, Clause.rename, found]
  rfl

/-- What a join of a plural association selects for a key. -/
theorem select_restricted (join : Join) (criteria : Criteria) (key : Json) (rows : List Record) :
    ({ criteria with clause := Clause.collapse .and (.leaf ⟨join.childKey, .equals key⟩ ::
      criteria.clause.conjuncts) } : Criteria).select rows = (join.restricted criteria key).select rows :=
  @select_congr (join.restricted criteria key) _
    (fun record => Clause.accepts_referring record join.childKey key criteria.clause) rows

/-- The criteria for a key select the first row that holds it. -/
theorem select_ofKey (column : String) {key : Json} (notNull : key.isNull = false) (rows : List Record) :
    (ofKey column key).select rows = (rows.find? fun row =>
      match Dictionary.get? row column with
      | some value => value.same key
      | none => false).toList := by
  have same (row : Record) : (ofKey column key).clause.accepts row =
      match Dictionary.get? row column with
      | some value => value.same key
      | none => false := by
    change (Record.read row column).same key = _
    rw [Record.read]
    cases Dictionary.get? row column with
    | some value => rfl
    | none =>
      rw [Option.getD_none, Bool.eq_false_iff]
      intro isSame
      have isNull := Json.isNull_of_same isSame
      rw [notNull] at isNull
      cases isNull
  rw [select, List.filter_congr fun row _ => same row]
  change ((SortTerm.arrange [] (rows.filter _)).drop 0).take 1 = _
  rw [SortTerm.arrange_nil, List.drop_zero, List.take_one, List.head?_filter]

end Criteria

/-! ## As a caller writes them -/

namespace RawCriteria

/-- A list of names with one more, unless it stands for all names. -/
def alsoListing (name : String) : Json → Json
  | .list items => if lists (.list items) "*" then .list items else .list (items ++ [.text name])
  | other => other

/-- Raw criteria for those of the meant records that hold a key under an attribute, which is shown. -/
def referring (primaryKey via : String) (key : Json) (raw : Option Json) : Json :=
  let known := (entries raw).filter fun entry => Criteria.topLevelKeys.contains entry.1
  let shown :=
    match part raw "select" with
    | some names => Dictionary.insert known "select" (alsoListing via names)
    | none => known
  .record (Dictionary.insert shown "where" (.record [("and", .list [.record [(via, key)], clause primaryKey raw])]))

/-- Raw criteria for the record with a key. -/
def ofKey (primaryKey : String) (key : Json) : Json :=
  .record [("limit", .ofNat 1), ("where", .record [(primaryKey, key)])]

/-- What stands under a top-level key of raw criteria that ask for a key. -/
theorem part_referring (primaryKey via : String) (key : Json) (raw : Option Json) {name : String}
    (isTop : name ∈ Criteria.topLevelKeys) :
    part (some (referring primaryKey via key raw)) name =
      if name = "where" then some (.record [("and", .list [.record [(via, key)], clause primaryKey raw])])
      else if name = "select" then (part raw name).map (alsoListing via) else part raw name := by
  have known := get?_known (entries raw) isTop
  unfold referring
  change Dictionary.get? (Dictionary.insert _ _ _) name = _
  rw [Dictionary.get?_insert]
  by_cases isWhere : name = "where"
  · rw [if_pos isWhere.symm, if_pos isWhere]
  · rw [if_neg (Ne.symm isWhere), if_neg isWhere]
    cases selected : part raw "select" with
    | none =>
      rw [known]
      split
      · next isSelect => rw [isSelect, selected]; exact selected
      · rfl
    | some names =>
      dsimp only
      rw [Dictionary.get?_insert]
      by_cases isSelect : name = "select"
      · rw [if_pos isSelect.symm, if_pos isSelect, isSelect, selected, Option.map_some]
      · rw [if_neg (Ne.symm isSelect), if_neg isSelect, known]
        rfl

theorem isTop_of_referring {primaryKey via : String} {key : Json} {raw : Option Json} {name : String}
    (present : name ∈ Dictionary.names (entries (some (referring primaryKey via key raw)))) :
    name ∈ Criteria.topLevelKeys := by
  have known {name : String} (member : name ∈ Dictionary.names
      ((entries raw).filter fun entry => Criteria.topLevelKeys.contains entry.1)) :
      name ∈ Criteria.topLevelKeys := by
    obtain ⟨entry, kept, rfl⟩ := List.mem_map.mp member
    exact List.contains_iff_mem.mp (List.mem_filter.mp kept).2
  rcases Dictionary.mem_names_insert.mp present with rfl | shown
  · decide
  · split at shown
    · rcases Dictionary.mem_names_insert.mp shown with rfl | member
      · decide
      · exact known member
    · exact known shown

/-- The names of attributes that mean something else in raw criteria. -/
def reserved : List String :=
  ["and", "or", "*"]

/-- Whether raw criteria can compare an attribute of a model with a key. -/
def Comparable (model : Model) (name : String) (key : Json) : Prop :=
  name ∉ reserved ∧ ∃ kind, model.kind? name = some kind ∧ Clause.isOperand kind key = true

end RawCriteria

open RawCriteria

/-- One more name is read from a list that has it at its end. -/
theorem Criteria.readNames_append {key name : String} {items : List Json} {names : List String}
    (done : readNames key (.list items) = .ok names) :
    readNames key (.list (items ++ [.text name])) =
      .ok (if names.contains name then names else names ++ [name]) := by
  obtain ⟨all, each, same⟩ := bind_eq_ok.mp done
  obtain rfl := pure_eq_ok.mp same
  unfold readNames
  dsimp only
  rw [List.mapM_append]
  refine bind_eq_ok.mpr ⟨all ++ [name], bind_eq_ok.mpr ⟨all, each, rfl⟩, pure_eq_ok.mpr ?_⟩
  rw [List.eraseDups_append]
  by_cases member : name ∈ all
  · simp [List.removeAll, member]
  · have single : [name].eraseDups = [name] := rfl
    simp [List.removeAll, member, single]

theorem LogicalQuery.selection_showing (name : String) (criteria : Criteria) :
    (showing name criteria).selection =
      criteria.selection.map fun names => if names.contains name then names else names ++ [name] := by
  unfold showing
  split
  · next selected =>
    rw [selected, Option.map_some]
    split
    · exact selected
    · rfl
  · next everything => rw [everything, Option.map_none]

section

variable {ε : Type} {rename : String → Except ε String} {criteria renamed : Criteria}

/-- The columns that renamed criteria select are those of attributes. -/
theorem Criteria.exists_of_mem_selection (done : criteria.rename rename = .ok renamed) {columns : List String}
    (selected : renamed.selection = some columns) : ∀ column ∈ columns, ∃ name, rename name = .ok column := by
  obtain ⟨-, -, selection, -⟩ := rename_eq_ok.mp done
  rw [selected] at selection
  split at selection
  · obtain ⟨columns, each, same⟩ := map_eq_ok.mp selection
    obtain rfl := Option.some.inj same
    intro column member
    obtain ⟨name, -, step⟩ := (mem_mapM_iff each).mp member
    exact ⟨name, step⟩
  · cases selection

/-- Criteria that show one more attribute select the same rows, and show its column besides the others. -/
theorem Criteria.exists_rename_showing (done : criteria.rename rename = .ok renamed) {name shown : String}
    (isColumn : rename name = .ok shown) :
    ∃ other, (LogicalQuery.showing name criteria).rename rename = .ok other ∧
      (∀ rows, other.select rows = renamed.select rows) ∧
      ∀ column, selects other.selection column = (selects renamed.selection column || column == shown) := by
  obtain ⟨clause, sort, selection, omission, limit, skip⟩ := rename_eq_ok.mp done
  rw [LogicalQuery.showing_eq, LogicalQuery.selection_showing]
  cases chosen : criteria.selection with
  | none =>
    rw [chosen] at selection
    refine ⟨renamed, rename_eq_ok.mpr ⟨clause, sort, selection, omission, limit, skip⟩, fun _ => rfl, fun _ => ?_⟩
    rw [← Except.ok.inj selection]
    rfl
  | some names =>
    rw [chosen] at selection
    obtain ⟨columns, each, same⟩ := map_eq_ok.mp selection
    rw [← same, Option.map_some]
    split
    · next isNamed =>
      refine ⟨renamed, rename_eq_ok.mpr ⟨clause, sort, selection, omission, limit, skip⟩, fun _ => rfl,
        fun column => ?_⟩
      have isShown : shown ∈ columns :=
        (mem_mapM_iff each).mpr ⟨name, List.contains_iff_mem.mp isNamed, isColumn⟩
      by_cases here : column = shown
      · simp [← same, selects, here, isShown]
      · simp [← same, here]
    · have longer : (names ++ [name]).mapM rename = .ok (columns ++ [shown]) := by
        rw [List.mapM_append, each]
        refine bind_eq_ok.mpr ⟨columns, rfl, bind_eq_ok.mpr ⟨[shown], ?_, rfl⟩⟩
        exact bind_eq_ok.mpr ⟨shown, isColumn, rfl⟩
      refine ⟨{ renamed with selection := some (columns ++ [shown]) }, rename_eq_ok.mpr ⟨clause, sort,
        map_eq_ok.mpr ⟨_, longer, rfl⟩, omission, limit, skip⟩, fun _ => rfl, fun column => ?_⟩
      simp [selects, Bool.beq_eq_decide_eq]

end

/-- The selection of criteria, with one more attribute. -/
theorem Criteria.readSelection_alsoListing {model : Model} {raw : Json} {criteria : Criteria} {via : String}
    (done : readSelection model raw = .ok criteria.selection) {declared : Attribute}
    (stored : Clause.storedAttribute model "select" via = .ok declared) (notKey : via ≠ model.primaryKey)
    (notStar : via ≠ "*") :
    readSelection model (alsoListing via raw) = .ok (LogicalQuery.showing via criteria).selection := by
  obtain ⟨names, isNames, chosen⟩ := bind_eq_ok.mp done
  have star := mem_readNames isNames "*"
  rw [LogicalQuery.selection_showing]
  cases raw with
  | list items =>
    split at chosen
    · next all =>
      split at chosen
      · cases chosen
      · rw [alsoListing, if_pos (star.mp (List.contains_iff_mem.mp all)), done, ← pure_eq_ok.mp chosen]
        rfl
    · next notAll =>
      obtain ⟨⟨⟩, checked, chosen⟩ := bind_eq_ok.mp chosen
      have absent : "*" ∉ names := fun member => notAll (List.contains_iff_mem.mpr member)
      rw [alsoListing, if_neg (fun listed => absent (star.mpr listed)), ← pure_eq_ok.mp chosen, Option.map_some]
      refine bind_eq_ok.mpr ⟨_, readNames_append isNames, ?_⟩
      by_cases member : names.contains via = true
      · rw [if_pos member, if_neg notAll]
        refine bind_eq_ok.mpr ⟨(), checked, pure_eq_ok.mpr (congrArg some ?_)⟩
        have shown : (if names.contains model.primaryKey then names else model.primaryKey :: names).contains via =
            true := by
          split
          · exact member
          · rw [List.contains_cons, member, Bool.or_true]
        rw [if_pos shown]
      · have starless : ¬(names ++ [via]).contains "*" = true := by
          simp [absent, Ne.symm notStar]
        have primary : (names ++ [via]).contains model.primaryKey = names.contains model.primaryKey := by
          simp [Ne.symm notKey]
        have hidden : ¬(if names.contains model.primaryKey then names else model.primaryKey :: names).contains via =
            true := by
          split
          · exact member
          · rwa [List.contains_cons, beq_eq_false_iff_ne.mpr notKey, Bool.false_or]
        rw [if_neg member, if_neg starless]
        refine bind_eq_ok.mpr ⟨(), forM_eq_ok.mpr fun name isName => ?_, pure_eq_ok.mpr (congrArg some ?_)⟩
        · rcases List.mem_append.mp isName with isName | isVia
          · exact forM_eq_ok.mp checked name isName
          · rw [List.mem_singleton.mp isVia, stored]
            rfl
        · rw [if_neg hidden, primary]
          split <;> rfl
  | _ => cases isNames

namespace Clause

variable {model : Model} {name : String} {key : Json}

/-- An attribute that can be compared with a key is stored. -/
theorem storedAttribute_of_comparable (comparable : Comparable model name key) (notNull : key.isNull = false) :
    ∃ declared, isOperand declared.kind key = true ∧ ∀ part, storedAttribute model part name = .ok declared := by
  obtain ⟨-, kind, isKind, operand⟩ := comparable
  obtain ⟨declared, isDeclared, rfl⟩ := Option.map_eq_some_iff.mp isKind
  refine ⟨declared, operand, fun part => ?_⟩
  have column : declared.hasColumn = true := by
    refine Attribute.hasColumn_iff.mpr fun target via isCollection => ?_
    simp [isOperand, isCollection, notNull] at operand
  rw [storedAttribute, isDeclared]
  dsimp only
  rw [if_pos column]

/-- A dictionary of one attribute and a key. -/
theorem read_equals (comparable : Comparable model name key) (notNull : key.isNull = false) :
    read model (.record [(name, key)]) = .ok (.leaf ⟨name, .equals key⟩) := by
  obtain ⟨declared, operand, stored⟩ := storedAttribute_of_comparable comparable notNull
  have constraint : readConstraint model name key = .ok [.leaf ⟨name, .equals key⟩] := by
    unfold readConstraint
    refine bind_eq_ok.mpr ⟨declared, stored "where", ?_⟩
    have isRead : readOperand name declared key = .ok key := by
      rw [readOperand, if_pos operand]
    cases key with
    | list | record => simp [isOperand, Json.isList, Json.isRecord] at operand
    | null | bool | number | text => exact bind_eq_ok.mpr ⟨_, isRead, rfl⟩
  have plain : ¬(name = "and" ∨ name = "or") := by
    rintro (rfl | rfl) <;> exact comparable.1 (by decide)
  rw [read, readEntries.eq_def]
  dsimp only
  rw [if_neg plain, constraint, readEntries]
  rfl

/-- A clause together with a key that an attribute has to hold. -/
theorem read_referring {raw : Json} {written simple : Clause} (done : read model raw = .ok written)
    (simplified : written.simplify = some simple) (comparable : Comparable model name key)
    (notNull : key.isNull = false) :
    ∃ clause, read model (.record [("and", .list [.record [(name, key)], raw])]) = .ok clause ∧
      clause.simplify = some (collapse .and (.leaf ⟨name, .equals key⟩ :: simple.conjuncts)) := by
  refine ⟨.and [.leaf ⟨name, .equals key⟩, written], ?_, ?_⟩
  · rw [read, readEntries, if_pos (.inl rfl)]
    simp only [readBranches, read_equals comparable notNull, done, readEntries]
    rfl
  · have leaf : (Clause.leaf ⟨name, .equals key⟩).simplify = some (.leaf ⟨name, .equals key⟩) := rfl
    rw [simplify, simplifyEvery, leaf, simplifyEvery, simplified, simplifyEvery]
    simp [conjuncts]

end Clause

namespace Criteria

variable {model : Model} {key : Json}

/-- The record with a key is asked for as a caller writes it. -/
theorem read_ofKey (comparable : Comparable model model.primaryKey key) (notNull : key.isNull = false) :
    read model .find (some (RawCriteria.ofKey model.primaryKey key)) = .ok (ofKey model.primaryKey key) :=
  @read_of_parts model .find _ (ofKey model.primaryKey key) _
    (show ∀ name ∈ ["limit", "where"], name ∈ topLevelKeys ∧ allowsKey .find name = true by decide)
    (List.cons_ne_nil _ _) (Clause.read_equals comparable notNull) rfl rfl rfl rfl rfl rfl (.inl rfl)
    (show some 1 ≠ some 0 by decide)

/-- What a join of a plural association asks for is written by the criteria of its records together with the
key. -/
theorem read_referring {raw : Option Json} {criteria : Criteria} (done : read model .find raw = .ok criteria)
    {via : String} (notKey : via ≠ model.primaryKey) (comparable : Comparable model via key)
    (notNull : key.isNull = false) :
    read model .find (some (RawCriteria.referring model.primaryKey via key raw)) =
      .ok (criteria.referring via key) := by
  have parts := readFrom_of_read done
  obtain ⟨written, clauseRead, simplified⟩ := parts.clause
  obtain ⟨clause, read, simple⟩ := Clause.read_referring clauseRead simplified comparable notNull
  obtain ⟨declared, -, stored⟩ := Clause.storedAttribute_of_comparable comparable notNull
  have same {α : Type} {name : String} (isTop : name ∈ topLevelKeys) (plain : name ≠ "where" ∧ name ≠ "select")
      (read : Json → Except CriteriaFault α) (default : α) :
      readKey (entries (some (RawCriteria.referring model.primaryKey via key raw))) name read default =
        readKey (entries raw) name read default := by
    refine readKey_congr ?_ read default
    change part _ name = _
    rw [part_referring _ _ _ _ isTop, if_neg plain.1, if_neg plain.2]
  have isWhere := part_referring model.primaryKey via key raw (show "where" ∈ topLevelKeys by decide)
  have isSelect := part_referring model.primaryKey via key raw (show "select" ∈ topLevelKeys by decide)
  have isOmit := part_referring model.primaryKey via key raw (show "omit" ∈ topLevelKeys by decide)
  have allowed (name : String) : allowsKey .find name = true := by
    unfold allowsKey
    split <;> rfl
  rw [referring_eq]
  refine @read_of_parts _ _ (entries (some (RawCriteria.referring model.primaryKey via key raw))) _ clause
    (fun name present => ⟨isTop_of_referring present, allowed name⟩) ?isGiven ?clause simple
    ((same (by decide) (by decide) _ _).trans parts.skip) ((same (by decide) (by decide) _ _).trans parts.sort)
    ?selection ((same (by decide) (by decide) _ _).trans parts.omission)
    ((same (by decide) (by decide) _ _).trans parts.limit) ?choice parts.notZero
  case isGiven =>
    intro empty
    rw [part, empty] at isWhere
    cases isWhere
  case clause =>
    unfold readKey
    change (match part _ "where" with | some _ => _ | none => _) = _
    rw [isWhere]
    exact read
  case selection =>
    have selection := parts.selection
    unfold readKey at selection ⊢
    change (match part raw "select" with | some _ => _ | none => _) = _ at selection
    change (match part _ "select" with | some _ => _ | none => _) = _
    rw [isSelect]
    cases selected : part raw "select" with
    | none =>
      rw [selected] at selection
      rw [LogicalQuery.selection_showing, ← Except.ok.inj selection]
      rfl
    | some names =>
      rw [selected] at selection
      refine readSelection_alsoListing selection (stored "select") notKey fun isStar => comparable.1 ?_
      rw [isStar]
      decide
  case choice =>
    rcases parts.choice with none | none
    · exact .inl (by rw [LogicalQuery.selection_showing, none, Option.map_none])
    · exact .inr (isOmit.trans none)

end Criteria

end RecordMapper
