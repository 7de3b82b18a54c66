import Mathlib
import RecordMapper.Proofs.Criteria.Renaming
import RecordMapper.Proofs.Dictionary

/-! # What renaming keeps of criteria

Criteria are their names, from left to right, and what is left without them: the shape of the clause, its tests, the
directions, the limit and how many records are skipped. Renaming takes the names one by one, up to the first that
cannot be renamed, and leaves the rest as it is. Of records whose names were taken along, renamed criteria mean what the
criteria mean of the records as they were.
-/

namespace RecordMapper

open Results

variable {ε : Type} {name : String → Except ε String}

/-! ## Names and what is left without them -/

namespace Clause

mutual

/-- A clause without its names: its shape, and what is asked at each leaf. -/
def nameless : Clause → Clause
  | .and parts => .and (namelessParts parts)
  | .or parts => .or (namelessParts parts)
  | .leaf predicate => .leaf { predicate with field := "" }

/-- A list of clauses without their names. -/
def namelessParts : List Clause → List Clause
  | [] => []
  | part :: rest => nameless part :: namelessParts rest

end

mutual

theorem length_predicates_nameless (clause : Clause) :
    clause.nameless.predicates.length = clause.predicates.length := by
  cases clause with
  | and parts => exact length_predicates_namelessParts parts
  | or parts => exact length_predicates_namelessParts parts
  | leaf predicate => rfl

theorem length_predicates_namelessParts (parts : List Clause) :
    (predicatesOfParts (namelessParts parts)).length = (predicatesOfParts parts).length := by
  cases parts with
  | nil => rfl
  | cons part rest =>
    rw [namelessParts, predicatesOfParts, predicatesOfParts, List.length_append, List.length_append,
      length_predicates_nameless part, length_predicates_namelessParts rest]

end

/-- Clauses of the same shape have as many leaves. -/
theorem length_names_of_nameless {first second : Clause} (shape : first.nameless = second.nameless) :
    (first.predicates.map Predicate.field).length = (second.predicates.map Predicate.field).length := by
  rw [List.length_map, List.length_map, ← length_predicates_nameless first, shape, length_predicates_nameless]

mutual

/-- A clause is told by its shape and its names. -/
theorem eq_of_nameless {first second : Clause} (shape : first.nameless = second.nameless)
    (names : first.predicates.map Predicate.field = second.predicates.map Predicate.field) : first = second := by
  cases first with
  | and parts =>
    cases second with
    | and others =>
      simp only [nameless, Clause.and.injEq] at shape
      rw [eqParts_of_nameless shape names]
    | _ => simp [nameless] at shape
  | or parts =>
    cases second with
    | or others =>
      simp only [nameless, Clause.or.injEq] at shape
      rw [eqParts_of_nameless shape names]
    | _ => simp [nameless] at shape
  | leaf predicate =>
    cases second with
    | leaf other =>
      obtain ⟨field, test⟩ := predicate
      obtain ⟨otherField, otherTest⟩ := other
      simp_all [nameless, predicates]
    | _ => simp [nameless] at shape

theorem eqParts_of_nameless {parts others : List Clause} (shape : namelessParts parts = namelessParts others)
    (names : (predicatesOfParts parts).map Predicate.field = (predicatesOfParts others).map Predicate.field) :
    parts = others := by
  cases parts with
  | nil =>
    cases others with
    | nil => rfl
    | cons other later => simp [namelessParts] at shape
  | cons part rest =>
    cases others with
    | nil => simp [namelessParts] at shape
    | cons other later =>
      obtain ⟨here, there⟩ := List.cons.inj shape
      rw [predicatesOfParts, predicatesOfParts, List.map_append, List.map_append] at names
      obtain ⟨first, second⟩ := List.append_inj names (length_names_of_nameless here)
      rw [eq_of_nameless here first, eqParts_of_nameless there second]

end

/-! ## Renaming -/

mutual

/-- The names of a renamed clause are its names, renamed from left to right. -/
theorem names_rename (clause : Clause) :
    (clause.rename name).map (fun other => other.predicates.map Predicate.field) =
      (clause.predicates.map Predicate.field).mapM name := by
  cases clause with
  | and parts =>
    rw [predicates, ← names_renameParts parts, rename]
    cases renameParts name parts <;> rfl
  | or parts =>
    rw [predicates, ← names_renameParts parts, rename]
    cases renameParts name parts <;> rfl
  | leaf predicate =>
    rw [rename, predicates, List.map_cons, List.mapM_cons]
    cases name predicate.field <;> rfl

theorem names_renameParts (parts : List Clause) :
    (renameParts name parts).map (fun others => (predicatesOfParts others).map Predicate.field) =
      ((predicatesOfParts parts).map Predicate.field).mapM name := by
  cases parts with
  | nil => rfl
  | cons part rest =>
    rw [predicatesOfParts, List.map_append, List.mapM_append, ← names_rename part, ← names_renameParts rest,
      renameParts]
    cases part.rename name with
    | error error => rfl
    | ok part =>
      cases renameParts name rest with
      | error error => rfl
      | ok rest => exact congrArg Except.ok (List.map_append ..)

end

mutual

/-- Renaming leaves everything but the names. -/
theorem nameless_rename {clause renamed : Clause} (done : clause.rename name = .ok renamed) :
    renamed.nameless = clause.nameless := by
  cases clause with
  | and parts =>
    obtain ⟨others, found, rfl⟩ := map_eq_ok.mp (by simpa only [rename] using done)
    rw [nameless, nameless, namelessParts_rename found]
  | or parts =>
    obtain ⟨others, found, rfl⟩ := map_eq_ok.mp (by simpa only [rename] using done)
    rw [nameless, nameless, namelessParts_rename found]
  | leaf predicate =>
    obtain ⟨field, -, rfl⟩ := map_eq_ok.mp (by simpa only [rename] using done)
    rfl

theorem namelessParts_rename {parts renamed : List Clause} (done : renameParts name parts = .ok renamed) :
    namelessParts renamed = namelessParts parts := by
  cases parts with
  | nil =>
    obtain rfl := Except.ok.inj (by simpa only [renameParts] using done)
    rfl
  | cons part rest =>
    simp only [renameParts] at done
    obtain ⟨other, here, done⟩ := bind_eq_ok.mp done
    obtain ⟨later, there, done⟩ := bind_eq_ok.mp done
    obtain rfl := pure_eq_ok.mp done
    rw [namelessParts, namelessParts, nameless_rename here, namelessParts_rename there]

end

end Clause

namespace SortTerm

/-- A sort term without its name: its direction. -/
def nameless (term : SortTerm) : SortTerm :=
  { term with field := "" }

theorem eq_of_nameless {first second : List SortTerm} (shape : first.map nameless = second.map nameless)
    (names : first.map field = second.map field) : first = second := by
  induction first generalizing second with
  | nil => exact (List.map_eq_nil_iff.mp names.symm).symm
  | cons term rest ih =>
    cases second with
    | nil => simp at names
    | cons other later =>
      obtain ⟨here, there⟩ := List.cons.inj shape
      obtain ⟨sameField, later⟩ := List.cons.inj names
      obtain ⟨_, direction⟩ := term
      obtain rfl := sameField
      rw [ih there later, show direction = other.direction from (SortTerm.mk.inj here).2]

theorem names_rename (terms : List SortTerm) :
    (terms.mapM fun term => (name term.field).map fun field => { term with field }).map (List.map field) =
      (terms.map field).mapM name := by
  rw [← mapM_map, List.mapM_map]
  refine mapM_congr fun term _ => ?_
  change _ = name term.field
  cases name term.field <;> rfl

theorem nameless_rename {terms renamed : List SortTerm}
    (done : (terms.mapM fun term => (name term.field).map fun field => { term with field }) = .ok renamed) :
    renamed.map nameless = terms.map nameless := by
  refine map_eq_of_mapM (fun term _ other step => ?_) done
  obtain ⟨field, -, rfl⟩ := map_eq_ok.mp step
  rfl

end SortTerm

namespace Criteria

/-- Criteria without their names. -/
def nameless (criteria : Criteria) : Criteria :=
  { criteria with
    clause := criteria.clause.nameless
    sort := criteria.sort.map SortTerm.nameless
    selection := criteria.selection.map fun fields => fields.map fun _ => ""
    omission := criteria.omission.map fun _ => "" }

/-- Selections that show as many names, or both all, are told by these. -/
theorem selection_eq {first second : Option (List String)}
    (shape : (first.map fun fields => fields.map fun _ => "") = second.map fun fields => fields.map fun _ => "")
    (names : first.getD [] = second.getD []) : first = second := by
  cases first <;> cases second <;> simp_all

theorem length_selection {first second : Option (List String)}
    (shape : (first.map fun fields => fields.map fun _ => "") = second.map fun fields => fields.map fun _ => "") :
    (first.getD []).length = (second.getD []).length := by
  cases first <;> cases second
  · rfl
  · simp at shape
  · simp at shape
  · simpa using congrArg List.length (Option.some.inj shape)

/-- Criteria are told by their shape and their names. -/
theorem eq_of_nameless {first second : Criteria} (shape : first.nameless = second.nameless)
    (names : first.fields = second.fields) : first = second := by
  obtain ⟨clause, limit, skip, sort, selection, omission⟩ := first
  obtain ⟨otherClause, otherLimit, otherSkip, otherSort, otherSelection, otherOmission⟩ := second
  simp only [nameless, Criteria.mk.injEq] at shape
  obtain ⟨clauses, rfl, rfl, sorts, selections, -⟩ := shape
  have sortLengths : (sort.map SortTerm.field).length = (otherSort.map SortTerm.field).length := by
    simpa using congrArg List.length sorts
  -- each part takes as many of the names as in the other criteria
  simp only [fields, List.append_assoc] at names
  obtain ⟨clauseNames, names⟩ := List.append_inj names (Clause.length_names_of_nameless clauses)
  obtain ⟨sortNames, names⟩ := List.append_inj names sortLengths
  obtain ⟨selectionNames, rfl⟩ := List.append_inj names (length_selection selections)
  rw [Clause.eq_of_nameless clauses clauseNames, SortTerm.eq_of_nameless sorts sortNames,
    selection_eq selections selectionNames]

/-- The names of renamed criteria are their names, renamed from left to right. -/
theorem fields_rename (criteria : Criteria) : (criteria.rename name).map fields = criteria.fields.mapM name := by
  rw [fields, List.mapM_append, List.mapM_append, List.mapM_append, ← Clause.names_rename, ← SortTerm.names_rename,
    rename]
  cases criteria.clause.rename name with
  | error error => rfl
  | ok clause =>
    cases criteria.sort.mapM fun term => (name term.field).map fun field => { term with field } with
    | error error => rfl
    | ok sort =>
      cases shown : criteria.selection with
      | none => cases criteria.omission.mapM name <;> rfl
      | some names =>
        dsimp only [Option.getD_some]
        cases names.mapM name with
        | error error => rfl
        | ok selection => cases criteria.omission.mapM name <;> rfl

/-- Renaming leaves everything but the names. -/
theorem nameless_rename {criteria renamed : Criteria} (done : criteria.rename name = .ok renamed) :
    renamed.nameless = criteria.nameless := by
  obtain ⟨clause, sort, selection, omission, limit, skip⟩ := rename_eq_ok.mp done
  have blank {names others : List String} (done : names.mapM name = .ok others) :
      (others.map fun _ => "") = names.map fun _ => "" :=
    map_eq_of_mapM (fun _ _ _ _ => rfl) done
  have shown : (renamed.selection.map fun fields => fields.map fun _ => "") =
      criteria.selection.map fun fields => fields.map fun _ => "" := by
    cases names : criteria.selection with
    | none =>
      rw [names] at selection
      rw [← Except.ok.inj selection]
    | some fields =>
      rw [names] at selection
      obtain ⟨others, found, same⟩ := map_eq_ok.mp selection
      rw [← same, Option.map_some, blank found, Option.map_some]
  rw [nameless, nameless, Clause.nameless_rename clause, SortTerm.nameless_rename sort, shown, blank omission, limit,
    skip]

/-- Renaming fails with the first name that cannot be renamed. -/
theorem rename_eq_error_iff {criteria : Criteria} {error : ε} :
    criteria.rename name = .error error ↔
      ∃ before field later, criteria.fields = before ++ field :: later ∧
        (∀ earlier ∈ before, ∃ other, name earlier = .ok other) ∧ name field = .error error := by
  rw [← mapM_eq_error_iff, ← fields_rename, map_eq_error]

/-- Renamed are the criteria that have the new names and leave the rest as it is. -/
theorem rename_eq_ok_iff {criteria renamed : Criteria} :
    criteria.rename name = .ok renamed ↔
      criteria.fields.map name = renamed.fields.map .ok ∧ renamed.nameless = criteria.nameless := by
  constructor
  · intro done
    refine ⟨?_, nameless_rename done⟩
    rw [← mapM_eq_ok, ← fields_rename, done]
    rfl
  · rintro ⟨names, shape⟩
    rw [← mapM_eq_ok, ← fields_rename] at names
    obtain ⟨other, done, same⟩ := map_eq_ok.mp names
    rw [done, eq_of_nameless ((nameless_rename done).trans shape.symm) same]

end Criteria

/-! ## Records whose names are taken along -/

/-- A record with all its names renamed. -/
def Record.rename (name : String → Except ε String) (record : Record) : Except ε Record :=
  (record.mapM fun entry => (name entry.1).map fun other => (other, entry.2)).map Dictionary.ofList

/-- No two of the names are renamed to the same one. -/
def TellsApart (name : String → Except ε String) (names : List String) : Prop :=
  ∀ first ∈ names, ∀ second ∈ names, ∀ other, name first = .ok other → name second = .ok other → first = second

theorem TellsApart.mono {names others : List String} (apart : TellsApart name others)
    (within : ∀ first ∈ names, first ∈ others) : TellsApart name names :=
  fun first isFirst second isSecond => apart first (within first isFirst) second (within second isSecond)

namespace Record

/-- The entries of a renamed record are those of the record, under the new names. -/
theorem mem_renamed_iff {row : Record} {entries : List (String × Json)}
    (done : (row.mapM fun entry => (name entry.1).map fun other => (other, entry.2)) = .ok entries) {other : String}
    {value : Json} : (other, value) ∈ entries ↔ ∃ field, (field, value) ∈ row ∧ name field = .ok other := by
  rw [mem_mapM_iff done]
  constructor
  · rintro ⟨⟨field, value⟩, member, step⟩
    obtain ⟨other, found, same⟩ := map_eq_ok.mp step
    obtain ⟨rfl, rfl⟩ := Prod.mk.inj same
    exact ⟨field, member, found⟩
  · rintro ⟨field, member, found⟩
    exact ⟨(field, value), member, map_eq_ok.mpr ⟨other, found, rfl⟩⟩

/-- Distinct names that are told apart stay distinct. -/
theorem nodup_renamed {row : Record} (distinct : (Dictionary.names row).Nodup)
    (apart : TellsApart name (Dictionary.names row)) {entries : List (String × Json)}
    (done : (row.mapM fun entry => (name entry.1).map fun other => (other, entry.2)) = .ok entries) :
    (Dictionary.names entries).Nodup := by
  induction row generalizing entries with
  | nil =>
    obtain rfl := pure_eq_ok.mp done
    exact List.nodup_nil
  | cons entry rest ih =>
    obtain ⟨field, value⟩ := entry
    obtain ⟨fresh, restDistinct⟩ := List.nodup_cons.mp distinct
    rw [List.mapM_cons] at done
    obtain ⟨_, here, done⟩ := bind_eq_ok.mp done
    obtain ⟨others, there, done⟩ := bind_eq_ok.mp done
    obtain rfl := pure_eq_ok.mp done
    obtain ⟨other, found, rfl⟩ := map_eq_ok.mp here
    refine List.nodup_cons.mpr ⟨fun again => ?_, ih restDistinct (apart.mono fun _ => List.mem_cons_of_mem _) there⟩
    obtain ⟨⟨_, again⟩, member, rfl⟩ := List.mem_map.mp again
    obtain ⟨later, inRow, same⟩ := (mem_renamed_iff there).mp member
    have isLater : later ∈ Dictionary.names rest := List.mem_map_of_mem inRow
    have equal : field = later :=
      apart field (List.mem_cons_self ..) later (List.mem_cons_of_mem _ isLater) _ found same
    exact fresh (equal ▸ isLater)

/-- A renamed record holds under the new names of some fields what the record holds under the old ones, and nothing
where it holds nothing, as long as these fields and its own are told apart. -/
theorem renamedOn_rename {row renamed : Record} (sorted : Dictionary.Sorted row) (done : row.rename name = .ok renamed)
    {fields : List String} (apart : TellsApart name (fields ++ Dictionary.names row)) :
    RenamedOn name fields row renamed := by
  obtain ⟨entries, each, rfl⟩ := map_eq_ok.mp done
  intro field isField other found
  have nodup := nodup_renamed sorted.nodup (apart.mono fun _ => List.mem_append_right _) each
  rw [Dictionary.get?_ofList nodup]
  cases held : Dictionary.get? row field with
  | some value =>
    apply Dictionary.get?_of_mem nodup
    exact (mem_renamed_iff each).mpr ⟨field, Dictionary.mem_of_get? held, found⟩
  | none =>
    rw [Dictionary.get?_eq_none_iff] at held ⊢
    intro member
    obtain ⟨⟨_, value⟩, isEntry, rfl⟩ := List.mem_map.mp member
    obtain ⟨second, inRow, same⟩ := (mem_renamed_iff each).mp isEntry
    have isName : second ∈ Dictionary.names row := List.mem_map_of_mem inRow
    have equal : field = second :=
      apart field (List.mem_append_left _ isField) second (List.mem_append_right _ isName) _ found same
    exact held (equal ▸ isName)

end Record

namespace SortTerm

/-- To arrange renamed records by renamed terms is to rename the arranged records. -/
theorem mapM_rename_arrange {terms renamed : List SortTerm}
    (done : (terms.mapM fun term => (name term.field).map fun field => { term with field }) = .ok renamed)
    {rows others : List Record} (sorted : ∀ row ∈ rows, Dictionary.Sorted row)
    (apart : ∀ row ∈ rows, TellsApart name (terms.map field ++ Dictionary.names row))
    (each : rows.mapM (Record.rename name) = .ok others) :
    (arrange terms rows).mapM (Record.rename name) = .ok (arrange renamed others) := by
  have exist : ∀ row ∈ rows, ∃ other, Record.rename name row = .ok other := exists_mapM_eq_ok_iff.mp ⟨_, each⟩
  choose! image isImage using exist
  have images : others = rows.map image := by
    have same : others.map id = rows.map image :=
      map_eq_of_mapM (fun row member other step => Except.ok.inj (step.symm.trans (isImage row member))) each
    rwa [List.map_id] at same
  rw [images, arrange_rename (fun row member =>
    Record.renamedOn_rename (sorted row member) (isImage row member) (apart row member)) done, mapM_eq_ok,
    List.map_map]
  exact List.map_congr_left fun row member => isImage row (List.mem_mergeSort.mp member)

end SortTerm

/-- Renaming respects the structure of criteria. It fails exactly if some name in the clause, the order, the selection
or the omission cannot be renamed, and then with the error of the first of them; otherwise all names are renamed and
nothing else is changed. Where no two of the names at hand are renamed to the same one, a record whose names are taken
along matches the renamed clause exactly if the record matches the clause, and records whose names are taken along are
arranged by the renamed terms as the records are by the terms. -/
theorem Criteria.rename_homomorphic (name : String → Except ε String) (criteria : Criteria) :
    (∀ error, criteria.rename name = .error error ↔
      ∃ before field later, criteria.fields = before ++ field :: later ∧
        (∀ earlier ∈ before, ∃ other, name earlier = .ok other) ∧ name field = .error error) ∧
    (∀ renamed, criteria.rename name = .ok renamed ↔
      criteria.fields.map name = renamed.fields.map .ok ∧ renamed.nameless = criteria.nameless) ∧
    ∀ renamed, criteria.rename name = .ok renamed →
      (∀ row other, Dictionary.Sorted row → Record.rename name row = .ok other →
        TellsApart name (criteria.clause.predicates.map Predicate.field ++ Dictionary.names row) →
        renamed.clause.accepts other = criteria.clause.accepts row) ∧
      ∀ rows others, (∀ row ∈ rows, Dictionary.Sorted row) →
        (∀ row ∈ rows, TellsApart name (criteria.sort.map SortTerm.field ++ Dictionary.names row)) →
        rows.mapM (Record.rename name) = .ok others →
        (SortTerm.arrange criteria.sort rows).mapM (Record.rename name) =
          .ok (SortTerm.arrange renamed.sort others) := by
  refine ⟨fun _ => rename_eq_error_iff, fun _ => rename_eq_ok_iff, fun renamed done => ?_⟩
  obtain ⟨clause, sort, -, -, -, -⟩ := rename_eq_ok.mp done
  refine ⟨fun row other sorted taken apart => ?_, fun rows others sorted apart taken => ?_⟩
  · exact Clause.accepts_rename (Record.renamedOn_rename sorted taken apart) clause
  · exact SortTerm.mapM_rename_arrange sort sorted apart taken

/-- The columns of three attributes; whatever else is asked for has none. -/
def peopleColumn (field : String) : Except String String :=
  match Dictionary.get? [("age", "years"), ("id", "key"), ("name", "title")] field with
  | some column => .ok column
  | none => .error field

theorem tellsApart_peopleColumn (fields : List String) : TellsApart peopleColumn fields := by
  have listed {field other : String} (found : peopleColumn field = .ok other) :
      (field, other) ∈ [("age", "years"), ("id", "key"), ("name", "title")] := by
    unfold peopleColumn at found
    split at found
    · next held => exact Except.ok.inj found ▸ Dictionary.mem_of_get? held
    · cases found
  intro first _ second _ other here there
  have inFirst := listed here
  have inSecond := listed there
  simp only [List.mem_cons, Prod.mk.injEq, List.not_mem_nil, or_false] at inFirst inSecond
  rcases inFirst with ⟨rfl, rfl⟩ | ⟨rfl, rfl⟩ | ⟨rfl, rfl⟩ <;> simp_all

/-- Criteria whose clause is nested, in an order of their own. -/
def peopleCriteria (order : String) (omission : List String) : Criteria where
  clause := .and [.or [.leaf ⟨"age", .above (.number (.integer 30))⟩, .leaf ⟨"name", .startsWith "A"⟩],
    .leaf ⟨"id", .differs .null⟩]
  skip := 1
  sort := [⟨order, .descending⟩]
  omission

/-- Of two names without a column the one in the order is told, not the one in the omission. Renamed are the leaves of
a nested clause, and a row without an age still comes last in the order of descending ages. -/
theorem Criteria.rename_homomorphic_people :
    let criteria := peopleCriteria "age" ["name"]
    let anna : Record := [("id", .text "b"), ("name", .text "Anna")]
    let child : Record := [("age", .number (.integer 7)), ("id", .text "a")]
    let annaRow : Record := [("key", .text "b"), ("title", .text "Anna")]
    let childRow : Record := [("key", .text "a"), ("years", .number (.integer 7))]
    (peopleCriteria "ghost" ["name", "phantom"]).rename peopleColumn = .error "ghost" ∧
    ∃ renamed, criteria.rename peopleColumn = .ok renamed ∧
      criteria.fields.map peopleColumn = renamed.fields.map .ok ∧
      Dictionary.Sorted anna ∧ Record.rename peopleColumn anna = .ok annaRow ∧
      TellsApart peopleColumn (criteria.clause.predicates.map Predicate.field ++ Dictionary.names anna) ∧
      renamed.clause.accepts annaRow = true ∧
      Dictionary.Sorted child ∧ [anna, child].mapM (Record.rename peopleColumn) = .ok [annaRow, childRow] ∧
      SortTerm.arrange renamed.sort [annaRow, childRow] = [childRow, annaRow] := by
  intro criteria anna child annaRow childRow
  obtain ⟨failing, -, -⟩ := Criteria.rename_homomorphic peopleColumn (peopleCriteria "ghost" ["name", "phantom"])
  obtain ⟨-, succeeding, meaning⟩ := Criteria.rename_homomorphic peopleColumn criteria
  obtain ⟨renamed, done⟩ : ∃ renamed, criteria.rename peopleColumn = .ok renamed := ⟨_, rfl⟩
  obtain ⟨matching, arranging⟩ := meaning renamed done
  have sorted : Dictionary.Sorted anna ∧ Dictionary.Sorted child := by decide
  have arranged : (SortTerm.arrange criteria.sort [anna, child]).mapM (Record.rename peopleColumn) =
      .ok [childRow, annaRow] := by
    cbv
  refine ⟨(failing "ghost").mpr ⟨["age", "name", "id"], "ghost", ["name", "phantom"], rfl, ?_, rfl⟩, renamed, done,
    ((succeeding renamed).mp done).1, sorted.1, rfl, tellsApart_peopleColumn _, ?_, sorted.2, rfl, ?_⟩
  · simp [peopleColumn, Dictionary.get?]
  · rw [matching anna annaRow sorted.1 rfl (tellsApart_peopleColumn _)]
    decide +kernel
  · have same := arranging [anna, child] [annaRow, childRow] (by simp [sorted])
      (fun _ _ => tellsApart_peopleColumn _) rfl
    rw [arranged] at same
    exact (Except.ok.inj same).symm

end RecordMapper
