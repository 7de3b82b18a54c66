import RecordMapper.Proofs.Execution.ReadingBack

/-! # Rows are taken whole or not at all

Nothing is known of the rows that an adapter answers with. A row is flawed when two of its fields have one name,
when something else stands under the field of a join than the join embeds, when a row that is embedded in it is
flawed, or when its record is to be verified and does not pass. The rows of an answer become records exactly where
none of them is flawed, each of them a record that depends on that row alone. Joins are taken out of a row in order,
so of joins with one field the first one takes what stands there, and the last one has its form in the record.
-/

namespace RecordMapper

open Attempt Results

variable {σ : Type}

/-! ## What is required -/

/-- A record has its key, and everything that it holds fits. -/
def Model.Verifies (model : Model) (record : Record) : Prop :=
  record.Has model.primaryKey ∧ model.Fits record

/-- The fields of an embedded row have one name, or its record is to be verified and does not pass. -/
def RegisteredModel.FlawsRow (registered : RegisteredModel σ) (verified : Bool) (row : Record) : Prop :=
  registered.columns.Collides row ∨
    verified = true ∧ ¬registered.model.Verifies (registered.columns.renamed row)

namespace Join

/-- A value has the form in which a join embeds some records: a list of them for a plural join, and for a singular
one the only one of them, or null for none. -/
inductive Embeds (join : Join) : Json → List Record → Prop where
  | list (plural : join.collection = true) (records : List Record) : Embeds join (.list (records.map .record)) records
  | record (singular : join.collection = false) (record : Record) : Embeds join (.record record) [record]
  | null (singular : join.collection = false) : Embeds join .null []

/-- What a join takes out of a row after earlier joins. Where nothing stands under its field, or an earlier join has
taken it, that is what the join embeds for nothing. -/
def taken (earlier : List Join) (join : Join) (row : Record) : Json :=
  if join.field ∈ fields earlier then join.empty else (Dictionary.get? row join.field).getD join.empty

/-- Joins, each with what it takes out of a row, after earlier joins. -/
def takings (row : Record) (earlier : List Join) : List Join → List (Join × Json)
  | [] => []
  | join :: rest => (join, join.taken earlier row) :: takings row (earlier ++ [join]) rest

end Join

namespace Registry

/-- The record of a row that a join embeds. -/
def childRecord (registry : Registry σ) (join : Join) (row : Record) : Record :=
  match registry.model? join.childModel with
  | some child => child.columns.renamed row
  | none => row

/-- A value that a join embeds, with records in place of rows. -/
def renameEmbedded (registry : Registry σ) (join : Join) : Json → Json
  | .record row => .record (registry.childRecord join row)
  | .list items => .list (items.map fun
    | .record row => .record (registry.childRecord join row)
    | value => value)
  | value => value

/-- The record of a row: its fields outside of the joins under their names, and over them what the joins embed. -/
def assembled (registry : Registry σ) (registered : RegisteredModel σ) (joins : List Join) (row : Record) : Record :=
  Dictionary.insertAll (registered.columns.renamed (row.filter fun entry => Join.leaves joins entry.1))
    ((Join.takings row [] joins).map fun entry => (entry.1.field, registry.renameEmbedded entry.1 entry.2))

/-- Under the field of a join a record holds what the last of the joins with that field embeds: a list of records, a
record or null. If records are verified, these have their keys and everything that they hold fits. -/
def HoldsEmbedded (registry : Registry σ) (joins : List Join) (verified : Bool) (record : Record) (join : Join) :
    Prop :=
  ∃ before last later child value embedded,
    joins = before ++ last :: later ∧ last.field = join.field ∧ last.field ∉ Join.fields later ∧
    registry.model? last.childModel = some child ∧ Dictionary.get? record join.field = some value ∧
    last.Embeds value embedded ∧ (verified = true → ∀ inner ∈ embedded, child.model.Verifies inner)

/-- What is wrong with a row. -/
inductive FlawsRow (registry : Registry σ) (registered : RegisteredModel σ) (joins : List Join) (verified : Bool)
    (row : Record) : Prop where
  /-- Two of its fields outside of the joins have one name. -/
  | collision (collides : registered.columns.Collides (row.filter fun entry => Join.leaves joins entry.1))
  /-- What a join takes out of it has not the form of what the join embeds. -/
  | form {earlier later : List Join} {join : Join} (isJoin : joins = earlier ++ join :: later)
      (formless : ∀ rows, ¬join.Embeds (join.taken earlier row) rows)
  /-- A row that is embedded in it is flawed. -/
  | child {earlier later : List Join} {join : Join} {child : RegisteredModel σ} {rows : List Record}
      {embedded : Record} (isJoin : joins = earlier ++ join :: later)
      (isChild : registry.model? join.childModel = some child) (embeds : join.Embeds (join.taken earlier row) rows)
      (member : embedded ∈ rows) (flawed : child.FlawsRow verified embedded)
  /-- Its record is to be verified and does not pass. -/
  | misfit (isVerified : verified = true)
      (fails : ¬registered.model.Verifies (registry.assembled registered joins row))

end Registry

/-! ## Taking joins out -/

namespace Join

theorem takings_append (row : Record) (earlier before later : List Join) :
    takings row earlier (before ++ later) = takings row earlier before ++ takings row (earlier ++ before) later := by
  induction before generalizing earlier with
  | nil => simp [takings]
  | cons join rest ih => simp [takings, ih]

theorem map_fst_takings (row : Record) (earlier joins : List Join) :
    (takings row earlier joins).map Prod.fst = joins := by
  induction joins generalizing earlier with
  | nil => rfl
  | cons join rest ih => exact congrArg (join :: ·) (ih _)

theorem mem_takings {row : Record} {earlier joins : List Join} {entry : Join × Json} :
    entry ∈ takings row earlier joins ↔
      ∃ before later, joins = before ++ entry.1 :: later ∧ entry.2 = entry.1.taken (earlier ++ before) row := by
  constructor
  · intro member
    obtain ⟨front, back, isSplit⟩ := List.append_of_mem member
    have isJoins := (map_fst_takings row earlier joins).symm.trans (congrArg (List.map Prod.fst) isSplit)
    rw [List.map_append, List.map_cons] at isJoins
    refine ⟨_, _, isJoins, ?_⟩
    rw [isJoins, takings_append] at isSplit
    have lengths : (takings row earlier (front.map Prod.fst)).length = front.length := by
      rw [← List.length_map Prod.fst, map_fst_takings, List.length_map]
    obtain ⟨-, isBack⟩ := List.append_inj isSplit lengths
    exact congrArg Prod.snd (List.cons.inj isBack).1.symm
  · rintro ⟨before, later, rfl, isTaken⟩
    rw [takings_append, takings]
    exact List.mem_append_right _ (List.mem_cons.mpr (.inl (Prod.ext rfl isTaken)))

/-- What joins take out of a row, with what each embeds for nothing in place of nothing. -/
theorem map_detach (earlier joins : List Join) (row : Record) :
    (detach joins (row.filter fun entry => leaves earlier entry.1)).1.map
        (fun entry => (entry.1, entry.2.getD entry.1.empty)) = takings row earlier joins := by
  -- taking one join out is one more field that the filter on the row leaves out
  induction joins generalizing earlier with
  | nil => rfl
  | cons join rest ih =>
    rw [detach, takings, List.map_cons]
    congr 1
    · rw [Dictionary.get?_filter_names row (leaves earlier), taken]
      by_cases isTaken : join.field ∈ fields earlier
      · rw [if_pos isTaken, if_neg (mt leaves_iff.mp (not_not_intro isTaken))]
        rfl
      · rw [if_neg isTaken, if_pos (leaves_iff.mpr isTaken)]
    · rw [← ih, Dictionary.erase_eq_filter, List.filter_filter]
      congr 3
      refine List.filter_congr fun entry _ => ?_
      rw [Bool.eq_iff_iff, Bool.and_eq_true, leaves_iff, leaves_iff, decide_eq_true_iff]
      simp [fields, and_comm]

theorem map_detach_eq (joins : List Join) (row : Record) :
    (detach joins row).1.map (fun entry => (entry.1, entry.2.getD entry.1.empty)) = takings row [] joins := by
  have whole : (row.filter fun entry => leaves [] entry.1) = row := List.filter_eq_self.mpr fun _ _ => rfl
  rw [← map_detach [] joins row, whole]

/-- Of the joins with one field there is a last one. -/
theorem exists_last {joins : List Join} {field : String} (member : field ∈ fields joins) :
    ∃ before last later, joins = before ++ last :: later ∧ last.field = field ∧ last.field ∉ fields later := by
  induction joins with
  | nil => cases member
  | cons first rest ih =>
    by_cases repeated : field ∈ fields rest
    · obtain ⟨before, last, later, rfl, isField, isLast⟩ := ih repeated
      exact ⟨first :: before, last, later, rfl, isField, isLast⟩
    · obtain rfl | elsewhere := List.mem_cons.mp member
      · exact ⟨[], first, rest, rfl, rfl, repeated⟩
      · exact absurd elsewhere repeated

theorem embeds_plural {join : Join} (plural : join.collection = true) {value : Json} {rows : List Record} :
    join.Embeds value rows ↔ value = .list (rows.map .record) := by
  constructor
  · intro embeds
    cases embeds with
    | list => rfl
    | record singular => cases plural.symm.trans singular
    | null singular => cases plural.symm.trans singular
  · rintro rfl
    exact .list plural rows

theorem embeds_singular {join : Join} (singular : join.collection = false) {value : Json} {rows : List Record} :
    join.Embeds value rows ↔ value = .null ∧ rows = [] ∨ ∃ row, value = .record row ∧ rows = [row] := by
  constructor
  · intro embeds
    cases embeds with
    | list plural => cases plural.symm.trans singular
    | record _ row => exact .inr ⟨row, rfl, rfl⟩
    | null => exact .inl ⟨rfl, rfl⟩
  · rintro (⟨rfl, rfl⟩ | ⟨row, rfl, rfl⟩)
    · exact .null singular
    · exact .record singular row

/-- The records that are embedded can be read off their form. -/
theorem Embeds.unique {join : Join} {value : Json} {rows others : List Record} (first : join.Embeds value rows)
    (second : join.Embeds value others) : rows = others := by
  cases form : join.collection with
  | true =>
    have injective : Function.Injective Json.record := fun _ _ same => Json.record.inj same
    have same := ((embeds_plural form).mp first).symm.trans ((embeds_plural form).mp second)
    exact List.map_injective_iff.mpr injective (Json.list.inj same)
  | false =>
    obtain ⟨rfl, rfl⟩ | ⟨row, rfl, rfl⟩ := (embeds_singular form).mp first
    · obtain ⟨-, rfl⟩ | ⟨other, same, -⟩ := (embeds_singular form).mp second
      · rfl
      · cases same
    · obtain ⟨same, -⟩ | ⟨other, same, rfl⟩ := (embeds_singular form).mp second
      · cases same
      · rw [Json.record.inj same]

end Join

/-! ## Embedded rows -/

namespace RegisteredModel

variable {registered child : RegisteredModel σ} {verified : Bool} {row record : Record}

/-- An embedded row becomes its record unless it is flawed. -/
theorem raiseChild_eq_ok : child.raiseChild verified row = .ok record ↔
    ¬child.FlawsRow verified row ∧ child.columns.renamed row = record := by
  unfold raiseChild FlawsRow
  rw [bind_eq_ok]
  simp only [raise, mapError_eq_ok, Columns.raise_eq_ok_iff, verified_eq_ok, Model.drift?_eq_none_iff]
  constructor
  · rintro ⟨_, ⟨apart, rfl⟩, rfl, verifies⟩
    exact ⟨not_or.mpr ⟨apart, not_and.mpr fun isVerified => not_not_intro (verifies isVerified)⟩, rfl⟩
  · rintro ⟨sound, rfl⟩
    refine ⟨_, ⟨fun collides => sound (.inl collides), rfl⟩, rfl, fun isVerified => ?_⟩
    exact of_not_not fun fails => sound (.inr ⟨isVerified, fails⟩)

/-- The items of an embedded list become records if they are rows that are not flawed. -/
theorem mapM_raiseItem_eq_ok {field : String} {items values : List Json} :
    items.mapM (registered.raiseItem child verified field) = .ok values ↔
      ∃ rows : List Record, items = rows.map .record ∧ (∀ row ∈ rows, ¬child.FlawsRow verified row) ∧
        values = rows.map fun row => .record (child.columns.renamed row) := by
  induction items generalizing values with
  | nil =>
    rw [List.mapM_nil, pure_eq_ok]
    constructor
    · rintro rfl
      exact ⟨[], rfl, by simp, rfl⟩
    · rintro ⟨rows, isRows, -, rfl⟩
      rw [List.map_eq_nil_iff.mp isRows.symm]
      rfl
  | cons item rest ih =>
    rw [List.mapM_cons]
    simp only [bind_eq_ok, pure_eq_ok, ih]
    constructor
    · rintro ⟨value, here, _, ⟨rows, rfl, sound, rfl⟩, rfl⟩
      cases item with
      | record row =>
        obtain ⟨record, raised, rfl⟩ := map_eq_ok.mp here
        obtain ⟨isSound, rfl⟩ := raiseChild_eq_ok.mp raised
        exact ⟨row :: rows, rfl, List.forall_mem_cons.mpr ⟨isSound, sound⟩, rfl⟩
      | _ => cases here
    · rintro ⟨_ | ⟨row, rows⟩, isRows, sound, rfl⟩
      · cases isRows
      · obtain ⟨rfl, rfl⟩ := List.cons.inj isRows
        obtain ⟨isSound, later⟩ := List.forall_mem_cons.mp sound
        exact ⟨_, map_eq_ok.mpr ⟨_, raiseChild_eq_ok.mpr ⟨isSound, rfl⟩, rfl⟩, _, ⟨rows, rfl, later, rfl⟩, rfl⟩

end RegisteredModel

namespace Registry

variable {registry : Registry σ} {registered child : RegisteredModel σ} {joins : List Join} {join : Join}
  {verified : Bool} {row : Record}

theorem childRecord_eq (isChild : registry.model? join.childModel = some child) (row : Record) :
    registry.childRecord join row = child.columns.renamed row := by
  rw [childRecord, isChild]

theorem renameEmbedded_list (rows : List Record) :
    registry.renameEmbedded join (.list (rows.map .record)) =
      .list (rows.map fun row => .record (registry.childRecord join row)) := by
  rw [renameEmbedded, List.map_map]
  rfl

/-- A value of the form that a join embeds keeps the form when its rows become records. -/
theorem embeds_renameEmbedded {value : Json} {rows : List Record} (embeds : join.Embeds value rows) :
    join.Embeds (registry.renameEmbedded join value) (rows.map (registry.childRecord join)) := by
  cases embeds with
  | list plural =>
    rw [renameEmbedded_list, Join.embeds_plural plural, List.map_map]
    rfl
  | record singular record => exact .record singular _
  | null singular => exact .null singular

/-- A plural join reads a list of rows that are not flawed. -/
theorem embedded_plural (isChild : registry.model? join.childModel = some child) (plural : join.collection = true)
    {value read : Json} :
    registry.embedded registered verified join (some value) = .ok read ↔
      ∃ rows : List Record, value = .list (rows.map .record) ∧ (∀ row ∈ rows, ¬child.FlawsRow verified row) ∧
        .list (rows.map fun row => .record (child.columns.renamed row)) = read := by
  unfold embedded
  rw [require, isChild, plural]
  cases value with
  | list items =>
    refine map_eq_ok.trans ?_
    simp only [RegisteredModel.mapM_raiseItem_eq_ok, Json.list.injEq]
    constructor
    · rintro ⟨_, ⟨rows, isRows, sound, rfl⟩, isRead⟩
      exact ⟨rows, isRows, sound, isRead⟩
    · rintro ⟨rows, isRows, sound, isRead⟩
      exact ⟨_, ⟨rows, isRows, sound, rfl⟩, isRead⟩
  | _ =>
    refine iff_of_false (fun done => by cases done) ?_
    rintro ⟨_, ⟨⟩, -⟩

/-- A singular join reads null, and a row that is not flawed. -/
theorem embedded_singular (isChild : registry.model? join.childModel = some child)
    (singular : join.collection = false) {value read : Json} :
    registry.embedded registered verified join (some value) = .ok read ↔
      value = .null ∧ .null = read ∨
        ∃ row, value = .record row ∧ ¬child.FlawsRow verified row ∧ .record (child.columns.renamed row) = read := by
  unfold embedded
  rw [require, isChild, singular]
  cases value with
  | null => exact pure_eq_ok.trans (by simp)
  | record row =>
    refine map_eq_ok.trans ?_
    simp [RegisteredModel.raiseChild_eq_ok, and_assoc]
  | _ =>
    refine iff_of_false (fun done => by cases done) ?_
    rintro (⟨⟨⟩, -⟩ | ⟨_, ⟨⟩, -⟩)

/-- What a join takes out of a row is read if it has the form of what the join embeds and none of the rows in it is
flawed. -/
theorem embedded_eq_ok (isChild : registry.model? join.childModel = some child) {value : Option Json} {read : Json} :
    registry.embedded registered verified join value = .ok read ↔
      ∃ rows, join.Embeds (value.getD join.empty) rows ∧ (∀ row ∈ rows, ¬child.FlawsRow verified row) ∧
        registry.renameEmbedded join (value.getD join.empty) = read := by
  -- nothing is read as what the join embeds for nothing
  have ofNothing : registry.embedded registered verified join none =
      registry.embedded registered verified join (some join.empty) := by
    unfold embedded Join.empty
    cases join.collection <;> rfl
  have filled : registry.embedded registered verified join value =
      registry.embedded registered verified join (some (value.getD join.empty)) := by
    cases value with
    | none => exact ofNothing
    | some value => rfl
  rw [filled]
  generalize value.getD join.empty = value
  cases form : join.collection with
  | true =>
    rw [embedded_plural isChild form]
    simp only [Join.embeds_plural form]
    refine exists_congr fun rows => and_congr_right fun isRows => and_congr_right fun _ => ?_
    rw [isRows, renameEmbedded_list]
    simp only [childRecord_eq isChild]
  | false =>
    rw [embedded_singular isChild form]
    simp only [Join.embeds_singular form]
    constructor
    · rintro (⟨rfl, isRead⟩ | ⟨row, rfl, sound, rfl⟩)
      · exact ⟨[], .inl ⟨rfl, rfl⟩, nofun, isRead⟩
      · refine ⟨[row], .inr ⟨row, rfl, rfl⟩, List.forall_mem_singleton.mpr sound, ?_⟩
        rw [renameEmbedded, childRecord_eq isChild]
    · rintro ⟨_, ⟨rfl, rfl⟩ | ⟨row, rfl, rfl⟩, sound, isRead⟩
      · exact .inl ⟨rfl, isRead⟩
      · rw [renameEmbedded, childRecord_eq isChild] at isRead
        exact .inr ⟨row, rfl, sound row (List.mem_cons_self ..), isRead⟩

/-! ## Whole rows -/

/-- What a join takes out of a row has the form of what the join embeds, and no row in it is flawed. -/
def SoundlyEmbeds (registry : Registry σ) (verified : Bool) (join : Join) (value : Json) : Prop :=
  ∃ rows, join.Embeds value rows ∧
    ∀ child, registry.model? join.childModel = some child → ∀ row ∈ rows, ¬child.FlawsRow verified row

theorem not_flawsRow_iff :
    ¬registry.FlawsRow registered joins verified row ↔
      ¬registered.columns.Collides (row.filter fun entry => Join.leaves joins entry.1) ∧
        (∀ entry ∈ Join.takings row [] joins, registry.SoundlyEmbeds verified entry.1 entry.2) ∧
        (verified = true → registered.model.Verifies (registry.assembled registered joins row)) := by
  constructor
  · intro sound
    refine ⟨fun collides => sound (.collision collides), fun entry member => ?_, fun isVerified => ?_⟩
    · obtain ⟨before, later, isJoin, isTaken⟩ := Join.mem_takings.mp member
      rw [List.nil_append] at isTaken
      have formed : ∃ rows, entry.1.Embeds entry.2 rows := by
        by_contra formless
        exact sound (.form isJoin fun rows embeds => formless ⟨rows, isTaken ▸ embeds⟩)
      obtain ⟨rows, embeds⟩ := formed
      refine ⟨rows, embeds, fun child isChild inner isInner flawed => ?_⟩
      exact sound (.child isJoin isChild (isTaken ▸ embeds) isInner flawed)
    · exact of_not_not fun fails => sound (.misfit isVerified fails)
  · rintro ⟨apart, embedded, verifies⟩ flawed
    have isTaken {earlier later : List Join} {join : Join} (isJoin : joins = earlier ++ join :: later) :
        registry.SoundlyEmbeds verified join (join.taken earlier row) :=
      embedded (join, join.taken earlier row) (Join.mem_takings.mpr ⟨earlier, later, isJoin, rfl⟩)
    cases flawed with
    | collision collides => exact apart collides
    | form isJoin formless =>
      obtain ⟨rows, embeds, -⟩ := isTaken isJoin
      exact formless rows embeds
    | child isJoin isChild embeds member flawed =>
      obtain ⟨rows, others, sound⟩ := isTaken isJoin
      obtain rfl := others.unique embeds
      exact sound _ isChild _ member flawed
    | misfit isVerified fails => exact fails (verifies isVerified)

/-- A row becomes the record that it stands for unless it is flawed. -/
theorem materializeRow_eq_ok_iff_sound
    (children : ∀ join ∈ joins, ∃ child, registry.model? join.childModel = some child) {record : Record} :
    registry.materializeRow registered joins verified row = .ok record ↔
      ¬registry.FlawsRow registered joins verified row ∧ registry.assembled registered joins row = record := by
  have each : ∀ entry ∈ (Join.detach joins row).1, ∀ value,
      registry.embedded registered verified entry.1 entry.2 = .ok value ↔
        registry.SoundlyEmbeds verified entry.1 (entry.2.getD entry.1.empty) ∧
          registry.renameEmbedded entry.1 (entry.2.getD entry.1.empty) = value := by
    intro entry member value
    have isJoin : entry.1 ∈ joins := Join.map_fst_detach joins row ▸ List.mem_map_of_mem member
    obtain ⟨child, isChild⟩ := children entry.1 isJoin
    rw [embedded_eq_ok isChild, SoundlyEmbeds]
    simp only [isChild, Option.some.injEq, forall_eq']
    exact ⟨fun ⟨rows, embeds, sound, same⟩ => ⟨⟨rows, embeds, sound⟩, same⟩,
      fun ⟨⟨rows, embeds, sound⟩, same⟩ => ⟨rows, embeds, sound, same⟩⟩
  have taken : (∀ entry ∈ (Join.detach joins row).1,
        registry.SoundlyEmbeds verified entry.1 (entry.2.getD entry.1.empty)) ↔
      ∀ entry ∈ Join.takings row [] joins, registry.SoundlyEmbeds verified entry.1 entry.2 := by
    rw [← Join.map_detach_eq, List.forall_mem_map]
  have renamed : (Join.fields joins).zip ((Join.detach joins row).1.map fun entry =>
        registry.renameEmbedded entry.1 (entry.2.getD entry.1.empty)) =
      (Join.takings row [] joins).map fun entry => (entry.1.field, registry.renameEmbedded entry.1 entry.2) := by
    rw [← Join.map_detach_eq, List.map_map]
    nth_rewrite 1 [← Join.map_fst_detach joins row]
    rw [Join.fields, List.map_map, List.zip_map']
    rfl
  rw [materializeRow_eq_ok_detached, not_flawsRow_iff]
  simp only [mapM_eq_ok_iff_of_each each, taken, Columns.raise_eq_ok_iff, Model.drift?_eq_none_iff]
  constructor
  · rintro ⟨_, _, ⟨apart, rfl⟩, ⟨sound, rfl⟩, rfl, verifies⟩
    rw [renamed] at verifies ⊢
    exact ⟨⟨apart, sound, verifies⟩, rfl⟩
  · rintro ⟨⟨apart, sound, verifies⟩, rfl⟩
    refine ⟨_, _, ⟨apart, rfl⟩, ⟨sound, rfl⟩, ?_, verifies⟩
    rw [renamed]
    rfl

/-- Under the field of the last join that has it a record holds what the join embeds, with records in place of
rows. -/
theorem get?_assembled {before later : List Join} (isLast : join.field ∉ Join.fields later) :
    Dictionary.get? (registry.assembled registered (before ++ join :: later) row) join.field =
      some (registry.renameEmbedded join (join.taken before row)) := by
  have untouched : join.field ∉ ((Join.takings row (before ++ [join]) later).map fun entry =>
      (entry.1.field, registry.renameEmbedded entry.1 entry.2)).map Prod.fst := by
    intro member
    rw [List.map_map] at member
    obtain ⟨entry, isEntry, isField⟩ := List.mem_map.mp member
    have isLater := List.mem_map_of_mem (f := Prod.fst) isEntry
    rw [Join.map_fst_takings] at isLater
    exact isLast (List.mem_map.mpr ⟨entry.1, isLater, isField⟩)
  rw [assembled, Join.takings_append, Join.takings, List.nil_append, List.map_append, List.map_cons,
    Dictionary.insertAll, List.foldl_append, List.foldl_cons]
  refine (Dictionary.get?_insertAll_of_notMem untouched).trans ?_
  rw [Dictionary.get?_insert, if_pos rfl]

theorem holdsEmbedded_assembled
    (children : ∀ join ∈ joins, ∃ child, registry.model? join.childModel = some child)
    (sound : ¬registry.FlawsRow registered joins verified row) (isJoin : join ∈ joins) :
    registry.HoldsEmbedded joins verified (registry.assembled registered joins row) join := by
  obtain ⟨before, last, later, rfl, isField, isLast⟩ :=
    Join.exists_last (List.mem_map_of_mem (f := Join.field) isJoin)
  obtain ⟨child, isChild⟩ := children last (List.mem_append_right _ (List.mem_cons_self ..))
  obtain ⟨-, embedded, -⟩ := not_flawsRow_iff.mp sound
  obtain ⟨rows, embeds, rowsSound⟩ := embedded (last, last.taken before row)
    (Join.mem_takings.mpr ⟨before, later, rfl, rfl⟩)
  refine ⟨before, last, later, child, _, _, rfl, isField, isLast, isChild, isField ▸ get?_assembled isLast,
    embeds_renameEmbedded embeds, fun isVerified record isRecord => ?_⟩
  obtain ⟨inner, isInner, rfl⟩ := List.mem_map.mp isRecord
  rw [childRecord_eq isChild]
  exact of_not_not fun fails => rowsSound child isChild inner isInner (.inr ⟨isVerified, fails⟩)

/-- Among joins with distinct fields each one has its own form in the record. -/
theorem HoldsEmbedded.own {record : Record} (distinct : (Join.fields joins).Nodup) (isJoin : join ∈ joins)
    (holds : registry.HoldsEmbedded joins verified record join) :
    ∃ child value embedded, registry.model? join.childModel = some child ∧
      Dictionary.get? record join.field = some value ∧ join.Embeds value embedded ∧
      (verified = true → ∀ inner ∈ embedded, child.model.Verifies inner) := by
  obtain ⟨before, last, later, child, value, embedded, isJoins, isField, -, isChild, held, embeds, verifies⟩ := holds
  have isLast : last ∈ joins := isJoins ▸ List.mem_append_right _ (List.mem_cons_self ..)
  obtain rfl := List.inj_on_of_nodup_map distinct isLast isJoin isField
  exact ⟨child, value, embedded, isChild, held, embeds, verifies⟩

theorem materialize_eq_ok_iff (children : ∀ join ∈ joins, ∃ child, registry.model? join.childModel = some child)
    {options : Meta} {rows records : List Record} :
    registry.materialize registered joins options rows = .ok records ↔
      (∀ row ∈ rows, ¬registry.FlawsRow registered joins (!options.skipVerification) row) ∧
        rows.map (registry.assembled registered joins) = records :=
  mapM_eq_ok_iff_of_each fun _ _ _ => materializeRow_eq_ok_iff_sound children

/-- The rows of an answer are refused exactly where one of them is flawed. Otherwise each of them becomes a record,
in the same order, that depends on the row alone. Under the field of every join this holds what is embedded there. If
records are verified, it has its key and everything that it holds fits. -/
theorem materialized_whole (children : ∀ join ∈ joins, ∃ child, registry.model? join.childModel = some child)
    (options : Meta) (rows : List Record) :
    let verified := !options.skipVerification
    ((∃ error, registry.materialize registered joins options rows = .error error) ↔
      ∃ row ∈ rows, registry.FlawsRow registered joins verified row) ∧
    ∀ records, registry.materialize registered joins options rows = .ok records →
      records = rows.map (registry.assembled registered joins) ∧
      ∀ record ∈ records, (∀ join ∈ joins, registry.HoldsEmbedded joins verified record join) ∧
        (verified = true → registered.model.Verifies record) := by
  intro verified
  constructor
  · cases result : registry.materialize registered joins options rows with
    | error error =>
      refine iff_of_true ⟨error, rfl⟩ ?_
      by_contra sound
      push Not at sound
      have done := (materialize_eq_ok_iff children).mpr ⟨sound, rfl⟩
      rw [result] at done
      cases done
    | ok records =>
      refine iff_of_false nofun ?_
      rintro ⟨row, member, flawed⟩
      exact ((materialize_eq_ok_iff children).mp result).1 row member flawed
  · intro records done
    obtain ⟨sound, rfl⟩ := (materialize_eq_ok_iff children).mp done
    refine ⟨rfl, fun record member => ?_⟩
    obtain ⟨row, isRow, rfl⟩ := List.mem_map.mp member
    obtain ⟨-, -, verifies⟩ := not_flawsRow_iff.mp (sound row isRow)
    exact ⟨fun join => holdsEmbedded_assembled children (sound row isRow), verifies⟩

/-- The pets of users, in a list. -/
def petsJoin : Join where
  field := "pets"
  parentKey := "id"
  childTable := "pet"
  childKey := "owner"
  childModel := "pet"
  collection := true

/-- A user is materialized with her pet. Beside a user whose pet has no key she is not. -/
theorem keylessPet_refused :
    ∃ (registry : Registry Store) (start finish : Run Store) (registered : RegisteredModel Store),
      result (build .usersAndPets [("memory", Store.adapter)] []) start = (.ok registry, finish) ∧
      registry.model? "user" = some registered ∧
      let ada : Record := [("full_name", .text "Ada"), ("id", .ofNat 1),
        ("pets", .list [.record [("id", .ofNat 9), ("owner", .ofNat 1)]])]
      let bob : Record := [("id", .ofNat 2), ("pets", .list [.record [("owner", .ofNat 2)]])]
      registry.materialize registered [petsJoin] {} [ada] = .ok [[("id", .ofNat 1), ("name", .text "Ada"),
        ("pets", .list [.record [("id", .ofNat 9), ("owner", .ofNat 1)]])]] ∧
      ∃ error, registry.materialize registered [petsJoin] {} [ada, bob] = .error error := by
  let start : Run Store := { environment := { keys := { draw := toString } } }
  let built := result (build .usersAndPets [("memory", Store.adapter)] []) start
  let ada : Record := [("full_name", .text "Ada"), ("id", .ofNat 1),
    ("pets", .list [.record [("id", .ofNat 9), ("owner", .ofNat 1)]])]
  let bob : Record := [("id", .ofNat 2), ("pets", .list [.record [("owner", .ofNat 2)]])]
  have facts {registry : Registry Store} (isBuilt : built.1 = .ok registry) :
      ∃ registered child, registry.model? "user" = some registered ∧ registry.model? "pet" = some child ∧
        (registry.materialize registered [petsJoin] {} [ada]).isOk = true ∧
        registry.assembled registered [petsJoin] ada = [("id", .ofNat 1), ("name", .text "Ada"),
          ("pets", .list [.record [("id", .ofNat 9), ("owner", .ofNat 1)]])] ∧
        ¬child.model.Verifies (child.columns.renamed [("owner", .ofNat 2)]) := by
    obtain rfl := Except.ok.inj isBuilt
    refine ⟨_, _, rfl, rfl, by cbv, by cbv, ?_⟩
    rintro ⟨⟨key, hasKey, -⟩, -⟩
  obtain ⟨registry, isBuilt⟩ : ∃ registry, built.1 = .ok registry := ⟨_, rfl⟩
  obtain ⟨registered, child, isUser, isPet, isOk, isAda, keyless⟩ := facts isBuilt
  have children : ∀ join ∈ [petsJoin], ∃ child, registry.model? join.childModel = some child :=
    List.forall_mem_singleton.mpr ⟨child, isPet⟩
  refine ⟨registry, start, _, registered, Prod.ext isBuilt rfl, isUser, ?_, ?_⟩
  · cases materialized : registry.materialize registered [petsJoin] {} [ada] with
    | error error =>
      rw [materialized] at isOk
      cases isOk
    | ok records =>
      obtain ⟨rfl, -⟩ := (materialized_whole children {} [ada]).2 records materialized
      rw [List.map_cons, List.map_nil, isAda]
  · refine (materialized_whole children {} [ada, bob]).1.mpr ⟨bob, .tail _ (.head _), ?_⟩
    exact .child (show [petsJoin] = [] ++ petsJoin :: [] from rfl) isPet (.list rfl [[("owner", .ofNat 2)]]) (.head _)
      (.inr ⟨rfl, keyless⟩)

/-- Where a second join has the field of the pets and embeds one record, a user has null there, not a list. -/
theorem repeatedField_null :
    ∃ (registry : Registry Store) (start finish : Run Store) (registered : RegisteredModel Store),
      result (build .usersAndPets [("memory", Store.adapter)] []) start = (.ok registry, finish) ∧
      registry.model? "user" = some registered ∧
      registry.materialize registered [petsJoin, { petsJoin with collection := false }] {}
        [[("id", .ofNat 1), ("pets", .list [])]] = .ok [[("id", .ofNat 1), ("pets", .null)]] ∧
      petsJoin.collection = true ∧ ∀ records, ¬petsJoin.Embeds .null records := by
  let start : Run Store := { environment := { keys := { draw := toString } } }
  let built := result (build .usersAndPets [("memory", Store.adapter)] []) start
  have facts {registry : Registry Store} (isBuilt : built.1 = .ok registry) :
      ∃ registered, registry.model? "user" = some registered ∧
        registry.materialize registered [petsJoin, { petsJoin with collection := false }] {}
          [[("id", .ofNat 1), ("pets", .list [])]] = .ok [[("id", .ofNat 1), ("pets", .null)]] := by
    obtain rfl := Except.ok.inj isBuilt
    exact ⟨_, rfl, by cbv⟩
  obtain ⟨registry, isBuilt⟩ : ∃ registry, built.1 = .ok registry := ⟨_, rfl⟩
  obtain ⟨registered, isUser, materialized⟩ := facts isBuilt
  refine ⟨registry, start, _, registered, Prod.ext isBuilt rfl, isUser, materialized, rfl, fun records embeds => ?_⟩
  cases embeds with
  | null singular => cases singular

end Registry

end RecordMapper
