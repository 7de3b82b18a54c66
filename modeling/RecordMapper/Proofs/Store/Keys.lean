import Mathlib.Data.List.Forall2
import RecordMapper.Proofs.Model.Rows
import RecordMapper.Proofs.Store.Uniqueness

/-! # Keys that a table fills in

A table knows the key of its rows by its column and fills it in where a new row has none. Seen from the
records of a model, it fills in their key if that column is the one of the model's key.
-/

namespace RecordMapper

namespace Record

/-- A record holds something under a field. -/
def Has (field : String) (record : Record) : Prop :=
  ∃ value, Json.present? (Dictionary.get? record field) = some value

/-- A record before and after it got a key: a key that it has stays, and otherwise one is filled in. -/
inductive Keyed (field : String) (before : Record) : Record → Prop where
  | kept (has : before.Has field) : Keyed field before before
  | filled {value : Json} (absent : Json.present? (Dictionary.get? before field) = none)
      (notNull : value.isNull = false) : Keyed field before (Dictionary.insert before field value)

variable {field : String} {before after : Record}

theorem not_has_iff : ¬before.Has field ↔ Json.present? (Dictionary.get? before field) = none := by
  unfold Has
  cases Json.present? (Dictionary.get? before field) <;> simp

theorem has_insert {value : Json} (notNull : value.isNull = false) :
    Has field (Dictionary.insert before field value) := by
  refine ⟨value, ?_⟩
  rw [Dictionary.get?_insert, if_pos rfl]
  simp [Json.present?, Option.filter, notNull]

/-- A record that got a key has it. -/
theorem Keyed.has (keyed : Keyed field before after) : after.Has field := by
  cases keyed with
  | kept has => exact has
  | filled absent notNull => exact has_insert notNull

/-- A record that has a key stays as it is. -/
theorem Keyed.eq_of_has (keyed : Keyed field before after) (has : before.Has field) : after = before := by
  cases keyed with
  | kept => rfl
  | filled absent => exact absurd has (not_has_iff.mpr absent)

/-- What a record holds under another field stays. -/
theorem Keyed.get?_other (keyed : Keyed field before after) {other : String} (apart : field ≠ other) :
    Dictionary.get? after other = Dictionary.get? before other := by
  cases keyed with
  | kept => rfl
  | filled => rw [Dictionary.get?_insert, if_neg apart]

/-- Records that have a key stay as they are. -/
theorem eq_of_forall₂_keyed {records keyed : List Record} (each : List.Forall₂ (Keyed field) records keyed)
    (has : ∀ record ∈ records, record.Has field) : keyed = records := by
  induction each with
  | nil => rfl
  | cons here _ ih =>
    obtain ⟨hasHere, hasLater⟩ := List.forall_mem_cons.mp has
    rw [here.eq_of_has hasHere, ih hasLater]

theorem forall₂_keyed_self {records : List Record} (has : ∀ record ∈ records, record.Has field) :
    List.Forall₂ (Keyed field) records records :=
  List.forall₂_same.mpr fun record member => .kept (has record member)

/-- Records that agree in a field which was set hold equal values there. -/
theorem same_of_agree_insert {field : String} {first second : Record} {value other : Json}
    (agree : Agree field (Dictionary.insert first field value) (Dictionary.insert second field other)) :
    value.same other = true := by
  obtain ⟨held, found, isHeld, isFound, -, same⟩ := agree
  rw [Dictionary.get?_insert, if_pos rfl, Option.some.injEq] at isHeld isFound
  rw [isHeld, isFound]
  exact same

end Record

namespace Table

theorem keyed_spec (table : Table) (supply : KeySupply) (row : Record) :
    row.Keyed table.definition.primaryKey (table.keyed supply row).1 := by
  unfold keyed
  dsimp only
  cases held : Json.present? (Dictionary.get? row table.definition.primaryKey) with
  | some value =>
    dsimp only
    split
    · exact .kept ⟨value, held⟩
    · exact .kept ⟨value, held⟩
  | none =>
    dsimp only
    split
    · exact .filled held rfl
    · exact .filled held rfl

/-- Every row of a batch gets a key. -/
theorem keyedAll_spec (table : Table) (supply : KeySupply) (batch : List Record) :
    List.Forall₂ (Record.Keyed table.definition.primaryKey) batch (table.keyedAll supply batch) := by
  induction batch generalizing table supply with
  | nil => exact .nil
  | cons row rest ih =>
    have later := ih (table.keyed supply row).2.1 (table.keyed supply row).2.2
    rw [keyed_definition] at later
    exact .cons (table.keyed_spec supply row) later

/-- A row that lacks a key gets the next number, or a fresh text. -/
theorem keyed_of_absent (table : Table) {row : Record} (lacks : ¬row.Has table.definition.primaryKey)
    (supply : KeySupply) :
    table.keyed supply row =
      if table.definition.autoIncrement then
        (Dictionary.insert row table.definition.primaryKey (.ofNat table.nextNumber.toNat),
          { table with nextNumber := table.nextNumber + 1 }, supply)
      else
        (Dictionary.insert row table.definition.primaryKey (.text supply.next.1), table, supply.next.2) := by
  unfold keyed
  dsimp only
  rw [Record.not_has_iff.mp lacks]

/-- The key that a row gets is a number if the table numbers its rows, and otherwise a text. -/
theorem get?_keyed_of_absent (table : Table) {row : Record} (lacks : ¬row.Has table.definition.primaryKey)
    (supply : KeySupply) :
    ∃ value, Dictionary.get? (table.keyed supply row).1 table.definition.primaryKey = some value ∧
      if table.definition.autoIncrement then value.isNumber = true else value.isText = true := by
  rw [keyed_of_absent table lacks]
  cases table.definition.autoIncrement with
  | true => exact ⟨.ofNat table.nextNumber.toNat, by simp [Dictionary.get?_insert], rfl⟩
  | false => exact ⟨.text supply.next.1, by simp [Dictionary.get?_insert], rfl⟩

/-- Each row of a batch stays as it is, or it gets a key. -/
theorem mem_keyedAll {table : Table} {supply : KeySupply} {batch : List Record} {row : Record}
    (member : row ∈ table.keyedAll supply batch) :
    row ∈ batch ∨ ∃ value, Dictionary.get? row table.definition.primaryKey = some value ∧
      if table.definition.autoIncrement then value.isNumber = true else value.isText = true := by
  induction batch generalizing table supply with
  | nil => cases member
  | cons first rest ih =>
    change row ∈ (table.keyed supply first).1 ::
      (table.keyed supply first).2.1.keyedAll (table.keyed supply first).2.2 rest at member
    rcases List.mem_cons.mp member with isFirst | later
    · subst isFirst
      by_cases has : first.Has table.definition.primaryKey
      · rw [(table.keyed_spec supply first).eq_of_has has]
        exact .inl (List.mem_cons_self ..)
      · exact .inr (table.get?_keyed_of_absent has supply)
    · have laterCases := ih later
      rw [keyed_definition] at laterCases
      exact laterCases.imp_left (List.mem_cons_of_mem _)

/-- Two rows that both have a key, or both lack one, do not come to agree through the keys that they get one
after the other, if no text is drawn twice. -/
theorem agree_of_agree_keyed {table : Table} {supply : KeySupply} (draws : Function.Injective supply.draw)
    {first second : Record} {column : String}
    (alike : first.Has table.definition.primaryKey ↔ second.Has table.definition.primaryKey)
    (agree : Record.Agree column (table.keyed supply first).1
      ((table.keyed supply first).2.1.keyed (table.keyed supply first).2.2 second).1) :
    Record.Agree column first second := by
  have firstKeyed := table.keyed_spec supply first
  have secondKeyed := (table.keyed supply first).2.1.keyed_spec (table.keyed supply first).2.2 second
  rw [keyed_definition] at secondKeyed
  by_cases has : first.Has table.definition.primaryKey
  · rwa [firstKeyed.eq_of_has has, secondKeyed.eq_of_has (alike.mp has)] at agree
  · by_cases isKey : table.definition.primaryKey = column
    · subst isKey
      have here := table.keyed_of_absent has supply
      have lacksToo := mt alike.mpr has
      cases numbered : table.definition.autoIncrement with
      | true =>
        rw [if_pos numbered] at here
        have there : Table.keyed { table with nextNumber := table.nextNumber + 1 } supply second = _ :=
          keyed_of_absent { table with nextNumber := table.nextNumber + 1 } lacksToo supply
        rw [if_pos numbered] at there
        rw [here, there] at agree
        have same := Record.same_of_agree_insert agree
        simp only [Json.ofNat, Json.same, Number.same, UInt64.toNat_add, UInt64.toNat_one, beq_iff_eq] at same
        omega
      | false =>
        rw [if_neg (by simp [numbered])] at here
        have there : table.keyed supply.next.2 second = _ := table.keyed_of_absent lacksToo supply.next.2
        rw [if_neg (by simp [numbered])] at there
        rw [here, there] at agree
        have same := Record.same_of_agree_insert agree
        simp [Json.same, KeySupply.next, draws.eq_iff] at same
    · refine (Record.agree_congr ?_ ?_).mp agree
      · exact firstKeyed.get?_other isKey
      · exact secondKeyed.get?_other isKey

end Table

namespace Columns

variable {columns : Columns} {key column : String}

theorem Faithful.has_rowOf_iff (faithful : columns.Faithful) {record : Record}
    (storable : columns.Storable record) (found : columns.column key = .ok column) :
    (columns.rowOf record).Has column ↔ record.Has key := by
  rw [Record.Has, Record.Has, faithful.get?_rowOf storable found]

/-- A record that gets its key stays one that a table can keep. -/
theorem Storable.keyed {before after : Record} (storable : columns.Storable before)
    (keyed : before.Keyed key after) (found : columns.column key = .ok column) : columns.Storable after := by
  cases keyed with
  | kept => exact storable
  | filled => exact storable.insert found _

theorem storable_of_forall₂_keyed (found : columns.column key = .ok column) {records created : List Record}
    (each : ∀ record ∈ records, columns.Storable record)
    (keyed : List.Forall₂ (Record.Keyed key) records created) : ∀ record ∈ created, columns.Storable record := by
  induction keyed with
  | nil => simp
  | cons here _ ih =>
    obtain ⟨storable, later⟩ := List.forall_mem_cons.mp each
    exact List.forall_mem_cons.mpr ⟨storable.keyed here found, ih later⟩

namespace Faithful

variable (faithful : columns.Faithful) (found : columns.column key = .ok column)

include faithful found

/-- If the row of a record gets its key, so does the record. -/
theorem exists_keyed {before row : Record} (storable : columns.Storable before)
    (keyed : (columns.rowOf before).Keyed column row) :
    ∃ after, before.Keyed key after ∧ columns.rowOf after = row := by
  cases keyed with
  | kept has => exact ⟨before, .kept ((faithful.has_rowOf_iff storable found).mp has), rfl⟩
  | @filled value absent notNull =>
    rw [faithful.get?_rowOf storable found] at absent
    exact ⟨_, .filled absent notNull, faithful.rowOf_insert storable found value⟩

/-- If the rows of records get their keys, so do the records. -/
theorem exists_forall₂_keyed {records rows : List Record}
    (each : ∀ record ∈ records, columns.Storable record)
    (keyed : List.Forall₂ (Record.Keyed column) (records.map columns.rowOf) rows) :
    ∃ created, List.Forall₂ (Record.Keyed key) records created ∧ created.map columns.rowOf = rows := by
  induction records generalizing rows with
  | nil =>
    cases keyed
    exact ⟨[], .nil, rfl⟩
  | cons record rest ih =>
    obtain ⟨storable, later⟩ := List.forall_mem_cons.mp each
    cases keyed with
    | cons here there =>
      obtain ⟨after, isKeyed, rfl⟩ := faithful.exists_keyed found storable here
      obtain ⟨created, areKeyed, rfl⟩ := ih later there
      exact ⟨after :: created, .cons isKeyed areKeyed, rfl⟩

/-- A record and its row can get keys of different columns only where neither of them needs one. -/
theorem has_of_keyed {before after : Record} {other : String} (apart : column ≠ other)
    (storable : columns.Storable before) (keyed : before.Keyed key after)
    (rowKeyed : (columns.rowOf before).Keyed other (columns.rowOf after)) :
    before.Has key ∧ (columns.rowOf before).Has other := by
  have same := rowKeyed.get?_other (Ne.symm apart)
  rw [faithful.get?_rowOf (storable.keyed keyed found) found, faithful.get?_rowOf storable found] at same
  have has : before.Has key := by
    have got := keyed.has
    rwa [Record.Has, same] at got
  refine ⟨has, ?_⟩
  have rowHas := rowKeyed.has
  rwa [keyed.eq_of_has has] at rowHas

/-- Records and their rows can get keys of different columns only where none of them needs one. -/
theorem has_of_forall₂_keyed {records created : List Record} {other : String} (apart : column ≠ other)
    (each : ∀ record ∈ records, columns.Storable record)
    (keyed : List.Forall₂ (Record.Keyed key) records created)
    (rowsKeyed : List.Forall₂ (Record.Keyed other) (records.map columns.rowOf) (created.map columns.rowOf)) :
    ∀ record ∈ records, record.Has key ∧ (columns.rowOf record).Has other := by
  induction keyed with
  | nil => simp
  | cons here _ ih =>
    obtain ⟨storable, later⟩ := List.forall_mem_cons.mp each
    cases rowsKeyed with
    | cons rowHere rowsLater =>
      exact List.forall_mem_cons.mpr
        ⟨faithful.has_of_keyed found apart storable here rowHere, ih later rowsLater⟩

end Faithful

end Columns

end RecordMapper
