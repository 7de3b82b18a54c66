import Mathlib.Data.List.Nodup
import RecordMapper.Json.Basic
import RecordMapper.Proofs.Model.Lossless

/-! # Records that are settled by their columns

A record shows under the name of an attribute what its row holds in the column of the attribute, and also a field of
that name which no attribute has as its column. A row with such a field strays. The column of the attribute is empty
there, and in every other row it holds what the record shows.
-/

namespace RecordMapper

/-- The numbers that records hold under a name, as doubles, in their order. -/
def Record.numbers (name : String) (records : List Record) : List Double :=
  records.filterMap fun record => (Dictionary.get? record name).bind Json.double?

namespace Columns

/-- A row holds a field under the name of an attribute which no attribute has as its column. -/
def strays (columns : Columns) (name : String) (row : Record) : Bool :=
  Dictionary.contains row name && (columns.attribute? name).isNone

/-- Those of the records of rows whose rows do not stray. -/
def settled (columns : Columns) (name : String) (rows records : List Record) : List Record :=
  ((rows.zip records).filter fun pair => !columns.strays name pair.1).map Prod.snd

/-- Where no row strays, all records are settled. -/
theorem settled_eq {columns : Columns} {name : String} {rows records : List Record}
    (lengths : records.length = rows.length) (noneStrays : ∀ row ∈ rows, columns.strays name row = false) :
    columns.settled name rows records = records := by
  have all : ((rows.zip records).filter fun pair => !columns.strays name pair.1) = rows.zip records := by
    apply List.filter_eq_self.mpr
    intro pair member
    rw [noneStrays pair.1 (List.of_mem_zip member).1]
    rfl
  rw [settled, all, List.map_snd_zip (Nat.le_of_eq lengths)]

variable {model : Model} {models : List Model} (valid : model.Valid models) {name column : String}

include valid

/-- The column of an attribute holds what a record shows as the attribute, unless the row strays; then it holds
nothing. -/
theorem get?_column_of_raise {row record : Record} (raised : (ofModel model).raise row = .ok record)
    (stored : model.StoresIn name column) :
    Dictionary.get? row column =
      if (ofModel model).strays name row then none else Dictionary.get? record name := by
  have distinct := (raise_eq_ok.mp raised).1
  have isName : (ofModel model).nameOf column = name := (nameOf_eq_iff valid).mpr (.inl stored)
  have claimed : (ofModel model).attribute? column = some name := (attribute?_eq_some_iff valid).mpr stored
  split
  · next strays =>
    -- the stray field and the column would be raised under one name
    rw [Columns.strays, Bool.and_eq_true, Option.isNone_iff_eq_none] at strays
    obtain ⟨present, unclaimed⟩ := strays
    obtain ⟨other, isOther⟩ := Dictionary.exists_get?_iff.mpr (Dictionary.contains_iff.mp present)
    rw [Dictionary.get?_eq_none_iff]
    intro member
    obtain ⟨value, isValue⟩ := Dictionary.exists_get?_iff.mpr member
    have both : (ofModel model).nameOf column = (ofModel model).nameOf name := by
      rw [isName, nameOf, unclaimed, Option.getD_none]
    have same :=
      List.inj_on_of_nodup_map distinct (Dictionary.mem_of_get? isValue) (Dictionary.mem_of_get? isOther) both
    rw [(Prod.mk.inj same).1, unclaimed] at claimed
    cases claimed
  · next settles =>
    have nodup : (Dictionary.names row).Nodup := by
      apply List.Nodup.of_map (ofModel model).nameOf
      rw [Dictionary.names, List.map_map]
      exact distinct
    apply Option.ext
    intro value
    rw [get?_raise raised]
    constructor
    · intro held
      exact ⟨column, Dictionary.mem_of_get? held, isName⟩
    · rintro ⟨other, member, named⟩
      rcases (nameOf_eq_iff valid).mp named with claims | ⟨unclaimed, rfl⟩
      · have same := (column_eq_ok_iff.mpr stored).symm.trans (column_eq_ok_iff.mpr claims)
        rw [Except.ok.inj same]
        exact Dictionary.get?_of_mem nodup member
      · exfalso
        apply settles
        rw [Columns.strays, Bool.and_eq_true, Option.isNone_iff_eq_none]
        refine ⟨Dictionary.contains_iff.mpr (List.mem_map_of_mem member), ?_⟩
        apply Option.eq_none_iff_forall_not_mem.mpr
        intro other claims
        exact unclaimed other ((attribute?_eq_some_iff valid).mp claims)

/-- The numbers in a column of rows are those of the attribute in their settled records. -/
theorem numbers_column {rows records : List Record}
    (raised : List.Forall₂ (fun row record => (ofModel model).raise row = .ok record) rows records)
    (stored : model.StoresIn name column) :
    Record.numbers column rows = Record.numbers name ((ofModel model).settled name rows records) := by
  induction raised with
  | nil => rfl
  | @cons row record rows records here _ ih =>
    have held := get?_column_of_raise valid here stored
    unfold Record.numbers settled at ih ⊢
    rw [List.filterMap_cons, List.zip_cons_cons, List.filter_cons, held]
    cases (ofModel model).strays name row with
    | true => exact ih
    | false =>
      simp only [Bool.not_false, if_true, List.map_cons, List.filterMap_cons, Bool.false_eq_true, if_false]
      rw [ih]

end Columns

end RecordMapper
