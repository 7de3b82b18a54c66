import RecordMapper.Criteria.Matching
import RecordMapper.Criteria.Sorting

/-! # What criteria select

`Criteria.select` picks out of a list of records those that are meant, in the order that is asked for,
and `Record.project` cuts a record down to the fields that are shown.
-/

namespace RecordMapper

/-- The first records of a list; without a limit all of them. -/
def takeUpTo {α : Type} : Option Nat → List α → List α
  | none, items => items
  | some limit, items => items.take limit

namespace Criteria

/-- The records that match, in order, without those that are skipped and those beyond the limit. -/
def select (criteria : Criteria) (records : List Record) : List Record :=
  takeUpTo criteria.limit
    ((SortTerm.arrange criteria.sort (records.filter fun record => criteria.clause.accepts record)).drop
      criteria.skip)

end Criteria

/-- A record cut down to selected fields and those that are always shown; without a selection all. -/
def Record.project (selection : Option (List String)) (always : List String) (record : Record) : Record :=
  match selection with
  | none => record
  | some names => record.filter fun entry => names.contains entry.1 || always.contains entry.1

end RecordMapper
