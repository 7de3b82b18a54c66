import RecordMapper.Execution.Streaming
import RecordMapper.Proofs.Query.Lowering

/-! # Pages of a query

A page of a query is the same query with a skip and a limit of its own. Lowering a query and turning
to a page of it can be done in either order.
-/

namespace RecordMapper

open Results

namespace Criteria

/-- The criteria with another skip and another limit. -/
def page (criteria : Criteria) (skip : Nat) (limit : Option Nat) : Criteria :=
  { criteria with skip, limit }

theorem resolveOmission_page (model : Model) (criteria : Criteria) (skip : Nat) (limit : Option Nat) :
    LogicalQuery.resolveOmission model (criteria.page skip limit) =
      (LogicalQuery.resolveOmission model criteria).page skip limit := by
  unfold LogicalQuery.resolveOmission page
  dsimp only
  split <;> rfl

theorem showing_page (name : String) (criteria : Criteria) (skip : Nat) (limit : Option Nat) :
    LogicalQuery.showing name (criteria.page skip limit) =
      (LogicalQuery.showing name criteria).page skip limit := by
  unfold LogicalQuery.showing page
  dsimp only
  split
  · split <;> rfl
  · rfl

theorem showKeys_page (joins : List Join) (criteria : Criteria) (skip : Nat) (limit : Option Nat) :
    LogicalQuery.showKeys (criteria.page skip limit) joins =
      (LogicalQuery.showKeys criteria joins).page skip limit := by
  unfold LogicalQuery.showKeys
  induction joins generalizing criteria with
  | nil => rfl
  | cons join rest ih =>
    rw [List.foldl_cons, List.foldl_cons, ← ih]
    cases join.collection with
    | true => rfl
    | false => simp only [Bool.false_eq_true, if_false, showing_page]

theorem rename_page {ε : Type} {name : String → Except ε String} {criteria renamed : Criteria}
    (done : criteria.rename name = .ok renamed) (skip : Nat) (limit : Option Nat) :
    (criteria.page skip limit).rename name = .ok (renamed.page skip limit) := by
  obtain ⟨clause, sort, selection, omission, -, -⟩ := rename_eq_ok.mp done
  exact rename_eq_ok.mpr ⟨clause, sort, selection, omission, rfl, rfl⟩

end Criteria

/-- A lowered query skips and keeps as many records as the query. -/
theorem LogicalQuery.LoweredTo.page_eq {σ : Type} {registry : Registry σ}
    {registered : RegisteredModel σ} {query : LogicalQuery σ} {physical : PhysicalQuery}
    (made : query.LoweredTo registered registry physical) :
    physical.criteria.skip = query.criteria.skip ∧ physical.criteria.limit = query.criteria.limit := by
  obtain ⟨-, -, -, -, limit, skip⟩ := Criteria.rename_eq_ok.mp made.criteria
  have page : showKeys (resolveOmission registered.model query.criteria) physical.joins =
      (showKeys (resolveOmission registered.model query.criteria) physical.joins).page query.criteria.skip
        query.criteria.limit := by
    rw [← Criteria.showKeys_page, ← Criteria.resolveOmission_page]
    rfl
  rw [page] at limit skip
  exact ⟨skip, limit⟩

/-- The physical query that reads one page. -/
def PhysicalQuery.page (query : PhysicalQuery) (skip : Nat) (limit : Option Nat) : PhysicalQuery :=
  { query with method := .find, criteria := query.criteria.page skip limit }

theorem Registry.lower_batchQuery {σ : Type} {registry : Registry σ}
    {registered : RegisteredModel σ} {query : LogicalQuery σ} {physical : PhysicalQuery}
    (lowered : query.lower registered registry = .ok physical) (skip limit : Nat) :
    (batchQuery query skip limit).lower registered registry = .ok (physical.page skip (some limit)) := by
  have parts := LogicalQuery.lower_eq_ok.mp lowered
  refine LogicalQuery.lower_eq_ok.mpr ⟨rfl, parts.table_eq, parts.options_eq, parts.joins, ?_, parts.values,
    parts.records, parts.numericColumn⟩
  change (LogicalQuery.showKeys (LogicalQuery.resolveOmission registered.model
    (query.criteria.page skip (some limit))) physical.joins).rename _ = _
  rw [Criteria.resolveOmission_page, Criteria.showKeys_page]
  exact Criteria.rename_page parts.criteria skip (some limit)

end RecordMapper
