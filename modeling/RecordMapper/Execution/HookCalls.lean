import RecordMapper.Execution.Run
import RecordMapper.Query.Logical

/-! # Calling hooks

A hook is called once for each record, or once for the criteria of a destroy, in order; the first one
that fails ends the operation. Options can turn all hooks off.
-/

namespace RecordMapper

namespace RegisteredModel

variable {σ : Type}

/-- What a hook makes of its payload, or its failure as an error of the operation. -/
def callHook {α : Type} (registered : RegisteredModel σ) (name : HookName) (note : HookPayload)
    (hook : Hook σ α) (payload : α) : Execution σ α := do
  match ← Run.call (.hooked registered.identity name note) (hook payload) with
  | .ok payload => return payload
  | .error message => throw (.hook registered.identity name message)

/-- What the hook for records at a place makes of one; without a hook the record itself. -/
def callRecordHook (registered : RegisteredModel σ) (options : Meta) (name : HookName)
    (record : Record) : Execution σ Record :=
  match registered.hooks.recordHook? name with
  | some hook =>
    if options.skipHooks then return record
    else registered.callHook name (.record record) hook record
  | none => return record

/-- What the hook before a destroy makes of its criteria; without a hook the criteria themselves. -/
def callCriteriaHook (registered : RegisteredModel σ) (options : Meta) (criteria : Criteria) :
    Execution σ Criteria :=
  match registered.hooks.beforeDestroy with
  | some hook =>
    if options.skipHooks then return criteria
    else registered.callHook .beforeDestroy (.criteria criteria) hook criteria
  | none => return criteria

/-- What the hooks before a mutation make of its query. -/
def callBefore (registered : RegisteredModel σ) (query : LogicalQuery σ) :
    Execution σ (LogicalQuery σ) := do
  match query.method with
  | .create | .createEach =>
    let records ← query.records.mapM (registered.callRecordHook query.options .beforeCreate)
    return { query with records }
  | .update =>
    match query.values with
    | some values =>
      let values ← registered.callRecordHook query.options .beforeUpdate values
      return { query with values := some values }
    | none => return query
  | .destroy =>
    let criteria ← registered.callCriteriaHook query.options query.criteria
    return { query with criteria }
  | _ => return query

end RegisteredModel

/-- The place of the hook for the records that a mutation affected. -/
def HookName.after? : Method → Option HookName
  | .create | .createEach => some .afterCreate
  | .update => some .afterUpdate
  | .destroy => some .afterDestroy
  | _ => none

/-- What the hooks after a method make of the records it affected. -/
def RegisteredModel.callAfter {σ : Type} (registered : RegisteredModel σ) (method : Method)
    (options : Meta) (records : List Record) : Execution σ (List Record) :=
  match HookName.after? method with
  | some name => records.mapM (registered.callRecordHook options name)
  | none => return records

end RecordMapper
