import RecordMapper.Criteria.Reading
import RecordMapper.Model.Values
import RecordMapper.Query.Description
import RecordMapper.Registry.Basic

/-! # Logical queries

A `LogicalQuery` is a described query that was checked: the parts its method takes are there and in
one form, the others are not, and all names are attributes. `Description.compile` makes it. The checks
have a fixed order, and the first that does not pass decides the answer, be it a fault or a noop.
-/

namespace RecordMapper

/-- A checked query in terms of models and attributes. -/
structure LogicalQuery (σ : Type) where
  method : Method
  /-- The identity of the model. -/
  model : String
  criteria : Criteria := {}
  /-- The values that an update sets. -/
  values : Option Record := none
  /-- The records that a create adds. -/
  records : List Record := []
  /-- The attribute to aggregate over. -/
  numericAttribute : Option String := none
  /-- The associations to embed, each with the criteria of its records; without criteria there are
  none. -/
  populates : Dictionary (Option Criteria) := []
  iteratee : Option (Iteratee σ) := none
  options : Meta := {}

namespace Description

variable {σ : Type}

/-- The first part that the method does not take, and what it is called. -/
def unexpected? (query : Description σ) : Option (QueryPart × String) :=
  if query.criteria.isSome && !query.method.takesCriteria then some (.criteria, "criteria")
  else if query.values.isSome && !query.method.takesValues then some (.values, "values to set")
  else if query.records.isSome && !query.method.takesRecords then some (.records, "new records")
  else if query.numericAttribute.isSome && !query.method.takesNumericAttribute then
    some (.numericAttribute, "a numeric attribute name")
  else if query.populates.isSome && !query.method.takesPopulates then some (.populates, "populates")
  else if (query.eachRecord.isSome || query.eachBatch.isSome) && query.method ≠ .stream then
    some (.iteratee, "an iteratee")
  else none

/-- Only parts that the method takes may be there. -/
def checkParts (query : Description σ) : Except CompileError Unit :=
  match query.unexpected? with
  | some (part, called) => .error (.invalid part s!"`.{query.method.name}()` does not take {called}")
  | none => .ok ()

/-- The criteria of a method that takes them. -/
def compileCriteria (query : Description σ) (model : Model) : Except CompileError Criteria :=
  if query.method.takesCriteria then Criteria.read model query.method query.criteria else .ok {}

/-- The values of a method that needs them. -/
def compileValues (query : Description σ) (model : Model) (now : Instant) :
    Except CompileError (Option Record) :=
  match query.method.takesValues, query.values with
  | true, some raw => (model.compileChanges now raw).map some
  | true, none => .error (.invalid .values ValueFault.noValues.message)
  | false, _ => .ok none

/-- The new records of a method that needs them. -/
def compileRecords (query : Description σ) (model : Model) (now : Instant) :
    Except CompileError (List Record) :=
  match query.method, query.records with
  | .create, some raw => (model.compileRecord now raw).map ([·])
  | .createEach, some raw => model.compileRecords now raw
  | .create, none | .createEach, none => .error (.invalid .records ValueFault.noRecords.message)
  | _, _ => .ok []

/-- The attribute to aggregate over, which has to be a number. -/
def compileNumericAttribute (query : Description σ) (model : Model) :
    Except CompileError (Option String) :=
  if query.method.takesNumericAttribute then
    match query.numericAttribute with
    | none => .error (.invalid .numericAttribute "A numeric attribute name must be provided")
    | some name =>
      match model.kind? name with
      | some (.scalar .number) => .ok (some name)
      | some _ => .error (.invalid .numericAttribute s!"`{name}` is not a number attribute")
      | none =>
        .error (.invalid .numericAttribute s!"Unknown attribute `{name}` of model `{model.identity}`")
  else .ok none

/-- The criteria given for an association, unless they are a mark that there are none. -/
def subcriteria? : Json → Option Json
  | .bool true | .null | .record [] => none
  | raw => some raw

/-- The model of an association that may be embedded with the given criteria. -/
def associated (registry : Registry σ) (model : Model) (name : String) (subcriteria : Option Json) :
    Except CompileError Model := do
  let fault {α : Type} (details : String) : Except CompileError α := .error (.invalid .populates details)
  let target ←
    match model.kind? name with
    | none => fault s!"Unknown association `{name}` of model `{model.identity}`"
    | some (.model target) =>
      if subcriteria.isSome then
        fault s!"`{name}` is a singular association and cannot take subcriteria"
      else pure target
    | some (.collection target _) => pure target
    | some (.scalar _) => fault s!"`{name}` is not an association"
  match registry.model? target with
  | none => fault s!"Unknown model `{target}`"
  | some child =>
    if child.datastore = model.datastore then return child.model
    else
      fault <| s!"`{target}` lives in datastore `{child.datastore}`; cross-datastore populates are not " ++
        "supported"

/-- One association to embed. Criteria that can never match are not a noop of the query: the
association is embedded empty. -/
def compilePopulate (registry : Registry σ) (model : Model) (entry : String × Json) :
    Except CompileError (String × Option Criteria) := do
  let (name, raw) := entry
  let subcriteria := subcriteria? raw
  let child ← associated registry model name subcriteria
  match Criteria.read child .find subcriteria with
  | .ok criteria => return (name, some criteria)
  | .error (.noop _) => return (name, none)
  | .error error =>
    .error (.invalid .populates s!"Invalid subcriteria for `{name}`: {error.details}")

/-- The associations to embed. -/
def compilePopulates (query : Description σ) (registry : Registry σ) (model : Model) :
    Except CompileError (Dictionary (Option Criteria)) :=
  match query.populates with
  | some entries => entries.mapM (compilePopulate registry model)
  | none => .ok []

/-- The one iteratee of a stream. -/
def compileIteratee (query : Description σ) : Except CompileError (Option (Iteratee σ)) :=
  match query.method, query.eachRecord, query.eachBatch with
  | .stream, some call, none => .ok (some (.eachRecord call))
  | .stream, none, some call => .ok (some (.eachBatch call))
  | .stream, some _, some _ =>
    .error (.invalid .iteratee "Both `each_record` and `each_batch` were provided")
  | .stream, none, none =>
    .error (.invalid .iteratee "Neither `each_record` nor `each_batch` was provided")
  | _, _, _ => .ok none

/-- The checked form of a described query. All records of a query get the same time. -/
def compile (query : Description σ) (registry : Registry σ) (now : Instant) :
    Except CompileError (LogicalQuery σ) := do
  let registered ←
    match registry.model? query.model with
    | some registered => .ok registered
    | none => .error (.invalid .criteria s!"Unknown model `{query.model}`")
  let model := registered.model
  query.checkParts
  let criteria ← query.compileCriteria model
  let values ← query.compileValues model now
  let records ← query.compileRecords model now
  let numericAttribute ← query.compileNumericAttribute model
  let populates ← query.compilePopulates registry model
  let iteratee ← query.compileIteratee
  return { query with criteria, values, records, numericAttribute, populates, iteratee }

end Description

end RecordMapper
