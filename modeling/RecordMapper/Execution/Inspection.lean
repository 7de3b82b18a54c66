import RecordMapper.Execution.Handle

/-! # Inspection texts

A text for people who look for mistakes: the name of a structure and all its fields, with texts quoted
as in `Text.inspect`. What cannot be shown, such as a function, is shown as being there or not.
-/

namespace RecordMapper

/-- Parts between braces, which stand apart from them by a blank. -/
def inspectFields (name : String) (fields : List (String × String)) : String :=
  name ++ " \x7b " ++ ", ".intercalate (fields.map fun (field, text) => field ++ ": " ++ text) ++ " \x7d"

/-- An optional part. -/
def inspectOption {α : Type} (inspect : α → String) : Option α → String
  | some value => "Some(" ++ inspect value ++ ")"
  | none => "None"

namespace Json

mutual

/-- A value with the name of its kind. -/
def inspect : Json → String
  | .null => "Null"
  | .bool value => "Bool(" ++ toString value ++ ")"
  | .number value => "Number(" ++ value.text ++ ")"
  | .text content => "String(" ++ Text.inspect content ++ ")"
  | .list items => "Array [" ++ ", ".intercalate (inspectItems items) ++ "]"
  | .record fields => "Object \x7b" ++ ", ".intercalate (inspectEntries fields) ++ "\x7d"

/-- The items of a list. -/
def inspectItems : List Json → List String
  | [] => []
  | item :: rest => inspect item :: inspectItems rest

/-- The fields of a record, each after its quoted name. -/
def inspectEntries : List (String × Json) → List String
  | [] => []
  | (name, value) :: rest => (Text.inspect name ++ ": " ++ inspect value) :: inspectEntries rest

end

end Json

/-- Options with all their flags. -/
def Meta.inspect (options : Meta) : String :=
  inspectFields "Meta" [
    ("fetch", toString options.fetch),
    ("skip_all_lifecycle_callbacks", toString options.skipHooks),
    ("skip_record_verification", toString options.skipVerification)]

/-- A described query with all its parts. -/
def Description.inspect {σ : Type} (query : Description σ) : String :=
  inspectFields "QueryDescriptor" [
    ("method", query.method.name.capitalize),
    ("using", Text.inspect query.model),
    ("criteria", inspectOption Json.inspect query.criteria),
    ("values_to_set", inspectOption Json.inspect query.values),
    ("new_records", inspectOption Json.inspect query.records),
    ("numeric_attr_name", inspectOption Text.inspect query.numericAttribute),
    ("populates", inspectOption (fun entries =>
      "\x7b" ++ ", ".intercalate (Json.inspectEntries entries) ++ "\x7d") query.populates),
    ("each_record_fn", toString query.eachRecord.isSome),
    ("each_batch_fn", toString query.eachBatch.isSome),
    ("meta", query.options.inspect)]

/-- The places that have a hook. -/
def Hooks.inspect {σ : Type} (hooks : Hooks σ) : String :=
  inspectFields "LifecycleHooks" [("registered", Text.inspectList (hooks.registered.map HookName.name))]

/-- The model of a handle. -/
def Handle.inspect {σ : Type} (handle : Handle σ) : String :=
  inspectFields "ModelHandle" [("identity", Text.inspect handle.identity)]

end RecordMapper
