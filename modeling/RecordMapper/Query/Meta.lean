import RecordMapper.Json.Document

/-! # Options of a query

Three switches that change how a query is carried out, not what it asks for.
-/

namespace RecordMapper

/-- Options of one query, all off unless set. -/
structure Meta where
  /-- A mutation answers with the records that it affected. -/
  fetch : Bool := false
  /-- No hook runs. -/
  skipHooks : Bool := false
  /-- Records from the adapter are not checked against the model. -/
  skipVerification : Bool := false
deriving DecidableEq, Repr, Inhabited

namespace Meta

/-- The names under which options are written, in the order of their list form. -/
def fieldNames : List String :=
  ["fetch", "skipAllLifecycleCallbacks", "skipRecordVerification"]

/-- Options as a JSON record. -/
def toJson (options : Meta) : Json :=
  .record [("fetch", .bool options.fetch), ("skipAllLifecycleCallbacks", .bool options.skipHooks),
    ("skipRecordVerification", .bool options.skipVerification)]

/-- The options that a document writes; an absent one is off. -/
def ofDocument? (document : Document) : Option Meta := do
  match ← document.fields? fieldNames with
  | [fetch, skipHooks, skipVerification] =>
    return {
      fetch := ← Document.defaulted? Document.bool? false fetch
      skipHooks := ← Document.defaulted? Document.bool? false skipHooks
      skipVerification := ← Document.defaulted? Document.bool? false skipVerification }
  | _ => none

end Meta

end RecordMapper
