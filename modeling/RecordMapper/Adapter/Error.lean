import RecordMapper.Json.Printer

/-! # Errors of adapters and their footprints

A footprint is a JSON value by which an adapter says what went wrong. It comes from outside, so it is
read defensively: `Footprint.ofJson?` recognizes only a record with an identity and, if it names keys,
a list of texts.
-/

namespace RecordMapper

/-- What an adapter answers when it fails. -/
inductive AdapterError where
  | failure (message : String) (footprint : Option Json)
  /-- A value that is no error. -/
  | malformed (value : Json)
deriving Inhabited

namespace AdapterError

/-- A failure without a footprint. -/
def ofMessage (message : String) : AdapterError := .failure message none

/-- The error with a footprint; what is no error cannot have one. -/
def withFootprint (footprint : Json) : AdapterError → AdapterError
  | .failure message _ => .failure message (some footprint)
  | .malformed value => .malformed value

/-- The footprint, if there is one. -/
def footprint? : AdapterError → Option Json
  | .failure _ footprint => footprint
  | .malformed _ => none

/-- What went wrong, in words. -/
def message : AdapterError → String
  | .failure message _ => message
  | .malformed value => s!"adapter signalled failure with a non-error value: {value.compact}"

end AdapterError

/-- A footprint that was recognized. -/
structure Footprint where
  identity : String
  keys : List String
deriving DecidableEq, Repr, Inhabited

namespace Footprint

/-- The identity of a violated uniqueness constraint. -/
def notUnique : String := "notUnique"

/-- Whether the footprint is that of a violated uniqueness constraint. -/
def isNotUnique (footprint : Footprint) : Bool :=
  footprint.identity == notUnique

/-- The footprint as a JSON record. -/
def toJson (footprint : Footprint) : Json :=
  .record [("identity", .text footprint.identity), ("keys", .list (footprint.keys.map .text))]

/-- The footprint that a value writes. Without keys there are none; keys that are no list of texts
make it unrecognizable. -/
def ofJson? (value : Json) : Option Footprint := do
  let identity ← (← value.field? "identity").text?
  match value.field? "keys" with
  | none => return ⟨identity, []⟩
  | some (.list items) => return ⟨identity, ← items.mapM Json.text?⟩
  | some _ => none

end Footprint

/-- The failure of a write that would have violated uniqueness of columns. -/
def AdapterError.notUnique (columns : List String) : AdapterError :=
  .failure "Would violate uniqueness constraint-- a record already exists with conflicting value(s)."
    (some (Footprint.toJson ⟨Footprint.notUnique, columns⟩))

end RecordMapper
