import RecordMapper.Json.Basic

/-! # Iteratees

A stream hands what it reads to an iteratee, one record or one batch at a time. The iteratee says
whether the stream goes on; it may read and change the environment, fail, or break off.
-/

namespace RecordMapper

/-- What a stream does after an iteratee was called. -/
inductive Flow where
  | proceed
  | stop
deriving DecidableEq, Repr, Inhabited

/-- Why an iteratee gave no answer. -/
inductive IterateeFailure where
  /-- It failed, with a message. -/
  | refused (message : String)
  /-- It broke off in the middle, with a message or with something that is no text. -/
  | crashed (message : Option String)
deriving DecidableEq, Repr, Inhabited

/-- Why an iteratee gave no answer, in words. -/
def IterateeFailure.message : IterateeFailure → String
  | .refused message => message
  | .crashed message => "iteratee panicked: " ++ message.getD "unknown panic payload"

/-- A function that a stream calls with what it read. -/
abbrev Continuation (σ α : Type) := α → σ → Except IterateeFailure Flow × σ

/-- The one continuation of a stream. -/
inductive Iteratee (σ : Type) where
  | eachRecord (call : Continuation σ Record)
  | eachBatch (call : Continuation σ (List Record))

namespace Iteratee

variable {σ : Type}

/-- The kind of an iteratee, in words. -/
def kind : Iteratee σ → String
  | .eachRecord _ => "eachRecord"
  | .eachBatch _ => "eachBatch"

end Iteratee

end RecordMapper
