/-! # Patterns with wildcards

In a pattern `%` stands for any run of characters and `_` for one character; any other character
stands for itself. `Wildcard.Matches` is that reading. `Wildcard.accepts?` decides it with a row of
cells, one for each start of the pattern from the empty one to the whole: a cell tells whether that
start matches the characters of the subject seen so far. Each further character takes one more row, so
the work grows only with the product of the two lengths. A cell that is not there is read as `none`.
-/

namespace RecordMapper

namespace Wildcard

/-- A subject splits into pieces, one for each pattern character in turn. -/
inductive Matches : List Char → List Char → Prop where
  | nil : Matches [] []
  | run {pattern subject : List Char} (piece : List Char) (rest : Matches pattern subject) :
      Matches ('%' :: pattern) (piece ++ subject)
  | one {pattern subject : List Char} (char : Char) (rest : Matches pattern subject) :
      Matches ('_' :: pattern) (char :: subject)
  | itself {pattern subject : List Char} (char : Char) (notRun : char ≠ '%') (notOne : char ≠ '_')
      (rest : Matches pattern subject) : Matches (char :: pattern) (char :: subject)

/-- A row with one cell written; `none` if it has no such cell. -/
def write? (row : Array Bool) (place : Nat) (value : Bool) : Option (Array Bool) :=
  if inside : place < row.size then some (row.set place value inside) else none

/-- A row with the cells after the first one written in order, each with what is made of the row so
far. -/
def fill? (length : Nat) (cell? : Array Bool → Nat → Option Bool) (row : Array Bool) : Option (Array Bool) :=
  (List.range' 1 length).foldlM (fun row place => do write? row place (← cell? row place)) row

/-- A cell before any character was seen: a start of the pattern matches nothing as long as it holds
runs only. -/
def opening? (marks : Array Char) (row : Array Bool) (place : Nat) : Option Bool := do
  if ← row[place - 1]? then return (← marks[place - 1]?) == '%' else return false

/-- A cell after one more character, of the row so far and the whole row before that character. A run
takes the character or ends before it. -/
def next? (marks : Array Char) (char : Char) (before row : Array Bool) (place : Nat) : Option Bool := do
  let mark ← marks[place - 1]?
  if mark = '%' then
    if ← row[place - 1]? then return true else before[place]?
  else if mark = '_' then before[place - 1]?
  else return (← before[place - 1]?) && mark == char

/-- Whether a subject matches a pattern, by a row for each character that was seen. -/
def accepts? (pattern subject : List Char) : Option Bool := do
  let marks := pattern.toArray
  let blank := Array.replicate (marks.size + 1) false
  let opening ← fill? marks.size (opening? marks) (← write? blank 0 true)
  let last ← subject.foldlM (fun before char => fill? marks.size (next? marks char before) blank) opening
  last[marks.size]?

/-- Whether a subject matches a pattern. No cell is missing, so `accepts?` always has an answer. -/
def accepts (pattern subject : List Char) : Bool :=
  (accepts? pattern subject).getD false

end Wildcard

end RecordMapper
