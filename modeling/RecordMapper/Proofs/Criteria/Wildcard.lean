import Mathlib
import RecordMapper.Criteria.Wildcard

/-! # Patterns decided row by row

A row has one cell for each start of a pattern, and after some characters of the subject were seen it tells of each
start whether it matches them. A cell of the next row depends on the cell before it and on two cells of the row before,
so a row that tells this is followed by one that does. All cells and characters that are read are there.
-/

namespace RecordMapper.Wildcard

variable {pattern others seen subject : List Char} {mark char : Char}

/-! ## Splitting a subject -/

/-- A pattern character takes a piece of the subject: a run any piece, `_` a piece of one character, and any other
character the piece that consists of it. -/
def Takes (mark : Char) (piece : List Char) : Prop :=
  if mark = '%' then True
  else if mark = '_' then ∃ char, piece = [char]
  else piece = [mark]

theorem takes_run (piece : List Char) : Takes '%' piece := by
  simp [Takes]

theorem takes_one {piece : List Char} : Takes '_' piece ↔ ∃ char, piece = [char] := by
  simp [Takes]

theorem takes_itself (notRun : mark ≠ '%') (notOne : mark ≠ '_') {piece : List Char} :
    Takes mark piece ↔ piece = [mark] := by
  simp [Takes, notRun, notOne]

theorem matches_nil : Matches [] subject ↔ subject = [] := by
  constructor
  · rintro ⟨⟩
    rfl
  · rintro rfl
    exact .nil

theorem matches_cons :
    Matches (mark :: pattern) subject ↔
      ∃ piece rest, subject = piece ++ rest ∧ Takes mark piece ∧ Matches pattern rest := by
  constructor
  · intro whole
    cases whole with
    | run piece rest => exact ⟨piece, _, rfl, takes_run piece, rest⟩
    | one char rest => exact ⟨[char], _, rfl, takes_one.mpr ⟨char, rfl⟩, rest⟩
    | itself char notRun notOne rest => exact ⟨[mark], _, rfl, (takes_itself notRun notOne).mpr rfl, rest⟩
  · rintro ⟨piece, rest, rfl, takes, later⟩
    by_cases isRun : mark = '%'
    · subst isRun
      exact .run piece later
    · by_cases isOne : mark = '_'
      · subst isOne
        obtain ⟨char, rfl⟩ := takes_one.mp takes
        exact .one char later
      · rw [(takes_itself isRun isOne).mp takes]
        exact .itself mark isRun isOne later

/-- A subject matches a pattern if it splits into consecutive pieces, each of which a pattern character takes. -/
theorem matches_iff_pieces :
    Matches pattern subject ↔ ∃ pieces, List.Forall₂ Takes pattern pieces ∧ pieces.flatten = subject := by
  induction pattern generalizing subject with
  | nil =>
    rw [matches_nil]
    constructor
    · rintro rfl
      exact ⟨[], .nil, rfl⟩
    · rintro ⟨pieces, each, rfl⟩
      cases each
      rfl
  | cons mark rest ih =>
    rw [matches_cons]
    constructor
    · rintro ⟨piece, more, rfl, takes, later⟩
      obtain ⟨pieces, each, rfl⟩ := ih.mp later
      exact ⟨piece :: pieces, .cons takes each, rfl⟩
    · rintro ⟨pieces, each, rfl⟩
      cases each with
      | @cons _ piece _ pieces takes each => exact ⟨piece, pieces.flatten, rfl, takes, ih.mpr ⟨pieces, each, rfl⟩⟩

theorem matches_append :
    Matches (pattern ++ others) subject ↔
      ∃ start rest, subject = start ++ rest ∧ Matches pattern start ∧ Matches others rest := by
  induction pattern generalizing subject with
  | nil => simp [matches_nil]
  | cons mark more ih =>
    simp only [List.cons_append, matches_cons, ih]
    constructor
    · rintro ⟨piece, _, rfl, takes, start, rest, rfl, here, there⟩
      exact ⟨piece ++ start, rest, (List.append_assoc ..).symm, ⟨piece, start, rfl, takes, here⟩, there⟩
    · rintro ⟨_, rest, rfl, ⟨piece, start, rfl, takes, here⟩, there⟩
      exact ⟨piece, start ++ rest, List.append_assoc .., takes, start, rest, rfl, here, there⟩

/-! ## One more character of the pattern -/

theorem matches_concat :
    Matches (pattern ++ [mark]) subject ↔
      ∃ start piece, subject = start ++ piece ∧ Matches pattern start ∧ Takes mark piece := by
  simp only [matches_append, matches_cons, matches_nil]
  constructor
  · rintro ⟨start, _, rfl, matched, piece, _, rfl, takes, rfl⟩
    exact ⟨start, piece, by rw [List.append_nil], matched, takes⟩
  · rintro ⟨start, piece, rfl, matched, takes⟩
    exact ⟨start, piece, rfl, matched, piece, [], (List.append_nil _).symm, takes, rfl⟩

/-- Before any character was seen only runs are matched. -/
theorem matches_concat_nil : Matches (pattern ++ [mark]) [] ↔ Matches pattern [] ∧ mark = '%' := by
  rw [matches_concat]
  constructor
  · rintro ⟨start, piece, split, matched, takes⟩
    obtain ⟨rfl, rfl⟩ := List.append_eq_nil_iff.mp split.symm
    refine ⟨matched, ?_⟩
    by_contra notRun
    by_cases isOne : mark = '_'
    · subst isOne
      obtain ⟨char, single⟩ := takes_one.mp takes
      cases single
    · cases (takes_itself notRun isOne).mp takes
  · rintro ⟨matched, rfl⟩
    exact ⟨[], [], rfl, matched, takes_run []⟩

/-- A run ends before the last character, or takes it. -/
theorem matches_concat_run :
    Matches (pattern ++ ['%']) (seen ++ [char]) ↔
      Matches pattern (seen ++ [char]) ∨ Matches (pattern ++ ['%']) seen := by
  simp only [matches_concat]
  constructor
  · rintro ⟨start, piece, split, matched, -⟩
    rcases List.eq_nil_or_concat piece with rfl | ⟨shorter, last, rfl⟩
    · rw [List.append_nil] at split
      exact .inl (split ▸ matched)
    · rw [List.concat_eq_append, ← List.append_assoc] at split
      exact .inr ⟨start, shorter, (List.append_inj' split rfl).1, matched, takes_run _⟩
  · rintro (matched | ⟨start, piece, rfl, matched, -⟩)
    · exact ⟨seen ++ [char], [], (List.append_nil _).symm, matched, takes_run _⟩
    · exact ⟨start, piece ++ [char], List.append_assoc .., matched, takes_run _⟩

theorem matches_concat_one : Matches (pattern ++ ['_']) (seen ++ [char]) ↔ Matches pattern seen := by
  simp only [matches_concat, takes_one]
  constructor
  · rintro ⟨start, _, split, matched, last, rfl⟩
    exact (List.append_inj' split rfl).1 ▸ matched
  · intro matched
    exact ⟨seen, [char], rfl, matched, char, rfl⟩

theorem matches_concat_itself (notRun : mark ≠ '%') (notOne : mark ≠ '_') :
    Matches (pattern ++ [mark]) (seen ++ [char]) ↔ Matches pattern seen ∧ mark = char := by
  simp only [matches_concat, takes_itself notRun notOne]
  constructor
  · rintro ⟨start, _, split, matched, rfl⟩
    obtain ⟨rfl, same⟩ := List.append_inj' split rfl
    exact ⟨matched, (List.cons.inj same).1.symm⟩
  · rintro ⟨matched, rfl⟩
    exact ⟨seen, [mark], rfl, matched, rfl⟩

/-! ## Rows -/

/-- A read finds a value, and the value tells whether something holds. -/
def Finds (read : Option Bool) (holds : Prop) : Prop :=
  ∃ value, read = some value ∧ (value = true ↔ holds)

theorem Finds.congr {read : Option Bool} {holds other : Prop} (finds : Finds read holds) (same : holds ↔ other) :
    Finds read other := by
  obtain ⟨value, isValue, tells⟩ := finds
  exact ⟨value, isValue, tells.trans same⟩

variable {row before : Array Bool}

theorem write?_eq {place : Nat} (inside : place < row.size) (value : Bool) :
    write? row place value = some (row.set place value inside) :=
  dif_pos inside

/-- Cells that can be made of the cell before them are all written. -/
theorem exists_fill? (length : Nat) (holds : Nat → Prop) {cell? : Array Bool → Nat → Option Bool}
    (size : row.size = length + 1)
    (first : Finds row[0]? (holds 0))
    (each : ∀ (sofar : Array Bool) place, place < length → Finds sofar[place]? (holds place) →
      Finds (cell? sofar (place + 1)) (holds (place + 1))) :
    ∃ filled, fill? length cell? row = some filled ∧ filled.size = length + 1 ∧
      ∀ place ≤ length, Finds filled[place]? (holds place) := by
  -- the cells up to a place are written, and the rest of the row is as long as what is left to write
  have onward (count : Nat) : ∀ (place : Nat) (row : Array Bool), place + count = length → row.size = length + 1 →
      (∀ earlier ≤ place, Finds row[earlier]? (holds earlier)) →
      ∃ filled, (List.range' (place + 1) count).foldlM
          (fun row place => do write? row place (← cell? row place)) row = some filled ∧
        filled.size = length + 1 ∧ ∀ place ≤ length, Finds filled[place]? (holds place) := by
    induction count with
    | zero =>
      rintro place row rfl size written
      exact ⟨row, rfl, size, written⟩
    | succ count ih =>
      intro place row total size written
      obtain ⟨value, isValue, tells⟩ := each row place (by omega) (written place le_rfl)
      have inside : place + 1 < row.size := by omega
      obtain ⟨filled, done, same⟩ := ih (place + 1) (row.set (place + 1) value inside) (by omega)
        (by rw [Array.size_set, size]) fun earlier within => by
          rw [Array.getElem?_set]
          split
          · next here => exact here ▸ ⟨value, rfl, tells⟩
          · exact written earlier (by omega)
      refine ⟨filled, ?_, same⟩
      rw [List.range'_succ, List.foldlM_cons, isValue]
      simp only [Option.bind_eq_bind, Option.bind_some, write?_eq inside]
      exact done
  exact onward length 0 row (by omega) size fun earlier within => by
    rw [Nat.le_zero.mp within]
    exact first

/-- A row tells of each start of a pattern whether it matches the characters that were seen. -/
structure Tells (pattern seen : List Char) (row : Array Bool) : Prop where
  size : row.size = pattern.length + 1
  cells : ∀ place ≤ pattern.length, Finds row[place]? (Matches (pattern.take place) seen)

theorem getElem?_mark {place : Nat} (inside : place < pattern.length) :
    pattern.toArray[place + 1 - 1]? = some pattern[place] := by
  rw [List.getElem?_toArray, Nat.add_sub_cancel, List.getElem?_eq_getElem inside]

theorem take_concat {place : Nat} (inside : place < pattern.length) :
    pattern.take (place + 1) = pattern.take place ++ [pattern[place]] :=
  List.take_succ_eq_append_getElem inside

theorem opening?_finds {sofar : Array Bool} {place : Nat} (inside : place < pattern.length)
    (found : Finds sofar[place]? (Matches (pattern.take place) [])) :
    Finds (opening? pattern.toArray sofar (place + 1)) (Matches (pattern.take (place + 1)) []) := by
  obtain ⟨value, isValue, tells⟩ := found
  rw [take_concat inside, matches_concat_nil, ← tells, opening?, getElem?_mark inside, Nat.add_sub_cancel, isValue]
  cases value with
  | false => exact ⟨false, rfl, by simp⟩
  | true => exact ⟨pattern[place] == '%', rfl, by simp⟩

theorem next?_finds (tells : Tells pattern seen before) {sofar : Array Bool} {place : Nat}
    (inside : place < pattern.length) (found : Finds sofar[place]? (Matches (pattern.take place) (seen ++ [char]))) :
    Finds (next? pattern.toArray char before sofar (place + 1))
      (Matches (pattern.take (place + 1)) (seen ++ [char])) := by
  have whole := tells.cells (place + 1) inside
  have part := tells.cells place inside.le
  rw [take_concat inside] at whole ⊢
  rw [next?, getElem?_mark inside, Nat.add_sub_cancel]
  simp only [Option.bind_eq_bind, Option.bind_some]
  by_cases isRun : pattern[place] = '%'
  · rw [if_pos isRun, isRun, matches_concat_run]
    obtain ⟨value, isValue, same⟩ := found
    rw [isValue, ← same]
    cases value with
    | false => exact (isRun ▸ whole).congr (by simp)
    | true => exact ⟨true, rfl, by simp⟩
  · rw [if_neg isRun]
    by_cases isOne : pattern[place] = '_'
    · rw [if_pos isOne, isOne, matches_concat_one]
      exact part
    · rw [if_neg isOne, matches_concat_itself isRun isOne]
      obtain ⟨value, isValue, same⟩ := part
      rw [isValue, ← same]
      exact ⟨value && pattern[place] == char, rfl, by simp⟩

/-- A row of cells none of which is written. -/
theorem size_blank (pattern : List Char) :
    (Array.replicate (pattern.toArray.size + 1) false).size = pattern.length + 1 := by
  rw [Array.size_replicate, List.size_toArray]

/-- The first row tells what matches nothing. -/
theorem exists_opening (pattern : List Char) :
    ∃ opening, (write? (Array.replicate (pattern.toArray.size + 1) false) 0 true).bind
        (fill? pattern.toArray.size (opening? pattern.toArray)) = some opening ∧ Tells pattern [] opening := by
  have inside : 0 < (Array.replicate (pattern.toArray.size + 1) false).size := by
    rw [size_blank]
    exact Nat.succ_pos _
  obtain ⟨opening, done, size, cells⟩ := exists_fill? pattern.length
    (fun place => Matches (pattern.take place) []) (by rw [Array.size_set, size_blank])
    ⟨true, Array.getElem?_set_self inside, by simp [matches_nil]⟩ fun _ _ => opening?_finds
  refine ⟨opening, ?_, size, cells⟩
  rw [write?_eq inside, Option.bind_some]
  exact done

/-- A row that tells what matches the characters that were seen is followed by one that tells what matches them and
one more. -/
theorem Tells.exists_next (tells : Tells pattern seen before) (char : Char) :
    ∃ row, fill? pattern.toArray.size (next? pattern.toArray char before)
        (Array.replicate (pattern.toArray.size + 1) false) = some row ∧ Tells pattern (seen ++ [char]) row := by
  have blank : Finds (Array.replicate (pattern.toArray.size + 1) false)[0]?
      (Matches (pattern.take 0) (seen ++ [char])) :=
    ⟨false, by rw [Array.getElem?_replicate, if_pos (Nat.succ_pos _)], by simp [matches_nil]⟩
  obtain ⟨row, done, size, cells⟩ := exists_fill? pattern.length
    (fun place => Matches (pattern.take place) (seen ++ [char])) (size_blank pattern) blank
    fun _ _ => next?_finds tells
  exact ⟨row, by rw [List.size_toArray] at done ⊢; exact done, size, cells⟩

/-- Row after row, the whole subject is seen. -/
theorem Tells.exists_last (tells : Tells pattern seen before) (subject : List Char) :
    ∃ last, subject.foldlM (fun before char => fill? pattern.toArray.size (next? pattern.toArray char before)
        (Array.replicate (pattern.toArray.size + 1) false)) before = some last ∧
      Tells pattern (seen ++ subject) last := by
  induction subject generalizing seen before with
  | nil => exact ⟨before, rfl, by rwa [List.append_nil]⟩
  | cons char rest ih =>
    obtain ⟨row, filled, next⟩ := tells.exists_next char
    obtain ⟨last, done, whole⟩ := ih next
    refine ⟨last, ?_, by rwa [List.append_assoc] at whole⟩
    rw [List.foldlM_cons, filled]
    exact done

/-- The last cell of the last row is there, and tells whether the subject matches. -/
theorem accepts?_finds (pattern subject : List Char) : Finds (accepts? pattern subject) (Matches pattern subject) := by
  obtain ⟨opening, opened, start⟩ := exists_opening pattern
  obtain ⟨last, done, tells⟩ := start.exists_last subject
  have cell := tells.cells pattern.length le_rfl
  rw [List.take_length, List.nil_append] at cell
  have answer : accepts? pattern subject = last[pattern.length]? := by
    simp only [accepts?, Option.bind_eq_bind]
    rw [← Option.bind_assoc, opened, Option.bind_some, done, Option.bind_some, List.size_toArray]
  rwa [answer]

theorem accepts_iff : accepts pattern subject = true ↔ Matches pattern subject := by
  obtain ⟨value, isValue, tells⟩ := accepts?_finds pattern subject
  rw [accepts, isValue, Option.getD_some, tells]

/-- For every pattern and subject, each cell and each character that is read or written is there, and the answer is
whether the subject splits into consecutive pieces, one for each pattern character, which takes it. -/
theorem accepts_decides (pattern subject : List Char) :
    accepts? pattern subject = some (accepts pattern subject) ∧
      (accepts pattern subject = true ↔
        ∃ pieces, List.Forall₂ Takes pattern pieces ∧ pieces.flatten = subject) := by
  obtain ⟨value, isValue, -⟩ := accepts?_finds pattern subject
  exact ⟨by rw [accepts, isValue, Option.getD_some], accepts_iff.trans matches_iff_pieces⟩

end RecordMapper.Wildcard
