import RecordMapper.Execution.Outcome
import RecordMapper.Proofs.Results

/-! # Outcomes and the replies they come from

Nothing is assumed of what an adapter answers, but the outcome that a reply stands for is always of the
kind that the method and its options ask for. `Outcome.Admits` says which replies stand for an outcome at
all.
-/

namespace RecordMapper

open Results

namespace Json

/-- A count is an integer that is not negative. -/
theorem nat?_eq_some {given : Json} {value : Nat} : given.nat? = some value ↔ given = .ofNat value := by
  cases given with
  | number number =>
    cases number with
    | integer given =>
      rw [ofNat, number.injEq, Number.integer.injEq, nat?, Number.toNat?]
      by_cases least : 0 ≤ given
      · rw [if_pos least, Option.some.injEq]
        omega
      · rw [if_neg least]
        exact iff_of_false (fun none => by cases none) (by omega)
    | double => simp [nat?, Number.toNat?, ofNat]
  | null | bool | text | list | record => simp [nat?, ofNat]

/-- Only a number has a nearest double. -/
theorem double?_eq_some {given : Json} {value : Double} :
    given.double? = some value ↔ ∃ number : Number, given = .number number ∧ number.toDouble = value := by
  cases given <;> simp [double?]

end Json

namespace Outcome

/-- The kinds of outcomes. -/
inductive Kind where
  | nothing
  | records
  | count
  | number
deriving DecidableEq, Repr

/-- The kind of an outcome. -/
def kind : Outcome → Kind
  | .nothing => .nothing
  | .records _ => .records
  | .count _ => .count
  | .number _ => .number

/-- The kind of outcome that an operation is to have. -/
def kindOf (method : Method) (options : Meta) : Kind :=
  match method with
  | .create | .createEach | .update | .destroy => if options.fetch then .records else .nothing
  | .find => .records
  | .count => .count
  | .sum | .avg => .number
  | .stream => .nothing

/-- Whether a reply is a list of rows. -/
def AreRows (reply : Option Json) : Prop :=
  ∃ rows : List Record, reply = some (.list (rows.map .record))

/-- Whether a reply stands for an outcome of a query. -/
def Admits (method : Method) (options : Meta) (reply : Option Json) : Prop :=
  match method with
  | .create => options.fetch = true → ∃ row : Record, reply = some (.list [.record row])
  | .createEach | .update | .destroy => options.fetch = true → AreRows reply
  | .find | .stream => AreRows reply
  | .count => ∃ value : Nat, reply = some (.ofNat value)
  | .sum | .avg => ∃ value : Number, reply = some (.number value)

theorem kind_noop (method : Method) (options : Meta) :
    (noop method options).kind = kindOf method options := by
  cases method <;> cases fetch : options.fetch <;> simp [noop, kindOf, kind, fetch]

theorem rowsFrom_eq_ok {index : Nat} {items : List Json} {rows : List Record} :
    rowsFrom index items = .ok rows ↔ items = rows.map .record := by
  induction items generalizing index rows with
  | nil => cases rows <;> simp [rowsFrom]
  | cons item rest ih =>
    cases item with
    | record row =>
      rw [rowsFrom, map_eq_ok]
      constructor
      · rintro ⟨others, there, rfl⟩
        rw [ih.mp there, List.map_cons]
      · intro same
        cases rows with
        | nil => cases same
        | cons first others =>
          obtain ⟨here, there⟩ := List.cons.inj same
          obtain rfl := Json.record.inj here
          exact ⟨others, ih.mpr there, rfl⟩
    | null | bool | number | text | list => cases rows <;> simp [rowsFrom]

theorem rows_eq_ok {reply : Option Json} {found : List Record} :
    rows reply = .ok found ↔ reply = some (.list (found.map .record)) := by
  unfold rows
  split
  · next items => rw [rowsFrom_eq_ok, Option.some.injEq, Json.list.injEq]
  · next other =>
    refine iff_of_false (fun done => by cases done) (fun same => other _ same)

theorem exists_rows_iff {reply : Option Json} :
    (∃ found, rows reply = .ok found) ↔ AreRows reply := by
  simp only [rows_eq_ok, AreRows]

theorem exists_nat?_iff {reply : Option Json} :
    (∃ value, reply.bind Json.nat? = some value) ↔ ∃ value : Nat, reply = some (.ofNat value) := by
  simp only [Option.bind_eq_some_iff, Json.nat?_eq_some]
  exact exists_congr fun value => by simp

theorem exists_double?_iff {reply : Option Json} :
    (∃ value, reply.bind Json.double? = some value) ↔ ∃ value : Number, reply = some (.number value) := by
  simp only [Option.bind_eq_some_iff, Json.double?_eq_some]
  constructor
  · rintro ⟨_, _, same, number, rfl, rfl⟩
    exact ⟨number, same⟩
  · rintro ⟨number, same⟩
    exact ⟨number.toDouble, _, same, number, rfl, rfl⟩

/-- A create that fetches stands for the one row that it is answered with. -/
theorem ofReply_create {options : Meta} (fetch : options.fetch = true) {reply : Option Json}
    {outcome : Outcome} :
    ofReply .create options reply = .ok outcome ↔
      ∃ row : Record, reply = some (.list [.record row]) ∧ outcome = .records [row] := by
  unfold ofReply
  simp only [fetch, if_true]
  rw [bind_eq_ok]
  constructor
  · rintro ⟨found, held, done⟩
    split at done
    · next one =>
      obtain ⟨row, rfl⟩ := List.length_eq_one_iff.mp one
      exact ⟨row, rows_eq_ok.mp held, (pure_eq_ok.mp done).symm⟩
    · cases done
  · rintro ⟨row, rfl, rfl⟩
    exact ⟨[row], rfl, rfl⟩

/-- The outcome that a reply stands for, if it stands for one. -/
theorem exists_ofReply_iff {method : Method} {options : Meta} {reply : Option Json} :
    (∃ outcome, ofReply method options reply = .ok outcome) ↔ Admits method options reply := by
  cases method with
  | create =>
    cases fetch : options.fetch with
    | true =>
      simp only [ofReply_create fetch, Admits, fetch, forall_const]
      constructor
      · rintro ⟨_, row, same, -⟩
        exact ⟨row, same⟩
      · rintro ⟨row, same⟩
        exact ⟨_, row, same, rfl⟩
    | false => simp [ofReply, Admits, fetch]
  | createEach | update | destroy =>
    cases fetch : options.fetch with
    | true =>
      simp only [ofReply, Admits, fetch, if_true, exists_map_eq_ok_iff, exists_rows_iff, forall_const]
    | false => simp [ofReply, Admits, fetch]
  | find | stream => simp only [ofReply, Admits, exists_map_eq_ok_iff, exists_rows_iff]
  | count =>
    rw [Admits, ← exists_nat?_iff, ofReply]
    cases reply.bind Json.nat? <;> simp
  | sum | avg =>
    rw [Admits, ← exists_double?_iff, ofReply]
    cases reply.bind Json.double? <;> simp

/-- An outcome that a reply stands for is of the kind that was asked for. -/
theorem kind_of_ofReply {method : Method} (notStream : method ≠ .stream) {options : Meta}
    {reply : Option Json} {outcome : Outcome} (done : ofReply method options reply = .ok outcome) :
    outcome.kind = kindOf method options := by
  cases method with
  | create =>
    cases fetch : options.fetch with
    | true =>
      obtain ⟨row, -, rfl⟩ := (ofReply_create fetch).mp done
      simp [kindOf, fetch, kind]
    | false =>
      simp only [ofReply, fetch, Bool.false_eq_true, if_false, Except.ok.injEq] at done
      simp [kindOf, fetch, ← done, kind]
  | createEach | update | destroy =>
    cases fetch : options.fetch with
    | true =>
      simp only [ofReply, fetch, if_true, map_eq_ok] at done
      obtain ⟨found, -, rfl⟩ := done
      simp [kindOf, fetch, kind]
    | false =>
      simp only [ofReply, fetch, Bool.false_eq_true, if_false, Except.ok.injEq] at done
      simp [kindOf, fetch, ← done, kind]
  | find =>
    obtain ⟨found, -, rfl⟩ := map_eq_ok.mp done
    rfl
  | stream => exact absurd rfl notStream
  | count | sum | avg =>
    unfold ofReply at done
    dsimp only at done
    split at done
    · obtain rfl := Except.ok.inj done
      rfl
    · cases done

/-- There is nothing in no reply, in null, and in an empty list. -/
theorem isUnrequested_eq_false {reply : Option Json} :
    isUnrequested reply = false ↔ reply = none ∨ reply = some .null ∨ reply = some (.list []) := by
  unfold isUnrequested
  split
  · simp
  · simp
  · simp
  · next value notNull notEmpty =>
    refine iff_of_false (by simp) ?_
    rintro (⟨⟨⟩⟩ | same | same)
    · exact notNull (Option.some.inj same)
    · exact notEmpty (Option.some.inj same)

end Outcome

end RecordMapper
