import RecordMapper.Proofs.Store.Numbering

/-! # Numbers are given out once

A table that numbers its rows gives a record without a key the number that its count has come to, and counts
on. The count belongs to the table and not to its rows: taking rows out does not put it back, an update does
not touch it, and a batch that is refused leaves it where the last record that was added did. So over a run of
queries the numbers that are given out increase, as long as there is one more after each of them, and each of them
is larger than every number that a record added before it brought along.
-/

namespace RecordMapper

namespace Record

/-- The number that a record which came without a key was given: the one of the row that it became. -/
def generated? (key : String) (entry : Record × Record) : Option Nat :=
  if (Json.present? (Dictionary.get? entry.1 key)).isNone then entry.2.number? key else none

variable {key : String} {row stored : Record}

theorem generated?_of_has (has : row.Has key) : generated? key (row, stored) = none := by
  obtain ⟨value, held⟩ := has
  simp [generated?, held]

theorem generated?_of_absent (lacks : ¬row.Has key) : generated? key (row, stored) = stored.number? key := by
  simp [generated?, not_has_iff.mp lacks]

end Record

namespace Table

open Record

/-- Adding records one after another takes the count of a table from one number to another. Each record is
paired with the row that it becomes. -/
inductive Counts (key : String) : UInt64 → List (Record × Record) → UInt64 → Prop where
  | nil (count : UInt64) : Counts key count [] count
  /-- A record that brings its key takes the count past it, if it is a number in range. -/
  | given {count next last : UInt64} {row : Record} {rest : List (Record × Record)} (has : row.Has key)
      (grows : count.toNat ≤ next.toNat)
      (passes : ∀ number, row.number? key = some number → number < largestNumber → number < next.toNat)
      (later : Counts key next rest last) : Counts key count ((row, row) :: rest) last
  /-- A record without a key gets the count, which goes on by one. -/
  | generated {count last : UInt64} {row stored : Record} {rest : List (Record × Record)} (lacks : ¬row.Has key)
      (isCount : stored.number? key = some count.toNat) (later : Counts key (count + 1) rest last) :
      Counts key count ((row, stored) :: rest) last

namespace Counts

variable {key : String} {first middle last : UInt64} {entries others : List (Record × Record)}

theorem append (start : Counts key first entries middle) (later : Counts key middle others last) :
    Counts key first (entries ++ others) last := by
  induction start with
  | nil => exact later
  | given has grows passes _ ih => exact .given has grows passes (ih later)
  | generated lacks isCount _ ih => exact .generated lacks isCount (ih later)

/-- Every record without a key is given a number. -/
theorem exists_generated (counts : Counts key first entries last) :
    ∀ entry ∈ entries, ¬entry.1.Has key → ∃ number, generated? key entry = some number := by
  induction counts with
  | nil => simp
  | given has _ _ _ ih => exact List.forall_mem_cons.mpr ⟨fun lacks => absurd has lacks, ih⟩
  | generated lacks isCount _ ih =>
    exact List.forall_mem_cons.mpr ⟨fun _ => ⟨_, (generated?_of_absent lacks).trans isCount⟩, ih⟩

/-- The numbers that are given out, if they are in range, are not smaller than the count was at first. -/
theorem le_generated (counts : Counts key first entries last)
    (inRange : ∀ entry ∈ entries, ∀ number, generated? key entry = some number → number < largestNumber) :
    ∀ entry ∈ entries, ∀ number, generated? key entry = some number → first.toNat ≤ number := by
  induction counts with
  | nil => simp
  | given has grows _ _ ih =>
    have later := ih (List.forall_mem_cons.mp inRange).2
    refine List.forall_mem_cons.mpr ⟨fun number isGenerated => ?_, fun entry member number isGenerated => ?_⟩
    · rw [generated?_of_has has] at isGenerated
      cases isGenerated
    · exact grows.trans (later entry member number isGenerated)
  | generated lacks isCount _ ih =>
    obtain ⟨here, inRange⟩ := List.forall_mem_cons.mp inRange
    have isGiven := (generated?_of_absent lacks).trans isCount
    refine List.forall_mem_cons.mpr ⟨fun number isGenerated => ?_, fun entry member number isGenerated => ?_⟩
    · exact (Option.some.inj (isGiven.symm.trans isGenerated)).le
    · have goesOn := ih inRange entry member number isGenerated
      rw [toNat_succ (here _ isGiven)] at goesOn
      exact (Nat.le_succ _).trans goesOn

/-- A number that is given out is larger than those given out before it, and than those brought along before
it, if all that are given out are in range. -/
theorem increases (counts : Counts key first entries last)
    (inRange : ∀ entry ∈ entries, ∀ number, generated? key entry = some number → number < largestNumber) :
    entries.Pairwise fun earlier later => ∀ number, generated? key later = some number →
      (∀ before, generated? key earlier = some before → before < number) ∧
        ∀ brought, earlier.1.number? key = some brought → brought < largestNumber → brought < number := by
  induction counts with
  | nil => exact .nil
  | given has _ passes later ih =>
    obtain ⟨-, inRange⟩ := List.forall_mem_cons.mp inRange
    refine .cons (fun entry member number isGenerated => ⟨fun before isBefore => ?_, fun brought isBrought below => ?_⟩)
      (ih inRange)
    · rw [generated?_of_has has] at isBefore
      cases isBefore
    · exact (passes brought isBrought below).trans_le (later.le_generated inRange entry member number isGenerated)
  | generated lacks isCount later ih =>
    obtain ⟨here, inRange⟩ := List.forall_mem_cons.mp inRange
    have isGiven := (generated?_of_absent lacks).trans isCount
    refine .cons (fun entry member number isGenerated => ⟨fun before isBefore => ?_, fun brought isBrought _ => ?_⟩)
      (ih inRange)
    · obtain rfl := Option.some.inj (isGiven.symm.trans isBefore)
      have goesOn := later.le_generated inRange entry member number isGenerated
      rw [toNat_succ (here _ isGiven)] at goesOn
      exact goesOn
    · exact absurd (has_of_number? isBrought) lacks

end Counts

/-! ## One query -/

variable {table next : Table} {supply rest : KeySupply}

/-- Adding a batch to a table that numbers its rows takes its count along. -/
theorem counts_addAll (numbered : table.definition.autoIncrement = true) {batch added : List Record}
    (done : table.addAll supply batch = (.ok (added, next), rest)) :
    Counts table.definition.primaryKey table.nextNumber (batch.zip added) next.nextNumber := by
  induction batch generalizing table supply added with
  | nil =>
    obtain ⟨⟨rfl, rfl⟩, -⟩ : (_ ∧ _) ∧ _ := by simpa [Table.addAll] using done
    exact .nil _
  | cons row batch ih =>
    rcases table.add_cases supply row with ⟨_, refused, _⟩ | ⟨first, -⟩
    · rw [Table.addAll, refused] at done
      simp at done
    · rw [Table.addAll, first] at done
      dsimp only at done
      split at done
      · simp at done
      · next later =>
        obtain ⟨⟨rfl, rfl⟩, rfl⟩ : (_ ∧ _) ∧ _ := by simpa using done
        have counts := ih (by rw [keyed_definition]; exact numbered) later
        rw [keyed_definition] at counts
        by_cases has : row.Has table.definition.primaryKey
        · rw [List.zip_cons_cons, (table.keyed_spec supply row).eq_of_has has]
          refine .given has ?_ (fun number isNumber inRange => ?_) counts
          · rw [table.keyed_of_has has]
            dsimp only
            cases row.number? table.definition.primaryKey with
            | none => exact le_refl _
            | some number => exact UInt64.toNat_max .. ▸ le_max_left ..
          · rw [table.keyed_of_has has]
            dsimp only
            rw [isNumber, Option.elim_some, UInt64.toNat_max, toNat_ofNatClamp_succ inRange]
            exact lt_max_of_lt_right (Nat.lt_succ_self _)
        · have isCount := number?_keyed_of_absent numbered has supply
          rw [table.keyed_of_absent has, if_pos numbered] at counts isCount ⊢
          exact .generated has isCount counts

/-- The records that a query adds to a table, each with the row that it becomes. -/
def additions (table : Table) (supply : KeySupply) (query : PhysicalQuery) : List (Record × Record) :=
  if query.method.takesRecords then
    match (table.addAll supply query.records).1 with
    | .ok (added, _) => query.records.zip added
    | .error _ => []
  else []

theorem next_definition (table : Table) (supply : KeySupply) (query : PhysicalQuery) :
    (table.next supply query).definition = table.definition := by
  unfold next
  cases query.method with
  | create | createEach =>
    dsimp only
    rcases result : table.addAll supply query.records with ⟨column | ⟨added, written⟩, rest⟩
    · rfl
    · exact (addAll_rows result).2.1
  | update =>
    dsimp only
    rcases result : table.update query.criteria.clause (query.values.getD []) with column | ⟨updated, written⟩
    · rfl
    · obtain ⟨-, rfl⟩ := update_rows result
      rfl
  | destroy => rw [destroy_eq]
  | find | count | sum | avg | stream => rfl

/-- A query takes the count of its table along the records that it adds. -/
theorem counts_next (numbered : table.definition.autoIncrement = true) (supply : KeySupply) (query : PhysicalQuery) :
    Counts table.definition.primaryKey table.nextNumber (table.additions supply query)
      (table.next supply query).nextNumber := by
  unfold next additions
  cases query.method with
  | create | createEach =>
    rw [if_pos (by decide)]
    rcases result : table.addAll supply query.records with ⟨column | ⟨added, written⟩, rest⟩
    · exact .nil _
    · exact counts_addAll numbered result
  | update =>
    rw [if_neg (by decide)]
    rcases result : table.update query.criteria.clause (query.values.getD []) with column | ⟨updated, written⟩
    · exact .nil _
    · obtain ⟨-, rfl⟩ := update_rows result
      exact .nil _
  | destroy =>
    rw [if_neg (by decide), destroy_eq]
    exact .nil _
  | find | count | sum | avg | stream =>
    rw [if_neg (by decide)]
    exact .nil _

end Table

/-! ## Runs -/

namespace Store

open Record Table

variable {store : Store} {datastore name : String} {table : Table}

/-- The records that a query adds to a table of a store: those of a create that is answered without an error,
each with the row that it becomes, behind the rows that were there. -/
def added (store : Store) (datastore name : String) (step : String × PhysicalQuery) : List (Record × Record) :=
  if step.1 = datastore ∧ step.2.table = name ∧ step.2.method.takesRecords then
    match store.answer? datastore step.2 with
    | some (.ok _, next) =>
      let before := (store.rows datastore name).toOption.getD []
      let after := (next.rows datastore name).toOption.getD []
      step.2.records.zip (after.drop before.length)
    | _ => []
  else []

/-- The records that queries add to a table of a store that answers them one after another. -/
def allAdded (store : Store) (datastore name : String) : List (String × PhysicalQuery) → List (Record × Record)
  | [] => []
  | step :: rest => store.added datastore name step ++ (store.after [step]).allAdded datastore name rest

/-- What a query adds to its table is what the table adds. -/
theorem added_eq (found : store.table datastore name = .ok table) {query : PhysicalQuery}
    (isTable : query.table = name) :
    store.added datastore name (datastore, query) = table.additions store.keys query := by
  subst isTable
  have answers (takes : query.method.takesRecords = true) :
      store.answer? datastore query = some (store.create datastore query) := by
    unfold answer?
    cases method : query.method <;> simp_all [Method.takesRecords]
  unfold added additions
  cases takes : query.method.takesRecords with
  | false => simp
  | true =>
    rw [if_pos ⟨rfl, rfl, rfl⟩, if_pos rfl, answers takes, create, found]
    dsimp only
    rcases result : table.addAll store.keys query.records with ⟨column | ⟨added, written⟩, rest⟩
    · rfl
    · obtain ⟨-, -, rows⟩ := addAll_rows result
      simp [settle, Store.rows, found, rows, Except.map, Except.toOption]

theorem added_other {step : String × PhysicalQuery} (elsewhere : ¬(step.1 = datastore ∧ step.2.table = name)) :
    store.added datastore name step = [] :=
  if_neg fun ⟨isDatastore, isTable, _⟩ => elsewhere ⟨isDatastore, isTable⟩

/-- Whatever queries a store answers, the records that they add to a table take its count along. -/
theorem exists_counts (found : store.table datastore name = .ok table)
    (numbered : table.definition.autoIncrement = true) (queries : List (String × PhysicalQuery)) :
    ∃ last, Counts table.definition.primaryKey table.nextNumber (store.allAdded datastore name queries) last := by
  induction queries generalizing store table with
  | nil => exact ⟨_, .nil _⟩
  | cons first rest ih =>
    obtain ⟨other, query⟩ := first
    by_cases here : other = datastore ∧ query.table = name
    · obtain ⟨rfl, isTable⟩ := here
      have definition := table.next_definition store.keys query
      obtain ⟨last, later⟩ := ih (table_after_query found isTable) (definition ▸ numbered)
      rw [definition] at later
      refine ⟨last, ?_⟩
      rw [allAdded, added_eq found isTable]
      exact (counts_next numbered store.keys query).append later
    · rw [allAdded, added_other here]
      exact ih ((table_after_other here).trans found) numbered

/-- Whatever queries a store answers, a table that numbers its rows gives a number to every record that is added
without a key, and none of them twice as long as they are in range. They increase in the order in which the records
are added, over all of the queries. Each is larger, too, than every number in range that a record added before it
brought along. -/
theorem generated_increase (found : store.table datastore name = .ok table)
    (numbered : table.definition.autoIncrement = true) (queries : List (String × PhysicalQuery))
    (inRange : ∀ entry ∈ store.allAdded datastore name queries, ∀ number,
      generated? table.definition.primaryKey entry = some number → number < largestNumber) :
    let key := table.definition.primaryKey
    let added := store.allAdded datastore name queries
    (∀ entry ∈ added, ¬entry.1.Has key → ∃ number, generated? key entry = some number) ∧
    (added.filterMap (generated? key)).Pairwise (· < ·) ∧
    added.Pairwise fun earlier later => ∀ brought, earlier.1.number? key = some brought → brought < largestNumber →
      ∀ number, generated? key later = some number → brought < number := by
  intro key added
  obtain ⟨last, counts⟩ := exists_counts found numbered queries
  refine ⟨counts.exists_generated, ?_, ?_⟩
  · refine List.pairwise_filterMap.mpr ((counts.increases inRange).imp fun {earlier later} increase => ?_)
    intro before isBefore number isNumber
    exact (increase number isNumber).1 before isBefore
  · refine (counts.increases inRange).imp fun {earlier later} increase => ?_
    intro brought isBrought below number isNumber
    exact (increase number isNumber).2 brought isBrought below

/-- Users are created, one of them with the number `7`, and destroyed. Then two are refused, since the second of
them brings the number that the first one would get, and two more are created. -/
def renewing : List (String × PhysicalQuery) :=
  [("main", { method := .createEach, table := "users", records := [[], [("id", .ofNat 7)], []] }),
    ("main", { method := .destroy, table := "users" }),
    ("main", { method := .createEach, table := "users", records := [[], [("id", .ofNat 9)]] }),
    ("main", { method := .createEach, table := "users", records := [[], []] })]

/-- The users are numbered `1`, `8`, `9` and `10`: what was destroyed is not numbered again, and the count goes on
from `8` after the users that were refused. -/
theorem renewing_increases :
    let start : Store := { keys := { draw := toString } }
    let empty := start.put "main" "users" { definition := numberedUsers }
    let added := empty.allAdded "main" "users" renewing
    empty.table "main" "users" = .ok { definition := numberedUsers } ∧ numberedUsers.autoIncrement = true ∧
      added.filterMap (generated? "id") = [1, 8, 9, 10] ∧
      (∀ entry ∈ added, ∀ number, generated? "id" entry = some number → number < largestNumber) ∧
      (added.filterMap (generated? "id")).Pairwise (· < ·) := by
  intro start empty added
  have found : empty.table "main" "users" = .ok { definition := numberedUsers } := rfl
  have numbers : added.filterMap (generated? "id") = [1, 8, 9, 10] := by decide
  have inRange : ∀ entry ∈ added, ∀ number, generated? "id" entry = some number → number < largestNumber := by
    intro entry member number isGenerated
    have isOne : number ∈ [1, 8, 9, 10] := numbers ▸ List.mem_filterMap.mpr ⟨entry, member, isGenerated⟩
    have small : ∀ one ∈ [1, 8, 9, 10], one < largestNumber := by decide
    exact small number isOne
  exact ⟨found, rfl, numbers, inRange, (generated_increase found rfl renewing inRange).2.1⟩

end Store

end RecordMapper
