import RecordMapper.Proofs.Dictionary
import RecordMapper.Store.Answering

/-! # What an answer does to the tables of a store

A table is known by its datastore and its name. Writing one leaves all others as they are, a query
touches no table but its own, and only a mutation touches that one.
-/

namespace RecordMapper.Store

@[simp] theorem table_withKeys (store : Store) (keys : KeySupply) (datastore name : String) :
    ({ store with keys } : Store).table datastore name = store.table datastore name := rfl

theorem table_put (store : Store) (datastore name other another : String) (table : Table) :
    (store.put datastore name table).table other another =
      if datastore = other ∧ name = another then .ok table else store.table other another := by
  unfold Store.table put tablesOf
  rw [Dictionary.get?_insert]
  by_cases sameStore : datastore = other
  · subst sameStore
    rw [if_pos rfl, Option.getD_some, Dictionary.get?_insert]
    by_cases sameName : name = another
    · simp [sameName]
    · simp [sameName]
  · simp [sameStore]

@[simp] theorem table_put_self (store : Store) (datastore name : String) (table : Table) :
    (store.put datastore name table).table datastore name = .ok table := by
  rw [table_put, if_pos ⟨rfl, rfl⟩]

/-- Handing over the table of a model adds that table and takes none away. -/
theorem exists_table_define (store : Store) (datastore : String) (definition : TableDefinition)
    (other name : String) :
    (∃ table, (store.define datastore definition).table other name = .ok table) ↔
      (datastore = other ∧ definition.table = name) ∨ ∃ table, store.table other name = .ok table := by
  unfold define
  dsimp only
  rw [table_put]
  by_cases here : datastore = other ∧ definition.table = name
  · simp [here]
  · simp [here]

/-- The store that answered a sequence of queries, each to one of its datastores. -/
def after (store : Store) (queries : List (String × PhysicalQuery)) : Store :=
  queries.foldl (fun store (datastore, query) =>
    ((store.answer? datastore query).map Prod.snd).getD store) store

/-- Settling a mutation writes at most the table of its query. -/
theorem settle_table_other {store : Store} {datastore : String} {query : PhysicalQuery}
    {other another : String} (result : Except String (List Record × Table))
    (elsewhere : ¬(datastore = other ∧ query.table = another)) :
    (store.settle datastore query result).2.table other another = store.table other another := by
  cases result with
  | error column => rfl
  | ok written => exact (table_put ..).trans (if_neg elsewhere)

/-- Settling a mutation takes no table away. -/
theorem exists_table_settle {store : Store} {datastore : String} {query : PhysicalQuery}
    (result : Except String (List Record × Table)) {other name : String}
    (stored : ∃ table, store.table other name = .ok table) :
    ∃ table, (store.settle datastore query result).2.table other name = .ok table := by
  by_cases here : datastore = other ∧ query.table = name
  · obtain ⟨rfl, rfl⟩ := here
    cases result with
    | error column => exact stored
    | ok written => exact ⟨_, table_put_self ..⟩
  · rw [settle_table_other result here]
    exact stored

/-- A store that answered is as it was, or a mutation was settled in it. -/
theorem answer?_settles {store next : Store} {datastore : String} {query : PhysicalQuery}
    {reply : AdapterReply} (answered : store.answer? datastore query = some (reply, next)) :
    next = store ∨ ∃ keys result, next = (settle { store with keys } datastore query result).2 := by
  have created : (store.create datastore query).2 = store ∨
      ∃ keys result, (store.create datastore query).2 = (settle { store with keys } datastore query result).2 := by
    unfold create
    cases store.table datastore query.table with
    | error error => exact .inl rfl
    | ok table => exact .inr ⟨_, _, rfl⟩
  have updated : (store.update datastore query).2 = store ∨
      ∃ keys result, (store.update datastore query).2 = (settle { store with keys } datastore query result).2 := by
    unfold update
    cases store.table datastore query.table with
    | error error => exact .inl rfl
    | ok table => exact .inr ⟨store.keys, _, rfl⟩
  have destroyed : (store.destroy datastore query).2 = store ∨
      ∃ keys result, (store.destroy datastore query).2 = (settle { store with keys } datastore query result).2 := by
    unfold destroy
    cases store.table datastore query.table with
    | error error => exact .inl rfl
    | ok table => exact .inr ⟨store.keys, _, rfl⟩
  unfold answer? at answered
  cases method : query.method <;> simp only [method, Option.some.injEq, reduceCtorEq] at answered
  case create | createEach => rwa [answered] at created
  case update => rwa [answered] at updated
  case destroy => rwa [answered] at destroyed
  all_goals exact .inl (Prod.mk.inj answered).2.symm

/-- A query leaves every table but its own alone. -/
theorem answer?_table_other {store next : Store} {datastore : String} {query : PhysicalQuery}
    {reply : AdapterReply} {other another : String}
    (answered : store.answer? datastore query = some (reply, next))
    (elsewhere : ¬(datastore = other ∧ query.table = another)) :
    next.table other another = store.table other another := by
  rcases answer?_settles answered with rfl | ⟨keys, result, rfl⟩
  · rfl
  · exact settle_table_other result elsewhere

/-- A query takes no table away. -/
theorem exists_table_answer? {store next : Store} {datastore other name : String} {query : PhysicalQuery}
    {reply : AdapterReply} (answered : store.answer? datastore query = some (reply, next))
    (stored : ∃ table, store.table other name = .ok table) :
    ∃ table, next.table other name = .ok table := by
  rcases answer?_settles answered with rfl | ⟨keys, result, rfl⟩
  · exact stored
  · exact exists_table_settle result stored

/-- A query that is no mutation leaves the store as it is. -/
theorem answer?_of_not_mutation {store next : Store} {datastore : String} {query : PhysicalQuery}
    {reply : AdapterReply} (answered : store.answer? datastore query = some (reply, next))
    (reads : query.method.isMutation = false) : next = store := by
  unfold answer? at answered
  cases method : query.method <;> simp_all [Method.isMutation]

/-- What an answer keeps up, the answers to a sequence of queries keep up. -/
theorem after_keeps (invariant : Store → Prop)
    (keeps : ∀ store datastore query reply next, store.answer? datastore query = some (reply, next) →
      invariant store → invariant next) {store : Store} (start : invariant store)
    (queries : List (String × PhysicalQuery)) : invariant (store.after queries) := by
  induction queries generalizing store with
  | nil => exact start
  | cons first rest ih =>
    obtain ⟨datastore, query⟩ := first
    change invariant (after (((store.answer? datastore query).map Prod.snd).getD store) rest)
    apply ih
    cases answered : store.answer? datastore query with
    | none => exact start
    | some answer => exact keeps store datastore query answer.1 answer.2 answered start

end RecordMapper.Store
