import RecordMapper.Proofs.Registry.Build
import RecordMapper.Store.Answering

/-! # The tables that a build hands over

All models are checked before any table is handed to an adapter. The adapter of a model, however, is looked
up only when the tables of the models in front of it have been handed over. A datastore or an adapter that
does not exist is therefore found with no adapter touched in one case only: when the first model is in it.
-/

namespace RecordMapper

open Attempt Results

namespace InitError

/-- An adapter refused a table. -/
def isRejection : InitError → Bool
  | .adapterRejected .. => true
  | _ => false

/-- The datastore of a model, or the adapter of that datastore, does not exist. -/
def isUnplaced : InitError → Bool
  | .unknownDatastore .. | .unknownAdapter .. => true
  | _ => false

end InitError

/-- What the description of a table says of a model: its table, the column of its key and whether the key is a
number, and as unique the columns of the attributes that are declared so. A unique attribute without a column
stands there under its own name. -/
structure TableDefinition.Describes (definition : TableDefinition) (model : Model) : Prop where
  table_eq : definition.table = model.table
  primaryKey : (Columns.ofModel model).column model.primaryKey = .ok definition.primaryKey
  autoIncrement : definition.autoIncrement = true ↔ model.kind? model.primaryKey = some (.scalar .number)
  uniqueColumns : List.Forall₂
    (fun entry column => (Columns.ofModel model).column entry.1 = .ok column ∨
      entry.1 ∉ Dictionary.names model.stored ∧ column = entry.1)
    (model.attributes.filter fun entry => entry.2.unique) definition.uniqueColumns

theorem TableDefinition.describes_ofModel {model : Model} {models : List Model} (valid : model.Valid models) :
    (TableDefinition.ofModel model (Columns.ofModel model)).Describes model where
  table_eq := rfl
  primaryKey := by
    obtain ⟨column, found⟩ := Columns.exists_column_iff.mpr valid.primaryKey_mem
    refine found.trans (congrArg Except.ok ?_)
    change column = ((Columns.ofModel model).column? model.primaryKey).getD model.primaryKey
    rw [Columns.column_eq_ok.mp found, Option.getD_some]
  autoIncrement := by
    unfold TableDefinition.ofModel
    exact beq_iff_eq
  uniqueColumns := by
    unfold TableDefinition.ofModel
    refine List.forall₂_map_right_iff.mpr (List.forall₂_same.mpr fun entry _ => ?_)
    dsimp only
    cases found : (Columns.ofModel model).column? entry.1 with
    | some column => exact .inl (Columns.column_eq_ok.mpr found)
    | none =>
      refine .inr ⟨fun member => ?_, rfl⟩
      obtain ⟨column, isColumn⟩ := Columns.exists_column?_iff.mpr member
      rw [found] at isColumn
      cases isColumn

namespace Registry

variable {σ : Type} {configuration : Configuration} {adapters : Dictionary (Adapter σ)}
  {hooks : Dictionary (Hooks σ)}

/-- The run after the table of a model was handed to an adapter. -/
def handed (adapter : Adapter σ) (model : Model) (run : Run σ) : Run σ :=
  let table := TableDefinition.ofModel model (Columns.ofModel model)
  { environment := (adapter.define model.datastore table run.environment).2
    events := run.events ++ [.defined adapter.identity model.datastore table] }

/-- The tables of models are handed over one after another, up to the first model that has no adapter or whose
adapter refuses the table. -/
inductive HandsOver (configuration : Configuration) (adapters : Dictionary (Adapter σ)) :
    List Model → Run σ → Except InitError Unit → Run σ → Prop
  | nothing {run : Run σ} : HandsOver configuration adapters [] run (.ok ()) run
  | unplaced {model : Model} {later : List Model} {run : Run σ} {error : InitError}
      (missing : adapterOf configuration.datastores adapters model = .error error) :
      HandsOver configuration adapters (model :: later) run (.error error) run
  | rejected {model : Model} {later : List Model} {run : Run σ} {adapter : Adapter σ} {error : AdapterError}
      (placed : adapterOf configuration.datastores adapters model = .ok adapter)
      (refused : (adapter.define model.datastore (.ofModel model (Columns.ofModel model)) run.environment).1 =
        .error error) :
      HandsOver configuration adapters (model :: later) run
        (.error (.adapterRejected adapter.identity model.table error.message)) (handed adapter model run)
  | taken {model : Model} {later : List Model} {run after : Run σ} {adapter : Adapter σ}
      {outcome : Except InitError Unit}
      (placed : adapterOf configuration.datastores adapters model = .ok adapter)
      (accepted : (adapter.define model.datastore (.ofModel model (Columns.ofModel model)) run.environment).1 =
        .ok ())
      (rest : HandsOver configuration adapters later (handed adapter model run) outcome after) :
      HandsOver configuration adapters (model :: later) run outcome after

/-- A model is registered when its adapter is there and takes its table. -/
theorem result_register (model : Model) (run : Run σ) :
    result (register configuration adapters hooks model) run =
      match adapterOf configuration.datastores adapters model with
      | .error error => (.error error, run)
      | .ok adapter =>
        match (adapter.define model.datastore (.ofModel model (Columns.ofModel model)) run.environment).1 with
        | .error error =>
          (.error (.adapterRejected adapter.identity model.table error.message), handed adapter model run)
        | .ok () =>
          (.ok { model, columns := Columns.ofModel model, adapter,
                 hooks := (Dictionary.get? hooks model.identity).getD {} }, handed adapter model run) := by
  unfold register
  rw [result_bind, result_ofExcept]
  cases adapterOf configuration.datastores adapters model with
  | error error => rfl
  | ok adapter =>
    dsimp only
    rw [result_bind, result_call]
    dsimp only
    rcases (adapter.define model.datastore (.ofModel model (Columns.ofModel model)) run.environment).1 with
      error | ⟨⟨⟩⟩
    all_goals rfl

theorem handsOver_mapM (models : List Model) (run : Run σ) :
    HandsOver configuration adapters models run
      ((result (models.mapM (register configuration adapters hooks)) run).1.map fun _ => ())
      (result (models.mapM (register configuration adapters hooks)) run).2 := by
  induction models generalizing run with
  | nil => exact .nothing
  | cons model later ih =>
    have first : result (register configuration adapters hooks model) run = _ := result_register model run
    rw [List.mapM_cons]
    cases placed : adapterOf configuration.datastores adapters model with
    | error error =>
      simp only [placed] at first
      rw [result_bind_of_error first]
      exact .unplaced placed
    | ok adapter =>
      simp only [placed] at first
      cases accepted : (adapter.define model.datastore (.ofModel model (Columns.ofModel model))
          run.environment).1 with
      | error error =>
        simp only [accepted] at first
        rw [result_bind_of_error first]
        exact .rejected placed accepted
      | ok answer =>
        simp only [accepted] at first
        have rest := ih (handed adapter model run)
        refine .taken placed accepted ?_
        rw [result_bind_of_ok first, result_bind]
        generalize result (later.mapM (register configuration adapters hooks)) (handed adapter model run) =
          ended at rest ⊢
        rcases ended with ⟨error | values, after⟩
        all_goals exact rest

/-- A build is refused by its checks, with nothing done, or passes them all and hands over the tables of its
models. -/
theorem handsOver_of_build {start finish : Run σ} {outcome : Except InitError (Registry σ)}
    (ended : result (build configuration adapters hooks) start = (outcome, finish)) :
    (∃ error, check configuration.models hooks = .error error ∧ outcome = .error error ∧ finish = start) ∨
      check configuration.models hooks = .ok () ∧
        HandsOver configuration adapters configuration.models start (outcome.map fun _ => ()) finish := by
  unfold build at ended
  rw [result_bind, result_ofExcept] at ended
  cases checked : check configuration.models hooks with
  | error error =>
    simp only [checked] at ended
    obtain ⟨rfl, rfl⟩ := Prod.mk.inj ended
    exact .inl ⟨error, rfl, rfl, rfl⟩
  | ok passed =>
    simp only [checked] at ended
    refine .inr ⟨rfl, ?_⟩
    have ends : HandsOver configuration adapters _ _
        ((result (configuration.models.mapM (register configuration adapters hooks)) start).1.map _) _ :=
      handsOver_mapM configuration.models start
    rw [result_bind] at ended
    generalize result (configuration.models.mapM (register configuration adapters hooks)) start =
      registered at ended ends
    rcases registered with ⟨error | values, after⟩
    all_goals
      obtain ⟨rfl, rfl⟩ := Prod.mk.inj ended
      exact ends

/-! ## What is found before any table is handed over -/

theorem placed_of_checkAttributes {model : Model} {models : List Model} {taken : List String}
    {entries : List (String × Attribute)} {error : InitError}
    (failed : model.checkAttributes models taken entries = .error error) : error.isUnplaced = false := by
  induction entries generalizing taken with
  | nil => cases failed
  | cons entry rest ih =>
    unfold Model.checkAttributes at failed
    split at failed
    · obtain rfl := Except.error.inj failed
      rfl
    · dsimp only at failed
      split at failed
      · split at failed
        · obtain rfl := Except.error.inj failed
          rfl
        · exact ih failed
      · exact ih failed

theorem placed_of_checkPrimaryKey {model : Model} {error : InitError}
    (failed : model.checkPrimaryKey = .error error) : error.isUnplaced = false := by
  unfold Model.checkPrimaryKey at failed
  split at failed
  · obtain rfl := Except.error.inj failed
    rfl
  · cases failed
  · cases failed
  · obtain rfl := Except.error.inj failed
    rfl

/-- No check asks whether datastores and adapters exist. -/
theorem placed_of_check {models : List Model} {error : InitError}
    (failed : check models hooks = .error error) : error.isUnplaced = false := by
  unfold check at failed
  dsimp only at failed
  split at failed
  · obtain rfl := Except.error.inj failed
    rfl
  · split at failed
    · obtain rfl := Except.error.inj failed
      rfl
    · obtain ⟨model, -, invalid⟩ := exists_of_forM_eq_error failed
      rcases bind_eq_error.mp invalid with key | ⟨⟨⟩, -, attributes⟩
      · exact placed_of_checkPrimaryKey key
      · exact placed_of_checkAttributes attributes

theorem unplaced_of_adapterOf {datastores : Dictionary Datastore} {model : Model} {error : InitError}
    (failed : adapterOf datastores adapters model = .error error) : error.isUnplaced = true := by
  unfold adapterOf at failed
  split at failed
  · obtain rfl := Except.error.inj failed
    rfl
  · split at failed
    · obtain rfl := Except.error.inj failed
      rfl
    · cases failed

/-! ## What is handed over -/

/-- Handing the table of a model to the adapter of its datastore, with a description that fits the model. -/
def Hands (configuration : Configuration) (adapters : Dictionary (Adapter σ)) (model : Model) (event : Event) :
    Prop :=
  ∃ adapter definition, adapterOf configuration.datastores adapters model = .ok adapter ∧
    definition.Describes model ∧ event = .defined adapter.identity model.datastore definition

/-- The models whose tables were handed over are the first ones, each once. All are, if nothing fails; and if an
adapter is not there, it is the one of the first model that is left. -/
theorem HandsOver.exists_events {models : List Model} {run after : Run σ} {outcome : Except InitError Unit}
    (hands : HandsOver configuration adapters models run outcome after)
    (valid : ∀ model ∈ models, model.Valid configuration.models) :
    ∃ front back events, models = front ++ back ∧ List.Forall₂ (Hands configuration adapters) front events ∧
      after.events = run.events ++ events ∧ (outcome = .ok () → back = []) ∧
      ∀ error, outcome = .error error → error.isRejection = false → ∃ model later, back = model :: later ∧
        adapterOf configuration.datastores adapters model = .error error := by
  have describes {model : Model} {later : List Model} {adapter : Adapter σ}
      (placed : adapterOf configuration.datastores adapters model = .ok adapter)
      (valid : ∀ other ∈ model :: later, other.Valid configuration.models) :
      Hands configuration adapters model
        (.defined adapter.identity model.datastore (.ofModel model (Columns.ofModel model))) :=
    ⟨adapter, _, placed, TableDefinition.describes_ofModel (valid model (List.mem_cons_self ..)), rfl⟩
  induction hands with
  | nothing => exact ⟨[], [], [], rfl, .nil, (List.append_nil _).symm, fun _ => rfl, fun _ => nofun⟩
  | @unplaced model later run error missing =>
    refine ⟨[], model :: later, [], rfl, .nil, (List.append_nil _).symm, nofun, fun other same _ => ?_⟩
    obtain rfl := Except.error.inj same
    exact ⟨model, later, rfl, missing⟩
  | @rejected model later run adapter error placed refused =>
    -- the adapter was asked before it refused, so this model is one of the first
    refine ⟨[model], later, _, rfl, .cons (describes placed valid) .nil, rfl, nofun, fun other same kind => ?_⟩
    obtain rfl := Except.error.inj same
    cases kind
  | @taken model later run after adapter outcome placed accepted rest ih =>
    obtain ⟨front, back, events, rfl, hands, grows, all, missing⟩ :=
      ih fun other member => valid other (List.mem_cons_of_mem _ member)
    refine ⟨model :: front, back, _ :: events, rfl, .cons (describes placed valid) hands, ?_, all, missing⟩
    rw [grows, handed, List.append_assoc]
    rfl

theorem HandsOver.events_prefix {models : List Model} {run after : Run σ} {outcome : Except InitError Unit}
    (hands : HandsOver configuration adapters models run outcome after) : run.events <+: after.events := by
  induction hands with
  | nothing | unplaced => exact List.prefix_rfl
  | rejected => exact List.prefix_append ..
  | taken _ _ _ ih => exact (List.prefix_append ..).trans ih

/-- Nothing is done for want of an adapter only when it is the one of the first model. -/
theorem HandsOver.untouched_iff {models : List Model} {run after : Run σ} {error : InitError}
    (hands : HandsOver configuration adapters models run (.error error) after)
    (kind : error.isRejection = false) :
    after = run ↔ ∃ model later, models = model :: later ∧
      adapterOf configuration.datastores adapters model = .error error := by
  cases hands with
  | unplaced missing => exact iff_of_true rfl ⟨_, _, rfl, missing⟩
  | rejected => cases kind
  | taken placed _ rest =>
    refine iff_of_false (fun same => ?_) ?_
    · -- the first table was handed over, and that stays on record
      have grows := rest.events_prefix.length_le
      rw [same, handed, List.length_append, List.length_singleton] at grows
      omega
    · rintro ⟨first, later, isFirst, missing⟩
      obtain ⟨rfl, -⟩ := List.cons.inj isFirst
      rw [placed] at missing
      cases missing

/-- A build hands the tables of the first models over, each once and in their order. If it succeeds, it does so
for all models. If it fails but no adapter refused a table, then nothing was handed over in exactly two cases:
what is wrong was found by the checks, or the adapter that is not there is the one of the first model. -/
theorem build_untouched_iff {start finish : Run σ} {outcome : Except InitError (Registry σ)}
    (ended : result (build configuration adapters hooks) start = (outcome, finish)) :
    ∃ front back events, configuration.models = front ++ back ∧
      List.Forall₂ (Hands configuration adapters) front events ∧ finish.events = start.events ++ events ∧
      (∀ registry, outcome = .ok registry → back = []) ∧
      ∀ error, outcome = .error error → error.isRejection = false →
        (finish = start ↔ error.isUnplaced = false ∨
          ∃ model later, configuration.models = model :: later ∧
            adapterOf configuration.datastores adapters model = .error error) ∧
        (error.isUnplaced = true → ∃ model later, back = model :: later ∧
          adapterOf configuration.datastores adapters model = .error error) := by
  rcases handsOver_of_build ended with ⟨error, refused, rfl, rfl⟩ | ⟨passed, hands⟩
  · have placed := placed_of_check refused
    refine ⟨[], configuration.models, [], rfl, .nil, (List.append_nil _).symm, nofun, fun other same _ => ?_⟩
    obtain rfl := Except.error.inj same
    refine ⟨iff_of_true rfl (.inl placed), fun unplaced => ?_⟩
    rw [placed] at unplaced
    cases unplaced
  · have valid : ∀ model ∈ configuration.models, model.Valid configuration.models :=
      fun model member => Model.valid_of_check ((check_eq_ok passed).2 model member)
    obtain ⟨front, back, events, split, describes, grows, all, missing⟩ := hands.exists_events valid
    refine ⟨front, back, events, split, describes, grows, ?_, fun error failed kind => ?_⟩
    · rintro registry rfl
      exact all rfl
    · subst failed
      obtain ⟨model, later, isBack, isMissing⟩ := missing error rfl kind
      have isUnplaced : error.isUnplaced ≠ false := by
        rw [unplaced_of_adapterOf isMissing]
        exact Bool.noConfusion
      exact ⟨(hands.untouched_iff kind).trans (or_iff_right isUnplaced).symm, fun _ =>
        ⟨model, later, isBack, isMissing⟩⟩

/-- Users in a datastore that exists, and pets in one that does not. -/
def misplacedPets : Configuration where
  datastores := [("default", { adapter := "memory" })]
  models := [
    { identity := "user", datastore := "default", attributes := [("id", .ofType .number)] },
    { identity := "pet", datastore := "elsewhere", attributes := [("id", .ofType .number)] }]

/-- That pets have no datastore is found when the table of users has been handed over. -/
theorem misplacedPets_touched :
    ∃ start finish : Run Store, result (build misplacedPets [("memory", Store.adapter)] []) start =
        (.error (.unknownDatastore "pet" "elsewhere"), finish) ∧
      finish ≠ start ∧ (finish.environment.table "default" "user").isOk = true := by
  let start : Run Store := { environment := { keys := { draw := toString } } }
  have ended : result (build misplacedPets [("memory", Store.adapter)] []) start =
      (.error (.unknownDatastore "pet" "elsewhere"),
        handed Store.adapter
          { identity := "user", datastore := "default", attributes := [("id", .ofType .number)] } start) := rfl
  obtain ⟨_, _, _, -, -, -, -, failed⟩ := build_untouched_iff ended
  refine ⟨start, _, ended, fun untouched => ?_, rfl⟩
  rcases (failed _ rfl rfl).1.mp untouched with placed | ⟨model, later, isFirst, missing⟩
  · cases placed
  · obtain ⟨rfl, -⟩ := List.cons.inj isFirst
    cases missing

end Registry

end RecordMapper
