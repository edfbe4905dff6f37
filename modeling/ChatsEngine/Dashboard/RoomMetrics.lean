import ChatsEngine.Foundation.Sessions

/-! # The metrics of a room

Every operation that adds to the metrics of a room reads the row, changes its copy and
saves all columns. Only `calculate_first_response_time_task` saves a single column. -/

namespace ChatsEngine.Dashboard

/-- A row of `RoomMetrics`; times are in seconds. -/
structure RoomMetrics where
  waitingTime : Int := 0
  queuedCount : Int := 0
  messageResponseTime : Int := 0
  firstResponseTime : Option Int := none
  interactionTime : Int := 0
  transferCount : Int := 0
deriving DecidableEq, Repr

def RoomMetrics.counters (metrics : RoomMetrics) : Int × Int × Int :=
  (metrics.waitingTime, metrics.queuedCount, metrics.transferCount)

/-- How often the counters of the row have been changed, and how often its first response time. -/
structure MetricsChanges where
  counters : Nat := 0
  response : Nat := 0
deriving DecidableEq, Repr

def MetricsChanges.record (changes : MetricsChanges) (row saved : RoomMetrics) :
    MetricsChanges where
  counters := if saved.counters = row.counters then changes.counters else changes.counters + 1
  response :=
    if saved.firstResponseTime = row.firstResponseTime then changes.response
    else changes.response + 1

/-- What an operation does to the copy that it has read: it sets the first two columns,
and adds to the others. -/
structure MetricsChange where
  messageResponseTime : Option Int := none
  interactionTime : Option Int := none
  waitingTime : Int := 0
  queuedCount : Int := 0
  transferCount : Int := 0
deriving DecidableEq, Repr

namespace MetricsChange

def apply (change : MetricsChange) (metrics : RoomMetrics) : RoomMetrics :=
  { metrics with
    messageResponseTime := change.messageResponseTime.getD metrics.messageResponseTime
    interactionTime := change.interactionTime.getD metrics.interactionTime
    waitingTime := metrics.waitingTime + change.waitingTime
    queuedCount := metrics.queuedCount + change.queuedCount
    transferCount := metrics.transferCount + change.transferCount }

def assign (waited : Int) : MetricsChange :=
  { waitingTime := waited, queuedCount := 1 }

def transfer : MetricsChange :=
  { transferCount := 1 }

end MetricsChange

inductive MetricsUse
  /-- `RoomMetrics.objects.create`. -/
  | create
  | change (change : MetricsChange) (later : List MetricsChange)
  /-- The time that `calculate_first_response_time` returns. -/
  | firstResponseTime (time : Int)
deriving DecidableEq, Repr

/-- An operation on the metrics of a room, in autocommit mode unless it is `atomic`. -/
structure MetricsTask where
  atomic : Bool
  use : MetricsUse
deriving DecidableEq, Repr

namespace MetricsTask

/-- `RoomFlowSerializer.create`. -/
def createRoom : MetricsTask := ⟨true, .create⟩

def routeRooms (waited : Int) : MetricsTask := ⟨false, .change (.assign waited) []⟩

def pickQueueRoom (waited : Int) : MetricsTask := ⟨false, .change (.assign waited) []⟩

def postTake (waited : Int) : MetricsTask := ⟨false, .change (.assign waited) []⟩

/-- `BulkTransferService._transfer_user` and `_transfer_user_and_queue`, for rooms
without a user. -/
def bulkTransfer (waited : Int) : MetricsTask := ⟨true, .change (.assign waited) []⟩

/-- The `partial_update` of the external API. -/
def partialUpdate (waited : Int) : MetricsTask := ⟨false, .change (.assign waited) []⟩

/-- `RoomViewset.perform_update` with a user, for a room that has waited if it had no user
before. -/
def performUserUpdate (waited : Option Int) (queue : Bool) : MetricsTask where
  atomic := true
  use := .change ((waited.map .assign).getD .transfer) (if queue then [.transfer] else [])

/-- `RoomViewset.perform_update` with a queue only. -/
def performQueueUpdate : MetricsTask := ⟨true, .change .transfer []⟩

/-- `generate_metrics`, which adds a waiting time for rooms without a user. -/
def generateMetrics (atomic : Bool) (responseTime interactionTime : Int)
    (waited : Option Int) : MetricsTask where
  atomic := atomic
  use := .change
    { messageResponseTime := some responseTime
      interactionTime := some interactionTime
      waitingTime := waited.getD 0 } []

def calculateFirstResponseTimeTask (time : Int) : MetricsTask :=
  ⟨false, .firstResponseTime time⟩

end MetricsTask

/-- The row, and what has been stored in it so far: the sums of the increments, the first response
time that was stored first, and the changes. -/
structure MetricsStore where
  row : Option RoomMetrics
  waited : Int
  queued : Int
  transferred : Int
  firstResponse : Option Int
  changes : MetricsChanges
deriving DecidableEq, Repr

inductive MetricsWrite
  | create
  /-- A change of a copy that was loaded before, saved with all columns. -/
  | save (loaded : RoomMetrics) (change : MetricsChange)
  | saveFirstResponseTime (time : Int)
deriving DecidableEq, Repr

namespace MetricsStore

def initial : MetricsStore := ⟨none, 0, 0, 0, none, {}⟩

def metrics (store : MetricsStore) : RoomMetrics := store.row.getD {}

def write (store : MetricsStore) : MetricsWrite → MetricsStore
  | .create => { store with row := some {} }
  | .save loaded change =>
      { row := some (change.apply loaded)
        waited := store.waited + change.waitingTime
        queued := store.queued + change.queuedCount
        transferred := store.transferred + change.transferCount
        firstResponse := store.firstResponse.or loaded.firstResponseTime
        changes := store.changes.record store.metrics (change.apply loaded) }
  | .saveFirstResponseTime time =>
      match store.row with
      | none => store
      | some row =>
          { store with
            row := some { row with firstResponseTime := some time }
            firstResponse := store.firstResponse.or (some time)
            changes := store.changes.record row { row with firstResponseTime := some time } }

def Keeps (store : MetricsStore) : Prop :=
  store.metrics.waitingTime = store.waited ∧
  store.metrics.queuedCount = store.queued ∧
  store.metrics.transferCount = store.transferred ∧
  store.metrics.firstResponseTime = store.firstResponse

instance : DecidablePred Keeps := fun store =>
  inferInstanceAs (Decidable (store.metrics.waitingTime = store.waited ∧
    store.metrics.queuedCount = store.queued ∧
    store.metrics.transferCount = store.transferred ∧
    store.metrics.firstResponseTime = store.firstResponse))

end MetricsStore

/-- The next statement of an operation. What it saves, it has read after the changes of `since`. -/
inductive MetricsStage
  /-- The `SELECT` of `get_or_create`. -/
  | getting (task : MetricsTask)
  /-- Its `INSERT`, or that of `create`. -/
  | creating (task : MetricsTask)
  | saving (atomic : Bool) (loaded : RoomMetrics) (since : MetricsChanges)
      (change : MetricsChange) (later : List MetricsChange)
  | savingFirstResponseTime (time : Int) (since : MetricsChanges)
  /-- The statements that follow in the transaction. -/
  | finishing
deriving DecidableEq, Repr

/-- There is one row, which is locked by `INSERT` and by `UPDATE`. -/
inductive MetricsLock
  | row
deriving DecidableEq, Repr

namespace MetricsStage

abbrev MetricsStatement := Statement MetricsWrite MetricsLock MetricsStage

def enter (task : MetricsTask) : MetricsStage :=
  match task.use with
  | .create => .creating task
  | _ => .getting task

/-- Outside of a transaction each statement is committed by itself. -/
def goOn (atomic : Bool) (stage : MetricsStage) : Continuation MetricsStage :=
  if atomic then .proceed stage else .commit (some stage)

def finish (atomic : Bool) : Continuation MetricsStage :=
  if atomic then .proceed .finishing else .commit none

def afterGet (task : MetricsTask) (metrics : RoomMetrics) (since : MetricsChanges) :
    Continuation MetricsStage :=
  match task.use with
  | .create => finish task.atomic
  | .change change later => goOn task.atomic (.saving task.atomic metrics since change later)
  | .firstResponseTime time =>
      if metrics.firstResponseTime = none then
        goOn task.atomic (.savingFirstResponseTime time since)
      else finish task.atomic

/-- An `INSERT` that finds the row violates the one-to-one constraint; `get_or_create`
then reads the row again. -/
def create (store : MetricsStore) (task : MetricsTask) : MetricsStatement :=
  match store.row, task.use with
  | none, _ =>
      { locks := [.row], writes := [.create], next := afterGet task {} store.changes }
  | some _, .create => { locks := [], writes := [], next := .rollback none }
  | some _, _ => { locks := [], writes := [], next := goOn task.atomic (.getting task) }

def save (atomic : Bool) (loaded : RoomMetrics) (change : MetricsChange)
    (later : List MetricsChange) : MetricsStatement where
  locks := [.row]
  writes := [.save loaded change]
  next := match later with
    | [] => finish atomic
    | next :: rest => goOn atomic (.getting ⟨atomic, .change next rest⟩)

def advance (store : MetricsStore) : MetricsStage → MetricsStatement
  | .getting task =>
      match store.row with
      | none => { locks := [], writes := [], next := goOn task.atomic (.creating task) }
      | some row => { locks := [], writes := [], next := afterGet task row store.changes }
  | .creating task => create store task
  | .saving atomic loaded _ change later => save atomic loaded change later
  | .savingFirstResponseTime time _ =>
      { locks := [.row], writes := [.saveFirstResponseTime time], next := .commit none }
  | .finishing => { locks := [], writes := [], next := .commit none }

end MetricsStage

def metricsProgram : SessionProgram MetricsStore MetricsWrite MetricsLock MetricsStage
    MetricsTask Unit Empty where
  enter := .enter
  write := .write
  advance := fun store stage _ => some (stage.advance store)
  surround := fun _ event => nomatch event

abbrev MetricsSessions (Pid : Type) :=
  Sessions Pid MetricsStore MetricsWrite MetricsLock MetricsStage

abbrev MetricsEvent (Pid : Type) := PoolEvent Pid MetricsTask Unit Empty

/-! ## Changes since a statement -/

/-- What was read stands unless a change has been counted since. -/
def StandsSince (since count : Nat) (stands : Prop) : Prop :=
  since ≤ count ∧ (since = count → stands)

theorem StandsSince.now {count : Nat} {stands : Prop} (holds : stands) :
    StandsSince count count stands :=
  ⟨Nat.le_refl count, fun _ => holds⟩

theorem StandsSince.later {since count next : Nat} {stands after : Prop}
    (standsSince : StandsSince since count stands) (counted : count ≤ next)
    (kept : count = next → stands → after) : StandsSince since next after := by
  refine ⟨Nat.le_trans standsSince.1 counted, ?_⟩
  intro noneSince
  have same : count = next := Nat.le_antisymm counted (noneSince ▸ standsSince.1)
  exact kept same (standsSince.2 (noneSince.trans same.symm))

namespace MetricsStore

variable {store next last : MetricsStore}

/-- A later store, with every change counted. -/
structure Follows (store next : MetricsStore) : Prop where
  counters : StandsSince store.changes.counters next.changes.counters
    (next.metrics.counters = store.metrics.counters)
  response : StandsSince store.changes.response next.changes.response
    (next.metrics.firstResponseTime = store.metrics.firstResponseTime)

theorem Follows.refl : store.Follows store := ⟨.now rfl, .now rfl⟩

theorem Follows.trans (first : store.Follows next) (second : next.Follows last) :
    store.Follows last where
  counters := first.counters.later second.counters.1 fun same kept =>
    (second.counters.2 same).trans kept
  response := first.response.later second.response.1 fun same kept =>
    (second.response.2 same).trans kept

theorem follows_of_record {saved : RoomMetrics} (isRow : next.row = some saved)
    (recorded : next.changes = store.changes.record store.metrics saved) :
    store.Follows next := by
  have isSaved : next.metrics = saved := by rw [metrics, isRow, Option.getD_some]
  constructor
  · rw [recorded, MetricsChanges.record, isSaved]
    dsimp only
    split
    · next same => exact .now same
    · exact ⟨Nat.le_succ _, fun impossible => absurd impossible (Nat.succ_ne_self _).symm⟩
  · rw [recorded, MetricsChanges.record, isSaved]
    dsimp only
    split
    · next same => exact .now same
    · exact ⟨Nat.le_succ _, fun impossible => absurd impossible (Nat.succ_ne_self _).symm⟩

/-- A write keeps what is stored: the copy has the counters and the first response time of the
row, and no first response time is replaced by another. -/
def Accepts (store : MetricsStore) : MetricsWrite → Prop
  | .create => store.row = none
  | .save loaded _ => loaded.counters = store.metrics.counters ∧
      loaded.firstResponseTime = store.metrics.firstResponseTime
  | .saveFirstResponseTime time =>
      store.metrics.firstResponseTime = none ∨ store.metrics.firstResponseTime = some time

theorem follows_write {write : MetricsWrite} (created : write = .create → store.row = none) :
    store.Follows (store.write write) := by
  cases write with
  | create =>
      have same : (store.write .create).metrics = store.metrics := by
        simp [MetricsStore.write, metrics, created rfl]
      exact ⟨.now (congrArg RoomMetrics.counters same),
        .now (congrArg RoomMetrics.firstResponseTime same)⟩
  | save loaded change => exact follows_of_record rfl rfl
  | saveFirstResponseTime time =>
      cases isRow : store.row with
      | none =>
          have same : store.write (.saveFirstResponseTime time) = store := by
            rw [MetricsStore.write, isRow]
          rw [same]
          exact .refl
      | some row =>
          have saves : (store.write (.saveFirstResponseTime time)).row =
              some { row with firstResponseTime := some time } := by
            rw [MetricsStore.write, isRow]
          apply follows_of_record saves
          rw [MetricsStore.write, isRow, metrics, isRow]
          rfl

theorem keeps_save {loaded : RoomMetrics} {change : MetricsChange} (keeps : store.Keeps)
    (accepts : store.Accepts (.save loaded change)) :
    (store.write (.save loaded change)).Keeps := by
  rcases accepts with ⟨counters, response⟩
  rcases keeps with ⟨keepsWaiting, keepsQueued, keepsTransferred, keepsResponse⟩
  rcases Prod.mk.inj counters with ⟨waiting, others⟩
  rcases Prod.mk.inj others with ⟨queued, transferred⟩
  refine ⟨?_, ?_, ?_, ?_⟩
  · change loaded.waitingTime + change.waitingTime = store.waited + change.waitingTime
    rw [waiting, keepsWaiting]
  · change loaded.queuedCount + change.queuedCount = store.queued + change.queuedCount
    rw [queued, keepsQueued]
  · change loaded.transferCount + change.transferCount =
      store.transferred + change.transferCount
    rw [transferred, keepsTransferred]
  · change loaded.firstResponseTime = store.firstResponse.or loaded.firstResponseTime
    rw [← keepsResponse, response, Option.or_self]

theorem keeps_saveFirstResponseTime {time : Int} (keeps : store.Keeps)
    (accepts : store.Accepts (.saveFirstResponseTime time)) :
    (store.write (.saveFirstResponseTime time)).Keeps := by
  rw [write]
  split
  · exact keeps
  · next row isRow =>
      have isMetrics : store.metrics = row := by rw [metrics, isRow, Option.getD_some]
      rcases keeps with ⟨keepsWaiting, keepsQueued, keepsTransferred, keepsResponse⟩
      rw [isMetrics] at keepsWaiting keepsQueued keepsTransferred keepsResponse
      refine ⟨keepsWaiting, keepsQueued, keepsTransferred, ?_⟩
      change some time = store.firstResponse.or (some time)
      rw [Accepts, isMetrics, keepsResponse] at accepts
      rcases accepts with missing | same
      · simp [missing]
      · simp [same]

theorem Keeps.write (keeps : store.Keeps) {write : MetricsWrite}
    (accepts : store.Accepts write) : (store.write write).Keeps := by
  cases write with
  | create =>
      have absent : store.row = none := accepts
      rw [Keeps, metrics, absent] at keeps
      exact keeps
  | save loaded change => exact keeps_save keeps accepts
  | saveFirstResponseTime time => exact keeps_saveFirstResponseTime keeps accepts

theorem initial_keeps : initial.Keeps := ⟨rfl, rfl, rfl, rfl⟩

end MetricsStore

/-- No write of another operation has changed the counters or the first response time between the
`SELECT` of an operation and its save. The save of a single column asks this for that column, or
finds its own time there. -/
def SavesUndisturbed (store : MetricsStore) (session : Session MetricsWrite MetricsStage)
    (_ : Unit) : Prop :=
  match session.locals with
  | .saving _ _ since _ _ => since = store.changes
  | .savingFirstResponseTime time since =>
      since.response = store.changes.response ∨ store.metrics.firstResponseTime = some time
  | _ => True

instance (store : MetricsStore) (session : Session MetricsWrite MetricsStage) (choice : Unit) :
    Decidable (SavesUndisturbed store session choice) := by
  unfold SavesUndisturbed
  split <;> infer_instance

namespace MetricsStage

variable {store next : MetricsStore} {stage rest : MetricsStage} {task : MetricsTask}

/-- What the operation has read stands unless a change has been counted since. The save of the
first response time is reached only after NULL has been read. -/
def Tracks (store : MetricsStore) : MetricsStage → Prop
  | .saving _ loaded since _ _ =>
      StandsSince since.counters store.changes.counters
          (loaded.counters = store.metrics.counters) ∧
        StandsSince since.response store.changes.response
          (loaded.firstResponseTime = store.metrics.firstResponseTime)
  | .savingFirstResponseTime _ since =>
      StandsSince since.response store.changes.response (store.metrics.firstResponseTime = none)
  | _ => True

theorem Tracks.follows (tracks : stage.Tracks store) (follows : store.Follows next) :
    stage.Tracks next := by
  cases stage with
  | saving atomic loaded since change later =>
      rcases tracks with ⟨counters, response⟩
      refine ⟨?_, ?_⟩
      · apply counters.later follows.counters.1
        intro same stands
        exact stands.trans (follows.counters.2 same).symm
      · apply response.later follows.response.1
        intro same stands
        exact stands.trans (follows.response.2 same).symm
  | savingFirstResponseTime time since =>
      apply StandsSince.later tracks follows.response.1
      intro same stands
      exact (follows.response.2 same).trans stands
  | getting task => trivial
  | creating task => trivial
  | finishing => trivial

def Leads (continuation : Continuation MetricsStage) (rest : MetricsStage) : Prop :=
  continuation = .proceed rest ∨ continuation = .commit (some rest)

theorem eq_of_leads_goOn {atomic : Bool} (leads : Leads (goOn atomic stage) rest) :
    rest = stage := by
  cases atomic with
  | false =>
      rcases leads with impossible | isRest
      · cases impossible
      · cases isRest
        rfl
  | true =>
      rcases leads with isRest | impossible
      · cases isRest
        rfl
      · cases impossible

theorem eq_of_leads_finish {atomic : Bool} (leads : Leads (finish atomic) rest) :
    rest = .finishing := by
  cases atomic with
  | false => rcases leads with impossible | impossible <;> cases impossible
  | true =>
      rcases leads with isRest | impossible
      · cases isRest
        rfl
      · cases impossible

theorem tracks_afterGet {metrics : RoomMetrics} {since : MetricsChanges}
    (isRead : metrics = store.metrics) (isNow : since = store.changes)
    (leads : Leads (afterGet task metrics since) rest) : rest.Tracks store := by
  subst isRead isNow
  rw [afterGet] at leads
  split at leads
  · cases eq_of_leads_finish leads
    trivial
  · cases eq_of_leads_goOn leads
    exact ⟨.now rfl, .now rfl⟩
  · split at leads
    · next missing =>
        cases eq_of_leads_goOn leads
        exact .now missing
    · cases eq_of_leads_finish leads
      trivial

theorem goOn_ne_rollback {atomic : Bool} : goOn atomic stage ≠ .rollback (some rest) := by
  cases atomic <;> nofun

theorem finish_ne_rollback {atomic : Bool} : finish atomic ≠ .rollback (some rest) := by
  cases atomic <;> nofun

theorem afterGet_ne_rollback {metrics : RoomMetrics} {since : MetricsChanges} :
    afterGet task metrics since ≠ .rollback (some rest) := by
  rw [afterGet]
  split
  · exact finish_ne_rollback
  · exact goOn_ne_rollback
  · split
    · exact goOn_ne_rollback
    · exact finish_ne_rollback

theorem advance_ne_rollback : (stage.advance store).next ≠ .rollback (some rest) := by
  cases stage with
  | getting task =>
      rw [advance]
      split
      · exact goOn_ne_rollback
      · exact afterGet_ne_rollback
  | creating task =>
      rw [advance, create.eq_def]
      split
      · exact afterGet_ne_rollback
      · nofun
      · exact goOn_ne_rollback
  | saving atomic loaded since change later =>
      cases later with
      | nil => exact finish_ne_rollback
      | cons next rest => exact goOn_ne_rollback
  | savingFirstResponseTime time since => nofun
  | finishing => nofun

theorem tracks_advance (leads : Leads (stage.advance store).next rest) :
    rest.Tracks (metricsProgram.writeAll store (stage.advance store).writes) := by
  cases stage with
  | getting task =>
      rw [advance] at leads ⊢
      split at leads
      · cases eq_of_leads_goOn leads
        trivial
      · next row isRow =>
          refine tracks_afterGet ?_ rfl leads
          change row = store.metrics
          rw [MetricsStore.metrics, isRow, Option.getD_some]
  | creating task =>
      rw [advance, create.eq_def] at leads ⊢
      split at leads
      · exact tracks_afterGet rfl rfl leads
      · rcases leads with impossible | impossible <;> cases impossible
      · cases eq_of_leads_goOn leads
        trivial
  | saving atomic loaded since change later =>
      cases later with
      | nil =>
          cases eq_of_leads_finish leads
          trivial
      | cons change rest =>
          cases eq_of_leads_goOn leads
          trivial
  | savingFirstResponseTime time since =>
      rcases leads with impossible | impossible <;> cases impossible
  | finishing => rcases leads with impossible | impossible <;> cases impossible

theorem advance_writes {session : Session MetricsWrite MetricsStage}
    (tracks : session.locals.Tracks store) (undisturbed : SavesUndisturbed store session ()) :
    (session.locals.advance store).writes = [] ∨
      ∃ write, (session.locals.advance store).writes = [write] ∧
        (session.locals.advance store).locks = [.row] ∧ store.Accepts write := by
  rw [SavesUndisturbed] at undisturbed
  cases isStage : session.locals with
  | getting task =>
      rw [advance]
      split <;> exact .inl rfl
  | creating task =>
      rw [advance, create.eq_def]
      split
      · next absent => exact .inr ⟨_, rfl, rfl, absent⟩
      · exact .inl rfl
      · exact .inl rfl
  | saving atomic loaded since change later =>
      rw [isStage] at tracks undisturbed
      dsimp only at undisturbed
      subst undisturbed
      exact .inr ⟨_, rfl, rfl, tracks.1.2 rfl, tracks.2.2 rfl⟩
  | savingFirstResponseTime time since =>
      rw [isStage] at tracks undisturbed
      rcases undisturbed with noneSince | same
      · exact .inr ⟨_, rfl, rfl, .inl (tracks.2 noneSince)⟩
      · exact .inr ⟨_, rfl, rfl, .inr same⟩
  | finishing => exact .inl rfl

end MetricsStage

abbrev SavesUndisturbedIn {Pid : Type} (sessions : MetricsSessions Pid)
    (event : MetricsEvent Pid) : Prop :=
  metricsProgram.OwnStep SavesUndisturbed sessions event

/-- What a session sees keeps all increments, a session that has written something owns the row,
and what it has read stands unless a change has been counted since. -/
structure MetricsAssertion (owns : MetricsLock → Prop) (store : MetricsStore)
    (session : Session MetricsWrite MetricsStage) : Prop where
  owner : session.pending = [] ∨ owns .row
  keeps : (metricsProgram.writeAll store session.pending).Keeps
  counted : store.Follows (metricsProgram.writeAll store session.pending)
  tracks : session.locals.Tracks (metricsProgram.writeAll store session.pending)

namespace MetricsAssertion

variable {owns : MetricsLock → Prop} {store : MetricsStore} {stage : MetricsStage}
  {session : Session MetricsWrite MetricsStage}

theorem of_none_pending (keeps : store.Keeps) (tracks : stage.Tracks store) :
    MetricsAssertion owns store { locals := stage, pending := [] } :=
  ⟨.inl rfl, keeps, .refl, tracks⟩

theorem tracks_rest {rest : MetricsStage}
    (leads : MetricsStage.Leads (session.locals.advance
      (metricsProgram.writeAll store session.pending)).next rest) :
    rest.Tracks (metricsProgram.writeAll store (session.pending ++ (session.locals.advance
      (metricsProgram.writeAll store session.pending)).writes)) := by
  rw [SessionProgram.writeAll_append]
  exact MetricsStage.tracks_advance leads

section Advance

variable (holds : MetricsAssertion owns store session)
  (undisturbed : SavesUndisturbed (metricsProgram.writeAll store session.pending) session ())
include holds undisturbed

theorem advance :
    (metricsProgram.writeAll store (session.pending ++ (session.locals.advance
      (metricsProgram.writeAll store session.pending)).writes)).Keeps := by
  rw [SessionProgram.writeAll_append]
  rcases MetricsStage.advance_writes holds.tracks undisturbed with
    noWrites | ⟨write, isWrite, _, accepts⟩
  · rw [noWrites]
    exact holds.keeps
  · rw [isWrite]
    exact holds.keeps.write accepts

theorem follows :
    store.Follows (metricsProgram.writeAll store (session.pending ++ (session.locals.advance
      (metricsProgram.writeAll store session.pending)).writes)) := by
  apply holds.counted.trans
  rw [SessionProgram.writeAll_append]
  rcases MetricsStage.advance_writes holds.tracks undisturbed with
    noWrites | ⟨write, isWrite, _, accepts⟩
  · rw [noWrites]
    exact .refl
  · rw [isWrite]
    apply MetricsStore.follows_write
    intro creates
    subst creates
    exact accepts

theorem locks :
    session.pending ++ (session.locals.advance
        (metricsProgram.writeAll store session.pending)).writes = [] ∨
      owns .row ∨ .row ∈ (session.locals.advance
        (metricsProgram.writeAll store session.pending)).locks := by
  rcases holds.owner with nonePending | isOwner
  · rcases MetricsStage.advance_writes holds.tracks undisturbed with
      noWrites | ⟨write, _, isLock, _⟩
    · left
      rw [noWrites, nonePending]
      rfl
    · right
      right
      rw [isLock]
      exact List.mem_cons_self
  · exact .inr (.inl isOwner)

end Advance

end MetricsAssertion

def metricsOutline (Pid : Type) [DecidableEq Pid] :
    SessionOutline metricsProgram
      (SavesUndisturbedIn : MetricsSessions Pid → MetricsEvent Pid → Prop) where
  Invariant := MetricsStore.Keeps
  Assertion := MetricsAssertion
  enter := by
    intro sessions pid task _ keeps
    apply MetricsAssertion.of_none_pending keeps
    change (MetricsStage.enter task).Tracks sessions.store
    rw [MetricsStage.enter]
    split <;> trivial
  proceed := by
    intro sessions pid choice session statement locals meets running _ assertion advanced goesOn
    cases Option.some.inj advanced
    have undisturbed := meets.allowed running
    refine ⟨?_, assertion.advance undisturbed, assertion.follows undisturbed,
      MetricsAssertion.tracks_rest (.inl goesOn)⟩
    rcases assertion.locks undisturbed with noWrites | locked
    · exact .inl noWrites
    · exact .inr locked
  commit := by
    intro sessions pid choice session statement rest meets running _ assertion advanced commits
    cases Option.some.inj advanced
    have keeps := assertion.advance (meets.allowed running)
    refine ⟨keeps, ?_⟩
    intro locals isRest
    subst isRest
    exact .of_none_pending keeps (MetricsAssertion.tracks_rest (.inr commits))
  commitOther := by
    intro sessions pid choice session statement rest meets running _ assertion advanced _
      owns other exclusive otherAssertion
    cases Option.some.inj advanced
    have undisturbed := meets.allowed running
    rcases otherAssertion.owner with nonePending | isOwner
    · have tracks := otherAssertion.tracks
      rw [nonePending] at tracks
      refine ⟨.inl nonePending, ?_, ?_, ?_⟩
      · rw [nonePending]
        exact assertion.advance undisturbed
      · rw [nonePending]
        exact .refl
      · rw [nonePending]
        exact tracks.follows (assertion.follows undisturbed)
    · rcases assertion.locks undisturbed with noWrites | locked
      · rw [SessionProgram.view, noWrites]
        exact otherAssertion
      · exact absurd locked (exclusive .row isOwner)
  rollback := by
    intro sessions pid choice session statement rest locals _ _ keeps _ advanced rolledBack isRest
    cases Option.some.inj advanced
    subst isRest
    exact absurd rolledBack MetricsStage.advance_ne_rollback
  surround := by
    intro sessions event
    cases event

/-- In every run in which the operations save undisturbed, no increment of another operation is
lost, and the first response time stays as it was stored first. -/
theorem metrics_lose_no_update {Pid : Type} [DecidableEq Pid] {final : MetricsSessions Pid}
    (reaches : metricsProgram.machine.Reaches SavesUndisturbedIn (Sessions.idle .initial) final) :
    final.store.Keeps :=
  ((metricsOutline Pid).holds_of_reaches reaches
    ((metricsOutline Pid).holds_idle MetricsStore.initial_keeps)).store

/-! ## A transfer during the first response -/

inductive MetricsParty
  | request
  | task
deriving DecidableEq, Repr

def pickedRoom : List (MetricsEvent MetricsParty) :=
  [.start .request .createRoom, .advance .request (), .advance .request (),
    .start .request (.pickQueueRoom 40), .advance .request (), .advance .request ()]

def firstResponse : List (MetricsEvent MetricsParty) :=
  [.start .task (.calculateFirstResponseTimeTask 15), .advance .task (), .advance .task ()]

/-- The room is transferred while the task runs: its metrics are read before the task
saves the first response time, and saved afterwards. -/
def transferDuringFirstResponse : List (MetricsEvent MetricsParty) :=
  [.start .request (.performUserUpdate none false), .advance .request ()] ++ firstResponse ++
    [.advance .request (), .advance .request ()]

theorem transfer_erases_first_response :
    ¬ ∀ final : MetricsSessions MetricsParty,
      metricsProgram.machine.Reaches Machine.anyStep (Sessions.idle .initial) final →
      final.store.Keeps := by
  intro keeps
  have erases : (metricsProgram.machine.run (Sessions.idle .initial)
      (pickedRoom ++ transferDuringFirstResponse)).map (fun sessions => sessions.store) =
      some ⟨some { waitingTime := 40, queuedCount := 1, transferCount := 1 }, 40, 1, 1,
        some 15, ⟨2, 2⟩⟩ := by
    decide
  rcases Option.map_eq_some_iff.mp erases with ⟨final, ran, isStore⟩
  have kept := keeps final (.of_run ran)
  rw [isStore] at kept
  exact absurd kept (by decide)

/-- The room is transferred when the task has ended. -/
theorem metrics_lose_no_update_after_first_response :
    ∃ final, metricsProgram.machine.runMeeting SavesUndisturbedIn (Sessions.idle .initial)
        (pickedRoom ++ firstResponse ++
          [.start .request (.performUserUpdate none false), .advance .request (),
            .advance .request (), .advance .request ()]) = some final ∧
      final.store.row.map RoomMetrics.firstResponseTime = some (some 15) ∧
      MetricsStore.Keeps final.store := by
  have ends : (metricsProgram.machine.runMeeting SavesUndisturbedIn (Sessions.idle .initial)
      (pickedRoom ++ firstResponse ++
        [.start .request (.performUserUpdate none false), .advance .request (),
          .advance .request (), .advance .request ()])).map
      (fun sessions : MetricsSessions MetricsParty =>
        sessions.store.row.map RoomMetrics.firstResponseTime) = some (some (some 15)) := by
    decide
  rcases Option.map_eq_some_iff.mp ends with ⟨final, ran, isStored⟩
  exact ⟨final, ran, isStored, metrics_lose_no_update (.of_runMeeting ran)⟩

end ChatsEngine.Dashboard
