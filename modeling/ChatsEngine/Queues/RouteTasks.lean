import ChatsEngine.Core.Types
import ChatsEngine.Foundation.Pool
import ChatsEngine.Foundation.TtlCache

/-! # The routing tasks

`route_queue_rooms` and `route_sector_rooms` take a lock in the cache before they
route, and delete it afterwards. An execution that finds the lock taken sets a
pending key and schedules a deferred retry, unless the pending key is there
already. Any number of executions are interleaved at their operations on the
cache, the broker and the database. -/

namespace ChatsEngine.Queues

structure RouteSettings where
  /-- `ROUTE_QUEUE_COOLDOWN_MAX_TIME`. -/
  cooldownMaxTime : Nat
  /-- `ROUTE_QUEUE_COOLDOWN_RETRY_DELAY`. -/
  cooldownRetryDelay : Nat

inductive RouteTask
  | routeQueueRooms (queue : Uuid)
  | routeSectorRooms (sector : Uuid)
deriving DecidableEq, Repr

/-- Queues and sectors share the prefix `route_queue_rooms_lock`. -/
inductive CacheKey
  | routeLock (uuid : Uuid)
  | queuePending (queue : Uuid)
  | sectorPending (sector : Uuid)
deriving DecidableEq, Repr

namespace RouteTask

def lockKey : RouteTask → CacheKey
  | .routeQueueRooms queue => .routeLock queue
  | .routeSectorRooms sector => .routeLock sector

def pendingKey : RouteTask → CacheKey
  | .routeQueueRooms queue => .queuePending queue
  | .routeSectorRooms sector => .sectorPending sector

theorem lockKey_ne_pendingKey (left right : RouteTask) :
    left.lockKey ≠ right.pendingKey := by
  cases left <;> cases right <;> simp [lockKey, pendingKey]

theorem pendingKey_inj {left right : RouteTask} (same : left.pendingKey = right.pendingKey) :
    left = right := by
  cases left <;> cases right <;> simp_all [pendingKey]

end RouteTask

/-- What the executions have done so far, for reasoning about runs. -/
inductive RouteRecord
  /-- The lock was acquired. -/
  | acquired (task : RouteTask) (at_ : Nat)
  /-- The pending key was set. -/
  | marked (task : RouteTask) (at_ : Nat)
  /-- A retry was scheduled by the execution that set the pending key at `since`. -/
  | retried (task : RouteTask) (since at_ : Nat)
  /-- The execution returned `False`. -/
  | refused (task : RouteTask) (at_ : Nat)
deriving DecidableEq, Repr

/-- Times are in microseconds. -/
structure RouteState where
  now : Nat
  cache : TtlCache CacheKey
  /-- The tasks in the broker that are to start at a given time or later. -/
  deferred : List (RouteTask × Nat)
  log : List RouteRecord

inductive RouteStage
  /-- A worker that takes a deferred task from the broker. -/
  | fetching
  | finding (task : RouteTask)
  | acquiring (task : RouteTask)
  | listing (task : RouteTask)
  /-- About to construct the service of the first queue. -/
  | constructing (task : RouteTask) (queues : List Uuid)
  /-- Inside `route_rooms` for the queue. -/
  | routing (task : RouteTask) (queue : Uuid) (queues : List Uuid)
  | releasing (task : RouteTask)
  | marking (task : RouteTask)
  | scheduling (task : RouteTask) (since : Nat)
deriving DecidableEq, Repr

inductive RouteChoice
  | done
  /-- The position of the deferred task that the worker takes. -/
  | deferred (position : Nat)
  | missing
  /-- The queues that the database has for the sector. -/
  | queues (queues : List Uuid)
  | raised (valueError : Bool)
deriving DecidableEq, Repr

inductive RouteStart
  | immediate (task : RouteTask)
  | deferred
deriving DecidableEq, Repr

def RouteStart.enter : RouteStart → RouteStage
  | .immediate task => .finding task
  | .deferred => .fetching

/-- After a queue, or when an exception was raised in it: a sector goes on with
its next queue, unless the exception is no `ValueError`. -/
def RouteStage.afterRaise (task : RouteTask) (queues : List Uuid) (valueError : Bool) :
    RouteStage :=
  match task, valueError with
  | .routeSectorRooms _, true => .constructing task queues
  | _, _ => .releasing task

def RouteStage.afterAcquire : RouteTask → RouteStage
  | .routeQueueRooms queue => .constructing (.routeQueueRooms queue) [queue]
  | .routeSectorRooms sector => .listing (.routeSectorRooms sector)

namespace RouteState

variable (settings : RouteSettings) (state : RouteState)

/-- `cache.add(lock_key, ...)`. -/
def acquire (task : RouteTask) : RouteState × Option RouteStage :=
  match state.cache.add state.now task.lockKey settings.cooldownMaxTime with
  | some cache =>
      ({ state with cache, log := .acquired task state.now :: state.log },
        some (.afterAcquire task))
  | none => (state, some (.marking task))

/-- `cache.add(pending_key, ...)`. When the key is there already, the execution
returns `False`. -/
def mark (task : RouteTask) : RouteState × Option RouteStage :=
  match state.cache.add state.now task.pendingKey settings.cooldownRetryDelay with
  | some cache =>
      ({ state with cache, log := .marked task state.now :: state.log },
        some (.scheduling task state.now))
  | none => ({ state with log := .refused task state.now :: state.log }, none)

/-- `apply_async`, after which the execution returns `False`. -/
def schedule (task : RouteTask) (since : Nat) : RouteState :=
  { state with
    deferred := state.deferred ++ [(task, state.now + settings.cooldownRetryDelay)]
    log := .refused task state.now :: .retried task since state.now :: state.log }

def fetch (position : Nat) : Option (RouteState × RouteTask) :=
  match state.deferred[position]? with
  | none => none
  | some (task, eta) =>
      if eta ≤ state.now then
        some ({ state with deferred := state.deferred.eraseIdx position }, task)
      else
        none

end RouteState

def advance (settings : RouteSettings) (state : RouteState) :
    RouteStage → RouteChoice → Option (RouteState × Option RouteStage)
  | .fetching, .deferred position =>
      (state.fetch position).map fun (next, task) => (next, some (.finding task))
  | .finding task, .done => some (state, some (.acquiring task))
  | .finding _, .missing => some (state, none)
  | .acquiring task, .done => some (state.acquire settings task)
  | .listing task, .queues queues => some (state, some (.constructing task queues))
  | .listing task, .raised _ => some (state, some (.releasing task))
  | .constructing task [], .done => some (state, some (.releasing task))
  | .constructing task (queue :: queues), .done =>
      some (state, some (.routing task queue queues))
  -- the queue's project does not use priority routing
  | .constructing task (_ :: queues), .raised _ =>
      some (state, some (.afterRaise task queues true))
  | .routing task _ queues, .done => some (state, some (.constructing task queues))
  | .routing task _ queues, .raised valueError =>
      some (state, some (.afterRaise task queues valueError))
  | .releasing task, .done =>
      some ({ state with cache := state.cache.delete task.lockKey }, none)
  | .marking task, .done => some (state.mark settings task)
  | .scheduling task since, .done => some (state.schedule settings task since, none)
  | _, _ => none

/-- The task of an execution that has acquired its lock and not released it yet. -/
def RouteStage.locked : RouteStage → Option RouteTask
  | .fetching => none
  | .finding _ => none
  | .acquiring _ => none
  | .listing task => some task
  | .constructing task _ => some task
  | .routing task _ _ => some task
  | .releasing task => some task
  | .marking _ => none
  | .scheduling _ _ => none

@[simp] theorem RouteStage.locked_afterRaise (task : RouteTask) (queues : List Uuid)
    (valueError : Bool) : (afterRaise task queues valueError).locked = some task := by
  cases task <;> cases valueError <;> rfl

@[simp] theorem RouteStage.locked_afterAcquire (task : RouteTask) :
    (afterAcquire task).locked = some task := by
  cases task <;> rfl

/-- The statements of an execution, by what they do to the shared state. -/
inductive RouteStep (settings : RouteSettings) (state : RouteState) :
    RouteStage → RouteState → Option RouteStage → Prop
  | fetch {position : Nat} {task : RouteTask} {eta : Nat} :
      state.deferred[position]? = some (task, eta) → eta ≤ state.now →
      RouteStep settings state .fetching
        { state with deferred := state.deferred.eraseIdx position } (some (.finding task))
  | find {task : RouteTask} :
      RouteStep settings state (.finding task) state (some (.acquiring task))
  | miss {task : RouteTask} : RouteStep settings state (.finding task) state none
  | acquire {task : RouteTask} {cache : TtlCache CacheKey} :
      state.cache.add state.now task.lockKey settings.cooldownMaxTime = some cache →
      RouteStep settings state (.acquiring task)
        { state with cache, log := .acquired task state.now :: state.log }
        (some (.afterAcquire task))
  | occupied {task : RouteTask} :
      state.cache.Alive state.now task.lockKey →
      RouteStep settings state (.acquiring task) state (some (.marking task))
  | proceed {task : RouteTask} {before after : RouteStage} :
      before.locked = some task → after.locked = some task →
      RouteStep settings state before state (some after)
  | release {task : RouteTask} :
      RouteStep settings state (.releasing task)
        { state with cache := state.cache.delete task.lockKey } none
  | mark {task : RouteTask} {cache : TtlCache CacheKey} :
      state.cache.add state.now task.pendingKey settings.cooldownRetryDelay = some cache →
      RouteStep settings state (.marking task)
        { state with cache, log := .marked task state.now :: state.log }
        (some (.scheduling task state.now))
  | alreadyPending {task : RouteTask} :
      state.cache.Alive state.now task.pendingKey →
      RouteStep settings state (.marking task)
        { state with log := .refused task state.now :: state.log } none
  | schedule {task : RouteTask} {since : Nat} :
      RouteStep settings state (.scheduling task since) (state.schedule settings task since) none

theorem routeStep_of_advance {settings : RouteSettings} {state next : RouteState}
    {stage : RouteStage} {choice : RouteChoice} {rest : Option RouteStage}
    (advanced : advance settings state stage choice = some (next, rest)) :
    RouteStep settings state stage next rest := by
  unfold advance at advanced
  split at advanced
  · next position =>
      rcases Option.map_eq_some_iff.mp advanced with ⟨⟨fetched, task⟩, found, same⟩
      cases same
      rw [RouteState.fetch] at found
      split at found
      · cases found
      · next task eta waiting =>
          split at found
          · next due =>
              cases found
              exact .fetch waiting due
          · cases found
  · cases advanced
    exact .find
  · cases advanced
    exact .miss
  · next task =>
      rw [RouteState.acquire] at advanced
      split at advanced
      · next cache added =>
          cases advanced
          exact .acquire added
      · next taken =>
          cases advanced
          exact .occupied (TtlCache.add_eq_none_iff.mp taken)
  · cases advanced
    exact .proceed rfl rfl
  · cases advanced
    exact .proceed rfl rfl
  · cases advanced
    exact .proceed rfl rfl
  · cases advanced
    exact .proceed rfl rfl
  · cases advanced
    exact .proceed rfl (RouteStage.locked_afterRaise _ _ _)
  · cases advanced
    exact .proceed rfl rfl
  · cases advanced
    exact .proceed rfl (RouteStage.locked_afterRaise _ _ _)
  · cases advanced
    exact .release
  · next task =>
      rw [RouteState.mark] at advanced
      split at advanced
      · next cache added =>
          cases advanced
          exact .mark added
      · next taken =>
          cases advanced
          exact .alreadyPending (TtlCache.add_eq_none_iff.mp taken)
  · cases advanced
    exact .schedule
  · cases advanced

inductive RouteSurrounding
  | tick (elapsed : Nat)
deriving DecidableEq, Repr

def surround (state : RouteState) : RouteSurrounding → Option RouteState
  | .tick elapsed => some { state with now := state.now + elapsed }

def routeProgram (settings : RouteSettings) :
    Program RouteState RouteStage RouteStart RouteChoice RouteSurrounding where
  enter := RouteStart.enter
  advance := advance settings
  surround := surround

abbrev RoutePool (Pid : Type) := Pool Pid RouteState RouteStage

abbrev RouteEvent (Pid : Type) :=
  PoolEvent Pid RouteStart RouteChoice RouteSurrounding

def defaultSettings : RouteSettings where
  cooldownMaxTime := 30 * 1000000
  cooldownRetryDelay := 2 * 1000000

def RouteState.fresh (now : Nat) : RouteState where
  now := now
  cache := fun _ => none
  deferred := []
  log := []

inductive Worker
  | first
  | second
  | third
deriving DecidableEq

instance : Fintype Worker where
  elems := {.first, .second, .third}
  complete := by
    intro worker
    cases worker <;> simp

end ChatsEngine.Queues
