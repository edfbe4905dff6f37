import ChatsEngine.Core.Types
import ChatsEngine.Dashboard.RoomMetrics
import ChatsEngine.Foundation.Queries
import ChatsEngine.Foundation.Table

/-! # Metric goals

A project sets itself goals for three metrics of its active rooms. The sweep that sends
alerts and the dashboard both look for the rooms that are above the threshold of a
goal, each with queries of its own. -/

namespace ChatsEngine.Dashboard

inductive Metric
  | waitingTime
  | firstResponseTime
  | conversationDuration
  deriving DecidableEq, Repr

inductive GoalUnit
  | second
  | minute
  | hour
  deriving DecidableEq, Repr

/-- `UNIT_TO_SECONDS`. -/
def GoalUnit.seconds : GoalUnit → Nat
  | .second => 1
  | .minute => 60
  | .hour => 3600

def thresholdSecondsToUnitValue (thresholdSeconds : Nat) (unit : GoalUnit) : Nat :=
  thresholdSeconds / unit.seconds

/-- A row of `MetricGoal`, without its project and its metric. -/
structure MetricGoal where
  thresholdSeconds : Nat
  unit : GoalUnit
  isActive : Bool
  emailEnabled : Bool
  roomsThresholdCount : Nat
  roomsThresholdPercent : Option Nat
  deriving DecidableEq, Repr

def defaultRoomsThresholdCount : Nat := 5

/-- The queue of a room, with the columns of its sector. -/
structure MeasuredQueue where
  uuid : Uuid
  sector : Uuid
  project : Uuid
  isDeleted : Bool
  sectorIsDeleted : Bool
  deriving DecidableEq, Repr

structure MeasuredRoom where
  isActive : Bool
  queue : Option MeasuredQueue
  user : Option UserEmail
  addedToQueueAt : Option Instant
  firstUserAssignedAt : Option Instant
  tags : List Uuid
  deriving DecidableEq, Repr

/-- There is one goal for each project and metric, by `unique_project_metric_goal`. A
row of `RoomMetrics` is listed with its room. -/
structure GoalDatabase where
  rooms : Table Uuid MeasuredRoom
  metrics : List (Uuid × RoomMetrics)
  goals : Table (Uuid × Metric) MetricGoal

abbrev RoomRow := (_ : Uuid) × MeasuredRoom

/-- `now - timedelta(seconds=...)`. -/
def cutoff (now : Instant) (seconds : Nat) : Int := (now : Int) - (seconds : Int) * 1000000

/-- The whole seconds from an instant until `now`, rounded towards zero. -/
def secondsUntil (now : Instant) (since : Instant) : Int := ((now : Int) - since).tdiv 1000000

theorem le_secondsUntil_iff {seconds : Nat} (positive : 0 < seconds) (now since : Instant) :
    (seconds : Int) ≤ secondsUntil now since ↔ (since : Int) ≤ cutoff now seconds := by
  rw [secondsUntil, cutoff]
  by_cases past : (since : Int) ≤ now
  · have nonneg : 0 ≤ (now : Int) - since := by omega
    rw [Int.tdiv_eq_ediv_of_nonneg nonneg, Int.le_ediv_iff_mul_le (by omega)]
    omega
  · have reversed : ((now : Int) - since).tdiv 1000000 = -((since : Int) - now).tdiv 1000000 := by
      rw [← Int.neg_tdiv, Int.neg_sub]
    have nonneg : 0 ≤ ((since : Int) - now).tdiv 1000000 :=
      Int.tdiv_nonneg (by omega) (by omega)
    omega

def ReachedBy (cutoff : Int) (timestamp : Option Instant) : Prop :=
  ∃ instant ∈ timestamp, (instant : Nat) ≤ cutoff

instance (cutoff : Int) (timestamp : Option Instant) : Decidable (ReachedBy cutoff timestamp) :=
  inferInstanceAs (Decidable (∃ instant ∈ timestamp, _))

def MeasuredRoom.ActiveIn (room : MeasuredRoom) (project : Uuid) : Prop :=
  room.isActive = true ∧ ∃ queue ∈ room.queue, queue.project = project

instance (room : MeasuredRoom) (project : Uuid) : Decidable (room.ActiveIn project) :=
  inferInstanceAs (Decidable (_ ∧ ∃ queue ∈ room.queue, _))

def MeasuredRoom.Waits (room : MeasuredRoom) (cutoff : Int) : Prop :=
  room.user.isNone ∧ ReachedBy cutoff room.addedToQueueAt

def MeasuredRoom.Converses (room : MeasuredRoom) (cutoff : Int) : Prop :=
  room.user.isSome ∧ ReachedBy cutoff room.firstUserAssignedAt

instance (room : MeasuredRoom) (cutoff : Int) : Decidable (room.Waits cutoff) :=
  inferInstanceAs (Decidable (_ ∧ _))

instance (room : MeasuredRoom) (cutoff : Int) : Decidable (room.Converses cutoff) :=
  inferInstanceAs (Decidable (_ ∧ _))

/-! ## The sweep -/

/-- `Exists` of a first response time above zero. -/
def GoalDatabase.HasResponded (database : GoalDatabase) (room : Uuid) : Prop :=
  ∃ metrics ∈ database.metrics, metrics.1 = room ∧
    ∃ time ∈ metrics.2.firstResponseTime, 0 < (time : Int)

instance (database : GoalDatabase) (room : Uuid) : Decidable (database.HasResponded room) :=
  inferInstanceAs (Decidable (∃ metrics ∈ database.metrics, _))

/-- The conditions of `_build_violation_queryset`. -/
def GoalDatabase.Violates (database : GoalDatabase) (metric : Metric) (project : Uuid)
    (cutoff : Int) (room : RoomRow) : Prop :=
  room.2.ActiveIn project ∧
    match metric with
    | .waitingTime => room.2.Waits cutoff
    | .firstResponseTime => room.2.Converses cutoff ∧ ¬database.HasResponded room.1
    | .conversationDuration => room.2.Converses cutoff

instance (database : GoalDatabase) (metric : Metric) (project : Uuid) (cutoff : Int)
    (room : RoomRow) : Decidable (database.Violates metric project cutoff room) := by
  cases metric <;> dsimp only [GoalDatabase.Violates] <;> infer_instance

def buildViolationQueryset (database : GoalDatabase) (metric : Metric) (project : Uuid)
    (cutoff : Int) : List RoomRow :=
  database.rooms.entries.filter fun room => database.Violates metric project cutoff room

def Metric.maxAgeField : Metric → MeasuredRoom → Option Instant
  | .waitingTime => MeasuredRoom.addedToQueueAt
  | _ => MeasuredRoom.firstUserAssignedAt

structure Violation where
  project : Uuid
  metric : Metric
  violatingCount : Nat
  maxValueSeconds : Int
  thresholdSeconds : Nat
  roomsThresholdCount : Nat
  roomsThresholdPercent : Option Nat
  activeRoomsCount : Option Nat
  emailEnabled : Bool
  detectedAt : Instant
  deriving DecidableEq, Repr

def Violation.MeetsRoomsThreshold (violation : Violation) : Prop :=
  violation.roomsThresholdCount ≤ violation.violatingCount

instance (violation : Violation) : Decidable violation.MeetsRoomsThreshold :=
  inferInstanceAs (Decidable (_ ≤ _))

/-- A percentage of zero counts as none. -/
def MetricGoal.percent (goal : MetricGoal) : Option Nat :=
  goal.roomsThresholdPercent.filter fun percent => decide (percent ≠ 0)

def resolveThresholdCount (goal : MetricGoal) (activeRoomsCount : Option Nat) : Nat :=
  match goal.percent, activeRoomsCount with
  | some percent, some active => max 1 ((active * percent + 99) / 100)
  | _, _ => if goal.roomsThresholdCount = 0 then defaultRoomsThresholdCount
      else goal.roomsThresholdCount

/-- `_project_active_room_counts`, in which a project without active rooms is missing. -/
def projectActiveRoomCount (database : GoalDatabase) (project : Uuid) : Option Nat :=
  let count := database.rooms.entries.countP fun room => room.2.ActiveIn project
  if count = 0 then none else some count

def GoalDatabase.sweptGoals (database : GoalDatabase) (enabled : Uuid → Bool)
    (metric : Metric) : List ((_ : Uuid × Metric) × MetricGoal) :=
  database.goals.entries.filter fun goal =>
    goal.1.2 = metric ∧ goal.2.isActive = true ∧ enabled goal.1.1 = true

/-- What `detect_violations` makes of one goal. -/
def detectViolation (database : GoalDatabase) (now : Instant) (needsActiveCount : Bool)
    (key : Uuid × Metric) (goal : MetricGoal) : Option Violation :=
  let rooms := buildViolationQueryset database key.2 key.1 (cutoff now goal.thresholdSeconds)
  if rooms.length = 0 then
    none
  else
    let activeRoomsCount :=
      if needsActiveCount then projectActiveRoomCount database key.1 else none
    let oldest := (rooms.filterMap fun room => key.2.maxAgeField room.2).max?
    some
      { project := key.1
        metric := key.2
        violatingCount := rooms.length
        maxValueSeconds := (oldest.map fun since => secondsUntil now since).getD 0
        thresholdSeconds := goal.thresholdSeconds
        roomsThresholdCount := resolveThresholdCount goal activeRoomsCount
        roomsThresholdPercent := goal.roomsThresholdPercent
        activeRoomsCount
        emailEnabled := goal.emailEnabled
        detectedAt := now }

def detectViolations (database : GoalDatabase) (enabled : Uuid → Bool) (metric : Metric)
    (now : Instant) : List Violation :=
  let goals := database.sweptGoals enabled metric
  let needsActiveCount := goals.any fun goal => goal.2.percent.isSome
  goals.filterMap fun goal => detectViolation database now needsActiveCount goal.1 goal.2

/-! ## The dashboard -/

/-- The filters of a request, as lists that are empty where there is no filter. -/
structure Filters where
  sector : List Uuid
  queue : List Uuid
  tag : List Uuid
  agent : Option UserEmail
  deriving DecidableEq, Repr

/-- What the filters ask of the room itself. An empty agent is no filter. -/
structure Filters.SelectsRoom (filters : Filters) (room : MeasuredRoom) : Prop where
  sector : filters.sector = [] ∨ ∃ queue ∈ room.queue, queue.sector ∈ filters.sector
  queue : filters.queue = [] ∨ ∃ queue ∈ room.queue, queue.uuid ∈ filters.queue

def Filters.SelectsAgent (filters : Filters) (room : MeasuredRoom) : Prop :=
  ∀ agent ∈ filters.agent, agent ≠ "" → room.user = some agent

instance (filters : Filters) (room : MeasuredRoom) : Decidable (filters.SelectsRoom room) :=
  decidable_of_iff
    ((filters.sector = [] ∨ ∃ queue ∈ room.queue, queue.sector ∈ filters.sector) ∧
      (filters.queue = [] ∨ ∃ queue ∈ room.queue, queue.uuid ∈ filters.queue))
    ⟨fun both => ⟨both.1, both.2⟩, fun selects => ⟨selects.sector, selects.queue⟩⟩

instance (filters : Filters) (room : MeasuredRoom) : Decidable (filters.SelectsAgent room) :=
  inferInstanceAs (Decidable (∀ agent ∈ filters.agent, _))

/-- The filter on tags only counts next to one on sectors. -/
def Filters.JoinsTags (filters : Filters) : Prop :=
  filters.sector ≠ [] ∧ filters.tag ≠ []

instance (filters : Filters) : Decidable filters.JoinsTags :=
  inferInstanceAs (Decidable (_ ∧ _))

/-- The join with the tags lists a row once for each of its tags that is asked for. -/
def Filters.joinTags {Row : Type} (filters : Filters) (tags : Row → List Uuid)
    (rows : List Row) : List Row :=
  if filters.JoinsTags then
    ((Query.innerJoin rows tags).filter fun joined =>
      decide (joined.2 ∈ filters.tag)).map Prod.fst
  else
    rows

/-- `_apply_filters_to_q`, on the rows of a query. -/
def applyFiltersToQ (filters : Option Filters) (rooms : List RoomRow) : List RoomRow :=
  match filters with
  | none => rooms
  | some filters =>
      filters.joinTags (fun room => room.2.tags)
        (rooms.filter fun room => filters.SelectsRoom room.2 ∧ filters.SelectsAgent room.2)

/-- `no_response_yet`, on a room joined with its metrics. -/
def NoResponseYet (joined : RoomRow × Option (Uuid × RoomMetrics)) : Prop :=
  ∀ metrics ∈ joined.2, metrics.2.firstResponseTime = some 0 ∨
    metrics.2.firstResponseTime = none

instance : DecidablePred NoResponseYet := fun joined =>
  inferInstanceAs (Decidable (∀ metrics ∈ joined.2, _))

def GoalDatabase.metricsOf (database : GoalDatabase) (room : Uuid) : List (Uuid × RoomMetrics) :=
  database.metrics.filter fun metrics => metrics.1 = room

def countWaitingTimeBreaches (database : GoalDatabase) (project : Uuid) (goal : MetricGoal)
    (filters : Option Filters) (now : Instant) : Nat :=
  (applyFiltersToQ filters (database.rooms.entries.filter fun room =>
    room.2.ActiveIn project ∧ room.2.Waits (cutoff now goal.thresholdSeconds))).length

def countFirstResponseTimeBreaches (database : GoalDatabase) (project : Uuid)
    (goal : MetricGoal) (filters : Option Filters) (now : Instant) : Nat :=
  (applyFiltersToQ filters (((Query.leftJoin database.rooms.entries fun room =>
      database.metricsOf room.1).filter fun joined =>
    (joined.1.2.ActiveIn project ∧
      joined.1.2.Converses (cutoff now goal.thresholdSeconds)) ∧
        NoResponseYet joined).map Prod.fst)).length

def countConversationDurationBreaches (database : GoalDatabase) (project : Uuid)
    (goal : MetricGoal) (filters : Option Filters) (now : Instant) : Nat :=
  (applyFiltersToQ filters (database.rooms.entries.filter fun room =>
    room.2.ActiveIn project ∧ room.2.Converses (cutoff now goal.thresholdSeconds))).length

def countBreachedRooms (database : GoalDatabase) (project : Uuid) (metric : Metric)
    (goal : MetricGoal) (filters : Option Filters) (now : Instant) : Nat :=
  match metric with
  | .waitingTime => countWaitingTimeBreaches database project goal filters now
  | .firstResponseTime => countFirstResponseTimeBreaches database project goal filters now
  | .conversationDuration => countConversationDurationBreaches database project goal filters now

structure GoalEntry where
  thresholdSeconds : Nat
  thresholdValue : Nat
  unit : GoalUnit
  isBreached : Bool
  breachedRoomsCount : Nat
  deriving DecidableEq, Repr

def buildGoalEntry (database : GoalDatabase) (project : Uuid) (metric : Metric)
    (goal : MetricGoal) (filters : Option Filters) (now : Instant) : GoalEntry :=
  let breachedCount := countBreachedRooms database project metric goal filters now
  { thresholdSeconds := goal.thresholdSeconds
    thresholdValue := thresholdSecondsToUnitValue goal.thresholdSeconds goal.unit
    unit := goal.unit
    isBreached := decide (1 ≤ breachedCount)
    breachedRoomsCount := breachedCount }

/-- The entry of a metric in `get_goals_payload`, under the key `{metric}_goal`. -/
def goalsPayload (database : GoalDatabase) (project : Uuid) (filters : Option Filters)
    (now : Instant) (metric : Metric) : Option GoalEntry :=
  ((database.goals.lookup (project, metric)).filter MetricGoal.isActive).map fun goal =>
    buildGoalEntry database project metric goal filters now

end ChatsEngine.Dashboard
