import ChatsEngine.Dashboard.GoalBreaches
import ChatsEngine.Foundation.Machine
import ChatsEngine.Foundation.TtlKeys

/-! # Alerts of metric goals

A sweep of a metric compares the violations that it detects with the keys that earlier
sweeps have left in Redis: one key for each project that violates its goal, and another
one for each project that is above its threshold of rooms. Each operation on Redis is a
step of its own. -/

namespace ChatsEngine.Dashboard

/-- `metric_goal_state` and `metric_goal_alert_state`. -/
inductive StateKind
  | violating
  | alerting
  deriving DecidableEq, Repr

structure StateKey where
  kind : StateKind
  project : Uuid
  metric : Metric
  deriving DecidableEq, Repr

def Violation.Alerts (violation : Violation) : Prop :=
  violation.emailEnabled = true ∧ violation.MeetsRoomsThreshold

instance : DecidablePred Violation.Alerts := fun _ => inferInstanceAs (Decidable (_ ∧ _))

/-- The operation on Redis that a sweep executes next, with what its loops have left. -/
inductive SweepStage
  | scanningViolating
  | scanningAlerting
  | claiming (remaining : List Violation)
  | refreshing (violation : Violation) (remaining : List Violation)
  | claimingAlert (violation : Violation) (remaining : List Violation)
  | refreshingAlert (violation : Violation) (remaining : List Violation)
  | clearing (remaining : List Uuid)
  | clearingAlert (project : Uuid) (remaining : List Uuid)
  | dropping (remaining : List Uuid)
  | finished
  deriving DecidableEq, Repr

/-- A run of `process_violations`. The callbacks are listed in the order in which they
are called, whether they raise an exception or not. -/
structure Sweep where
  violations : List Violation
  detectedAt : Instant
  previouslyViolating : List Uuid
  previouslyAlerting : List Uuid
  newAlerts : List Violation
  updates : List Violation
  toasts : List Violation
  resolved : List Uuid
  stage : SweepStage
  deriving DecidableEq, Repr

namespace Sweep

/-- `currently_violating`, which is complete when the loop over the violations ends. -/
def currentlyViolating (sweep : Sweep) : List Uuid := sweep.violations.map Violation.project

/-- `currently_alerting`, at the end of the same loop. -/
def currentlyAlerting (sweep : Sweep) : List Uuid :=
  (sweep.violations.filter fun violation => violation.Alerts).map Violation.project

def resolvedUuids (sweep : Sweep) : List Uuid :=
  sweep.previouslyViolating.filter fun project => project ∉ sweep.currentlyViolating

def droppedUuids (sweep : Sweep) : List Uuid :=
  sweep.previouslyAlerting.filter fun project =>
    project ∉ sweep.currentlyAlerting ∧ project ∈ sweep.currentlyViolating

def afterState (violation : Violation) (remaining : List Violation) : SweepStage :=
  if violation.Alerts then .claimingAlert violation remaining else .claiming remaining

def start (violations : List Violation) (detectedAt : Instant) : Sweep where
  violations
  detectedAt
  previouslyViolating := []
  previouslyAlerting := []
  newAlerts := []
  updates := []
  toasts := []
  resolved := []
  stage := .scanningViolating

def keysForMetric (keys : TtlKeys StateKey) (now : Instant) (kind : StateKind)
    (metric : Metric) : List Uuid :=
  ((TtlKeys.listed keys now).filter fun key => key.kind = kind ∧ key.metric = metric).map
    StateKey.project

/-- A scan, which may list the keys in any order. -/
def scan (sweep : Sweep) (keys : TtlKeys StateKey) (now : Instant) (metric : Metric)
    (projects : List Uuid) : Option Sweep :=
  match sweep.stage with
  | .scanningViolating =>
      if projects.Perm (keysForMetric keys now .violating metric) then
        some { sweep with previouslyViolating := projects, stage := .scanningAlerting }
      else none
  | .scanningAlerting =>
      if projects.Perm (keysForMetric keys now .alerting metric) then
        some { sweep with previouslyAlerting := projects, stage := .claiming sweep.violations }
      else none
  | _ => none

def advance (sweep : Sweep) (keys : TtlKeys StateKey) (now ttl : Nat) (metric : Metric) :
    Option (TtlKeys StateKey × Sweep) :=
  match sweep.stage with
  | .scanningViolating => none
  | .scanningAlerting => none
  | .claiming [] => some (keys, { sweep with stage := .clearing sweep.resolvedUuids })
  | .claiming (violation :: remaining) =>
      match TtlKeys.setNx keys now ⟨.violating, violation.project, metric⟩ ttl with
      | some keys =>
          some (keys,
            { sweep with
              newAlerts := sweep.newAlerts ++ [violation]
              stage := afterState violation remaining })
      | none => some (keys, { sweep with stage := .refreshing violation remaining })
  | .refreshing violation remaining =>
      some (TtlKeys.expire keys now ⟨.violating, violation.project, metric⟩ ttl,
        { sweep with
          updates := sweep.updates ++ [violation]
          stage := afterState violation remaining })
  | .claimingAlert violation remaining =>
      match TtlKeys.setNx keys now ⟨.alerting, violation.project, metric⟩ ttl with
      | some keys =>
          some (keys,
            { sweep with
              toasts := sweep.toasts ++ [violation]
              stage := .claiming remaining })
      | none => some (keys, { sweep with stage := .refreshingAlert violation remaining })
  | .refreshingAlert violation remaining =>
      some (TtlKeys.expire keys now ⟨.alerting, violation.project, metric⟩ ttl,
        { sweep with stage := .claiming remaining })
  | .clearing [] => some (keys, { sweep with stage := .dropping sweep.droppedUuids })
  | .clearing (project :: remaining) =>
      some (keys.erase ⟨.violating, project, metric⟩,
        { sweep with stage := .clearingAlert project remaining })
  | .clearingAlert project remaining =>
      some (keys.erase ⟨.alerting, project, metric⟩,
        { sweep with
          resolved := sweep.resolved ++ [project]
          stage := .clearing remaining })
  | .dropping [] => some (keys, { sweep with stage := .finished })
  | .dropping (project :: remaining) =>
      some (keys.erase ⟨.alerting, project, metric⟩, { sweep with stage := .dropping remaining })
  | .finished => none

end Sweep

structure AlertState where
  keys : TtlKeys StateKey
  now : Instant
  /-- The sweep of each metric that is under way. -/
  running : Metric → Option Sweep
  /-- The sweeps that have returned, the last one in front. -/
  returned : List (Metric × Sweep)

inductive AlertEvent
  /-- A sweep begins, and detects the violations in the database as it is. -/
  | detect (metric : Metric) (database : GoalDatabase) (enabled : Uuid → Bool)
  | scan (metric : Metric) (projects : List Uuid)
  | advance (metric : Metric)
  | finish (metric : Metric)
  | abort (metric : Metric)
  | tick (elapsed : Nat)
  /-- A key is gone before its time. -/
  | expire (key : StateKey)

def AlertState.setRunning (state : AlertState) (metric : Metric) (sweep : Option Sweep) :
    AlertState :=
  { state with running := Function.update state.running metric sweep }

/-- The sweeps of a metric do not overlap. -/
def AlertState.step (ttl : Nat) (state : AlertState) : AlertEvent → Option AlertState
  | .detect metric database enabled =>
      match state.running metric with
      | some _ => none
      | none =>
          some (state.setRunning metric
            (some (.start (detectViolations database enabled metric state.now) state.now)))
  | .scan metric projects =>
      match state.running metric with
      | none => none
      | some sweep =>
          (sweep.scan state.keys state.now metric projects).map fun scanned =>
            state.setRunning metric (some scanned)
  | .advance metric =>
      match state.running metric with
      | none => none
      | some sweep =>
          (sweep.advance state.keys state.now ttl metric).map fun advanced =>
            { state.setRunning metric (some advanced.2) with keys := advanced.1 }
  | .finish metric =>
      match state.running metric with
      | none => none
      | some sweep =>
          if sweep.stage = .finished then
            some { state.setRunning metric none with returned := (metric, sweep) :: state.returned }
          else none
  | .abort metric =>
      match state.running metric with
      | none => none
      | some _ => some (state.setRunning metric none)
  | .tick elapsed => some { state with now := state.now + elapsed }
  | .expire key => some { state with keys := state.keys.erase key }

def alertMachine (ttl : Nat) : Machine AlertState AlertEvent where
  step := AlertState.step ttl

def idleAlerts (keys : TtlKeys StateKey) (now : Instant) : AlertState :=
  ⟨keys, now, fun _ => none, []⟩

/-! ## A goal that is violated -/

def conversationGoal (rooms : Table Uuid MeasuredRoom) : GoalDatabase where
  rooms
  metrics := []
  goals := (∅ : Table (Uuid × Metric) MetricGoal).insert (0, .conversationDuration)
    ⟨60, .minute, true, true, 1, none⟩

def longConversation : GoalDatabase :=
  conversationGoal ((∅ : Table Uuid MeasuredRoom).insert 1 assignedRoom)

def beginSweep (database : GoalDatabase) (violating alerting : List Uuid) : List AlertEvent :=
  [.detect .conversationDuration database (fun _ => true), .scan .conversationDuration violating,
    .scan .conversationDuration alerting]

def advanceTimes (steps : Nat) : List AlertEvent :=
  List.replicate steps (.advance .conversationDuration)

def alertOnce : List AlertEvent :=
  beginSweep longConversation [] [] ++ advanceTimes 5 ++ [.finish .conversationDuration]

end ChatsEngine.Dashboard
