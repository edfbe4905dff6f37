import ChatsEngine.Dashboard.MetricGoalAlerts
import Mathlib.Algebra.Order.Ring.Int
import Mathlib.Order.Lattice

/-! # The room that has been violating longest

A violation reports for how many seconds its goal has been violated. The sweep takes this from
the greatest timestamp of the violating rooms, which is the one of the latest room. -/

namespace ChatsEngine.Dashboard

/-- Since when the rooms have been measured that violate a goal of the project. -/
def violatingSince (database : GoalDatabase) (metric : Metric) (project : Uuid)
    (goal : MetricGoal) (now : Instant) : List Instant :=
  (buildViolationQueryset database metric project (cutoff now goal.thresholdSeconds)).filterMap
    fun room => metric.maxAgeField room.2

/-- The reported value is the age of the room that has been violating longest. -/
structure Violation.ReportsLongest (violation : Violation) (goal : MetricGoal) (now : Instant)
    (violating : List Instant) : Prop where
  longest : ∃ since ∈ violating, (∀ other ∈ violating, since ≤ other) ∧
    violation.maxValueSeconds = secondsUntil now since
  threshold : (goal.thresholdSeconds : Int) ≤ violation.maxValueSeconds
  others : ∀ other ∈ violating, secondsUntil now other ≤ violation.maxValueSeconds

/-- All rooms have been violating for the same number of whole seconds. -/
def SameAges (now : Instant) (violating : List Instant) : Prop :=
  ∀ since ∈ violating, ∀ other ∈ violating, secondsUntil now since = secondsUntil now other

instance (now : Instant) (violating : List Instant) : Decidable (SameAges now violating) :=
  inferInstanceAs (Decidable (∀ since ∈ _, ∀ other ∈ _, _))

variable {database : GoalDatabase} {metric : Metric} {project : Uuid} {goal : MetricGoal}
  {now since : Instant} {violation : Violation}

/-! ## Ages -/

theorem secondsUntil_le {other : Instant} (before : since ≤ other) :
    secondsUntil now other ≤ secondsUntil now since := by
  rw [secondsUntil, secondsUntil]
  apply Int.tdiv_le_tdiv (by omega)
  exact Int.sub_le_sub_left (Int.ofNat_le.mpr before) _

theorem threshold_le_secondsUntil {seconds : Nat} (reached : (since : Int) ≤ cutoff now seconds) :
    (seconds : Int) ≤ secondsUntil now since := by
  rcases Nat.eq_zero_or_pos seconds with rfl | positive
  · rw [cutoff] at reached
    exact Int.tdiv_nonneg (by omega) (by omega)
  · exact (le_secondsUntil_iff positive _ _).mpr reached

theorem reachedBy_of_violates {cutoff : Int} {room : RoomRow}
    (violates : database.Violates metric project cutoff room) :
    ReachedBy cutoff (metric.maxAgeField room.2) := by
  cases metric with
  | waitingTime => exact violates.2.2
  | firstResponseTime => exact violates.2.1.2
  | conversationDuration => exact violates.2.2

theorem le_cutoff_of_mem_violatingSince
    (member : since ∈ violatingSince database metric project goal now) :
    (since : Int) ≤ cutoff now goal.thresholdSeconds := by
  rcases List.mem_filterMap.mp member with ⟨room, isRoom, isSince⟩
  have violates := of_decide_eq_true (List.mem_filter.mp isRoom).2
  rcases reachedBy_of_violates violates with ⟨instant, isInstant, reached⟩
  cases isSince.symm.trans isInstant
  exact reached

/-! ## What is reported -/

theorem exists_latest_of_detectViolation {needsActiveCount : Bool}
    (detected : detectViolation database now needsActiveCount (project, metric) goal =
      some violation) :
    ∃ latest ∈ violatingSince database metric project goal now,
      (∀ other ∈ violatingSince database metric project goal now, other ≤ latest) ∧
        violation.maxValueSeconds = secondsUntil now latest := by
  simp only [detectViolation] at detected
  split at detected
  · cases detected
  · next nonempty =>
      cases detected
      rcases List.exists_mem_of_length_pos (Nat.pos_of_ne_zero nonempty) with ⟨room, isRoom⟩
      have violates := of_decide_eq_true (List.mem_filter.mp isRoom).2
      rcases reachedBy_of_violates violates with ⟨since, isSince, _⟩
      have member : since ∈ violatingSince database metric project goal now :=
        List.mem_filterMap.mpr ⟨room, isRoom, isSince⟩
      rcases Option.isSome_iff_exists.mp (List.isSome_max?_of_mem member) with ⟨latest, isMax⟩
      have isLatest := List.max?_eq_some_iff.mp isMax
      refine ⟨latest, isLatest.1, isLatest.2, ?_⟩
      rw [violatingSince] at isMax
      rw [isMax]
      rfl

/-- The age of the room that has been violating longest is reported exactly when the ages of all
violating rooms are the same. -/
theorem reports_longest_iff (database : GoalDatabase) (enabled : Uuid → Bool) (metric : Metric)
    (now : Instant) (goal : MetricGoal) (violation : Violation)
    (detected : violation ∈ detectViolations database enabled metric now)
    (stored : database.goals.lookup (violation.project, metric) = some goal) :
    violation.ReportsLongest goal now
        (violatingSince database metric violation.project goal now) ↔
      SameAges now (violatingSince database metric violation.project goal now) := by
  rcases exists_of_mem_detectViolations detected with ⟨own, needsActiveCount, isOwn, _, _, found⟩
  cases stored.symm.trans isOwn
  rcases exists_latest_of_detectViolation found with ⟨latest, isLatest, latest_le, reported⟩
  constructor
  · intro reports since isSince other isOther
    have least : ∀ measured ∈ violatingSince database metric violation.project goal now,
        secondsUntil now measured = violation.maxValueSeconds := by
      intro measured isMeasured
      apply Int.le_antisymm (reports.others measured isMeasured)
      rw [reported]
      exact secondsUntil_le (latest_le measured isMeasured)
    rw [least since isSince, least other isOther]
  · intro same
    rcases Option.isSome_iff_exists.mp (List.isSome_min?_of_mem isLatest) with ⟨oldest, isMin⟩
    have isOldest := List.min?_eq_some_iff.mp isMin
    refine ⟨⟨oldest, isOldest.1, isOldest.2, ?_⟩, ?_, ?_⟩
    · rw [reported, same latest isLatest oldest isOldest.1]
    · rw [reported]
      exact threshold_le_secondsUntil (le_cutoff_of_mem_violatingSince isLatest)
    · intro other isOther
      rw [reported, same other isOther latest isLatest]

/-! ## Two rooms of different ages -/

def latestReported : Violation where
  project := 0
  metric := .conversationDuration
  violatingCount := 2
  maxValueSeconds := 60
  thresholdSeconds := 60
  roomsThresholdCount := 1
  roomsThresholdPercent := none
  activeRoomsCount := none
  emailEnabled := true
  detectedAt := 91000000

def laterRoom (since : Instant) : MeasuredRoom :=
  { assignedRoom with firstUserAssignedAt := some since }

def twoConversations (since : Instant) : GoalDatabase :=
  conversationGoal (((∅ : Table Uuid MeasuredRoom).insert 1 assignedRoom).insert 2
    (laterRoom since))

theorem same_ages_are_reported :
    Violation.ReportsLongest { latestReported with maxValueSeconds := 90 }
      ⟨60, .minute, true, true, 1, none⟩ 91000000
      (violatingSince (twoConversations 1000000) .conversationDuration 0
        ⟨60, .minute, true, true, 1, none⟩ 91000000) :=
  (reports_longest_iff (twoConversations 1000000) (fun _ => true) .conversationDuration 91000000
    ⟨60, .minute, true, true, 1, none⟩ { latestReported with maxValueSeconds := 90 } (by decide)
    rfl).mpr (by decide)

theorem latest_room_is_reported :
    ¬∀ (database : GoalDatabase) (enabled : Uuid → Bool) (metric : Metric) (now : Instant)
      (goal : MetricGoal) (violation : Violation),
      violation ∈ detectViolations database enabled metric now →
      database.goals.lookup (violation.project, metric) = some goal →
      violation.ReportsLongest goal now
        (violatingSince database metric violation.project goal now) := by
  intro reports
  have reported := reports (twoConversations 31000000) (fun _ => true) .conversationDuration
    91000000 ⟨60, .minute, true, true, 1, none⟩ latestReported (by decide) rfl
  have older := reported.others 1000000 (by decide)
  exact absurd older (by decide)

end ChatsEngine.Dashboard
