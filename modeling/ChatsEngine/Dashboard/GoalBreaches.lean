import ChatsEngine.Dashboard.MetricGoals

/-! # Rooms that breach a goal

The sweep and the dashboard count the same rooms, as long as the metrics of a room are
stored once and without negative times. -/

namespace ChatsEngine.Dashboard

variable {database : GoalDatabase} {enabled : Uuid → Bool} {metric : Metric} {now : Instant}
  {project : Uuid} {goal : MetricGoal} {violation : Violation}

/-! ## What the sweep reports -/

theorem mem_sweptGoals_iff {entry : (_ : Uuid × Metric) × MetricGoal} :
    entry ∈ database.sweptGoals enabled metric ↔
      database.goals.lookup entry.1 = some entry.2 ∧ entry.1.2 = metric ∧
        entry.2.isActive = true ∧ enabled entry.1.1 = true := by
  rw [GoalDatabase.sweptGoals, List.mem_filter, Table.mem_entries_iff, decide_eq_true_eq]

theorem detectViolation_eq_none_iff {needsActiveCount : Bool} {key : Uuid × Metric} :
    detectViolation database now needsActiveCount key goal = none ↔
      (buildViolationQueryset database key.2 key.1 (cutoff now goal.thresholdSeconds)).length =
        0 := by
  simp [detectViolation]

theorem detectViolation_eq_some {needsActiveCount : Bool} {key : Uuid × Metric}
    (detected : detectViolation database now needsActiveCount key goal = some violation) :
    violation.project = key.1 ∧ violation.detectedAt = now ∧
      violation.violatingCount =
        (buildViolationQueryset database key.2 key.1
          (cutoff now goal.thresholdSeconds)).length := by
  simp only [detectViolation] at detected
  split at detected
  · cases detected
  · cases detected
    exact ⟨rfl, rfl, rfl⟩

theorem exists_of_mem_detectViolations
    (member : violation ∈ detectViolations database enabled metric now) :
    ∃ goal needsActiveCount, database.goals.lookup (violation.project, metric) = some goal ∧
      goal.isActive = true ∧ enabled violation.project = true ∧
      detectViolation database now needsActiveCount (violation.project, metric) goal =
        some violation := by
  rcases List.mem_filterMap.mp member with ⟨⟨key, goal⟩, swept, detected⟩
  rcases mem_sweptGoals_iff.mp swept with ⟨stored, rfl, active, on⟩
  rcases detectViolation_eq_some detected with ⟨same, _, _⟩
  rw [same]
  exact ⟨goal, _, stored, active, on, detected⟩

theorem exists_mem_detectViolations (stored : database.goals.lookup (project, metric) = some goal)
    (active : goal.isActive = true) (on : enabled project = true)
    (some_rooms : (buildViolationQueryset database metric project
      (cutoff now goal.thresholdSeconds)).length ≠ 0) :
    ∃ violation ∈ detectViolations database enabled metric now, violation.project = project := by
  have swept : ⟨(project, metric), goal⟩ ∈ database.sweptGoals enabled metric :=
    mem_sweptGoals_iff.mpr ⟨stored, rfl, active, on⟩
  let needsActiveCount := (database.sweptGoals enabled metric).any fun goal =>
    goal.2.percent.isSome
  cases detected : detectViolation database now needsActiveCount (project, metric) goal with
  | none => exact absurd (detectViolation_eq_none_iff.mp detected) some_rooms
  | some violation =>
      exact ⟨violation, List.mem_filterMap.mpr ⟨_, swept, detected⟩,
        (detectViolation_eq_some detected).1⟩

theorem detectViolations_nodup (database : GoalDatabase) (enabled : Uuid → Bool)
    (metric : Metric) (now : Instant) :
    ((detectViolations database enabled metric now).map Violation.project).Nodup := by
  have keys : ((database.sweptGoals enabled metric).map Sigma.fst).Nodup :=
    database.goals.keys_nodup.sublist (List.filter_sublist.map _)
  rw [List.Nodup, List.pairwise_map]
  rw [List.Nodup, List.pairwise_map] at keys
  apply List.Pairwise.filterMap _ _ (List.Pairwise.and_mem.mp keys)
  intro entry other different violation detected found foundDetected same
  rcases different with ⟨swept, otherSwept, different⟩
  apply different
  have projects := (detectViolation_eq_some detected).1
  have otherProjects := (detectViolation_eq_some foundDetected).1
  have metrics := (mem_sweptGoals_iff.mp swept).2.1
  have otherMetrics := (mem_sweptGoals_iff.mp otherSwept).2.1
  apply Prod.ext
  · rw [← projects, ← otherProjects, same]
  · rw [metrics, otherMetrics]

def reportedCount (violations : List Violation) (project : Uuid) : Nat :=
  ((violations.find? fun violation => violation.project = project).map
    Violation.violatingCount).getD 0

theorem reportedCount_detectViolations
    (stored : database.goals.lookup (project, metric) = some goal) (active : goal.isActive = true)
    (on : enabled project = true) :
    reportedCount (detectViolations database enabled metric now) project =
      (buildViolationQueryset database metric project
        (cutoff now goal.thresholdSeconds)).length := by
  rw [reportedCount]
  cases found : (detectViolations database enabled metric now).find? fun violation =>
      violation.project = project with
  | none =>
      by_contra some_rooms
      rcases exists_mem_detectViolations stored active on (Ne.symm some_rooms) with
        ⟨violation, member, own⟩
      have other := List.find?_eq_none.mp found violation member
      simp [own] at other
  | some violation =>
      have own := List.find?_some found
      rw [decide_eq_true_eq] at own
      subst own
      rcases exists_of_mem_detectViolations (List.mem_of_find?_eq_some found) with
        ⟨same, needsActiveCount, lookup, _, _, detected⟩
      cases Option.some.inj (stored.symm.trans lookup)
      exact (detectViolation_eq_some detected).2.2

/-! ## What the dashboard counts -/

/-- The metrics of a room are stored once at most, by the one-to-one relation. -/
def GoalDatabase.OneToOne (database : GoalDatabase) : Prop :=
  database.metrics.Pairwise fun metrics others => metrics.1 ≠ others.1

def GoalDatabase.ResponseTimesNonneg (database : GoalDatabase) : Prop :=
  ∀ metrics ∈ database.metrics, ∀ time ∈ metrics.2.firstResponseTime, 0 ≤ (time : Int)

instance : DecidablePred GoalDatabase.OneToOne := fun database =>
  inferInstanceAs (Decidable (database.metrics.Pairwise _))

instance : DecidablePred GoalDatabase.ResponseTimesNonneg := fun database =>
  inferInstanceAs (Decidable (∀ metrics ∈ database.metrics, _))

theorem GoalDatabase.OneToOne.length_metricsOf_le (single : database.OneToOne) (room : Uuid) :
    (database.metricsOf room).length ≤ 1 := by
  have own : ∀ metrics ∈ database.metricsOf room, metrics.1 = room := by
    intro metrics member
    exact of_decide_eq_true (List.mem_filter.mp member).2
  have pairwise : (database.metricsOf room).Pairwise fun metrics others =>
      metrics.1 ≠ others.1 := single.filter _
  cases listed : database.metricsOf room with
  | nil => simp
  | cons first rest =>
      cases rest with
      | nil => simp
      | cons second others =>
          rw [listed] at own pairwise
          have different := List.rel_of_pairwise_cons pairwise List.mem_cons_self
          have firstOwn := own first List.mem_cons_self
          have secondOwn := own second (List.mem_cons_of_mem _ List.mem_cons_self)
          exact absurd (firstOwn.trans secondOwn.symm) different

theorem noResponseYet_iff (single : database.OneToOne) (nonneg : database.ResponseTimesNonneg)
    (room : RoomRow) :
    NoResponseYet (room, (database.metricsOf room.1).head?) ↔ ¬database.HasResponded room.1 := by
  have atMostOne := single.length_metricsOf_le room.1
  have listed : ∀ metrics, (database.metricsOf room.1).head? = some metrics ↔
      metrics ∈ database.metrics ∧ metrics.1 = room.1 := by
    intro metrics
    have filtered : metrics ∈ database.metricsOf room.1 ↔
        metrics ∈ database.metrics ∧ metrics.1 = room.1 := by
      rw [GoalDatabase.metricsOf, List.mem_filter, decide_eq_true_eq]
    rw [← filtered]
    cases found : database.metricsOf room.1 with
    | nil => simp
    | cons first rest =>
        have alone : rest = [] := by
          rw [found, List.length_cons] at atMostOne
          exact List.length_eq_zero_iff.mp (by omega)
        simp [alone, eq_comm]
  constructor
  · intro waiting given
    rcases given with ⟨metrics, member, own, time, stored, positive⟩
    rcases waiting metrics ((listed metrics).mpr ⟨member, own⟩) with zero | missing
    · cases Option.some.inj (zero.symm.trans stored)
      exact absurd positive (by omega)
    · cases missing.symm.trans stored
  · intro waiting metrics first
    rcases (listed metrics).mp first with ⟨member, own⟩
    cases stored : metrics.2.firstResponseTime with
    | none => exact .inr rfl
    | some time =>
        have enough := nonneg metrics member time stored
        have few : ¬0 < time := fun positive => waiting ⟨metrics, member, own, time, stored, positive⟩
        left
        congr 1
        omega

theorem countBreachedRooms_eq (single : database.OneToOne)
    (nonneg : database.ResponseTimesNonneg) :
    countBreachedRooms database project metric goal none now =
      (buildViolationQueryset database metric project
        (cutoff now goal.thresholdSeconds)).length := by
  cases metric with
  | waitingTime => rfl
  | conversationDuration => rfl
  | firstResponseTime =>
      rw [countBreachedRooms, countFirstResponseTimeBreaches, applyFiltersToQ, List.length_map,
        ← List.countP_eq_length_filter,
        Query.countP_leftJoin fun room _ => single.length_metricsOf_le room.1,
        buildViolationQueryset, ← List.countP_eq_length_filter]
      apply List.countP_congr
      intro room _
      rw [decide_eq_true_eq, decide_eq_true_eq, noResponseYet_iff single nonneg]
      exact and_assoc

/-- For an active goal of a project that has the feature, the sweep reports the count
that the dashboard shows without filters. -/
theorem reported_eq_breached (database : GoalDatabase) (enabled : Uuid → Bool) (project : Uuid)
    (metric : Metric) (goal : MetricGoal) (now : Instant) (single : database.OneToOne)
    (nonneg : database.ResponseTimesNonneg)
    (stored : database.goals.lookup (project, metric) = some goal) (active : goal.isActive = true)
    (on : enabled project = true) :
    reportedCount (detectViolations database enabled metric now) project =
      countBreachedRooms database project metric goal none now := by
  rw [reportedCount_detectViolations stored active on, countBreachedRooms_eq single nonneg]

def assignedRoom : MeasuredRoom where
  isActive := true
  queue := some ⟨10, 20, 0, false, false⟩
  user := some "agent"
  addedToQueueAt := none
  firstUserAssignedAt := some 1000000
  tags := []

def oneMinute : MetricGoal := ⟨60, .minute, true, true, 2, none⟩

/-- Three rooms: one without metrics, one whose response time is zero, and one that has
been answered. -/
def threeAssignedRooms : GoalDatabase where
  rooms := (((∅ : Table Uuid MeasuredRoom).insert 1 assignedRoom).insert 2 assignedRoom).insert 3
    assignedRoom
  metrics := [(2, { firstResponseTime := some 0 }), (3, { firstResponseTime := some 30 })]
  goals := (∅ : Table (Uuid × Metric) MetricGoal).insert (0, .firstResponseTime) oneMinute

theorem two_rooms_are_reported_and_breached :
    reportedCount (detectViolations threeAssignedRooms (fun _ => true) .firstResponseTime
        61000000) 0 = 2 ∧
      countBreachedRooms threeAssignedRooms 0 .firstResponseTime oneMinute none 61000000 = 2 := by
  have breached : countBreachedRooms threeAssignedRooms 0 .firstResponseTime oneMinute none
      61000000 = 2 := by
    decide
  have reported := reported_eq_breached threeAssignedRooms (fun _ => true) 0 .firstResponseTime
    oneMinute 61000000 (by decide) (by decide) (by decide) rfl rfl
  exact ⟨reported.trans breached, breached⟩

end ChatsEngine.Dashboard
