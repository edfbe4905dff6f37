import ChatsEngine.Dashboard.MetricGoals

/-! # Time metrics

The dashboard shows the average and the maximum of each metric together with the goals
of the project. The maximum and the breach of a goal are computed by separate queries,
which select the same rooms only for some filters. -/

namespace ChatsEngine.Dashboard

structure TimeMetricsPayload where
  avgWaitingTime : Int
  maxWaitingTime : Int
  avgFirstResponseTime : Int
  maxFirstResponseTime : Int
  avgConversationDuration : Int
  maxConversationDuration : Int
  goals : Metric → Option GoalEntry

def calculateAvgMax (values : List Int) : Int × Int :=
  match values.max? with
  | none => (0, 0)
  | some greatest => (values.sum.tdiv values.length, greatest)

def MeasuredRoom.calculateLastQueueWaitingTime (room : MeasuredRoom) (now : Instant) : Int :=
  (room.addedToQueueAt.map (secondsUntil now)).getD 0

section Queries

variable (database : GoalDatabase) (filters : Filters) (project : Uuid) (now : Instant)

/-- The rooms of `_get_waiting_time_metrics`. -/
def waitingRooms : List RoomRow :=
  filters.joinTags (fun room => room.2.tags) (database.rooms.entries.filter fun room =>
    (room.2.ActiveIn project ∧ room.2.user.isNone ∧ room.2.addedToQueueAt.isSome) ∧
      filters.SelectsRoom room.2)

def MeasuredRoom.Undeleted (room : MeasuredRoom) : Prop :=
  ∃ queue ∈ room.queue, queue.isDeleted = false ∧ queue.sectorIsDeleted = false

instance (room : MeasuredRoom) : Decidable room.Undeleted :=
  inferInstanceAs (Decidable (∃ queue ∈ room.queue, _))

/-- The rooms of `_get_conversation_duration_metrics`. -/
def conversationRooms : List RoomRow :=
  filters.joinTags (fun room => room.2.tags) (database.rooms.entries.filter fun room =>
    (room.2.ActiveIn project ∧ room.2.user.isSome ∧ room.2.firstUserAssignedAt.isSome ∧
      room.2.Undeleted) ∧ filters.SelectsRoom room.2 ∧ filters.SelectsAgent room.2)

/-- `_get_saved_response_times`, which joins the rooms with their metrics. -/
def savedResponseTimes : List Int :=
  (filters.joinTags (fun joined => joined.1.2.tags)
    ((Query.innerJoin database.rooms.entries fun room => database.metricsOf room.1).filter
      fun joined =>
        (joined.1.2.ActiveIn project ∧ joined.1.2.user.isSome ∧ joined.1.2.Undeleted ∧
          ∃ time ∈ joined.2.2.firstResponseTime, 0 < (time : Int)) ∧
        filters.SelectsRoom joined.1.2 ∧ filters.SelectsAgent joined.1.2)).filterMap
    fun joined => joined.2.2.firstResponseTime

/-- `_get_waiting_response_times`. -/
def waitingResponseTimes : List Int :=
  (filters.joinTags (fun joined => joined.1.2.tags)
    ((Query.leftJoin database.rooms.entries fun room => database.metricsOf room.1).filter
      fun joined =>
        (joined.1.2.ActiveIn project ∧ joined.1.2.user.isSome ∧
          joined.1.2.firstUserAssignedAt.isSome ∧ joined.1.2.Undeleted ∧
          NoResponseYet joined) ∧
        filters.SelectsRoom joined.1.2 ∧ filters.SelectsAgent joined.1.2)).filterMap
    fun joined => joined.1.2.firstUserAssignedAt.map (secondsUntil now)

def waitingTimeMetrics : Int × Int :=
  calculateAvgMax ((waitingRooms database filters project).map fun room =>
    room.2.calculateLastQueueWaitingTime now)

def firstResponseTimeMetrics : Int × Int :=
  calculateAvgMax (savedResponseTimes database filters project ++
    waitingResponseTimes database filters project now)

def conversationDurationMetrics : Int × Int :=
  calculateAvgMax ((conversationRooms database filters project).filterMap fun room =>
    room.2.firstUserAssignedAt.map (secondsUntil now))

/-- `get_time_metrics`, with filters that have been made lists of. The goals are left
out where the project does not have the feature. -/
def getTimeMetrics (enabled : Uuid → Bool) : TimeMetricsPayload where
  avgWaitingTime := (waitingTimeMetrics database filters project now).1
  maxWaitingTime := (waitingTimeMetrics database filters project now).2
  avgFirstResponseTime := (firstResponseTimeMetrics database filters project now).1
  maxFirstResponseTime := (firstResponseTimeMetrics database filters project now).2
  avgConversationDuration := (conversationDurationMetrics database filters project now).1
  maxConversationDuration := (conversationDurationMetrics database filters project now).2
  goals := fun metric =>
    if enabled project = true then goalsPayload database project (some filters) now metric
    else none

end Queries

inductive TimedMetric
  | waitingTime
  | conversationDuration
  deriving DecidableEq, Repr

def TimedMetric.metric : TimedMetric → Metric
  | .waitingTime => .waitingTime
  | .conversationDuration => .conversationDuration

def TimeMetricsPayload.max (payload : TimeMetricsPayload) : TimedMetric → Int
  | .waitingTime => payload.maxWaitingTime
  | .conversationDuration => payload.maxConversationDuration

def TimedMetric.since : TimedMetric → MeasuredRoom → Option Instant
  | .waitingTime => MeasuredRoom.addedToQueueAt
  | .conversationDuration => MeasuredRoom.firstUserAssignedAt

def TimedMetric.IsAbove (timed : TimedMetric) (now : Instant) (threshold : Nat)
    (room : MeasuredRoom) : Prop :=
  ∃ since ∈ timed.since room, (threshold : Int) ≤ secondsUntil now since

instance (timed : TimedMetric) (now : Instant) (threshold : Nat) (room : MeasuredRoom) :
    Decidable (timed.IsAbove now threshold room) :=
  inferInstanceAs (Decidable (∃ since ∈ timed.since room, _))

def scopeRooms (database : GoalDatabase) (filters : Filters) (project : Uuid) :
    TimedMetric → List RoomRow
  | .waitingTime => waitingRooms database filters project
  | .conversationDuration => conversationRooms database filters project

/-- How many distinct rooms of the scope have a value of at least the threshold. -/
def roomsAbove (database : GoalDatabase) (filters : Filters) (project : Uuid) (now : Instant)
    (timed : TimedMetric) (threshold : Nat) : Nat :=
  Query.countDistinct (fun room => if timed.IsAbove now threshold room.2 then some room.1 else none)
    (scopeRooms database filters project timed)

/-- The goal of a payload is breached by the maximum of the same payload, and counts the
rooms of the scope that are above the threshold. -/
def BreachAgreesWithMax (database : GoalDatabase) (filters : Filters) (project : Uuid)
    (now : Instant) (enabled : Uuid → Bool) (timed : TimedMetric) : Prop :=
  ∀ entry ∈ (getTimeMetrics database filters project now enabled).goals timed.metric,
    (entry.isBreached = true ↔ (entry.thresholdSeconds : Int) ≤
        (getTimeMetrics database filters project now enabled).max timed) ∧
      entry.breachedRoomsCount =
        roomsAbove database filters project now timed entry.thresholdSeconds

/-! ## The rooms that are above a threshold -/

variable {database : GoalDatabase} {filters : Filters} {project : Uuid} {now : Instant}
  {enabled : Uuid → Bool} {timed : TimedMetric} {threshold : Nat} {goal : MetricGoal}

def Filters.times (filters : Filters) (tags : List Uuid) : Nat :=
  if filters.JoinsTags then tags.countP fun tag => tag ∈ filters.tag else 1

theorem Filters.joinTags_eq {Row : Type} (filters : Filters) (tags : Row → List Uuid)
    (rows : List Row) :
    filters.joinTags tags rows =
      rows.flatMap fun row => List.replicate (filters.times (tags row)) row := by
  rw [joinTags]
  split
  · next joins =>
      rw [Query.map_fst_filter_innerJoin rows tags fun tag => decide (tag ∈ filters.tag)]
      simp only [times, if_pos joins]
  · next joins =>
      simp only [times, if_neg joins, List.replicate_one]
      exact (List.flatMap_singleton' rows).symm

/-- What the query of the goal asks of a room, apart from tags and agents. -/
def TimedMetric.Breaches (timed : TimedMetric) (room : MeasuredRoom) (cutoff : Int) : Prop :=
  match timed with
  | .waitingTime => room.Waits cutoff
  | .conversationDuration => room.Converses cutoff

instance (room : MeasuredRoom) (cutoff : Int) :
    (timed : TimedMetric) → Decidable (timed.Breaches room cutoff)
  | .waitingTime => inferInstanceAs (Decidable (room.Waits cutoff))
  | .conversationDuration => inferInstanceAs (Decidable (room.Converses cutoff))

/-- What the query of the maximum asks of a room besides. -/
def TimedMetric.InScope (timed : TimedMetric) (filters : Filters) (room : MeasuredRoom) : Prop :=
  match timed with
  | .waitingTime => True
  | .conversationDuration => room.Undeleted ∧ filters.SelectsAgent room

instance (filters : Filters) (room : MeasuredRoom) :
    (timed : TimedMetric) → Decidable (timed.InScope filters room)
  | .waitingTime => inferInstanceAs (Decidable True)
  | .conversationDuration => inferInstanceAs (Decidable (_ ∧ _))

theorem breaches_iff (positive : 0 < threshold) (room : MeasuredRoom) :
    timed.Breaches room (cutoff now threshold) ↔
      (match timed with
        | .waitingTime => room.user.isNone = true
        | .conversationDuration => room.user.isSome = true) ∧
        timed.IsAbove now threshold room := by
  cases timed <;>
    simp only [TimedMetric.Breaches, MeasuredRoom.Waits, MeasuredRoom.Converses, ReachedBy,
      TimedMetric.IsAbove, TimedMetric.since, le_secondsUntil_iff positive]

def AboveInScope (filters : Filters) (project : Uuid) (now : Instant) (timed : TimedMetric)
    (threshold : Nat) (room : RoomRow) : Prop :=
  room.2.ActiveIn project ∧ timed.Breaches room.2 (cutoff now threshold) ∧
    filters.SelectsRoom room.2 ∧ timed.InScope filters room.2

instance : DecidablePred (AboveInScope filters project now timed threshold) := fun _ =>
  inferInstanceAs (Decidable (_ ∧ _))

def CountedByGoal (filters : Filters) (project : Uuid) (now : Instant) (timed : TimedMetric)
    (threshold : Nat) (room : RoomRow) : Prop :=
  (room.2.ActiveIn project ∧ timed.Breaches room.2 (cutoff now threshold)) ∧
    filters.SelectsRoom room.2 ∧ filters.SelectsAgent room.2

instance : DecidablePred (CountedByGoal filters project now timed threshold) := fun _ =>
  inferInstanceAs (Decidable (_ ∧ _))

theorem countBreachedRooms_timed :
    countBreachedRooms database project timed.metric goal (some filters) now =
      (database.rooms.entries.map fun room =>
        if CountedByGoal filters project now timed goal.thresholdSeconds room then
          filters.times room.2.tags
        else 0).sum := by
  have joined : countBreachedRooms database project timed.metric goal (some filters) now =
      (filters.joinTags (fun room => room.2.tags) (database.rooms.entries.filter fun room =>
        CountedByGoal filters project now timed goal.thresholdSeconds room)).length := by
    cases timed with
    | waitingTime =>
        rw [TimedMetric.metric, countBreachedRooms, countWaitingTimeBreaches, applyFiltersToQ,
          Query.filter_filter_eq]
        rfl
    | conversationDuration =>
        rw [TimedMetric.metric, countBreachedRooms, countConversationDurationBreaches,
          applyFiltersToQ, Query.filter_filter_eq]
        rfl
  rw [joined, filters.joinTags_eq, Query.length_flatMap_replicate, Query.sum_map_filter]
  simp only [decide_eq_true_eq]

def Measured (filters : Filters) (project : Uuid) (timed : TimedMetric) (room : RoomRow) : Prop :=
  match timed with
  | .waitingTime =>
      (room.2.ActiveIn project ∧ room.2.user.isNone ∧ room.2.addedToQueueAt.isSome) ∧
        filters.SelectsRoom room.2
  | .conversationDuration =>
      (room.2.ActiveIn project ∧ room.2.user.isSome ∧ room.2.firstUserAssignedAt.isSome ∧
        room.2.Undeleted) ∧ filters.SelectsRoom room.2 ∧ filters.SelectsAgent room.2

instance (room : RoomRow) :
    (timed : TimedMetric) → Decidable (Measured filters project timed room)
  | .waitingTime => inferInstanceAs (Decidable (_ ∧ _))
  | .conversationDuration => inferInstanceAs (Decidable (_ ∧ _))

theorem scopeRooms_eq :
    scopeRooms database filters project timed =
      (database.rooms.entries.filter fun room => Measured filters project timed room).flatMap
        fun room => List.replicate (filters.times room.2.tags) room := by
  rw [← filters.joinTags_eq]
  cases timed <;> rfl

theorem IsAbove.isSome {room : MeasuredRoom} (above : timed.IsAbove now threshold room) :
    (timed.since room).isSome = true := by
  rcases above with ⟨since, stored, _⟩
  exact Option.isSome_of_mem stored

theorem measured_and_isAbove_iff (positive : 0 < threshold) (room : RoomRow) :
    Measured filters project timed room ∧ timed.IsAbove now threshold room.2 ↔
      AboveInScope filters project now timed threshold room := by
  rw [AboveInScope, breaches_iff positive]
  cases timed with
  | waitingTime =>
      simp only [Measured, TimedMetric.InScope]
      constructor
      · intro given
        rcases given with ⟨⟨⟨active, unassigned, _⟩, selected⟩, above⟩
        exact ⟨active, ⟨unassigned, above⟩, selected, trivial⟩
      · intro given
        rcases given with ⟨active, ⟨unassigned, above⟩, selected, _⟩
        exact ⟨⟨⟨active, unassigned, IsAbove.isSome above⟩, selected⟩, above⟩
  | conversationDuration =>
      simp only [Measured, TimedMetric.InScope]
      constructor
      · intro given
        rcases given with ⟨⟨⟨active, assigned, _, undeleted⟩, selected, agent⟩, above⟩
        exact ⟨active, ⟨assigned, above⟩, selected, undeleted, agent⟩
      · intro given
        rcases given with ⟨active, ⟨assigned, above⟩, selected, undeleted, agent⟩
        exact ⟨⟨⟨active, assigned, IsAbove.isSome above, undeleted⟩, selected, agent⟩, above⟩

theorem roomsAbove_eq (positive : 0 < threshold) :
    roomsAbove database filters project now timed threshold =
      database.rooms.entries.countP fun room =>
        decide (AboveInScope filters project now timed threshold room ∧
          0 < filters.times room.2.tags) := by
  have distinct : ((database.rooms.entries.filter fun room =>
      Measured filters project timed room).filterMap fun room =>
        if timed.IsAbove now threshold room.2 then some room.1 else none).Nodup :=
    (Table.nodup_filterMap_key database.rooms fun room =>
      timed.IsAbove now threshold room.2).sublist (List.filter_sublist.filterMap _)
  rw [roomsAbove, scopeRooms_eq, Query.countDistinct_flatMap_replicate distinct,
    List.countP_filter]
  apply List.countP_congr
  intro room _
  rw [decide_eq_true_eq, ← measured_and_isAbove_iff positive]
  by_cases above : timed.IsAbove now threshold room.2 <;> simp [above, and_comm]

/-! ## The maximum and the goal -/

theorem le_calculateAvgMax_iff (positive : 0 < threshold) (values : List Int) :
    (threshold : Int) ≤ (calculateAvgMax values).2 ↔ ∃ value ∈ values, (threshold : Int) ≤ value := by
  rw [calculateAvgMax]
  split
  · next empty =>
      rw [List.max?_eq_none_iff.mp empty]
      simp
      omega
  · next greatest found =>
      rcases List.max?_eq_some_iff.mp found with ⟨member, bounded⟩
      constructor
      · intro reached
        exact ⟨greatest, member, reached⟩
      · intro given
        rcases given with ⟨value, listed, reached⟩
        exact le_trans reached (bounded value listed)

theorem le_max_iff (positive : 0 < threshold) :
    (threshold : Int) ≤ (getTimeMetrics database filters project now enabled).max timed ↔
      ∃ room ∈ scopeRooms database filters project timed, timed.IsAbove now threshold room.2 := by
  cases timed with
  | waitingTime =>
      rw [TimeMetricsPayload.max, getTimeMetrics, waitingTimeMetrics,
        le_calculateAvgMax_iff positive]
      simp only [List.mem_map, exists_exists_and_eq_and, scopeRooms, TimedMetric.IsAbove,
        TimedMetric.since, MeasuredRoom.calculateLastQueueWaitingTime]
      apply exists_congr
      intro room
      apply and_congr_right
      intro _
      cases room.2.addedToQueueAt with
      | none =>
          simp
          omega
      | some since => simp
  | conversationDuration =>
      rw [TimeMetricsPayload.max, getTimeMetrics, conversationDurationMetrics,
        le_calculateAvgMax_iff positive]
      simp only [List.mem_filterMap, scopeRooms, TimedMetric.IsAbove, TimedMetric.since]
      constructor
      · intro given
        rcases given with ⟨value, ⟨room, member, measured⟩, reached⟩
        rcases Option.map_eq_some_iff.mp measured with ⟨since, stored, rfl⟩
        exact ⟨room, member, since, stored, reached⟩
      · intro given
        rcases given with ⟨room, member, since, stored, reached⟩
        exact ⟨_, ⟨room, member, Option.map_eq_some_iff.mpr ⟨since, stored, rfl⟩⟩, reached⟩

theorem roomsAbove_pos_iff (positive : 0 < threshold) :
    1 ≤ roomsAbove database filters project now timed threshold ↔
      (threshold : Int) ≤ (getTimeMetrics database filters project now enabled).max timed := by
  rw [le_max_iff positive, roomsAbove_eq positive, Nat.one_le_iff_ne_zero, ← Nat.pos_iff_ne_zero,
    List.countP_pos_iff, scopeRooms_eq]
  simp only [decide_eq_true_eq, List.mem_flatMap, List.mem_filter, List.mem_replicate,
    ← measured_and_isAbove_iff positive]
  constructor
  · intro given
    rcases given with ⟨room, member, ⟨measured, above⟩, listed⟩
    exact ⟨room, ⟨room, ⟨member, measured⟩, Nat.ne_of_gt listed, rfl⟩, above⟩
  · intro given
    rcases given with ⟨room, ⟨source, ⟨member, measured⟩, listed, rfl⟩, above⟩
    exact ⟨room, member, ⟨measured, above⟩, Nat.pos_of_ne_zero listed⟩

/-- The two queries see the rooms above the threshold in the same way: each is listed
once, a waiting room is looked at without a filter on agents, and a room with an agent
is in a queue and a sector that are not deleted. -/
def QueriesAgree (database : GoalDatabase) (filters : Filters) (project : Uuid) (now : Instant)
    (timed : TimedMetric) (threshold : Nat) : Prop :=
  ∀ room ∈ database.rooms.entries, room.2.ActiveIn project →
    timed.Breaches room.2 (cutoff now threshold) → filters.SelectsRoom room.2 →
    0 < filters.times room.2.tags →
    match timed with
    | .waitingTime => filters.SelectsAgent room.2 ∧ filters.times room.2.tags = 1
    | .conversationDuration =>
        filters.SelectsAgent room.2 → room.2.Undeleted ∧ filters.times room.2.tags = 1

instance (threshold : Nat) :
    (timed : TimedMetric) → Decidable (QueriesAgree database filters project now timed threshold)
  | .waitingTime => inferInstanceAs (Decidable (∀ room ∈ database.rooms.entries, _ → _ → _ → _ →
      filters.SelectsAgent room.2 ∧ filters.times room.2.tags = 1))
  | .conversationDuration => inferInstanceAs (Decidable (∀ room ∈ database.rooms.entries,
      _ → _ → _ → _ → filters.SelectsAgent room.2 → room.2.Undeleted ∧
        filters.times room.2.tags = 1))

theorem selectsAgent_of_waits {room other : MeasuredRoom} {cutoff : Int}
    (waits : room.Waits cutoff) (otherWaits : other.Waits cutoff)
    (selects : filters.SelectsAgent room) : filters.SelectsAgent other := by
  intro agent filtered nonempty
  rw [Option.isNone_iff_eq_none.mp otherWaits.1, ← Option.isNone_iff_eq_none.mp waits.1]
  exact selects agent filtered nonempty

theorem sum_times_eq_iff
    (counted : ∀ room ∈ database.rooms.entries,
      AboveInScope filters project now timed threshold room →
        CountedByGoal filters project now timed threshold room) :
    (database.rooms.entries.map fun room =>
        if CountedByGoal filters project now timed threshold room then
          filters.times room.2.tags
        else 0).sum =
      database.rooms.entries.countP (fun room =>
        decide (AboveInScope filters project now timed threshold room ∧
          0 < filters.times room.2.tags)) ↔
      ∀ room ∈ database.rooms.entries, CountedByGoal filters project now timed threshold room →
        0 < filters.times room.2.tags →
        AboveInScope filters project now timed threshold room ∧ filters.times room.2.tags = 1 := by
  rw [Query.sum_eq_countP_iff]
  · apply forall₂_congr
    intro room member
    by_cases count : CountedByGoal filters project now timed threshold room
    · by_cases above : AboveInScope filters project now timed threshold room
      · by_cases listed : 0 < filters.times room.2.tags
        · simp [count, above, listed]
        · have unlisted : filters.times room.2.tags = 0 := by omega
          simp [count, above, unlisted]
      · simp [count, above]
    · have notAbove := mt (counted room member) count
      simp [count, notAbove]
  · intro room member selected
    rw [decide_eq_true_eq] at selected
    rw [if_pos (counted room member selected.1)]
    exact selected.2

theorem breached_eq_roomsAbove_iff (positive : 0 < goal.thresholdSeconds) :
    countBreachedRooms database project timed.metric goal (some filters) now =
        roomsAbove database filters project now timed goal.thresholdSeconds ↔
      QueriesAgree database filters project now timed goal.thresholdSeconds := by
  rw [countBreachedRooms_timed, roomsAbove_eq positive]
  cases timed with
  | conversationDuration =>
      rw [sum_times_eq_iff]
      · constructor
        · intro agree room member active breaches selected listed agent
          rcases agree room member ⟨⟨active, breaches⟩, selected, agent⟩ listed with
            ⟨⟨_, _, _, undeleted, _⟩, once⟩
          exact ⟨undeleted, once⟩
        · intro agree room member given listed
          rcases given with ⟨⟨active, breaches⟩, selected, agent⟩
          rcases agree room member active breaches selected listed agent with ⟨undeleted, once⟩
          exact ⟨⟨active, breaches, selected, undeleted, agent⟩, once⟩
      · intro room _ given
        rcases given with ⟨active, breaches, selected, _, agent⟩
        exact ⟨⟨active, breaches⟩, selected, agent⟩
  | waitingTime =>
      by_cases free : ∀ room ∈ database.rooms.entries,
          AboveInScope filters project now .waitingTime goal.thresholdSeconds room →
            filters.SelectsAgent room.2
      · rw [sum_times_eq_iff]
        · constructor
          · intro agree room member active breaches selected listed
            have agent := free room member ⟨active, breaches, selected, trivial⟩
            exact ⟨agent, (agree room member ⟨⟨active, breaches⟩, selected, agent⟩ listed).2⟩
          · intro agree room member given listed
            rcases given with ⟨⟨active, breaches⟩, selected, agent⟩
            exact ⟨⟨active, breaches, selected, trivial⟩,
              (agree room member active breaches selected listed).2⟩
        · intro room member given
          rcases given with ⟨active, breaches, selected, _⟩
          exact ⟨⟨active, breaches⟩, selected, free room member ⟨active, breaches, selected, trivial⟩⟩
      · -- No room that waits is with the agent of the filter.
        push Not at free
        rcases free with ⟨one, _, oneAbove, notAgent⟩
        have notCounted : ∀ room : RoomRow,
            ¬CountedByGoal filters project now .waitingTime goal.thresholdSeconds room := by
          intro room given
          rcases given with ⟨⟨_, breaches⟩, _, agent⟩
          exact notAgent (selectsAgent_of_waits breaches oneAbove.2.1 agent)
        simp only [notCounted, if_false, List.map_const', List.sum_replicate_nat, Nat.mul_zero]
        rw [eq_comm, List.countP_eq_zero]
        constructor
        · intro none room member active breaches selected listed
          have above : AboveInScope filters project now .waitingTime goal.thresholdSeconds room ∧
              0 < filters.times room.2.tags := ⟨⟨active, breaches, selected, trivial⟩, listed⟩
          exact absurd (decide_eq_true above) (none room member)
        · intro agree room member counted
          rcases of_decide_eq_true counted with ⟨⟨active, breaches, selected, _⟩, listed⟩
          have agent := (agree room member active breaches selected listed).1
          exact notCounted room ⟨⟨active, breaches⟩, selected, agent⟩

/-- For an active goal with a positive threshold, the payload agrees with its maximum
exactly when the two queries do. -/
theorem breach_agrees_with_max_iff (database : GoalDatabase) (filters : Filters) (project : Uuid)
    (now : Instant) (enabled : Uuid → Bool) (timed : TimedMetric) (goal : MetricGoal)
    (stored : database.goals.lookup (project, timed.metric) = some goal)
    (active : goal.isActive = true) (on : enabled project = true)
    (positive : 0 < goal.thresholdSeconds) :
    BreachAgreesWithMax database filters project now enabled timed ↔
      QueriesAgree database filters project now timed goal.thresholdSeconds := by
  have payload : (getTimeMetrics database filters project now enabled).goals timed.metric =
      some (buildGoalEntry database project timed.metric goal (some filters) now) := by
    simp [getTimeMetrics, on, goalsPayload, stored, active]
  rw [← breached_eq_roomsAbove_iff positive, BreachAgreesWithMax, payload]
  simp only [Option.mem_def, Option.some.injEq, forall_eq', buildGoalEntry, decide_eq_true_eq]
  constructor
  · exact fun agree => agree.2
  · intro same
    refine ⟨?_, same⟩
    rw [same]
    exact roomsAbove_pos_iff positive

/-! ## Goals that are not breached as they should be -/

def noFilters : Filters := ⟨[], [], [], none⟩

def overdueRoom : MeasuredRoom where
  isActive := true
  queue := some ⟨10, 20, 0, false, false⟩
  user := none
  addedToQueueAt := some 1000000
  firstUserAssignedAt := none
  tags := [30, 31]

def deletedQueueRoom : MeasuredRoom where
  isActive := true
  queue := some ⟨10, 20, 0, true, false⟩
  user := some "agent"
  addedToQueueAt := none
  firstUserAssignedAt := some 1000000
  tags := []

def minuteGoal (timed : TimedMetric) (room : MeasuredRoom) : GoalDatabase where
  rooms := (∅ : Table Uuid MeasuredRoom).insert 1 room
  metrics := []
  goals := (∅ : Table (Uuid × Metric) MetricGoal).insert (0, timed.metric)
    ⟨60, .minute, true, false, 5, none⟩

theorem overdue_room_agrees :
    BreachAgreesWithMax (minuteGoal .waitingTime overdueRoom) { noFilters with sector := [20] } 0
        61000000 (fun _ => true) .waitingTime ∧
      roomsAbove (minuteGoal .waitingTime overdueRoom) { noFilters with sector := [20] } 0
        61000000 .waitingTime 60 = 1 :=
  ⟨(breach_agrees_with_max_iff (minuteGoal .waitingTime overdueRoom)
    { noFilters with sector := [20] } 0 61000000 (fun _ => true) .waitingTime
    ⟨60, .minute, true, false, 5, none⟩ rfl rfl rfl (by decide)).mpr (by decide), by decide⟩

/-- The filter on agents is applied to rooms that wait only by the goal; both tags of a
room are counted by the goal; and only the goal counts rooms of deleted queues. -/
theorem breach_disagrees_with_max :
    ¬BreachAgreesWithMax (minuteGoal .waitingTime overdueRoom) { noFilters with agent := "agent" }
        0 61000000 (fun _ => true) .waitingTime ∧
      ¬BreachAgreesWithMax (minuteGoal .waitingTime overdueRoom) ⟨[20], [], [30, 31], none⟩
        0 61000000 (fun _ => true) .waitingTime ∧
      ¬BreachAgreesWithMax (minuteGoal .conversationDuration deletedQueueRoom) noFilters
        0 61000000 (fun _ => true) .conversationDuration := by
  refine ⟨?_, ?_, ?_⟩
  · intro agrees
    have same := (agrees _ rfl).2
    revert same
    decide
  · intro agrees
    have same := (agrees _ rfl).2
    revert same
    decide
  · intro agrees
    have same := (agrees _ rfl).2
    revert same
    decide

end ChatsEngine.Dashboard
