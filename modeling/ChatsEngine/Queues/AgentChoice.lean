import ChatsEngine.Queues.AvailableAgents

/-! # The choice of an agent

`Queue.get_available_agent` ranks the available agents by an annotation of their
query, and breaks ties with a second query. Which rooms were closed today is decided
in each of them, and not by the limit of the agents. -/

namespace ChatsEngine.Queues

open ChatsEngine.Projects ChatsEngine.Rooms

namespace Database

section Choice

variable (settings : RouterSettings) (database : Database) (queue : QueueInstance)

/-! ## The query for the rooms closed today -/

def todayStart : Instant := database.now / day * day

def tomorrowStart : Instant := database.todayStart + day

/-- The rooms of `_get_agent_with_least_rooms_closed_today`. -/
def closedRooms (agents : List UserEmail) : List ((_ : Uuid) × RoomRecord) :=
  database.rooms.entries.filter fun room =>
    (∃ agent ∈ agents, room.2 .user = some agent) ∧ database.InSector queue.sector room.2 ∧
      (∃ endedAt ∈ room.2 .endedAt,
        database.todayStart ≤ endedAt ∧ endedAt < database.tomorrowStart) ∧
      room.2 .isActive = false

def userId (room : (_ : Uuid) × RoomRecord) : Option UserEmail := room.2 .user

/-- `rooms_closed_today.get(agent.email, 0)` -/
def roomsClosedToday (agents : List UserEmail) (agent : UserEmail) : Nat :=
  Query.countOf (Query.groupCounts userId (database.closedRooms queue agents)) (some agent)

def leastClosedToday (agents : List UserEmail) : List UserEmail :=
  least (database.roomsClosedToday queue agents) agents

/-! ## `get_available_agent` -/

variable (anyRow : Query.AnyRow ProjectPermission)

def eligibleAgents : List UserEmail :=
  least (database.orderCount settings queue) (database.availableAgentRows settings queue anyRow)

/-- The agents of whom `random.choice` may pick any. -/
def agentChoices : List UserEmail :=
  let eligible := database.eligibleAgents settings queue anyRow
  if eligible.length = 1 then eligible
  else if settings.leastRoomsClosedToday then database.leastClosedToday queue eligible
  else eligible

/-- What `get_available_agent` may return. -/
def GetsAvailableAgent : Option UserEmail → Prop
  | none => database.availableAgentRows settings queue anyRow = []
  | some agent => agent ∈ database.agentChoices settings queue anyRow

instance : DecidablePred (database.GetsAvailableAgent settings queue anyRow)
  | none => inferInstanceAs (Decidable (_ = []))
  | some agent => inferInstanceAs (Decidable (agent ∈ _))

end Choice

/-! ## What is asked of the choice -/

section Statements

variable (settings : RouterSettings) (database : Database)

def ClosedToday (columns : RoomRecord) : Prop :=
  columns .isActive = false ∧ ∃ endedAt ∈ columns .endedAt, endedAt / day = database.now / day

instance : DecidablePred database.ClosedToday :=
  fun _ => inferInstanceAs (Decidable (_ ∧ _))

def roomsOfToday (agent : UserEmail) (sector : Uuid) : Nat :=
  database.rooms.count fun columns =>
    columns .user = some agent ∧ database.InSector sector columns ∧
      (columns .isActive = true ∨ database.ClosedToday columns)

def rankedRooms (agent : UserEmail) (sector : Uuid) : Nat :=
  if settings.generalRouting then database.roomsOfToday agent sector
  else database.activeRoomsCount agent sector

/-- No other agent has fewer rooms, and, where this counts, none with as many rooms has closed
fewer today. -/
def LeastLoaded (sector : Uuid) (agents : List UserEmail) (agent : UserEmail) : Prop :=
  (∀ other ∈ agents,
      database.rankedRooms settings agent sector ≤ database.rankedRooms settings other sector) ∧
    (settings.leastRoomsClosedToday = true → ∀ other ∈ agents,
      database.rankedRooms settings other sector = database.rankedRooms settings agent sector →
        database.closedToday agent sector ≤ database.closedToday other sector)

/-- The agents with the fewest rooms still have the fewest when the day of a room begins at
midnight in UTC, and not at midnight in the time zone of the settings. -/
def MidnightsAgree (sector : Uuid) (agents : List UserEmail) : Prop :=
  ∀ agent ∈ agents,
    (∀ other ∈ agents, database.load settings agent sector ≤ database.load settings other sector) →
    (settings.leastRoomsClosedToday = true → ∀ other ∈ agents,
      database.load settings other sector = database.load settings agent sector →
        database.closedToday agent sector ≤ database.closedToday other sector) →
    database.LeastLoaded settings sector agents agent

instance (sector : Uuid) (agents : List UserEmail) :
    DecidablePred (database.LeastLoaded settings sector agents) :=
  fun _ => inferInstanceAs (Decidable (_ ∧ _))

instance (sector : Uuid) (agents : List UserEmail) :
    Decidable (database.MidnightsAgree settings sector agents) :=
  inferInstanceAs (Decidable (∀ agent ∈ agents, _))

/-- `get_available_agent` returns no agent only when none is available, and otherwise one that
is least loaded. -/
structure ChoosesLeastLoaded (settings : RouterSettings) (database : Database)
    (queue : QueueInstance) (anyRow : Query.AnyRow ProjectPermission) : Prop where
  returns : ∃ result, database.GetsAvailableAgent settings queue anyRow result
  none_iff : ∀ result, database.GetsAvailableAgent settings queue anyRow result →
    (result = none ↔ database.availableAgentRows settings queue anyRow = [])
  least : ∀ agent, database.GetsAvailableAgent settings queue anyRow (some agent) →
    agent ∈ database.availableAgentRows settings queue anyRow ∧
      database.LeastLoaded settings queue.sector
        (database.availableAgentRows settings queue anyRow) agent

/-- At most one permission per user and project, and at most one authorization per permission
and queue. -/
structure UniqueJoins (database : Database) : Prop where
  permissions : database.permissions.Pairwise fun left right =>
    left.user = right.user → left.project ≠ right.project
  authorizations : database.authorizations.Pairwise fun left right =>
    left.permission = right.permission → left.queue ≠ right.queue

end Statements

section Facts

variable {settings : RouterSettings} {database : Database} {queue : QueueInstance}
  {anyRow : Query.AnyRow ProjectPermission} {agents : List UserEmail} {agent : UserEmail}

/-! ## The counts -/

theorem roomsOfToday_eq (agent : UserEmail) (sector : Uuid) :
    database.roomsOfToday agent sector =
      database.activeRoomsCount agent sector + database.closedToday agent sector := by
  rw [activeRoomsCount, closedToday, ← Table.count_or]
  · apply Table.count_congr
    intro columns
    simp only [Holds, ClosedToday]
    tauto
  · intro columns given holds
    rcases given with ⟨_, isActive, _⟩
    rcases holds with ⟨_, _, isClosed, _⟩
    rw [isActive] at isClosed
    cases isClosed

theorem isToday_iff (endedAt : Instant) :
    (database.todayStart ≤ endedAt ∧ endedAt < database.tomorrowStart) ↔
      endedAt / day = database.now / day := by
  have positive : 0 < day := by decide
  rw [tomorrowStart, todayStart, ← Nat.succ_mul, ← Nat.le_div_iff_mul_le positive,
    ← Nat.div_lt_iff_lt_mul positive]
  constructor
  · intro given
    rcases given with ⟨lower, upper⟩
    exact Nat.le_antisymm (Nat.le_of_lt_succ upper) lower
  · intro same
    exact ⟨Nat.le_of_eq same.symm, Nat.lt_succ_of_le (Nat.le_of_eq same)⟩

theorem roomsClosedToday_eq (listed : agent ∈ agents) :
    database.roomsClosedToday queue agents agent = database.closedToday agent queue.sector := by
  rw [roomsClosedToday, Query.countOf_groupCounts, closedRooms, List.countP_filter, closedToday,
    Table.count]
  apply List.countP_congr
  intro room _
  simp only [isToday_iff, Bool.and_eq_true, decide_eq_true_eq]
  constructor
  · intro given
    rcases given with ⟨assigned, _, inSector, ended, isClosed⟩
    exact ⟨assigned, inSector, isClosed, ended⟩
  · intro given
    rcases given with ⟨assigned, inSector, isClosed, ended⟩
    exact ⟨assigned, ⟨agent, listed, assigned⟩, inSector, ended, isClosed⟩

theorem mem_onlineAgentRows_of_available
    (available : agent ∈ database.availableAgentRows settings queue anyRow) :
    agent ∈ database.onlineAgentRows settings queue := by
  rw [availableAgentRows, List.mem_insertionSort, Query.mem_groupsHaving_iff] at available
  exact Query.exists_mem_leftJoin_iff.mp available.1

theorem pairwise_joinedPermissions (unique : database.UniqueJoins) :
    database.joinedPermissions.Pairwise fun left right =>
      left.1.user = right.1.user → left.1.project = right.1.project →
        left.2.queue ≠ right.2.queue := by
  rw [joinedPermissions, List.pairwise_flatMap]
  constructor
  · intro permission _
    rw [List.pairwise_map]
    apply (unique.authorizations.filter _).imp_of_mem
    intro left right isLeft isRight apart _ _
    have leftKey := of_decide_eq_true (List.mem_filter.mp isLeft).2
    have rightKey := of_decide_eq_true (List.mem_filter.mp isRight).2
    exact apart (leftKey.trans rightKey.symm)
  · apply unique.permissions.imp
    intro left right apart one isOne other isOther sameUser sameProject
    rcases List.mem_map.mp isOne with ⟨_, _, rfl⟩
    rcases List.mem_map.mp isOther with ⟨_, _, rfl⟩
    exact absurd sameProject (apart sameUser)

theorem nodup_onlineAgentRows (unique : database.UniqueJoins) :
    (database.onlineAgentRows settings queue).Nodup := by
  have apart := pairwise_joinedPermissions unique
  apply List.Nodup.filter
  rw [List.nodup_flatMap]
  constructor
  · -- the second join
    intro agent _
    rw [List.Nodup, List.pairwise_map]
    apply (apart.filter _).imp_of_mem
    intro left right isLeft isRight notBoth
    rcases of_decide_eq_true (List.mem_filter.mp isLeft).2 with ⟨leftOnline, leftUser⟩
    rcases of_decide_eq_true (List.mem_filter.mp isRight).2 with ⟨rightOnline, rightUser⟩
    have different := notBoth (leftUser.trans rightUser.symm)
      (leftOnline.2.1.trans rightOnline.2.1.symm)
    exact absurd (leftOnline.2.2.1.trans rightOnline.2.2.1.symm) different
  · -- the first join
    apply (apart.filter _).imp_of_mem
    intro left right isLeft isRight notBoth user inLeft inRight
    rcases of_decide_eq_true (List.mem_filter.mp isLeft).2 with ⟨leftProject, leftQueue, _⟩
    rcases of_decide_eq_true (List.mem_filter.mp isRight).2 with ⟨rightProject, rightQueue, _⟩
    rcases List.mem_map.mp inLeft with ⟨_, _, leftUser⟩
    rcases List.mem_map.mp inRight with ⟨_, _, rightUser⟩
    exact notBoth (leftUser.trans rightUser.symm) (leftProject.trans rightProject.symm)
      (leftQueue.trans rightQueue.symm)

theorem orderCount_eq_load (unique : database.UniqueJoins)
    (online : agent ∈ database.onlineAgentRows settings queue) :
    database.orderCount settings queue agent = database.load settings agent queue.sector := by
  rw [orderCount, load]
  split
  · rw [agentRows, Query.filter_leftJoin (nodup_onlineAgentRows unique) online]
    have joined : ∀ rooms : List ((_ : Uuid) × RoomRecord),
        (Query.leftJoin [agent] fun _ => rooms).countP (database.DayRoom settings queue) =
          rooms.countP fun room => database.InSector queue.sector room.2 ∧
            (room.2 .isActive = true ∨ database.DayClosed settings room.2) := by
      intro rooms
      cases rooms with
      | nil => simp [Query.leftJoin, DayRoom]
      | cons room rooms =>
          rw [Query.leftJoin, List.flatMap_singleton, List.countP_map]
          apply List.countP_congr
          intro own _
          simp [DayRoom]
    have ofAgent : Query.leftJoin [agent] database.roomsOf =
        Query.leftJoin [agent] fun _ => database.roomsOf agent := rfl
    rw [ofAgent, joined, roomsOf, List.countP_filter, Table.count]
    apply List.countP_congr
    intro room _
    simp only [Bool.and_eq_true, decide_eq_true_eq]
    exact and_comm
  · exact countDistinct_eq_activeRoomsCount online

/-! ## The choice -/

theorem mem_eligibleAgents_iff (unique : database.UniqueJoins) :
    agent ∈ database.eligibleAgents settings queue anyRow ↔
      agent ∈ database.availableAgentRows settings queue anyRow ∧
        ∀ other ∈ database.availableAgentRows settings queue anyRow,
          database.load settings agent queue.sector ≤ database.load settings other queue.sector := by
  have ranked : ∀ agent ∈ database.availableAgentRows settings queue anyRow,
      database.orderCount settings queue agent = database.load settings agent queue.sector :=
    fun agent available => orderCount_eq_load unique (mem_onlineAgentRows_of_available available)
  rw [eligibleAgents, least_congr ranked]
  exact mem_least_iff

theorem mem_leastClosedToday_iff :
    agent ∈ database.leastClosedToday queue agents ↔
      agent ∈ agents ∧ ∀ other ∈ agents,
        database.closedToday agent queue.sector ≤ database.closedToday other queue.sector := by
  rw [leastClosedToday, least_congr fun agent listed => roomsClosedToday_eq listed]
  exact mem_least_iff

theorem mem_agentChoices_iff (unique : database.UniqueJoins) :
    agent ∈ database.agentChoices settings queue anyRow ↔
      agent ∈ database.availableAgentRows settings queue anyRow ∧
        (∀ other ∈ database.availableAgentRows settings queue anyRow,
          database.load settings agent queue.sector ≤
            database.load settings other queue.sector) ∧
        (settings.leastRoomsClosedToday = true →
          ∀ other ∈ database.availableAgentRows settings queue anyRow,
            database.load settings other queue.sector =
                database.load settings agent queue.sector →
              database.closedToday agent queue.sector ≤
                database.closedToday other queue.sector) := by
  have eligible : ∀ {agent}, agent ∈ database.eligibleAgents settings queue anyRow ↔ _ :=
    mem_eligibleAgents_iff unique
  -- Those with as many rooms are eligible as well.
  have tied : ∀ {agent other}, agent ∈ database.eligibleAgents settings queue anyRow →
      other ∈ database.availableAgentRows settings queue anyRow →
        database.load settings other queue.sector = database.load settings agent queue.sector →
          other ∈ database.eligibleAgents settings queue anyRow := by
    intro agent other isEligible available same
    apply eligible.mpr ⟨available, ?_⟩
    rw [same]
    exact (eligible.mp isEligible).2
  rw [agentChoices]
  split
  · next alone =>
      rcases List.length_eq_one_iff.mp alone with ⟨only, isOnly⟩
      constructor
      · intro isEligible
        rcases eligible.mp isEligible with ⟨available, fewest⟩
        refine ⟨available, fewest, ?_⟩
        intro _ other isOther same
        have otherEligible := tied isEligible isOther same
        rw [isOnly, List.mem_singleton] at isEligible otherEligible
        rw [isEligible, otherEligible]
      · intro given
        rcases given with ⟨available, fewest, _⟩
        exact eligible.mpr ⟨available, fewest⟩
  · split
    · next enabled =>
        rw [mem_leastClosedToday_iff]
        constructor
        · intro given
          rcases given with ⟨isEligible, fewestClosed⟩
          rcases eligible.mp isEligible with ⟨available, fewest⟩
          refine ⟨available, fewest, ?_⟩
          intro _ other isOther same
          exact fewestClosed other (tied isEligible isOther same)
        · intro given
          rcases given with ⟨available, fewest, fewestClosed⟩
          have isEligible := eligible.mpr ⟨available, fewest⟩
          refine ⟨isEligible, ?_⟩
          intro other otherEligible
          rcases eligible.mp otherEligible with ⟨isOther, otherFewest⟩
          apply fewestClosed enabled other isOther
          exact Nat.le_antisymm (otherFewest agent available) (fewest other isOther)
    · next disabled =>
        rw [eligible]
        constructor
        · intro given
          rcases given with ⟨available, fewest⟩
          exact ⟨available, fewest, fun enabled => absurd enabled disabled⟩
        · intro given
          rcases given with ⟨available, fewest, _⟩
          exact ⟨available, fewest⟩

theorem mem_availableAgentRows_of_mem_agentChoices
    (isChoice : agent ∈ database.agentChoices settings queue anyRow) :
    agent ∈ database.availableAgentRows settings queue anyRow := by
  have eligible : ∀ {agent}, agent ∈ database.eligibleAgents settings queue anyRow →
      agent ∈ database.availableAgentRows settings queue anyRow :=
    fun isEligible => (mem_least_iff.mp isEligible).1
  rw [agentChoices] at isChoice
  split at isChoice
  · exact eligible isChoice
  · split at isChoice
    · exact eligible (mem_least_iff.mp isChoice).1
    · exact eligible isChoice

theorem agentChoices_ne_nil
    (available : database.availableAgentRows settings queue anyRow ≠ []) :
    database.agentChoices settings queue anyRow ≠ [] := by
  have eligible : database.eligibleAgents settings queue anyRow ≠ [] :=
    mt least_eq_nil_iff.mp available
  rw [agentChoices]
  split
  · exact eligible
  · split
    · exact mt least_eq_nil_iff.mp eligible
    · exact eligible

theorem exists_getsAvailableAgent (settings : RouterSettings) (database : Database)
    (queue : QueueInstance) (anyRow : Query.AnyRow ProjectPermission) :
    ∃ result, database.GetsAvailableAgent settings queue anyRow result := by
  by_cases available : database.availableAgentRows settings queue anyRow = []
  · exact ⟨none, available⟩
  · rcases List.exists_mem_of_ne_nil _ (agentChoices_ne_nil available) with ⟨agent, isChoice⟩
    exact ⟨some agent, isChoice⟩

end Facts

/-- The choice is least loaded exactly in this case. -/
theorem chooses_least_loaded_iff (settings : RouterSettings) (database : Database)
    (queue : QueueInstance) (anyRow : Query.AnyRow ProjectPermission)
    (unique : database.UniqueJoins) :
    database.ChoosesLeastLoaded settings queue anyRow ↔
      database.MidnightsAgree settings queue.sector
        (database.availableAgentRows settings queue anyRow) := by
  constructor
  · intro chooses agent available fewest fewestClosed
    have isChoice : agent ∈ database.agentChoices settings queue anyRow :=
      (mem_agentChoices_iff unique).mpr ⟨available, fewest, fewestClosed⟩
    exact (chooses.least agent isChoice).2
  · intro agree
    constructor
    · exact exists_getsAvailableAgent settings database queue anyRow
    · rintro (_ | agent) gets
      · exact iff_of_true rfl gets
      · have available := ((mem_agentChoices_iff unique).mp gets).1
        exact iff_of_false nofun (List.ne_nil_of_mem available)
    · intro agent isChoice
      rcases (mem_agentChoices_iff unique).mp isChoice with ⟨available, fewest, fewestClosed⟩
      exact ⟨available, agree agent available fewest fewestClosed⟩

variable {settings : RouterSettings} {database : Database}

theorem midnightsAgree_of_not_general (active : settings.generalRouting = false) (sector : Uuid)
    (agents : List UserEmail) : MidnightsAgree settings database sector agents := by
  have ranked : ∀ agent, rankedRooms settings database agent sector =
      load settings database agent sector := by
    intro agent
    simp [rankedRooms, load, active]
  intro agent _ fewest fewestClosed
  simp only [LeastLoaded, ranked]
  exact ⟨fewest, fewestClosed⟩

theorem midnightsAgree_of_dayClosed_iff (sector : Uuid) (agents : List UserEmail)
    (same : ∀ pk, ∀ columns ∈ database.rooms.lookup pk, columns .isActive = false →
      (DayClosed settings database columns ↔ ClosedToday database columns)) :
    MidnightsAgree settings database sector agents := by
  have ranked : ∀ agent, rankedRooms settings database agent sector =
      load settings database agent sector := by
    intro agent
    rw [rankedRooms, load]
    split
    · apply List.countP_congr
      intro room stored
      have sameDay := same room.1 room.2 (Table.mem_entries_iff.mp stored)
      simp only [decide_eq_true_eq]
      cases isActive : room.2 .isActive with
      | true => simp
      | false => simp [sameDay isActive]
    · rfl
  intro agent _ fewest fewestClosed
  simp only [LeastLoaded, ranked]
  exact ⟨fewest, fewestClosed⟩

/-! ## The limit -/

theorem mem_availableAgentRows_iff {queue : QueueInstance}
    {anyRow : Query.AnyRow ProjectPermission} {agent : UserEmail} :
    agent ∈ database.availableAgentRows settings queue anyRow ↔
      agent ∈ database.onlineAgentRows settings queue ∧
        database.activeRoomsCount agent queue.sector <
          (database.subqueryLimit settings anyRow agent).getD (database.limit queue) := by
  rw [availableAgentRows, List.mem_insertionSort, Query.mem_groupsHaving_iff, agentRows,
    Query.exists_mem_leftJoin_iff]
  apply and_congr_right
  intro online
  rw [← countDistinct_eq_activeRoomsCount online]
  rfl

/-- The rooms that the agents have closed today do not count, unless they have as many free
places. -/
theorem rooms_of_today_below_limit_iff (settings : RouterSettings) (database : Database)
    (queue : QueueInstance) (anyRow : Query.AnyRow ProjectPermission) :
    (∀ agent ∈ database.availableAgentRows settings queue anyRow,
      database.roomsOfToday agent queue.sector <
        (database.subqueryLimit settings anyRow agent).getD (database.limit queue)) ↔
      ∀ agent ∈ database.onlineAgentRows settings queue,
        database.activeRoomsCount agent queue.sector <
            (database.subqueryLimit settings anyRow agent).getD (database.limit queue) →
          database.activeRoomsCount agent queue.sector +
              database.closedToday agent queue.sector <
            (database.subqueryLimit settings anyRow agent).getD (database.limit queue) := by
  constructor
  · intro below agent online free
    rw [← roomsOfToday_eq]
    exact below agent (mem_availableAgentRows_iff.mpr ⟨online, free⟩)
  · intro spare agent available
    rcases mem_availableAgentRows_iff.mp available with ⟨online, free⟩
    rw [roomsOfToday_eq]
    exact spare agent online free

/-- Whatever the routing option is, an agent that is available is online, and the limit is above
its active rooms. It is above its rooms of today as well exactly if no online agent with free
places has closed as many rooms today. -/
theorem active_rooms_below_limit (settings : RouterSettings) (database : Database)
    (queue : QueueInstance) (anyRow : Query.AnyRow ProjectPermission) :
    (∀ agent ∈ database.availableAgentRows settings queue anyRow,
      agent ∈ database.onlineAgentRows settings queue ∧
        database.activeRoomsCount agent queue.sector <
          (database.subqueryLimit settings anyRow agent).getD (database.limit queue)) ∧
    ((∀ agent ∈ database.availableAgentRows settings queue anyRow,
        database.roomsOfToday agent queue.sector <
          (database.subqueryLimit settings anyRow agent).getD (database.limit queue)) ↔
      ∀ agent ∈ database.onlineAgentRows settings queue,
        database.activeRoomsCount agent queue.sector <
            (database.subqueryLimit settings anyRow agent).getD (database.limit queue) →
          database.activeRoomsCount agent queue.sector +
              database.closedToday agent queue.sector <
            (database.subqueryLimit settings anyRow agent).getD (database.limit queue)) := by
  refine ⟨?_, rooms_of_today_below_limit_iff settings database queue anyRow⟩
  intro agent available
  exact mem_availableAgentRows_iff.mp available

end Database

/-! ## An agent that has closed a room -/

def hours (count : Nat) : Nat := count * 3600 * 1000000

def roomClosedAt (endedAt now : Instant) : Database :=
  { twoAgents 1 with
    now := now
    rooms := AList.singleton 5 ((enteringRoom 1 0).assign
      [⟨.user, some "ana@example.com"⟩, ⟨.isActive, false⟩, ⟨.endedAt, some endedAt⟩]) }

def generalRouting : RouterSettings := { exampleSettings with generalRouting := true }

theorem bob_chosen_at_noon :
    (roomClosedAt (day + hours 9) (day + hours 12)).ChoosesLeastLoaded generalRouting firstQueue
      .first :=
  (Database.chooses_least_loaded_iff generalRouting
    (roomClosedAt (day + hours 9) (day + hours 12)) firstQueue .first
    ⟨by decide, by decide⟩).mpr (by decide)

/-- At one o'clock in UTC, it is still yesterday in the time zone of the settings. -/
theorem ana_chosen_after_midnight :
    ¬(roomClosedAt day (day + hours 1)).ChoosesLeastLoaded generalRouting firstQueue .first := by
  intro chooses
  have least := (chooses.least "ana@example.com" (by decide)).2
  exact absurd (least.1 "bob@example.com" (by decide)) (by decide)

/-- Ana's limit is one room, and she has closed one today. -/
theorem ana_available_above_limit :
    ¬∀ agent ∈ (roomClosedAt (day + hours 9) (day + hours 12)).availableAgentRows generalRouting
        firstQueue .first,
      (roomClosedAt (day + hours 9) (day + hours 12)).roomsOfToday agent firstQueue.sector <
        ((roomClosedAt (day + hours 9) (day + hours 12)).subqueryLimit generalRouting .first
          agent).getD ((roomClosedAt (day + hours 9) (day + hours 12)).limit firstQueue) := by
  decide

end ChatsEngine.Queues
