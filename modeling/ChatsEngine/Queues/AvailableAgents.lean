import ChatsEngine.Foundation.Queries
import ChatsEngine.Queues.Router
import Mathlib.Data.List.MinMax

/-! # Available agents

`Queue.available_agents` is one query over several joins, and the recheck
`CanAgentReceiveRoomUseCase` a sequence of small ones. For the agents that are
online, the two agree. -/

namespace ChatsEngine.Queues

open ChatsEngine.Projects ChatsEngine.Rooms

namespace Database

/-- No two permissions of a user in a project, unless one of them is deleted. -/
def UniquePermissions (database : Database) : Prop :=
  database.permissions.Pairwise fun left right =>
    left.isDeleted = false → right.isDeleted = false →
      left.user = right.user → left.project ≠ right.project

/-- The constraint `unique_user_permission`, which deleted permissions meet as well. -/
def UniqueUserPermission (database : Database) : Prop :=
  ∀ left ∈ database.permissions, ∀ right ∈ database.permissions,
    left.user = right.user → left.project = right.project → left = right

instance : DecidablePred UniquePermissions :=
  fun database => inferInstanceAs (Decidable (database.permissions.Pairwise _))

section Joins

variable (settings : RouterSettings) (database : Database) (queue : QueueInstance)

abbrev JoinedPermission := ProjectPermission × QueueAuthorization

def joinedPermissions : List JoinedPermission :=
  database.permissions.flatMap fun permission =>
    (database.authorizations.filter fun authorization =>
      authorization.permission = permission.uuid).map fun authorization =>
        (permission, authorization)

/-- What `Queue.agents` asks of a permission and an authorization. -/
def IsAgent (joined : JoinedPermission) : Prop :=
  joined.1.project = settings.project ∧ joined.2.queue = queue.uuid ∧
    joined.2.isDeleted = false ∧ joined.1.isDeleted = false

/-- What `Queue.online_agents` asks of them. It is a second filter over the same
relations, so it joins them once more and need not find the same rows. -/
def IsOnlineAgent (joined : JoinedPermission) : Prop :=
  joined.1.status = .online ∧ joined.1.project = settings.project ∧
    joined.2.queue = queue.uuid ∧ joined.2.role = .agent ∧ joined.2.isDeleted = false ∧
    (settings.wsPingTimeout = true →
      ∃ lastSeen ∈ joined.1.lastSeen,
        (database.now : Int) - settings.lastSeenThreshold ≤ (lastSeen : Nat))

instance : DecidablePred (IsAgent settings queue) :=
  fun _ => inferInstanceAs (Decidable (_ ∧ _))

instance : DecidablePred (database.IsOnlineAgent settings queue) :=
  fun _ => inferInstanceAs (Decidable (_ ∧ _))

/-- `Queue.online_agents`: a user is listed once for each way to join its
permissions and authorizations twice. -/
def onlineAgentRows : List UserEmail :=
  ((database.joinedPermissions.filter (IsAgent settings queue)).flatMap fun agent =>
    (database.joinedPermissions.filter fun online =>
      database.IsOnlineAgent settings queue online ∧ online.1.user = agent.1.user).map
        fun _ => agent.1.user).filter fun user => ¬database.OnCustomStatus settings user

def roomsOf (user : UserEmail) : List ((_ : Uuid) × RoomRecord) :=
  database.rooms.entries.filter fun room => room.2 .user = some user

abbrev AgentRow := UserEmail × Option ((_ : Uuid) × RoomRecord)

/-- `Count("rooms", filter=rooms_count_filter, distinct=True)` counts these. -/
def countedRoom (row : AgentRow) : Option Uuid :=
  row.2.bind fun room =>
    if room.2 .isActive = true ∧ database.InSector queue.sector room.2 then some room.1
    else none

/-- The rooms by which general routing orders the agents. This count is not
distinct. -/
def DayRoom (row : AgentRow) : Prop :=
  ∃ room ∈ row.2, database.InSector queue.sector room.2 ∧
    (room.2 .isActive = true ∨ database.DayClosed settings room.2)

instance : DecidablePred (database.DayRoom settings queue) :=
  fun row => inferInstanceAs (Decidable (∃ room ∈ row.2, _))

def customLimitPermissions (user : UserEmail) : List ProjectPermission :=
  database.permissions.filter fun permission =>
    permission.isDeleted = false ∧ permission.user = user ∧
      permission.project = settings.project ∧ permission.isCustomLimitActive = true ∧
      permission.customRoomsLimit.isSome

/-- The subquery for the custom limit, which takes any row. -/
def subqueryLimit (anyRow : Query.AnyRow ProjectPermission) (user : UserEmail) : Option Nat :=
  if settings.agentsManagement then
    (anyRow.pick (database.customLimitPermissions settings user)).bind
      ProjectPermission.customRoomsLimit
  else none

def agentRows : List AgentRow :=
  Query.leftJoin (database.onlineAgentRows settings queue) database.roomsOf

/-- The annotation by which `Queue.available_agents` is ordered. -/
def orderCount (user : UserEmail) : Nat :=
  let rows := (database.agentRows settings queue).filter fun row => row.1 = user
  if settings.generalRouting then rows.countP (database.DayRoom settings queue)
  else Query.countDistinct (database.countedRoom queue) rows

/-- `Queue.available_agents`. -/
def availableAgentRows (anyRow : Query.AnyRow ProjectPermission) : List UserEmail :=
  (Query.groupsHaving Prod.fst
    (fun user rows => Query.countDistinct (database.countedRoom queue) rows <
      (database.subqueryLimit settings anyRow user).getD (database.limit queue))
    (database.agentRows settings queue)).insertionSort fun left right =>
      database.orderCount settings queue left ≤ database.orderCount settings queue right

/-- `CanAgentReceiveRoomUseCase.execute`. The custom limit is the first in the order
of the primary keys. -/
def canAgentReceiveRoom (agent : UserEmail) : AgentCapacityResult :=
  let customLimit :=
    if settings.agentsManagement then
      ((database.customLimitPermissions settings agent).argmin ProjectPermission.uuid).bind
        ProjectPermission.customRoomsLimit
    else none
  { activeRoomsCount := database.activeRoomsCount agent queue.sector
    limit := customLimit.getD (database.limit queue) }

end Joins

section Facts

variable {settings : RouterSettings} {database : Database} {queue : QueueInstance}
  {user : UserEmail}

theorem mem_joinedPermissions_iff {joined : JoinedPermission} :
    joined ∈ database.joinedPermissions ↔
      joined.1 ∈ database.permissions ∧ joined.2 ∈ database.authorizations ∧
        joined.2.permission = joined.1.uuid := by
  rw [joinedPermissions, List.mem_flatMap]
  constructor
  · intro member
    rcases member with ⟨permission, listed, found⟩
    rcases List.mem_map.mp found with ⟨authorization, selected, rfl⟩
    have both := List.mem_filter.mp selected
    exact ⟨listed, both.1, of_decide_eq_true both.2⟩
  · intro member
    rcases member with ⟨listed, authorized, same⟩
    refine ⟨joined.1, listed, List.mem_map.mpr ⟨joined.2, ?_, rfl⟩⟩
    exact List.mem_filter.mpr ⟨authorized, decide_eq_true same⟩

theorem mem_onlineAgentRows_iff :
    user ∈ database.onlineAgentRows settings queue ↔
      (∃ agent ∈ database.joinedPermissions, IsAgent settings queue agent ∧
        agent.1.user = user ∧
        ∃ online ∈ database.joinedPermissions, database.IsOnlineAgent settings queue online ∧
          online.1.user = user) ∧
      ¬database.OnCustomStatus settings user := by
  simp only [onlineAgentRows, List.mem_filter, List.mem_flatMap, List.mem_map,
    decide_eq_true_eq]
  constructor
  · intro listed
    rcases listed with ⟨⟨agent, ⟨joined, isAgent⟩, online, ⟨onlineJoined, isOnline, same⟩, rfl⟩,
      spared⟩
    exact ⟨⟨agent, joined, isAgent, rfl, online, onlineJoined, isOnline, same⟩, spared⟩
  · intro listed
    rcases listed with ⟨⟨agent, joined, isAgent, rfl, online, onlineJoined, isOnline, same⟩,
      spared⟩
    exact ⟨⟨agent, ⟨joined, isAgent⟩, online, ⟨onlineJoined, isOnline, same⟩, rfl⟩, spared⟩

/-- The router's model reads the agents of a queue from one join. Under the
constraint on permissions, the two joins of the query find the same agents. -/
theorem mem_onlineAgentRows_iff_mem_onlineAgents (unique : database.UniqueUserPermission) :
    user ∈ database.onlineAgentRows settings queue ↔
      user ∈ database.onlineAgents settings queue := by
  rw [mem_onlineAgentRows_iff, onlineAgents, List.mem_map]
  constructor
  · intro listed
    rcases listed with ⟨⟨agent, joined, isAgent, rfl, online, onlineJoined, isOnline, same⟩,
      spared⟩
    rcases mem_joinedPermissions_iff.mp joined with ⟨listed, _, _⟩
    rcases mem_joinedPermissions_iff.mp onlineJoined with ⟨onlineListed, authorized, key⟩
    rcases isAgent with ⟨project, _, _, permissionKept⟩
    rcases isOnline with ⟨status, onlineProject, inQueue, role, kept, seen⟩
    have one : online.1 = agent.1 :=
      unique online.1 onlineListed agent.1 listed same (onlineProject.trans project.symm)
    rw [one] at status key seen
    refine ⟨agent.1, List.mem_filter.mpr ⟨listed, decide_eq_true ⟨?_, ?_, spared⟩⟩, rfl⟩
    · exact ⟨permissionKept, rfl, project, status, seen⟩
    · exact ⟨online.2, authorized, inQueue, key, role, kept⟩
  · intro listed
    rcases listed with ⟨permission, selected, rfl⟩
    rcases List.mem_filter.mp selected with ⟨listed, online⟩
    rcases of_decide_eq_true online with ⟨isOnline, authorization, spared⟩
    rcases isOnline with ⟨permissionKept, _, project, status, seen⟩
    rcases authorization with ⟨authorization, authorized, inQueue, key, role, kept⟩
    have joined : (permission, authorization) ∈ database.joinedPermissions :=
      mem_joinedPermissions_iff.mpr ⟨listed, authorized, key⟩
    exact ⟨⟨_, joined, ⟨project, inQueue, kept, permissionKept⟩, rfl, _, joined,
      ⟨status, project, inQueue, role, kept, seen⟩, rfl⟩, spared⟩

theorem countDistinct_eq_activeRoomsCount
    (online : user ∈ database.onlineAgentRows settings queue) :
    Query.countDistinct (database.countedRoom queue)
        ((database.agentRows settings queue).filter fun row => row.1 = user) =
      database.activeRoomsCount user queue.sector := by
  have keys : ((database.rooms.entries.filter fun room =>
      database.Holds user queue.sector room.2).map Sigma.fst).Nodup :=
    database.rooms.nodupKeys.sublist List.filter_sublist
  have counted : database.activeRoomsCount user queue.sector =
      ((database.rooms.entries.filter fun room =>
        database.Holds user queue.sector room.2).map Sigma.fst).length := by
    rw [List.length_map, ← List.countP_eq_length_filter]
    rfl
  rw [counted]
  apply Query.countDistinct_eq_length keys
  intro pk
  constructor
  · intro found
    rcases found with ⟨⟨agent, room⟩, member, isCounted⟩
    rcases List.mem_filter.mp member with ⟨joined, same⟩
    have isUser : agent = user := of_decide_eq_true same
    subst isUser
    rcases Option.bind_eq_some_iff.mp isCounted with ⟨stored, isRoom, kept⟩
    have here : room = some stored := isRoom
    subst here
    split at kept
    · next active =>
        cases kept
        rcases List.mem_filter.mp (Query.mem_leftJoin_some_iff.mp joined).2 with
          ⟨entry, assigned⟩
        have holds : database.Holds agent queue.sector stored.2 :=
          ⟨of_decide_eq_true assigned, active⟩
        exact List.mem_map_of_mem (List.mem_filter.mpr ⟨entry, decide_eq_true holds⟩)
    · cases kept
  · intro listed
    rcases List.mem_map.mp listed with ⟨stored, selected, rfl⟩
    rcases List.mem_filter.mp selected with ⟨entry, holds⟩
    rcases of_decide_eq_true holds with ⟨assigned, active⟩
    have joined : stored ∈ database.roomsOf user :=
      List.mem_filter.mpr ⟨entry, decide_eq_true assigned⟩
    refine ⟨(user, some stored), List.mem_filter.mpr ⟨?_, decide_eq_true rfl⟩, ?_⟩
    · exact Query.mem_leftJoin_some_iff.mpr ⟨online, joined⟩
    · simp [countedRoom, active]

theorem customLimitPermissions_length_le (settings : RouterSettings) (user : UserEmail)
    (unique : database.UniquePermissions) :
    (database.customLimitPermissions settings user).length ≤ 1 := by
  have pairwise := unique.filter fun permission : ProjectPermission =>
    decide (permission.isDeleted = false ∧ permission.user = user ∧
      permission.project = settings.project ∧ permission.isCustomLimitActive = true ∧
      permission.customRoomsLimit.isSome)
  have selected : ∀ permission ∈ database.customLimitPermissions settings user,
      permission.isDeleted = false ∧ permission.user = user ∧
        permission.project = settings.project := by
    intro permission member
    rcases of_decide_eq_true (List.mem_filter.mp member).2 with ⟨kept, owner, project, _⟩
    exact ⟨kept, owner, project⟩
  change (database.customLimitPermissions settings user).Pairwise _ at pairwise
  cases listed : database.customLimitPermissions settings user with
  | nil => simp
  | cons first rest =>
      cases rest with
      | nil => simp
      | cons second others =>
          rw [listed] at pairwise selected
          have left := selected first (by simp)
          have right := selected second (by simp)
          have apart := (List.pairwise_cons.mp pairwise).1 second (by simp) left.1 right.1
            (left.2.1.trans right.2.1.symm)
          exact absurd (left.2.2.trans right.2.2.symm) apart

theorem customLimitPermissions_head? :
    (database.customLimitPermissions settings user).head?.bind
        ProjectPermission.customRoomsLimit =
      database.permissions.findSome? fun permission =>
        if permission.isDeleted = false ∧ permission.user = user ∧
            permission.project = settings.project ∧ permission.isCustomLimitActive = true then
          permission.customRoomsLimit
        else none := by
  rw [customLimitPermissions]
  induction database.permissions with
  | nil => rfl
  | cons permission rest induction =>
      rw [List.findSome?_cons, ← induction]
      cases limit : permission.customRoomsLimit with
      | none => simp [limit]
      | some roomsLimit =>
          by_cases active : permission.isDeleted = false ∧ permission.user = user ∧
              permission.project = settings.project ∧ permission.isCustomLimitActive = true
          · simp [limit, active]
          · rw [if_neg active, List.filter_cons_of_neg]
            simp only [limit, Option.isSome_some, and_true, decide_eq_true_eq]
            exact active

theorem subqueryLimit_eq (unique : database.UniquePermissions)
    (anyRow : Query.AnyRow ProjectPermission) :
    database.subqueryLimit settings anyRow user = database.customLimit settings user := by
  rw [subqueryLimit, customLimit,
    anyRow.pick_eq_head? (customLimitPermissions_length_le settings user unique),
    customLimitPermissions_head?]

theorem canAgentReceiveRoom_limit (unique : database.UniquePermissions) :
    (database.canAgentReceiveRoom settings queue user).limit =
      (database.customLimit settings user).getD (database.limit queue) := by
  have atMostOne := customLimitPermissions_length_le settings user unique
  have first : (database.customLimitPermissions settings user).argmin ProjectPermission.uuid =
      (database.customLimitPermissions settings user).head? := by
    cases listed : database.customLimitPermissions settings user with
    | nil => rfl
    | cons permission rest =>
        rw [listed, List.length_cons] at atMostOne
        have alone : rest = [] := List.length_eq_zero_iff.mp (by omega)
        rw [alone, List.argmin_singleton, List.head?_cons]
  rw [canAgentReceiveRoom, first, customLimitPermissions_head?]
  rfl

/-- An agent that is online is available exactly when the recheck lets it receive a
room. -/
theorem canReceive_iff_mem_availableAgentRows (settings : RouterSettings)
    (database : Database) (queue : QueueInstance) (anyRow : Query.AnyRow ProjectPermission)
    (unique : database.UniquePermissions) (agent : UserEmail)
    (online : agent ∈ database.onlineAgentRows settings queue) :
    (database.canAgentReceiveRoom settings queue agent).canReceive ↔
      agent ∈ database.availableAgentRows settings queue anyRow := by
  have joined : ∃ row ∈ database.agentRows settings queue, row.1 = agent :=
    Query.exists_mem_leftJoin_iff.mpr online
  rw [availableAgentRows, List.mem_insertionSort, Query.mem_groupsHaving_iff,
    countDistinct_eq_activeRoomsCount online, subqueryLimit_eq unique anyRow,
    AgentCapacityResult.canReceive, canAgentReceiveRoom_limit unique]
  constructor
  · intro canReceive
    exact ⟨joined, canReceive⟩
  · exact fun available => available.2

end Facts

end Database

/-! ## An agent with a custom limit -/

/-- The agent had a permission before, which was deleted while it was online, and
has two authorizations for the queue. One room is left of the custom limit. -/
def oneRoomLeft : Database :=
  { twoAgents 1 with
    permissions :=
      [{ attendant 1 "ana@example.com" .online with
          customRoomsLimit := some 2, isCustomLimitActive := true },
        { attendant 3 "ana@example.com" .online with
          customRoomsLimit := some 7, isCustomLimitActive := true, isDeleted := true }]
    authorizations := [agentOf 1 1, agentOf 1 1, agentOf 1 3]
    rooms := (∅ : Table Uuid RoomRecord).insert 5
      ((enteringRoom 1 0).assign [⟨.user, some "ana@example.com"⟩]) }

def firstQueue : QueueInstance where
  uuid := 1
  sector := 1
  sectorRoomsLimit := 1

def agentsManagement : RouterSettings := { exampleSettings with agentsManagement := true }

theorem ana_available :
    (oneRoomLeft.canAgentReceiveRoom agentsManagement firstQueue "ana@example.com").canReceive ↔
      "ana@example.com" ∈ oneRoomLeft.availableAgentRows agentsManagement firstQueue .first :=
  Database.canReceive_iff_mem_availableAgentRows agentsManagement oneRoomLeft firstQueue .first
    (by decide) "ana@example.com" (by decide)

example : oneRoomLeft.availableAgentRows agentsManagement firstQueue .first =
    ["ana@example.com"] := by
  decide

end ChatsEngine.Queues
