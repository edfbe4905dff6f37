import ChatsEngine.Foundation.Table
import ChatsEngine.Projects.Statuses
import ChatsEngine.Rooms.Room
import Mathlib.Data.List.MinMax
import Mathlib.Data.List.Sort

/-! # Agents and their limits

The tables that routing reads, and the queries on them: which agents of a queue
are online, how many rooms they hold in the sector, up to which limit, and who of
them is to be given the next room. -/

namespace ChatsEngine.Queues

open ChatsEngine.Projects ChatsEngine.Rooms

structure GroupSector where
  sectors : List Uuid
  roomsLimit : Nat
  isDeleted : Bool
deriving DecidableEq, Repr

inductive QueueRole
  | notSetted
  | agent
deriving DecidableEq, Repr

structure QueueAuthorization where
  queue : Uuid
  permission : Uuid
  role : QueueRole
  isDeleted : Bool
deriving DecidableEq, Repr

/-- The feature flags and settings that routing goes by. -/
structure RouterSettings where
  project : Uuid
  /-- `routing_option` is `"general"`. -/
  generalRouting : Bool
  /-- Microseconds by which `TIME_ZONE` is ahead of UTC. -/
  utcOffset : Int
  wsPingTimeout : Bool
  lastSeenThreshold : Nat
  agentsManagement : Bool
  leastRoomsClosedToday : Bool
  agentCapacityRecheck : Bool
deriving DecidableEq, Repr

/-- An automatic assignment: the active rooms of the agent in the sector before and
after it, and the agent's limit at that moment. -/
structure CapacityRecord where
  agent : UserEmail
  roomsBefore : Nat
  roomsAfter : Nat
  limit : Nat
deriving DecidableEq, Repr

/-- An assignment by the router, and the rooms that waited in the queue since
before the assigned one at that moment. -/
structure RoutingRecord where
  room : Uuid
  overtaken : List Uuid
deriving DecidableEq, Repr

/-- The tables of one project, and a record of the automatic assignments. -/
structure Database where
  now : Nat
  sectorOf : Uuid → Option Uuid
  roomsLimit : Uuid → Nat
  groupSectors : List GroupSector
  permissions : List ProjectPermission
  authorizations : List QueueAuthorization
  customStatuses : List CustomStatus
  rooms : Table Uuid RoomRecord
  capacityRecords : List CapacityRecord
  routingRecords : List RoutingRecord

structure QueueInstance where
  uuid : Uuid
  sector : Uuid
  sectorRoomsLimit : Nat
deriving DecidableEq, Repr

def Waits (queue : Uuid) (columns : RoomRecord) : Prop :=
  columns .queue = some queue ∧ columns .isActive = true ∧ columns .user = none

instance (queue : Uuid) : DecidablePred (Waits queue) :=
  fun _ => inferInstanceAs (Decidable (_ ∧ _))

/-- `Coalesce("added_to_queue_at", "created_on")`. -/
def entryDate (columns : RoomRecord) : Nat :=
  (columns .addedToQueueAt).getD (columns .createdOn)

def day : Nat := 86400 * 1000000

namespace Database

variable (settings : RouterSettings) (database : Database)

def InSector (sector : Uuid) (columns : RoomRecord) : Prop :=
  ∃ queue ∈ columns .queue, database.sectorOf queue = some sector

instance (sector : Uuid) : DecidablePred (database.InSector sector) := by
  unfold InSector
  infer_instance

def Holds (agent : UserEmail) (sector : Uuid) (columns : RoomRecord) : Prop :=
  columns .user = some agent ∧ columns .isActive = true ∧ database.InSector sector columns

instance (agent : UserEmail) (sector : Uuid) : DecidablePred (database.Holds agent sector) :=
  fun _ => inferInstanceAs (Decidable (_ ∧ _))

def activeRoomsCount (agent : UserEmail) (sector : Uuid) : Nat :=
  database.rooms.count (database.Holds agent sector)

def limit (queue : QueueInstance) : Nat :=
  match database.groupSectors.find? fun group =>
    !group.isDeleted && group.sectors.contains queue.sector with
  | some group => group.roomsLimit
  | none => queue.sectorRoomsLimit

def customLimit (agent : UserEmail) : Option Nat :=
  if settings.agentsManagement then
    database.permissions.findSome? fun permission =>
      if permission.isDeleted = false ∧ permission.user = agent ∧
          permission.project = settings.project ∧ permission.isCustomLimitActive = true then
        permission.customRoomsLimit
      else none
  else none

def effectiveLimit (agent : UserEmail) (queue : QueueInstance) : Nat :=
  (database.customLimit settings agent).getD
    (database.limit { queue with sectorRoomsLimit := database.roomsLimit queue.sector })

/-- The condition on the permission that the double check of the router makes as
well. -/
def IsOnline (permission : ProjectPermission) (agent : UserEmail) : Prop :=
  permission.isDeleted = false ∧ permission.user = agent ∧
    permission.project = settings.project ∧ permission.status = .online ∧
    (settings.wsPingTimeout = true →
      ∃ lastSeen ∈ permission.lastSeen,
        (database.now : Int) - settings.lastSeenThreshold ≤ (lastSeen : Nat))

instance (permission : ProjectPermission) (agent : UserEmail) :
    Decidable (database.IsOnline settings permission agent) :=
  inferInstanceAs (Decidable (_ ∧ _))

/-- A custom status other than in-service takes its user out of the routing. -/
def OnCustomStatus (agent : UserEmail) : Prop :=
  ∃ status ∈ database.customStatuses, status.user = agent ∧ status.isActive = true ∧
    status.statusType.project = settings.project ∧
    status.statusType.name.toLower ≠ "in-service"

instance (agent : UserEmail) : Decidable (database.OnCustomStatus settings agent) := by
  unfold OnCustomStatus
  infer_instance

def onlineAgents (queue : QueueInstance) : List UserEmail :=
  (database.permissions.filter fun permission =>
    database.IsOnline settings permission permission.user ∧
    (∃ authorization ∈ database.authorizations, authorization.queue = queue.uuid ∧
      authorization.permission = permission.uuid ∧ authorization.role = .agent ∧
      authorization.isDeleted = false) ∧
    ¬database.OnCustomStatus settings permission.user).map ProjectPermission.user

theorem isOnline_of_mem_onlineAgents {settings : RouterSettings} {database : Database}
    {queue : QueueInstance} {agent : UserEmail}
    (online : agent ∈ database.onlineAgents settings queue) :
    ∃ permission ∈ database.permissions, database.IsOnline settings permission agent := by
  rcases List.mem_map.mp online with ⟨permission, listed, rfl⟩
  rcases List.mem_filter.mp listed with ⟨stored, selected⟩
  exact ⟨permission, stored, (of_decide_eq_true selected).1⟩

/-- `Queue.available_agents`, with the limit of the queue as it was read before. -/
def availableAgents (queue : QueueInstance) (limit : Nat) : List UserEmail :=
  (database.onlineAgents settings queue).filter fun agent =>
    database.activeRoomsCount agent queue.sector <
      (database.customLimit settings agent).getD limit

/-- `rooms_day_closed_filter`. The query reads the date of the room in the time zone of
the settings, and is given the current date in UTC. -/
def DayClosed (columns : RoomRecord) : Prop :=
  ∃ endedAt ∈ columns .endedAt,
    (database.now : Int) / day ≤ ((endedAt : Nat) + settings.utcOffset) / day

instance : DecidablePred (database.DayClosed settings) :=
  fun columns => inferInstanceAs (Decidable (∃ endedAt ∈ columns .endedAt, _))

/-- The rooms that count for the choice among the available agents: the active
ones, and in general routing those that ended today as well. -/
def load (agent : UserEmail) (sector : Uuid) : Nat :=
  if settings.generalRouting then
    database.rooms.count fun columns =>
      columns .user = some agent ∧ database.InSector sector columns ∧
        (columns .isActive = true ∨ database.DayClosed settings columns)
  else database.activeRoomsCount agent sector

def least (value : UserEmail → Nat) (agents : List UserEmail) : List UserEmail :=
  agents.filter fun agent => ∀ other ∈ agents, value agent ≤ value other

theorem mem_least_iff {value : UserEmail → Nat} {agents : List UserEmail} {agent : UserEmail} :
    agent ∈ least value agents ↔
      agent ∈ agents ∧ ∀ other ∈ agents, value agent ≤ value other := by
  rw [least, List.mem_filter, decide_eq_true_eq]

theorem least_congr {value rank : UserEmail → Nat} {agents : List UserEmail}
    (same : ∀ agent ∈ agents, value agent = rank agent) : least value agents = least rank agents := by
  apply List.filter_congr
  intro agent listed
  rw [decide_eq_decide]
  apply forall₂_congr
  intro other isOther
  rw [same agent listed, same other isOther]

theorem least_eq_nil_iff {value : UserEmail → Nat} {agents : List UserEmail} :
    least value agents = [] ↔ agents = [] := by
  constructor
  · intro none
    cases smallest : agents.argmin value with
    | none => exact List.argmin_eq_none.mp smallest
    | some agent =>
        have isLeast : agent ∈ least value agents :=
          mem_least_iff.mpr ⟨List.argmin_mem smallest,
            fun other listed => List.le_of_mem_argmin listed smallest⟩
        rw [none] at isLeast
        cases isLeast
  · intro same
    subst same
    rfl

def closedToday (agent : UserEmail) (sector : Uuid) : Nat :=
  database.rooms.count fun columns =>
    columns .user = some agent ∧ database.InSector sector columns ∧
      columns .isActive = false ∧
      ∃ endedAt ∈ columns .endedAt, endedAt / day = database.now / day

def roomsToRoute (queue : Uuid) : List ((_ : Uuid) × RoomRecord) :=
  (database.rooms.entries.filter fun room => Waits queue room.2).insertionSort
    fun left right => entryDate left.2 ≤ entryDate right.2

theorem mem_roomsToRoute_iff {database : Database} {queue : Uuid}
    {room : (_ : Uuid) × RoomRecord} :
    room ∈ database.roomsToRoute queue ↔
      database.rooms.lookup room.1 = some room.2 ∧ Waits queue room.2 := by
  rw [roomsToRoute, List.mem_insertionSort, List.mem_filter, decide_eq_true_eq,
    Table.mem_entries_iff]

theorem nodup_roomsToRoute (database : Database) (queue : Uuid) :
    ((database.roomsToRoute queue).map Sigma.fst).Nodup := by
  have routed : ((database.roomsToRoute queue).map Sigma.fst).Perm
      ((database.rooms.entries.filter fun room => Waits queue room.2).map Sigma.fst) :=
    (List.perm_insertionSort _ _).map Sigma.fst
  exact routed.nodup_iff.mpr (Table.nodup_keys_filter database.rooms _)

def waitingBefore (queue : Uuid) (date : Nat) : List Uuid :=
  (database.rooms.entries.filter fun room =>
    Waits queue room.2 ∧ entryDate room.2 < date).map Sigma.fst

theorem mem_waitingBefore_iff {database : Database} {queue pk : Uuid} {date : Nat} :
    pk ∈ database.waitingBefore queue date ↔
      ∃ columns, database.rooms.lookup pk = some columns ∧ Waits queue columns ∧
        entryDate columns < date := by
  rw [waitingBefore, List.mem_map]
  constructor
  · intro member
    rcases member with ⟨room, listed, rfl⟩
    rcases List.mem_filter.mp listed with ⟨entry, waits⟩
    rcases of_decide_eq_true waits with ⟨waits, earlier⟩
    exact ⟨room.2, Table.mem_entries_iff.mp entry, waits, earlier⟩
  · intro waiting
    rcases waiting with ⟨columns, stored, waits, earlier⟩
    have entry : (⟨pk, columns⟩ : (_ : Uuid) × RoomRecord) ∈ database.rooms.entries :=
      Table.mem_entries_iff.mpr stored
    exact ⟨⟨pk, columns⟩, List.mem_filter.mpr ⟨entry, decide_eq_true ⟨waits, earlier⟩⟩, rfl⟩

end Database

/-! ## Two agents of a sector -/

def exampleSettings : RouterSettings where
  project := 1
  generalRouting := false
  utcOffset := -3 * 3600 * 1000000
  wsPingTimeout := false
  lastSeenThreshold := 90 * 1000000
  agentsManagement := false
  leastRoomsClosedToday := false
  agentCapacityRecheck := true

def attendant (uuid : Uuid) (user : UserEmail) (status : UserStatus) : ProjectPermission where
  uuid := uuid
  project := 1
  user := user
  status := status
  lastSeen := none
  customRoomsLimit := none
  isCustomLimitActive := false
  isDeleted := false

def agentOf (queue permission : Uuid) : QueueAuthorization where
  queue := queue
  permission := permission
  role := .agent
  isDeleted := false

def twoAgents (roomsLimit : Nat) : Database where
  now := 0
  sectorOf := fun _ => some 1
  roomsLimit := fun _ => roomsLimit
  groupSectors := []
  permissions := [attendant 1 "ana@example.com" .online, attendant 2 "bob@example.com" .online]
  authorizations := [agentOf 1 1, agentOf 1 2, agentOf 2 1]
  customStatuses := []
  rooms := ∅
  capacityRecords := []
  routingRecords := []

def enteringRoom (queue : Uuid) (now : Nat) : RoomRecord :=
  (RoomRecord.defaults now).assign [⟨.queue, some queue⟩, ⟨.addedToQueueAt, some now⟩]

end ChatsEngine.Queues
