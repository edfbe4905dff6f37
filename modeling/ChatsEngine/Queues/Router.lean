import ChatsEngine.Foundation.Pool
import ChatsEngine.Queues.Database

/-! # Automatic assignment

`QueueRouterService.route_rooms` and the external creation of rooms pick an agent
in the same way, statement by statement: the limit of the queue, the available
agents, and, with the recheck, once more the limits and the active rooms of the
agent that has been picked. -/

namespace ChatsEngine.Queues

open ChatsEngine.Projects ChatsEngine.Rooms

structure AgentCapacityResult where
  activeRoomsCount : Nat
  limit : Nat
deriving DecidableEq, Repr

def AgentCapacityResult.canReceive (result : AgentCapacityResult) : Prop :=
  result.activeRoomsCount < result.limit

instance (result : AgentCapacityResult) : Decidable result.canReceive :=
  inferInstanceAs (Decidable (_ < _))

/-- A room as `get_rooms_to_route` has listed it, with its annotation. -/
structure ListedRoom where
  pk : Uuid
  dateField : Nat
deriving DecidableEq, Repr

/-- The loop of `route_rooms`: the rooms still to be visited, when they were listed,
and those that were left waiting because a check turned down the agent that had
been picked. -/
structure RouteRun where
  queue : QueueInstance
  rooms : List ListedRoom
  listedAt : Nat
  passedOver : List Uuid
deriving DecidableEq, Repr

inductive Purpose
  | route (run : RouteRun) (listed : ListedRoom) (room : RoomInstance)
  | create (queue : QueueInstance) (pk : Uuid) (columns : RoomRecord)

def Purpose.queue : Purpose → QueueInstance
  | .route run _ _ => run.queue
  | .create queue _ _ => queue

inductive RouterTask
  | routeRooms (queue : Uuid)
  | createRoom (queue : Uuid) (pk : Uuid) (columns : RoomRecord)

inductive RouterProgress
  | loadingQueue (task : RouterTask)
  -- `route_rooms`, up to its loop
  | findingRooms (queue : QueueInstance)
  | limitingAgents (queue : QueueInstance)
  | findingAgents (queue : QueueInstance) (limit : Nat)
  | listing (queue : QueueInstance)
  | visiting (run : RouteRun)
  -- `ResolveRoomUserUseCase`, up to the choice of an agent
  | resolving (queue : QueueInstance) (pk : Uuid) (columns : RoomRecord)
  -- `get_available_agent`
  | readingLimit (purpose : Purpose)
  | picking (purpose : Purpose) (limit : Nat)
  | breakingTie (purpose : Purpose) (agents : List UserEmail)
  | choosing (purpose : Purpose) (agents : List UserEmail)
  -- the double check of the router
  | checkingOnline (run : RouteRun) (listed : ListedRoom) (room : RoomInstance)
      (agent : UserEmail)
  -- `CanAgentReceiveRoomUseCase`
  | readingCustomLimit (purpose : Purpose) (agent : UserEmail)
  | readingQueueLimit (purpose : Purpose) (agent : UserEmail)
  | counting (purpose : Purpose) (agent : UserEmail) (limit : Nat)
  -- the assignment
  | guarding (run : RouteRun) (listed : ListedRoom) (room : RoomInstance)
      (agent : UserEmail) (capacity : Option AgentCapacityResult)
  | storing (run : RouteRun) (listed : ListedRoom) (room : RoomInstance)
      (agent : UserEmail) (capacity : Option AgentCapacityResult)
  | creating (queue : QueueInstance) (pk : Uuid) (columns : RoomRecord)
      (user : Option UserEmail) (capacity : Option AgentCapacityResult)

/-- The choice of `random.choice`; a statement that leaves none goes on. -/
inductive RouterChoice
  | goOn
  | pick (agent : UserEmail)
deriving DecidableEq, Repr

inductive RouterSurrounding
  | tick (elapsed : Nat)
  | setPermissions (permissions : List ProjectPermission)
  | setAuthorizations (authorizations : List QueueAuthorization)
  | setCustomStatuses (customStatuses : List CustomStatus)
  | setRoomsLimit (sector : Uuid) (roomsLimit : Nat)
  | setGroupSectors (groupSectors : List GroupSector)
  | writeRoom (pk : Uuid) (columns : RoomRecord)

namespace Database

/-- A room that enters a queue is dated at that moment: `Room.save` sets
`added_to_queue_at` for a new room and for one that has lost its agent. -/
def EntersAtEnd (database : Database) (pk : Uuid) (columns : RoomRecord) : Prop :=
  ∀ queue ∈ columns .queue, Waits queue columns →
    entryDate columns = database.now ∨
      ∃ old ∈ database.rooms.lookup pk, Waits queue old ∧ entryDate old = entryDate columns

instance (database : Database) (pk : Uuid) (columns : RoomRecord) :
    Decidable (database.EntersAtEnd pk columns) := by
  unfold EntersAtEnd
  infer_instance

def surround (database : Database) : RouterSurrounding → Option Database
  | .tick elapsed => some { database with now := database.now + elapsed }
  | .setPermissions permissions => some { database with permissions := permissions }
  | .setAuthorizations authorizations =>
      some { database with authorizations := authorizations }
  | .setCustomStatuses customStatuses =>
      some { database with customStatuses := customStatuses }
  | .setRoomsLimit sector roomsLimit =>
      some { database with
        roomsLimit := Function.update database.roomsLimit sector roomsLimit }
  | .setGroupSectors groupSectors => some { database with groupSectors := groupSectors }
  | .writeRoom pk columns =>
      if database.EntersAtEnd pk columns then
        some { database with rooms := database.rooms.insert pk columns }
      else none

def loadQueue (database : Database) (queue : Uuid) : Option QueueInstance :=
  (database.sectorOf queue).map fun sector =>
    { uuid := queue, sector := sector, sectorRoomsLimit := database.roomsLimit sector }

def IsClosed (database : Database) (pk : Uuid) : Prop :=
  ∃ columns ∈ database.rooms.lookup pk, columns .isActive = false

instance (database : Database) : DecidablePred database.IsClosed :=
  fun pk => inferInstanceAs (Decidable (∃ columns ∈ database.rooms.lookup pk, _))

/-- Write a room that has been assigned to an agent automatically, and record what
this does to the agent's active rooms. -/
def assignRoom (settings : RouterSettings) (database : Database) (queue : QueueInstance)
    (pk : Uuid) (columns : RoomRecord) (agent : UserEmail) : Database :=
  let after := { database with rooms := database.rooms.insert pk columns }
  { after with
    capacityRecords :=
      { agent := agent
        roomsBefore := database.activeRoomsCount agent queue.sector
        roomsAfter := after.activeRoomsCount agent queue.sector
        limit := database.effectiveLimit settings agent queue } :: database.capacityRecords }

end Database

def assignedRoom (now : Nat) (room : RoomInstance) (agent : UserEmail) : RoomRecord :=
  let assigned := room.assign [⟨.user, some agent⟩]
  (assigned.assign (assigned.saveAssignments now none)).values

/-- The instance of the room as `Room.objects.create` saves it. -/
def createdRoom (now : Nat) (queue : QueueInstance) (columns : RoomRecord)
    (user : Option UserEmail) : RoomRecord :=
  let created := RoomInstance.create
    (columns.assign [⟨.queue, some queue.uuid⟩, ⟨.user, user⟩])
  (created.assign (created.saveAssignments now none)).values

namespace RouterProgress

def enter : RouterTask → RouterProgress := .loadingQueue

/-- No agent is available: `route_rooms` leaves its loop, and a new room goes to the
queue. -/
def withoutAgent : Purpose → Option RouterProgress
  | .route _ _ _ => none
  | .create queue pk columns => some (.creating queue pk columns none none)

/-- The recheck has turned down the agent: `route_rooms` goes on with the next room,
and a new room goes to the queue. -/
def turnedDown : Purpose → RouterProgress
  | .route run listed _ => .visiting { run with passedOver := listed.pk :: run.passedOver }
  | .create queue pk columns => .creating queue pk columns none none

def assigning (agent : UserEmail) (capacity : Option AgentCapacityResult) :
    Purpose → RouterProgress
  | .route run listed room => .guarding run listed room agent capacity
  | .create queue pk columns => .creating queue pk columns (some agent) capacity

def rechecking (settings : RouterSettings) (purpose : Purpose) (agent : UserEmail) :
    RouterProgress :=
  if settings.agentCapacityRecheck then .readingCustomLimit purpose agent
  else assigning agent none purpose

def picked (settings : RouterSettings) (agent : UserEmail) : Purpose → RouterProgress
  | .route run listed room => .checkingOnline run listed room agent
  | .create queue pk columns => rechecking settings (.create queue pk columns) agent

/-- One round of the loop in `route_rooms`, up to the choice of an agent. -/
def visit (database : Database) (run : RouteRun) : Option RouterProgress :=
  match run.rooms with
  | [] => none
  | listed :: rooms =>
      -- `refresh_from_db` raises when there is no such room
      match database.rooms.lookup listed.pk with
      | none => none
      | some columns =>
          if (columns .user).isSome then some (.visiting { run with rooms := rooms })
          else
            some (.readingLimit (.route { run with rooms := rooms } listed (.load columns)))

/-- The agents that remain after the query, and whether there is a tie to break. -/
def pickFrom (settings : RouterSettings) (purpose : Purpose) :
    List UserEmail → Option RouterProgress
  | [] => withoutAgent purpose
  | [agent] => some (picked settings agent purpose)
  | agents =>
      if settings.leastRoomsClosedToday then some (.breakingTie purpose agents)
      else some (.choosing purpose agents)

def storeRoom (settings : RouterSettings) (database : Database) (run : RouteRun)
    (listed : ListedRoom) (room : RoomInstance) (agent : UserEmail) :
    Database × Option RouterProgress :=
  let columns := assignedRoom database.now room agent
  ({ database.assignRoom settings run.queue listed.pk columns agent with
      routingRecords :=
        { room := listed.pk
          overtaken := database.waitingBefore run.queue.uuid listed.dateField } ::
          database.routingRecords },
    some (.visiting run))

/-- The write of the creation. The uuid of the room is new. -/
def createRoom (settings : RouterSettings) (database : Database) (queue : QueueInstance)
    (pk : Uuid) (columns : RoomRecord) :
    Option UserEmail → Option (Database × Option RouterProgress)
  | none =>
      let created := createdRoom database.now queue columns none
      match database.rooms.lookup pk with
      | none => some ({ database with rooms := database.rooms.insert pk created }, none)
      | some _ => none
  | some agent =>
      let created := createdRoom database.now queue columns (some agent)
      match database.rooms.lookup pk with
      | none => some (database.assignRoom settings queue pk created agent, none)
      | some _ => none

def advance (settings : RouterSettings) (database : Database) :
    RouterProgress → RouterChoice → Option (Database × Option RouterProgress)
  | .loadingQueue (.routeRooms queue), _ =>
      some (database, (database.loadQueue queue).map .findingRooms)
  | .loadingQueue (.createRoom queue pk columns), _ =>
      some (database, (database.loadQueue queue).map fun loaded => .resolving loaded pk columns)
  | .findingRooms queue, _ =>
      some (database,
        if database.roomsToRoute queue.uuid = [] then none else some (.limitingAgents queue))
  | .limitingAgents queue, _ =>
      some (database, some (.findingAgents queue (database.limit queue)))
  | .findingAgents queue limit, _ =>
      some (database,
        if database.availableAgents settings queue limit = [] then none
        else some (.listing queue))
  | .listing queue, _ =>
      some (database, some (.visiting
        { queue := queue
          rooms := (database.roomsToRoute queue.uuid).map fun room =>
            { pk := room.1, dateField := entryDate room.2 }
          listedAt := database.now
          passedOver := [] }))
  | .visiting run, _ => some (database, visit database run)
  | .resolving queue pk columns, _ =>
      some (database, some (
        if database.roomsToRoute queue.uuid = [] then
          .readingLimit (.create queue pk columns)
        else .creating queue pk columns none none))
  | .readingLimit purpose, _ =>
      some (database, some (.picking purpose (database.limit purpose.queue)))
  | .picking purpose limit, _ =>
      some (database, pickFrom settings purpose
        (Database.least (fun agent => database.load settings agent purpose.queue.sector)
          (database.availableAgents settings purpose.queue limit)))
  | .breakingTie purpose agents, _ =>
      some (database, some (.choosing purpose
        (Database.least (fun agent => database.closedToday agent purpose.queue.sector)
          agents)))
  | .choosing purpose agents, choice =>
      match choice with
      | .pick agent =>
          if agent ∈ agents then some (database, some (picked settings agent purpose)) else none
      | .goOn => none
  | .checkingOnline run listed room agent, _ =>
      some (database, some (
        if ∃ permission ∈ database.permissions, database.IsOnline settings permission agent then
          rechecking settings (.route run listed room) agent
        else turnedDown (.route run listed room)))
  | .readingCustomLimit purpose agent, _ =>
      some (database, some (
        match database.customLimit settings agent with
        | some limit => .counting purpose agent limit
        | none => .readingQueueLimit purpose agent))
  | .readingQueueLimit purpose agent, _ =>
      some (database, some (.counting purpose agent (database.limit purpose.queue)))
  | .counting purpose agent limit, _ =>
      let capacity :=
        { activeRoomsCount := database.activeRoomsCount agent purpose.queue.sector
          limit := limit }
      some (database, some (
        if AgentCapacityResult.canReceive capacity then assigning agent (some capacity) purpose
        else turnedDown purpose))
  | .guarding run listed room agent capacity, _ =>
      -- the guard "Closed rooms can't receive updates" ends the run
      some (database,
        if database.IsClosed listed.pk then none
        else some (.storing run listed room agent capacity))
  | .storing run listed room agent _, _ =>
      some (storeRoom settings database run listed room agent)
  | .creating queue pk columns user _, _ => createRoom settings database queue pk columns user

theorem eq_nil_of_pickFrom {settings : RouterSettings} {run : RouteRun} {listed : ListedRoom}
    {room : RoomInstance} {agents : List UserEmail}
    (ends : pickFrom settings (.route run listed room) agents = none) : agents = [] := by
  unfold pickFrom at ends
  split at ends
  · rfl
  · cases ends
  · split at ends <;> cases ends

def IsRead : RouterProgress → Prop
  | .storing _ _ _ _ _ => False
  | .creating _ _ _ _ _ => False
  | _ => True

theorem advance_of_isRead {settings : RouterSettings} {database after : Database}
    {progress : RouterProgress} {choice : RouterChoice} {rest : Option RouterProgress}
    (advanced : progress.advance settings database choice = some (after, rest))
    (isRead : progress.IsRead) : after = database := by
  cases progress with
  | loadingQueue task =>
      cases task <;>
        · cases advanced
          rfl
  | choosing purpose agents =>
      cases choice with
      | goOn => cases advanced
      | pick agent =>
          rw [advance] at advanced
          split at advanced
          · cases advanced
            rfl
          · cases advanced
  | storing run listed room agent capacity => cases isRead
  | creating queue pk columns user capacity => cases isRead
  | _ =>
      cases advanced
      rfl

inductive Continues (settings : RouterSettings) (database : Database) :
    RouterProgress → RouterProgress → Prop
  | route {queue : Uuid} {loaded : QueueInstance} : database.loadQueue queue = some loaded →
      Continues settings database (.loadingQueue (.routeRooms queue)) (.findingRooms loaded)
  | create {queue pk : Uuid} {columns : RoomRecord} {loaded : QueueInstance} :
      database.loadQueue queue = some loaded →
      Continues settings database (.loadingQueue (.createRoom queue pk columns))
        (.resolving loaded pk columns)
  | findRooms {queue : QueueInstance} : database.roomsToRoute queue.uuid ≠ [] →
      Continues settings database (.findingRooms queue) (.limitingAgents queue)
  | limitAgents {queue : QueueInstance} :
      Continues settings database (.limitingAgents queue)
        (.findingAgents queue (database.limit queue))
  | findAgents {queue : QueueInstance} {limit : Nat} :
      database.availableAgents settings queue limit ≠ [] →
      Continues settings database (.findingAgents queue limit) (.listing queue)
  | list {queue : QueueInstance} :
      Continues settings database (.listing queue) (.visiting
        { queue := queue
          rooms := (database.roomsToRoute queue.uuid).map fun room =>
            { pk := room.1, dateField := entryDate room.2 }
          listedAt := database.now
          passedOver := [] })
  | skip {run : RouteRun} {listed : ListedRoom} {rooms : List ListedRoom}
      {columns : RoomRecord} : run.rooms = listed :: rooms →
      database.rooms.lookup listed.pk = some columns → columns .user ≠ none →
      Continues settings database (.visiting run) (.visiting { run with rooms := rooms })
  | load {run : RouteRun} {listed : ListedRoom} {rooms : List ListedRoom}
      {columns : RoomRecord} : run.rooms = listed :: rooms →
      database.rooms.lookup listed.pk = some columns → columns .user = none →
      Continues settings database (.visiting run)
        (.readingLimit (.route { run with rooms := rooms } listed (.load columns)))
  | resolve {queue : QueueInstance} {pk : Uuid} {columns : RoomRecord} :
      database.roomsToRoute queue.uuid = [] →
      Continues settings database (.resolving queue pk columns)
        (.readingLimit (.create queue pk columns))
  | queueUp {queue : QueueInstance} {pk : Uuid} {columns : RoomRecord} :
      database.roomsToRoute queue.uuid ≠ [] →
      Continues settings database (.resolving queue pk columns)
        (.creating queue pk columns none none)
  | readLimit {purpose : Purpose} :
      Continues settings database (.readingLimit purpose)
        (.picking purpose (database.limit purpose.queue))
  | pickNone {queue : QueueInstance} {pk : Uuid} {columns : RoomRecord} {limit : Nat} :
      Continues settings database (.picking (.create queue pk columns) limit)
        (.creating queue pk columns none none)
  | pickOnly {purpose : Purpose} {limit : Nat} {agent : UserEmail} :
      Continues settings database (.picking purpose limit) (picked settings agent purpose)
  | tie {purpose : Purpose} {limit : Nat} {agents : List UserEmail} :
      Continues settings database (.picking purpose limit) (.breakingTie purpose agents)
  | leaveTie {purpose : Purpose} {limit : Nat} {agents : List UserEmail} :
      Continues settings database (.picking purpose limit) (.choosing purpose agents)
  | breakTie {purpose : Purpose} {agents least : List UserEmail} :
      Continues settings database (.breakingTie purpose agents) (.choosing purpose least)
  | choose {purpose : Purpose} {agents : List UserEmail} {agent : UserEmail} : agent ∈ agents →
      Continues settings database (.choosing purpose agents) (picked settings agent purpose)
  | findOnline {run : RouteRun} {listed : ListedRoom} {room : RoomInstance}
      {agent : UserEmail} :
      Continues settings database (.checkingOnline run listed room agent)
        (rechecking settings (.route run listed room) agent)
  | findOffline {run : RouteRun} {listed : ListedRoom} {room : RoomInstance}
      {agent : UserEmail} :
      Continues settings database (.checkingOnline run listed room agent)
        (turnedDown (.route run listed room))
  | readCustomLimit {purpose : Purpose} {agent : UserEmail} {limit : Nat} :
      database.customLimit settings agent = some limit →
      Continues settings database (.readingCustomLimit purpose agent)
        (.counting purpose agent limit)
  | useQueueLimit {purpose : Purpose} {agent : UserEmail} :
      database.customLimit settings agent = none →
      Continues settings database (.readingCustomLimit purpose agent)
        (.readingQueueLimit purpose agent)
  | readQueueLimit {purpose : Purpose} {agent : UserEmail} :
      Continues settings database (.readingQueueLimit purpose agent)
        (.counting purpose agent (database.limit purpose.queue))
  | receive {purpose : Purpose} {agent : UserEmail} {limit : Nat}
      {capacity : AgentCapacityResult} :
      capacity = ⟨database.activeRoomsCount agent purpose.queue.sector, limit⟩ →
      capacity.canReceive →
      Continues settings database (.counting purpose agent limit)
        (assigning agent (some capacity) purpose)
  | turnDown {purpose : Purpose} {agent : UserEmail} {limit : Nat} :
      Continues settings database (.counting purpose agent limit) (turnedDown purpose)
  | guard {run : RouteRun} {listed : ListedRoom} {room : RoomInstance} {agent : UserEmail}
      {capacity : Option AgentCapacityResult} :
      ¬database.IsClosed listed.pk →
      Continues settings database (.guarding run listed room agent capacity)
        (.storing run listed room agent capacity)
  | store {run : RouteRun} {listed : ListedRoom} {room : RoomInstance} {agent : UserEmail}
      {capacity : Option AgentCapacityResult} :
      Continues settings database (.storing run listed room agent capacity) (.visiting run)

section Continues

variable {settings : RouterSettings} {database after : Database}
  {progress remaining : RouterProgress} {choice : RouterChoice}

theorem continues_of_visit {run : RouteRun} (goesOn : visit database run = some remaining) :
    Continues settings database (.visiting run) remaining := by
  rw [visit] at goesOn
  split at goesOn
  · cases goesOn
  · next listed rooms isRooms =>
      split at goesOn
      · cases goesOn
      · next columns stored =>
          split at goesOn
          · next assigned =>
              cases goesOn
              exact .skip isRooms stored (Option.isSome_iff_ne_none.mp assigned)
          · next unassigned =>
              cases goesOn
              exact .load isRooms stored (Option.not_isSome_iff_eq_none.mp unassigned)

theorem continues_of_pickFrom {purpose : Purpose} {limit : Nat} {agents : List UserEmail}
    (goesOn : pickFrom settings purpose agents = some remaining) :
    Continues settings database (.picking purpose limit) remaining := by
  rw [pickFrom.eq_def] at goesOn
  split at goesOn
  · cases purpose with
    | route run listed room => cases goesOn
    | create queue pk columns =>
        cases goesOn
        exact .pickNone
  · cases goesOn
    exact .pickOnly
  · split at goesOn
    · cases goesOn
      exact .tie
    · cases goesOn
      exact .leaveTie

theorem createRoom_ends {queue : QueueInstance} {pk : Uuid} {columns : RoomRecord}
    {user : Option UserEmail} {rest : Option RouterProgress}
    (advanced : createRoom settings database queue pk columns user = some (after, rest)) :
    rest = none := by
  cases user <;>
    · rw [createRoom] at advanced
      split at advanced
      · cases advanced
        rfl
      · cases advanced

theorem continues_of_advance
    (advanced : progress.advance settings database choice = some (after, some remaining)) :
    Continues settings database progress remaining := by
  cases progress with
  | loadingQueue task =>
      cases task with
      | routeRooms queue =>
          rcases Option.map_eq_some_iff.mp (congrArg Prod.snd (Option.some.inj advanced)) with
            ⟨loaded, isLoaded, rfl⟩
          exact .route isLoaded
      | createRoom queue pk columns =>
          rcases Option.map_eq_some_iff.mp (congrArg Prod.snd (Option.some.inj advanced)) with
            ⟨loaded, isLoaded, rfl⟩
          exact .create isLoaded
  | findingRooms queue =>
      rw [advance] at advanced
      split at advanced
      · cases advanced
      · next found =>
          cases advanced
          exact .findRooms found
  | limitingAgents queue =>
      cases advanced
      exact .limitAgents
  | findingAgents queue limit =>
      rw [advance] at advanced
      split at advanced
      · cases advanced
      · next found =>
          cases advanced
          exact .findAgents found
  | listing queue =>
      cases advanced
      exact .list
  | visiting run => exact continues_of_visit (congrArg Prod.snd (Option.some.inj advanced))
  | resolving queue pk columns =>
      cases advanced
      split
      · next empty => exact .resolve empty
      · next waiting => exact .queueUp waiting
  | readingLimit purpose =>
      cases advanced
      exact .readLimit
  | picking purpose limit =>
      exact continues_of_pickFrom (congrArg Prod.snd (Option.some.inj advanced))
  | breakingTie purpose agents =>
      cases advanced
      exact .breakTie
  | choosing purpose agents =>
      cases choice with
      | goOn => cases advanced
      | pick agent =>
          rw [advance] at advanced
          split at advanced
          · next member =>
              cases advanced
              exact .choose member
          · cases advanced
  | checkingOnline run listed room agent =>
      cases advanced
      split
      · exact .findOnline
      · exact .findOffline
  | readingCustomLimit purpose agent =>
      cases advanced
      split
      · next limit isLimit => exact .readCustomLimit isLimit
      · next noLimit => exact .useQueueLimit noLimit
  | readingQueueLimit purpose agent =>
      cases advanced
      exact .readQueueLimit
  | counting purpose agent limit =>
      cases advanced
      split
      · next receives => exact .receive rfl receives
      · exact .turnDown
  | guarding run listed room agent capacity =>
      rw [advance] at advanced
      split at advanced
      · cases advanced
      · next isOpen =>
          cases advanced
          exact .guard isOpen
  | storing run listed room agent capacity =>
      cases advanced
      exact .store
  | creating queue pk columns user capacity => cases createRoom_ends advanced

end Continues

end RouterProgress

def routerProgram (settings : RouterSettings) :
    Program Database RouterProgress RouterTask RouterChoice RouterSurrounding where
  enter := RouterProgress.enter
  advance := RouterProgress.advance settings
  surround := Database.surround

abbrev RouterPool (Pid : Type) := Pool Pid Database RouterProgress

abbrev RouterEvent (Pid : Type) := PoolEvent Pid RouterTask RouterChoice RouterSurrounding

end ChatsEngine.Queues
