import ChatsEngine.Foundation.Table
import ChatsEngine.Rooms.PinnedLists

/-! # Who has access to a room

The list of rooms, the permission on a single room, the check of its history and the one of its
websocket group each ask the authorizations in a way of their own. Sectors and queues are only
marked as deleted, and some of the queries leave deleted sectors out. -/

namespace ChatsEngine.Rooms

/-! ## Tables -/

structure AccessSector where
  project : Uuid
  isDeleted : Bool
deriving DecidableEq, Repr

structure AccessPermission where
  project : Uuid
  user : Option UserEmail
  role : Nat
  isDeleted : Bool
deriving DecidableEq, Repr

/-- A row of `SectorAuthorization` or of `QueueAuthorization`, for a sector or for a queue. -/
structure AccessAuthorization where
  permission : Uuid
  target : Uuid
  role : Nat
  isDeleted : Bool
deriving DecidableEq, Repr

structure RoomAccessTables where
  sectors : Table Uuid AccessSector
  /-- The sector of each queue, deleted ones included. -/
  queues : Table Uuid Uuid
  permissions : Table Uuid AccessPermission
  sectorAuthorizations : List AccessAuthorization
  queueAuthorizations : List AccessAuthorization

def roleAdmin : Nat := 1

def roleManager : Nat := 1

abbrev StoredPermission := (_ : Uuid) × AccessPermission

namespace RoomAccessTables

variable (tables : RoomAccessTables)

/-! ## Permissions -/

/-- `project.get_permission(user)`, or `user.project_permissions.get(project)`. -/
def getPermission (user : UserEmail) (project : Uuid) : Option StoredPermission :=
  tables.permissions.entries.find? fun entry =>
    entry.2.user = some user ∧ entry.2.project = project ∧ entry.2.isDeleted = false

/-- What the managers of the authorizations keep. -/
def live (authorizations : List AccessAuthorization) : List AccessAuthorization :=
  authorizations.filter fun authorization => authorization.isDeleted = false ∧
    (tables.permissions.lookup authorization.permission).any (·.isDeleted = false)

/-- `self.sector_authorizations` -/
def sectorAuthorizationsOf (permission : StoredPermission) : List AccessAuthorization :=
  (tables.live tables.sectorAuthorizations).filter (·.permission = permission.1)

/-- `self.queue_authorizations` -/
def queueAuthorizationsOf (permission : StoredPermission) : List AccessAuthorization :=
  (tables.live tables.queueAuthorizations).filter (·.permission = permission.1)

def isAdmin (permission : StoredPermission) : Bool :=
  permission.2.role = roleAdmin

/-- `self.sector_authorizations.get(sector__uuid=sector)` -/
def sectorAuthorization (permission : StoredPermission) (sector : Uuid) :
    Option AccessAuthorization :=
  (tables.sectorAuthorizationsOf permission).find? (·.target = sector)

def isManager (permission : StoredPermission) (sector : Uuid) : Bool :=
  isAdmin permission ||
    (tables.sectorAuthorization permission sector).any (·.role = roleManager)

/-- `is_manager(any_sector=True)` -/
def isManagerOfAny (permission : StoredPermission) : Bool :=
  isAdmin permission || !(tables.sectorAuthorizationsOf permission).isEmpty

def isAuthorizedInQueue (permission : StoredPermission) (queue : Uuid) : Bool :=
  (tables.queueAuthorizationsOf permission).any (·.target = queue)

/-- `self.project.sectors.get(queues=queue)`, which does not find deleted sectors. -/
def liveSectorOf (project queue : Uuid) : Option Uuid :=
  (tables.queues.lookup queue).filter fun sector =>
    (tables.sectors.lookup sector).any fun row => row.project = project ∧ row.isDeleted = false

/-- `is_agent(queue)`, which raises where the sector or the authorization is not found. -/
def isAgent (permission : StoredPermission) (queue : Uuid) : Option Bool :=
  if isAdmin permission then some true
  else
    match tables.liveSectorOf permission.2.project queue with
    | none => none
    | some sector =>
        if tables.isManager permission sector then some true
        else if tables.isAuthorizedInQueue permission queue then some true
        else none

def sectorManagerQueues (permission : StoredPermission) : List Uuid :=
  (tables.queues.entries.filter fun queue =>
    (tables.sectorAuthorizationsOf permission).any (·.target = queue.2)).map (·.1)

def queueIds (permission : StoredPermission) : List Uuid :=
  if isAdmin permission then
    (tables.queues.entries.filter fun queue =>
      (tables.sectors.lookup queue.2).any fun row =>
        row.project = permission.2.project ∧ row.isDeleted = false).map (·.1)
  else
    tables.sectorManagerQueues permission ++
      ((tables.queueAuthorizationsOf permission).filter fun authorization =>
        authorization.target ∉ tables.sectorManagerQueues permission ∧
          authorization.role ≠ 2).map AccessAuthorization.target

def listPermission (user : UserEmail) (project : Uuid) : Option ListPermission :=
  (tables.getPermission user project).map fun permission =>
    { isAdmin := isAdmin permission, queueIds := tables.queueIds permission }

/-! ## The checks of a room -/

def hasObjectPermission (user : UserEmail) (room : ListRoom) : Bool :=
  if room.user = some user then true
  else
    match tables.getPermission user room.project with
    | none => false
    | some permission =>
        match tables.isAgent permission room.queue with
        | some granted => granted
        | none => tables.isManagerOfAny permission

/-- The room is in the queryset of the view, and the permission is granted. -/
def opens (user : UserEmail) (room : ListRoom) : Bool :=
  (tables.getPermission user room.project).isSome && tables.hasObjectPermission user room

/-- `queue.is_agent(user)` -/
def queueHasAgent (user : UserEmail) (queue : Uuid) : Bool :=
  (tables.live tables.queueAuthorizations).any fun authorization =>
    authorization.target = queue ∧
      (tables.permissions.lookup authorization.permission).any (·.user = some user)

/-- `sector.is_manager(user)` for the sector of the queue. -/
def sectorHasManager (permission : StoredPermission) (queue : Uuid) : Bool :=
  isAdmin permission || (tables.queues.lookup queue).any fun sector =>
    (tables.sectorAuthorizationsOf permission).any (·.target = sector)

def canRetrieve (user : UserEmail) (room : ListRoom) : Bool :=
  match tables.getPermission user room.project with
  | none => false
  | some permission =>
      isAdmin permission || room.user = some user || tables.queueHasAgent user room.queue ||
        tables.sectorHasManager permission room.queue

/-- `WSJoinValidator.validate_room` for the permission of the connection. -/
def validateRoom (permission : StoredPermission) (room : ListRoom) : Option Bool :=
  if room.user = permission.2.user then some true
  else if room.user ≠ none then some false
  else tables.isAgent permission room.queue

/-! ## What the checks come to -/

variable {tables} {permission : StoredPermission} {user : UserEmail} {room : ListRoom}
  {project sector queue : Uuid}

theorem getPermission_eq_some (found : tables.getPermission user project = some permission) :
    tables.permissions.lookup permission.1 = some permission.2 ∧ permission.2.user = some user ∧
      permission.2.project = project := by
  have meets := List.find?_some found
  simp only [decide_eq_true_eq] at meets
  exact ⟨Table.mem_entries_iff.mp (List.mem_of_find?_eq_some found), meets.1, meets.2.1⟩

theorem isManagerOfAny_of_authorization {authorization : AccessAuthorization}
    (member : authorization ∈ tables.sectorAuthorizationsOf permission) :
    tables.isManagerOfAny permission := by
  rw [isManagerOfAny, Bool.or_eq_true, Bool.not_eq_true', List.isEmpty_eq_false_iff]
  exact .inr (List.ne_nil_of_mem member)

theorem authorization_of_isManager (manages : tables.isManager permission sector) :
    isAdmin permission ∨
      ∃ authorization ∈ tables.sectorAuthorizationsOf permission, authorization.target = sector := by
  rw [isManager, Bool.or_eq_true] at manages
  rcases manages with admin | manager
  · exact .inl admin
  · cases found : tables.sectorAuthorization permission sector with
    | none =>
        rw [found] at manager
        cases manager
    | some authorization =>
        refine .inr ⟨authorization, List.mem_of_find?_eq_some found, ?_⟩
        simpa using List.find?_some found

theorem isManagerOfAny_of_isManager (manages : tables.isManager permission sector) :
    tables.isManagerOfAny permission := by
  rcases authorization_of_isManager manages with admin | ⟨authorization, member, _⟩
  · rw [isManagerOfAny, admin, Bool.true_or]
  · exact isManagerOfAny_of_authorization member

theorem queueHasAgent_of_isAuthorizedInQueue
    (stored : tables.permissions.lookup permission.1 = some permission.2)
    (ofUser : permission.2.user = some user)
    (authorized : tables.isAuthorizedInQueue permission queue) :
    tables.queueHasAgent user queue := by
  rcases List.any_eq_true.mp authorized with ⟨authorization, member, target⟩
  rw [queueAuthorizationsOf, List.mem_filter, decide_eq_true_eq] at member
  rw [queueHasAgent, List.any_eq_true]
  refine ⟨authorization, member.1, ?_⟩
  rw [decide_eq_true_eq] at target ⊢
  refine ⟨target, ?_⟩
  rw [member.2, stored, Option.any_some, decide_eq_true_eq]
  exact ofUser

theorem isAgent_eq_some_true_iff : tables.isAgent permission queue = some true ↔
    isAdmin permission ∨ ∃ sector, tables.liveSectorOf permission.2.project queue = some sector ∧
      (tables.isManager permission sector ∨ tables.isAuthorizedInQueue permission queue) := by
  rw [isAgent]
  split
  · next admin => simp [admin]
  · next notAdmin =>
      split
      · next noSector => simp [notAdmin, noSector]
      · next sector isSector =>
          simp only [notAdmin, isSector, Option.some.injEq, exists_eq_left']
          split
          · next manages => simp [manages]
          · next notManages =>
              split
              · next authorized => simp [authorized]
              · next notAuthorized => simp [notManages, notAuthorized]

theorem isAgent_ne_some_false : tables.isAgent permission queue ≠ some false := by
  rw [isAgent]
  split
  · simp
  · split
    · simp
    · split
      · simp
      · split <;> simp

/-- The permission of a room is granted to its user, to whoever has an authorization for any sector,
and to those that are authorized in the queue while its sector is not deleted. -/
theorem hasObjectPermission_iff
    (found : tables.getPermission user room.project = some permission) :
    tables.hasObjectPermission user room = true ↔
      room.user = some user ∨ tables.isManagerOfAny permission = true ∨
        (tables.liveSectorOf room.project room.queue ≠ none ∧
          tables.isAuthorizedInQueue permission room.queue = true) := by
  have ofProject := (getPermission_eq_some found).2.2
  rw [hasObjectPermission]
  split
  · next own => simp [own]
  · next notOwn =>
      simp only [found, notOwn, false_or]
      cases agent : tables.isAgent permission room.queue with
      | none =>
          have isNot : ¬tables.isAgent permission room.queue = some true := by simp [agent]
          rw [isAgent_eq_some_true_iff, ofProject] at isNot
          constructor
          · exact .inl
          · rintro (manages | ⟨isLive, authorized⟩)
            · exact manages
            · rcases Option.ne_none_iff_exists'.mp isLive with ⟨sector, isSector⟩
              exact absurd (.inr ⟨sector, isSector, .inr authorized⟩) isNot
      | some granted =>
          cases granted with
          | false => exact absurd agent isAgent_ne_some_false
          | true =>
              simp only [true_iff]
              rcases isAgent_eq_some_true_iff.mp agent with admin | ⟨sector, isSector, granted⟩
              · exact .inl (by rw [isManagerOfAny, admin, Bool.true_or])
              · rw [ofProject] at isSector
                rcases granted with manages | authorized
                · exact .inl (isManagerOfAny_of_isManager manages)
                · exact .inr ⟨by rw [isSector]; simp, authorized⟩

theorem opens_iff (found : tables.getPermission user room.project = some permission) :
    tables.opens user room = true ↔
      room.user = some user ∨ tables.isManagerOfAny permission = true ∨
        (tables.liveSectorOf room.project room.queue ≠ none ∧
          tables.isAuthorizedInQueue permission room.queue = true) := by
  rw [opens, found, Option.isSome_some, Bool.true_and, hasObjectPermission_iff found]

theorem canRetrieve_iff (found : tables.getPermission user room.project = some permission) :
    tables.canRetrieve user room = true ↔
      isAdmin permission = true ∨ room.user = some user ∨
        tables.queueHasAgent user room.queue = true ∨
          tables.sectorHasManager permission room.queue = true := by
  rw [canRetrieve, found]
  simp only [Bool.or_eq_true, decide_eq_true_eq, or_assoc]

/-! ## The list -/

/-- The lists read the permissions from the tables. -/
def ListsFrom (lists : RoomListTables) (tables : RoomAccessTables) : Prop :=
  lists.permissions = tables.listPermission

theorem shown_of_passes {Order : Type} {request : ListRequest Order}
    (passes : RoomListTables.passesPermission request user
      { isAdmin := isAdmin permission, queueIds := tables.queueIds permission } room = true) :
    room.user = some user ∨ room.user = none ∧ room.queue ∈ tables.queueIds permission := by
  simp only [RoomListTables.passesPermission] at passes
  split at passes
  · rcases of_decide_eq_true passes with ⟨own | unassigned, _, inQueue⟩
    · exact .inl own
    · exact .inr ⟨unassigned, inQueue⟩
  · rcases of_decide_eq_true passes with ⟨⟨own, _⟩ | unassigned, _⟩
    · exact .inl own
    · exact .inr unassigned

theorem mem_sectorManagerQueues_iff : queue ∈ tables.sectorManagerQueues permission ↔
    ∃ sector, tables.queues.lookup queue = some sector ∧
      ∃ authorization ∈ tables.sectorAuthorizationsOf permission, authorization.target = sector := by
  simp only [sectorManagerQueues, List.mem_map, List.mem_filter, List.any_eq_true,
    decide_eq_true_eq]
  constructor
  · rintro ⟨entry, ⟨stored, authorized⟩, rfl⟩
    exact ⟨entry.2, Table.mem_entries_iff.mp stored, authorized⟩
  · rintro ⟨sector, stored, authorized⟩
    exact ⟨⟨queue, sector⟩, ⟨Table.mem_entries_iff.mpr stored, authorized⟩, rfl⟩

theorem authorized_of_mem_queueIds (notAdmin : ¬isAdmin permission)
    (member : queue ∈ tables.queueIds permission) :
    queue ∈ tables.sectorManagerQueues permission ∨ tables.isAuthorizedInQueue permission queue := by
  rw [queueIds, if_neg notAdmin, List.mem_append] at member
  rcases member with managed | represented
  · exact .inl managed
  · rcases List.mem_map.mp represented with ⟨authorization, isMember, rfl⟩
    right
    rw [isAuthorizedInQueue, List.any_eq_true]
    exact ⟨authorization, (List.mem_filter.mp isMember).1, decide_eq_true rfl⟩

/-- The room waits in a deleted sector, for a representative who has no authorization but in
queues. -/
def IsStranded (tables : RoomAccessTables) (permission : StoredPermission) (room : ListRoom) :
    Prop :=
  room.user = none ∧ tables.isManagerOfAny permission = false ∧
    tables.liveSectorOf room.project room.queue = none

theorem retrieves_of_shown (found : tables.getPermission user room.project = some permission)
    (shown : room.user = some user ∨ room.user = none ∧ room.queue ∈ tables.queueIds permission) :
    tables.canRetrieve user room = true := by
  rcases getPermission_eq_some found with ⟨stored, ofUser, _⟩
  rw [canRetrieve_iff found]
  rcases shown with own | ⟨_, inQueue⟩
  · exact .inr (.inl own)
  · by_cases admin : isAdmin permission
    · exact .inl admin
    · rcases authorized_of_mem_queueIds admin inQueue with managed | represented
      · rcases mem_sectorManagerQueues_iff.mp managed with
          ⟨sector, isSector, authorization, member, target⟩
        have manager : tables.sectorHasManager permission room.queue := by
          rw [sectorHasManager, isSector, Option.any_some, Bool.or_eq_true, List.any_eq_true]
          exact .inr ⟨authorization, member, decide_eq_true target⟩
        exact .inr (.inr (.inr manager))
      · exact .inr (.inr (.inl (queueHasAgent_of_isAuthorizedInQueue stored ofUser represented)))

theorem opens_iff_of_shown (found : tables.getPermission user room.project = some permission)
    (shown : room.user = some user ∨ room.user = none ∧ room.queue ∈ tables.queueIds permission) :
    tables.opens user room = true ↔ ¬IsStranded tables permission room := by
  rw [opens_iff found]
  constructor
  · rintro (own | manages | ⟨isLive, _⟩) ⟨unassigned, managesNone, deleted⟩
    · rw [unassigned] at own
      cases own
    · rw [managesNone] at manages
      cases manages
    · exact isLive deleted
  · intro notStranded
    rcases shown with own | ⟨unassigned, inQueue⟩
    · exact .inl own
    · right
      by_cases manages : tables.isManagerOfAny permission = true
      · exact .inl manages
      · right
        refine ⟨fun deleted => notStranded ⟨unassigned, Bool.eq_false_iff.mpr manages, deleted⟩, ?_⟩
        have notAdmin : ¬isAdmin permission := fun admin =>
          manages (by rw [isManagerOfAny, admin, Bool.true_or])
        rcases authorized_of_mem_queueIds notAdmin inQueue with managed | represented
        · rcases mem_sectorManagerQueues_iff.mp managed with ⟨_, _, _, member, _⟩
          exact absurd (isManagerOfAny_of_authorization member) manages
        · exact represented

/-- A room of the project that the list shows to a user lets its history be retrieved, and can be
opened unless it is stranded. -/
theorem listed_room_can_be_opened {Order : Type} [LinearOrder Order] {text : EmailText}
    {lists : RoomListTables} {request : ListRequest Order} {passes : ListRoom → Bool}
    (reads : ListsFrom lists tables) (own : request.email = none)
    (lowercase : text.lower request.user = request.user)
    (filters : lists.filterProject text request = some passes) (shown : passes room = true)
    (ofProject : room.project = request.project) :
    ∃ permission, tables.getPermission request.user room.project = some permission ∧
      tables.canRetrieve request.user room = true ∧
        (tables.opens request.user room = true ↔ ¬IsStranded tables permission room) := by
  rw [ListsFrom] at reads
  simp only [RoomListTables.filterProject, own, reads, listPermission] at filters
  cases found : tables.getPermission request.user request.project with
  | none =>
      rw [found] at filters
      cases filters
      cases shown
  | some permission =>
      rw [found, lowercase] at filters
      cases filters
      rw [← ofProject] at found
      refine ⟨permission, found, ?_, ?_⟩
      · exact retrieves_of_shown found (shown_of_passes shown)
      · exact opens_iff_of_shown found (shown_of_passes shown)

/-! ## The checks compared -/

/-- The project of the room is that of the sector of its queue. -/
def InProject (tables : RoomAccessTables) (room : ListRoom) : Prop :=
  ∀ sector row, tables.queues.lookup room.queue = some sector →
    tables.sectors.lookup sector = some row → row.project = room.project

structure ChecksCompare (tables : RoomAccessTables) (user : UserEmail) (room : ListRoom)
    (connection : StoredPermission) : Prop where
  /-- Whoever may follow the room from its project may open it and retrieve its history. -/
  follows : connection.2.project = room.project → tables.validateRoom connection room = some true →
    tables.opens user room = true ∧ tables.canRetrieve user room = true
  /-- From another project the user of the room follows it, and an admin of that project follows it
  while it waits. -/
  followsElsewhere : connection.2.project ≠ room.project →
    (tables.validateRoom connection room = some true ↔
      room.user = some user ∨ room.user = none ∧ isAdmin connection = true)
  /-- Who may open the room, but not retrieve its history, has an authorization for other sectors
  only. -/
  opensOnly : (tables.opens user room = true ∧ tables.canRetrieve user room = false) ↔
    ∃ permission, tables.getPermission user room.project = some permission ∧
      isAdmin permission = false ∧ room.user ≠ some user ∧
        tables.isManagerOfAny permission = true ∧
          tables.queueHasAgent user room.queue = false ∧
            tables.sectorHasManager permission room.queue = false
  /-- Who may retrieve the history, but not open the room, is authorized in its queue only, and the
  sector is deleted or the authorization is that of another project. -/
  retrievesOnly : (tables.canRetrieve user room = true ∧ tables.opens user room = false) ↔
    ∃ permission, tables.getPermission user room.project = some permission ∧
      room.user ≠ some user ∧ tables.isManagerOfAny permission = false ∧
        tables.queueHasAgent user room.queue = true ∧
          (tables.liveSectorOf room.project room.queue = none ∨
            tables.isAuthorizedInQueue permission room.queue = false)

theorem opens_of_validateRoom (found : tables.getPermission user room.project = some permission)
    (follows : tables.validateRoom permission room = some true) :
    tables.opens user room = true ∧ tables.canRetrieve user room = true := by
  rcases getPermission_eq_some found with ⟨stored, ofUser, ofProject⟩
  rw [opens_iff found, canRetrieve_iff found]
  simp only [validateRoom, ofUser] at follows
  split at follows
  · next own => exact ⟨.inl own, .inr (.inl own)⟩
  · split at follows
    · cases follows
    · rcases isAgent_eq_some_true_iff.mp follows with admin | ⟨sector, isSector, manages | authorized⟩
      · exact ⟨.inr (.inl (by rw [isManagerOfAny, admin, Bool.true_or])), .inl admin⟩
      · refine ⟨.inr (.inl (isManagerOfAny_of_isManager manages)), ?_⟩
        rcases authorization_of_isManager manages with admin | ⟨authorization, member, target⟩
        · exact .inl admin
        · have ofQueue : tables.queues.lookup room.queue = some sector :=
            (Option.filter_eq_some_iff.mp isSector).1
          have manager : tables.sectorHasManager permission room.queue := by
            rw [sectorHasManager, ofQueue, Option.any_some, Bool.or_eq_true, List.any_eq_true]
            exact .inr ⟨authorization, member, decide_eq_true target⟩
          exact .inr (.inr (.inr manager))
      · rw [ofProject] at isSector
        exact ⟨.inr (.inr ⟨by rw [isSector]; simp, authorized⟩),
          .inr (.inr (.inl (queueHasAgent_of_isAuthorizedInQueue stored ofUser authorized)))⟩

theorem validateRoom_elsewhere {connection : StoredPermission}
    (ofUser : connection.2.user = some user) (inProject : tables.InProject room)
    (elsewhere : connection.2.project ≠ room.project) :
    tables.validateRoom connection room = some true ↔
      room.user = some user ∨ room.user = none ∧ isAdmin connection = true := by
  rw [validateRoom, ofUser]
  split
  · next own => simp [own]
  · next notOwn =>
      split
      · next assigned => simp [notOwn, assigned]
      · next unassigned =>
          rw [not_not] at unassigned
          have noSector : tables.liveSectorOf connection.2.project room.queue = none := by
            rw [liveSectorOf, Option.filter_eq_none_iff]
            intro sector isSector live
            rcases Option.any_eq_true .. |>.mp live with ⟨row, isRow, ofConnection⟩
            rw [decide_eq_true_eq] at ofConnection
            exact elsewhere (ofConnection.1.symm.trans (inProject sector row isSector isRow))
          rw [isAgent_eq_some_true_iff, noSector]
          simp [unassigned]

theorem isManagerOfAny_of_sectorHasManager
    (manages : tables.sectorHasManager permission queue = true) :
    tables.isManagerOfAny permission = true := by
  rw [sectorHasManager, Bool.or_eq_true] at manages
  rcases manages with admin | authorized
  · rw [isManagerOfAny, admin, Bool.true_or]
  · cases isSector : tables.queues.lookup queue with
    | none =>
        rw [isSector] at authorized
        cases authorized
    | some sector =>
        rw [isSector, Option.any_some, List.any_eq_true] at authorized
        rcases authorized with ⟨authorization, member, _⟩
        exact isManagerOfAny_of_authorization member

/-- The two checks of a request differ for a user with a permission in the project of the room. -/
theorem request_checks_differ (found : tables.getPermission user room.project = some permission) :
    ((tables.opens user room = true ∧ tables.canRetrieve user room = false) ↔
        isAdmin permission = false ∧ room.user ≠ some user ∧
          tables.isManagerOfAny permission = true ∧
            tables.queueHasAgent user room.queue = false ∧
              tables.sectorHasManager permission room.queue = false) ∧
      ((tables.canRetrieve user room = true ∧ tables.opens user room = false) ↔
        room.user ≠ some user ∧ tables.isManagerOfAny permission = false ∧
          tables.queueHasAgent user room.queue = true ∧
            (tables.liveSectorOf room.project room.queue = none ∨
              tables.isAuthorizedInQueue permission room.queue = false)) := by
  rcases getPermission_eq_some found with ⟨stored, ofUser, _⟩
  have represents : tables.isAuthorizedInQueue permission room.queue = true →
      tables.queueHasAgent user room.queue = true :=
    queueHasAgent_of_isAuthorizedInQueue stored ofUser
  constructor
  · simp only [← Bool.not_eq_true, opens_iff found, canRetrieve_iff found, not_or]
    constructor
    · rintro ⟨own | managesAny | ⟨_, authorized⟩, notAdmin, notOwn, noAgent, noManager⟩
      · exact absurd own notOwn
      · exact ⟨notAdmin, notOwn, managesAny, noAgent, noManager⟩
      · exact absurd (represents authorized) noAgent
    · rintro ⟨notAdmin, notOwn, managesAny, noAgent, noManager⟩
      exact ⟨.inr (.inl managesAny), notAdmin, notOwn, noAgent, noManager⟩
  · simp only [← Bool.not_eq_true, opens_iff found, canRetrieve_iff found, not_or, not_and_or,
      not_not]
    constructor
    · rintro ⟨admin | own | represented | manager, notOwn, managesNone, unavailable⟩
      · exact absurd (by rw [isManagerOfAny, admin, Bool.true_or]) managesNone
      · exact absurd own notOwn
      · exact ⟨notOwn, managesNone, represented, unavailable⟩
      · exact absurd (isManagerOfAny_of_sectorHasManager manager) managesNone
    · rintro ⟨notOwn, managesNone, represented, unavailable⟩
      exact ⟨.inr (.inr (.inl represented)), notOwn, managesNone, unavailable⟩

theorem room_checks_compare {connected : Uuid} {connection : StoredPermission}
    (inProject : tables.InProject room)
    (found : tables.getPermission user connected = some connection) :
    ChecksCompare tables user room connection := by
  rcases getPermission_eq_some found with ⟨_, ofUser, ofConnected⟩
  refine ⟨fun sameProject => ?_, validateRoom_elsewhere ofUser inProject, ?_, ?_⟩
  · rw [← ofConnected, sameProject] at found
    exact opens_of_validateRoom found
  · cases inRoom : tables.getPermission user room.project with
    | none => simp [opens, inRoom]
    | some permission =>
        simp only [Option.some.injEq, exists_eq_left']
        exact (request_checks_differ inRoom).1
  · cases inRoom : tables.getPermission user room.project with
    | none => simp [canRetrieve, inRoom]
    | some permission =>
        simp only [Option.some.injEq, exists_eq_left']
        exact (request_checks_differ inRoom).2

end RoomAccessTables

/-! ## A room of a deleted sector -/

/-- Sector 3 is there and sector 4 is deleted. Ada represents a queue of each, and is an admin of
another project. -/
def sharedTables : RoomAccessTables where
  sectors := AList.singleton 3 ⟨7, false⟩ |>.insert 4 ⟨7, true⟩
  queues := AList.singleton 30 3 |>.insert 40 4
  permissions := AList.singleton 1 ⟨7, some "ada@weni.ai", 2, false⟩ |>.insert 2
    ⟨8, some "ada@weni.ai", 1, false⟩
  sectorAuthorizations := []
  queueAuthorizations := [⟨1, 30, 1, false⟩, ⟨1, 40, 1, false⟩]

def unassignedRoom (queue : Uuid) : ListRoom where
  pk := queue + 100
  user := none
  queue := queue
  project := 7
  projectUuid := some 7
  isActive := true

def sharedLists : RoomListTables where
  rooms := [unassignedRoom 30, unassignedRoom 40]
  users := ["ada@weni.ai"]
  permissions := sharedTables.listPermission
  pins := []
  roomsDistinct := by decide
  pinUsers := fun _ member => by cases member
  pinsDistinct := List.nodup_nil
  pinsUnique := List.nodup_nil

def ownList : ListRequest Nat where
  user := "ada@weni.ai"
  project := 7
  email := none
  isValid := true
  matching := fun _ => true
  ordering := ListRoom.pk
  limit := 20
  includePinned := true
  limit_positive := by decide

theorem deleted_sector_strands_room :
    sharedTables.canRetrieve "ada@weni.ai" (unassignedRoom 40) = true ∧
      sharedTables.opens "ada@weni.ai" (unassignedRoom 40) = false ∧
        sharedTables.opens "ada@weni.ai" (unassignedRoom 30) = true := by
  rcases @RoomAccessTables.listed_room_can_be_opened sharedTables (unassignedRoom 40) Nat _ ⟨id, id⟩
    sharedLists ownList _ rfl rfl rfl rfl (by decide +kernel) rfl with ⟨_, _, retrieves, _⟩
  exact ⟨retrieves, by decide +kernel, by decide +kernel⟩

theorem sharedTables_inProject (queue : Uuid) : sharedTables.InProject (unassignedRoom queue) := by
  intro sector row _ isRow
  have stored : (⟨sector, row⟩ : (_ : Uuid) × AccessSector) ∈ sharedTables.sectors.entries :=
    Table.mem_entries_iff.mpr isRow
  have everyRow : ∀ entry ∈ sharedTables.sectors.entries, entry.2.project = 7 := by decide +kernel
  exact everyRow _ stored

/-- The admin of another project follows the stranded room, and may not open it. -/
theorem checks_of_stranded_room :
    sharedTables.validateRoom ⟨2, 8, some "ada@weni.ai", 1, false⟩ (unassignedRoom 40) = some true ∧
      sharedTables.opens "ada@weni.ai" (unassignedRoom 40) = false := by
  have compare : RoomAccessTables.ChecksCompare sharedTables "ada@weni.ai" (unassignedRoom 40)
      ⟨2, 8, some "ada@weni.ai", 1, false⟩ :=
    @RoomAccessTables.room_checks_compare sharedTables _ _ 8 _ (sharedTables_inProject 40)
      (by decide +kernel)
  exact ⟨(compare.followsElsewhere (by decide)).mpr (.inr ⟨rfl, rfl⟩), by decide +kernel⟩

end ChatsEngine.Rooms
