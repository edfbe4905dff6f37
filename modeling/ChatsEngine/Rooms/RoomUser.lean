import ChatsEngine.Queues.AgentChoice

/-! # The user of a new room

`ResolveRoomUserUseCase` looks for a user in four places, one after the other: the last
flow start of the contact, the user that the contact is linked to, the user of the
request, and the agents of the queue. Each of them finds out in its own way who is
online. -/

namespace ChatsEngine.Rooms

open ChatsEngine.Projects ChatsEngine.Queues

structure UserlessPermission where
  uuid : Uuid
  project : Uuid
  status : UserStatus
  isDeleted : Bool
deriving DecidableEq, Repr

structure LinkContact where
  contact : Uuid
  project : Uuid
  user : Option UserEmail
deriving DecidableEq, Repr

structure LastFlowStart where
  permission : Option Uuid
  createdOn : Instant
deriving DecidableEq, Repr

structure RoomUserTables where
  database : Database
  userlessPermissions : List UserlessPermission
  linkContacts : List LinkContact

/-- A permission as a foreign key loads it. -/
structure LoadedPermission where
  project : Uuid
  user : Option UserEmail
  status : UserStatus
  isDeleted : Bool
deriving DecidableEq, Repr

inductive ResolveError
  /-- The permission is `None`. -/
  | attributeError
  | permissionDoesNotExist
  | multipleObjectsReturned
deriving DecidableEq, Repr

structure RoomUser where
  user : Option UserEmail
  startsRouting : Bool
deriving DecidableEq, Repr

structure ResolveRoomUserUseCase where
  settings : RouterSettings
  queue : QueueInstance
  useQueuePriorityRouting : Bool
deriving DecidableEq, Repr

structure RoomUserRequest where
  contact : Uuid
  user : Option UserEmail
  isCreated : Bool
  lastFlowStart : Option LastFlowStart
deriving DecidableEq, Repr

/-- `QuerySet.get`, which finds no row in the first case. -/
def getRow {Row : Type} : List Row → Except ResolveError (Option Row)
  | [] => .ok none
  | [row] => .ok (some row)
  | _ => .error .multipleObjectsReturned

namespace RoomUserTables

variable (tables : RoomUserTables)

/-- The permission that a foreign key refers to. The manager that loads it leaves out no
rows. -/
def loadPermission (uuid : Uuid) : Except ResolveError LoadedPermission :=
  match tables.database.permissions.find? fun permission => permission.uuid = uuid with
  | some permission =>
      .ok
        { project := permission.project, user := some permission.user
          status := permission.status, isDeleted := permission.isDeleted }
  | none =>
      match tables.userlessPermissions.find? fun permission => permission.uuid = uuid with
      | some permission =>
          .ok
            { project := permission.project, user := none
              status := permission.status, isDeleted := permission.isDeleted }
      | none => .error .permissionDoesNotExist

/-- `project.permissions`, for a user. -/
def permissionsOf (project : Uuid) (user : UserEmail) : List ProjectPermission :=
  tables.database.permissions.filter fun permission =>
    permission.isDeleted = false ∧ permission.project = project ∧ permission.user = user

def getLinkedUser (project contact : Uuid) : Except ResolveError (Option LinkContact) :=
  getRow (tables.linkContacts.filter fun link => link.contact = contact ∧ link.project = project)

def isOnline (link : LinkContact) : Except ResolveError Bool :=
  match link.user with
  | none => .ok false
  | some user =>
      match getRow (tables.permissionsOf link.project user) with
      | .ok none => .ok false
      | .ok (some permission) => .ok (permission.status = .online)
      | .error error => .error error

def HasNewerRoom (contact : Uuid) (flowStart : LastFlowStart) : Prop :=
  ∃ room ∈ tables.database.rooms.entries, room.2 .contact = some contact ∧
    (∃ queue ∈ room.2 .queue, (tables.database.sectorOf queue).isSome) ∧
    flowStart.createdOn < room.2 .createdOn

instance (contact : Uuid) (flowStart : LastFlowStart) :
    Decidable (tables.HasNewerRoom contact flowStart) :=
  inferInstanceAs (Decidable (∃ room ∈ tables.database.rooms.entries, _))

end RoomUserTables

namespace ResolveRoomUserUseCase

section Execution

variable (useCase : ResolveRoomUserUseCase) (tables : RoomUserTables)

def rechecked (agent : UserEmail) : Option UserEmail :=
  if useCase.settings.agentCapacityRecheck = true ∧
      ¬(tables.database.canAgentReceiveRoom useCase.settings useCase.queue agent).canReceive then
    none
  else some agent

/-- `_resolve_queue_priority`, where `picked` is what `get_available_agent` returns. -/
def resolveQueuePriority (picked : Option UserEmail) : RoomUser :=
  if tables.database.rooms.count (Waits useCase.queue.uuid) = 0 then
    match picked with
    | none => { user := none, startsRouting := false }
    | some agent =>
        match useCase.rechecked tables agent with
        | some agent => { user := some agent, startsRouting := false }
        | none => { user := none, startsRouting := true }
  else { user := none, startsRouting := true }

def resolveGeneral (picked : Option UserEmail) : RoomUser :=
  if tables.database.rooms.count (Waits useCase.queue.uuid) = 0 then
    { user := picked.bind (useCase.rechecked tables), startsRouting := false }
  else { user := none, startsRouting := false }

def resolveRouting (picked : Option UserEmail) : RoomUser :=
  if useCase.useQueuePriorityRouting then useCase.resolveQueuePriority tables picked
  else useCase.resolveGeneral tables picked

variable (request : RoomUserRequest)

def resolveFlowStart (otherwise : Except ResolveError RoomUser) : Except ResolveError RoomUser :=
  match request.lastFlowStart with
  | none => otherwise
  | some flowStart =>
      if request.isCreated = true ∨ ¬tables.HasNewerRoom request.contact flowStart then
        match flowStart.permission with
        | none => .error .attributeError
        | some uuid =>
            match tables.loadPermission uuid with
            | .error error => .error error
            | .ok permission =>
                if permission.status = .online then
                  .ok { user := permission.user, startsRouting := false }
                else otherwise
      else otherwise

def resolveLinkedUser (otherwise : Except ResolveError RoomUser) :
    Except ResolveError RoomUser :=
  if request.isCreated then otherwise
  else
    match tables.getLinkedUser useCase.settings.project request.contact with
    | .error error => .error error
    | .ok none => otherwise
    | .ok (some link) =>
        match tables.isOnline link with
        | .error error => .error error
        | .ok true => .ok { user := link.user, startsRouting := false }
        | .ok false => otherwise

def resolveRequested (otherwise : RoomUser) : RoomUser :=
  match request.user with
  | none => otherwise
  | some user =>
      if ∃ permission ∈ tables.permissionsOf useCase.settings.project user,
          permission.status = .online then
        { user := some user, startsRouting := false }
      else otherwise

def execute (picked : Option UserEmail) : Except ResolveError RoomUser :=
  resolveFlowStart tables request
    (useCase.resolveLinkedUser tables request
      (.ok (useCase.resolveRequested tables request (useCase.resolveRouting tables picked))))

end Execution

end ResolveRoomUserUseCase

/-! ## What is asked of the user -/

namespace RoomUserTables

variable (settings : RouterSettings) (tables : RoomUserTables)

/-- At most one permission per user and project, and at most one link per contact and
project. -/
structure Constrained (tables : RoomUserTables) : Prop where
  permissions : tables.database.permissions.Pairwise fun left right =>
    left.user = right.user → left.project ≠ right.project
  links : tables.linkContacts.Pairwise fun left right =>
    left.contact = right.contact → left.project ≠ right.project

def OnlineInProject (user : UserEmail) : Prop :=
  ∃ permission ∈ tables.database.permissions, permission.isDeleted = false ∧
    permission.user = user ∧ permission.project = settings.project ∧ permission.status = .online

instance : DecidablePred (tables.OnlineInProject settings) :=
  fun _ => inferInstanceAs (Decidable (∃ permission ∈ tables.database.permissions, _))

/-- A user is returned, who is online in the project, or none is. -/
def Resolves (result : Except ResolveError RoomUser) : Prop :=
  ∃ roomUser, result = .ok roomUser ∧
    ∀ user ∈ roomUser.user, tables.OnlineInProject settings user

/-- The permission of the flow start, when it is online and has a user, is not deleted and of
the project, or its user has such a permission besides. -/
def IsSound (permission : LoadedPermission) : Prop :=
  permission.status = .online → ∀ user ∈ permission.user,
    permission.project = settings.project ∧ permission.isDeleted = false ∨
      permission.project ≠ settings.project ∧ tables.OnlineInProject settings user

instance : DecidablePred (tables.IsSound settings) :=
  fun permission => inferInstanceAs
    (Decidable (permission.status = .online → ∀ user ∈ permission.user, _))

def FlowStartSound (request : RoomUserRequest) : Prop :=
  ∀ flowStart ∈ request.lastFlowStart,
    request.isCreated = true ∨ ¬tables.HasNewerRoom request.contact flowStart →
      ∃ uuid ∈ flowStart.permission, ∃ permission,
        tables.loadPermission uuid = .ok permission ∧ tables.IsSound settings permission

end RoomUserTables

section Facts

variable {settings : RouterSettings} {tables : RoomUserTables} {request : RoomUserRequest}
  {useCase : ResolveRoomUserUseCase} {anyRow : Query.AnyRow ProjectPermission}
  {otherwise : Except ResolveError RoomUser} {picked : Option UserEmail}

theorem getRow_filter {Row : Type} {rows : List Row} {Selected : Row → Prop}
    [DecidablePred Selected]
    (apart : rows.Pairwise fun left right => Selected left → ¬Selected right) :
    ∃ found, getRow (rows.filter fun row => Selected row) = .ok found ∧
      ∀ row ∈ found, row ∈ rows ∧ Selected row := by
  have selected : ∀ row ∈ rows.filter fun row => Selected row, row ∈ rows ∧ Selected row := by
    intro row member
    exact ⟨(List.mem_filter.mp member).1, of_decide_eq_true (List.mem_filter.mp member).2⟩
  have pairwise := apart.filter fun row => decide (Selected row)
  cases found : rows.filter fun row => decide (Selected row) with
  | nil => exact ⟨none, rfl, nofun⟩
  | cons first rest =>
      rw [found] at selected pairwise
      cases rest with
      | nil =>
          refine ⟨some first, rfl, ?_⟩
          intro row given
          rcases given with ⟨⟩
          exact selected first List.mem_cons_self
      | cons second others =>
          have notBoth := (List.pairwise_cons.mp pairwise).1 second List.mem_cons_self
          have left := (selected first List.mem_cons_self).2
          have right := (selected second (List.mem_cons_of_mem _ List.mem_cons_self)).2
          exact absurd right (notBoth left)

theorem resolves_ok {roomUser : RoomUser} :
    tables.Resolves settings (.ok roomUser) ↔
      ∀ user ∈ roomUser.user, tables.OnlineInProject settings user := by
  constructor
  · intro given
    rcases given with ⟨_, ⟨⟩, online⟩
    exact online
  · intro online
    exact ⟨roomUser, rfl, online⟩

theorem not_resolves_error {error : ResolveError} : ¬tables.Resolves settings (.error error) := by
  intro given
  rcases given with ⟨_, impossible, _⟩
  cases impossible

theorem RoomUserTables.Constrained.unique (constrained : tables.Constrained) :
    tables.database.UniqueUserPermission := by
  intro left isLeft right isRight sameUser sameProject
  have symm : Std.Symm fun left right : ProjectPermission =>
      left.user = right.user → left.project ≠ right.project :=
    ⟨fun _ _ apart same => (apart same.symm).symm⟩
  by_contra different
  exact constrained.permissions.forall isLeft isRight different sameUser sameProject

/-! ## Each place -/

theorem mem_permissions_of_loadPermission {uuid : Uuid} {permission : LoadedPermission}
    {user : UserEmail} (loaded : tables.loadPermission uuid = .ok permission)
    (isUser : permission.user = some user) :
    ∃ row ∈ tables.database.permissions, row.user = user ∧ row.project = permission.project ∧
      row.status = permission.status ∧ row.isDeleted = permission.isDeleted := by
  rw [RoomUserTables.loadPermission] at loaded
  split at loaded
  · next row found =>
      cases loaded
      exact ⟨row, List.mem_of_find?_eq_some found, Option.some.inj isUser, rfl, rfl, rfl⟩
  · split at loaded
    · cases loaded
      cases isUser
    · cases loaded

theorem isSound_iff (constrained : tables.Constrained) {uuid : Uuid}
    {permission : LoadedPermission} (loaded : tables.loadPermission uuid = .ok permission)
    (online : permission.status = .online) :
    tables.IsSound settings permission ↔
      ∀ user ∈ permission.user, tables.OnlineInProject settings user := by
  constructor
  · intro sound user isUser
    rcases sound online user isUser with ⟨project, kept⟩ | ⟨_, other⟩
    · rcases mem_permissions_of_loadPermission loaded isUser with
        ⟨row, stored, sameUser, sameProject, sameStatus, sameDeleted⟩
      exact ⟨row, stored, sameDeleted.trans kept, sameUser, sameProject.trans project,
        sameStatus.trans online⟩
    · exact other
  · intro onlineInProject _ user isUser
    by_cases project : permission.project = settings.project
    · rcases mem_permissions_of_loadPermission loaded isUser with
        ⟨row, stored, sameUser, sameProject, _, sameDeleted⟩
      rcases onlineInProject user isUser with ⟨other, isOther, kept, otherUser, otherProject, _⟩
      have one : row = other := constrained.unique row stored other isOther
        (sameUser.trans otherUser.symm) (sameProject.trans (project.trans otherProject.symm))
      exact .inl ⟨project, sameDeleted.symm.trans (one ▸ kept)⟩
    · exact .inr ⟨project, onlineInProject user isUser⟩

theorem resolveFlowStart_resolves_iff (constrained : tables.Constrained)
    (resolves : tables.Resolves settings otherwise) :
    tables.Resolves settings
        (ResolveRoomUserUseCase.resolveFlowStart tables request otherwise) ↔
      tables.FlowStartSound settings request := by
  rw [ResolveRoomUserUseCase.resolveFlowStart.eq_def]
  split
  · next absent =>
      apply iff_of_true resolves
      rw [RoomUserTables.FlowStartSound, absent]
      exact nofun
  · next flowStart isFlowStart =>
      have sound : tables.FlowStartSound settings request ↔
          (request.isCreated = true ∨ ¬tables.HasNewerRoom request.contact flowStart →
            ∃ uuid ∈ flowStart.permission, ∃ permission,
              tables.loadPermission uuid = .ok permission ∧
                tables.IsSound settings permission) := by
        rw [RoomUserTables.FlowStartSound, isFlowStart]
        simp
      rw [sound]
      split
      · next counts =>
          rw [forall_prop_of_true counts]
          split
          · next absent =>
              apply iff_of_false not_resolves_error
              simp [absent]
          · next uuid isPermission =>
              rw [isPermission]
              split
              · next error failed =>
                  apply iff_of_false not_resolves_error
                  simp [failed]
              · next permission loaded =>
                  have isSound : (∃ own ∈ some uuid, ∃ permission,
                      tables.loadPermission own = .ok permission ∧
                        tables.IsSound settings permission) ↔
                      tables.IsSound settings permission := by
                    simp [loaded]
                  rw [isSound]
                  split
                  · next online => rw [resolves_ok, isSound_iff constrained loaded online]
                  · next offline => exact iff_of_true resolves fun online => absurd online offline
      · next ignored => exact iff_of_true resolves fun counts => absurd counts ignored

theorem getLinkedUser_ok (constrained : tables.Constrained) (project contact : Uuid) :
    ∃ found, tables.getLinkedUser project contact = .ok found ∧
      ∀ link ∈ found, link.project = project := by
  have apart : tables.linkContacts.Pairwise fun left right =>
      left.contact = contact ∧ left.project = project →
        ¬(right.contact = contact ∧ right.project = project) := by
    apply constrained.links.imp
    intro left right apart given holds
    rcases given with ⟨rfl, rfl⟩
    rcases holds with ⟨sameContact, sameProject⟩
    exact apart sameContact.symm sameProject.symm
  rcases getRow_filter apart with ⟨found, got, selected⟩
  exact ⟨found, got, fun link isFound => (selected link isFound).2.2⟩

theorem isOnline_ok (constrained : tables.Constrained) (link : LinkContact) :
    ∃ online, tables.isOnline link = .ok online ∧
      (online = true → ∀ user ∈ link.user, ∃ permission ∈ tables.database.permissions,
        permission.isDeleted = false ∧ permission.user = user ∧
          permission.project = link.project ∧ permission.status = .online) := by
  rw [RoomUserTables.isOnline.eq_def]
  split
  · exact ⟨false, rfl, nofun⟩
  · next user isUser =>
      have apart : tables.database.permissions.Pairwise fun left right =>
          left.isDeleted = false ∧ left.project = link.project ∧ left.user = user →
            ¬(right.isDeleted = false ∧ right.project = link.project ∧ right.user = user) := by
        apply constrained.permissions.imp
        intro left right apart given holds
        rcases given with ⟨_, leftProject, leftUser⟩
        rcases holds with ⟨_, rightProject, rightUser⟩
        exact apart (leftUser.trans rightUser.symm) (leftProject.trans rightProject.symm)
      rcases getRow_filter apart with ⟨found, got, selected⟩
      rw [RoomUserTables.permissionsOf, got]
      cases found with
      | none => exact ⟨false, rfl, nofun⟩
      | some permission =>
          refine ⟨_, rfl, ?_⟩
          intro online other isOther
          cases isUser.symm.trans isOther
          rcases selected permission rfl with ⟨stored, kept, project, sameUser⟩
          exact ⟨permission, stored, kept, sameUser, project, of_decide_eq_true online⟩

theorem resolveLinkedUser_resolves (constrained : tables.Constrained)
    (resolves : tables.Resolves useCase.settings otherwise) :
    tables.Resolves useCase.settings (useCase.resolveLinkedUser tables request otherwise) := by
  rw [ResolveRoomUserUseCase.resolveLinkedUser]
  split
  · exact resolves
  · rcases getLinkedUser_ok constrained useCase.settings.project request.contact with
      ⟨found, got, ofProject⟩
    rw [got]
    cases found with
    | none => exact resolves
    | some link =>
        rcases isOnline_ok constrained link with ⟨online, checked, isOnline⟩
        dsimp only
        rw [checked]
        cases online with
        | false => exact resolves
        | true =>
            rw [ofProject link rfl] at isOnline
            exact resolves_ok.mpr (isOnline rfl)

theorem resolveRequested_online {otherwise : RoomUser}
    (online : ∀ user ∈ otherwise.user, tables.OnlineInProject useCase.settings user) :
    ∀ user ∈ (useCase.resolveRequested tables request otherwise).user,
      tables.OnlineInProject useCase.settings user := by
  rw [ResolveRoomUserUseCase.resolveRequested.eq_def]
  split
  · exact online
  · next requested _ =>
      split
      · next isOnline =>
          intro user given
          rcases given with ⟨⟩
          rcases isOnline with ⟨permission, listed, status⟩
          rcases List.mem_filter.mp listed with ⟨stored, selected⟩
          rcases of_decide_eq_true selected with ⟨kept, project, sameUser⟩
          exact ⟨permission, stored, kept, sameUser, project, status⟩
      · exact online

theorem rechecked_eq {agent user : UserEmail}
    (rechecked : useCase.rechecked tables agent = some user) : user = agent := by
  rw [ResolveRoomUserUseCase.rechecked] at rechecked
  split at rechecked
  · cases rechecked
  · exact (Option.some.inj rechecked).symm

theorem picked_of_resolveRouting {user : UserEmail}
    (isUser : (useCase.resolveRouting tables picked).user = some user) : picked = some user := by
  rw [ResolveRoomUserUseCase.resolveRouting] at isUser
  split at isUser
  · rw [ResolveRoomUserUseCase.resolveQueuePriority.eq_def] at isUser
    split at isUser
    · split at isUser
      · cases isUser
      · split at isUser
        · next agent rechecked =>
            cases isUser
            rw [rechecked_eq rechecked]
        · cases isUser
    · cases isUser
  · rw [ResolveRoomUserUseCase.resolveGeneral] at isUser
    split at isUser
    · rcases Option.bind_eq_some_iff.mp isUser with ⟨agent, isPicked, rechecked⟩
      rw [isPicked, rechecked_eq rechecked]
    · cases isUser

theorem resolveRouting_online (constrained : tables.Constrained)
    (gets : tables.database.GetsAvailableAgent useCase.settings useCase.queue anyRow picked) :
    ∀ user ∈ (useCase.resolveRouting tables picked).user,
      tables.OnlineInProject useCase.settings user := by
  intro user isUser
  cases picked_of_resolveRouting isUser
  have available := Database.mem_availableAgentRows_of_mem_agentChoices gets
  have listed := (Database.mem_onlineAgentRows_iff_mem_onlineAgents constrained.unique).mp
    (Database.mem_onlineAgentRows_of_available available)
  rcases Database.isOnline_of_mem_onlineAgents listed with
    ⟨permission, stored, kept, sameUser, project, status, _⟩
  exact ⟨permission, stored, kept, sameUser, project, status⟩

end Facts

/-- A user that is online is resolved exactly in this case. -/
theorem resolves_online_user_iff (useCase : ResolveRoomUserUseCase) (tables : RoomUserTables)
    (request : RoomUserRequest) (anyRow : Query.AnyRow ProjectPermission)
    (constrained : tables.Constrained) :
    (∀ picked, tables.database.GetsAvailableAgent useCase.settings useCase.queue anyRow picked →
      tables.Resolves useCase.settings (useCase.execute tables request picked)) ↔
      tables.FlowStartSound useCase.settings request := by
  have each : ∀ picked,
      tables.database.GetsAvailableAgent useCase.settings useCase.queue anyRow picked →
      (tables.Resolves useCase.settings (useCase.execute tables request picked) ↔
        tables.FlowStartSound useCase.settings request) := by
    intro picked gets
    apply resolveFlowStart_resolves_iff constrained
    apply resolveLinkedUser_resolves constrained
    rw [resolves_ok]
    exact resolveRequested_online (resolveRouting_online constrained gets)
  constructor
  · intro resolves
    rcases Database.exists_getsAvailableAgent useCase.settings tables.database useCase.queue
      anyRow with ⟨picked, gets⟩
    exact (each picked gets).mp (resolves picked gets)
  · intro sound picked gets
    exact (each picked gets).mpr sound

/-! ## An agent that started a flow -/

def firstUseCase : ResolveRoomUserUseCase where
  settings := exampleSettings
  queue := firstQueue
  useQueuePriorityRouting := false

def flowTables (permissions : List ProjectPermission) : RoomUserTables where
  database := { twoAgents 1 with permissions := permissions }
  userlessPermissions := []
  linkContacts := []

def afterFlow (permission : Option Uuid) : RoomUserRequest where
  contact := 7
  user := none
  isCreated := true
  lastFlowStart := some { permission := permission, createdOn := 0 }

theorem online_agent_resolved :
    (flowTables [attendant 1 "ana@example.com" .online]).Resolves firstUseCase.settings
      (firstUseCase.execute (flowTables [attendant 1 "ana@example.com" .online])
        (afterFlow (some 1)) (some "ana@example.com")) :=
  (resolves_online_user_iff firstUseCase (flowTables [attendant 1 "ana@example.com" .online])
    (afterFlow (some 1)) .first ⟨by decide, by decide⟩).mpr (by
      intro flowStart given _
      rcases given with ⟨⟩
      exact ⟨1, rfl, _, rfl, by decide⟩) (some "ana@example.com") (by decide)

/-- The permission was deleted while the agent was online. -/
theorem deleted_agent_resolved :
    ¬ ∀ (useCase : ResolveRoomUserUseCase) (tables : RoomUserTables) (request : RoomUserRequest)
      (anyRow : Query.AnyRow ProjectPermission), tables.Constrained →
      ∀ picked,
        tables.database.GetsAvailableAgent useCase.settings useCase.queue anyRow picked →
        tables.Resolves useCase.settings (useCase.execute tables request picked) := by
  intro resolves
  have online := resolves firstUseCase
    (flowTables [{ attendant 1 "ana@example.com" .online with isDeleted := true }])
    (afterFlow (some 1)) .first ⟨by decide, by decide⟩ none (by decide)
  rcases online with ⟨roomUser, result, online⟩
  cases result
  exact absurd (online "ana@example.com" rfl) (by decide)

end ChatsEngine.Rooms
