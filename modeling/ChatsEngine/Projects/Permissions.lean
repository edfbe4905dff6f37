import ChatsEngine.Core.Types
import ChatsEngine.Foundation.Pool
import ChatsEngine.Foundation.Table

/-! # Who has access to a project

Events and requests give, change and remove the permission of a user in a project, each statement
on its own. A permission is only marked as deleted. To save an instance stores all of its columns
as they were loaded, so a request that is there to change the status of an agent can bring back a
permission that was removed in the meantime. Whoever removes a permission deletes its
authorizations afterwards. -/

namespace ChatsEngine.Projects.Permissions

/-! ## Tables -/

structure PermissionRow where
  project : Uuid
  user : UserEmail
  role : Int
  isDeleted : Bool
  /-- The status, the limit of rooms and the other columns. -/
  others : Json
deriving DecidableEq, Repr

inductive Authorized
  | sector
  | queue
deriving DecidableEq, Repr

/-- A row of `SectorAuthorization` or `QueueAuthorization`. -/
structure Authorization where
  kind : Authorized
  permission : Uuid
  target : Uuid
deriving DecidableEq, Repr

structure AccessTables where
  users : List UserEmail
  projects : List Uuid
  permissions : Table Uuid PermissionRow
  authorizations : List Authorization
  /-- The calls of `requeue_agent_rooms_task` that have been scheduled. -/
  requeues : List (UserEmail × Uuid)
  /-- What the writes so far are there for: the role that each user has got last. -/
  written : Uuid → UserEmail → Option Int

namespace AccessTables

def initial (users : List UserEmail) (projects : List Uuid) : AccessTables where
  users := users
  projects := projects
  permissions := ∅
  authorizations := []
  requeues := []
  written := fun _ _ => none

variable (tables : AccessTables)

/-- `get(project=project, user=user)` of `all_objects` or of `objects`. -/
def find (includeDeleted : Bool) (project : Uuid) (user : UserEmail) :
    Option ((_ : Uuid) × PermissionRow) :=
  tables.permissions.entries.find? fun entry => entry.2.project = project ∧
    entry.2.user = user ∧ (includeDeleted = true ∨ entry.2.isDeleted = false)

def access (project : Uuid) (user : UserEmail) : Option Int :=
  (tables.find false project user).map fun entry => entry.2.role

def IsLive (permission : Uuid) : Prop :=
  ∃ row ∈ tables.permissions.lookup permission, row.isDeleted = false

instance : DecidablePred tables.IsLive :=
  fun _ => inferInstanceAs (Decidable (∃ row ∈ _, _))

def write (project : Uuid) (user : UserEmail) (role : Option Int) :
    Uuid → UserEmail → Option Int :=
  fun otherProject otherUser =>
    if otherProject = project ∧ otherUser = user then role
    else tables.written otherProject otherUser

end AccessTables

/-! ## Processes -/

/-- A role that is given, by an event or by the internal `update`. -/
structure Setting where
  isEvent : Bool
  project : Uuid
  user : UserEmail
  role : Int
deriving DecidableEq, Repr

/-- `role_mapping`, where the event may have no role. -/
def roleMapping (role : Option Int) : Int := if role = some 3 then 1 else 2

def Setting.edit (setting : Setting) (row : PermissionRow) : PermissionRow :=
  if setting.isEvent then { row with role := setting.role, isDeleted := false }
  else { row with role := setting.role }

/-- The instance that `get_or_create` creates, which has no role yet in a request. -/
def Setting.created (setting : Setting) : PermissionRow where
  project := setting.project
  user := setting.user
  role := if setting.isEvent then setting.role else 0
  isDeleted := false
  others := ""

inductive AccessTask
  /-- `create_permission` -/
  | create (project : Uuid) (user : UserEmail) (role : Option Int)
  /-- `ProjectPermissionViewset.update` -/
  | update (project : Uuid) (user : UserEmail) (role : Int)
  /-- `delete_permission`, and `ProjectPermissionViewset.delete`. -/
  | delete (project : Uuid) (user : UserEmail)
  /-- A request that changes another column and saves the instance. -/
  | change (project : Uuid) (user : UserEmail) (others : Json)
  /-- An authorization is created. Some requests only find permissions that are not deleted. -/
  | authorize (authorization : Authorization) (findsLive : Bool)
deriving DecidableEq, Repr

inductive Purpose
  | sets (role : Int)
  | removes
  | keeps
deriving DecidableEq, Repr

structure Saving where
  permission : Uuid
  instanceRow : PermissionRow
  purpose : Purpose
deriving DecidableEq, Repr

inductive AccessStage
  | gettingUser (setting : Setting)
  | gettingProject (setting : Setting)
  | getting (setting : Setting)
  | creating (setting : Setting)
  /-- The second `get`, after an `IntegrityError`. -/
  | gettingAgain (setting : Setting)
  | gettingLive (project : Uuid) (user : UserEmail) (others : Option Json)
  /-- `track_permission_soft_delete` -/
  | tracking (saving : Saving)
  | storing (saving : Saving) (wasSoftDeleted : Bool)
  /-- `handle_permission_soft_delete` -/
  | scheduling (permission : Uuid) (row : PermissionRow)
  | deleting (kind : Authorized) (permission : Uuid)
  | gettingPermission (authorization : Authorization) (findsLive : Bool)
  | authorizing (authorization : Authorization)
deriving DecidableEq, Repr

inductive AccessChoice
  | returns
  /-- The uuid of the row that is inserted. -/
  | inserts (permission : Uuid)
  | raises
deriving DecidableEq, Repr

inductive AccessAmbient
  | addUser (user : UserEmail)
  | addProject (project : Uuid)
  | unauthorize (authorization : Authorization)

def enter : AccessTask → AccessStage
  | .create project user role => .gettingUser ⟨true, project, user, roleMapping role⟩
  | .update project user role => .gettingUser ⟨false, project, user, role⟩
  | .delete project user => .gettingLive project user none
  | .change project user others => .gettingLive project user (some others)
  | .authorize authorization findsLive => .gettingPermission authorization findsLive

def Setting.saving (setting : Setting) (permission : Uuid) (row : PermissionRow) : Saving :=
  ⟨permission, setting.edit row, .sets setting.role⟩

/-- The instance that a removal or a change of other columns saves. -/
def savingOf (permission : Uuid) (row : PermissionRow) : Option Json → Saving
  | none => ⟨permission, { row with isDeleted := true }, .removes⟩
  | some others => ⟨permission, { row with others }, .keeps⟩

namespace AccessTables

variable (tables : AccessTables)

/-- The `INSERT` of `get_or_create`. -/
def insert (permission : Uuid) (row : PermissionRow) : AccessTables :=
  { tables with
    permissions := tables.permissions.insert permission row
    written := tables.write row.project row.user (some row.role) }

/-- The `UPDATE` of all columns. -/
def store (saving : Saving) : AccessTables :=
  { tables with
    permissions := tables.permissions.insert saving.permission saving.instanceRow
    written :=
      match saving.purpose with
      | .sets role => tables.write saving.instanceRow.project saving.instanceRow.user (some role)
      | .removes => tables.write saving.instanceRow.project saving.instanceRow.user none
      | .keeps => tables.written }

end AccessTables

def proceed (tables : AccessTables) : AccessStage → Option (AccessTables × Option AccessStage)
  | .gettingUser setting =>
      if setting.user ∈ tables.users then some (tables, some (.gettingProject setting))
      else if setting.isEvent then
        some ({ tables with users := setting.user :: tables.users },
          some (.gettingProject setting))
      else some (tables, none)
  | .gettingProject setting =>
      if setting.project ∈ tables.projects then some (tables, some (.getting setting))
      else some (tables, none)
  | .getting setting =>
      match tables.find setting.isEvent setting.project setting.user with
      | some entry => some (tables, some (.tracking (setting.saving entry.1 entry.2)))
      | none => some (tables, some (.creating setting))
  | .creating setting =>
      -- `unique_user_permission`
      match tables.find true setting.project setting.user with
      | some _ => some (tables, some (.gettingAgain setting))
      | none => none
  | .gettingAgain setting =>
      match tables.find setting.isEvent setting.project setting.user with
      | some entry => some (tables, some (.tracking (setting.saving entry.1 entry.2)))
      | none => some (tables, none)
  | .gettingLive project user others =>
      match tables.find false project user with
      | some entry => some (tables, some (.tracking (savingOf entry.1 entry.2 others)))
      | none => some (tables, none)
  | .tracking saving =>
      some (tables, some (.storing saving
        ((tables.permissions.lookup saving.permission).any fun old =>
          !old.isDeleted && saving.instanceRow.isDeleted)))
  | .storing saving wasSoftDeleted =>
      some (tables.store saving,
        if wasSoftDeleted then some (.scheduling saving.permission saving.instanceRow) else none)
  | .scheduling permission row =>
      some ({ tables with requeues := (row.user, row.project) :: tables.requeues },
        some (.deleting .sector permission))
  | .deleting kind permission =>
      some ({ tables with
        authorizations := tables.authorizations.filter fun authorization =>
          ¬(authorization.kind = kind ∧ authorization.permission = permission) },
        match kind with
        | .sector => some (.deleting .queue permission)
        | .queue => none)
  | .gettingPermission authorization findsLive =>
      if tables.IsLive authorization.permission ∨
          findsLive = false ∧ authorization.permission ∈ tables.permissions then
        some (tables, some (.authorizing authorization))
      else some (tables, none)
  | .authorizing authorization =>
      if authorization ∈ tables.authorizations then some (tables, none)
      else some ({ tables with authorizations := authorization :: tables.authorizations }, none)

def advance (tables : AccessTables) (stage : AccessStage) :
    AccessChoice → Option (AccessTables × Option AccessStage)
  | .returns => proceed tables stage
  | .raises => some (tables, none)
  | .inserts permission =>
      match stage with
      | .creating setting =>
          match tables.find true setting.project setting.user with
          | some _ => none
          | none =>
              if permission ∈ tables.permissions then none
              else some (tables.insert permission setting.created,
                if setting.isEvent then none
                else some (.tracking (setting.saving permission setting.created)))
      | _ => none

def surround (tables : AccessTables) : AccessAmbient → AccessTables
  | .addUser user => { tables with users := user :: tables.users }
  | .addProject project => { tables with projects := project :: tables.projects }
  | .unauthorize authorization =>
      { tables with authorizations := tables.authorizations.erase authorization }

def accessProgram : Program AccessTables AccessStage AccessTask AccessChoice AccessAmbient where
  enter := enter
  advance := advance
  surround := fun tables event => some (surround tables event)

end ChatsEngine.Projects.Permissions
