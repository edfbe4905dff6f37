import ChatsEngine.Core.Types
import ChatsEngine.Foundation.Grants
import ChatsEngine.Foundation.Machine
import ChatsEngine.Foundation.Table

/-! # Authorizations of groups of sectors

Who is authorized in a group of sectors is authorized in the sectors of the group: a manager
in each of its sectors, an agent in each of their queues. The use cases keep the rows of the
sectors and queues in line with those of the groups. -/

namespace ChatsEngine.Sectors

structure Sector where
  project : Uuid
  isDeleted : Bool

structure Queue where
  sector : Uuid
  isDeleted : Bool

structure ProjectPermission where
  hasUser : Bool
  isDeleted : Bool

structure GroupSector where
  project : Uuid
  isDeleted : Bool

structure SectorGroupSector where
  uuid : Uuid
  sectorGroup : Uuid
  sector : Uuid

structure GroupSectorAuthorization where
  groupSector : Uuid
  permission : Uuid
  role : Int
deriving DecidableEq

namespace GroupSectorAuthorization

def roleManager : Int := 1

def roleAgent : Int := 2

end GroupSectorAuthorization

open GroupSectorAuthorization

/-- The authorizations of sectors and queues, without those that are marked as deleted. Their
key is the sector or queue, and the permission. -/
abbrev Authorizations := List (Grant (Uuid × Uuid))

def authorizedRole : Nat := 1

structure GroupTables where
  sectors : Table Uuid Sector
  queues : Table Uuid Queue
  permissions : Table Uuid ProjectPermission
  groupSectors : Table Uuid GroupSector
  sectorGroupSectors : List SectorGroupSector
  groupSectorAuthorizations : List GroupSectorAuthorization
  sectorAuthorizations : Authorizations
  queueAuthorizations : Authorizations

namespace GroupTables

variable (tables : GroupTables)

/-! ## Queries -/

def IsLiveSector (sector : Uuid) : Prop :=
  ∃ stored ∈ tables.sectors.lookup sector, stored.isDeleted = false

instance : DecidablePred tables.IsLiveSector :=
  fun _ => inferInstanceAs (Decidable (∃ stored ∈ _, _))

/-- `group_sector.sectors.filter(is_deleted=False)` -/
def liveSectors (group : Uuid) : List Uuid :=
  (tables.sectorGroupSectors.filter fun row =>
    row.sectorGroup = group ∧ tables.IsLiveSector row.sector).map SectorGroupSector.sector

/-- `sector.queues.filter(is_deleted=False)` -/
def liveQueues (sector : Uuid) : List Uuid :=
  (tables.queues.entries.filter fun queue =>
    queue.2.sector = sector ∧ queue.2.isDeleted = false).map Sigma.fst

/-- The managers of the authorizations do not find those of deleted permissions. -/
def IsHidden (key : Uuid × Uuid) : Prop :=
  ∃ permission ∈ tables.permissions.lookup key.2, permission.isDeleted = true

instance : DecidablePred tables.IsHidden :=
  fun _ => inferInstanceAs (Decidable (∃ permission ∈ _, _))

def authorized (role : Int) (group : Uuid) : List Uuid :=
  (tables.groupSectorAuthorizations.filter fun row =>
    row.groupSector = group ∧ row.role = role).map GroupSectorAuthorization.permission

/-- `Sector.objects.get(uuid=sector_uuid, project=self.group_sector.project)` finds it. -/
def InProject (sector group : Uuid) : Prop :=
  ∃ stored ∈ tables.sectors.lookup sector, stored.isDeleted = false ∧
    ∃ owner ∈ tables.groupSectors.lookup group, stored.project = owner.project

instance (sector group : Uuid) : Decidable (tables.InProject sector group) :=
  inferInstanceAs (Decidable (∃ stored ∈ _, _ ∧ ∃ owner ∈ _, _))

/-- `self.sector.sector_group_sectors.exclude(uuid=self.group_sector.uuid).exists()`, which
compares the uuid of the group with those of the rows. -/
def InAnotherGroup (sector group : Uuid) : Prop :=
  ∃ row ∈ tables.sectorGroupSectors, row.sector = sector ∧ row.uuid ≠ group

instance (sector group : Uuid) : Decidable (tables.InAnotherGroup sector group) :=
  inferInstanceAs (Decidable (∃ row ∈ _, _))

/-- `self.group_sector.sectors.filter(uuid=self.sector_uuid).exists()` -/
def InGroup (sector group : Uuid) : Prop := sector ∈ tables.liveSectors group

instance (sector group : Uuid) : Decidable (tables.InGroup sector group) :=
  inferInstanceAs (Decidable (sector ∈ tables.liveSectors group))

def sectorKeys (group permission : Uuid) : List (Uuid × Uuid) :=
  (tables.liveSectors group).map fun sector => (sector, permission)

def queueKeys (permissions : List Uuid) (sector : Uuid) : List (Uuid × Uuid) :=
  permissions.flatMap fun permission =>
    (tables.liveQueues sector).map fun queue => (queue, permission)

def queueAgents (sector : Uuid) : List Uuid :=
  (tables.sectorGroupSectors.filter fun row => row.sector = sector).flatMap fun row =>
    tables.authorized roleAgent row.sectorGroup

/-! ## Statements -/

/-- `sector.set_user_authorization(permission, 1)` for one key after the other -/
def setSectorAuthorizations (keys : List (Uuid × Uuid)) : Option GroupTables :=
  (Grant.setAll tables.IsHidden authorizedRole tables.sectorAuthorizations keys).map
    fun rows => { tables with sectorAuthorizations := rows }

/-- `queue.set_user_authorization(permission, 1)` for one key after the other -/
def setQueueAuthorizations (keys : List (Uuid × Uuid)) : Option GroupTables :=
  (Grant.setAll tables.IsHidden authorizedRole tables.queueAuthorizations keys).map
    fun rows => { tables with queueAuthorizations := rows }

/-- `sector.authorizations.filter(permission=permission, role=1).delete()` -/
def deleteSectorAuthorizations (keys : List (Uuid × Uuid)) : GroupTables :=
  { tables with
    sectorAuthorizations :=
      Grant.removeAll tables.IsHidden authorizedRole tables.sectorAuthorizations keys }

/-- `queue.authorizations.filter(permission=permission, role=1).delete()` -/
def deleteQueueAuthorizations (keys : List (Uuid × Uuid)) : GroupTables :=
  { tables with
    queueAuthorizations :=
      Grant.removeAll tables.IsHidden authorizedRole tables.queueAuthorizations keys }

/-- `GroupSectorAuthorization.objects.create`, which the constraint of the table refuses for
a row that exists. -/
def createGroupSectorAuthorization (row : GroupSectorAuthorization) : Option GroupTables :=
  if row ∈ tables.groupSectorAuthorizations then none
  else some
    { tables with groupSectorAuthorizations := row :: tables.groupSectorAuthorizations }

/-! ## Use cases

A use case that raises leaves the tables unchanged. -/

/-- `GroupSectorAuthorizationCreationUseCase` -/
def createAuthorization (group permission : Uuid) (role : Int) : Option GroupTables :=
  if (∃ stored ∈ tables.groupSectors.lookup group, stored.isDeleted = false) ∧
      ∃ stored ∈ tables.permissions.lookup permission,
        stored.isDeleted = false ∧ stored.hasUser = true then
    if role = roleManager then
      (tables.setSectorAuthorizations (tables.sectorKeys group permission)).bind fun set =>
        set.createGroupSectorAuthorization { groupSector := group, permission, role }
    else if role = roleAgent then
      (tables.setQueueAuthorizations
        ((tables.liveSectors group).flatMap (tables.queueKeys [permission]))).bind fun set =>
          set.createGroupSectorAuthorization { groupSector := group, permission, role }
    else none
  else none

/-- `GroupSectorAuthorizationDeletionUseCase` -/
def deleteAuthorization (row : GroupSectorAuthorization) : GroupTables :=
  let cleared :=
    if row.role = roleManager then
      tables.deleteSectorAuthorizations (tables.sectorKeys row.groupSector row.permission)
    else if row.role = roleAgent then
      tables.deleteQueueAuthorizations
        ((tables.liveSectors row.groupSector).flatMap (tables.queueKeys [row.permission]))
    else tables
  { cleared with
    groupSectorAuthorizations := cleared.groupSectorAuthorizations.filter fun other =>
      other ≠ row }

/-- `QueueGroupSectorAuthorizationCreationUseCase` -/
def createQueueAuthorizations (queue sector : Uuid) : Option GroupTables :=
  tables.setQueueAuthorizations
    ((tables.queueAgents sector).map fun permission => (queue, permission))

/-- `AddSectorToGroupSectorUseCase`. The class has a method that creates the authorizations
of the queues, and `execute` does not call it. -/
def addSector (sector group row : Uuid) : Option GroupTables :=
  if tables.InProject sector group then
    if tables.InAnotherGroup sector group then none
    else if tables.InGroup sector group then none
    else
      setSectorAuthorizations
        { tables with
          sectorGroupSectors :=
            { uuid := row, sectorGroup := group, sector } :: tables.sectorGroupSectors }
        ((tables.authorized roleManager group).map fun permission => (sector, permission))
  else none

/-- `RemoveSectorFromGroupSectorUseCase` -/
def removeSector (sector group : Uuid) : Option GroupTables :=
  if tables.InProject sector group then
    let withoutManagers := tables.deleteSectorAuthorizations
      ((tables.authorized roleManager group).map fun permission => (sector, permission))
    let withoutAgents := withoutManagers.deleteQueueAuthorizations
      (withoutManagers.queueKeys (withoutManagers.authorized roleAgent group) sector)
    if withoutAgents.InGroup sector group then
      some { withoutAgents with
        sectorGroupSectors := withoutAgents.sectorGroupSectors.filter fun row =>
          ¬(row.sectorGroup = group ∧ row.sector = sector) }
    else none
  else none

def createQueue (queue sector : Uuid) : GroupTables :=
  let created := { tables with
    queues := tables.queues.insert queue { sector, isDeleted := false } }
  (created.createQueueAuthorizations queue sector).getD created

end GroupTables

inductive GroupEvent where
  | createAuthorization (group permission : Uuid) (role : Int)
  | deleteAuthorization (row : GroupSectorAuthorization)
  | addSector (sector group row : Uuid)
  | removeSector (sector group : Uuid)
  | createQueue (queue sector : Uuid)

namespace GroupTables

/-- New rows get uuids that no other row has. -/
def step (tables : GroupTables) : GroupEvent → Option GroupTables
  | .createAuthorization group permission role =>
      some ((tables.createAuthorization group permission role).getD tables)
  | .deleteAuthorization row =>
      if row ∈ tables.groupSectorAuthorizations then some (tables.deleteAuthorization row)
      else none
  | .addSector sector group row =>
      if row ∈ tables.groupSectors then none
      else some ((tables.addSector sector group row).getD tables)
  | .removeSector sector group => some ((tables.removeSector sector group).getD tables)
  | .createQueue queue sector =>
      if queue ∈ tables.queues then none else some (tables.createQueue queue sector)

end GroupTables

def groupMachine : Machine GroupTables GroupEvent where
  step := GroupTables.step

namespace GroupTables

/-- A permission with an authorization in a group is authorized in the sectors of the group,
as its role says. -/
def Covers (tables : GroupTables) (row : GroupSectorAuthorization) : Prop :=
  ∀ sector ∈ tables.liveSectors row.groupSector,
    (row.role = roleAgent → ∀ queue ∈ tables.liveQueues sector,
      { key := (queue, row.permission), role := authorizedRole } ∈ tables.queueAuthorizations) ∧
    (row.role = roleManager →
      { key := (sector, row.permission), role := authorizedRole } ∈ tables.sectorAuthorizations)

instance (tables : GroupTables) : DecidablePred tables.Covers :=
  fun row => inferInstanceAs (Decidable (∀ sector ∈ tables.liveSectors row.groupSector, _ ∧ _))

def Covered (tables : GroupTables) : Prop :=
  ∀ row ∈ tables.groupSectorAuthorizations, tables.Covers row

instance : DecidablePred Covered :=
  fun tables => inferInstanceAs
    (Decidable (∀ row ∈ tables.groupSectorAuthorizations, tables.Covers row))

/-- What the constraints of the tables and the checks of the use cases keep. -/
structure Consistent (tables : GroupTables) : Prop where
  /-- A permission has a role in a group once. -/
  authorizationsOnce : tables.groupSectorAuthorizations.Nodup
  /-- A sector is in at most one group. -/
  oneGroup : (tables.sectorGroupSectors.map SectorGroupSector.sector).Nodup
  /-- No row of the groups' sectors has the uuid of a group. -/
  rowsApart : ∀ row ∈ tables.sectorGroupSectors, row.uuid ∉ tables.groupSectors
  /-- Authorizations refer to queues. -/
  queuesExist : ∀ grant ∈ tables.queueAuthorizations, grant.key.1 ∈ tables.queues

/-- A sector that is really added to a group has queues only in which the agents of the
group are authorized already. -/
def AddsCoveredSector (tables : GroupTables) : GroupEvent → Prop
  | .addSector sector group _ =>
      tables.InProject sector group →
      ¬tables.InAnotherGroup sector group →
      (∀ permission ∈ tables.authorized roleManager group,
        Grant.Settable tables.IsHidden authorizedRole tables.sectorAuthorizations
          (sector, permission)) →
      ∀ permission ∈ tables.authorized roleAgent group, ∀ queue ∈ tables.liveQueues sector,
        { key := (queue, permission), role := authorizedRole } ∈ tables.queueAuthorizations
  | _ => True

instance : ∀ tables event, Decidable (AddsCoveredSector tables event)
  | tables, .addSector _ _ _ =>
      inferInstanceAs (Decidable (tables.InProject _ _ → ¬tables.InAnotherGroup _ _ →
        (∀ permission ∈ _, Grant.Settable _ _ _ (_, permission)) →
          ∀ permission ∈ _, ∀ queue ∈ _, _ ∈ tables.queueAuthorizations))
  | _, .createAuthorization _ _ _ => inferInstanceAs (Decidable True)
  | _, .deleteAuthorization _ => inferInstanceAs (Decidable True)
  | _, .removeSector _ _ => inferInstanceAs (Decidable True)
  | _, .createQueue _ _ => inferInstanceAs (Decidable True)

/-! ## What the statements change -/

section Statements

variable {tables after : GroupTables} {keys : List (Uuid × Uuid)} {key : Uuid × Uuid}
  {group sector queue permission : Uuid} {permissions : List Uuid} {role : Int}
  {row : GroupSectorAuthorization}

theorem mem_liveSectors_iff : sector ∈ tables.liveSectors group ↔
    (∃ row ∈ tables.sectorGroupSectors, row.sectorGroup = group ∧ row.sector = sector) ∧
      tables.IsLiveSector sector := by
  rw [liveSectors, List.mem_map]
  constructor
  · intro given
    rcases given with ⟨row, listed, rfl⟩
    rcases List.mem_filter.mp listed with ⟨stored, selected⟩
    rcases of_decide_eq_true selected with ⟨inGroup, isLive⟩
    exact ⟨⟨row, stored, inGroup, rfl⟩, isLive⟩
  · intro given
    rcases given with ⟨⟨row, stored, inGroup, rfl⟩, isLive⟩
    exact ⟨row, List.mem_filter.mpr ⟨stored, decide_eq_true ⟨inGroup, isLive⟩⟩, rfl⟩

theorem mem_liveQueues_iff : queue ∈ tables.liveQueues sector ↔
    ∃ stored ∈ tables.queues.lookup queue, stored.sector = sector ∧ stored.isDeleted = false := by
  rw [liveQueues, List.mem_map]
  constructor
  · intro given
    rcases given with ⟨entry, listed, rfl⟩
    rcases List.mem_filter.mp listed with ⟨stored, selected⟩
    exact ⟨entry.2, Table.mem_entries_iff.mp stored, of_decide_eq_true selected⟩
  · intro given
    rcases given with ⟨stored, isStored, selected⟩
    have entry : (⟨queue, stored⟩ : (_ : Uuid) × Queue) ∈ tables.queues.entries :=
      Table.mem_entries_iff.mpr isStored
    exact ⟨⟨queue, stored⟩, List.mem_filter.mpr ⟨entry, decide_eq_true selected⟩, rfl⟩

theorem mem_authorized_iff : permission ∈ tables.authorized role group ↔
    { groupSector := group, permission, role } ∈ tables.groupSectorAuthorizations := by
  rw [authorized, List.mem_map]
  constructor
  · intro given
    rcases given with ⟨row, listed, rfl⟩
    rcases List.mem_filter.mp listed with ⟨stored, selected⟩
    rcases of_decide_eq_true selected with ⟨rfl, rfl⟩
    exact stored
  · intro stored
    exact ⟨_, List.mem_filter.mpr ⟨stored, decide_eq_true ⟨rfl, rfl⟩⟩, rfl⟩

theorem mem_sectorKeys_iff : key ∈ tables.sectorKeys group permission ↔
    key.1 ∈ tables.liveSectors group ∧ key.2 = permission := by
  cases key
  simp [sectorKeys, eq_comm]

theorem mem_queueKeys_iff : key ∈ tables.queueKeys permissions sector ↔
    key.1 ∈ tables.liveQueues sector ∧ key.2 ∈ permissions := by
  cases key
  simp [queueKeys, and_comm]

theorem setSectorAuthorizations_eq_some
    (set : tables.setSectorAuthorizations keys = some after) :
    ∃ rows, after = { tables with sectorAuthorizations := rows } ∧
      ∀ grant, grant ∈ rows ↔
        grant ∈ tables.sectorAuthorizations ∨
          grant.key ∈ keys ∧ grant.role = authorizedRole := by
  rcases Option.map_eq_some_iff.mp set with ⟨rows, setAll, rfl⟩
  exact ⟨rows, rfl, fun grant => Grant.mem_setAll_iff setAll⟩

theorem setQueueAuthorizations_eq_some
    (set : tables.setQueueAuthorizations keys = some after) :
    ∃ rows, after = { tables with queueAuthorizations := rows } ∧
      ∀ grant, grant ∈ rows ↔
        grant ∈ tables.queueAuthorizations ∨
          grant.key ∈ keys ∧ grant.role = authorizedRole := by
  rcases Option.map_eq_some_iff.mp set with ⟨rows, setAll, rfl⟩
  exact ⟨rows, rfl, fun grant => Grant.mem_setAll_iff setAll⟩

theorem createGroupSectorAuthorization_eq_some
    (created : tables.createGroupSectorAuthorization row = some after) :
    row ∉ tables.groupSectorAuthorizations ∧ after =
      { tables with groupSectorAuthorizations := row :: tables.groupSectorAuthorizations } := by
  rw [createGroupSectorAuthorization] at created
  split at created
  · cases created
  · next isNew =>
      cases created
      exact ⟨isNew, rfl⟩

theorem Covers.imp {sectorRows queueRows : Authorizations}
    {rows : List GroupSectorAuthorization} (covers : tables.Covers row)
    (keepsSectors : ∀ sector ∈ tables.liveSectors row.groupSector, row.role = roleManager →
      { key := (sector, row.permission), role := authorizedRole } ∈ tables.sectorAuthorizations →
        { key := (sector, row.permission), role := authorizedRole } ∈ sectorRows)
    (keepsQueues : ∀ sector ∈ tables.liveSectors row.groupSector, row.role = roleAgent →
      ∀ queue ∈ tables.liveQueues sector,
        { key := (queue, row.permission), role := authorizedRole } ∈ tables.queueAuthorizations →
          { key := (queue, row.permission), role := authorizedRole } ∈ queueRows) :
    Covers
      { tables with
        groupSectorAuthorizations := rows
        sectorAuthorizations := sectorRows
        queueAuthorizations := queueRows } row := by
  intro sector isLive
  rcases covers sector isLive with ⟨agents, managers⟩
  constructor
  · intro isAgent queue isLiveQueue
    exact keepsQueues sector isLive isAgent queue isLiveQueue (agents isAgent queue isLiveQueue)
  · intro isManager
    exact keepsSectors sector isLive isManager (managers isManager)

end Statements

/-! ## The use cases, one at a time -/

section UseCases

variable {tables after : GroupTables} {group sector queue permission link : Uuid} {role : Int}
  {row : GroupSectorAuthorization}

theorem createAuthorization_cases
    (created : tables.createAuthorization group permission role = some after) :
    { groupSector := group, permission, role } ∉ tables.groupSectorAuthorizations ∧
      ∃ sectorRows queueRows,
        after =
          { tables with
            groupSectorAuthorizations :=
              { groupSector := group, permission, role } :: tables.groupSectorAuthorizations
            sectorAuthorizations := sectorRows
            queueAuthorizations := queueRows } ∧
        (∀ grant, grant ∈ sectorRows ↔ grant ∈ tables.sectorAuthorizations ∨
          role = roleManager ∧ grant.key ∈ tables.sectorKeys group permission ∧
            grant.role = authorizedRole) ∧
        (∀ grant, grant ∈ queueRows ↔ grant ∈ tables.queueAuthorizations ∨
          role = roleAgent ∧
            grant.key ∈ (tables.liveSectors group).flatMap (tables.queueKeys [permission]) ∧
            grant.role = authorizedRole) := by
  rw [createAuthorization] at created
  split at created
  · split at created
    · next isManager =>
        rcases Option.bind_eq_some_iff.mp created with ⟨set, isSet, created⟩
        rcases setSectorAuthorizations_eq_some isSet with ⟨rows, rfl, member⟩
        rcases createGroupSectorAuthorization_eq_some created with ⟨isNew, rfl⟩
        refine ⟨isNew, rows, tables.queueAuthorizations, rfl, ?_, ?_⟩
        · intro grant
          simp only [member, isManager, true_and]
        · intro grant
          simp [isManager, roleManager, roleAgent]
    · split at created
      · next isAgent =>
          rcases Option.bind_eq_some_iff.mp created with ⟨set, isSet, created⟩
          rcases setQueueAuthorizations_eq_some isSet with ⟨rows, rfl, member⟩
          rcases createGroupSectorAuthorization_eq_some created with ⟨isNew, rfl⟩
          refine ⟨isNew, tables.sectorAuthorizations, rows, rfl, ?_, ?_⟩
          · intro grant
            simp [isAgent, roleManager, roleAgent]
          · intro grant
            simp only [member, isAgent, true_and]
      · cases created
  · cases created

theorem createAuthorization_covered (covered : tables.Covered)
    (created : tables.createAuthorization group permission role = some after) :
    after.Covered := by
  rcases createAuthorization_cases created with
    ⟨_, sectorRows, queueRows, rfl, sectorMember, queueMember⟩
  intro row stored
  rcases List.mem_cons.mp stored with rfl | before
  · intro sector isLive
    constructor
    · intro isAgent queue isLiveQueue
      apply (queueMember _).mpr
      refine .inr ⟨isAgent, List.mem_flatMap.mpr ⟨sector, isLive, ?_⟩, rfl⟩
      exact mem_queueKeys_iff.mpr ⟨isLiveQueue, List.mem_singleton_self _⟩
    · intro isManager
      apply (sectorMember _).mpr
      exact .inr ⟨isManager, mem_sectorKeys_iff.mpr ⟨isLive, rfl⟩, rfl⟩
  · apply (covered row before).imp
    · intro sector _ _ granted
      exact (sectorMember _).mpr (.inl granted)
    · intro sector _ _ queue _ granted
      exact (queueMember _).mpr (.inl granted)

theorem createAuthorization_consistent (consistent : tables.Consistent)
    (created : tables.createAuthorization group permission role = some after) :
    after.Consistent := by
  rcases createAuthorization_cases created with
    ⟨isNew, sectorRows, queueRows, rfl, _, queueMember⟩
  refine ⟨?_, consistent.oneGroup, consistent.rowsApart, ?_⟩
  · exact List.nodup_cons.mpr ⟨isNew, consistent.authorizationsOnce⟩
  · intro grant granted
    rcases (queueMember grant).mp granted with before | ⟨_, isKey, _⟩
    · exact consistent.queuesExist grant before
    · rcases List.mem_flatMap.mp isKey with ⟨sector, _, isKey⟩
      rcases mem_liveQueues_iff.mp (mem_queueKeys_iff.mp isKey).1 with ⟨stored, isStored, _⟩
      exact AList.lookup_isSome.mp (Option.isSome_of_mem isStored)

theorem Consistent.sameGroup (consistent : tables.Consistent) {other : Uuid}
    (first : sector ∈ tables.liveSectors group) (second : sector ∈ tables.liveSectors other) :
    group = other := by
  rcases (mem_liveSectors_iff.mp first).1 with ⟨row, stored, rfl, isSector⟩
  rcases (mem_liveSectors_iff.mp second).1 with ⟨otherRow, otherStored, rfl, isOther⟩
  have same : row = otherRow :=
    List.inj_on_of_nodup_map consistent.oneGroup stored otherStored (isSector.trans isOther.symm)
  rw [same]

theorem deleteAuthorization_cases (tables : GroupTables) (row : GroupSectorAuthorization) :
    ∃ sectorRows queueRows,
      tables.deleteAuthorization row =
        { tables with
          groupSectorAuthorizations :=
            tables.groupSectorAuthorizations.filter fun other => other ≠ row
          sectorAuthorizations := sectorRows
          queueAuthorizations := queueRows } ∧
      (∀ grant, grant ∈ sectorRows ↔ grant ∈ tables.sectorAuthorizations ∧
        ¬(row.role = roleManager ∧
          grant.key ∈ tables.sectorKeys row.groupSector row.permission ∧
          grant.role = authorizedRole ∧ ¬tables.IsHidden grant.key)) ∧
      (∀ grant, grant ∈ queueRows ↔ grant ∈ tables.queueAuthorizations ∧
        ¬(row.role = roleAgent ∧
          grant.key ∈ (tables.liveSectors row.groupSector).flatMap
            (tables.queueKeys [row.permission]) ∧
          grant.role = authorizedRole ∧ ¬tables.IsHidden grant.key)) := by
  rw [deleteAuthorization]
  split
  · next isManager =>
      refine ⟨_, _, rfl, ?_, ?_⟩
      · intro grant
        simp only [deleteSectorAuthorizations, Grant.mem_removeAll_iff, isManager, true_and]
      · intro grant
        simp [deleteSectorAuthorizations, isManager, roleManager, roleAgent]
  · next notManager =>
      split
      · next isAgent =>
          refine ⟨_, _, rfl, ?_, ?_⟩
          · intro grant
            simp [deleteQueueAuthorizations, isAgent, roleManager, roleAgent]
          · intro grant
            simp only [deleteQueueAuthorizations, Grant.mem_removeAll_iff, isAgent, true_and]
      · next notAgent =>
          refine ⟨_, _, rfl, ?_, ?_⟩
          · intro grant
            simp [notManager]
          · intro grant
            simp [notAgent]

theorem Consistent.sameGroup_of_queue (consistent : tables.Consistent) {other : Uuid}
    {permissions : List Uuid} (first : sector ∈ tables.liveSectors group)
    (isLiveQueue : queue ∈ tables.liveQueues sector)
    (isKey : (queue, permission) ∈
      (tables.liveSectors other).flatMap (tables.queueKeys permissions)) :
    group = other ∧ permission ∈ permissions := by
  rcases List.mem_flatMap.mp isKey with ⟨owner, second, isKey⟩
  rcases mem_queueKeys_iff.mp isKey with ⟨isOwned, isPermission⟩
  rcases mem_liveQueues_iff.mp isLiveQueue with ⟨stored, isStored, rfl, _⟩
  rcases mem_liveQueues_iff.mp isOwned with ⟨again, isAgain, rfl, _⟩
  cases Option.mem_unique isStored isAgain
  exact ⟨consistent.sameGroup first second, isPermission⟩

theorem deleteAuthorization_covered (consistent : tables.Consistent) (covered : tables.Covered) :
    (tables.deleteAuthorization row).Covered := by
  rcases deleteAuthorization_cases tables row with
    ⟨sectorRows, queueRows, deleted, sectorMember, queueMember⟩
  rw [deleted]
  intro other stored
  rcases List.mem_filter.mp stored with ⟨stored, different⟩
  replace different : other ≠ row := of_decide_eq_true different
  apply (covered other stored).imp
  · intro sector isLive isManager granted
    refine (sectorMember _).mpr ⟨granted, ?_⟩
    intro given
    rcases given with ⟨rowIsManager, isKey, _⟩
    rcases mem_sectorKeys_iff.mp isKey with ⟨inGroup, samePermission⟩
    apply different
    rw [GroupSectorAuthorization.mk.injEq]
    exact ⟨consistent.sameGroup isLive inGroup, samePermission,
      isManager.trans rowIsManager.symm⟩
  · intro sector isLive isAgent queue isLiveQueue granted
    refine (queueMember _).mpr ⟨granted, ?_⟩
    intro given
    rcases given with ⟨rowIsAgent, isKey, _⟩
    rcases consistent.sameGroup_of_queue isLive isLiveQueue isKey with
      ⟨sameGroup, samePermission⟩
    apply different
    rw [GroupSectorAuthorization.mk.injEq]
    exact ⟨sameGroup, List.mem_singleton.mp samePermission, isAgent.trans rowIsAgent.symm⟩

theorem deleteAuthorization_consistent (consistent : tables.Consistent) :
    (tables.deleteAuthorization row).Consistent := by
  rcases deleteAuthorization_cases tables row with
    ⟨sectorRows, queueRows, deleted, _, queueMember⟩
  rw [deleted]
  exact ⟨consistent.authorizationsOnce.filter _, consistent.oneGroup, consistent.rowsApart,
    fun grant granted => consistent.queuesExist grant ((queueMember grant).mp granted).1⟩

theorem removeSector_cases (removed : tables.removeSector sector group = some after) :
    ∃ sectorRows queueRows,
      after =
        { tables with
          sectorGroupSectors := tables.sectorGroupSectors.filter fun row =>
            ¬(row.sectorGroup = group ∧ row.sector = sector)
          sectorAuthorizations := sectorRows
          queueAuthorizations := queueRows } ∧
      sector ∈ tables.liveSectors group ∧
      (∀ grant ∈ sectorRows, grant ∈ tables.sectorAuthorizations) ∧
      (∀ grant ∈ queueRows, grant ∈ tables.queueAuthorizations) ∧
      (∀ grant ∈ tables.sectorAuthorizations, grant.key.1 ≠ sector → grant ∈ sectorRows) ∧
      (∀ grant ∈ tables.queueAuthorizations, grant.key.1 ∉ tables.liveQueues sector →
        grant ∈ queueRows) := by
  rw [removeSector] at removed
  split at removed
  · dsimp only at removed
    split at removed
    · next inGroup =>
        cases removed
        refine ⟨_, _, rfl, inGroup, ?_, ?_, ?_, ?_⟩
        · intro grant kept
          exact (Grant.mem_removeAll_iff.mp kept).1
        · intro grant kept
          exact (Grant.mem_removeAll_iff.mp kept).1
        · intro grant granted elsewhere
          refine Grant.mem_removeAll_iff.mpr ⟨granted, ?_⟩
          intro given
          rcases given with ⟨isKey, _⟩
          rcases List.mem_map.mp isKey with ⟨permission, _, isSector⟩
          exact elsewhere (congrArg Prod.fst isSector).symm
        · intro grant granted elsewhere
          refine Grant.mem_removeAll_iff.mpr ⟨granted, ?_⟩
          intro given
          rcases given with ⟨isKey, _⟩
          exact elsewhere (mem_queueKeys_iff.mp isKey).1
    · cases removed
  · cases removed

theorem mem_liveSectors_of_removed {other owner : Uuid} {sectorRows queueRows : Authorizations}
    (isLive : other ∈ liveSectors
      { tables with
        sectorGroupSectors := tables.sectorGroupSectors.filter fun row =>
          ¬(row.sectorGroup = group ∧ row.sector = sector)
        sectorAuthorizations := sectorRows
        queueAuthorizations := queueRows } owner) :
    other ∈ tables.liveSectors owner ∧ ¬(owner = group ∧ other = sector) := by
  rcases mem_liveSectors_iff.mp isLive with ⟨⟨row, stored, rfl, rfl⟩, isFound⟩
  rcases List.mem_filter.mp stored with ⟨kept, elsewhere⟩
  exact ⟨mem_liveSectors_iff.mpr ⟨⟨row, kept, rfl, rfl⟩, isFound⟩, of_decide_eq_true elsewhere⟩

theorem removeSector_covered (consistent : tables.Consistent) (covered : tables.Covered)
    (removed : tables.removeSector sector group = some after) : after.Covered := by
  rcases removeSector_cases removed with
    ⟨sectorRows, queueRows, rfl, inGroup, _, _, keepsSectors, keepsQueues⟩
  intro row stored other isLive
  rcases mem_liveSectors_of_removed isLive with ⟨wasLive, elsewhere⟩
  have different : other ≠ sector := by
    intro same
    subst same
    exact elsewhere ⟨consistent.sameGroup wasLive inGroup, rfl⟩
  have before := covered row stored other wasLive
  constructor
  · intro isAgent queue isLiveQueue
    apply keepsQueues _ (before.1 isAgent queue isLiveQueue)
    intro isOwned
    rcases mem_liveQueues_iff.mp isLiveQueue with ⟨found, isFound, rfl, _⟩
    rcases mem_liveQueues_iff.mp isOwned with ⟨again, isAgain, rfl, _⟩
    cases Option.mem_unique isFound isAgain
    exact different rfl
  · intro isManager
    exact keepsSectors _ (before.2 isManager) different

theorem removeSector_consistent (consistent : tables.Consistent)
    (removed : tables.removeSector sector group = some after) : after.Consistent := by
  rcases removeSector_cases removed with ⟨sectorRows, queueRows, rfl, _, _, fewer, _⟩
  refine ⟨consistent.authorizationsOnce, ?_, ?_, ?_⟩
  · exact consistent.oneGroup.sublist (List.filter_sublist.map _)
  · intro row stored
    exact consistent.rowsApart row (List.mem_of_mem_filter stored)
  · intro grant granted
    exact consistent.queuesExist grant (fewer grant granted)

theorem InAnotherGroup.of_inGroup (consistent : tables.Consistent)
    (inProject : tables.InProject sector group) (inGroup : tables.InGroup sector group) :
    tables.InAnotherGroup sector group := by
  rcases (mem_liveSectors_iff.mp inGroup).1 with ⟨row, stored, rfl, isSector⟩
  refine ⟨row, stored, isSector, ?_⟩
  intro same
  rcases inProject with ⟨_, _, _, owner, isOwner, _⟩
  exact consistent.rowsApart row stored
    (same ▸ AList.lookup_isSome.mp (Option.isSome_of_mem isOwner))

theorem Consistent.authorized_nodup (consistent : tables.Consistent) :
    (tables.authorized role group).Nodup := by
  apply (consistent.authorizationsOnce.filter _).map_on
  intro row stored other otherStored same
  have selected := of_decide_eq_true (List.mem_filter.mp stored).2
  have otherSelected := of_decide_eq_true (List.mem_filter.mp otherStored).2
  rw [GroupSectorAuthorization.mk.injEq]
  exact ⟨selected.1.trans otherSelected.1.symm, same, selected.2.trans otherSelected.2.symm⟩

theorem Consistent.setAll_isSome_iff (consistent : tables.Consistent) {grants : Authorizations}
    {target : Uuid} :
    (Grant.setAll tables.IsHidden authorizedRole grants
      ((tables.authorized role group).map fun permission => (target, permission))).isSome ↔
    ∀ permission ∈ tables.authorized role group,
      Grant.Settable tables.IsHidden authorizedRole grants (target, permission) := by
  rw [Grant.setAll_isSome_iff, List.forall_mem_map]
  apply consistent.authorized_nodup.map
  intro permission other same
  exact congrArg Prod.snd same

theorem addSector_cases (consistent : tables.Consistent)
    (added : tables.addSector sector group link = some after) :
    tables.InProject sector group ∧ ¬tables.InAnotherGroup sector group ∧
      (∀ permission ∈ tables.authorized roleManager group,
        Grant.Settable tables.IsHidden authorizedRole tables.sectorAuthorizations
          (sector, permission)) ∧
      ∃ sectorRows,
        after =
          { tables with
            sectorGroupSectors :=
              { uuid := link, sectorGroup := group, sector } :: tables.sectorGroupSectors
            sectorAuthorizations := sectorRows } ∧
        ∀ grant, grant ∈ sectorRows ↔ grant ∈ tables.sectorAuthorizations ∨
          grant.key ∈ (tables.authorized roleManager group).map (fun permission =>
            (sector, permission)) ∧ grant.role = authorizedRole := by
  rw [addSector] at added
  split at added
  · next inProject =>
      split at added
      · cases added
      · next alone =>
          split at added
          · cases added
          · rcases Option.map_eq_some_iff.mp added with ⟨rows, set, rfl⟩
            refine ⟨inProject, alone, ?_, rows, rfl, fun grant => Grant.mem_setAll_iff set⟩
            exact consistent.setAll_isSome_iff.mp (Option.isSome_of_eq_some set)
  · cases added

theorem addSector_refused (consistent : tables.Consistent)
    (refused : tables.addSector sector group link = none)
    (inProject : tables.InProject sector group) (alone : ¬tables.InAnotherGroup sector group) :
    ¬∀ permission ∈ tables.authorized roleManager group,
      Grant.Settable tables.IsHidden authorizedRole tables.sectorAuthorizations
        (sector, permission) := by
  intro settable
  rw [addSector, if_pos inProject, if_neg alone] at refused
  split at refused
  · next inGroup => exact alone (.of_inGroup consistent inProject inGroup)
  · have set := consistent.setAll_isSome_iff.mpr settable
    rw [Option.isSome_iff_ne_none] at set
    exact set (Option.map_eq_none_iff.mp refused)

theorem mem_liveSectors_added_iff {other owner : Uuid} {sectorRows : Authorizations}
    (isLive : tables.IsLiveSector sector) :
    other ∈ liveSectors
        { tables with
          sectorGroupSectors :=
            { uuid := link, sectorGroup := group, sector } :: tables.sectorGroupSectors
          sectorAuthorizations := sectorRows } owner ↔
      owner = group ∧ other = sector ∨ other ∈ tables.liveSectors owner := by
  rw [mem_liveSectors_iff, mem_liveSectors_iff, List.exists_mem_cons_iff]
  constructor
  · rintro ⟨⟨rfl, rfl⟩ | before, isFound⟩
    · exact .inl ⟨rfl, rfl⟩
    · exact .inr ⟨before, isFound⟩
  · rintro (⟨rfl, rfl⟩ | ⟨before, isFound⟩)
    · exact ⟨.inl ⟨rfl, rfl⟩, isLive⟩
    · exact ⟨.inr before, isFound⟩

theorem addSector_covered_iff (consistent : tables.Consistent) (covered : tables.Covered)
    (added : tables.addSector sector group link = some after) :
    after.Covered ↔ ∀ permission ∈ tables.authorized roleAgent group,
      ∀ queue ∈ tables.liveQueues sector,
        { key := (queue, permission), role := authorizedRole } ∈ tables.queueAuthorizations := by
  rcases addSector_cases consistent added with
    ⟨⟨stored, isStored, isLive, _⟩, _, _, sectorRows, rfl, member⟩
  have isLive : tables.IsLiveSector sector := ⟨stored, isStored, isLive⟩
  constructor
  · intro coveredAfter permission isAgent
    refine (coveredAfter _ (mem_authorized_iff.mp isAgent) sector ?_).1 rfl
    exact (mem_liveSectors_added_iff isLive).mpr (.inl ⟨rfl, rfl⟩)
  · intro authorized row stored other inGroup
    rcases (mem_liveSectors_added_iff isLive).mp inGroup with ⟨rfl, rfl⟩ | before
    · constructor
      · intro isAgent
        exact authorized row.permission (mem_authorized_iff.mpr (isAgent ▸ stored))
      · intro isManager
        apply (member _).mpr
        have isAuthorized : row.permission ∈ tables.authorized roleManager row.groupSector :=
          mem_authorized_iff.mpr (isManager ▸ stored)
        exact .inr ⟨List.mem_map_of_mem isAuthorized, rfl⟩
    · have coveredBefore := covered row stored other before
      exact ⟨coveredBefore.1, fun isManager => (member _).mpr (.inl (coveredBefore.2 isManager))⟩

theorem addSector_consistent (consistent : tables.Consistent)
    (isNew : link ∉ tables.groupSectors)
    (added : tables.addSector sector group link = some after) : after.Consistent := by
  rcases addSector_cases consistent added with
    ⟨inProject, alone, _, sectorRows, rfl, _⟩
  refine ⟨consistent.authorizationsOnce, ?_, ?_, consistent.queuesExist⟩
  · rw [List.map_cons, List.nodup_cons]
    refine ⟨?_, consistent.oneGroup⟩
    intro listed
    rcases List.mem_map.mp listed with ⟨row, stored, isSector⟩
    refine alone ⟨row, stored, isSector, ?_⟩
    intro same
    rcases inProject with ⟨_, _, _, owner, isOwner, _⟩
    exact consistent.rowsApart row stored
      (same ▸ AList.lookup_isSome.mp (Option.isSome_of_mem isOwner))
  · intro row stored
    rcases List.mem_cons.mp stored with rfl | before
    · exact isNew
    · exact consistent.rowsApart row before

theorem mem_liveQueues_created_iff {other owner : Uuid} (isNew : queue ∉ tables.queues) :
    other ∈ liveQueues
        { tables with queues := tables.queues.insert queue { sector, isDeleted := false } } owner ↔
      owner = sector ∧ other = queue ∨ other ∈ tables.liveQueues owner := by
  simp only [mem_liveQueues_iff, Option.mem_def, Table.lookup_insert_iff]
  constructor
  · rintro ⟨stored, ⟨rfl, rfl⟩ | ⟨different, before⟩, isOwner, isLive⟩
    · exact .inl ⟨isOwner.symm, rfl⟩
    · exact .inr ⟨stored, before, isOwner, isLive⟩
  · rintro (⟨rfl, rfl⟩ | ⟨stored, before, isOwner, isLive⟩)
    · exact ⟨_, .inl ⟨rfl, rfl⟩, rfl, rfl⟩
    · refine ⟨stored, .inr ⟨?_, before⟩, isOwner, isLive⟩
      intro same
      subst same
      exact isNew (AList.lookup_isSome.mp (Option.isSome_of_mem before))

theorem Consistent.queueAgents_nodup (consistent : tables.Consistent) :
    (tables.queueAgents sector).Nodup := by
  rw [queueAgents, List.nodup_flatMap]
  refine ⟨fun row _ => consistent.authorized_nodup, ?_⟩
  have apart := (List.pairwise_map.mp consistent.oneGroup).filter fun row => row.sector = sector
  apply apart.imp_of_mem
  intro row other stored otherStored different
  have isSector := of_decide_eq_true (List.mem_filter.mp stored).2
  have otherIsSector := of_decide_eq_true (List.mem_filter.mp otherStored).2
  exact absurd (isSector.trans otherIsSector.symm) different

theorem mem_queueAgents_iff : permission ∈ tables.queueAgents sector ↔
    ∃ row ∈ tables.sectorGroupSectors, row.sector = sector ∧
      permission ∈ tables.authorized roleAgent row.sectorGroup := by
  simp [queueAgents, and_assoc]

theorem createQueue_cases (sector : Uuid) (consistent : tables.Consistent)
    (isNew : queue ∉ tables.queues) :
    ∃ queueRows,
      tables.createQueue queue sector =
        { tables with
          queues := tables.queues.insert queue { sector, isDeleted := false }
          queueAuthorizations := queueRows } ∧
      ∀ grant, grant ∈ queueRows ↔ grant ∈ tables.queueAuthorizations ∨
        grant.key ∈ (tables.queueAgents sector).map (fun permission => (queue, permission)) ∧
          grant.role = authorizedRole := by
  have nodup : ((tables.queueAgents sector).map fun permission => (queue, permission)).Nodup := by
    apply consistent.queueAgents_nodup.map
    intro permission other same
    exact congrArg Prod.snd same
  have set : (Grant.setAll tables.IsHidden authorizedRole tables.queueAuthorizations
      ((tables.queueAgents sector).map fun permission => (queue, permission))).isSome := by
    rw [Grant.setAll_isSome_iff nodup]
    intro key listed
    right
    intro grant granted equal
    subst equal
    rcases List.mem_map.mp listed with ⟨permission, _, isKey⟩
    have isQueue : queue = grant.key.1 := congrArg Prod.fst isKey
    exact isNew (isQueue ▸ consistent.queuesExist grant granted)
  rcases Option.isSome_iff_exists.mp set with ⟨rows, isSet⟩
  refine ⟨rows, ?_, fun grant => Grant.mem_setAll_iff isSet⟩
  have created : createQueueAuthorizations
      { tables with queues := tables.queues.insert queue { sector, isDeleted := false } }
      queue sector = some
        { tables with
          queues := tables.queues.insert queue { sector, isDeleted := false }
          queueAuthorizations := rows } :=
    Option.map_eq_some_iff.mpr ⟨rows, isSet, rfl⟩
  rw [createQueue, created]
  rfl

theorem createQueue_covered (consistent : tables.Consistent) (covered : tables.Covered)
    (isNew : queue ∉ tables.queues) : (tables.createQueue queue sector).Covered := by
  rcases createQueue_cases sector consistent isNew with ⟨rows, created, member⟩
  rw [created]
  intro row stored owner isLive
  have before := covered row stored owner isLive
  refine ⟨?_, before.2⟩
  intro isAgent other isLiveQueue
  apply (member _).mpr
  rcases (mem_liveQueues_created_iff isNew).mp isLiveQueue with ⟨rfl, rfl⟩ | wasLive
  · right
    refine ⟨List.mem_map_of_mem (mem_queueAgents_iff.mpr ?_), rfl⟩
    rcases (mem_liveSectors_iff.mp isLive).1 with ⟨link, linked, inGroup, isSector⟩
    refine ⟨link, linked, isSector, mem_authorized_iff.mpr ?_⟩
    rw [inGroup, ← isAgent]
    exact stored
  · exact .inl (before.1 isAgent other wasLive)

theorem createQueue_consistent (consistent : tables.Consistent) (isNew : queue ∉ tables.queues) :
    (tables.createQueue queue sector).Consistent := by
  rcases createQueue_cases sector consistent isNew with ⟨rows, created, member⟩
  rw [created]
  refine ⟨consistent.authorizationsOnce, consistent.oneGroup, consistent.rowsApart, ?_⟩
  intro grant granted
  rw [AList.mem_insert]
  rcases (member grant).mp granted with before | ⟨isKey, _⟩
  · exact .inr (consistent.queuesExist grant before)
  · rcases List.mem_map.mp isKey with ⟨permission, _, isKey⟩
    exact .inl (congrArg Prod.fst isKey).symm

end UseCases

/-! ## Runs -/

section Run

variable {tables after : GroupTables} {event : GroupEvent}

theorem getD_cases (Holds : GroupTables → Prop) {result : Option GroupTables}
    (raises : result = none → Holds tables) (returns : ∀ next, result = some next → Holds next) :
    Holds (result.getD tables) := by
  cases result with
  | none => exact raises rfl
  | some next => exact returns next rfl

theorem step_consistent (consistent : tables.Consistent)
    (stepped : tables.step event = some after) : after.Consistent := by
  cases event with
  | createAuthorization group permission role =>
      cases stepped
      exact getD_cases Consistent (fun _ => consistent)
        fun _ created => createAuthorization_consistent consistent created
  | deleteAuthorization row =>
      rw [step] at stepped
      split at stepped <;> cases stepped
      exact deleteAuthorization_consistent consistent
  | addSector sector group link =>
      rw [step] at stepped
      split at stepped
      · cases stepped
      · next isNew =>
          cases stepped
          exact getD_cases Consistent (fun _ => consistent)
            fun _ added => addSector_consistent consistent isNew added
  | removeSector sector group =>
      cases stepped
      exact getD_cases Consistent (fun _ => consistent)
        fun _ removed => removeSector_consistent consistent removed
  | createQueue queue sector =>
      rw [step] at stepped
      split at stepped
      · cases stepped
      · next isNew =>
          cases stepped
          exact createQueue_consistent consistent isNew

theorem step_covered_iff (consistent : tables.Consistent) (covered : tables.Covered)
    (stepped : tables.step event = some after) :
    after.Covered ↔ tables.AddsCoveredSector event := by
  cases event with
  | createAuthorization group permission role =>
      cases stepped
      refine ⟨fun _ => trivial, fun _ => ?_⟩
      exact getD_cases Covered (fun _ => covered)
        fun _ created => createAuthorization_covered covered created
  | deleteAuthorization row =>
      rw [step] at stepped
      split at stepped <;> cases stepped
      exact ⟨fun _ => trivial, fun _ => deleteAuthorization_covered consistent covered⟩
  | addSector sector group link =>
      rw [step] at stepped
      split at stepped
      · cases stepped
      · cases stepped
        apply getD_cases fun next => next.Covered ↔ tables.AddsCoveredSector _
        · intro refused
          refine ⟨fun _ inProject alone settable => ?_, fun _ => covered⟩
          exact absurd settable (addSector_refused consistent refused inProject alone)
        · intro next added
          rw [addSector_covered_iff consistent covered added]
          rcases addSector_cases consistent added with ⟨inProject, alone, settable, _⟩
          exact ⟨fun authorized _ _ _ => authorized,
            fun authorized => authorized inProject alone settable⟩
  | removeSector sector group =>
      cases stepped
      refine ⟨fun _ => trivial, fun _ => ?_⟩
      exact getD_cases Covered (fun _ => covered)
        fun _ removed => removeSector_covered consistent covered removed
  | createQueue queue sector =>
      rw [step] at stepped
      split at stepped
      · cases stepped
      · next isNew =>
          cases stepped
          exact ⟨fun _ => trivial, fun _ => createQueue_covered consistent covered isNew⟩

end Run

end GroupTables

/-- The authorizations in groups stay covered by those in sectors and queues as long as no
sector is added whose queues lack authorizations of the agents of its group. -/
theorem groups_covered_iff {tables : GroupTables} (consistent : tables.Consistent)
    (covered : tables.Covered) (events : List GroupEvent) :
    groupMachine.Throughout GroupTables.Covered tables events ↔
      groupMachine.AllSteps GroupTables.AddsCoveredSector tables events := by
  apply Machine.throughout_iff_allSteps _ _ consistent covered
  · intro current event next always stepped
    exact GroupTables.step_consistent always stepped
  · intro current event next always holds stepped
    exact GroupTables.step_covered_iff always holds stepped

/-! ## A sector with a queue -/

def exampleGroup : GroupTables where
  sectors := (∅ : Table Uuid Sector).insert 1 { project := 1, isDeleted := false }
  queues := (∅ : Table Uuid Queue).insert 1 { sector := 1, isDeleted := false }
  permissions :=
    (∅ : Table Uuid ProjectPermission).insert 1 { hasUser := true, isDeleted := false }
  groupSectors := (∅ : Table Uuid GroupSector).insert 1 { project := 1, isDeleted := false }
  sectorGroupSectors := []
  groupSectorAuthorizations := []
  sectorAuthorizations := []
  queueAuthorizations := []

theorem exampleGroup_consistent : exampleGroup.Consistent where
  authorizationsOnce := List.nodup_nil
  oneGroup := List.nodup_nil
  rowsApart := by
    intro row stored
    cases stored
  queuesExist := by
    intro grant granted
    cases granted

theorem exampleGroup_covered : exampleGroup.Covered := by
  intro row stored
  cases stored

/-- The agent is authorized in the group before the sector is added. -/
theorem agent_without_rooms :
    ¬ ∀ (tables : GroupTables) (events : List GroupEvent), tables.Consistent → tables.Covered →
      groupMachine.Throughout GroupTables.Covered tables events := by
  intro stays
  have covered := stays exampleGroup
    [.createAuthorization 1 1 roleAgent, .addSector 1 1 2] exampleGroup_consistent
    exampleGroup_covered
  exact absurd covered (by decide)

/-- The sector is added first. The manager and the agent get a second queue as well, and
leave no authorizations behind when the sector is removed. -/
theorem group_with_two_queues :
    groupMachine.Throughout GroupTables.Covered exampleGroup
      [.addSector 1 1 2, .createAuthorization 1 1 roleAgent, .createAuthorization 1 1 roleManager,
        .createQueue 2 1, .removeSector 1 1] := by
  apply (groups_covered_iff exampleGroup_consistent exampleGroup_covered _).mpr
  decide

end ChatsEngine.Sectors
