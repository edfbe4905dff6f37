import ChatsEngine.Projects.Permissions

/-! # The access that has been written last

The row of a user in a project is unique, and stays. A save stores the role and the mark of the
instance, which for an event or a request that gives or removes access are what it is there for,
and for any other save are what it has loaded. -/

namespace ChatsEngine.Projects.Permissions

/-! ## What the tables keep -/

section Tables

variable {tables after : AccessTables} {project : Uuid} {user : UserEmail} {role : Int}
  {permission : Uuid} {row : PermissionRow} {saving : Saving}

/-- `unique_user_permission` -/
def AccessTables.Unique (tables : AccessTables) : Prop :=
  ∀ permission other row otherRow, tables.permissions.lookup permission = some row →
    tables.permissions.lookup other = some otherRow → row.project = otherRow.project →
    row.user = otherRow.user → permission = other

def AccessTables.HasRole (tables : AccessTables) (project : Uuid) (user : UserEmail)
    (role : Int) : Prop :=
  ∃ permission row, tables.permissions.lookup permission = some row ∧ row.project = project ∧
    row.user = user ∧ row.isDeleted = false ∧ row.role = role

def AccessTables.Agrees (tables : AccessTables) : Prop :=
  ∀ project user, tables.access project user = tables.written project user

theorem find_eq_some {includeDeleted : Bool} {entry : (_ : Uuid) × PermissionRow}
    (found : tables.find includeDeleted project user = some entry) :
    tables.permissions.lookup entry.1 = some entry.2 ∧ entry.2.project = project ∧
      entry.2.user = user ∧ (includeDeleted = true ∨ entry.2.isDeleted = false) := by
  have selected := List.find?_some found
  exact ⟨Table.mem_entries_iff.mp (List.mem_of_find?_eq_some found), of_decide_eq_true selected⟩

theorem find_eq_none {includeDeleted : Bool}
    (absent : tables.find includeDeleted project user = none)
    (stored : tables.permissions.lookup permission = some row) (ofProject : row.project = project)
    (ofUser : row.user = user) : ¬(includeDeleted = true ∨ row.isDeleted = false) := by
  intro finds
  have notFound := List.find?_eq_none.mp absent ⟨permission, row⟩ (Table.mem_entries_iff.mpr stored)
  exact notFound (decide_eq_true ⟨ofProject, ofUser, finds⟩)

theorem access_eq_some_iff (unique : tables.Unique) :
    tables.access project user = some role ↔ tables.HasRole project user role := by
  unfold AccessTables.access
  rw [Option.map_eq_some_iff]
  constructor
  · intro hasAccess
    rcases hasAccess with ⟨entry, found, isRole⟩
    rcases find_eq_some found with ⟨stored, ofProject, ofUser, live⟩
    exact ⟨entry.1, entry.2, stored, ofProject, ofUser, live.resolve_left Bool.false_ne_true,
      isRole⟩
  · intro hasRole
    rcases hasRole with ⟨permission, row, stored, ofProject, ofUser, live, isRole⟩
    cases found : tables.find false project user with
    | none => exact absurd (.inr live) (find_eq_none found stored ofProject ofUser)
    | some entry =>
        rcases find_eq_some found with ⟨otherStored, otherProject, otherUser, _⟩
        have same : entry.1 = permission := unique entry.1 permission entry.2 row otherStored
          stored (otherProject.trans ofProject.symm) (otherUser.trans ofUser.symm)
        rw [same, stored] at otherStored
        cases otherStored
        exact ⟨entry, rfl, isRole⟩

theorem agrees_iff (unique : tables.Unique) :
    tables.Agrees ↔ ∀ project user role,
      tables.HasRole project user role ↔ tables.written project user = some role := by
  constructor
  · intro agrees project user role
    rw [← agrees project user]
    exact (access_eq_some_iff unique).symm
  · intro hasRole_iff project user
    apply Option.ext
    intro role
    exact (access_eq_some_iff unique).trans (hasRole_iff project user role)

/-- What a saved instance is, against the row and against what the save is there for. -/
structure Saving.Fits (saving : Saving) (tables : AccessTables) : Prop where
  stored : ∃ row, tables.permissions.lookup saving.permission = some row ∧
    row.project = saving.instanceRow.project ∧ row.user = saving.instanceRow.user
  sets : ∀ role, saving.purpose = .sets role →
    saving.instanceRow.role = role ∧ saving.instanceRow.isDeleted = false
  removes : saving.purpose = .removes → saving.instanceRow.isDeleted = true
  keeps : saving.purpose = .keeps → saving.instanceRow.isDeleted = false

/-- Where it only changes other columns, the instance still has the role of the row and is not
marked differently. -/
def Saving.Current (saving : Saving) (tables : AccessTables) : Prop :=
  saving.purpose = .keeps → ∃ row ∈ tables.permissions.lookup saving.permission,
    row.role = saving.instanceRow.role ∧ row.isDeleted = saving.instanceRow.isDeleted

theorem write_eq_some_iff {given : Option Int} {otherProject : Uuid} {otherUser : UserEmail} :
    tables.write project user given otherProject otherUser = some role ↔
      otherProject = project ∧ otherUser = user ∧ given = some role ∨
        ¬(otherProject = project ∧ otherUser = user) ∧
          tables.written otherProject otherUser = some role := by
  unfold AccessTables.write
  by_cases same : otherProject = project ∧ otherUser = user
  · simp [same]
  · simp only [same, if_false, not_false_eq_true, true_and]
    constructor
    · exact .inr
    · intro either
      rcases either with ⟨isProject, isUser, _⟩ | old
      · exact absurd ⟨isProject, isUser⟩ same
      · exact old

theorem unique_insert (unique : tables.Unique)
    (absent : tables.find true row.project row.user = none) :
    (tables.insert permission row).Unique := by
  intro first second firstRow secondRow firstStored secondStored sameProject sameUser
  rcases Table.lookup_insert_iff.mp firstStored with ⟨isFirst, rfl⟩ | ⟨_, firstOld⟩
  · rcases Table.lookup_insert_iff.mp secondStored with ⟨isSecond, rfl⟩ | ⟨_, secondOld⟩
    · rw [isFirst, isSecond]
    · exact absurd (.inl rfl) (find_eq_none absent secondOld sameProject.symm sameUser.symm)
  · rcases Table.lookup_insert_iff.mp secondStored with ⟨isSecond, rfl⟩ | ⟨_, secondOld⟩
    · exact absurd (.inl rfl) (find_eq_none absent firstOld sameProject sameUser)
    · exact unique first second firstRow secondRow firstOld secondOld sameProject sameUser

theorem agrees_insert (unique : tables.Unique) (agrees : tables.Agrees)
    (live : row.isDeleted = false) (absent : tables.find true row.project row.user = none)
    (fresh : permission ∉ tables.permissions) : (tables.insert permission row).Agrees := by
  rw [agrees_iff (unique_insert unique absent)]
  intro project user role
  change _ ↔ tables.write row.project row.user (some row.role) project user = some role
  rw [write_eq_some_iff, ← (agrees_iff unique).mp agrees]
  constructor
  · intro hasRole
    rcases hasRole with ⟨other, otherRow, stored, rfl, rfl, notDeleted, rfl⟩
    rcases Table.lookup_insert_iff.mp stored with ⟨rfl, rfl⟩ | ⟨_, old⟩
    · exact .inl ⟨rfl, rfl, rfl⟩
    · refine .inr ⟨?_, other, otherRow, old, rfl, rfl, notDeleted, rfl⟩
      intro same
      exact find_eq_none absent old same.1 same.2 (.inl rfl)
  · intro either
    rcases either with ⟨rfl, rfl, isRole⟩ | ⟨_, other, otherRow, old, isRow⟩
    · exact ⟨permission, row, AList.lookup_insert _, rfl, rfl, live, Option.some.inj isRole⟩
    · refine ⟨other, otherRow, ?_, isRow⟩
      rw [← old]
      apply AList.lookup_insert_ne
      intro same
      rw [same] at old
      exact fresh (AList.lookup_isSome.mp (by rw [old]; rfl))

theorem permission_of_fits (unique : tables.Unique) (fits : saving.Fits tables)
    (stored : tables.permissions.lookup permission = some row)
    (sameProject : row.project = saving.instanceRow.project)
    (sameUser : row.user = saving.instanceRow.user) : permission = saving.permission := by
  rcases fits.stored with ⟨before, isBefore, ofProject, ofUser⟩
  exact unique permission saving.permission row before stored isBefore
    (sameProject.trans ofProject.symm) (sameUser.trans ofUser.symm)

theorem unique_store (unique : tables.Unique) (fits : saving.Fits tables) :
    (tables.store saving).Unique := by
  intro first second firstRow secondRow firstStored secondStored sameProject sameUser
  rcases Table.lookup_insert_iff.mp firstStored with ⟨isFirst, rfl⟩ | ⟨_, firstOld⟩
  · rcases Table.lookup_insert_iff.mp secondStored with ⟨isSecond, rfl⟩ | ⟨_, secondOld⟩
    · rw [isFirst, isSecond]
    · rw [isFirst]
      exact (permission_of_fits unique fits secondOld sameProject.symm sameUser.symm).symm
  · rcases Table.lookup_insert_iff.mp secondStored with ⟨isSecond, rfl⟩ | ⟨_, secondOld⟩
    · rw [isSecond]
      exact permission_of_fits unique fits firstOld sameProject sameUser
    · exact unique first second firstRow secondRow firstOld secondOld sameProject sameUser

def Saving.IsOf (saving : Saving) (project : Uuid) (user : UserEmail) : Prop :=
  project = saving.instanceRow.project ∧ user = saving.instanceRow.user

theorem hasRole_store (unique : tables.Unique) (fits : saving.Fits tables) :
    (tables.store saving).HasRole project user role ↔
      saving.IsOf project user ∧ saving.instanceRow.isDeleted = false ∧
          saving.instanceRow.role = role ∨
        ¬saving.IsOf project user ∧ tables.HasRole project user role := by
  constructor
  · intro hasRole
    rcases hasRole with ⟨other, otherRow, stored, rfl, rfl, live, rfl⟩
    rcases Table.lookup_insert_iff.mp stored with ⟨rfl, rfl⟩ | ⟨different, old⟩
    · exact .inl ⟨⟨rfl, rfl⟩, live, rfl⟩
    · refine .inr ⟨?_, other, otherRow, old, rfl, rfl, live, rfl⟩
      intro same
      exact different (permission_of_fits unique fits old same.1 same.2)
  · intro either
    rcases either with ⟨⟨rfl, rfl⟩, live, rfl⟩ | ⟨different, other, otherRow, old, rfl, rfl, rest⟩
    · exact ⟨saving.permission, saving.instanceRow, AList.lookup_insert _, rfl, rfl, live, rfl⟩
    · refine ⟨other, otherRow, ?_, rfl, rfl, rest⟩
      rw [← old]
      apply AList.lookup_insert_ne
      intro same
      rcases fits.stored with ⟨before, isBefore, ofProject, ofUser⟩
      rw [same, isBefore] at old
      cases old
      exact different ⟨ofProject, ofUser⟩

theorem hasRole_of_fits (unique : tables.Unique) (fits : saving.Fits tables)
    (stored : tables.permissions.lookup saving.permission = some row)
    (isOf : saving.IsOf project user) :
    tables.HasRole project user role ↔ row.isDeleted = false ∧ row.role = role := by
  rcases isOf with ⟨rfl, rfl⟩
  constructor
  · intro hasRole
    rcases hasRole with ⟨other, otherRow, old, ofProject, ofUser, live, isRole⟩
    rw [permission_of_fits unique fits old ofProject ofUser, stored] at old
    cases old
    exact ⟨live, isRole⟩
  · intro isRow
    rcases fits.stored with ⟨before, isBefore, ofProject, ofUser⟩
    rw [isBefore] at stored
    cases stored
    exact ⟨saving.permission, row, isBefore, ofProject, ofUser, isRow⟩

theorem agrees_store_iff (unique : tables.Unique) (agrees : tables.Agrees)
    (fits : saving.Fits tables) : (tables.store saving).Agrees ↔ saving.Current tables := by
  rcases fits.stored with ⟨before, isBefore, _⟩
  rw [agrees_iff (unique_store unique fits)]
  simp only [hasRole_store unique fits]
  have agreed := (agrees_iff unique).mp agrees
  cases purpose : saving.purpose with
  | sets given =>
      rcases fits.sets given purpose with ⟨isRole, live⟩
      refine ⟨fun _ keeps => (by rw [purpose] at keeps; cases keeps), fun _ => ?_⟩
      intro project user role
      simp only [AccessTables.store, purpose]
      rw [write_eq_some_iff, ← agreed, isRole, Option.some.injEq]
      simp only [live, Saving.IsOf, true_and, and_assoc]
  | removes =>
      have deleted := fits.removes purpose
      refine ⟨fun _ keeps => (by rw [purpose] at keeps; cases keeps), fun _ => ?_⟩
      intro project user role
      simp only [AccessTables.store, purpose]
      rw [write_eq_some_iff, ← agreed]
      simp [deleted, Saving.IsOf]
  | keeps =>
      have live := fits.keeps purpose
      simp only [AccessTables.store, purpose, ← agreed, live, true_and]
      constructor
      · intro same _
        have isOf : saving.IsOf saving.instanceRow.project saving.instanceRow.user := ⟨rfl, rfl⟩
        have hasRole := (same _ _ saving.instanceRow.role).mp (.inl ⟨isOf, rfl⟩)
        rcases (hasRole_of_fits unique fits isBefore isOf).mp hasRole with ⟨notDeleted, isRole⟩
        exact ⟨before, isBefore, isRole, notDeleted.trans live.symm⟩
      · intro current project user role
        rcases current purpose with ⟨row, stored, sameRole, sameMark⟩
        rw [isBefore] at stored
        cases stored
        by_cases isOf : saving.IsOf project user
        · rw [hasRole_of_fits unique fits isBefore isOf, sameRole, sameMark]
          simp [isOf, live]
        · simp [isOf]

end Tables

/-! ## What a statement does -/

section Statements

variable {tables after : AccessTables} {stage : AccessStage} {choice : AccessChoice}
  {rest : Option AccessStage}

inductive Writes (tables after : AccessTables) (stage : AccessStage) : Prop
  | reads : after.permissions = tables.permissions → after.written = tables.written →
      Writes tables after stage
  | inserts (permission : Uuid) (row : PermissionRow) : row.isDeleted = false →
      tables.find true row.project row.user = none → permission ∉ tables.permissions →
      after = tables.insert permission row → Writes tables after stage
  | stores (saving : Saving) (wasSoftDeleted : Bool) : stage = .storing saving wasSoftDeleted →
      after = tables.store saving → Writes tables after stage

def AccessStage.Knows (tables : AccessTables) : AccessStage → Prop
  | .tracking saving | .storing saving _ => saving.Fits tables
  | _ => True

theorem Setting.fits_of_find {setting : Setting} {entry : (_ : Uuid) × PermissionRow}
    (found : tables.find setting.isEvent setting.project setting.user = some entry) :
    (setting.saving entry.1 entry.2).Fits tables := by
  rcases find_eq_some found with ⟨stored, _, _, live⟩
  refine ⟨⟨entry.2, stored, ?_⟩, ?_, nofun, nofun⟩
  · unfold Setting.saving Setting.edit
    split <;> exact ⟨rfl, rfl⟩
  · intro role isRole
    cases isRole
    unfold Setting.saving Setting.edit
    split
    · exact ⟨rfl, rfl⟩
    · next notEvent => exact ⟨rfl, live.resolve_left notEvent⟩

theorem fits_savingOf {entry : (_ : Uuid) × PermissionRow} {project : Uuid} {user : UserEmail}
    (found : tables.find false project user = some entry) (others : Option Json) :
    (savingOf entry.1 entry.2 others).Fits tables := by
  rcases find_eq_some found with ⟨stored, _, _, live⟩
  cases others with
  | none => exact ⟨⟨entry.2, stored, rfl, rfl⟩, nofun, fun _ => rfl, nofun⟩
  | some others =>
      exact ⟨⟨entry.2, stored, rfl, rfl⟩, nofun, nofun,
        fun _ => live.resolve_left Bool.false_ne_true⟩

theorem fits_insert (setting : Setting) (permission : Uuid) :
    (setting.saving permission setting.created).Fits
      (tables.insert permission setting.created) := by
  refine ⟨⟨setting.created, AList.lookup_insert _, ?_⟩, ?_, nofun, nofun⟩
  · unfold Setting.saving Setting.edit
    split <;> exact ⟨rfl, rfl⟩
  · intro role isRole
    cases isRole
    unfold Setting.saving Setting.edit
    split <;> exact ⟨rfl, rfl⟩

theorem proceed_writes (knows : stage.Knows tables)
    (proceeded : proceed tables stage = some (after, rest)) :
    Writes tables after stage ∧ ∀ remaining, rest = some remaining → remaining.Knows after := by
  cases stage with
  | gettingUser setting =>
      rw [proceed] at proceeded
      split at proceeded
      · cases proceeded
        exact ⟨.reads rfl rfl, fun _ isRest => by cases isRest; trivial⟩
      · split at proceeded
        · cases proceeded
          exact ⟨.reads rfl rfl, fun _ isRest => by cases isRest; trivial⟩
        · cases proceeded
          exact ⟨.reads rfl rfl, nofun⟩
  | gettingProject setting =>
      rw [proceed] at proceeded
      split at proceeded
      · cases proceeded
        exact ⟨.reads rfl rfl, fun _ isRest => by cases isRest; trivial⟩
      · cases proceeded
        exact ⟨.reads rfl rfl, nofun⟩
  | getting setting =>
      rw [proceed] at proceeded
      split at proceeded
      · next entry found =>
        cases proceeded
        refine ⟨.reads rfl rfl, ?_⟩
        intro remaining isRest
        cases isRest
        exact Setting.fits_of_find found
      · cases proceeded
        exact ⟨.reads rfl rfl, fun _ isRest => by cases isRest; trivial⟩
  | creating setting =>
      rw [proceed] at proceeded
      split at proceeded
      · cases proceeded
        exact ⟨.reads rfl rfl, fun _ isRest => by cases isRest; trivial⟩
      · cases proceeded
  | gettingAgain setting =>
      rw [proceed] at proceeded
      split at proceeded
      · next entry found =>
        cases proceeded
        refine ⟨.reads rfl rfl, ?_⟩
        intro remaining isRest
        cases isRest
        exact Setting.fits_of_find found
      · cases proceeded
        exact ⟨.reads rfl rfl, nofun⟩
  | gettingLive project user others =>
      rw [proceed] at proceeded
      split at proceeded
      · next entry found =>
        cases proceeded
        refine ⟨.reads rfl rfl, ?_⟩
        intro remaining isRest
        cases isRest
        exact fits_savingOf found others
      · cases proceeded
        exact ⟨.reads rfl rfl, nofun⟩
  | tracking saving =>
      cases proceeded
      refine ⟨.reads rfl rfl, ?_⟩
      intro remaining isRest
      cases isRest
      exact knows
  | storing saving wasSoftDeleted =>
      cases proceeded
      refine ⟨.stores saving wasSoftDeleted rfl rfl, ?_⟩
      intro remaining isRest
      split at isRest
      · cases isRest
        trivial
      · cases isRest
  | scheduling permission row =>
      cases proceeded
      exact ⟨.reads rfl rfl, fun _ isRest => by cases isRest; trivial⟩
  | deleting kind permission =>
      cases proceeded
      refine ⟨.reads rfl rfl, ?_⟩
      intro remaining isRest
      cases kind with
      | sector =>
          cases isRest
          trivial
      | queue => cases isRest
  | gettingPermission authorization findsLive =>
      rw [proceed] at proceeded
      split at proceeded
      · cases proceeded
        exact ⟨.reads rfl rfl, fun _ isRest => by cases isRest; trivial⟩
      · cases proceeded
        exact ⟨.reads rfl rfl, nofun⟩
  | authorizing authorization =>
      rw [proceed] at proceeded
      split at proceeded
      · cases proceeded
        exact ⟨.reads rfl rfl, nofun⟩
      · cases proceeded
        exact ⟨.reads rfl rfl, nofun⟩

theorem advance_writes (knows : stage.Knows tables)
    (advanced : advance tables stage choice = some (after, rest)) :
    Writes tables after stage ∧ ∀ remaining, rest = some remaining → remaining.Knows after := by
  cases choice with
  | returns => exact proceed_writes knows advanced
  | raises =>
      cases advanced
      exact ⟨.reads rfl rfl, nofun⟩
  | inserts permission =>
      cases stage with
      | creating setting =>
          rw [advance] at advanced
          split at advanced
          · cases advanced
          · next absent =>
            split at advanced
            · cases advanced
            · next fresh =>
              cases advanced
              refine ⟨.inserts permission setting.created rfl absent fresh rfl, ?_⟩
              intro remaining isRest
              split at isRest
              · cases isRest
              · cases isRest
                exact fits_insert setting permission
      | _ => cases advanced

def KeepsRows (tables after : AccessTables) : Prop :=
  ∀ permission row, tables.permissions.lookup permission = some row →
    ∃ later, after.permissions.lookup permission = some later ∧
      later.project = row.project ∧ later.user = row.user

theorem Writes.keepsRows (writes : Writes tables after stage) (knows : stage.Knows tables) :
    KeepsRows tables after := by
  intro permission row stored
  cases writes with
  | reads same _ => exact ⟨row, same ▸ stored, rfl, rfl⟩
  | inserts inserted newRow _ _ fresh isAfter =>
      refine ⟨row, ?_, rfl, rfl⟩
      rw [isAfter, ← stored]
      apply AList.lookup_insert_ne
      intro same
      rw [same] at stored
      exact fresh (AList.lookup_isSome.mp (by rw [stored]; rfl))
  | stores saving wasSoftDeleted isStage isAfter =>
      subst isStage
      rcases knows.stored with ⟨before, isBefore, ofProject, ofUser⟩
      by_cases same : permission = saving.permission
      · rw [same, isBefore] at stored
        cases stored
        refine ⟨saving.instanceRow, ?_, ofProject.symm, ofUser.symm⟩
        rw [isAfter, same]
        exact AList.lookup_insert _
      · refine ⟨row, ?_, rfl, rfl⟩
        rw [isAfter, ← stored]
        exact AList.lookup_insert_ne same

theorem AccessStage.Knows.congr {other : AccessStage} (knows : other.Knows tables)
    (keeps : KeepsRows tables after) : other.Knows after := by
  have fits : ∀ saving : Saving, saving.Fits tables → saving.Fits after := by
    intro saving fits
    rcases fits.stored with ⟨row, stored, ofProject, ofUser⟩
    rcases keeps saving.permission row stored with ⟨later, found, sameProject, sameUser⟩
    exact ⟨⟨later, found, sameProject.trans ofProject, sameUser.trans ofUser⟩, fits.sets,
      fits.removes, fits.keeps⟩
  cases other with
  | tracking saving => exact fits saving knows
  | storing saving wasSoftDeleted => exact fits saving knows
  | _ => trivial

end Statements

/-! ## The last write -/

/-- A save that only changes other columns finds the row as it has loaded it. -/
def SavesCurrent (tables : AccessTables) (stage : AccessStage) (choice : AccessChoice) : Prop :=
  match stage, choice with
  | .storing saving _, .returns => saving.Current tables
  | _, _ => True

abbrev AccessPool (Pid : Type) := Pool Pid AccessTables AccessStage

abbrev AccessEvent (Pid : Type) := PoolEvent Pid AccessTask AccessChoice AccessAmbient

def accessOutline (Pid : Type) :
    InterferenceOutline accessProgram
      (Machine.anyStep : AccessPool Pid → AccessEvent Pid → Prop) where
  Invariant := AccessTables.Unique
  Assertion := fun tables stage => stage.Knows tables
  enter := by
    intro tables task _
    cases task <;> trivial
  advance := by
    intro pool pid choice stage after rest _ _ unique knows advanced
    rcases advance_writes knows advanced with ⟨writes, remains⟩
    refine ⟨?_, remains⟩
    cases writes with
    | reads samePermissions _ =>
        unfold AccessTables.Unique
        rw [samePermissions]
        exact unique
    | inserts permission row _ absent _ isAfter =>
        rw [isAfter]
        exact unique_insert unique absent
    | stores saving wasSoftDeleted isStage isAfter =>
        subst isStage
        rw [isAfter]
        exact unique_store unique knows
  advanceOther := by
    intro pool pid choice stage after rest _ _ _ knows advanced other otherStage _ _ otherKnows
    exact otherKnows.congr ((advance_writes knows advanced).1.keepsRows knows)
  surround := by
    intro pool event after _ unique surrounded
    cases event <;> cases surrounded <;> exact ⟨unique,
      fun _ _ _ knows => knows.congr fun _ row stored => ⟨row, stored, rfl, rfl⟩⟩

section Runs

variable {Pid : Type} [DecidableEq Pid] {pool next : AccessPool Pid} {event : AccessEvent Pid}

theorem agrees_congr {tables after : AccessTables}
    (samePermissions : after.permissions = tables.permissions)
    (sameWritten : after.written = tables.written) : after.Agrees ↔ tables.Agrees := by
  unfold AccessTables.Agrees AccessTables.access AccessTables.find
  rw [samePermissions, sameWritten]

theorem step_agrees_iff (holds : (accessOutline Pid).Holds pool) (agrees : pool.shared.Agrees)
    (stepped : accessProgram.machine.step pool event = some next) :
    next.shared.Agrees ↔ Pool.OwnStep SavesCurrent pool event := by
  cases event with
  | start pid task =>
      rcases Program.step_start stepped with ⟨_, rfl⟩
      exact ⟨fun _ => trivial, fun _ => agrees⟩
  | kill pid =>
      rcases Program.step_kill stepped with ⟨_, rfl⟩
      exact ⟨fun _ => trivial, fun _ => agrees⟩
  | surround event =>
      rcases Program.step_surround stepped with ⟨tables, surrounded, rfl⟩
      cases event <;> cases surrounded <;> exact ⟨fun _ => trivial, fun _ => agrees⟩
  | advance pid choice =>
      rcases Program.step_advance stepped with ⟨stage, tables, rest, running, advanced, rfl⟩
      have knows : stage.Knows pool.shared := holds.locals pid stage running
      simp only [Pool.OwnStep, running]
      change tables.Agrees ↔ _
      cases (advance_writes knows advanced).1 with
      | reads samePermissions sameWritten =>
          rw [agrees_congr samePermissions sameWritten]
          refine ⟨fun _ => ?_, fun _ => agrees⟩
          cases stage with
          | storing saving wasSoftDeleted =>
              cases choice with
              | returns =>
                  have isAfter : pool.shared.store saving = tables :=
                    congrArg Prod.fst (Option.some.inj advanced)
                  apply (agrees_store_iff holds.shared agrees knows).mp
                  rw [isAfter, agrees_congr samePermissions sameWritten]
                  exact agrees
              | _ => trivial
          | _ => cases choice <;> trivial
      | inserts permission row live absent fresh isAfter =>
          rw [isAfter]
          refine ⟨fun _ => ?_, fun _ => agrees_insert holds.shared agrees live absent fresh⟩
          cases choice with
          | returns =>
              cases stage with
              | storing saving wasSoftDeleted =>
                  have isStore : pool.shared.store saving = tables :=
                    congrArg Prod.fst (Option.some.inj advanced)
                  apply (agrees_store_iff holds.shared agrees knows).mp
                  rw [isStore, isAfter]
                  exact agrees_insert holds.shared agrees live absent fresh
              | _ => trivial
          | _ => cases stage <;> trivial
      | stores saving wasSoftDeleted isStage isAfter =>
          subst isStage
          cases choice with
          | returns =>
              rw [isAfter]
              exact agrees_store_iff holds.shared agrees knows
          | raises =>
              have same : pool.shared = tables := congrArg Prod.fst (Option.some.inj advanced)
              rw [← same]
              exact ⟨fun _ => trivial, fun _ => agrees⟩
          | inserts permission => cases advanced

theorem initial_unique (users : List UserEmail) (projects : List Uuid) :
    (AccessTables.initial users projects).Unique := by
  intro permission other row otherRow stored
  cases stored

end Runs

/-- However events and requests interleave, each user has the role in each project that has been
written last, or no access where the last write has removed it, throughout a run exactly when no
instance is saved for another column after its row has got another role or another mark. -/
theorem access_is_last_written_iff {Pid : Type} [DecidableEq Pid] (users : List UserEmail)
    (projects : List Uuid) (events : List (AccessEvent Pid)) :
    accessProgram.machine.Throughout
        (fun pool => ∀ project user,
          pool.shared.access project user = pool.shared.written project user)
        (Pool.idle (.initial users projects)) events ↔
      accessProgram.machine.AllSteps (Pool.OwnStep SavesCurrent)
        (Pool.idle (.initial users projects)) events := by
  apply Machine.throughout_iff_allSteps
  · exact fun pool event next holds stepped => (accessOutline Pid).holds_step holds trivial stepped
  · exact fun pool event next holds agrees stepped => step_agrees_iff holds agrees stepped
  · exact (accessOutline Pid).holds_of_isIdle (initial_unique users projects)
      (Pool.idle_isIdle _)
  · intro project user
    rfl

end ChatsEngine.Projects.Permissions
