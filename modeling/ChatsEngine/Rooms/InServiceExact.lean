import ChatsEngine.Rooms.InService

/-! # When the In-Service status follows the rooms

`_update_agent_service_status` looks up the previous user after the row has been
written, so for a stored room it finds the new user and does nothing. Creating
and closing rooms keep the status in step with the rooms; assigning, transferring
and unassigning do so only while the agent keeps another room. -/

namespace ChatsEngine.Rooms

open ChatsEngine.Projects

variable {projectOf : Uuid → Uuid} {state : ServiceState}
  {user other : UserEmail} {project elsewhere : Uuid}

namespace ServiceState

def HasInService (user : UserEmail) (project : Uuid) (state : ServiceState) : Prop :=
  ∃ status ∈ state.statuses.rows, IsInService user project status

def HasOtherRoom (projectOf : Uuid → Uuid) (user : UserEmail) (project uuid : Uuid)
    (state : ServiceState) : Prop :=
  ∃ entry ∈ state.rooms.entries, entry.1 ≠ uuid ∧ Occupies projectOf user project entry.2

def HasActiveRoom (projectOf : Uuid → Uuid) (user : UserEmail) (project : Uuid)
    (state : ServiceState) : Prop :=
  ∃ entry ∈ state.rooms.entries, Occupies projectOf user project entry.2

def Exact (projectOf : Uuid → Uuid) (user : UserEmail) (project : Uuid)
    (state : ServiceState) : Prop :=
  state.HasInService user project ↔ state.HasActiveRoom projectOf user project

instance (projectOf : Uuid → Uuid) (user : UserEmail) (project : Uuid)
    (state : ServiceState) : Decidable (state.Exact projectOf user project) := by
  unfold Exact HasInService HasActiveRoom
  infer_instance

structure Eligible (user : UserEmail) (project : Uuid) (state : ServiceState) : Prop where
  online : ∃ permission, findPermission state.permissions user project = some permission ∧
    permission.status = .online
  noPriority : state.hasPriorityStatus user project = false

/-! ## Rooms -/

theorem roomCount_eq_zero_iff :
    state.roomCount projectOf user project = 0 ↔
      ¬state.HasActiveRoom projectOf user project := by
  rw [roomCount, List.countP_eq_zero, HasActiveRoom, not_exists]
  simp only [decide_eq_true_eq, not_and]

theorem hasActiveRoom_iff {uuid : Uuid} {row : RoomRecord}
    (found : state.rooms.lookup uuid = some row) :
    state.HasActiveRoom projectOf user project ↔
      Occupies projectOf user project row ∨
        state.HasOtherRoom projectOf user project uuid := by
  constructor
  · intro hasRoom
    rcases hasRoom with ⟨entry, member, occupies⟩
    by_cases same : entry.1 = uuid
    · subst same
      have isRow := AList.mem_lookup_iff.mpr member
      cases found.symm.trans isRow
      exact .inl occupies
    · exact .inr ⟨entry, member, same, occupies⟩
  · intro hasRoom
    rcases hasRoom with occupies | ⟨entry, member, _, occupies⟩
    · exact ⟨⟨uuid, row⟩, AList.mem_lookup_iff.mp found, occupies⟩
    · exact ⟨entry, member, occupies⟩

theorem hasOtherRoom_insert {uuid : Uuid} {row : RoomRecord} {statuses : StatusTable} :
    HasOtherRoom projectOf user project uuid
        { state with rooms := state.rooms.insert uuid row, statuses := statuses } ↔
      state.HasOtherRoom projectOf user project uuid := by
  have sameEntry : ∀ entry : (_ : Uuid) × RoomRecord, entry.1 ≠ uuid →
      (entry ∈ (state.rooms.insert uuid row).entries ↔ entry ∈ state.rooms.entries) := by
    intro entry different
    rw [← AList.mem_lookup_iff, ← AList.mem_lookup_iff, AList.lookup_insert_ne different]
  constructor
  · intro hasRoom
    rcases hasRoom with ⟨entry, member, different, occupies⟩
    exact ⟨entry, (sameEntry entry different).mp member, different, occupies⟩
  · intro hasRoom
    rcases hasRoom with ⟨entry, member, different, occupies⟩
    exact ⟨entry, (sameEntry entry different).mpr member, different, occupies⟩

theorem hasActiveRoom_iff_of_not_mem {uuid : Uuid} (isNew : uuid ∉ state.rooms) :
    state.HasActiveRoom projectOf user project ↔
      state.HasOtherRoom projectOf user project uuid := by
  constructor
  · intro hasRoom
    rcases hasRoom with ⟨entry, member, occupies⟩
    refine ⟨entry, member, ?_, occupies⟩
    intro same
    subst same
    exact isNew (AList.mem_keys.mpr (List.mem_map_of_mem member))
  · intro hasRoom
    rcases hasRoom with ⟨entry, member, _, occupies⟩
    exact ⟨entry, member, occupies⟩

theorem hasActiveRoom_insert {uuid : Uuid} {row : RoomRecord} :
    HasActiveRoom projectOf user project { state with rooms := state.rooms.insert uuid row } ↔
      Occupies projectOf user project row ∨
        state.HasOtherRoom projectOf user project uuid := by
  rw [hasActiveRoom_iff (AList.lookup_insert _), hasOtherRoom_insert]

/-! ## The service -/

theorem roomAssigned_cases (projectOf : Uuid → Uuid) (state : ServiceState) (user : UserEmail)
    (project : Uuid) :
    state.roomAssigned projectOf user project = state ∨
      state.roomAssigned projectOf user project =
        { state with
          statuses := state.statuses.create (newInService user project state.now) } := by
  rw [roomAssigned]
  split
  · exact .inl rfl
  · dsimp only
    split
    · exact .inr rfl
    · exact .inl rfl

@[simp] theorem hasActiveRoom_roomAssigned :
    (state.roomAssigned projectOf other elsewhere).HasActiveRoom projectOf user project ↔
      state.HasActiveRoom projectOf user project := by
  rcases roomAssigned_cases projectOf state other elsewhere with same | created
  · rw [same]
  · rw [created]
    rfl

@[simp] theorem hasActiveRoom_roomClosed :
    (state.roomClosed projectOf other elsewhere).HasActiveRoom projectOf user project ↔
      state.HasActiveRoom projectOf user project := by
  rw [roomClosed]
  split <;> rfl

theorem hasPriorityStatus_eq_false_iff :
    state.hasPriorityStatus user project = false ↔
      ∀ status ∈ state.statuses.rows, status.ActiveFor user project →
        status.statusType = inServiceType project := by
  simp [hasPriorityStatus, List.any_eq_false]

theorem hasInService_roomAssigned (eligible : state.Eligible user project)
    (hasRoom : state.HasActiveRoom projectOf user project) :
    (state.roomAssigned projectOf user project).HasInService user project := by
  rcases eligible.online with ⟨permission, found, online⟩
  have counted : state.roomCount projectOf user project ≥ 1 := by
    rw [ge_iff_le, Nat.one_le_iff_ne_zero, ne_eq, roomCount_eq_zero_iff, not_not]
    exact hasRoom
  rw [roomAssigned, found]
  dsimp only
  split
  · exact ⟨newInService user project state.now,
      StatusTable.mem_create_self _ _, ⟨rfl, rfl, rfl⟩, rfl⟩
  · next refused =>
      by_contra noStatus
      apply refused
      refine ⟨counted, ?_, eligible.noPriority, online⟩
      rw [List.find?_eq_none]
      intro status member isInService
      exact noStatus ⟨status, member, of_decide_eq_true isInService⟩

theorem hasInService_roomAssigned_of_other
    (different : ¬(other = user ∧ elsewhere = project)) :
    (state.roomAssigned projectOf other elsewhere).HasInService user project ↔
      state.HasInService user project := by
  rcases roomAssigned_cases projectOf state other elsewhere with same | created
  · rw [same]
  · rw [created]
    constructor
    · intro inService
      rcases inService with ⟨status, member, isInService⟩
      exact ⟨status, (StatusTable.mem_create_of_other isInService.1 different).mp member,
        isInService⟩
    · intro inService
      rcases inService with ⟨status, member, isInService⟩
      exact ⟨status, (StatusTable.mem_create_of_other isInService.1 different).mpr member,
        isInService⟩

theorem hasInService_roomClosed_of_other
    (different : ¬(other = user ∧ elsewhere = project)) :
    (state.roomClosed projectOf other elsewhere).HasInService user project ↔
      state.HasInService user project := by
  rw [roomClosed]
  split
  · constructor
    · intro inService
      rcases inService with ⟨status, member, isInService⟩
      exact ⟨status, StatusTable.of_mem_endFirst member isInService.1.2.2, isInService⟩
    · intro inService
      rcases inService with ⟨status, member, isInService⟩
      refine ⟨status, StatusTable.mem_endFirst_of_not_selected member ?_, isInService⟩
      intro selected
      exact different ⟨selected.1.1.symm.trans isInService.1.1,
        selected.1.2.1.symm.trans isInService.1.2.1⟩
  · rfl

theorem not_hasInService_roomClosed
    (noRoom : ¬state.HasActiveRoom projectOf user project) :
    ¬(state.roomClosed projectOf user project).HasInService user project := by
  rw [roomClosed, if_pos (roomCount_eq_zero_iff.mpr noRoom)]
  intro inService
  rcases inService with ⟨status, member, isInService⟩
  exact StatusTable.not_selected_of_mem_endFirst (fun _ selected => selected.1) member
    isInService

theorem roomClosed_of_hasActiveRoom (hasRoom : state.HasActiveRoom projectOf user project) :
    state.roomClosed projectOf user project = state := by
  rw [roomClosed, if_neg]
  rw [roomCount_eq_zero_iff, not_not]
  exact hasRoom

/-! ## Eligible agents stay eligible -/

theorem Eligible.roomAssigned (eligible : state.Eligible user project)
    (assignee : UserEmail) (assigned : Uuid) :
    (state.roomAssigned projectOf assignee assigned).Eligible user project := by
  rcases roomAssigned_cases projectOf state assignee assigned with same | created
  · rw [same]
    exact eligible
  · rw [created]
    refine ⟨eligible.online, ?_⟩
    rw [hasPriorityStatus_eq_false_iff]
    intro status member isActive
    rcases StatusTable.of_mem_create member isActive.2.2 with rfl | before
    · rw [← isActive.2.1]
      rfl
    · exact hasPriorityStatus_eq_false_iff.mp eligible.noPriority status before isActive

theorem Eligible.roomClosed (eligible : state.Eligible user project)
    (holder : UserEmail) (closed : Uuid) :
    (state.roomClosed projectOf holder closed).Eligible user project := by
  rw [ServiceState.roomClosed]
  split
  · refine ⟨eligible.online, ?_⟩
    rw [hasPriorityStatus_eq_false_iff]
    intro status member isActive
    exact hasPriorityStatus_eq_false_iff.mp eligible.noPriority status
      (StatusTable.of_mem_endFirst member isActive.2.2) isActive
  · exact eligible

theorem Eligible.insert (eligible : state.Eligible user project) (uuid : Uuid)
    (row : RoomRecord) :
    Eligible user project { state with rooms := state.rooms.insert uuid row } where
  online := eligible.online
  noPriority := eligible.noPriority

/-! ## Saving -/

theorem updateAgentServiceStatus_of_stored {uuid : Uuid} {row : RoomRecord}
    (stored : state.rooms.lookup uuid = some row) :
    state.updateAgentServiceStatus projectOf false uuid row = state := by
  unfold updateAgentServiceStatus
  rw [stored, Option.bind_some]
  dsimp only
  split
  · rfl
  · cases row .user <;> simp

theorem updateAgentServiceStatus_of_new {uuid queue : Uuid} {row : RoomRecord}
    (stored : state.rooms.lookup uuid = some row) (queued : row .queue = some queue) :
    state.updateAgentServiceStatus projectOf true uuid row =
      match (row .user : Option UserEmail) with
      | none => state
      | some user => state.roomAssigned projectOf user (projectOf queue) := by
  rw [updateAgentServiceStatus]
  rw [stored, queued, Option.bind_some, Option.map_some]
  cases row .user <;> rfl

/-- The row that a save stores has the values of the instance in all columns that
`Room.save` does not assign. -/
def Stamps (room row : RoomRecord) : Prop :=
  ∀ column, column ∉ RoomInstance.stampedColumns → row column = room column

theorem Stamps.occupies_iff {room row : RoomRecord} (stamps : Stamps room row) :
    Occupies projectOf user project row ↔ Occupies projectOf user project room := by
  unfold Occupies
  rw [stamps .isActive (by decide), stamps .user (by decide), stamps .queue (by decide)]

theorem Stamps.refuses_iff {room row : RoomRecord} (stamps : Stamps room row) (uuid : Uuid) :
    state.Refuses uuid row ↔ state.Refuses uuid room := by
  unfold Refuses
  rw [stamps .isActive (by decide), stamps .contact (by decide), stamps .queue (by decide)]

/-- `Room.save` raises: the stored room is closed, or a constraint refuses the row. -/
def Raises (uuid : Uuid) (room : RoomInstance) (state : ServiceState) : Prop :=
  (room.adding = false ∧
    (state.rooms.lookup uuid).map (fun row => (row .isActive : Bool)) = some false) ∨
  state.Refuses uuid room.values

instance (uuid : Uuid) (room : RoomInstance) (state : ServiceState) :
    Decidable (state.Raises uuid room) := by
  unfold Raises
  infer_instance

theorem saveRoom_cases (projectOf : Uuid → Uuid) (state : ServiceState) (uuid : Uuid)
    (room : RoomInstance) :
    (state.Raises uuid room ∧ state.saveRoom projectOf uuid room = none) ∨
    (¬state.Raises uuid room ∧ ∃ row, Stamps room.values row ∧
      state.saveRoom projectOf uuid room =
        some (({ state with rooms := state.rooms.insert uuid row } :
          ServiceState).updateAgentServiceStatus projectOf room.adding uuid row)) := by
  have stamps : Stamps room.values
      (room.assign (room.saveAssignments state.now none)).values :=
    fun column spared => RoomInstance.saveAssignments_spare spared state.now none room
  rw [saveRoom]
  dsimp only
  split
  · next closed => exact .inl ⟨.inl closed, rfl⟩
  · next notClosed =>
      split
      · next refuses => exact .inl ⟨.inr ((stamps.refuses_iff uuid).mp refuses), rfl⟩
      · next accepts =>
          right
          refine ⟨?_, _, stamps, rfl⟩
          intro raises
          rcases raises with closed | refuses
          · exact notClosed closed
          · exact accepts ((stamps.refuses_iff uuid).mpr refuses)

theorem saveRoom_loaded (projectOf : Uuid → Uuid) (state : ServiceState) (uuid : Uuid)
    {room : RoomInstance} (loaded : room.adding = false) :
    (state.Raises uuid room ∧ state.saveRoom projectOf uuid room = none) ∨
    (¬state.Raises uuid room ∧ ∃ row, Stamps room.values row ∧
      state.saveRoom projectOf uuid room =
        some { state with rooms := state.rooms.insert uuid row }) := by
  rcases saveRoom_cases projectOf state uuid room with raised | ⟨succeeds, row, stamps, saved⟩
  · exact .inl raised
  · refine .inr ⟨succeeds, row, stamps, ?_⟩
    rw [saved, loaded, updateAgentServiceStatus_of_stored (AList.lookup_insert _)]

/-! ## Steps -/

/-- The transfer gives the agent no first room in the project and takes away no
last one, unless it fails. -/
def TransferKeepsHolder (projectOf : Uuid → Uuid) (user : UserEmail) (project uuid : Uuid)
    (queue : Option Uuid) (newUser : Option UserEmail) (state : ServiceState) : Prop :=
  ∀ row ∈ state.rooms.lookup uuid, ¬state.Raises uuid (transferredRoom row queue newUser) →
    (Occupies projectOf user project row ↔
      Occupies projectOf user project (transferredRoom row queue newUser).values) ∨
    state.HasOtherRoom projectOf user project uuid

/-- Creations and closures keep the agent's status in step with the rooms; other
changes of the assignment have to keep the holder. -/
def KeepsHolder (projectOf : Uuid → Uuid) (user : UserEmail) (project : Uuid)
    (state : ServiceState) : ServiceEvent → Prop
  | .transfer uuid queue newUser =>
      state.TransferKeepsHolder projectOf user project uuid queue newUser
  | _ => True

instance (projectOf : Uuid → Uuid) (user : UserEmail) (project : Uuid)
    (state : ServiceState) (event : ServiceEvent) :
    Decidable (state.KeepsHolder projectOf user project event) := by
  unfold KeepsHolder TransferKeepsHolder HasOtherRoom
  split <;> infer_instance

variable {next : ServiceState}

theorem exact_transfer {uuid : Uuid} {queue : Option Uuid} {newUser : Option UserEmail}
    (isExact : state.Exact projectOf user project)
    (stepped : state.step projectOf (.transfer uuid queue newUser) = some next) :
    next.Exact projectOf user project ↔
      state.TransferKeepsHolder projectOf user project uuid queue newUser := by
  rw [step] at stepped
  rw [TransferKeepsHolder]
  split at stepped
  · next missing =>
      cases stepped
      simp [missing, isExact]
  · next row found =>
      rw [found]
      simp only [Option.mem_some_iff, forall_eq']
      have loaded : (transferredRoom row queue newUser).adding = false := rfl
      rcases saveRoom_loaded projectOf state uuid loaded with
        ⟨raises, raised⟩ | ⟨succeeds, written, stamps, saved⟩
      · rw [raised, Option.getD_none] at stepped
        cases stepped
        exact ⟨fun _ accepted => absurd raises accepted, fun _ => isExact⟩
      · rw [saved, Option.getD_some] at stepped
        cases stepped
        have before : state.HasInService user project ↔ _ :=
          isExact.trans (hasActiveRoom_iff found)
        have after : HasActiveRoom projectOf user project
            { state with rooms := state.rooms.insert uuid written } ↔ _ :=
          hasActiveRoom_insert.trans (or_congr_left stamps.occupies_iff)
        have sameStatuses : HasInService user project
            { state with rooms := state.rooms.insert uuid written } ↔
            state.HasInService user project := Iff.rfl
        rw [Exact, sameStatuses, after, before, forall_prop_of_true succeeds]
        by_cases other : state.HasOtherRoom projectOf user project uuid
        · simp only [other, or_true]
        · simp only [other, or_false]

theorem hasActiveRoom_insert_closed (projectOf : Uuid → Uuid) (user : UserEmail)
    (project : Uuid) (state : ServiceState) (uuid : Uuid) {written : RoomRecord}
    (closed : written .isActive = false) :
    HasActiveRoom projectOf user project
        { state with rooms := state.rooms.insert uuid written } ↔
      state.HasOtherRoom projectOf user project uuid := by
  rw [hasActiveRoom_insert, or_iff_right]
  intro occupies
  cases closed.symm.trans occupies.1

theorem exact_roomClosed {uuid : Uuid} {row written : RoomRecord}
    (isExact : state.Exact projectOf user project)
    (found : state.rooms.lookup uuid = some row)
    (closed : written .isActive = false)
    {holder : UserEmail} {queue : Uuid} (held : row .user = some holder)
    (queued : row .queue = some queue) :
    (({ state with rooms := state.rooms.insert uuid written } : ServiceState).roomClosed
      projectOf holder (projectOf queue)).Exact projectOf user project := by
  have before := isExact.trans (hasActiveRoom_iff found)
  have after := hasActiveRoom_insert_closed projectOf user project state uuid closed
  rw [Exact, hasActiveRoom_roomClosed]
  by_cases same : holder = user ∧ projectOf queue = project
  · rcases same with ⟨rfl, rfl⟩
    by_cases keeps : state.HasOtherRoom projectOf holder (projectOf queue) uuid
    · rw [roomClosed_of_hasActiveRoom (after.mpr keeps), after]
      exact ⟨fun _ => keeps, fun _ => before.mpr (.inr keeps)⟩
    · have noRoom := mt after.mp keeps
      exact ⟨fun inService => absurd inService (not_hasInService_roomClosed noRoom),
        fun hasRoom => absurd hasRoom noRoom⟩
  · rw [hasInService_roomClosed_of_other same, after]
    have notHeld : ¬Occupies projectOf user project row := by
      intro occupies
      apply same
      rw [Occupies, held, queued, Option.map_some] at occupies
      exact ⟨Option.some.inj occupies.2.1, Option.some.inj occupies.2.2⟩
    exact before.trans (or_iff_right notHeld)

theorem exact_close {uuid : Uuid} {endedBy : String} {closedBy : Option UserEmail}
    (isExact : state.Exact projectOf user project)
    (stepped : state.step projectOf (.close uuid endedBy closedBy) = some next) :
    next.Exact projectOf user project := by
  rw [step] at stepped
  split at stepped
  · cases stepped
    exact isExact
  · next row found =>
      rw [closeRoom] at stepped
      have loaded : ((RoomInstance.load row).assign
        (RoomInstance.closing state.now endedBy closedBy)).adding = false := rfl
      rcases saveRoom_loaded projectOf state uuid loaded with
        ⟨_, raised⟩ | ⟨succeeds, written, stamps, saved⟩
      · rw [raised] at stepped
        cases stepped
        exact isExact
      · rw [saved] at stepped
        dsimp only at stepped
        have closed : written .isActive = false := stamps .isActive (by decide)
        split at stepped
        · next holder held queued =>
            cases stepped
            rcases Option.map_eq_some_iff.mp queued with ⟨queue, isQueue, rfl⟩
            exact exact_roomClosed isExact found closed held isQueue
        · next noHolder =>
            cases stepped
            have notHeld : ¬Occupies projectOf user project row := fun occupies =>
              noHolder user project occupies.2.1 occupies.2.2
            have before := isExact.trans (hasActiveRoom_iff found)
            exact (before.trans (or_iff_right notHeld)).trans
              (hasActiveRoom_insert_closed projectOf user project state uuid closed).symm

theorem exact_create {uuid contact queue : Uuid} {newUser : Option UserEmail}
    (eligible : state.Eligible user project) (isExact : state.Exact projectOf user project)
    (stepped : state.step projectOf (.create uuid contact queue newUser) = some next) :
    next.Exact projectOf user project := by
  rw [step] at stepped
  split at stepped
  · cases stepped
  · next isNew =>
      rcases saveRoom_cases projectOf state uuid (newRoom state.now contact queue newUser) with
        ⟨_, raised⟩ | ⟨_, written, stamps, saved⟩
      · rw [raised] at stepped
        cases stepped
        exact isExact
      · have assigned : written .user = newUser := stamps .user (by decide)
        have queued : written .queue = some queue := stamps .queue (by decide)
        have unchanged : HasActiveRoom projectOf user project
            { state with rooms := state.rooms.insert uuid written } ↔
            Occupies projectOf user project written ∨
              state.HasActiveRoom projectOf user project := by
          rw [hasActiveRoom_insert, hasActiveRoom_iff_of_not_mem isNew]
        have isAdding : (newRoom state.now contact queue newUser).adding = true := rfl
        rw [saved, Option.getD_some, isAdding,
          updateAgentServiceStatus_of_new (AList.lookup_insert _) queued, assigned] at stepped
        cases newUser with
        | none =>
            cases stepped
            have notHeld : ¬Occupies projectOf user project written := by
              intro occupies
              cases assigned.symm.trans occupies.2.1
            exact isExact.trans (unchanged.trans (or_iff_right notHeld)).symm
        | some newUser =>
            cases stepped
            rw [Exact, hasActiveRoom_roomAssigned, unchanged]
            by_cases same : newUser = user ∧ projectOf queue = project
            · rcases same with ⟨rfl, rfl⟩
              have occupies : Occupies projectOf newUser (projectOf queue) written := by
                refine ⟨stamps .isActive (by decide), assigned, ?_⟩
                rw [queued, Option.map_some]
              exact ⟨fun _ => .inl occupies, fun _ =>
                hasInService_roomAssigned (eligible.insert uuid written)
                  (unchanged.mpr (.inl occupies))⟩
            · rw [hasInService_roomAssigned_of_other same]
              have notHeld : ¬Occupies projectOf user project written := by
                intro occupies
                apply same
                rw [Occupies, assigned, queued, Option.map_some] at occupies
                exact ⟨Option.some.inj occupies.2.1, Option.some.inj occupies.2.2⟩
              exact isExact.trans (or_iff_right notHeld).symm

/-! ## Runs -/

theorem Eligible.updateAgentServiceStatus (eligible : state.Eligible user project)
    (isNew : Bool) (uuid : Uuid) (room : RoomRecord) :
    (state.updateAgentServiceStatus projectOf isNew uuid room).Eligible user project := by
  unfold ServiceState.updateAgentServiceStatus
  dsimp only
  split
  · exact eligible
  · split
    · exact eligible.roomAssigned _ _
    · exact eligible.roomAssigned _ _
    · split
      · exact (eligible.roomClosed _ _).roomAssigned _ _
      · exact eligible
    · exact eligible.roomClosed _ _
    · exact eligible

theorem Eligible.saveRoom (eligible : state.Eligible user project) {uuid : Uuid}
    {room : RoomInstance} (saved : state.saveRoom projectOf uuid room = some next) :
    next.Eligible user project := by
  rcases saveRoom_cases projectOf state uuid room with
    ⟨_, raised⟩ | ⟨_, written, _, succeeded⟩
  · cases raised.symm.trans saved
  · cases succeeded.symm.trans saved
    exact (eligible.insert uuid written).updateAgentServiceStatus _ _ _

theorem Eligible.getD (eligible : state.Eligible user project)
    {result : Option ServiceState}
    (succeeded : ∀ after, result = some after → after.Eligible user project) :
    (result.getD state).Eligible user project := by
  cases result with
  | none => exact eligible
  | some after => exact succeeded after rfl

theorem Eligible.step {event : ServiceEvent} (eligible : state.Eligible user project)
    (stepped : state.step projectOf event = some next) : next.Eligible user project := by
  cases event with
  | create uuid contact queue newUser =>
      rw [ServiceState.step] at stepped
      split at stepped
      · cases stepped
      · cases stepped
        exact eligible.getD fun _ saved => eligible.saveRoom saved
  | transfer uuid queue newUser =>
      rw [ServiceState.step] at stepped
      split at stepped
      · cases stepped
        exact eligible
      · cases stepped
        exact eligible.getD fun _ saved => eligible.saveRoom saved
  | close uuid endedBy closedBy =>
      rw [ServiceState.step] at stepped
      split at stepped
      · cases stepped
        exact eligible
      · cases stepped
        apply eligible.getD
        intro after closed
        rw [closeRoom] at closed
        split at closed
        · cases closed
        · next saved succeeded =>
            have savedEligible := eligible.saveRoom succeeded
            split at closed
            · cases closed
              exact savedEligible.roomClosed _ _
            · cases closed
              exact savedEligible
  | tick elapsed =>
      cases stepped
      exact ⟨eligible.online, eligible.noPriority⟩

end ServiceState

open ServiceState in
/-- The agent's status follows the rooms throughout a run exactly when no
assignment, transfer or unassignment in it gives the agent a first room or takes
away the last one. -/
theorem in_service_follows_rooms (projectOf : Uuid → Uuid) {user : UserEmail} {project : Uuid}
    {initial : ServiceState} (eligible : initial.Eligible user project)
    (isExact : initial.Exact projectOf user project) (events : List ServiceEvent) :
    (serviceMachine projectOf).Throughout (Exact projectOf user project) initial events ↔
      (serviceMachine projectOf).AllSteps (KeepsHolder projectOf user project)
        initial events := by
  have preserved : ∀ state event next, Eligible user project state →
      (serviceMachine projectOf).step state event = some next → next.Eligible user project :=
    fun _ _ _ eligible stepped => eligible.step stepped
  refine Machine.throughout_iff_allSteps preserved ?_ eligible isExact events
  intro state event next eligible isExact stepped
  cases event with
  | create uuid contact queue newUser =>
      exact iff_of_true (exact_create eligible isExact stepped) trivial
  | transfer uuid queue newUser => exact exact_transfer isExact stepped
  | close uuid endedBy closedBy => exact iff_of_true (exact_close isExact stepped) trivial
  | tick elapsed =>
      cases stepped
      exact iff_of_true isExact trivial

/-! ## A queued room that is assigned -/

def onlineAgent : ProjectPermission where
  uuid := 1
  project := 1
  user := "agent@example.com"
  status := .online
  lastSeen := none
  customRoomsLimit := none
  isCustomLimitActive := false
  isDeleted := false

def quietProject : ServiceState where
  now := 0
  rooms := ∅
  permissions := [onlineAgent]
  statuses := { rows := [], oneActive := .nil }

theorem quietProject_eligible : quietProject.Eligible "agent@example.com" 1 where
  online := ⟨onlineAgent, by decide, rfl⟩
  noPriority := by decide

theorem quietProject_exact :
    quietProject.Exact (fun _ => 1) "agent@example.com" 1 := by
  constructor
  · intro inService
    rcases inService with ⟨status, member, _⟩
    cases member
  · intro hasRoom
    rcases hasRoom with ⟨entry, member, _⟩
    cases member

def agent : UserEmail := "agent@example.com"

theorem assigned_agent_not_in_service :
    ¬ ∀ (projectOf : Uuid → Uuid) (user : UserEmail) (project : Uuid)
      (initial : ServiceState) (events : List ServiceEvent),
      initial.Eligible user project → initial.Exact projectOf user project →
      (serviceMachine projectOf).Throughout (ServiceState.Exact projectOf user project)
        initial events := by
  intro follows
  have followed := follows (fun _ => 1) agent 1 quietProject
    [.create 10 20 30 none, .transfer 10 none (some agent)]
    quietProject_eligible quietProject_exact
  revert followed
  decide

/-- An agent takes a second room while the first one is open, and then both are
closed. -/
theorem in_service_follows_rooms_of_busy_agent :
    (serviceMachine fun _ => 1).Throughout (ServiceState.Exact (fun _ => 1) agent 1)
      quietProject
      [.create 10 20 30 (some agent), .create 11 21 30 none, .transfer 11 none (some agent),
        .close 10 "agent" none, .close 11 "agent" none] :=
  (in_service_follows_rooms (fun _ => 1) quietProject_eligible quietProject_exact _).mpr
    (by decide)

end ChatsEngine.Rooms
