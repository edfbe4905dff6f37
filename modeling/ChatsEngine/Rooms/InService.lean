import ChatsEngine.Foundation.Machine
import ChatsEngine.Projects.Statuses
import ChatsEngine.Rooms.Room
import Mathlib.Data.List.AList

/-! # The In-Service status

`Room.save` and `Room.close` tell `InServiceStatusService` about assignments and
closures, and the service gives an agent the In-Service status while rooms are
assigned to the agent. -/

namespace ChatsEngine.Rooms

open ChatsEngine.Projects

/-- What the service and the rooms read and write. `projectOf` gives the project
of a queue, through its sector. -/
structure ServiceState where
  now : Instant
  rooms : AList (fun _ : Uuid => RoomRecord)
  permissions : List ProjectPermission
  statuses : StatusTable

section Service

variable (projectOf : Uuid → Uuid)

def Occupies (user : UserEmail) (project : Uuid) (row : RoomRecord) : Prop :=
  row .isActive = true ∧ row .user = some user ∧
    (row .queue : Option Uuid).map projectOf = some project

instance (user : UserEmail) (project : Uuid) (row : RoomRecord) :
    Decidable (Occupies projectOf user project row) := by
  unfold Occupies
  infer_instance

/-- `InServiceStatusService.get_or_create_status_type`. -/
def inServiceType (project : Uuid) : CustomStatusType where
  name := "In-Service"
  project := project

def IsInService (user : UserEmail) (project : Uuid) (status : CustomStatus) : Prop :=
  status.ActiveFor user project ∧ status.statusType = inServiceType project

instance (user : UserEmail) (project : Uuid) (status : CustomStatus) :
    Decidable (IsInService user project status) := by
  unfold IsInService
  infer_instance

def newInService (user : UserEmail) (project : Uuid) (now : Instant) : CustomStatus where
  user := user
  statusType := inServiceType project
  isActive := true
  breakTime := 0
  project := project
  createdOn := now

namespace ServiceState

variable (state : ServiceState)

def roomCount (user : UserEmail) (project : Uuid) : Nat :=
  state.rooms.entries.countP fun entry => Occupies projectOf user project entry.2

def hasPriorityStatus (user : UserEmail) (project : Uuid) : Bool :=
  state.statuses.rows.any fun status =>
    status.ActiveFor user project && status.statusType ≠ inServiceType project

def roomAssigned (user : UserEmail) (project : Uuid) : ServiceState :=
  match findPermission state.permissions user project with
  | none => state
  | some permission =>
      let inServiceStatus := state.statuses.rows.find? (IsInService user project ·)
      if state.roomCount projectOf user project ≥ 1 ∧ inServiceStatus = none ∧
          state.hasPriorityStatus user project = false ∧ permission.status = .online then
        { state with statuses := state.statuses.create (newInService user project state.now) }
      else
        state

def roomClosed (user : UserEmail) (project : Uuid) : ServiceState :=
  if state.roomCount projectOf user project = 0 then
    { state with
      statuses := state.statuses.endFirst (IsInService user project)
        fun status => (state.now - status.createdOn) / 1000000 }
  else
    state

/-- `Room._update_agent_service_status`, called after the row is written. -/
def updateAgentServiceStatus (isNew : Bool) (uuid : Uuid) (room : RoomRecord) :
    ServiceState :=
  let oldUser : Option UserEmail := (state.rooms.lookup uuid).bind fun row => row .user
  let newUser : Option UserEmail := room .user
  match (room .queue : Option Uuid).map projectOf with
  | none => state
  | some project =>
      match isNew, oldUser, newUser with
      | true, _, some newUser => state.roomAssigned projectOf newUser project
      | _, none, some newUser => state.roomAssigned projectOf newUser project
      | _, some oldUser, some newUser =>
          if oldUser ≠ newUser then
            (state.roomClosed projectOf oldUser project).roomAssigned projectOf newUser project
          else
            state
      | _, some oldUser, none => state.roomClosed projectOf oldUser project
      | _, none, none => state

/-- The constraint `unique_contact_queue_is_activetrue_room` refuses the row. -/
def Refuses (uuid : Uuid) (room : RoomRecord) : Prop :=
  ∃ entry ∈ state.rooms.entries, entry.1 ≠ uuid ∧
    entry.2 .isActive = true ∧ room .isActive = true ∧
    room .contact ≠ none ∧ entry.2 .contact = room .contact ∧
    room .queue ≠ none ∧ entry.2 .queue = room .queue

instance (uuid : Uuid) (room : RoomRecord) : Decidable (state.Refuses uuid room) := by
  unfold Refuses
  infer_instance

/-- `Room.save`. There is no state when it raises. -/
def saveRoom (uuid : Uuid) (room : RoomInstance) : Option ServiceState :=
  let currentIsActive := (state.rooms.lookup uuid).map fun row => (row .isActive : Bool)
  if room.adding = false ∧ currentIsActive = some false then
    none
  else
    let stored := (room.assign (room.saveAssignments state.now none)).values
    if state.Refuses uuid stored then
      none
    else
      let written := { state with rooms := state.rooms.insert uuid stored }
      some (written.updateAgentServiceStatus projectOf room.adding uuid stored)

/-- `Room.close`. -/
def closeRoom (uuid : Uuid) (room : RoomInstance) (endedBy : String)
    (closedBy : Option UserEmail) : Option ServiceState :=
  match state.saveRoom projectOf uuid
      (room.assign (RoomInstance.closing state.now endedBy closedBy)) with
  | none => none
  | some saved =>
      match (room.values .user : Option UserEmail),
          (room.values .queue : Option Uuid).map projectOf with
      | some user, some project => some (saved.roomClosed projectOf user project)
      | _, _ => some saved

end ServiceState

inductive ServiceEvent
  | create (uuid : Uuid) (contact queue : Uuid) (user : Option UserEmail)
  /-- The queue stays the same when none is given. -/
  | transfer (uuid : Uuid) (queue : Option Uuid) (user : Option UserEmail)
  | close (uuid : Uuid) (endedBy : String) (closedBy : Option UserEmail)
  | tick (elapsed : Nat)

def newRoom (now : Instant) (contact queue : Uuid) (user : Option UserEmail) : RoomInstance :=
  .create ((RoomRecord.defaults now).assign
    [⟨.contact, some contact⟩, ⟨.queue, some queue⟩, ⟨.user, user⟩])

def transferredRoom (row : RoomRecord) (queue : Option Uuid) (user : Option UserEmail) :
    RoomInstance :=
  (RoomInstance.load row).assign
    (⟨.user, user⟩ :: (queue.map fun queue => ⟨.queue, some queue⟩).toList)

/-- A request on a room. A request that fails leaves the state as it is. -/
def ServiceState.step (state : ServiceState) : ServiceEvent → Option ServiceState
  | .create uuid contact queue user =>
      if uuid ∈ state.rooms then none
      else
        some ((state.saveRoom projectOf uuid
          (newRoom state.now contact queue user)).getD state)
  | .transfer uuid queue user =>
      match state.rooms.lookup uuid with
      | none => some state
      | some row =>
          some ((state.saveRoom projectOf uuid (transferredRoom row queue user)).getD state)
  | .close uuid endedBy closedBy =>
      match state.rooms.lookup uuid with
      | none => some state
      | some row =>
          some ((state.closeRoom projectOf uuid (.load row) endedBy closedBy).getD state)
  | .tick elapsed => some { state with now := state.now + elapsed }

def serviceMachine : Machine ServiceState ServiceEvent where
  step := ServiceState.step projectOf

end Service

end ChatsEngine.Rooms
