import ChatsEngine.Foundation.Action
import ChatsEngine.Foundation.Machine
import ChatsEngine.Foundation.Table
import ChatsEngine.Rooms.Room

/-! # Pins of rooms

An agent pins rooms that are assigned to the agent, up to a limit in each project. Nothing in
the table of pins says that its rooms are active and assigned to their users: the operations
on rooms clear the pins. -/

namespace ChatsEngine.Rooms

structure RoomPin where
  room : Uuid
  user : UserEmail
  project : Uuid
deriving DecidableEq, Repr

structure PinTables where
  rooms : Table Uuid RoomRecord
  pins : List RoomPin

structure PinSettings where
  maxRoomPinsLimit : Nat
  /-- The project of the sector of a queue. -/
  projectOf : Uuid → Uuid

/-- The statements of `Room.save` that may raise, besides its own check. -/
inductive SavePoint
  | clearingPins
  | storing
  /-- The tags of another sector, and the status of the agent. -/
  | afterStoring
deriving DecidableEq, Repr

inductive ClosePoint
  | handlingTags
  | clearingPins
  /-- The status of the agent, and the satisfaction survey. -/
  | roomClosed
deriving DecidableEq, Repr

inductive PinError
  | roomDoesNotExist
  | roomHasNoQueue
  | maxPinRoomLimitReached
  | permissionDenied
  | roomIsNotActive
  /-- "Closed rooms can't receive updates" -/
  | closedRoom
  | saving (point : SavePoint)
  | closing (point : ClosePoint)
deriving DecidableEq, Repr

abbrev PinAction := Action PinTables PinError

namespace PinTables

def pinsOf (tables : PinTables) (user : UserEmail) (project : Uuid) : List RoomPin :=
  tables.pins.filter fun pin => pin.user = user ∧ pin.project = project

def IsActive (tables : PinTables) (room : Uuid) : Prop :=
  ∃ row ∈ tables.rooms.lookup room, row .isActive = true

instance (tables : PinTables) (room : Uuid) : Decidable (tables.IsActive room) :=
  inferInstanceAs (Decidable (∃ row ∈ tables.rooms.lookup room, row .isActive = true))

def deletePins (tables : PinTables) (deleted : RoomPin → Bool) : PinTables :=
  { tables with pins := tables.pins.filter fun pin => !deleted pin }

/-- `super().save()` of an instance. -/
def store (tables : PinTables) (pk : Uuid) (room : RoomInstance)
    (updateFields : Option (List RoomColumn)) : PinTables :=
  { tables with
    rooms := tables.rooms.insert pk
      (match tables.rooms.lookup pk with
      | some row => row.store room.values updateFields
      | none => room.values) }

end PinTables

namespace PinAction

def getRoom (pk : Uuid) : PinAction RoomInstance := do
  let found ← Action.query fun tables => tables.rooms.lookup pk
  let row ← Action.expect found .roomDoesNotExist
  return .load row

def clearPins (pk : Uuid) : PinAction PUnit :=
  Action.update fun tables => tables.deletePins fun pin => pin.room = pk

def pin (settings : PinSettings) (pk : Uuid) (room : RoomInstance) (user : UserEmail) :
    PinAction PUnit := do
  let pins ← Action.query PinTables.pins
  if ∃ pin ∈ pins, pin.room = pk ∧ pin.user = user then
    return
  else
    let queue ← Action.expect (room.values .queue) .roomHasNoQueue
    let project := settings.projectOf queue
    let count ← Action.query fun tables =>
      (tables.pinsOf user project).countP fun pin => tables.IsActive pin.room
    Action.require (count < settings.maxRoomPinsLimit) .maxPinRoomLimitReached
    Action.require (room.values .user = some user) .permissionDenied
    Action.require (room.values .isActive = true) .roomIsNotActive
    Action.update fun tables => { tables with pins := ⟨pk, user, project⟩ :: tables.pins }

def unpin (pk : Uuid) (room : RoomInstance) (user : UserEmail) : PinAction PUnit := do
  Action.require (room.values .user = some user) .permissionDenied
  Action.update fun tables => tables.deletePins fun pin => pin.room = pk ∧ pin.user = user

end PinAction

/-- A call of `Room.save`, with the statement at which the database or a service raises. -/
structure SaveCall where
  now : Instant
  updateFields : Option (List RoomColumn)
  raisesAt : Option SavePoint

namespace PinAction

def save (pk : Uuid) (call : SaveCall) (room : RoomInstance) : PinAction RoomInstance := do
  let found ← Action.query fun tables => tables.rooms.lookup pk
  Action.require (¬(room.adding = false ∧ found.map (· .isActive) = some false)) .closedRoom
  let stamped := room.assign (room.saveAssignments call.now call.updateFields)
  Action.when (room.userHasChanged = true) do
    Action.require (call.raisesAt ≠ some .clearingPins) (.saving .clearingPins)
    clearPins pk
  Action.require (call.raisesAt ≠ some .storing) (.saving .storing)
  Action.update fun tables => tables.store pk stamped call.updateFields
  Action.require (call.raisesAt ≠ some .afterStoring) (.saving .afterStoring)
  return stamped.afterStore call.updateFields

def close (pk : Uuid) (endedBy : String) (closedBy : Option UserEmail) (now : Instant)
    (saveRaisesAt : Option SavePoint) (raisesAt : Option ClosePoint) (room : RoomInstance) :
    PinAction PUnit := do
  let closing := room.assign (RoomInstance.closing now endedBy closedBy)
  Action.atomic do
    Action.require (raisesAt ≠ some .handlingTags) (.closing .handlingTags)
    Action.require (raisesAt ≠ some .clearingPins) (.closing .clearingPins)
    clearPins pk
    let _ ← save pk { now, updateFields := none, raisesAt := saveRaisesAt } closing
  Action.require (raisesAt ≠ some .roomClosed) (.closing .roomClosed)

end PinAction

/-- What is assigned to a room before it is saved. Only `Room.close` changes whether the room
is active. -/
structure AssignmentChange where
  assignments : List RoomAssignment
  keepsActivity : RoomColumn.isActive ∉ assignments.map Sigma.fst

inductive RoomOperation
  | pin (user : UserEmail)
  | unpin (user : UserEmail)
  /-- Assign to the instance and save it, as often as needed. -/
  | change (steps : List (AssignmentChange × SaveCall))
  | close (endedBy : String) (closedBy : Option UserEmail) (now : Instant)
      (saveRaisesAt : Option SavePoint) (raisesAt : Option ClosePoint)

structure RoomCall where
  pk : Uuid
  operation : RoomOperation
  inTransaction : Bool

namespace PinAction

def changeAndSave (pk : Uuid) (room : RoomInstance) (step : AssignmentChange × SaveCall) :
    PinAction RoomInstance :=
  save pk step.2 (room.assign step.1.assignments)

def operate (settings : PinSettings) (pk : Uuid) (room : RoomInstance) :
    RoomOperation → PinAction PUnit
  | .pin user => pin settings pk room user
  | .unpin user => unpin pk room user
  | .change steps => do
      let _ ← Action.fold (changeAndSave pk) room steps
  | .close endedBy closedBy now saveRaisesAt raisesAt =>
      close pk endedBy closedBy now saveRaisesAt raisesAt room

def handle (settings : PinSettings) (request : RoomCall) : PinAction PUnit :=
  let action := do
    let room ← getRoom request.pk
    operate settings request.pk room request.operation
  if request.inTransaction then action.atomic else action

end PinAction

def pinMachine (settings : PinSettings) : Machine PinTables RoomCall where
  step tables request := some (PinAction.handle settings request tables).2

def PinTables.unpinned (rooms : Table Uuid RoomRecord) : PinTables where
  rooms := rooms
  pins := []

end ChatsEngine.Rooms
