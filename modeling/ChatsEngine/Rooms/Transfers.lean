import ChatsEngine.Core.Types
import ChatsEngine.Foundation.Action
import ChatsEngine.Foundation.Table

/-! # Transfers of rooms

A room is held by its user, or waits in its queue. Six operations change the holder of a room,
and each of them writes the entries of the room's transfer history by itself. -/

namespace ChatsEngine.Rooms

inductive RoomHolder
  | user (email : UserEmail)
  | queue (uuid : Uuid)
deriving DecidableEq, Repr

/-- How the history refers to an object. -/
structure ObjectData where
  type : String
  name : String
  uuid : Option Uuid
  id : Option Nat
  email : Option UserEmail
deriving DecidableEq, Repr

structure Transfer where
  action : String
  fromData : ObjectData
  toData : ObjectData
  requestedBy : ObjectData
deriving DecidableEq, Repr

structure TransferRoom where
  user : Option UserEmail
  queue : Option Uuid
  isActive : Bool
  fullTransferHistory : Option (List Transfer)
  /-- Legacy, only stores the last transfer. -/
  transferHistory : Option Transfer
deriving DecidableEq, Repr

namespace TransferRoom

def holder (room : TransferRoom) : Option RoomHolder :=
  (room.user.map .user).or (room.queue.map .queue)

/-- The entries of the history, of which there are none if it is null. -/
def history (room : TransferRoom) : List Transfer :=
  room.fullTransferHistory.getD []

def addTransfer (room : TransferRoom) (transfer : Transfer) : TransferRoom :=
  { room with
    fullTransferHistory := some (room.history ++ [transfer])
    transferHistory := some transfer }

/-- `save(update_fields=["full_transfer_history", "transfer_history"])` of an instance. -/
def storeHistory (row room : TransferRoom) : TransferRoom :=
  { row with
    fullTransferHistory := room.fullTransferHistory
    transferHistory := room.transferHistory }

section Fields

variable (row room : TransferRoom) (transfer : Transfer)

@[simp] theorem addTransfer_user : (room.addTransfer transfer).user = room.user := rfl

@[simp] theorem addTransfer_queue : (room.addTransfer transfer).queue = room.queue := rfl

@[simp] theorem addTransfer_isActive :
    (room.addTransfer transfer).isActive = room.isActive := rfl

@[simp] theorem addTransfer_history :
    (room.addTransfer transfer).history = room.history ++ [transfer] := rfl

@[simp] theorem storeHistory_addTransfer :
    room.storeHistory (room.addTransfer transfer) = room.addTransfer transfer := rfl

end Fields

end TransferRoom

abbrev TransferRooms := Table Uuid TransferRoom

/-- The columns of other tables that the entries contain, and `str.lower`. -/
structure TransferDirectory where
  userName : UserEmail → String
  userId : UserEmail → Nat
  queueName : Uuid → String
  lower : UserEmail → UserEmail

namespace TransferDirectory

def getDataFromObject (directory : TransferDirectory) : Option RoomHolder → ObjectData
  | none => { type := "", name := "", uuid := none, id := none, email := none }
  | some (.user email) =>
      { type := "user", name := directory.userName email, uuid := none,
        id := some (directory.userId email), email := some email }
  | some (.queue uuid) =>
      { type := "queue", name := directory.queueName uuid, uuid := some uuid,
        id := none, email := none }

@[simp] theorem getDataFromObject_inj (directory : TransferDirectory)
    {holder other : Option RoomHolder} :
    directory.getDataFromObject holder = directory.getDataFromObject other ↔ holder = other := by
  constructor
  · intro same
    have emails := congrArg ObjectData.email same
    have uuids := congrArg ObjectData.uuid same
    rcases holder with _ | ⟨email⟩ | ⟨uuid⟩ <;> rcases other with _ | ⟨own⟩ | ⟨own⟩ <;>
      simp_all [getDataFromObject]
  · exact congrArg directory.getDataFromObject

def createTransferJson (directory : TransferDirectory) (action : String)
    (origin destination : Option RoomHolder) (requestedBy : UserEmail) : Transfer where
  action := action
  fromData := directory.getDataFromObject origin
  toData := directory.getDataFromObject destination
  requestedBy := directory.getDataFromObject (some (.user requestedBy))

section Entry

variable (directory : TransferDirectory) (action : String)
  (origin destination : Option RoomHolder) (requestedBy : UserEmail)

@[simp] theorem createTransferJson_fromData :
    (directory.createTransferJson action origin destination requestedBy).fromData =
      directory.getDataFromObject origin := rfl

@[simp] theorem createTransferJson_toData :
    (directory.createTransferJson action origin destination requestedBy).toData =
      directory.getDataFromObject destination := rfl

end Entry

end TransferDirectory

inductive TransferStep
  | changingTicketer
  | creatingTransfer
  | storing (call : Nat)
  /-- What `Room.save` does after the row is stored. -/
  | afterStoring (call : Nat)
  | updatingMetrics
  | storingHistory (call : Nat)
  | afterStoringHistory (call : Nat)
  | creatingFeedbackMessage (call : Nat)
  | notifying
  | markingNotes
  | updatingTicket
  | sendingAutomaticMessage
deriving DecidableEq, Repr

inductive TransferError
  /-- "Closed rooms can't receive updates" -/
  | closedRoom
  | roomIsNotQueued
  | raised (step : TransferStep)
deriving DecidableEq, Repr

abbrev TransferAction := Action TransferRooms TransferError

namespace TransferAction

/-- Carry out statements of which the environment may let one raise. -/
def steps (fault : Option TransferStep) (points : List TransferStep) : TransferAction PUnit :=
  match fault with
  | none => return
  | some point => Action.require (point ∉ points) (.raised point)

/-- The check in `Room.save`, which reads the stored row. -/
def checkActive (pk : Uuid) : TransferAction PUnit := do
  let found ← Action.query fun rooms => rooms.lookup pk
  Action.require (found.map TransferRoom.isActive ≠ some false) .closedRoom

def save (fault : Option TransferStep) (call : Nat) (pk : Uuid) (room : TransferRoom) :
    TransferAction PUnit := do
  checkActive pk
  steps fault [.storing call]
  Action.update fun rooms => rooms.insert pk room
  steps fault [.afterStoring call]

def addTransferToHistory (fault : Option TransferStep) (call : Nat) (pk : Uuid)
    (room : TransferRoom) (transfer : Transfer) : TransferAction TransferRoom := do
  let added := room.addTransfer transfer
  checkActive pk
  steps fault [.storingHistory call]
  Action.update fun rooms => rooms.modify pk fun row => row.storeHistory added
  steps fault [.afterStoringHistory call]
  return added

variable (directory : TransferDirectory) (fault : Option TransferStep) (pk : Uuid)
  (room : TransferRoom) (requester : UserEmail)

def transferUserAndQueue (user : UserEmail) (queue : Uuid) : TransferAction PUnit := do
  let oldUser := room.user
  let oldQueue := room.queue
  steps fault [.changingTicketer]
  let room := { room with user := some user, queue := some queue }
  save fault 0 pk room
  Action.when (oldUser = none) (steps fault [.updatingMetrics])
  let feedbackQueue := directory.createTransferJson "transfer" (oldQueue.map .queue)
    (some (.queue queue)) requester
  let feedbackUser := directory.createTransferJson "transfer" (oldUser.map .user)
    (some (.user user)) requester
  let room ← addTransferToHistory fault 0 pk room feedbackQueue
  let _ ← addTransferToHistory fault 1 pk room feedbackUser
  steps fault [.creatingFeedbackMessage 0, .creatingFeedbackMessage 1, .notifying,
    .markingNotes, .updatingTicket]

def transferUser (user : UserEmail) : TransferAction PUnit := do
  let oldUser := room.user
  let transferUser := room.user.getD requester
  let feedbackUser := directory.createTransferJson "transfer" (oldUser.map .user)
    (some (.user transferUser)) requester
  let room := { room with user := some user }
  save fault 0 pk room
  Action.when (oldUser = none) (steps fault [.updatingMetrics])
  let _ ← addTransferToHistory fault 0 pk room feedbackUser
  steps fault [.creatingFeedbackMessage 0, .notifying, .updatingTicket, .markingNotes,
    .sendingAutomaticMessage]

def transferQueue (queue : Uuid) : TransferAction PUnit := do
  let transferUser := room.user.getD requester
  steps fault [.changingTicketer]
  let feedback := directory.createTransferJson "transfer" (some (.user transferUser))
    (some (.queue queue)) requester
  let room := { room with user := none, queue := some queue }
  save fault 0 pk room
  let _ ← addTransferToHistory fault 0 pk room feedback
  steps fault [.creatingFeedbackMessage 0, .notifying, .markingNotes]

def pick (user : UserEmail) : TransferAction PUnit := do
  Action.require (room.user = none) .roomIsNotQueued
  steps fault [.creatingTransfer]
  let feedback := directory.createTransferJson "pick" (room.queue.map .queue)
    (some (.user user)) user
  let room := { room with user := some user }
  save fault 0 pk room
  let _ ← addTransferToHistory fault 0 pk room feedback
  steps fault [.creatingFeedbackMessage 0]

/-- `BulkTakeService.take` for one room, up to `add_success`. -/
def take : TransferAction PUnit :=
  pick directory fault pk room requester

def pickQueueRoom : TransferAction PUnit := do
  pick directory fault pk room requester
  steps fault [.notifying, .sendingAutomaticMessage, .updatingMetrics, .updatingTicket]

/-- The entry of `perform_update` for the user that is given. -/
def updateUser (origin : Option RoomHolder) (user : UserEmail) : TransferAction TransferRoom := do
  steps fault [.updatingMetrics]
  let action := if requester ≠ user then "transfer" else "pick"
  let feedback := directory.createTransferJson action origin (room.user.map .user) requester
  steps fault [.creatingFeedbackMessage 0]
  addTransferToHistory fault 0 pk room feedback

/-- The entry of `perform_update` for the queue that is given. -/
def updateQueue (origin : Option RoomHolder) (user : Option UserEmail) :
    TransferAction TransferRoom := do
  let feedback := directory.createTransferJson "transfer" origin (room.queue.map .queue) requester
  let room := if user = none then { room with user := none } else room
  steps fault [.updatingMetrics, .creatingFeedbackMessage 1]
  addTransferToHistory fault 1 pk room feedback

def performUpdate (user : Option UserEmail) (queue : Option Uuid) : TransferAction PUnit :=
  Action.atomic do
    let oldUser := room.user
    let room := { room with
      user := (user.map directory.lower).or room.user
      queue := queue.or room.queue }
    save fault 0 pk room
    Action.when (queue ≠ none) (steps fault [.changingTicketer])
    Action.when (user ≠ none ∨ queue ≠ none) do
      steps fault [.markingNotes]
      -- `old_instance` is the instance that has just been saved, not a copy of it
      let origin := (oldUser.map RoomHolder.user).or (room.queue.map .queue)
      let room ← match user with
        | none => pure room
        | some user => updateUser directory fault pk room requester origin user
      let room ← match queue with
        | none => pure room
        | some _ => updateQueue directory fault pk room requester origin user
      save fault 1 pk room
      steps fault [.notifying]

end TransferAction

inductive HolderOperation
  | performUpdate (user : Option UserEmail) (queue : Option Uuid)
  | pickQueueRoom
  | take
  | transferUserAndQueue (user : UserEmail) (queue : Uuid)
  | transferUser (user : UserEmail)
  | transferQueue (queue : Uuid)
deriving DecidableEq, Repr

def HolderOperation.carryOut (directory : TransferDirectory) (fault : Option TransferStep)
    (pk : Uuid) (room : TransferRoom) (requester : UserEmail) :
    HolderOperation → TransferAction PUnit
  | .performUpdate user queue =>
      TransferAction.performUpdate directory fault pk room requester user queue
  | .pickQueueRoom => TransferAction.pickQueueRoom directory fault pk room requester
  | .take => TransferAction.take directory fault pk room requester
  | .transferUserAndQueue user queue =>
      TransferAction.transferUserAndQueue directory fault pk room requester user queue
  | .transferUser user => TransferAction.transferUser directory fault pk room requester user
  | .transferQueue queue => TransferAction.transferQueue directory fault pk room requester queue

end ChatsEngine.Rooms
