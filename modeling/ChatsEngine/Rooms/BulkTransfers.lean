import ChatsEngine.Foundation.NumberedParts
import ChatsEngine.Rooms.TransferOutcomes

/-! # Bulk transfers and bulk takes

The two requests name rooms, of which a queryset selects those that can be transferred or
taken. These are processed in batches, each for itself, and the response counts the rooms that
succeeded and those that failed. -/

namespace ChatsEngine.Rooms

structure BulkLimits where
  batchSize : Nat
  maxRooms : Nat
  positive : 0 < batchSize

structure BulkSettings where
  directory : TransferDirectory
  transferLimits : BulkLimits
  takeLimits : BulkLimits
  users : UserEmail → Bool
  queues : Uuid → Bool
  /-- The project of the sector of a queue. -/
  projectOf : Uuid → Uuid
  /-- The projects on which a user has a permission. -/
  userProjects : UserEmail → List Uuid

/-- The requests that the serializers and the views refuse. -/
inductive BulkRejection
  | noRooms
  | tooManyRooms
  | duplicateRooms
  | noTarget
  | noRoomsFound
  | userNotFound
  | queueNotFound
deriving DecidableEq, Repr

inductive BulkError
  | room (room : Uuid) (error : TransferError)
  | otherProject
  | noPermission (user : UserEmail)
  | notFoundOrNotAvailable (room : Uuid)
deriving DecidableEq, Repr

/-- `BulkTransferResult` and `BulkTakeResult`. -/
structure BulkResult where
  successCount : Nat
  failedCount : Nat
  errors : List BulkError
  failedRooms : List Uuid
  /-- Not in the source: the rooms for which `add_success` has been called. -/
  succeededRooms : List Uuid
deriving DecidableEq, Repr

structure BulkResponse where
  successCount : Nat
  failedCount : Nat
  totalProcessed : Nat
  errors : List BulkError
  failedRooms : List Uuid
  hasMoreErrors : Bool
deriving DecidableEq, Repr

namespace BulkResult

def empty : BulkResult where
  successCount := 0
  failedCount := 0
  errors := []
  failedRooms := []
  succeededRooms := []

def addSuccess (result : BulkResult) (room : Uuid) : BulkResult :=
  { result with
    successCount := result.successCount + 1
    succeededRooms := result.succeededRooms ++ [room] }

def addFailure (result : BulkResult) (room : Uuid) (error : BulkError) : BulkResult :=
  { result with
    failedCount := result.failedCount + 1
    errors := result.errors ++ [error]
    failedRooms := result.failedRooms ++ [room] }

/-- `to_dict`, which is the body of the response. -/
def toDict (result : BulkResult) : BulkResponse where
  successCount := result.successCount
  failedCount := result.failedCount
  totalProcessed := result.successCount + result.failedCount
  errors := result.errors.take 10
  failedRooms := result.failedRooms.take 10
  hasMoreErrors := 10 < result.errors.length

end BulkResult

inductive BulkRequest
  | transfer (roomsList : List Uuid) (userEmail : Option UserEmail) (queueUuid : Option Uuid)
  | take (roomsList : List Uuid)
deriving DecidableEq, Repr

abbrev BulkAction := Action TransferRooms BulkRejection

abbrev RoomEntry := (_ : Uuid) × TransferRoom

namespace BulkRequest

def roomsList : BulkRequest → List Uuid
  | .transfer roomsList _ _ | .take roomsList => roomsList

def limits (settings : BulkSettings) : BulkRequest → BulkLimits
  | .transfer _ _ _ => settings.transferLimits
  | .take _ => settings.takeLimits

def HasTarget : BulkRequest → Prop
  | .transfer _ userEmail queueUuid => userEmail ≠ none ∨ queueUuid ≠ none
  | .take _ => True

instance : DecidablePred HasTarget
  | .transfer _ _ _ => inferInstanceAs (Decidable (_ ∨ _))
  | .take _ => inferInstanceAs (Decidable True)

/-- Only active rooms can be transferred, and only queued ones of them taken. -/
def Selects : BulkRequest → TransferRoom → Prop
  | .transfer _ _ _, room => room.isActive = true
  | .take _, room => room.isActive = true ∧ room.user = none

instance : (request : BulkRequest) → DecidablePred request.Selects
  | .transfer _ _ _ => fun room => inferInstanceAs (Decidable (room.isActive = true))
  | .take _ => fun room => inferInstanceAs (Decidable (room.isActive = true ∧ room.user = none))

def rooms (request : BulkRequest) (table : TransferRooms) : List RoomEntry :=
  table.entries.filter fun entry => entry.1 ∈ request.roomsList ∧ request.Selects entry.2

end BulkRequest

/-- `validated_data` as far as it is about rooms. -/
structure BulkData where
  rooms : TransferRooms → List RoomEntry
  skippedRooms : Option (List Uuid)

namespace BulkAction

variable (settings : BulkSettings) (faults : Uuid → Option TransferStep) (requester : UserEmail)

/-- `BulkTransferSerializer` and `BulkTakeSerializer` -/
def validate (request : BulkRequest) : BulkAction BulkData := do
  Action.require (request.roomsList ≠ []) .noRooms
  Action.require (request.roomsList.length ≤ (request.limits settings).maxRooms) .tooManyRooms
  Action.require request.roomsList.Nodup .duplicateRooms
  Action.require request.HasTarget .noTarget
  let rooms ← Action.query request.rooms
  Action.require (rooms ≠ []) .noRoomsFound
  return { rooms := request.rooms, skippedRooms := none }

def processRoom (process : Uuid → TransferRoom → TransferAction PUnit) (result : BulkResult)
    (entry : RoomEntry) : BulkAction BulkResult := do
  let outcome ← Action.attempt (process entry.1 entry.2)
  match outcome with
  | .ok _ => return result.addSuccess entry.1
  | .error error => return result.addFailure entry.1 (.room entry.1 error)

def processBatch (process : Uuid → TransferRoom → TransferAction PUnit) (result : BulkResult)
    (batchPks : List Uuid) : BulkAction BulkResult := do
  let batch ← Action.query fun table : TransferRooms =>
    table.entries.filter fun entry => entry.1 ∈ batchPks
  Action.fold (processRoom process) result batch

def processBatches (process : Uuid → TransferRoom → TransferAction PUnit) (batchSize : Nat)
    (roomPks : List Uuid) : BulkAction BulkResult :=
  Action.fold (processBatch process) .empty
    ((List.range (partCount roomPks batchSize)).map (part roomPks batchSize))

def transferRoom (user : Option UserEmail) (queue : Option Uuid) (pk : Uuid)
    (room : TransferRoom) : TransferAction PUnit :=
  match user, queue with
  | some user, some queue =>
      TransferAction.transferUserAndQueue settings.directory (faults pk) pk room requester
        user queue
  | some user, none =>
      TransferAction.transferUser settings.directory (faults pk) pk room requester user
  | none, some queue =>
      TransferAction.transferQueue settings.directory (faults pk) pk room requester queue
  | none, none => return

def getRoomsProjects (rooms : List RoomEntry) : List (Option Uuid) :=
  rooms.map fun entry => entry.2.queue.map settings.projectOf

/-- `BulkTransferService._check_validations`: the error that is found, if any. -/
def checkValidations (projects : List (Option Uuid)) (user : Option UserEmail)
    (queue : Option Uuid) : Option BulkError :=
  if ∃ target ∈ queue, ∃ project ∈ projects, project ≠ some (settings.projectOf target) then
    some .otherProject
  else
    match user with
    | none => none
    | some email =>
        if ∃ project ∈ projects, project ∉ (settings.userProjects email).map some then
          some (.noPermission email)
        else none

def transfer (rooms : TransferRooms → List RoomEntry) (user : Option UserEmail)
    (queue : Option Uuid) : BulkAction BulkResult := do
  let found ← Action.query rooms
  match checkValidations settings (getRoomsProjects settings found) user queue with
  | some error =>
      return found.foldl (fun result entry => result.addFailure entry.1 error) .empty
  | none =>
      processBatches
        (fun pk room => (transferRoom settings faults requester user queue pk room).atomic)
        settings.transferLimits.batchSize (found.map Sigma.fst)

def take (rooms : TransferRooms → List RoomEntry) : BulkAction BulkResult := do
  let found ← Action.query rooms
  processBatches
    (fun pk room => TransferAction.take settings.directory (faults pk) pk room requester)
    settings.takeLimits.batchSize (found.map Sigma.fst)

def serve (rooms : TransferRooms → List RoomEntry) : BulkRequest → BulkAction BulkResult
  | .transfer _ userEmail queueUuid => do
      Action.require (∀ email ∈ userEmail, settings.users email = true) .userNotFound
      Action.require (∀ uuid ∈ queueUuid, settings.queues uuid = true) .queueNotFound
      transfer settings faults requester rooms userEmail queueUuid
  | .take _ => take settings faults requester rooms

/-- The endpoints `bulk_transfer` and `bulk_take`. -/
def handle (request : BulkRequest) : BulkAction BulkResult := do
  let data ← validate settings request
  let result ← serve settings faults requester data.rooms request
  return (data.skippedRooms.getD []).foldl
    (fun result room => result.addFailure room (.notFoundOrNotAvailable room)) result

end BulkAction

end ChatsEngine.Rooms
