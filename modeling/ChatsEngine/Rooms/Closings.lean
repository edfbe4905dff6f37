import ChatsEngine.Core.Types
import ChatsEngine.Foundation.Action
import ChatsEngine.Foundation.Table
import Mathlib.Data.Finset.SDiff

/-! # Closing a room alone and in bulk

The close action of a room and the endpoint that closes several rooms at once check the request
each in its own way, close the rooms with `Room.close`, and then start the metrics. -/

namespace ChatsEngine.Rooms

/-- `str(uuid)` and `UUID(text)`. Texts can be written in more than one way. -/
structure UuidText where
  str : Uuid → String
  parse : String → Option Uuid
  parse_str : ∀ uuid, parse (str uuid) = some uuid

/-- The columns of a room that the two endpoints read and write. -/
structure ClosingRoom where
  user : Option UserEmail
  queue : Option Uuid
  isActive : Bool
  tags : Finset Uuid
  isBillingNotified : Bool
deriving DecidableEq

inductive MetricsTask
  /-- `close_metrics`, by celery. -/
  | closeMetrics (room : Uuid)
  | generateMetrics (room : Uuid)
deriving DecidableEq, Repr

def MetricsTask.room : MetricsTask → Uuid
  | .closeMetrics room | .generateMetrics room => room

structure ClosingTables where
  rooms : Table Uuid ClosingRoom
  metrics : List MetricsTask
  /-- The rooms of which billing has been notified. -/
  billing : List Uuid
deriving DecidableEq

structure ClosingSettings where
  uuids : UuidText
  useCelery : Bool
  activateCalcMetrics : Bool
  bulkCloseMaxRooms : Nat
  /-- The tags of the sector of a queue. -/
  sectorTags : Uuid → Finset Uuid
  requiredTags : Uuid → Bool
  /-- `can_close_chats_in_queue` of the sector of a queue. -/
  canCloseChatsInQueue : Uuid → Bool
  /-- The user has a permission on the project of the queue, and is an admin there. -/
  isAdmin : UserEmail → Uuid → Bool

inductive ClosingError
  | notFound
  | tagNotFound
  | tagsRequired
  | queuedRoomCloseDisabled
  | invalidUuid
  | noRooms
  | tooManyRooms
  | duplicateRooms
  | noActiveRooms
  | roomHasNoQueue
deriving DecidableEq, Repr

abbrev ClosingAction := Action ClosingTables ClosingError

namespace ClosingRoom

def handleCloseTags (room : ClosingRoom) (tags : List Uuid) : ClosingRoom :=
  let newTagIds := tags.toFinset \ room.tags
  let tagsToRemoveIds := room.tags \ tags.toFinset
  { room with tags := (room.tags ∪ newTagIds) \ tagsToRemoveIds }

@[simp] theorem handleCloseTags_tags (room : ClosingRoom) (tags : List Uuid) :
    (room.handleCloseTags tags).tags = tags.toFinset := by
  ext tag
  simp only [handleCloseTags, Finset.mem_sdiff, Finset.mem_union]
  tauto

/-- `Room.close`, as far as it concerns these columns. -/
def close (room : ClosingRoom) (tags : Option (List Uuid)) : ClosingRoom :=
  match tags with
  | none => { room with isActive := false }
  | some tags => { room.handleCloseTags tags with isActive := false }

end ClosingRoom

namespace ClosingTables

variable (tables : ClosingTables)

def closeInstance (pk : Uuid) (room : ClosingRoom) (tags : Option (List Uuid)) :
    ClosingTables :=
  { tables with rooms := tables.rooms.insert pk (room.close tags) }

/-- `close_room`, which is about the metrics. -/
def closeRoom (useCelery : Bool) (pk : Uuid) : ClosingTables :=
  { tables with metrics := tables.metrics ++
      (if useCelery then [.closeMetrics pk] else []) ++ [.generateMetrics pk] }

def notifyBilling (pk : Uuid) : ClosingTables :=
  { tables with
    rooms := tables.rooms.modify pk fun room => { room with isBillingNotified := true }
    billing := tables.billing ++ [pk] }

end ClosingTables

/-- A room of the bulk request with its tags, as they are given. -/
structure RoomToClose where
  uuid : Uuid
  tags : Option (List String)
deriving DecidableEq, Repr

namespace ClosingAction

variable (settings : ClosingSettings) (requester : UserEmail)

def close (pk : Uuid) (tags : Option (List String)) : ClosingAction PUnit := do
  let found ← Action.query fun tables => tables.rooms.lookup pk
  let room ← Action.expect found .notFound
  -- the queryset joins the queue
  let queue ← Action.expect room.queue .notFound
  Action.require (∀ given ∈ tags, ∀ tag ∈ given,
    ∃ own ∈ settings.sectorTags queue, settings.uuids.str own = tag) .tagNotFound
  let noTagsAfterClose := tags = some [] ∨ tags = none ∧ room.tags = ∅
  Action.require (¬(settings.requiredTags queue = true ∧ noTagsAfterClose)) .tagsRequired
  Action.require (room.user = none → settings.canCloseChatsInQueue queue = true →
    settings.isAdmin requester queue = true) .queuedRoomCloseDisabled
  Action.update fun tables =>
    tables.closeInstance pk room (tags.map (List.filterMap settings.uuids.parse))
  Action.when (settings.activateCalcMetrics = true) do
    Action.update fun tables => tables.closeRoom settings.useCelery pk
    Action.when (room.isBillingNotified = false) do
      Action.update fun tables => tables.notifyBilling pk

/-- The tags of a room, if all of them are uuids. Rooms without tags have none. -/
def parseTags (tags : Option (List String)) : Option (List Uuid) :=
  (tags.getD []).mapM settings.uuids.parse

/-- `room_tags_map.get(uuid, [])` -/
def tagsOf (requested : List RoomToClose) (pk : Uuid) : List Uuid :=
  ((requested.find? fun room => room.uuid = pk).bind fun room =>
    parseTags settings room.tags).getD []

def activeRooms (requested : List RoomToClose) (tables : ClosingTables) :
    List ((_ : Uuid) × ClosingRoom) :=
  tables.rooms.entries.filter fun entry =>
    entry.1 ∈ requested.map RoomToClose.uuid ∧ entry.2.isActive = true

/-- `BulkCloseSerializer` -/
def validate (requested : List RoomToClose) : ClosingAction PUnit := do
  Action.require (∀ room ∈ requested, parseTags settings room.tags ≠ none) .invalidUuid
  Action.require (requested ≠ []) .noRooms
  Action.require (requested.length ≤ settings.bulkCloseMaxRooms) .tooManyRooms
  Action.require (requested.map RoomToClose.uuid).Nodup .duplicateRooms
  let active ← Action.query (activeRooms requested)
  Action.require (active ≠ []) .noActiveRooms
  Action.require (∀ entry ∈ active, entry.2.queue ≠ none) .roomHasNoQueue
  Action.require (∀ entry ∈ active, ∀ queue ∈ entry.2.queue,
    ∀ tag ∈ tagsOf settings requested entry.1, tag ∈ settings.sectorTags queue) .tagNotFound

/-- One round of the loop in `BulkCloseService.close`, with `_post_close`. -/
def closeEntry (requested : List RoomToClose) (closed : List Uuid)
    (entry : (_ : Uuid) × ClosingRoom) : ClosingAction (List Uuid) := do
  Action.update fun tables =>
    tables.closeInstance entry.1 entry.2 (some (tagsOf settings requested entry.1))
  Action.update fun tables => tables.closeRoom settings.useCelery entry.1
  return closed ++ [entry.1]

/-- `RoomViewset.bulk_close`, with the rooms that are closed. -/
def bulkClose (requested : List RoomToClose) : ClosingAction (List Uuid) := do
  validate settings requested
  let active ← Action.query (activeRooms requested)
  Action.fold (closeEntry settings requested) [] active

end ClosingAction

end ChatsEngine.Rooms
