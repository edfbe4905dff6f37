import ChatsEngine.Core.Types
import ChatsEngine.Foundation.Keyset

/-! # Messages and their archived lines

The messages of a room as the archive reads them, and the line that
`ArchiveMessageSerializer` makes of each. -/

namespace ChatsEngine.Archive

open Keyset

inductive AutomaticMessageType
  | automaticOpen
  | inactiveWarning
  | inactiveClose
deriving DecidableEq, Repr

structure MessageMedia where
  contentType : String
  mediaFile : Option String
  mediaUrl : Option String
  createdOn : Instant
deriving DecidableEq, Repr

structure ArchiveUser where
  email : String
  name : String
deriving DecidableEq, Repr

structure ArchiveContact where
  name : String
  externalId : Option String
deriving DecidableEq, Repr

structure NoteMedia where
  contentType : String
  url : String
deriving DecidableEq, Repr

structure InternalNote where
  uuid : Uuid
  text : String
  medias : List NoteMedia
deriving DecidableEq, Repr

structure Message where
  uuid : Uuid
  createdOn : Instant
  text : Option String
  user : Option ArchiveUser
  contact : Option ArchiveContact
  automaticMessage : Option AutomaticMessageType
  internalNote : Option InternalNote
  medias : List MessageMedia
deriving DecidableEq, Repr

/-- `order_by("created_on", "pk")`. -/
def Message.key (message : Message) : Nat ×ₗ Nat :=
  toLex (message.createdOn, message.uuid)

/-- The settings the archive reads. The addresses of files and media come from
the storage and from `urllib`, so they are given as functions. -/
structure ArchiveSettings where
  /-- `ARCHIVE_CHATS_MESSAGE_PAGE_SIZE`. -/
  messagePageSize : Nat
  messagePageSize_pos : 0 < messagePageSize
  /-- `ARCHIVE_CHATS_IN_PROGRESS_TIMEOUT_HOURS`, on the server's clock. -/
  inProgressTimeout : Nat
  chatsBaseUrl : String
  flowsBaseUrl : String
  /-- `reverse("get_archived_media")`. -/
  archivedMediaPath : String
  isFileOnChatsBucket : String → Bool
  /-- `urlparse(url).path.lstrip("/")`. -/
  urlObjectKey : String → String
  /-- The address the storage gives to a stored file. -/
  mediaFileUrl : String → String

namespace ArchiveSettings

variable (settings : ArchiveSettings)

def getChatsMediaRedirectUrl (objectKey : String) : String :=
  settings.chatsBaseUrl ++ settings.archivedMediaPath ++ "?object_key=" ++ objectKey

def getFlowsMediaRedirectUrl (objectKey : String) : String :=
  settings.flowsBaseUrl ++ "/api/v2/internals/media/download" ++ "/" ++ objectKey

/-- An empty name or address is as good as none. -/
def processMedia (media : MessageMedia) : Option String :=
  let mediaFile := media.mediaFile.getD ""
  let mediaUrl := media.mediaUrl.getD ""
  if mediaFile = "" then
    if mediaUrl = "" then none
    else if settings.isFileOnChatsBucket mediaUrl then
      some (settings.getChatsMediaRedirectUrl mediaUrl)
    else
      some (settings.getFlowsMediaRedirectUrl (settings.urlObjectKey mediaUrl))
  else if settings.isFileOnChatsBucket (settings.mediaFileUrl mediaFile) then
    some (settings.getChatsMediaRedirectUrl mediaFile)
  else
    none

end ArchiveSettings

structure ArchivedMedia where
  url : String
  contentType : String
  createdOn : Instant
deriving DecidableEq, Repr

/-- One line of `messages.jsonl`. -/
structure ArchivedLine where
  uuid : Uuid
  text : Option String
  createdOn : Instant
  user : Option ArchiveUser
  contact : Option ArchiveContact
  isAutomaticMessage : Bool
  automaticMessageType : Option AutomaticMessageType
  internalNote : Option InternalNote
  media : List ArchivedMedia
deriving DecidableEq, Repr

section Lines

variable (settings : ArchiveSettings)

def archivedMedia (media : MessageMedia) : Option ArchivedMedia :=
  match settings.processMedia media with
  | none => none
  | some url =>
      if url = "" then none
      else some { url, contentType := media.contentType, createdOn := media.createdOn }

def archivedLine (message : Message) : ArchivedLine where
  uuid := message.uuid
  text := message.text
  createdOn := message.createdOn
  user := message.user
  contact := message.contact
  isAutomaticMessage := message.automaticMessage.isSome
  automaticMessageType := message.automaticMessage
  internalNote := message.internalNote
  media := message.medias.filterMap (archivedMedia settings)

/-- The content of the file that holds every one of `messages`: one line for
each, in `(created_on, pk)` order. -/
def archivedFile (messages : List Message) : List ArchivedLine :=
  (orderBy Message.key messages).map (archivedLine settings)

end Lines

/-- The messages of a closed room. No message is added once a room is closed. -/
structure RoomHistory where
  messages : List Message
  /-- `uuid` is the primary key. -/
  distinct : (messages.map Message.uuid).Nodup

namespace RoomHistory

variable (history : RoomHistory)

theorem keys_distinct : (history.messages.map Message.key).Nodup := by
  have uuids : (history.messages.map Message.key).map (fun key => (ofLex key).2) =
      history.messages.map Message.uuid := by
    rw [List.map_map]
    rfl
  apply List.Nodup.of_map fun key : Nat ×ₗ Nat => (ofLex key).2
  rw [uuids]
  exact history.distinct

theorem archivedLine_mem (settings : ArchiveSettings) {message : Message}
    (member : message ∈ history.messages) :
    archivedLine settings message ∈ archivedFile settings history.messages :=
  List.mem_map.mpr ⟨message, (mem_orderBy _).mpr member, rfl⟩

end RoomHistory

end ChatsEngine.Archive
