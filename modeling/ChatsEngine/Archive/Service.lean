import ChatsEngine.Foundation.Pool
import ChatsEngine.Archive.Messages

/-! # Archiving a room

`ArchiveChatsService.archive_room_history` as a program whose steps are its
database statements and storage calls. One program works for one closed room:
its `RoomArchivedConversation` row, its messages and the objects stored under
its upload path are the shared state. -/

namespace ChatsEngine.Archive

open Keyset

inductive ArchiveConversationsJobStatus
  | pending
  | processingMessages
  | messagesProcessed
  | uploadingMessagesFile
  | messagesFileUploaded
  | deletingMessagesFromDb
  | messagesDeletedFromDb
  | finished
  | failed
deriving DecidableEq, Repr

structure ArchiveError where
  timestamp : Instant
  error : String
deriving DecidableEq, Repr

structure RoomArchivedConversation where
  status : ArchiveConversationsJobStatus
  job : Uuid
  /-- The name of the stored file, if there is one. -/
  file : Option String
  archiveProcessStartedAt : Option Instant
  messagesDeletedAt : Option Instant
  archiveProcessFinishedAt : Option Instant
  failedAt : Option Instant
  errors : List ArchiveError
deriving DecidableEq, Repr

namespace RoomArchivedConversation

/-- The row that `create` and `bulk_create` insert. -/
def created (job : Uuid) : RoomArchivedConversation where
  status := .pending
  job := job
  file := none
  archiveProcessStartedAt := none
  messagesDeletedAt := none
  archiveProcessFinishedAt := none
  failedAt := none
  errors := []

def isActivelyProcessed (settings : ArchiveSettings) (now : Instant)
    (conversation : RoomArchivedConversation) : Bool :=
  match conversation.status with
  | .finished | .failed => false
  | _ =>
      match conversation.archiveProcessStartedAt with
      | none => false
      | some startedAt => now < startedAt + settings.inProgressTimeout

def needsProcessingAndUpload (conversation : RoomArchivedConversation) : Bool :=
  match conversation.status with
  | .messagesFileUploaded | .deletingMessagesFromDb | .messagesDeletedFromDb => false
  | .failed => conversation.file.isNone
  | _ => true

def needsMessageDeletion (conversation : RoomArchivedConversation) : Bool :=
  match conversation.status with
  | .messagesDeletedFromDb => false
  | .failed => conversation.messagesDeletedAt.isNone
  | _ => true

/-- What `register_error` writes to the stored row. The list of errors comes
from the instance in memory. -/
def registerError (conversation stored : RoomArchivedConversation)
    (now : Instant) (error : String) : RoomArchivedConversation :=
  { stored with
    errors := conversation.errors ++ [{ timestamp := now, error }]
    status := .failed
    failedAt := some now }

end RoomArchivedConversation

structure ArchiveDatabase where
  now : Instant
  conversation : Option RoomArchivedConversation
  messages : List Message
  /-- The objects of the storage, by name. -/
  stored : String → Option (List ArchivedLine)

/-- The statement an execution issues next, with the locals it still needs. -/
inductive Stage
  | saveProcessingMessages
  | readPage (lines : List ArchivedLine) (last : Option (Nat ×ₗ Nat))
  | prefetchMedias (lines : List ArchivedLine) (last : Option (Nat ×ₗ Nat))
      (page : List Message)
  | saveUploadingMessagesFile (lines : List ArchivedLine)
  | storeFile (lines : List ArchivedLine)
  | saveFile
  | saveMessagesFileUploaded
  | refreshAfterUpload
  | saveUploadedStatus
  | refreshBeforeDeletion
  | selectBatch
  | deleteBatch (pks : List Uuid)
  | saveMessagesDeleted
  | refreshBeforeFinish
  | saveFinished
  | leaveTry
  | registerError (error : String)
  | refreshAtEnd
deriving DecidableEq

/-- An execution of `archive_room_history`: before the claim it only knows its
job, afterwards it holds an instance of the row in memory. -/
inductive Execution
  | claiming (job : Uuid)
  | working (conversation : RoomArchivedConversation) (stage : Stage)
deriving DecidableEq

inductive Choice
  /-- The statement succeeds. `skipLocked` says that the row is locked by
  another transaction, `fileName` is the name the storage picks for a new
  object, `batch` is what an unordered `LIMIT` query returns. -/
  | statement (skipLocked : Bool) (fileName : String) (batch : List Uuid)
  /-- The statement raises. -/
  | raise (error : String)
deriving DecidableEq, Repr

/-- `batch_size` of `delete_room_messages`. -/
def deletionBatchSize : Nat := 1000

inductive ClaimOutcome
  | skipped
  | alreadyFinished
  | claimed (conversation : RoomArchivedConversation)
deriving DecidableEq, Repr

section Statements

variable (settings : ArchiveSettings)

/-- The end of `_claim_room_for_archive`, on the row it has locked or created. -/
def claimRow (now : Instant) (job : Uuid) (conversation : RoomArchivedConversation) :
    ClaimOutcome :=
  if conversation.status = .finished then
    .alreadyFinished
  else if conversation.isActivelyProcessed settings now then
    .skipped
  else
    .claimed { conversation with archiveProcessStartedAt := some now, job := job }

/-- `_claim_room_for_archive`. The transaction holds the lock of the row, so it
is one step. -/
def claimRoomForArchive (database : ArchiveDatabase) (job : Uuid) (skipLocked : Bool) :
    ArchiveDatabase × ClaimOutcome :=
  match database.conversation with
  | some conversation =>
      if skipLocked then
        (database, .skipped)
      else
        match claimRow settings database.now job conversation with
        | .claimed claimed =>
            ({ database with conversation := some claimed }, .claimed claimed)
        | outcome => (database, outcome)
  | none =>
      match claimRow settings database.now job (.created job) with
      | .claimed claimed =>
          ({ database with conversation := some claimed }, .claimed claimed)
      | outcome => ({ database with conversation := some (.created job) }, outcome)

def afterClaim (conversation : RoomArchivedConversation) : Stage :=
  if conversation.needsProcessingAndUpload then
    .saveProcessingMessages
  else
    .refreshAfterUpload

/-- The status check with which `upload_messages_file` begins. The messages it is
given are read lazily, page by page, while the file is written. -/
def uploadMessagesFile (conversation : RoomArchivedConversation) : Stage :=
  if conversation.status = .processingMessages then
    .readPage [] none
  else
    .registerError "is not in processing messages status"

/-- The status check with which `delete_room_messages` begins. -/
def deleteRoomMessages (conversation : RoomArchivedConversation) : Stage :=
  if conversation.status = .messagesFileUploaded then
    .selectBatch
  else
    .registerError "is not in messages file uploaded status"

def afterUpload (conversation : RoomArchivedConversation) : Stage :=
  if conversation.needsMessageDeletion then
    if conversation.status = .messagesFileUploaded then
      .refreshBeforeDeletion
    else
      .saveUploadedStatus
  else
    .refreshBeforeFinish

/-- The medias of a page are fetched by a query of their own. A message that has
been deleted since the page was read has lost them. -/
def fetchMedias (stored : List Message) (message : Message) : Message :=
  if message ∈ stored then message else { message with medias := [] }

def readPage (database : ArchiveDatabase) (lines : List ArchivedLine)
    (last : Option (Nat ×ₗ Nat)) : Stage :=
  match page Message.key settings.messagePageSize last database.messages with
  | [] => .saveUploadingMessagesFile lines
  | message :: page => .prefetchMedias lines last (message :: page)

/-- One statement of a working execution. `stored` is the row as it is in the
database; statements that save some fields leave its other columns alone. -/
def statement (database : ArchiveDatabase)
    (stored conversation : RoomArchivedConversation)
    (fileName : String) (batch : List Uuid) :
    Stage → Option (ArchiveDatabase × Option Execution)
  | .saveProcessingMessages =>
      let conversation :=
        { conversation with
          status := .processingMessages
          archiveProcessStartedAt := some database.now }
      let row :=
        { stored with
          status := conversation.status
          archiveProcessStartedAt := conversation.archiveProcessStartedAt }
      some ({ database with conversation := some row },
        some (.working conversation (uploadMessagesFile conversation)))
  | .readPage lines last =>
      some (database, some (.working conversation (readPage settings database lines last)))
  | .prefetchMedias lines _ page =>
      let written :=
        page.map fun message => archivedLine settings (fetchMedias database.messages message)
      some (database,
        some (.working conversation (.readPage (lines ++ written) (lastKey Message.key page))))
  | .saveUploadingMessagesFile lines =>
      let conversation := { conversation with status := .uploadingMessagesFile }
      some ({ database with conversation := some { stored with status := conversation.status } },
        some (.working conversation (.storeFile lines)))
  | .storeFile lines =>
      some ({ database with stored := Function.update database.stored fileName (some lines) },
        some (.working { conversation with file := some fileName } .saveFile))
  | .saveFile =>
      -- `FieldFile.save(..., save=True)` saves every column of the instance.
      some ({ database with conversation := some conversation },
        some (.working conversation .saveMessagesFileUploaded))
  | .saveMessagesFileUploaded =>
      let conversation := { conversation with status := .messagesFileUploaded }
      some ({ database with conversation := some { stored with status := conversation.status } },
        some (.working conversation .refreshAfterUpload))
  | .refreshAfterUpload =>
      some (database, some (.working stored (afterUpload stored)))
  | .saveUploadedStatus =>
      let conversation := { conversation with status := .messagesFileUploaded }
      some ({ database with conversation := some { stored with status := conversation.status } },
        some (.working conversation .refreshBeforeDeletion))
  | .refreshBeforeDeletion =>
      some (database, some (.working stored (deleteRoomMessages stored)))
  | .selectBatch =>
      if database.messages = [] then
        some (database, some (.working conversation .saveMessagesDeleted))
      else if batch ≠ [] ∧ batch.length ≤ deletionBatchSize ∧
          ∀ pk, pk ∈ batch → pk ∈ database.messages.map Message.uuid then
        some (database, some (.working conversation (.deleteBatch batch)))
      else
        none
  | .deleteBatch pks =>
      let messages := database.messages.filter fun message => message.uuid ∉ pks
      some ({ database with messages },
        some (.working conversation .selectBatch))
  | .saveMessagesDeleted =>
      let conversation :=
        { conversation with
          status := .messagesDeletedFromDb
          messagesDeletedAt := some database.now }
      let row :=
        { stored with
          status := conversation.status
          messagesDeletedAt := conversation.messagesDeletedAt }
      some ({ database with conversation := some row },
        some (.working conversation .refreshBeforeFinish))
  | .refreshBeforeFinish =>
      some (database, some (.working stored .saveFinished))
  | .saveFinished =>
      let conversation :=
        { conversation with
          status := .finished
          archiveProcessFinishedAt := some database.now }
      let row :=
        { stored with
          status := conversation.status
          archiveProcessFinishedAt := conversation.archiveProcessFinishedAt }
      some ({ database with conversation := some row },
        some (.working conversation .leaveTry))
  | .leaveTry =>
      some (database, some (.working conversation .refreshAtEnd))
  | .registerError error =>
      let row := conversation.registerError stored database.now error
      some ({ database with conversation := some row },
        some (.working conversation .refreshAtEnd))
  | .refreshAtEnd => some (database, none)

/-- What an exception does: inside the `try` it is registered, elsewhere it
ends the execution. -/
def raised (conversation : RoomArchivedConversation) (error : String) :
    Stage → Option Execution
  | .registerError _ | .refreshAtEnd => none
  | _ => some (.working conversation (.registerError error))

def advance (database : ArchiveDatabase) :
    Execution → Choice → Option (ArchiveDatabase × Option Execution)
  | .claiming job, .statement skipLocked _ _ =>
      match claimRoomForArchive settings database job skipLocked with
      | (database, .claimed conversation) =>
          some (database, some (.working conversation (afterClaim conversation)))
      | (database, _) => some (database, none)
  | .claiming _, .raise _ => some (database, none)
  | .working conversation stage, .statement _ fileName batch =>
      match database.conversation with
      | none => none
      | some stored => statement settings database stored conversation fileName batch stage
  | .working conversation stage, .raise error =>
      some (database, raised conversation error stage)

end Statements

/-- What happens around the executions: time passes, and
`_create_pending_records` points the row to the job it is about to dispatch. -/
inductive ArchiveSurrounding
  | tick (elapsed : Nat)
  | createPendingRecord (job : Uuid)
deriving DecidableEq, Repr

def createPendingRecord (job : Uuid) :
    Option RoomArchivedConversation → RoomArchivedConversation
  | none => .created job
  | some conversation =>
      if conversation.status = .finished then conversation
      else { conversation with job := job }

def surround (database : ArchiveDatabase) : ArchiveSurrounding → Option ArchiveDatabase
  | .tick elapsed => some { database with now := database.now + elapsed }
  | .createPendingRecord job =>
      some { database with
        conversation := some (createPendingRecord job database.conversation) }

def archiveProgram (settings : ArchiveSettings) :
    Program ArchiveDatabase Execution Uuid Choice ArchiveSurrounding where
  enter := .claiming
  advance := advance settings
  surround := surround

abbrev ArchivePool (Pid : Type) := Pool Pid ArchiveDatabase Execution

abbrev ArchiveEvent (Pid : Type) := PoolEvent Pid Uuid Choice ArchiveSurrounding

/-- A room that no execution has worked on yet: all its messages are in the
database, and its row, if the scheduler has made one, is pending. -/
structure FirstArchive (history : RoomHistory) (database : ArchiveDatabase) : Prop where
  messages : database.messages = history.messages
  conversation : ∀ conversation, database.conversation = some conversation →
    ∃ job, conversation = .created job

end ChatsEngine.Archive
