import ChatsEngine.Archive.Safety

/-! # Executions that do not overlap

A failed or killed execution leaves a row from which the next one resumes. What
it may have left behind is the invariant of this file: as long as executions do
not overlap, the messages are untouched until the file is complete, and a row
that says they are deleted is right. -/

namespace ChatsEngine.Archive

open Keyset

/-- The statuses of a row whose messages have not been touched. -/
def ArchiveConversationsJobStatus.BeforeUpload : ArchiveConversationsJobStatus → Prop
  | .pending | .processingMessages | .uploadingMessagesFile => True
  | _ => False

def ArchiveConversationsJobStatus.Deleted : ArchiveConversationsJobStatus → Prop
  | .messagesDeletedFromDb | .finished => True
  | _ => False

/-- The statuses that the code writes. -/
def ArchiveConversationsJobStatus.Written : ArchiveConversationsJobStatus → Prop
  | .messagesProcessed | .deletingMessagesFromDb => False
  | _ => True

section Outline

variable (settings : ArchiveSettings) (history : RoomHistory)

structure ResumeInvariant (database : ArchiveDatabase) : Prop where
  archive : ArchiveInvariant settings history database
  untouched : database.row.status.BeforeUpload → database.messages = history.messages
  deleted : database.row.status.Deleted → database.messages = []
  deletedAt : database.row.messagesDeletedAt ≠ none → database.messages = []
  written : database.row.status.Written

/-- What an execution relies on when no other execution is in flight. -/
def ResumeStageAssertion (database : ArchiveDatabase)
    (conversation : RoomArchivedConversation) : Stage → Prop
  | .saveProcessingMessages | .readPage _ _ | .prefetchMedias _ _ _
  | .saveUploadingMessagesFile _ => database.messages = history.messages
  | .storeFile _ | .saveFile =>
      database.messages = history.messages ∧ conversation.status = .uploadingMessagesFile
  | .selectBatch | .deleteBatch _ => database.row.status = .messagesFileUploaded
  | .saveMessagesDeleted | .refreshBeforeFinish | .saveFinished => database.messages = []
  | _ => True

def ResumeAssertion (database : ArchiveDatabase) : Execution → Prop
  | .claiming _ => True
  | .working conversation stage =>
      ExecutionAssertion settings history database (.working conversation stage) ∧
        (conversation.messagesDeletedAt ≠ none → database.messages = []) ∧
        ResumeStageAssertion history database conversation stage

variable {settings history} {database : ArchiveDatabase}

theorem ResumeAssertion.execution {execution : Execution}
    (holds : ResumeAssertion settings history database execution) :
    ExecutionAssertion settings history database execution := by
  cases execution with
  | claiming job => trivial
  | working conversation stage => exact holds.1

/-- An execution that runs alone reads all messages before it deletes any. -/
theorem ResumeAssertion.inTime {execution : Execution} (choice : Choice)
    (holds : ResumeAssertion settings history database execution) :
    ReadsInTime history database execution choice := by
  cases execution with
  | claiming job => trivial
  | working conversation stage =>
      cases choice with
      | raise error => trivial
      | statement skipLocked fileName batch =>
          cases stage <;> try trivial
          all_goals
            have untouched : database.messages = history.messages := holds.2.2
            intro message inHistory _
            rw [untouched]
            exact inHistory

def Resumes (history : RoomHistory)
    (after : ArchiveDatabase) (rest : Option Execution) : Prop :=
  (after.row.status.BeforeUpload → after.messages = history.messages) ∧
    (after.row.status.Deleted → after.messages = []) ∧
    (after.row.messagesDeletedAt ≠ none → after.messages = []) ∧
    after.row.status.Written ∧
    ∀ conversation stage, rest = some (.working conversation stage) →
      (conversation.messagesDeletedAt ≠ none → after.messages = []) ∧
        ResumeStageAssertion history after conversation stage

theorem resumes_of_working {after : ArchiveDatabase}
    {conversation : RoomArchivedConversation} {stage : Stage}
    (untouched : after.row.status.BeforeUpload → after.messages = history.messages)
    (deleted : after.row.status.Deleted → after.messages = [])
    (emptied : after.row.messagesDeletedAt ≠ none → after.messages = [])
    (written : after.row.status.Written)
    (deletedAt : conversation.messagesDeletedAt ≠ none → after.messages = [])
    (asserts : ResumeStageAssertion history after conversation stage) :
    Resumes history after (some (.working conversation stage)) := by
  refine ⟨untouched, deleted, emptied, written, ?_⟩
  intro other otherStage same
  cases same
  exact ⟨deletedAt, asserts⟩

theorem resumes_of_read (invariant : ResumeInvariant settings history database)
    {conversation : RoomArchivedConversation} {stage : Stage}
    (deletedAt : conversation.messagesDeletedAt ≠ none → database.messages = [])
    (asserts : ResumeStageAssertion history database conversation stage) :
    Resumes history database (some (.working conversation stage)) :=
  resumes_of_working invariant.untouched invariant.deleted invariant.deletedAt
    invariant.written deletedAt asserts

theorem resumes_of_end (invariant : ResumeInvariant settings history database) :
    Resumes history database none :=
  ⟨invariant.untouched, invariant.deleted, invariant.deletedAt, invariant.written,
    fun _ _ impossible => by cases impossible⟩

theorem resumes_of_save (invariant : ResumeInvariant settings history database)
    {conversation row : RoomArchivedConversation} {stage : Stage}
    (sameDeletedAt : row.messagesDeletedAt = database.row.messagesDeletedAt)
    (untouched : row.status.BeforeUpload → database.messages = history.messages)
    (deleted : row.status.Deleted → database.messages = [])
    (written : row.status.Written)
    (deletedAt : conversation.messagesDeletedAt ≠ none → database.messages = [])
    (asserts : ResumeStageAssertion history
      { database with conversation := some row } conversation stage) :
    Resumes history { database with conversation := some row }
      (some (.working conversation stage)) := by
  refine resumes_of_working untouched deleted ?_ written deletedAt asserts
  intro present
  exact invariant.deletedAt (sameDeletedAt ▸ present)

theorem untouched_of_needsProcessing (invariant : ResumeInvariant settings history database)
    (unfinished : database.row.status ≠ .finished)
    (needs : database.row.needsProcessingAndUpload = true) :
    database.messages = history.messages := by
  have untouched := invariant.untouched
  have written := invariant.written
  by_contra touched
  have present := invariant.archive.deleted touched
  cases status : database.row.status <;>
    simp [RoomArchivedConversation.needsProcessingAndUpload, status,
      ArchiveConversationsJobStatus.BeforeUpload,
      ArchiveConversationsJobStatus.Written] at needs untouched written unfinished
  all_goals first | exact touched untouched | exact present needs

theorem afterUpload_resumes (invariant : ResumeInvariant settings history database)
    {stored : RoomArchivedConversation} (rowIs : database.row = stored) :
    ResumeStageAssertion history database stored (afterUpload stored) := by
  subst rowIs
  rw [afterUpload]
  split
  · split <;> trivial
  · next deleted =>
      have emptied := invariant.deleted
      have emptiedAt := invariant.deletedAt
      change database.messages = []
      cases status : database.row.status <;>
        simp [RoomArchivedConversation.needsMessageDeletion, status,
          ArchiveConversationsJobStatus.Deleted] at deleted emptied
      · exact emptied
      · exact emptiedAt deleted

theorem deleteRoomMessages_resumes {stored : RoomArchivedConversation}
    (rowIs : database.row = stored) :
    ResumeStageAssertion history database stored (deleteRoomMessages stored) := by
  rw [deleteRoomMessages]
  split
  · next uploaded =>
      change database.row.status = .messagesFileUploaded
      rw [rowIs]
      exact uploaded
  · trivial

/-! ### The stages whose statement changes what an execution relies on -/

theorem saveFile_resumes {conversation : RoomArchivedConversation}
    (untouched : database.messages = history.messages)
    (uploading : conversation.status = .uploadingMessagesFile)
    (deletedAt : conversation.messagesDeletedAt ≠ none → database.messages = []) :
    Resumes history { database with conversation := some conversation }
      (some (.working conversation .saveMessagesFileUploaded)) := by
  have rowStatus : ({ database with conversation := some conversation } :
      ArchiveDatabase).row.status = .uploadingMessagesFile := uploading
  refine resumes_of_working (fun _ => untouched) ?_ deletedAt ?_ deletedAt trivial
  · intro deleted
    rw [rowStatus] at deleted
    exact deleted.elim
  · rw [rowStatus]
    trivial

theorem selectBatch_resumes (invariant : ResumeInvariant settings history database)
    {stored conversation : RoomArchivedConversation}
    (deletedAt : conversation.messagesDeletedAt ≠ none → database.messages = [])
    (uploaded : database.row.status = .messagesFileUploaded)
    {fileName : String} {batch : List Uuid} {after : ArchiveDatabase}
    {rest : Option Execution}
    (stepped : statement settings database stored conversation fileName batch .selectBatch =
      some (after, rest)) :
    Resumes history after rest := by
  simp only [statement] at stepped
  split at stepped
  · next empty =>
      cases stepped
      exact resumes_of_read invariant deletedAt empty
  · split at stepped
    · cases stepped
      exact resumes_of_read invariant deletedAt uploaded
    · cases stepped

theorem deleteBatch_resumes (invariant : ResumeInvariant settings history database)
    {conversation : RoomArchivedConversation}
    (deletedAt : conversation.messagesDeletedAt ≠ none → database.messages = [])
    (uploaded : database.row.status = .messagesFileUploaded) (pks : List Uuid) :
    Resumes history
      { database with messages := database.messages.filter fun message => message.uuid ∉ pks }
      (some (.working conversation .selectBatch)) := by
  have shrinks : ∀ {messages : List Message}, messages = [] →
      (messages.filter fun message => message.uuid ∉ pks) = [] := by
    intro _ same
    subst same
    rfl
  refine resumes_of_working ?_ (fun deleted => shrinks (invariant.deleted deleted))
    (fun present => shrinks (invariant.deletedAt present)) invariant.written
    (fun present => shrinks (deletedAt present)) uploaded
  intro before
  change database.row.status.BeforeUpload at before
  rw [uploaded] at before
  exact before.elim

theorem statement_resumes (invariant : ResumeInvariant settings history database)
    {stored conversation : RoomArchivedConversation} {stage : Stage}
    (rowIs : database.row = stored)
    (holds : ResumeAssertion settings history database (.working conversation stage))
    {fileName : String} {batch : List Uuid} {after : ArchiveDatabase}
    {rest : Option Execution}
    (stepped : statement settings database stored conversation fileName batch stage =
      some (after, rest)) :
    Resumes history after rest := by
  rcases holds with ⟨⟨_, stageHolds⟩, deletedAt, asserts⟩
  have sameDeletedAt : stored.messagesDeletedAt = database.row.messagesDeletedAt := by
    rw [rowIs]
  cases stage with
  | saveProcessingMessages =>
      cases stepped
      exact resumes_of_save invariant sameDeletedAt (fun _ => asserts) False.elim trivial
        deletedAt asserts
  | readPage lines last =>
      cases stepped
      apply resumes_of_read invariant deletedAt
      rw [readPage]
      split <;> exact asserts
  | prefetchMedias lines last page =>
      cases stepped
      exact resumes_of_read invariant deletedAt asserts
  | saveUploadingMessagesFile lines =>
      cases stepped
      exact resumes_of_save invariant sameDeletedAt (fun _ => asserts) False.elim trivial
        deletedAt ⟨asserts, rfl⟩
  | storeFile lines =>
      cases stepped
      exact resumes_of_working invariant.untouched invariant.deleted invariant.deletedAt
        invariant.written deletedAt asserts
  | saveFile =>
      cases stepped
      exact saveFile_resumes asserts.1 asserts.2 deletedAt
  | saveMessagesFileUploaded =>
      cases stepped
      exact resumes_of_save invariant sameDeletedAt False.elim False.elim trivial
        deletedAt trivial
  | refreshAfterUpload =>
      cases stepped
      exact resumes_of_read invariant (fun present => invariant.deletedAt (rowIs ▸ present))
        (afterUpload_resumes invariant rowIs)
  | saveUploadedStatus =>
      cases stepped
      exact resumes_of_save invariant sameDeletedAt False.elim False.elim trivial
        deletedAt trivial
  | refreshBeforeDeletion =>
      cases stepped
      exact resumes_of_read invariant (fun present => invariant.deletedAt (rowIs ▸ present))
        (deleteRoomMessages_resumes rowIs)
  | selectBatch => exact selectBatch_resumes invariant deletedAt asserts stepped
  | deleteBatch pks =>
      cases stepped
      exact deleteBatch_resumes invariant deletedAt asserts pks
  | saveMessagesDeleted =>
      cases stepped
      have empty : database.messages = [] := asserts
      exact resumes_of_working False.elim (fun _ => empty) (fun _ => empty) trivial
        (fun _ => empty) empty
  | refreshBeforeFinish =>
      cases stepped
      exact resumes_of_read invariant (fun present => invariant.deletedAt (rowIs ▸ present))
        asserts
  | saveFinished =>
      cases stepped
      have empty : database.messages = [] := asserts
      exact resumes_of_save invariant sameDeletedAt False.elim (fun _ => empty) trivial
        deletedAt trivial
  | leaveTry =>
      cases stepped
      exact resumes_of_read invariant deletedAt trivial
  | registerError error =>
      cases stepped
      exact resumes_of_save invariant sameDeletedAt False.elim False.elim trivial
        deletedAt trivial
  | refreshAtEnd =>
      cases stepped
      exact resumes_of_end invariant

theorem ResumeInvariant.same {row : RoomArchivedConversation}
    (invariant : ResumeInvariant settings history database)
    (same : SameProgress database row) :
    ResumeInvariant settings history { database with conversation := some row } where
  archive := invariant.archive.save (same.keepsFile invariant.archive)
  untouched := fun before => invariant.untouched (same.status ▸ before)
  deleted := fun deleted => invariant.deleted (same.status ▸ deleted)
  deletedAt := fun present => invariant.deletedAt (same.messagesDeletedAt ▸ present)
  written := by
    change row.status.Written
    rw [same.status]
    exact invariant.written

theorem claim_resumes (invariant : ResumeInvariant settings history database)
    {job : Uuid} {skipLocked : Bool} {fileName : String} {batch : List Uuid}
    {after : ArchiveDatabase} {rest : Option Execution}
    (stepped : advance settings database (.claiming job)
      (.statement skipLocked fileName batch) = some (after, rest)) :
    Resumes history after rest := by
  simp only [advance] at stepped
  split at stepped
  · next claimedDatabase row claimed =>
      cases stepped
      rcases claimRoomForArchive_cases claimed with
        ⟨_, notClaimed⟩ | ⟨_, rfl, progress, ⟨same, unfinished⟩ | never⟩
      · exact absurd rfl (notClaimed row)
      · cases ClaimOutcome.claimed.inj same
        have kept := invariant.same progress
        apply resumes_of_read kept
        · exact kept.deletedAt
        · rw [afterClaim]
          split
          · next needs => exact untouched_of_needsProcessing kept unfinished needs
          · trivial
      · exact absurd rfl (never row)
  · next claimedDatabase outcome _ claimed =>
      cases stepped
      rcases claimRoomForArchive_cases claimed with ⟨rfl, _⟩ | ⟨row, rfl, progress, _⟩
      · exact resumes_of_end invariant
      · exact resumes_of_end (invariant.same progress)

theorem advance_resumes (invariant : ResumeInvariant settings history database)
    {execution : Execution} {choice : Choice} {after : ArchiveDatabase}
    {rest : Option Execution}
    (holds : ResumeAssertion settings history database execution)
    (stepped : advance settings database execution choice = some (after, rest)) :
    Resumes history after rest := by
  cases execution with
  | claiming job =>
      cases choice with
      | statement skipLocked fileName batch => exact claim_resumes invariant stepped
      | raise error =>
          cases stepped
          exact resumes_of_end invariant
  | working conversation stage =>
      cases choice with
      | statement skipLocked fileName batch =>
          simp only [advance] at stepped
          split at stepped
          · cases stepped
          · next stored found =>
              exact statement_resumes invariant
                (ArchiveDatabase.row_of_conversation found) holds stepped
      | raise error =>
          cases stepped
          refine ⟨invariant.untouched, invariant.deleted, invariant.deletedAt,
            invariant.written, ?_⟩
          intro other otherStage raises
          cases stage <;> cases raises <;> exact ⟨holds.2.1, trivial⟩

theorem ResumeInvariant.advance (invariant : ResumeInvariant settings history database)
    {execution : Execution} {choice : Choice} {after : ArchiveDatabase}
    {rest : Option Execution}
    (holds : ResumeAssertion settings history database execution)
    (stepped : advance settings database execution choice = some (after, rest)) :
    ResumeInvariant settings history after ∧
      ∀ remaining, rest = some remaining →
        ResumeAssertion settings history after remaining := by
  rcases advance_achieves invariant.archive holds.execution (holds.inTime choice) stepped with
    ⟨archive, _, executions⟩
  rcases advance_resumes invariant holds stepped with
    ⟨untouched, deleted, deletedAt, written, resumes⟩
  refine ⟨⟨archive, untouched, deleted, deletedAt, written⟩, ?_⟩
  intro remaining isRest
  cases remaining with
  | claiming job => trivial
  | working conversation stage =>
      exact ⟨executions _ isRest, resumes conversation stage isRest⟩

theorem ResumeInvariant.surround (invariant : ResumeInvariant settings history database)
    {event : ArchiveSurrounding} {after : ArchiveDatabase}
    (surrounded : surround database event = some after) :
    ResumeInvariant settings history after ∧
      ∀ execution, ResumeAssertion settings history database execution →
        ResumeAssertion settings history after execution := by
  rcases surround_achieves invariant.archive surrounded with ⟨archive, progress⟩
  have stays : ∀ execution, ResumeAssertion settings history database execution →
      after.messages = database.messages → after.row.status = database.row.status →
      ResumeAssertion settings history after execution := by
    intro execution holds sameMessages sameStatus
    cases execution with
    | claiming job => trivial
    | working conversation stage =>
        refine ⟨holds.1.stable progress, sameMessages ▸ holds.2.1, ?_⟩
        have asserts := holds.2.2
        cases stage <;> simp_all [ResumeStageAssertion]
  cases event with
  | tick elapsed =>
      cases surrounded
      exact ⟨⟨archive, invariant.untouched, invariant.deleted,
        invariant.deletedAt, invariant.written⟩,
        fun execution holds => stays execution holds rfl rfl⟩
  | createPendingRecord job =>
      cases surrounded
      have same := createPendingRecord_same database job
      exact ⟨invariant.same same, fun execution holds => stays execution holds rfl same.status⟩

theorem FirstArchive.resumeInvariant (first : FirstArchive history database) :
    ResumeInvariant settings history database := by
  rcases first.row_created with ⟨job, rowIs⟩
  refine ⟨first.invariant, fun _ => first.messages, ?_, ?_, ?_⟩ <;> rw [rowIs]
  · exact False.elim
  · exact fun present => absurd rfl present
  · trivial

variable (settings history)

def resumeOutline : SequentialOutline (archiveProgram settings) where
  Invariant := ResumeInvariant settings history
  Assertion := ResumeAssertion settings history
  enter := fun _ => trivial
  advance := fun invariant holds advanced => invariant.advance holds advanced
  surround := fun invariant surrounded => invariant.surround surrounded

/-! ## A FINISHED row -/

/-- Once the row is FINISHED and no execution is in flight, all that an
execution can do is to find the row and return. -/
def finishedOutline (conversation : RoomArchivedConversation) (messages : List Message)
    (stored : String → Option (List ArchivedLine))
    (finished : conversation.status = .finished) :
    Outline (archiveProgram settings)
      (Machine.anyStep : ArchivePool Pid → ArchiveEvent Pid → Prop) where
  Invariant := fun database => database.conversation = some conversation ∧
    database.messages = messages ∧ database.stored = stored
  Assertion := fun _ execution => ∃ job, execution = .claiming job
  Guarantee := fun _ _ => True
  enter := fun _ => ⟨_, rfl⟩
  advance := by
    intro pool pid choice _ shared rest _ _ given facts advanced
    rcases given with ⟨found, sameMessages, sameStored⟩
    rcases facts with ⟨job, rfl⟩
    cases choice with
    | raise error =>
        cases advanced
        exact ⟨⟨found, sameMessages, sameStored⟩, trivial, fun _ impossible => by cases impossible⟩
    | statement skipLocked fileName batch =>
        have returns : shared = pool.shared ∧ rest = none := by
          cases skipLocked <;>
            simp [archiveProgram, Archive.advance, claimRoomForArchive, found, claimRow,
              finished] at advanced <;>
            exact ⟨advanced.1.symm, advanced.2.symm⟩
        rcases returns with ⟨rfl, rfl⟩
        exact ⟨⟨found, sameMessages, sameStored⟩, trivial, fun _ impossible => by cases impossible⟩
  surround := by
    intro pool event shared _ given surrounded
    rcases given with ⟨found, sameMessages, sameStored⟩
    cases event with
    | tick elapsed =>
        cases surrounded
        exact ⟨⟨found, sameMessages, sameStored⟩, trivial⟩
    | createPendingRecord job =>
        cases surrounded
        refine ⟨⟨?_, sameMessages, sameStored⟩, trivial⟩
        simp [found, createPendingRecord, finished]
  stable := fun _ holds => holds

/-- `lines` has exactly one line for each message, in `(created_on, pk)` order. -/
def OneLinePerMessage (lines : List ArchivedLine) : Prop :=
  ∃ ordered : List Message, ordered.Perm history.messages ∧
    (ordered.Pairwise fun left right => left.key < right.key) ∧
    lines = ordered.map (archivedLine settings)

theorem archivedFile_oneLinePerMessage :
    OneLinePerMessage settings history (archivedFile settings history.messages) :=
  ⟨_, orderBy_perm Message.key history.messages,
    orderBy_strict Message.key history.keys_distinct, rfl⟩

end Outline

/-- When executions do not overlap, whatever failed or was killed before, a
FINISHED row has a complete file, no message is left, and nothing that is
started later changes the row, the storage or the messages. -/
theorem finished_archive_complete {Pid : Type} [DecidableEq Pid] (settings : ArchiveSettings)
    (history : RoomHistory) {initial : ArchiveDatabase} {final : ArchivePool Pid}
    {conversation : RoomArchivedConversation}
    (first : FirstArchive history initial)
    (reaches : (archiveProgram settings).machine.Reaches NonOverlapping
      (Pool.idle initial) final)
    (ended : final.IsIdle)
    (found : final.shared.conversation = some conversation)
    (finished : conversation.status = .finished) :
    (∃ name lines, conversation.file = some name ∧
        final.shared.stored name = some lines ∧
        OneLinePerMessage settings history lines) ∧
      final.shared.messages = [] ∧
      ∀ later, (archiveProgram settings).machine.Reaches NonOverlapping final later →
        later.shared.conversation = some conversation ∧
          later.shared.messages = final.shared.messages ∧
          later.shared.stored = final.shared.stored := by
  have holds := (resumeOutline settings history).holds_of_reaches reaches
    ((resumeOutline settings history).holds_of_isIdle first.resumeInvariant
      (Pool.idle_isIdle initial))
  have invariant : ResumeInvariant settings history final.shared := holds.shared
  have rowIs := ArchiveDatabase.row_of_conversation found
  refine ⟨?_, ?_, ?_⟩
  · have present : final.shared.row.file ≠ none := by
      apply invariant.archive.uploaded
      rw [rowIs, finished]
      trivial
    rcases Option.ne_none_iff_exists'.mp present with ⟨name, named⟩
    exact ⟨name, _, rowIs ▸ named, invariant.archive.file name named,
      archivedFile_oneLinePerMessage settings history⟩
  · apply invariant.deleted
    rw [rowIs, finished]
    trivial
  · intro later continued
    have start : (finishedOutline settings conversation final.shared.messages
        final.shared.stored finished).Holds final :=
      InterferenceOutline.holds_of_isIdle _ ⟨found, rfl, rfl⟩ ended
    exact ((finishedOutline settings conversation final.shared.messages
      final.shared.stored finished).holds_of_reaches
      (continued.mono fun _ _ _ => trivial) start).shared

/-- An execution that fails after its claim, and one that resumes the row. -/
theorem finished_archive_complete_on_resumed_row :
    ∃ (final : ArchivePool (Fin 2)) (conversation : RoomArchivedConversation),
      (archiveProgram defaultSettings).machine.runMeeting NonOverlapping
        (Pool.idle unarchived)
        (failingEvents 0 ++ [.start 1 7, next 1] ++ archivingEvents 1 "messages.jsonl") =
      some final ∧ final.shared.conversation = some conversation ∧
      ∃ name lines, conversation.file = some name ∧
        final.shared.stored name = some lines ∧
        OneLinePerMessage defaultSettings singleHistory lines := by
  have ends : ((archiveProgram defaultSettings).machine.runMeeting NonOverlapping
      (Pool.idle unarchived : ArchivePool (Fin 2))
      (failingEvents 0 ++ [.start 1 7, next 1] ++ archivingEvents 1 "messages.jsonl")).map
      (fun pool => (pool.shared.conversation.map fun row => row.status,
        decide pool.IsIdle)) =
      some (some .finished, true) := by
    decide
  rcases Option.map_eq_some_iff.mp ends with ⟨final, ran, observed⟩
  simp only [Prod.mk.injEq, Option.map_eq_some_iff, decide_eq_true_eq] at observed
  rcases observed with ⟨⟨conversation, found, finished⟩, ended⟩
  exact ⟨final, conversation, ran, found,
    (finished_archive_complete defaultSettings singleHistory unarchived_first
      (.of_runMeeting ran) ended found finished).1⟩

end ChatsEngine.Archive
