import ChatsEngine.Archive.Service

/-! # No message is lost from both places

The proof outline of the archive: which files are complete, when a message may
leave the database, and what each statement of an execution relies on. -/

namespace ChatsEngine.Archive

open Keyset

def ArchiveDatabase.row (database : ArchiveDatabase) : RoomArchivedConversation :=
  database.conversation.getD (.created 0)

theorem ArchiveDatabase.row_of_conversation {database : ArchiveDatabase}
    {conversation : RoomArchivedConversation}
    (found : database.conversation = some conversation) :
    database.row = conversation := by
  simp [row, found]

def ArchiveConversationsJobStatus.Uploaded : ArchiveConversationsJobStatus → Prop
  | .messagesFileUploaded | .deletingMessagesFromDb | .messagesDeletedFromDb
  | .finished => True
  | _ => False

section Outline

variable (settings : ArchiveSettings) (history : RoomHistory)

def Complete (database : ArchiveDatabase) (name : String) : Prop :=
  database.stored name = some (archivedFile settings history.messages)

structure ArchiveInvariant (database : ArchiveDatabase) : Prop where
  messages : database.messages.Sublist history.messages
  file : ∀ name, database.row.file = some name → Complete settings history database name
  uploaded : database.row.status.Uploaded → database.row.file ≠ none
  deleted : database.messages ≠ history.messages → database.row.file ≠ none

/-- What an iteration of `_iter_messages` has written and read when it stands
after `last`. -/
def ReadUpTo (lines : List ArchivedLine) (last : Option (Nat ×ₗ Nat))
    (rest : List Message) : Prop :=
  ∃ read, orderBy Message.key history.messages = read ++ rest ∧
    lines = read.map (archivedLine settings) ∧ last = lastKey Message.key read

def StageAssertion (database : ArchiveDatabase)
    (conversation : RoomArchivedConversation) : Stage → Prop
  | .saveProcessingMessages | .registerError _ | .leaveTry | .refreshAtEnd => True
  | .readPage lines last => ∃ rest, ReadUpTo settings history lines last rest
  | .prefetchMedias lines last page =>
      ∃ rest, ReadUpTo settings history lines last (page ++ rest) ∧ page ≠ []
  | .saveUploadingMessagesFile lines | .storeFile lines =>
      lines = archivedFile settings history.messages
  | .saveFile => conversation.file ≠ none
  | _ => database.row.file ≠ none

def ExecutionAssertion (database : ArchiveDatabase) : Execution → Prop
  | .claiming _ => True
  | .working conversation stage =>
      (∀ name, conversation.file = some name → Complete settings history database name) ∧
        StageAssertion settings history database conversation stage

structure Progress (before after : ArchiveDatabase) : Prop where
  file : before.row.file ≠ none → after.row.file ≠ none
  complete : ∀ name, Complete settings history before name →
    Complete settings history after name

def Stage.reading : Stage → Option (Option (Nat ×ₗ Nat))
  | .readPage _ last | .prefetchMedias _ last _ => some last
  | _ => none

/-- No message that follows `last` has been deleted. -/
def NothingMissed (database : ArchiveDatabase) (last : Option (Nat ×ₗ Nat)) : Prop :=
  ∀ message, message ∈ history.messages →
    IsAfter Message.key last message → message ∈ database.messages

instance (database : ArchiveDatabase) (last : Option (Nat ×ₗ Nat)) :
    Decidable (NothingMissed history database last) := by
  unfold NothingMissed
  infer_instance

/-- A statement that reads a page, or its medias, for the file finds all the
messages that it has still to read. -/
def ReadsInTime (database : ArchiveDatabase) : Execution → Choice → Prop
  | .working _ stage, .statement _ _ _ =>
      match stage.reading with
      | some last => NothingMissed history database last
      | none => True
  | _, _ => True

instance (database : ArchiveDatabase) (execution : Execution) (choice : Choice) :
    Decidable (ReadsInTime history database execution choice) := by
  unfold ReadsInTime
  split
  · split <;> infer_instance
  · infer_instance

variable {settings history} {database : ArchiveDatabase}

theorem ExecutionAssertion.stable {before after : ArchiveDatabase}
    {execution : Execution} (progress : Progress settings history before after)
    (holds : ExecutionAssertion settings history before execution) :
    ExecutionAssertion settings history after execution := by
  cases execution with
  | claiming job => trivial
  | working conversation stage =>
      refine ⟨fun name named => progress.complete name (holds.1 name named), ?_⟩
      have stageHolds := holds.2
      cases stage <;> first | exact stageHolds | exact progress.file stageHolds

/-! ## Statements that save some columns of the row -/

/-- The row loses no file, and a status that promises a file finds one. -/
structure KeepsFile (database : ArchiveDatabase) (row : RoomArchivedConversation) :
    Prop where
  file : row.file = database.row.file
  uploaded : row.status.Uploaded → database.row.file ≠ none

theorem ArchiveInvariant.save (invariant : ArchiveInvariant settings history database)
    {row : RoomArchivedConversation} (keeps : KeepsFile database row) :
    ArchiveInvariant settings history { database with conversation := some row } := by
  refine ⟨invariant.messages, ?_, ?_, ?_⟩
  · intro name named
    exact invariant.file name (keeps.file ▸ named)
  · intro uploaded
    change row.file ≠ none
    rw [keeps.file]
    exact keeps.uploaded uploaded
  · intro deleted
    change row.file ≠ none
    rw [keeps.file]
    exact invariant.deleted deleted

theorem Progress.save {row : RoomArchivedConversation} (keeps : KeepsFile database row) :
    Progress settings history database { database with conversation := some row } where
  file := by
    intro present
    change row.file ≠ none
    rwa [keeps.file]
  complete := fun _ complete => complete

theorem Progress.refl : Progress settings history database database where
  file := fun present => present
  complete := fun _ complete => complete

/-! ## The claim -/

theorem claimRow_claimed {settings : ArchiveSettings} {now : Instant} {job : Uuid}
    {conversation claimed : RoomArchivedConversation}
    (outcome : claimRow settings now job conversation = .claimed claimed) :
    claimed = { conversation with archiveProcessStartedAt := some now, job := job } ∧
      conversation.status ≠ .finished := by
  rw [claimRow] at outcome
  split at outcome
  · cases outcome
  · next unfinished =>
      split at outcome
      · cases outcome
      · exact ⟨(ClaimOutcome.claimed.inj outcome).symm, unfinished⟩

structure SameProgress (database : ArchiveDatabase) (row : RoomArchivedConversation) :
    Prop where
  file : row.file = database.row.file
  status : row.status = database.row.status
  messagesDeletedAt : row.messagesDeletedAt = database.row.messagesDeletedAt

theorem claimRoomForArchive_cases {settings : ArchiveSettings}
    {database after : ArchiveDatabase} {job : Uuid} {skipLocked : Bool}
    {outcome : ClaimOutcome}
    (claimed : claimRoomForArchive settings database job skipLocked = (after, outcome)) :
    (after = database ∧ ∀ row, outcome ≠ .claimed row) ∨
    ∃ row, after = { database with conversation := some row } ∧ SameProgress database row ∧
      (outcome = .claimed row ∧ row.status ≠ .finished ∨ ∀ other, outcome ≠ .claimed other) := by
  rw [claimRoomForArchive] at claimed
  split at claimed
  · next conversation found =>
      have rowIs := ArchiveDatabase.row_of_conversation found
      split at claimed
      · cases claimed
        exact .inl ⟨rfl, by simp⟩
      · split at claimed
        · next row outcomeIs =>
            cases claimed
            rcases claimRow_claimed outcomeIs with ⟨rfl, unfinished⟩
            exact .inr ⟨_, rfl, ⟨by rw [rowIs], by rw [rowIs], by rw [rowIs]⟩,
              .inl ⟨rfl, unfinished⟩⟩
        · next notClaimed =>
            cases claimed
            exact .inl ⟨rfl, notClaimed⟩
  · next absent =>
      have rowIs : database.row = .created 0 := by simp [ArchiveDatabase.row, absent]
      split at claimed
      · next row outcomeIs =>
          cases claimed
          rcases claimRow_claimed outcomeIs with ⟨rfl, unfinished⟩
          exact .inr ⟨_, rfl, ⟨by rw [rowIs]; rfl, by rw [rowIs]; rfl, by rw [rowIs]; rfl⟩,
            .inl ⟨rfl, unfinished⟩⟩
      · next notClaimed =>
          cases claimed
          exact .inr ⟨.created job, rfl,
            ⟨by rw [rowIs]; rfl, by rw [rowIs]; rfl, by rw [rowIs]; rfl⟩, .inr notClaimed⟩

theorem SameProgress.keepsFile {row : RoomArchivedConversation}
    (invariant : ArchiveInvariant settings history database)
    (same : SameProgress database row) : KeepsFile database row where
  file := same.file
  uploaded := fun uploaded => invariant.uploaded (same.status ▸ uploaded)

theorem file_of_not_needsProcessing (invariant : ArchiveInvariant settings history database)
    (skips : database.row.needsProcessingAndUpload = false) :
    database.row.file ≠ none := by
  have uploaded := invariant.uploaded
  intro absent
  cases status : database.row.status <;>
    simp [RoomArchivedConversation.needsProcessingAndUpload,
      ArchiveConversationsJobStatus.Uploaded, status, absent] at skips uploaded

/-! ## Reading the messages -/

theorem ReadUpTo.start : ReadUpTo settings history [] none
    (orderBy Message.key history.messages) :=
  ⟨[], rfl, rfl, rfl⟩

theorem page_of_readUpTo (invariant : ArchiveInvariant settings history database)
    {lines : List ArchivedLine} {last : Option (Nat ×ₗ Nat)} {rest : List Message}
    (read : ReadUpTo settings history lines last rest)
    (kept : NothingMissed history database last) :
    page Message.key settings.messagePageSize last database.messages =
      rest.take settings.messagePageSize := by
  rcases read with ⟨done, split, _, rfl⟩
  apply page_eq_take Message.key _ history.keys_distinct split invariant.messages
  intro message inRest
  have strict := orderBy_strict Message.key history.keys_distinct
  rw [split] at strict
  have inHistory : message ∈ orderBy Message.key history.messages := by
    rw [split]
    exact List.mem_append_right done inRest
  exact kept message ((mem_orderBy _).mp inHistory)
    ((isAfter_lastKey_iff Message.key strict (List.mem_append_right done inRest)).mpr inRest)

theorem readPage_asserts (invariant : ArchiveInvariant settings history database)
    {lines : List ArchivedLine} {last : Option (Nat ×ₗ Nat)} {rest : List Message}
    (read : ReadUpTo settings history lines last rest)
    (kept : NothingMissed history database last)
    (conversation : RoomArchivedConversation) :
    StageAssertion settings history database conversation
      (readPage settings database lines last) := by
  have pageIs := page_of_readUpTo invariant read kept
  rw [readPage]
  split
  · next empty =>
      -- An empty page means that nothing is left to read.
      have restEmpty : rest = [] := by
        rw [pageIs, List.take_eq_nil_iff] at empty
        exact empty.resolve_left settings.messagePageSize_pos.ne'
      rcases read with ⟨done, split, linesAre, _⟩
      rw [restEmpty, List.append_nil] at split
      change lines = archivedFile settings history.messages
      rw [archivedFile, split, linesAre]
  · next message page nonempty =>
      refine ⟨rest.drop settings.messagePageSize, ?_, by simp⟩
      rw [← nonempty, pageIs, List.take_append_drop]
      exact read

theorem prefetchMedias_asserts {lines : List ArchivedLine}
    {last : Option (Nat ×ₗ Nat)} {page rest : List Message}
    (read : ReadUpTo settings history lines last (page ++ rest))
    (nonempty : page ≠ [])
    (kept : NothingMissed history database last) :
    ReadUpTo settings history
      (lines ++ page.map fun message =>
        archivedLine settings (fetchMedias database.messages message))
      (lastKey Message.key page) rest := by
  rcases read with ⟨done, split, linesAre, lastIs⟩
  have fetched : ∀ message, message ∈ page →
      fetchMedias database.messages message = message := by
    intro message inPage
    have inRest : message ∈ page ++ rest := List.mem_append_left rest inPage
    have strict := orderBy_strict Message.key history.keys_distinct
    rw [split] at strict
    have inHistory : message ∈ orderBy Message.key history.messages := by
      rw [split]
      exact List.mem_append_right done inRest
    have after : IsAfter Message.key last message := by
      rw [lastIs]
      exact (isAfter_lastKey_iff Message.key strict
        (List.mem_append_right done inRest)).mpr inRest
    simp [fetchMedias, kept message ((mem_orderBy _).mp inHistory) after]
  have written : (page.map fun message =>
      archivedLine settings (fetchMedias database.messages message)) =
      page.map (archivedLine settings) :=
    List.map_congr_left fun message inPage => by rw [fetched message inPage]
  refine ⟨done ++ page, by rw [split, List.append_assoc], ?_, ?_⟩
  · rw [written, linesAre, List.map_append]
  · rw [lastKey_append _ nonempty]

/-! ## One statement -/

def Achieves (settings : ArchiveSettings) (history : RoomHistory)
    (database after : ArchiveDatabase) (rest : Option Execution) : Prop :=
  ArchiveInvariant settings history after ∧ Progress settings history database after ∧
    ∀ execution, rest = some execution →
      ExecutionAssertion settings history after execution

theorem achieves_of_read (invariant : ArchiveInvariant settings history database)
    {conversation : RoomArchivedConversation} {stage : Stage}
    (complete : ∀ name, conversation.file = some name →
      Complete settings history database name)
    (asserts : StageAssertion settings history database conversation stage) :
    Achieves settings history database database (some (.working conversation stage)) := by
  refine ⟨invariant, .refl, ?_⟩
  intro execution isRest
  cases isRest
  exact ⟨complete, asserts⟩

theorem achieves_of_end (invariant : ArchiveInvariant settings history database) :
    Achieves settings history database database none :=
  ⟨invariant, .refl, fun _ impossible => by cases impossible⟩

theorem achieves_of_save (invariant : ArchiveInvariant settings history database)
    {conversation row : RoomArchivedConversation} {stage : Stage}
    (keeps : KeepsFile database row)
    (complete : ∀ name, conversation.file = some name →
      Complete settings history database name)
    (asserts : StageAssertion settings history
      { database with conversation := some row } conversation stage) :
    Achieves settings history database { database with conversation := some row }
      (some (.working conversation stage)) := by
  refine ⟨invariant.save keeps, .save keeps, ?_⟩
  intro execution isRest
  cases isRest
  exact ⟨complete, asserts⟩

theorem uploadMessagesFile_asserts (database : ArchiveDatabase)
    (conversation : RoomArchivedConversation) :
    StageAssertion settings history database conversation
      (uploadMessagesFile conversation) := by
  rw [uploadMessagesFile]
  split
  · exact ⟨_, .start⟩
  · trivial

theorem afterUpload_asserts {conversation : RoomArchivedConversation}
    (present : database.row.file ≠ none) :
    StageAssertion settings history database conversation (afterUpload conversation) := by
  rw [afterUpload]
  split
  · split <;> exact present
  · exact present

theorem deleteRoomMessages_asserts {conversation : RoomArchivedConversation}
    (present : database.row.file ≠ none) :
    StageAssertion settings history database conversation
      (deleteRoomMessages conversation) := by
  rw [deleteRoomMessages]
  split
  · exact present
  · trivial

theorem storeFile_achieves (invariant : ArchiveInvariant settings history database)
    {conversation : RoomArchivedConversation} {fileName : String}
    {lines : List ArchivedLine}
    (linesAre : lines = archivedFile settings history.messages) :
    Achieves settings history database
      { database with stored := Function.update database.stored fileName (some lines) }
      (some (.working { conversation with file := some fileName } .saveFile)) := by
  -- Whatever name the storage picks, what it holds there now is complete.
  have stays : ∀ name, Complete settings history database name ∨ name = fileName →
      Complete settings history
        { database with stored := Function.update database.stored fileName (some lines) }
        name := by
    intro name known
    by_cases same : name = fileName
    · simp [Complete, same, linesAre]
    · have before := known.resolve_right same
      simpa [Complete, Function.update_of_ne same] using before
  refine ⟨⟨invariant.messages, ?_, invariant.uploaded, invariant.deleted⟩,
    ⟨fun present => present, fun name known => stays name (.inl known)⟩, ?_⟩
  · intro name named
    exact stays name (.inl (invariant.file name named))
  · intro execution isRest
    cases isRest
    refine ⟨?_, by simp [StageAssertion]⟩
    intro name named
    exact stays name (.inr (Option.some.inj named).symm)

theorem saveFile_achieves (invariant : ArchiveInvariant settings history database)
    {conversation : RoomArchivedConversation}
    (complete : ∀ name, conversation.file = some name →
      Complete settings history database name)
    (present : conversation.file ≠ none) :
    Achieves settings history database { database with conversation := some conversation }
      (some (.working conversation .saveMessagesFileUploaded)) := by
  refine ⟨⟨invariant.messages, complete, fun _ => present, fun _ => present⟩,
    ⟨fun _ => present, fun _ known => known⟩, ?_⟩
  intro execution isRest
  cases isRest
  exact ⟨complete, present⟩

theorem deleteBatch_achieves (invariant : ArchiveInvariant settings history database)
    {conversation : RoomArchivedConversation} (pks : List Uuid)
    (complete : ∀ name, conversation.file = some name →
      Complete settings history database name)
    (present : database.row.file ≠ none) :
    Achieves settings history database
      { database with
        messages := database.messages.filter fun message => message.uuid ∉ pks }
      (some (.working conversation .selectBatch)) := by
  refine ⟨⟨List.filter_sublist.trans invariant.messages, invariant.file,
    invariant.uploaded, fun _ => present⟩,
    ⟨fun present => present, fun _ known => known⟩, ?_⟩
  intro execution isRest
  cases isRest
  exact ⟨complete, present⟩

theorem statement_achieves (invariant : ArchiveInvariant settings history database)
    {stored conversation : RoomArchivedConversation} {stage : Stage}
    (rowIs : database.row = stored)
    (holds : ExecutionAssertion settings history database (.working conversation stage))
    {skipLocked : Bool} {fileName : String} {batch : List Uuid}
    (inTime : ReadsInTime history database (.working conversation stage)
      (.statement skipLocked fileName batch)) {after : ArchiveDatabase}
    {rest : Option Execution}
    (stepped : statement settings database stored conversation fileName batch stage =
      some (after, rest)) :
    Achieves settings history database after rest := by
  rcases holds with ⟨complete, asserts⟩
  have rowFile : stored.file = database.row.file := by rw [rowIs]
  cases stage with
  | saveProcessingMessages =>
      cases stepped
      exact achieves_of_save invariant ⟨rowFile, False.elim⟩ complete
        (uploadMessagesFile_asserts _ _)
  | readPage lines last =>
      cases stepped
      rcases asserts with ⟨rest, read⟩
      exact achieves_of_read invariant complete
        (readPage_asserts invariant read inTime conversation)
  | prefetchMedias lines last page =>
      cases stepped
      rcases asserts with ⟨rest, read, nonempty⟩
      exact achieves_of_read invariant complete
        ⟨rest, prefetchMedias_asserts read nonempty inTime⟩
  | saveUploadingMessagesFile lines =>
      cases stepped
      exact achieves_of_save invariant ⟨rowFile, False.elim⟩ complete asserts
  | storeFile lines =>
      cases stepped
      exact storeFile_achieves invariant asserts
  | saveFile =>
      cases stepped
      exact saveFile_achieves invariant complete asserts
  | saveMessagesFileUploaded =>
      cases stepped
      exact achieves_of_save invariant ⟨rowFile, fun _ => asserts⟩ complete
        (rowFile ▸ asserts : stored.file ≠ none)
  | refreshAfterUpload =>
      cases stepped
      exact achieves_of_read invariant (fun name named => invariant.file name (rowFile ▸ named))
        (afterUpload_asserts asserts)
  | saveUploadedStatus =>
      cases stepped
      exact achieves_of_save invariant ⟨rowFile, fun _ => asserts⟩ complete
        (rowFile ▸ asserts : stored.file ≠ none)
  | refreshBeforeDeletion =>
      cases stepped
      exact achieves_of_read invariant (fun name named => invariant.file name (rowFile ▸ named))
        (deleteRoomMessages_asserts asserts)
  | selectBatch =>
      simp only [statement] at stepped
      split at stepped
      · cases stepped
        exact achieves_of_read invariant complete asserts
      · split at stepped
        · cases stepped
          exact achieves_of_read invariant complete asserts
        · cases stepped
  | deleteBatch pks =>
      cases stepped
      exact deleteBatch_achieves invariant pks complete asserts
  | saveMessagesDeleted =>
      cases stepped
      exact achieves_of_save invariant ⟨rowFile, fun _ => asserts⟩ complete
        (rowFile ▸ asserts : stored.file ≠ none)
  | refreshBeforeFinish =>
      cases stepped
      exact achieves_of_read invariant (fun name named => invariant.file name (rowFile ▸ named))
        asserts
  | saveFinished =>
      cases stepped
      exact achieves_of_save invariant ⟨rowFile, fun _ => asserts⟩ complete trivial
  | leaveTry =>
      cases stepped
      exact achieves_of_read invariant complete trivial
  | registerError error =>
      cases stepped
      exact achieves_of_save invariant ⟨rowFile, False.elim⟩ complete trivial
  | refreshAtEnd =>
      cases stepped
      exact achieves_of_end invariant

theorem claim_achieves (invariant : ArchiveInvariant settings history database)
    {job : Uuid} {skipLocked : Bool} {fileName : String} {batch : List Uuid}
    {after : ArchiveDatabase} {rest : Option Execution}
    (stepped : advance settings database (.claiming job)
      (.statement skipLocked fileName batch) = some (after, rest)) :
    Achieves settings history database after rest := by
  simp only [advance] at stepped
  split at stepped
  · next claimedDatabase row claimed =>
      cases stepped
      rcases claimRoomForArchive_cases claimed with
        ⟨_, notClaimed⟩ | ⟨_, rfl, progress, ⟨same, _⟩ | never⟩
      · exact absurd rfl (notClaimed row)
      · cases ClaimOutcome.claimed.inj same
        have keeps := progress.keepsFile invariant
        apply achieves_of_save invariant keeps
        · intro name named
          exact invariant.file name (keeps.file ▸ named)
        · rw [afterClaim]
          split
          · trivial
          · next skips =>
              have saved : row.needsProcessingAndUpload = false := by simpa using skips
              exact file_of_not_needsProcessing (invariant.save keeps) saved
      · exact absurd rfl (never row)
  · next claimedDatabase outcome _ claimed =>
      cases stepped
      rcases claimRoomForArchive_cases claimed with ⟨rfl, _⟩ | ⟨row, rfl, same, _⟩
      · exact achieves_of_end invariant
      · have keeps := same.keepsFile invariant
        exact ⟨invariant.save keeps, .save keeps, fun _ impossible => by cases impossible⟩

theorem raised_asserts {conversation : RoomArchivedConversation} {stage : Stage}
    {error : String} {execution : Execution}
    (complete : ∀ name, conversation.file = some name →
      Complete settings history database name)
    (raises : raised conversation error stage = some execution) :
    ExecutionAssertion settings history database execution := by
  cases stage <;> cases raises <;> exact ⟨complete, trivial⟩

theorem advance_achieves (invariant : ArchiveInvariant settings history database)
    {execution : Execution} {choice : Choice} {after : ArchiveDatabase}
    {rest : Option Execution}
    (holds : ExecutionAssertion settings history database execution)
    (inTime : ReadsInTime history database execution choice)
    (stepped : advance settings database execution choice = some (after, rest)) :
    Achieves settings history database after rest := by
  cases execution with
  | claiming job =>
      cases choice with
      | statement skipLocked fileName batch => exact claim_achieves invariant stepped
      | raise error =>
          cases stepped
          exact achieves_of_end invariant
  | working conversation stage =>
      cases choice with
      | statement skipLocked fileName batch =>
          simp only [advance] at stepped
          split at stepped
          · cases stepped
          · next stored found =>
              exact statement_achieves invariant
                (ArchiveDatabase.row_of_conversation found) holds inTime stepped
      | raise error =>
          cases stepped
          exact ⟨invariant, .refl, fun _ raises => raised_asserts holds.1 raises⟩

theorem createPendingRecord_same (database : ArchiveDatabase) (job : Uuid) :
    SameProgress database (createPendingRecord job database.conversation) := by
  cases found : database.conversation with
  | none => constructor <;> simp [createPendingRecord, ArchiveDatabase.row, found,
      RoomArchivedConversation.created]
  | some conversation =>
      have rowIs := ArchiveDatabase.row_of_conversation found
      by_cases finished : conversation.status = .finished <;>
        constructor <;> simp [createPendingRecord, finished, rowIs]

theorem surround_achieves (invariant : ArchiveInvariant settings history database)
    {event : ArchiveSurrounding} {after : ArchiveDatabase}
    (surrounded : surround database event = some after) :
    ArchiveInvariant settings history after ∧ Progress settings history database after := by
  cases event with
  | tick elapsed =>
      cases surrounded
      exact ⟨⟨invariant.messages, invariant.file, invariant.uploaded, invariant.deleted⟩,
        ⟨fun present => present, fun _ known => known⟩⟩
  | createPendingRecord job =>
      cases surrounded
      have keeps := (createPendingRecord_same database job).keepsFile invariant
      exact ⟨invariant.save keeps, .save keeps⟩

theorem FirstArchive.row_created (first : FirstArchive history database) :
    ∃ job, database.row = .created job := by
  cases found : database.conversation with
  | none => exact ⟨0, by simp [ArchiveDatabase.row, found]⟩
  | some conversation =>
      rcases first.conversation conversation found with ⟨job, isCreated⟩
      exact ⟨job, by rw [ArchiveDatabase.row_of_conversation found, isCreated]⟩

theorem FirstArchive.invariant (first : FirstArchive history database) :
    ArchiveInvariant settings history database := by
  rcases first.row_created with ⟨job, rowIs⟩
  refine ⟨by rw [first.messages], ?_, ?_, fun deleted => absurd first.messages deleted⟩
  · intro name named
    rw [rowIs] at named
    cases named
  · intro uploaded
    rw [rowIs] at uploaded
    exact uploaded.elim

variable (settings history) {Pid : Type}

def AllReadInTime : ArchivePool Pid → ArchiveEvent Pid → Prop :=
  fun pool event => pool.OwnStep (ReadsInTime history) event

instance (pool : ArchivePool Pid) (event : ArchiveEvent Pid) :
    Decidable (AllReadInTime history pool event) := by
  unfold AllReadInTime
  infer_instance

def archiveOutline : Outline (archiveProgram settings)
    (AllReadInTime history : ArchivePool Pid → ArchiveEvent Pid → Prop) where
  Invariant := ArchiveInvariant settings history
  Assertion := ExecutionAssertion settings history
  Guarantee := Progress settings history
  enter := fun _ => trivial
  advance := fun inTime running invariant holds advanced =>
    advance_achieves invariant holds (Pool.OwnStep.allowed inTime running) advanced
  surround := fun _ invariant surrounded => surround_achieves invariant surrounded
  stable := ExecutionAssertion.stable

/-- Once the row is FINISHED, every message that is no longer in the database
has its line in the file that the row references. -/
def NoMessageLost (database : ArchiveDatabase) : Prop :=
  ∀ conversation, database.conversation = some conversation →
    conversation.status = .finished →
    ∀ message, message ∈ history.messages → message ∉ database.messages →
      ∃ name lines, conversation.file = some name ∧
        database.stored name = some lines ∧ archivedLine settings message ∈ lines

end Outline

/-- Executions that read in time lose no message, however they are interleaved,
and wherever they fail or are killed. -/
theorem archive_loses_no_message {Pid : Type} [DecidableEq Pid] (settings : ArchiveSettings)
    (history : RoomHistory) {initial : ArchiveDatabase} {final : ArchivePool Pid}
    (first : FirstArchive history initial)
    (reaches : (archiveProgram settings).machine.Reaches (AllReadInTime history)
      (Pool.idle initial) final) :
    NoMessageLost settings history final.shared := by
  have holds := (archiveOutline settings history).holds_of_reaches reaches
    ((archiveOutline settings history).holds_idle first.invariant)
  intro conversation found finished message inHistory deleted
  have rowIs := ArchiveDatabase.row_of_conversation found
  have shrunk : final.shared.messages ≠ history.messages := by
    intro same
    rw [same] at deleted
    exact deleted inHistory
  cases named : conversation.file with
  | none => exact absurd (rowIs ▸ named) (holds.shared.deleted shrunk)
  | some name =>
      exact ⟨name, archivedFile settings history.messages, rfl,
        holds.shared.file name (rowIs ▸ named), history.archivedLine_mem settings inHistory⟩

/-! ## Two executions on one FAILED row -/

variable {Pid : Type}

def defaultSettings : ArchiveSettings where
  messagePageSize := 500
  messagePageSize_pos := by decide
  inProgressTimeout := 12 * 3600 * 1000000
  chatsBaseUrl := "https://chats.example.com"
  flowsBaseUrl := "https://flows.example.com"
  archivedMediaPath := "/v1/archived_media/"
  isFileOnChatsBucket := fun _ => true
  urlObjectKey := fun url => url
  mediaFileUrl := fun name => name

def singleMessage : Message where
  uuid := 1
  createdOn := 10
  text := some "hello"
  user := none
  contact := some { name := "Contact", externalId := some "c-1" }
  automaticMessage := none
  internalNote := none
  medias := []

def singleHistory : RoomHistory where
  messages := [singleMessage]
  distinct := by decide

def unarchived : ArchiveDatabase where
  now := 100
  conversation := none
  messages := [singleMessage]
  stored := fun _ => none

theorem unarchived_first : FirstArchive singleHistory unarchived where
  messages := rfl
  conversation := fun _ impossible => by cases impossible

def next (pid : Pid) : ArchiveEvent Pid := .advance pid (.statement false "" [])

def failingEvents (pid : Pid) : List (ArchiveEvent Pid) :=
  [.start pid 7, next pid, .advance pid (.raise "connection reset"), next pid, next pid]

def archivingEvents (pid : Pid) (fileName : String) : List (ArchiveEvent Pid) :=
  [next pid, next pid, next pid, next pid, next pid,
    .advance pid (.statement false fileName []), next pid, next pid, next pid, next pid,
    .advance pid (.statement false "" [1]), next pid, next pid, next pid, next pid,
    next pid, next pid, next pid]

def emptyArchivingEvents (pid : Pid) (fileName : String) : List (ArchiveEvent Pid) :=
  [next pid, next pid, next pid, .advance pid (.statement false fileName []), next pid,
    next pid, next pid, next pid, next pid, next pid, next pid, next pid, next pid, next pid]

/-- Two executions claim the FAILED row one after the other; the second reads
the messages only after the first has deleted them. -/
def overlappingEvents : List (ArchiveEvent Nat) :=
  failingEvents 1 ++ [.start 2 7, next 2, .start 3 7, next 3] ++
    archivingEvents 2 "messages.jsonl" ++ emptyArchivingEvents 3 "messages_1.jsonl"

theorem overlapping_executions_lose_message :
    ¬ ∀ (settings : ArchiveSettings) (history : RoomHistory) (initial : ArchiveDatabase)
      (final : ArchivePool Nat), FirstArchive history initial →
      (archiveProgram settings).machine.Reaches Machine.anyStep (Pool.idle initial) final →
      NoMessageLost settings history final.shared := by
  intro safe
  have ends : ((archiveProgram defaultSettings).machine.run (Pool.idle unarchived)
      overlappingEvents).map (fun pool =>
        (pool.shared.conversation.map fun row => (row.status, row.file),
          pool.shared.messages, pool.shared.stored "messages_1.jsonl")) =
      some (some (.finished, some "messages_1.jsonl"), [], some []) := by
    decide
  rcases Option.map_eq_some_iff.mp ends with ⟨final, ran, observed⟩
  simp only [Prod.mk.injEq, Option.map_eq_some_iff] at observed
  rcases observed with ⟨⟨row, found, rowFinished, rowFile⟩, noMessages, emptyFile⟩
  rcases safe defaultSettings singleHistory unarchived final unarchived_first (.of_run ran)
    row found rowFinished singleMessage (by simp [singleHistory]) (by simp [noMessages]) with
    ⟨name, lines, named, storedLines, member⟩
  rw [rowFile, Option.some.injEq] at named
  rw [← named, emptyFile, Option.some.injEq] at storedLines
  simp [← storedLines] at member

/-- An execution that resumes a FAILED row on its own. -/
theorem archive_loses_no_message_on_resumed_row :
    ∃ final, (archiveProgram defaultSettings).machine.runMeeting
        (AllReadInTime singleHistory) (Pool.idle unarchived)
        (failingEvents 1 ++ [.start 2 7, next 2] ++ archivingEvents 2 "messages.jsonl") =
      some (final : ArchivePool Nat) ∧
        final.shared.conversation.map (fun row => row.status) = some .finished ∧
        final.shared.messages = [] ∧
        NoMessageLost defaultSettings singleHistory final.shared := by
  have ends : ((archiveProgram defaultSettings).machine.runMeeting
      (AllReadInTime singleHistory) (Pool.idle unarchived)
      (failingEvents 1 ++ [.start 2 7, next 2] ++ archivingEvents 2 "messages.jsonl")).map
      (fun pool => (pool.shared.conversation.map fun row => row.status, pool.shared.messages)) =
      some (some .finished, []) := by
    decide
  rcases Option.map_eq_some_iff.mp ends with ⟨final, ran, observed⟩
  rcases Prod.mk.inj observed with ⟨statusIs, noMessages⟩
  exact ⟨final, ran, statusIs, noMessages,
    archive_loses_no_message defaultSettings singleHistory unarchived_first
      (.of_runMeeting ran)⟩

end ChatsEngine.Archive
