import ChatsEngine.Archive.Safety
import ChatsEngine.Archive.Scheduler

/-! # Rooms are dispatched a day apart

The scheduler points the record of a room to its job before it sends the message, and passes over
rooms whose record points to a job of the last 24 hours. The workers write the records as well, and
point them to the jobs of their messages. -/

namespace ChatsEngine.Archive

/-! ## The job of a record -/

/-- The job that the execution knows, of its message or of the record that it has in memory. -/
def Execution.job : Execution → Uuid
  | .claiming job => job
  | .working conversation _ => conversation.job

section Jobs

variable {settings : ArchiveSettings} {database after : ArchiveDatabase}
  {stored conversation : RoomArchivedConversation} {stage : Stage} {fileName : String}
  {batch : List Uuid} {execution : Execution} {choice : Choice} {rest : Option Execution}

theorem job_of_statement
    (stated : statement settings database stored conversation fileName batch stage =
      some (after, rest)) (isStored : database.conversation = some stored) :
    (∃ row, after.conversation = some row ∧ (row.job = stored.job ∨ row.job = conversation.job)) ∧
      ∀ remaining ∈ rest, remaining.job = stored.job ∨ remaining.job = conversation.job := by
  cases stage with
  | saveProcessingMessages | saveUploadingMessagesFile _ | saveMessagesFileUploaded
  | saveUploadedStatus | saveMessagesDeleted | saveFinished =>
      cases stated
      refine ⟨⟨_, rfl, .inl rfl⟩, ?_⟩
      rintro remaining ⟨⟩
      exact .inr rfl
  | registerError error =>
      cases stated
      refine ⟨⟨_, rfl, .inl rfl⟩, ?_⟩
      rintro remaining ⟨⟩
      exact .inr rfl
  | saveFile =>
      cases stated
      refine ⟨⟨_, rfl, .inr rfl⟩, ?_⟩
      rintro remaining ⟨⟩
      exact .inr rfl
  | readPage _ _ | prefetchMedias _ _ _ | storeFile _ | deleteBatch _ | leaveTry =>
      cases stated
      refine ⟨⟨stored, isStored, .inl rfl⟩, ?_⟩
      rintro remaining ⟨⟩
      exact .inr rfl
  | refreshAfterUpload | refreshBeforeDeletion | refreshBeforeFinish =>
      cases stated
      refine ⟨⟨stored, isStored, .inl rfl⟩, ?_⟩
      rintro remaining ⟨⟩
      exact .inl rfl
  | selectBatch =>
      rw [statement] at stated
      split at stated
      · cases stated
        refine ⟨⟨stored, isStored, .inl rfl⟩, ?_⟩
        rintro remaining ⟨⟩
        exact .inr rfl
      · split at stated
        · cases stated
          refine ⟨⟨stored, isStored, .inl rfl⟩, ?_⟩
          rintro remaining ⟨⟩
          exact .inr rfl
        · cases stated
  | refreshAtEnd =>
      cases stated
      exact ⟨⟨stored, isStored, .inl rfl⟩, fun _ isRest => by cases isRest⟩

structure KeepsJob (database : ArchiveDatabase) (execution : Execution) (after : ArchiveDatabase)
    (rest : Option Execution) : Prop where
  row : ∀ row ∈ after.conversation, row.job = execution.job ∨
    ∃ stored ∈ database.conversation, row.job = stored.job
  stored : database.conversation.isSome → after.conversation.isSome
  rest : ∀ remaining ∈ rest, remaining.job = execution.job ∨
    ∃ stored ∈ database.conversation, remaining.job = stored.job

theorem KeepsJob.unchanged (sameJob : ∀ remaining ∈ rest, remaining.job = execution.job) :
    KeepsJob database execution database rest where
  row := fun row stored => .inr ⟨row, stored, rfl⟩
  stored := id
  rest := fun remaining isRest => .inl (sameJob remaining isRest)

theorem job_of_claim {job : Uuid} {skipLocked : Bool} {outcome : ClaimOutcome}
    (claims : claimRoomForArchive settings database job skipLocked = (after, outcome)) :
    (∀ row ∈ after.conversation, row.job = job ∨ database.conversation = some row) ∧
      (database.conversation.isSome → after.conversation.isSome) ∧
        ∀ claimed, outcome = .claimed claimed → claimed.job = job := by
  have claimedJob : ∀ conversation claimed,
      claimRow settings database.now job conversation = .claimed claimed → claimed.job = job := by
    intro conversation claimed isClaimed
    rw [(claimRow_claimed isClaimed).1]
  rw [claimRoomForArchive] at claims
  split at claims
  · next stored isStored =>
      split at claims
      · cases claims
        exact ⟨fun row isRow => .inr isRow, id, nofun⟩
      · split at claims
        · next claimed isClaimed =>
            cases claims
            refine ⟨?_, fun _ => rfl, ?_⟩
            · rintro row ⟨⟩
              exact .inl (claimedJob _ _ isClaimed)
            · rintro other ⟨⟩
              exact claimedJob _ _ isClaimed
        · next notClaimed =>
            cases claims
            exact ⟨fun row isRow => .inr isRow, id,
              fun claimed isClaimed => absurd isClaimed (notClaimed claimed)⟩
  · split at claims
    · next claimed isClaimed =>
        cases claims
        refine ⟨?_, fun _ => rfl, ?_⟩
        · rintro row ⟨⟩
          exact .inl (claimedJob _ _ isClaimed)
        · rintro other ⟨⟩
          exact claimedJob _ _ isClaimed
    · next notClaimed =>
        cases claims
        refine ⟨?_, fun _ => rfl, fun claimed isClaimed => absurd isClaimed (notClaimed claimed)⟩
        rintro row ⟨⟩
        exact .inl rfl

theorem job_of_raised {error : String} {remaining : Execution}
    (isRest : raised conversation error stage = some remaining) :
    remaining.job = conversation.job := by
  unfold raised at isRest
  split at isRest
  · cases isRest
  · cases isRest
  · cases isRest
    rfl

theorem keepsJob_of_advance
    (advanced : advance settings database execution choice = some (after, rest)) :
    KeepsJob database execution after rest := by
  cases execution with
  | claiming job =>
      cases choice with
      | statement skipLocked fileName batch =>
          rw [advance] at advanced
          cases claims : claimRoomForArchive settings database job skipLocked with
          | mk claimedDatabase outcome =>
              rw [claims] at advanced
              rcases job_of_claim claims with ⟨rowJob, present, claimedJob⟩
              have row : ∀ row ∈ claimedDatabase.conversation, row.job = job ∨
                  ∃ stored ∈ database.conversation, row.job = stored.job := by
                intro row isRow
                rcases rowJob row isRow with same | same
                · exact .inl same
                · exact .inr ⟨row, same, rfl⟩
              cases outcome with
              | claimed conversation =>
                  cases advanced
                  refine ⟨row, present, ?_⟩
                  rintro remaining ⟨⟩
                  exact .inl (claimedJob conversation rfl)
              | skipped | alreadyFinished =>
                  cases advanced
                  exact ⟨row, present, fun _ isRest => by cases isRest⟩
      | raise error =>
          rw [advance] at advanced
          cases advanced
          exact .unchanged fun _ isRest => by cases isRest
  | working conversation stage =>
      cases choice with
      | statement skipLocked fileName batch =>
          rw [advance] at advanced
          split at advanced
          · cases advanced
          · next stored isStored =>
              rcases job_of_statement advanced isStored with ⟨⟨row, isRow, rowJob⟩, restJob⟩
              refine ⟨fun other isOther => ?_, fun _ => by rw [isRow]; rfl, fun remaining isRest => ?_⟩
              · cases isRow.symm.trans isOther
                rcases rowJob with same | same
                · exact .inr ⟨stored, isStored, same⟩
                · exact .inl same
              · rcases restJob remaining isRest with same | same
                · exact .inr ⟨stored, isStored, same⟩
                · exact .inl same
      | raise error =>
          rw [advance] at advanced
          injection advanced with advanced
          injection advanced with sameDatabase sameRest
          subst sameDatabase
          subst sameRest
          exact .unchanged fun _ => job_of_raised

end Jobs

/-! ## What holds of the tables -/

namespace Scheduler

namespace SchedulerTables

variable (tables : SchedulerTables)

/-- The first job has not been started after the second. -/
def StartedBy (job later : Uuid) : Prop :=
  ∃ started laterStarted : Instant, tables.jobs.lookup job = some started ∧
    tables.jobs.lookup later = some laterStarted ∧ started ≤ laterStarted

def StartedADayBefore (job : Uuid) (now : Instant) : Prop :=
  ∃ started : Instant, tables.jobs.lookup job = some started ∧ started + day < now

/-- The job has not been started more than 24 hours ago. -/
def InTime (job : Uuid) : Prop :=
  ∀ started : Instant, tables.jobs.lookup job = some started → tables.now ≤ started + day

def IsRecorded (room job : Uuid) : Prop :=
  ∃ dispatch ∈ tables.recorded, dispatch.room = room ∧ dispatch.job = job

/-- The record of each room points to a job that is no older than those that it has been pointed
to by the scheduler, and these are a day apart. -/
structure Consistent : Prop where
  jobs_past : ∀ (job : Uuid) (started : Instant), tables.jobs.lookup job = some started →
    started ≤ tables.now
  recorded_past : ∀ dispatch ∈ tables.recorded, dispatch.now ≤ tables.now
  apart : tables.recorded.Pairwise fun dispatch later => dispatch.room = later.room →
    tables.StartedBy dispatch.job later.job ∧ tables.StartedADayBefore dispatch.job later.now
  pointed : ∀ dispatch ∈ tables.recorded,
    ∃ row ∈ (tables.archives dispatch.room).conversation, tables.StartedBy dispatch.job row.job
  messages_recorded : ∀ message ∈ tables.messages, tables.IsRecorded message.room message.job
  dispatched_recorded : tables.dispatched ⊆ tables.recorded
  dispatched_nodup : tables.dispatched.Nodup

/-- The scheduler has pointed records to other jobs only, and to none that has been started after
this one. -/
def Leads (job : Uuid) : Prop :=
  job ∈ tables.jobs ∧
    ∀ dispatch ∈ tables.recorded, tables.StartedBy dispatch.job job ∧ dispatch.job ≠ job

structure ChosenFor (now : Instant) (rooms : List Uuid) : Prop where
  nodup : rooms.Nodup
  past : now ≤ tables.now
  dayBefore : ∀ dispatch ∈ tables.recorded, dispatch.room ∈ rooms →
    tables.StartedADayBefore dispatch.job now
  unfinished : ∀ room ∈ rooms, ∀ row ∈ (tables.archives room).conversation,
    row.status ≠ .finished

end SchedulerTables

def SchedulerStage.ownJob : SchedulerStage → Option Uuid
  | .readingNow job | .gettingProjects job _ | .selecting job _ _ | .computingExpiration job _ _
  | .recording job _ _ _ | .dispatching job _ _ _ => some job
  | _ => none

/-- The run has created its job, and has not recorded its rooms yet. -/
def SchedulerStage.IsChoosing : SchedulerStage → Prop
  | .readingNow _ | .gettingProjects _ _ | .selecting _ _ _ | .computingExpiration _ _ _
  | .recording _ _ _ _ => True
  | _ => False

def SchedulerStage.chosen : SchedulerStage → List Uuid
  | .computingExpiration _ _ rooms | .recording _ _ rooms _ => rooms
  | _ => []

def SchedulerStage.Known (tables : SchedulerTables) : SchedulerStage → Prop
  | .readingNow job => tables.Leads job
  | .gettingProjects job now | .selecting job now _ => tables.Leads job ∧ now ≤ tables.now
  | .computingExpiration job now rooms | .recording job now rooms _ =>
      tables.Leads job ∧ tables.ChosenFor now rooms
  | .dispatching job now _ rooms =>
      job ∈ tables.jobs ∧ rooms.Nodup ∧
        ∀ room ∈ rooms, ⟨room, job, now⟩ ∈ tables.recorded ∧ ⟨room, job, now⟩ ∉ tables.dispatched
  | .gettingJob room job | .gettingRoom room job => tables.IsRecorded room job
  | .archiving room job execution =>
      tables.IsRecorded room job ∧ tables.StartedBy job execution.job
  | _ => True

section Order

variable {settings : SchedulerSettings} {tables after : SchedulerTables} {job later last : Uuid}
  {now : Instant} {stage : SchedulerStage} {rooms : List Uuid} {dispatch : Dispatch}

namespace SchedulerTables

theorem startedBy_refl (stored : job ∈ tables.jobs) : tables.StartedBy job job := by
  rcases Option.isSome_iff_exists.mp (AList.lookup_isSome.mpr stored) with ⟨started, found⟩
  exact ⟨started, started, found, found, Nat.le_refl _⟩

theorem StartedBy.mem (started : tables.StartedBy job later) : job ∈ tables.jobs := by
  rcases started with ⟨instant, _, found, _⟩
  exact AList.lookup_isSome.mp (by rw [found]; rfl)

theorem StartedBy.trans (first : tables.StartedBy job later)
    (second : tables.StartedBy later last) : tables.StartedBy job last := by
  rcases first with ⟨started, middle, found, foundMiddle, order⟩
  rcases second with ⟨again, laterStarted, foundAgain, foundLater, laterOrder⟩
  cases foundMiddle.symm.trans foundAgain
  exact ⟨started, laterStarted, found, foundLater, order.trans laterOrder⟩

theorem StartedBy.dayBefore (started : tables.StartedBy job later)
    (dayBefore : tables.StartedADayBefore later now) : tables.StartedADayBefore job now := by
  rcases started with ⟨instant, middle, found, foundMiddle, order⟩
  rcases dayBefore with ⟨again, foundAgain, early⟩
  cases foundMiddle.symm.trans foundAgain
  exact ⟨instant, found, Nat.lt_of_le_of_lt (Nat.add_le_add_right order day) early⟩

theorem Consistent.job_mem (consistent : tables.Consistent)
    (member : dispatch ∈ tables.recorded) : dispatch.job ∈ tables.jobs := by
  rcases consistent.pointed dispatch member with ⟨row, _, started⟩
  exact started.mem

/-- While a job is not more than 24 hours old, it is the last one that the record of its room has
been pointed to. -/
theorem Consistent.latest (consistent : tables.Consistent) {room : Uuid}
    (recorded : tables.IsRecorded room job) (inTime : tables.InTime job)
    (member : dispatch ∈ tables.recorded) (sameRoom : dispatch.room = room) :
    tables.StartedBy dispatch.job job := by
  rcases recorded with ⟨own, ownMember, rfl, rfl⟩
  let Related (first second : Dispatch) : Prop := first.room = second.room →
    tables.StartedBy first.job second.job ∨ tables.StartedADayBefore second.job first.now
  have related : Related dispatch own := by
    apply List.Pairwise.forall_of_forall_of_flip _ _ _ member ownMember
    · exact fun first recorded _ => .inl (startedBy_refl (consistent.job_mem recorded))
    · exact consistent.apart.imp fun apart same => .inl (apart same).1
    · exact consistent.apart.imp fun apart same => .inr (apart same.symm).2
  rcases related sameRoom with startedBy | ⟨started, found, early⟩
  · exact startedBy
  · have late := inTime started found
    have past := consistent.recorded_past dispatch member
    exact absurd (early.trans_le (past.trans late)) (Nat.lt_irrefl _)

theorem Consistent.isRecorded_mem (consistent : tables.Consistent) {room : Uuid}
    (recorded : tables.IsRecorded room job) : job ∈ tables.jobs := by
  rcases recorded with ⟨dispatch, member, rfl, rfl⟩
  exact consistent.job_mem member

theorem chosenFor_of_selection {projects : Option (List Uuid)} (consistent : tables.Consistent)
    (past : now ≤ tables.now) (selection : tables.IsSelection settings now projects rooms) :
    tables.ChosenFor now rooms := by
  have pending : ∀ room ∈ rooms, tables.IsPending now room := by
    intro room member
    have eligible := selection.eligible room member
    rw [IsEligible, Bool.and_eq_true] at eligible
    exact of_decide_eq_true eligible.2
  refine ⟨selection.nodup, past, fun dispatch recorded member => ?_, fun room member row stored => ?_⟩
  · rcases consistent.pointed dispatch recorded with ⟨row, stored, startedBy⟩
    rcases startedBy with ⟨started, rowStarted, found, rowFound, order⟩
    have early := (pending dispatch.room member row stored).2 rowStarted rowFound
    exact ⟨started, found, Nat.lt_of_le_of_lt (Nat.add_le_add_right order day) early⟩
  · exact (pending room member row stored).1

end SchedulerTables

/-! ## What a statement does -/

/-- What a statement writes, and how its process goes on. -/
inductive SchedulerEffect (settings : SchedulerSettings) (tables : SchedulerTables) :
    SchedulerStage → SchedulerTables → Option SchedulerStage → Prop
  | ends (stage : SchedulerStage) : SchedulerEffect settings tables stage tables none
  | reads (stage remaining : SchedulerStage) (known : remaining.Known tables)
      (ownJob : remaining.ownJob = stage.ownJob)
      (isChoosing : remaining.IsChoosing → stage.IsChoosing) :
      SchedulerEffect settings tables stage tables (some remaining)
  | creates (job : Uuid) (fresh : job ∉ tables.jobs) :
      SchedulerEffect settings tables .creatingJob
        { tables with jobs := tables.jobs.insert job tables.now } (some (.readingNow job))
  | records (job : Uuid) (now : Instant) (rooms : List Uuid) (expires : Instant) :
      SchedulerEffect settings tables (.recording job now rooms expires)
        (tables.createPendingRecords job now rooms)
        (some (.dispatching job now expires (dispatchOrder settings rooms)))
  | sends (job : Uuid) (now expires : Instant) (room : Uuid) (rooms : List Uuid) :
      SchedulerEffect settings tables (.dispatching job now expires (room :: rooms))
        (tables.send job now expires room) (some (.dispatching job now expires rooms))
  | receives (message : ArchiveMessage) (waiting : message ∈ tables.messages)
      (rest : Option SchedulerStage)
      (isRest : ∀ remaining ∈ rest, remaining = .gettingJob message.room message.job) :
      SchedulerEffect settings tables .receiving
        { tables with messages := tables.messages.erase message } rest
  | archives (room job : Uuid) (execution : Execution) (database : ArchiveDatabase)
      (rest : Option Execution)
      (keepsJob : KeepsJob (tables.database room) execution database rest) :
      SchedulerEffect settings tables (.archiving room job execution)
        (tables.withDatabase room database) (rest.map (.archiving room job))

variable {choice : SchedulerChoice} {rest : Option SchedulerStage}

theorem effect_of_proceed (consistent : tables.Consistent) (known : stage.Known tables)
    (proceeds : proceed settings tables stage = some (after, rest)) :
    SchedulerEffect settings tables stage after rest := by
  cases stage with
  | readingNow job =>
      cases proceeds
      split
      · exact .reads _ _ ⟨known, Nat.le_refl _⟩ rfl id
      · exact .reads _ _ ⟨known, Nat.le_refl _⟩ rfl id
  | computingExpiration job now rooms =>
      rw [proceed] at proceeds
      cases isHour : settings.maxHour with
      | none =>
          rw [isHour] at proceeds
          cases proceeds
          exact .ends _
      | some maxHour =>
          rw [isHour] at proceeds
          cases proceeds
          exact .reads _ _ known rfl id
  | recording job now rooms expires =>
      cases proceeds
      exact .records job now rooms expires
  | dispatching job now expires rooms =>
      cases rooms with
      | nil =>
          cases proceeds
          exact .ends _
      | cons room rooms =>
          cases proceeds
          exact .sends job now expires room rooms
  | gettingJob room job =>
      cases proceeds
      split
      · exact .reads _ _ known rfl id
      · exact .ends _
  | gettingRoom room job =>
      cases proceeds
      split
      · exact .reads _ _
          ⟨known, SchedulerTables.startedBy_refl (consistent.isRecorded_mem known)⟩ rfl id
      · exact .ends _
  | _ => cases proceeds

theorem effect_of_advance (consistent : tables.Consistent) (known : stage.Known tables)
    (advanced : advance settings tables stage choice = some (after, rest)) :
    SchedulerEffect settings tables stage after rest := by
  cases choice with
  | returns => exact effect_of_proceed consistent known advanced
  | raises =>
      cases stage with
      | archiving room job execution => cases advanced
      | _ =>
          cases advanced
          exact .ends _
  | creates job =>
      cases stage with
      | creatingJob =>
          simp only [advance] at advanced
          split at advanced
          · cases advanced
          · next fresh =>
              cases advanced
              exact .creates job fresh
      | _ => cases advanced
  | finds projects =>
      cases stage with
      | gettingProjects job now =>
          simp only [advance] at advanced
          cases advanced
          split
          · exact .ends _
          · exact .reads _ _ known rfl id
      | _ => cases advanced
  | selects rooms =>
      cases stage with
      | selecting job now projects =>
          simp only [advance] at advanced
          split at advanced
          · next selection =>
              cases advanced
              exact .reads _ _ ⟨known.1,
                SchedulerTables.chosenFor_of_selection consistent known.2 selection⟩ rfl id
          · cases advanced
      | _ => cases advanced
  | receives message =>
      cases stage with
      | receiving =>
          simp only [advance] at advanced
          split at advanced
          · next waiting =>
              cases advanced
              apply SchedulerEffect.receives message waiting
              intro remaining isRest
              split at isRest <;> cases isRest
              rfl
          · cases advanced
      | _ => cases advanced
  | archives choice =>
      cases stage with
      | archiving room job execution =>
          simp only [advance] at advanced
          split at advanced
          · cases advanced
          · next database rest archived =>
              cases advanced
              exact .archives room job execution database rest (keepsJob_of_advance archived)
      | _ => cases advanced

/-! ## What stays true -/

@[simp] theorem archives_withDatabase (room : Uuid) (database : ArchiveDatabase) :
    (tables.withDatabase room database).archives room = database := Function.update_self _ _ _

theorem archives_withDatabase_of_ne {room other : Uuid} {database : ArchiveDatabase}
    (different : other ≠ room) :
    (tables.withDatabase room database).archives other = tables.archives other :=
  Function.update_of_ne different _ _

/-- What a step leaves as it is, of what a process at this stage knows. -/
structure SparesKnown (stage : SchedulerStage) (tables after : SchedulerTables) : Prop where
  jobs : ∀ (job : Uuid) (started : Instant), tables.jobs.lookup job = some started →
    after.jobs.lookup job = some started
  now : tables.now ≤ after.now
  recorded : tables.recorded ⊆ after.recorded
  isChoosing : stage.IsChoosing → after.recorded ⊆ tables.recorded
  chosen : ∀ room ∈ stage.chosen,
    (after.archives room).conversation = (tables.archives room).conversation
  dispatched : ∀ dispatch ∈ after.dispatched, stage.ownJob = some dispatch.job →
    dispatch ∈ tables.dispatched

namespace SparesKnown

variable (spares : SparesKnown stage tables after)

include spares

theorem mem_jobs (stored : job ∈ tables.jobs) : job ∈ after.jobs := by
  rcases Option.isSome_iff_exists.mp (AList.lookup_isSome.mpr stored) with ⟨started, found⟩
  exact AList.lookup_isSome.mp (by rw [spares.jobs job started found]; rfl)

theorem startedBy (started : tables.StartedBy job later) : after.StartedBy job later := by
  rcases started with ⟨instant, laterStarted, found, laterFound, order⟩
  exact ⟨instant, laterStarted, spares.jobs _ _ found, spares.jobs _ _ laterFound, order⟩

theorem dayBefore (dayBefore : tables.StartedADayBefore job now) :
    after.StartedADayBefore job now := by
  rcases dayBefore with ⟨started, found, early⟩
  exact ⟨started, spares.jobs _ _ found, early⟩

theorem isRecorded {room : Uuid} (recorded : tables.IsRecorded room job) :
    after.IsRecorded room job := by
  rcases recorded with ⟨dispatch, member, same⟩
  exact ⟨dispatch, spares.recorded member, same⟩

theorem leads (isChoosing : stage.IsChoosing) (leads : tables.Leads job) : after.Leads job := by
  refine ⟨spares.mem_jobs leads.1, fun dispatch member => ?_⟩
  have old := leads.2 dispatch (spares.isChoosing isChoosing member)
  exact ⟨spares.startedBy old.1, old.2⟩

theorem chosenFor (isChoosing : stage.IsChoosing) (chosenFor : tables.ChosenFor now stage.chosen) :
    after.ChosenFor now stage.chosen where
  nodup := chosenFor.nodup
  past := chosenFor.past.trans spares.now
  dayBefore := fun dispatch member chosen =>
    spares.dayBefore (chosenFor.dayBefore dispatch (spares.isChoosing isChoosing member) chosen)
  unfinished := fun room chosen row stored => by
    rw [spares.chosen room chosen] at stored
    exact chosenFor.unfinished room chosen row stored

theorem known (known : stage.Known tables) : stage.Known after := by
  cases stage with
  | readingNow job => exact spares.leads trivial known
  | gettingProjects job now | selecting job now projects =>
      exact ⟨spares.leads trivial known.1, known.2.trans spares.now⟩
  | computingExpiration job now rooms | recording job now rooms expires =>
      exact ⟨spares.leads trivial known.1, spares.chosenFor trivial known.2⟩
  | dispatching job now expires rooms =>
      refine ⟨spares.mem_jobs known.1, known.2.1, fun room member => ?_⟩
      have old := known.2.2 room member
      exact ⟨spares.recorded old.1, fun sent => old.2 (spares.dispatched _ sent rfl)⟩
  | gettingJob room job | gettingRoom room job => exact spares.isRecorded known
  | archiving room job execution => exact ⟨spares.isRecorded known.1, spares.startedBy known.2⟩
  | creatingJob | receiving => trivial

end SparesKnown

theorem sparesKnown_refl (stage : SchedulerStage) (tables : SchedulerTables) :
    SparesKnown stage tables tables where
  jobs := fun _ _ found => found
  now := Nat.le_refl _
  recorded := fun _ member => member
  isChoosing := fun _ _ member => member
  chosen := fun _ _ => rfl
  dispatched := fun _ member _ => member

/-- What a process requires of the next statement of another one. -/
def SchedulerStage.Allows (tables : SchedulerTables) (stage other : SchedulerStage) : Prop :=
  match stage with
  | .creatingJob => ¬other.IsChoosing
  | .archiving _ job _ => tables.InTime job
  | _ => True

structure Compatible (stage other : SchedulerStage) : Prop where
  ownJob : ∀ job, stage.ownJob = some job → other.ownJob ≠ some job
  isChoosing : stage.IsChoosing → ¬other.IsChoosing

theorem lookup_insert_fresh {started : Instant} (fresh : job ∉ tables.jobs)
    (found : tables.jobs.lookup later = some started) :
    (tables.jobs.insert job tables.now).lookup later = some started := by
  rw [AList.lookup_insert_ne]
  · exact found
  · rintro rfl
    exact fresh (AList.lookup_isSome.mp (by rw [found]; rfl))

theorem sparesKnown_of_effect {other : SchedulerStage}
    (effect : SchedulerEffect settings tables stage after rest) (known : stage.Known tables)
    (otherKnown : other.Known tables) (compatible : Compatible stage other)
    (allows : stage.Allows tables other) : SparesKnown other tables after := by
  cases effect with
  | ends _ | reads _ _ _ _ _ => exact sparesKnown_refl _ _
  | creates job fresh =>
      exact { sparesKnown_refl other tables with
        jobs := fun _ _ found => lookup_insert_fresh fresh found }
  | records job now rooms expires =>
      have notChoosing : ¬other.IsChoosing := compatible.isChoosing trivial
      refine { sparesKnown_refl other tables with
        recorded := List.subset_append_left _ _
        isChoosing := fun isChoosing => absurd isChoosing notChoosing
        chosen := fun room member => ?_ }
      cases other with
      | computingExpiration _ _ _ | recording _ _ _ _ => exact absurd trivial notChoosing
      | _ => cases member
  | sends job now expires room rooms =>
      refine { sparesKnown_refl other tables with dispatched := fun dispatch member own => ?_ }
      rcases List.mem_append.mp member with old | new
      · exact old
      · rcases List.mem_singleton.mp new with rfl
        exact absurd own (compatible.ownJob job rfl)
  | receives message waiting rest isRest =>
      exact { sparesKnown_refl other tables with }
  | archives room job execution database rest keepsJob =>
      refine { sparesKnown_refl other tables with chosen := fun otherRoom member => ?_ }
      have different : otherRoom ≠ room := by
        rintro rfl
        rcases known.1 with ⟨dispatch, recorded, rfl, rfl⟩
        have chosenFor : ∃ now, tables.ChosenFor now other.chosen := by
          cases other with
          | computingExpiration _ now _ | recording _ now _ _ => exact ⟨now, otherKnown.2⟩
          | _ => cases member
        rcases chosenFor with ⟨now, chosenFor⟩
        rcases chosenFor.dayBefore dispatch recorded member with ⟨started, found, early⟩
        have late : tables.now ≤ started + day := allows started found
        exact absurd (early.trans_le (chosenFor.past.trans late)) (Nat.lt_irrefl _)
      rw [archives_withDatabase_of_ne different]

theorem known_of_effect (consistent : tables.Consistent) (known : stage.Known tables)
    (effect : SchedulerEffect settings tables stage after rest) :
    ∀ remaining ∈ rest, remaining.Known after := by
  intro remaining isRest
  cases effect with
  | ends _ => cases isRest
  | reads _ _ remainingKnown _ _ =>
      cases isRest
      exact remainingKnown
  | creates job fresh =>
      cases isRest
      refine ⟨AList.mem_insert _ |>.mpr (.inl rfl), fun dispatch member => ?_⟩
      have stored := consistent.job_mem member
      rcases Option.isSome_iff_exists.mp (AList.lookup_isSome.mpr stored) with ⟨started, found⟩
      refine ⟨⟨started, tables.now, lookup_insert_fresh fresh found, AList.lookup_insert _,
        consistent.jobs_past _ started found⟩, ?_⟩
      rintro rfl
      exact fresh stored
  | records job now rooms expires =>
      cases isRest
      have sublist := dispatchOrder_sublist settings rooms
      refine ⟨known.1.1, sublist.nodup known.2.nodup, fun room member => ⟨?_, fun sent => ?_⟩⟩
      · apply List.mem_append_right
        exact List.mem_map_of_mem (sublist.subset member)
      · exact (known.1.2 _ (consistent.dispatched_recorded sent)).2 rfl
  | sends job now expires room rooms =>
      cases isRest
      have distinct := List.nodup_cons.mp known.2.1
      refine ⟨known.1, distinct.2, fun other member => ?_⟩
      have old := known.2.2 other (List.mem_cons_of_mem room member)
      refine ⟨old.1, fun sent => ?_⟩
      rcases List.mem_append.mp sent with before | new
      · exact old.2 before
      · cases List.mem_singleton.mp new
        exact distinct.1 member
  | receives message waiting rest isGettingJob =>
      rw [isGettingJob remaining isRest]
      exact consistent.messages_recorded message waiting
  | archives room job execution database rest keepsJob =>
      rcases Option.map_eq_some_iff.mp isRest with ⟨next, isNext, rfl⟩
      refine ⟨known.1, ?_⟩
      change tables.StartedBy job next.job
      rcases keepsJob.rest next isNext with same | ⟨stored, isStored, same⟩
      · rw [same]
        exact known.2
      · rcases known.1 with ⟨dispatch, member, rfl, rfl⟩
        rcases consistent.pointed dispatch member with ⟨row, isRow, startedBy⟩
        cases Option.mem_unique isRow isStored
        rw [same]
        exact startedBy

theorem row_createPendingRecords {room : Uuid} (chosen : room ∈ rooms)
    (unfinished : ∀ row ∈ (tables.archives room).conversation, row.status ≠ .finished) :
    ∃ row ∈ ((tables.createPendingRecords job now rooms).archives room).conversation,
      row.job = job := by
  rw [SchedulerTables.createPendingRecords]
  dsimp only
  rw [if_pos chosen]
  refine ⟨_, rfl, ?_⟩
  cases isRow : (tables.archives room).conversation with
  | none => rfl
  | some row =>
      rw [createPendingRecord, if_neg (unfinished row isRow)]

theorem row_of_not_chosen {room : Uuid} (notChosen : room ∉ rooms) :
    (tables.createPendingRecords job now rooms).archives room = tables.archives room :=
  if_neg notChosen

namespace SchedulerTables.Consistent

theorem createsJob (consistent : tables.Consistent)
    (spares : SparesKnown .receiving tables
      { tables with jobs := tables.jobs.insert job tables.now }) :
    Consistent { tables with jobs := tables.jobs.insert job tables.now } :=
  { consistent with
    jobs_past := fun other started found => by
      rcases Table.lookup_insert_iff.mp found with ⟨_, rfl⟩ | ⟨_, old⟩
      · exact Nat.le_refl _
      · exact consistent.jobs_past other started old
    apart := consistent.apart.imp fun apart same =>
      ⟨spares.startedBy (apart same).1, spares.dayBefore (apart same).2⟩
    pointed := fun dispatch member => by
      rcases consistent.pointed dispatch member with ⟨row, stored, startedBy⟩
      exact ⟨row, stored, spares.startedBy startedBy⟩ }

theorem createPendingRecords (consistent : tables.Consistent) (leads : tables.Leads job)
    (chosenFor : tables.ChosenFor now rooms) :
    (tables.createPendingRecords job now rooms).Consistent where
  jobs_past := consistent.jobs_past
  recorded_past := fun dispatch member => by
    rcases List.mem_append.mp member with old | new
    · exact consistent.recorded_past dispatch old
    · rcases List.mem_map.mp new with ⟨room, _, rfl⟩
      exact chosenFor.past
  apart := by
    apply List.pairwise_append.mpr
    refine ⟨consistent.apart, ?_, fun dispatch old later new => ?_⟩
    · exact List.pairwise_map.mpr (chosenFor.nodup.imp fun different same => absurd same different)
    · rcases List.mem_map.mp new with ⟨room, chosen, rfl⟩
      intro same
      exact ⟨(leads.2 dispatch old).1, chosenFor.dayBefore dispatch old (same ▸ chosen)⟩
  pointed := fun dispatch member => by
    have chosenRow : ∀ room ∈ rooms, tables.StartedBy dispatch.job job →
        ∃ row ∈ ((tables.createPendingRecords job now rooms).archives room).conversation,
          tables.StartedBy dispatch.job row.job := by
      intro room chosen startedBy
      rcases row_createPendingRecords chosen (chosenFor.unfinished room chosen) with
        ⟨row, stored, same⟩
      exact ⟨row, stored, same ▸ startedBy⟩
    rcases List.mem_append.mp member with old | new
    · by_cases chosen : dispatch.room ∈ rooms
      · exact chosenRow dispatch.room chosen (leads.2 dispatch old).1
      · rw [row_of_not_chosen chosen]
        exact consistent.pointed dispatch old
    · rcases List.mem_map.mp new with ⟨room, chosen, rfl⟩
      exact chosenRow room chosen (startedBy_refl leads.1)
  messages_recorded := fun message member => by
    rcases consistent.messages_recorded message member with ⟨dispatch, recorded, same⟩
    exact ⟨dispatch, List.mem_append_left _ recorded, same⟩
  dispatched_recorded := fun _ member =>
    List.mem_append_left _ (consistent.dispatched_recorded member)
  dispatched_nodup := consistent.dispatched_nodup

theorem send (consistent : tables.Consistent) {expires : Instant} {room : Uuid}
    (recorded : ⟨room, job, now⟩ ∈ tables.recorded)
    (unsent : ⟨room, job, now⟩ ∉ tables.dispatched) :
    (tables.send job now expires room).Consistent :=
  { consistent with
    messages_recorded := fun message member => by
      rcases List.mem_append.mp member with old | new
      · exact consistent.messages_recorded message old
      · rcases List.mem_singleton.mp new with rfl
        exact ⟨_, recorded, rfl, rfl⟩
    dispatched_recorded := fun dispatch member => by
      rcases List.mem_append.mp member with old | new
      · exact consistent.dispatched_recorded old
      · rcases List.mem_singleton.mp new with rfl
        exact recorded
    dispatched_nodup := List.nodup_append.mpr ⟨consistent.dispatched_nodup, List.nodup_singleton _,
      fun dispatch old other new same => by
        rcases List.mem_singleton.mp new with rfl
        exact unsent (same ▸ old)⟩ }

theorem withDatabase (consistent : tables.Consistent) {room : Uuid} {execution : Execution}
    {database : ArchiveDatabase} {rest : Option Execution} (recorded : tables.IsRecorded room job)
    (inTime : tables.InTime job) (startedBy : tables.StartedBy job execution.job)
    (keepsJob : KeepsJob (tables.database room) execution database rest) :
    (tables.withDatabase room database).Consistent :=
  { consistent with
    pointed := fun dispatch member => by
      rcases consistent.pointed dispatch member with ⟨stored, isStored, before⟩
      by_cases sameRoom : dispatch.room = room
      · rw [sameRoom, archives_withDatabase]
        rw [sameRoom] at isStored
        have present : (tables.database room).conversation.isSome := by
          change (tables.archives room).conversation.isSome
          rw [Option.mem_def.mp isStored]
          rfl
        rcases Option.isSome_iff_exists.mp (keepsJob.stored present) with ⟨row, isRow⟩
        refine ⟨row, isRow, ?_⟩
        change tables.StartedBy dispatch.job row.job
        rcases keepsJob.row row isRow with same | ⟨old, isOld, same⟩
        · rw [same]
          exact (consistent.latest recorded inTime member sameRoom).trans startedBy
        · cases Option.mem_unique isStored isOld
          rw [same]
          exact before
      · refine ⟨stored, ?_, before⟩
        rw [archives_withDatabase_of_ne sameRoom]
        exact isStored }

end SchedulerTables.Consistent

theorem consistent_of_effect (consistent : tables.Consistent) (known : stage.Known tables)
    (allows : stage.Allows tables .receiving)
    (effect : SchedulerEffect settings tables stage after rest) : after.Consistent := by
  cases effect with
  | ends _ | reads _ _ _ _ _ => exact consistent
  | creates job fresh =>
      apply consistent.createsJob
      exact { sparesKnown_refl .receiving tables with
        jobs := fun _ _ found => lookup_insert_fresh fresh found }
  | records job now rooms expires => exact consistent.createPendingRecords known.1 known.2
  | sends job now expires room rooms =>
      have head := known.2.2 room List.mem_cons_self
      exact consistent.send head.1 head.2
  | receives message waiting rest isRest =>
      exact { consistent with
        messages_recorded := fun message member =>
          consistent.messages_recorded message (List.mem_of_mem_erase member) }
  | archives room job execution database rest keepsJob =>
      exact consistent.withDatabase known.1 allows known.2 keepsJob

theorem SchedulerStage.Known.job_mem (known : stage.Known tables)
    (own : stage.ownJob = some job) : job ∈ tables.jobs := by
  cases stage with
  | readingNow _ =>
      cases own
      exact known.1
  | gettingProjects _ _ | selecting _ _ _ | computingExpiration _ _ _ | recording _ _ _ _ =>
      cases own
      exact known.1.1
  | dispatching _ _ _ _ =>
      cases own
      exact known.1
  | _ => cases own

theorem compatible_of_effect {other remaining : SchedulerStage} (otherKnown : other.Known tables)
    (compatible : Compatible stage other) (allows : stage.Allows tables other)
    (effect : SchedulerEffect settings tables stage after rest) (isRest : remaining ∈ rest) :
    Compatible remaining other := by
  cases effect with
  | ends _ => cases isRest
  | reads _ _ _ ownJob isChoosing =>
      cases isRest
      exact ⟨fun job own => compatible.ownJob job (ownJob ▸ own),
        fun choosing => compatible.isChoosing (isChoosing choosing)⟩
  | creates job fresh =>
      cases isRest
      refine ⟨fun other own otherOwn => ?_, fun _ => allows⟩
      cases own
      exact fresh (otherKnown.job_mem otherOwn)
  | records job now rooms expires | sends job now expires room rooms =>
      cases isRest
      exact ⟨compatible.ownJob, fun choosing => by cases choosing⟩
  | receives message waiting rest isGettingJob =>
      rw [isGettingJob remaining isRest]
      exact ⟨fun _ own => (by cases own), fun choosing => by cases choosing⟩
  | archives room job execution database rest keepsJob =>
      rcases Option.map_eq_some_iff.mp isRest with ⟨next, _, rfl⟩
      exact ⟨fun _ own => (by cases own), fun choosing => by cases choosing⟩

end Order

/-! ## Runs -/

section Runs

variable {Pid : Type}

/-- A run of the scheduler creates its job while no other one chooses rooms, and a worker archives
a room within 24 hours of the start of its job. -/
def Orderly (pool : SchedulerPool Pid) : SchedulerEvent Pid → Prop
  | .advance _ (.creates _) =>
      ∀ other stage, pool.process other = some stage → ¬stage.IsChoosing
  | .advance pid (.archives _) =>
      ∀ room job execution, pool.process pid = some (.archiving room job execution) →
        pool.shared.InTime job
  | _ => True

section Steps

variable {settings : SchedulerSettings} {pool : SchedulerPool Pid} {after : SchedulerTables}
  {pid other : Pid} {stage otherStage : SchedulerStage} {choice : SchedulerChoice}
  {rest : Option SchedulerStage}

theorem unchanged_of_raises
    (advanced : advance settings pool.shared stage .raises = some (after, rest)) :
    after = pool.shared ∧ rest = none := by
  cases stage with
  | archiving _ _ _ => cases advanced
  | _ =>
      cases advanced
      exact ⟨rfl, rfl⟩

theorem allows_of_orderly (orderly : Orderly pool (.advance pid choice))
    (running : pool.process pid = some stage)
    (advanced : advance settings pool.shared stage choice = some (after, rest))
    (goesOn : choice ≠ .raises)
    (spared : ∀ job, choice = .creates job → ¬otherStage.IsChoosing) :
    stage.Allows pool.shared otherStage := by
  cases stage with
  | creatingJob =>
      cases choice with
      | creates job => exact spared job rfl
      | raises => exact absurd rfl goesOn
      | _ => cases advanced
  | archiving room job execution =>
      cases choice with
      | archives choice => exact orderly room job execution running
      | _ => cases advanced
  | _ => trivial

end Steps

def schedulerOutline (settings : SchedulerSettings) (Pid : Type) :
    PairOutline (schedulerProgram settings)
      (Orderly : SchedulerPool Pid → SchedulerEvent Pid → Prop) where
  Invariant := SchedulerTables.Consistent
  Assertion := fun tables stage => stage.Known tables
  Compatible := Compatible
  symmetric := fun compatible =>
    ⟨fun job own otherOwn => compatible.ownJob job otherOwn own,
      fun choosing otherChoosing => compatible.isChoosing otherChoosing choosing⟩
  enter := by
    intro tables task _
    cases task <;> trivial
  enterCompatible := by
    intro task stage
    cases task
    · exact ⟨fun _ own => (by cases own), fun choosing => by cases choosing⟩
    · exact ⟨fun _ own => (by cases own), fun choosing => by cases choosing⟩
  advance := by
    intro pool pid choice stage after rest orderly running consistent known advanced
    by_cases raises : choice = .raises
    · subst raises
      rcases @unchanged_of_raises Pid settings _ _ _ _ advanced with ⟨rfl, rfl⟩
      exact ⟨consistent, fun _ isRest => by cases isRest⟩
    · have allows : stage.Allows pool.shared .receiving :=
        allows_of_orderly orderly running advanced raises fun _ _ choosing => by cases choosing
      have effect := effect_of_advance consistent known advanced
      exact ⟨consistent_of_effect consistent known allows effect,
        known_of_effect consistent known effect⟩
  advanceOther := by
    intro pool pid choice stage after rest orderly running consistent known advanced other
      otherStage different otherRunning otherKnown compatible
    by_cases raises : choice = .raises
    · subst raises
      rcases @unchanged_of_raises Pid settings _ _ _ _ advanced with ⟨rfl, rfl⟩
      exact ⟨otherKnown, fun _ isRest => by cases isRest⟩
    · have allows : stage.Allows pool.shared otherStage := by
        apply allows_of_orderly orderly running advanced raises
        rintro job rfl
        exact orderly other otherStage otherRunning
      have effect := effect_of_advance consistent known advanced
      exact ⟨(sparesKnown_of_effect effect known otherKnown compatible allows).known otherKnown,
        fun remaining isRest => compatible_of_effect otherKnown compatible allows effect isRest⟩
  surround := by
    intro pool event after _ consistent surrounded
    cases event with
    | tick elapsed =>
        cases surrounded
        refine ⟨{ consistent with
          jobs_past := fun job started found =>
            (consistent.jobs_past job started found).trans (Nat.le_add_right _ _)
          recorded_past := fun dispatch member =>
            (consistent.recorded_past dispatch member).trans (Nat.le_add_right _ _) },
          fun pid stage _ known => ?_⟩
        have spares : SparesKnown stage pool.shared
            { pool.shared with now := pool.shared.now + elapsed } :=
          { sparesKnown_refl stage pool.shared with now := Nat.le_add_right _ _ }
        exact spares.known known
    | changeRoom room row =>
        cases surrounded
        refine ⟨{ consistent with }, fun pid stage _ known => ?_⟩
        have spares : SparesKnown stage pool.shared
            { pool.shared with rooms := pool.shared.rooms.insert room row } :=
          { sparesKnown_refl stage pool.shared with }
        exact spares.known known

def SchedulerTables.initial (now : Instant) (rooms : Table Uuid ArchivableRoom)
    (archives : Uuid → ArchiveDatabase) : SchedulerTables where
  now := now
  jobs := ∅
  rooms := rooms
  archives := archives
  messages := []
  recorded := []
  dispatched := []

theorem consistent_initial (now : Instant) (rooms : Table Uuid ArchivableRoom)
    (archives : Uuid → ArchiveDatabase) :
    (SchedulerTables.initial now rooms archives).Consistent where
  jobs_past := fun _ _ found => by cases found
  recorded_past := fun _ member => by cases member
  apart := .nil
  pointed := fun _ member => by cases member
  messages_recorded := fun _ member => by cases member
  dispatched_recorded := fun _ member => by cases member
  dispatched_nodup := .nil

/-- No room is dispatched twice within 24 hours: of any two messages for a room, the job of one
has been started more than 24 hours before the run that sent the other looked for rooms. -/
theorem rooms_dispatched_a_day_apart [DecidableEq Pid] {settings : SchedulerSettings}
    {now : Instant} {rooms : Table Uuid ArchivableRoom} {archives : Uuid → ArchiveDatabase}
    {pool : SchedulerPool Pid}
    (reaches : (schedulerProgram settings).machine.Reaches Orderly
      (Pool.idle (.initial now rooms archives)) pool) :
    pool.shared.dispatched.Pairwise fun dispatch other => dispatch.room = other.room →
      pool.shared.StartedADayBefore dispatch.job other.now ∨
        pool.shared.StartedADayBefore other.job dispatch.now := by
  have holds : (schedulerOutline settings Pid).Holds pool :=
    (schedulerOutline settings Pid).holds_of_reaches reaches
      ((schedulerOutline settings Pid).holds_of_isIdle (consistent_initial now rooms archives)
        (Pool.idle_isIdle _))
  have consistent : pool.shared.Consistent := holds.shared
  let Apart (dispatch other : Dispatch) : Prop := dispatch ≠ other → dispatch.room = other.room →
    pool.shared.StartedADayBefore dispatch.job other.now ∨
      pool.shared.StartedADayBefore other.job dispatch.now
  have apart : ∀ dispatch ∈ pool.shared.recorded, ∀ other ∈ pool.shared.recorded,
      Apart dispatch other := by
    intro dispatch member other otherMember
    apply List.Pairwise.forall_of_forall_of_flip _ _ _ member otherMember
    · exact fun _ _ different => absurd rfl different
    · exact consistent.apart.imp fun apart _ same => .inl (apart same).2
    · exact consistent.apart.imp fun apart _ same => .inr (apart same.symm).2
  apply consistent.dispatched_nodup.imp_of_mem
  intro dispatch other member otherMember different
  exact apart dispatch (consistent.dispatched_recorded member) other
    (consistent.dispatched_recorded otherMember) different

end Runs

/-! A room that cannot be archived is dispatched again, more than a day later. -/

section Witness

instance : DecidablePred SchedulerStage.IsChoosing
  | .readingNow _ | .gettingProjects _ _ | .selecting _ _ _ | .computingExpiration _ _ _
  | .recording _ _ _ _ => inferInstanceAs (Decidable True)
  | .creatingJob | .dispatching _ _ _ _ | .receiving | .gettingJob _ _ | .gettingRoom _ _
  | .archiving _ _ _ => inferInstanceAs (Decidable False)

instance (tables : SchedulerTables) (job : Uuid) : Decidable (tables.InTime job) :=
  match found : tables.jobs.lookup job with
  | none => .isTrue (by simp [SchedulerTables.InTime, found])
  | some started =>
      decidable_of_iff (tables.now ≤ started + day) (by simp [SchedulerTables.InTime, found])

instance {Pid : Type} [Fintype Pid] (pool : SchedulerPool Pid) :
    (event : SchedulerEvent Pid) → Decidable (Orderly pool event)
  | .advance _ (.creates _) =>
      inferInstanceAs (Decidable (∀ other, ∀ stage ∈ pool.process other, ¬stage.IsChoosing))
  | .advance pid (.archives _) =>
      match running : pool.process pid with
      | some (.archiving _ job _) =>
          decidable_of_iff (pool.shared.InTime job) (by simp [Orderly, running])
      | some .creatingJob | some (.readingNow _) | some (.gettingProjects _ _)
      | some (.selecting _ _ _) | some (.computingExpiration _ _ _) | some (.recording _ _ _ _)
      | some (.dispatching _ _ _ _) | some .receiving | some (.gettingJob _ _)
      | some (.gettingRoom _ _) | none => .isTrue (by simp [Orderly, running])
  | .advance _ .returns | .advance _ .raises | .advance _ (.finds _) | .advance _ (.selects _)
  | .advance _ (.receives _) | .start _ _ | .kill _ | .surround _ =>
      inferInstanceAs (Decidable True)

def nightly : SchedulerSettings where
  archive := defaultSettings
  isActiveForAllProjects := true
  maxRooms := 5000
  maxHour := some (8 * 60 + 59)
  useBatchDispatch := false
  batchSize := 500
  yearBefore := fun now => now - 365 * day

def closedRoom : Table Uuid ArchivableRoom :=
  AList.singleton 1 { isActive := false, endedAt := some day, project := 1 }

def emptyArchive : ArchiveDatabase where
  now := 0
  conversation := none
  messages := []
  stored := fun _ => none

def failingNight (job : Uuid) (now : Instant) : List (SchedulerEvent Unit) :=
  let expires := now - now % day + (8 * 60 + 59) * (60 * 1000000)
  [.start () .schedule, .advance () (.creates job), .advance () .returns,
    .advance () (.selects [1])] ++ List.replicate 4 (.advance () .returns) ++
  [.start () .work, .advance () (.receives ⟨1, job, expires⟩), .advance () .returns,
    .advance () .returns, .advance () (.archives (.statement false "" [])),
    .advance () (.archives (.raise "timeout")), .advance () (.archives (.statement false "" [])),
    .advance () (.archives (.statement false "" []))]

theorem failing_room_is_dispatched_again :
    ∃ pool : SchedulerPool Unit,
      pool.shared.dispatched = [⟨1, 100, 400 * day⟩, ⟨1, 101, 401 * day + 3600 * 1000000⟩] ∧
      pool.shared.dispatched.Pairwise fun dispatch other => dispatch.room = other.room →
        pool.shared.StartedADayBefore dispatch.job other.now ∨
          pool.shared.StartedADayBefore other.job dispatch.now := by
  have ends : ((schedulerProgram nightly).machine.runMeeting Orderly
      (Pool.idle (.initial (400 * day) closedRoom fun _ => emptyArchive))
      (failingNight 100 (400 * day) ++ [.surround (.tick (day + 3600 * 1000000))] ++
        failingNight 101 (401 * day + 3600 * 1000000))).map
        (fun pool : SchedulerPool Unit => pool.shared.dispatched) =
      some [⟨1, 100, 400 * day⟩, ⟨1, 101, 401 * day + 3600 * 1000000⟩] := by
    decide +kernel
  rcases Option.map_eq_some_iff.mp ends with ⟨pool, ran, dispatched⟩
  exact ⟨pool, dispatched, rooms_dispatched_a_day_apart (.of_runMeeting ran)⟩

end Witness

end Scheduler

end ChatsEngine.Archive
