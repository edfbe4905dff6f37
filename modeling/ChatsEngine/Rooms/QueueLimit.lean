import ChatsEngine.Rooms.ExternalCreation

/-! # The limit of a queue

A room that waits in a queue is created by the one request that holds the lock of the
queue, after it has counted the rooms that wait. Until this request commits, the others
only take rooms out of the queue. -/

namespace ChatsEngine.Rooms

variable {settings : ExternalSettings} {queue : Uuid}

/-! ## What a write does to the rooms that wait -/

def CreationWrite.Queues (queue : Uuid) : CreationWrite → Prop
  | .storeRoom _ row => IsQueued queue row
  | _ => False

theorem isQueued_update (update : TicketUpdate) (row : RoomRecord) :
    IsQueued queue (row.assign update.assignments) ↔ IsQueued queue row := by
  rw [IsQueued, IsQueued, update.assign_spare, update.assign_spare, update.assign_spare,
    update.assign_spare] <;> decide

namespace CreationStore

variable {store later : CreationStore} {write : CreationWrite} {writes : List CreationWrite}

theorem write_within (spares : ¬write.Queues queue) :
    (store.write write).rooms.Within store.rooms (IsQueued queue) := by
  cases write with
  | storeRoom room row => exact Table.Within.insert_of_not spares
  | updateTicket room update =>
      exact Table.Within.modify fun row => (isQueued_update update row).mp
  | _ => exact Table.Within.refl _ _

theorem write_within_write (within : later.rooms.Within store.rooms (IsQueued queue)) :
    (later.write write).rooms.Within (store.write write).rooms (IsQueued queue) := by
  cases write with
  | storeRoom room row => exact within.insert room row
  | updateTicket room update => exact within.modify_both (isQueued_update update) room
  | _ => exact within

theorem writeAll_within (spare : ∀ write ∈ writes, ¬write.Queues queue) :
    ((creationProgram settings).writeAll store writes).rooms.Within store.rooms
      (IsQueued queue) := by
  induction writes generalizing store with
  | nil => exact Table.Within.refl _ _
  | cons write writes induction =>
      have first : (store.write write).rooms.Within store.rooms (IsQueued queue) :=
        write_within (spare write List.mem_cons_self)
      have rest : ((creationProgram settings).writeAll (store.write write) writes).rooms.Within
          (store.write write).rooms (IsQueued queue) :=
        induction fun other member => spare other (List.mem_cons_of_mem _ member)
      exact rest.trans first

theorem writeAll_within_writeAll (within : later.rooms.Within store.rooms (IsQueued queue)) :
    ((creationProgram settings).writeAll later writes).rooms.Within
      ((creationProgram settings).writeAll store writes).rooms (IsQueued queue) := by
  induction writes generalizing store later with
  | nil => exact within
  | cons write writes induction => exact induction (write_within_write within)

theorem surround_within (store : CreationStore) (event : CreationAmbient) :
    (store.surround event).rooms.Within store.rooms (IsQueued queue) := by
  cases event with
  | tick elapsed => exact Table.Within.refl _ _
  | assign room user =>
      apply Table.Within.modify
      intro row queued
      have assigned : savedRow store.now [⟨.user, some user⟩] row .user = some user :=
        savedRow_spare (by decide)
      rw [queued.2.2.1] at assigned
      cases assigned
  | close room endedBy closedBy =>
      apply Table.Within.modify
      intro row queued
      have closed := savedRow_closing store.now endedBy closedBy row
      rw [queued.2.1] at closed
      cases closed

end CreationStore

/-! ## The requests -/

/-- The creations that leave a room in the queue without an agent go through the check
of its limit, and an existing room is not put back into it. -/
def ThroughCheck (queue : Uuid) (_ : CreationStore)
    (session : Session CreationWrite CreationLocal) (_ : CreationChoice) : Prop :=
  match session.locals.stage with
  | .creatingRoom user isChecked =>
      isChecked = true ∨ user.isSome = true ∨ session.locals.request.queue ≠ queue
  | .processingHistory _ _ isCreated =>
      isCreated = true ∨ session.locals.request.incoming = false
  | _ => True

instance (queue : Uuid) (store : CreationStore)
    (session : Session CreationWrite CreationLocal) (choice : CreationChoice) :
    Decidable (ThroughCheck queue store session choice) := by
  rcases session with ⟨⟨request, stage⟩, pending⟩
  cases stage <;> dsimp only [ThroughCheck] <;> infer_instance

/-- The row of a room that does not wait in the queue, even without its agent's answer. -/
def Elsewhere (queue : Uuid) (row : RoomRecord) : Prop :=
  row .queue ≠ some queue ∨ row .user ≠ none

theorem Elsewhere.not_isQueued {row : RoomRecord} (elsewhere : Elsewhere queue row) :
    ¬IsQueued queue row := by
  intro queued
  rcases elsewhere with otherQueue | attended
  · exact otherQueue queued.1
  · exact attended queued.2.2.1

theorem Elsewhere.answered {row : RoomRecord} (elsewhere : Elsewhere queue row) (now : Instant) :
    Elsewhere queue (savedRow now [⟨.isWaiting, false⟩] row) := by
  rw [Elsewhere, savedRow_spare (by decide), savedRow_spare (by decide)]
  exact elsewhere

theorem not_isQueued_closing (now : Instant) (endedBy : String) (closedBy : Option UserEmail)
    (row : RoomRecord) :
    ¬IsQueued queue (savedRow now (RoomInstance.closing now endedBy closedBy) row) := by
  intro queued
  have closed := savedRow_closing now endedBy closedBy row
  rw [queued.2.1] at closed
  cases closed

theorem newRow_spare (request : RoomRequest) (now : Instant) (project : Uuid)
    (user : Option UserEmail) {column : RoomColumn}
    (spared : column ∉ RoomInstance.stampedColumns) :
    request.newRow now project user column =
      (RoomRecord.defaults now).assign (request.assignments project user) column :=
  RoomInstance.saveAssignments_spare spared now none _

theorem elsewhere_newRow {request : RoomRequest} {user : Option UserEmail}
    (elsewhere : user ≠ none ∨ request.queue ≠ queue) (now : Instant) (project : Uuid) :
    Elsewhere queue (request.newRow now project user) := by
  rw [Elsewhere, newRow_spare _ _ _ _ (by decide), newRow_spare _ _ _ _ (by decide)]
  rcases elsewhere with attended | otherQueue
  · exact .inr attended
  · exact .inl fun same => otherQueue (Option.some.inj same)

/-- What holds at the stages of a request that does not put a room into the queue. -/
def CreationStage.Harmless (queue : Uuid) (limit : Nat) (owns : CreationLock → Prop)
    (request : RoomRequest) : CreationStage → Prop
  | .saving room save => ¬(save.write room).Queues queue
  | .storing room save => ¬(save.write room).Queues queue
  | .countingQueuedRooms own => request.queue = queue → owns (.queue queue) ∧ own = limit
  | .creatingRoom user isChecked => isChecked = false ∨ user ≠ none ∨ request.queue ≠ queue
  | .creatingMetrics _ row => Elsewhere queue row
  | .processingHistory _ row isCreated => isCreated = true → Elsewhere queue row
  | _ => True

/-- What holds at the stages of a request that has found a place in the queue, with the
store as the request sees it. -/
def CreationStage.Admitted (queue : Uuid) (limit : Nat) (view : CreationStore) :
    CreationStage → Prop
  | .creatingRoom _ _ => view.rooms.count (IsQueued queue) < limit
  | .creatingMetrics room _ => Table.count (view.rooms.erase room) (IsQueued queue) < limit
  | .processingHistory room _ _ => Table.count (view.rooms.erase room) (IsQueued queue) < limit
  | .saving room (.history _ _) => Table.count (view.rooms.erase room) (IsQueued queue) < limit
  | .storing room (.history _ _) => Table.count (view.rooms.erase room) (IsQueued queue) < limit
  | .finishing room _ => Table.count (view.rooms.erase room) (IsQueued queue) < limit
  | _ => False

theorem CreationStage.Admitted.within {limit : Nat} {view later : CreationStore}
    {stage : CreationStage} (admitted : stage.Admitted queue limit view)
    (within : later.rooms.Within view.rooms (IsQueued queue)) :
    stage.Admitted queue limit later := by
  cases stage with
  | creatingRoom user isChecked => exact Nat.lt_of_le_of_lt within.count_le admitted
  | creatingMetrics room row => exact Nat.lt_of_le_of_lt (within.erase room).count_le admitted
  | processingHistory room row isCreated =>
      exact Nat.lt_of_le_of_lt (within.erase room).count_le admitted
  | saving room save =>
      cases save with
      | history row isCreated => exact Nat.lt_of_le_of_lt (within.erase room).count_le admitted
      | _ => cases admitted
  | storing room save =>
      cases save with
      | history row isCreated => exact Nat.lt_of_le_of_lt (within.erase room).count_le admitted
      | _ => cases admitted
  | finishing room isCreated => exact Nat.lt_of_le_of_lt (within.erase room).count_le admitted
  | _ => cases admitted

def ExternalSettings.Limits (settings : ExternalSettings) (queue : Uuid) (limit : Nat) : Prop :=
  (settings.queues queue).isQueueLimitActive = true ∧
    (settings.queues queue).queueLimit.getD 0 = limit

section Statements

variable {limit : Nat} {owns : CreationLock → Prop} {request : RoomRequest}
  {view : CreationStore} {stage : CreationStage} {statement : CreationStatement}
  {locals : CreationLocal}

def GoesOnHarmless (queue : Uuid) (limit : Nat) (owns : CreationLock → Prop)
    (statement : CreationStatement) : Prop :=
  (∀ write ∈ statement.writes, ¬write.Queues queue) ∧
    ∀ locals, statement.next = .proceed locals →
      locals.stage.Harmless queue limit (fun lock => owns lock ∨ lock ∈ statement.locks)
        locals.request

theorem goesOnHarmless_proceed
    (harmless : stage.Harmless queue limit (fun lock => owns lock ∨ lock ∈ []) request) :
    GoesOnHarmless queue limit owns (request.proceed stage) := by
  refine ⟨by simp [RoomRequest.proceed], ?_⟩
  intro locals isNext
  cases isNext
  exact harmless

theorem goesOnHarmless_write {write : CreationWrite} (spares : ¬write.Queues queue)
    (harmless : stage.Harmless queue limit (fun lock => owns lock ∨ lock ∈ []) request) :
    GoesOnHarmless queue limit owns (request.write write stage) := by
  refine ⟨by simpa [RoomRequest.write] using spares, ?_⟩
  intro locals isNext
  cases isNext
  exact harmless

theorem goesOnHarmless_rollback : GoesOnHarmless queue limit owns rollbackRequest :=
  ⟨by simp [rollbackRequest], fun _ isNext => by cases isNext⟩

theorem harmless_save_next (room : Uuid) (save : RoomSave) :
    (save.next room).Harmless queue limit owns request := by
  cases save <;> simp [RoomSave.next, CreationStage.Harmless]

theorem proceed_limit (limits : settings.Limits queue limit)
    (harmless : stage.Harmless queue limit owns request)
    (advanced : view.proceed settings request stage = some statement) :
    GoesOnHarmless queue limit owns statement ∨
      statement = request.proceed (.creatingRoom none true) ∧ request.queue = queue ∧
        owns (.queue queue) ∧ queuedRoomsCount view queue < limit := by
  cases proceeds_of_proceed advanced with
  | rollback => exact .inl goesOnHarmless_rollback
  | updateContact =>
      refine .inl ⟨by simp [CreationWrite.Queues], ?_⟩
      intro locals isNext
      cases isNext
      trivial
  | leaveRoom => exact .inl (goesOnHarmless_write id nofun)
  | updateRoom => exact .inl (goesOnHarmless_write id id)
  | deleteNext => exact .inl (goesOnHarmless_write id trivial)
  | closeRoom => exact .inl (goesOnHarmless_proceed (not_isQueued_closing _ _ _ _))
  | guard => exact .inl (goesOnHarmless_proceed harmless)
  | store => exact .inl (goesOnHarmless_write harmless (harmless_save_next _ _))
  | takeActiveRoom _ => exact .inl (goesOnHarmless_proceed id)
  | skipQueue => exact .inl (goesOnHarmless_proceed (.inl rfl))
  | lockLimited limited =>
      refine .inl ⟨by simp [RoomRequest.lock], ?_⟩
      intro locals isNext
      cases isNext
      intro same
      subst same
      exact ⟨.inr List.mem_cons_self, limits.2⟩
  | lockUnlimited unlimited =>
      refine .inl ⟨by simp [RoomRequest.lock], ?_⟩
      intro locals isNext
      cases isNext
      refine .inr (.inr fun same => ?_)
      subst same
      exact unlimited limits.1
  | findPlace place =>
      by_cases same : request.queue = queue
      · rcases harmless same with ⟨locked, rfl⟩
        subst same
        exact .inr ⟨rfl, rfl, locked, place⟩
      · exact .inl (goesOnHarmless_proceed (.inr (.inr same)))
  | createMetrics => exact .inl (goesOnHarmless_proceed fun _ => harmless)
  | finish =>
      refine .inl ⟨by simp [CreationWrite.Queues], ?_⟩
      intro locals isNext
      cases isNext
  | _ => exact .inl (goesOnHarmless_proceed trivial)

theorem advance_limit (limits : settings.Limits queue limit) {pending : List CreationWrite}
    {choice : CreationChoice} (harmless : stage.Harmless queue limit owns request)
    (allowed : ThroughCheck queue view ⟨⟨request, stage⟩, pending⟩ choice)
    (advanced : view.advance settings request stage choice = some statement) :
    GoesOnHarmless queue limit owns statement ∨
      statement = request.proceed (.creatingRoom none true) ∧ request.queue = queue ∧
        owns (.queue queue) ∧ queuedRoomsCount view queue < limit := by
  cases advances_of_advance advanced with
  | proceeding proceeded => exact proceed_limit limits harmless proceeded
  | raising => exact .inl goesOnHarmless_rollback
  | resolving last user => exact .inl (goesOnHarmless_proceed trivial)
  | conflicting user isChecked room => exact .inl goesOnHarmless_rollback
  | creating user isChecked room isNew =>
      subst isNew
      have elsewhere : user ≠ none ∨ request.queue ≠ queue := by
        rcases harmless with unchecked | elsewhere
        · rcases allowed with checked | attended | otherQueue
          · exact absurd (unchecked.symm.trans checked) (by decide)
          · exact .inl (Option.isSome_iff_ne_none.mp attended)
          · exact .inr otherQueue
        · exact elsewhere
      have spared := elsewhere_newRow elsewhere view.now (settings.projectOf request)
      exact .inl (goesOnHarmless_write spared.not_isQueued spared)
  | processing room row isCreated isValid =>
      left
      apply goesOnHarmless_proceed
      split
      · next saves =>
          rcases allowed with created | noMessage
          · exact ((harmless created).answered view.now).not_isQueued
          · exact absurd (saves.1.symm.trans noMessage) (by decide)
      · trivial

theorem erase_storeRoom (room : Uuid) (row : RoomRecord) :
    Table.count ((view.write (.storeRoom room row)).rooms.erase room) (IsQueued queue) ≤
      Table.count (view.rooms.erase room) (IsQueued queue) := by
  apply Table.Within.count_le
  intro own found stored queued
  by_cases same : own = room
  · subst same
    rw [AList.lookup_erase] at stored
    cases stored
  · rw [AList.lookup_erase_ne same] at stored
    rw [AList.lookup_erase_ne same]
    rcases Table.lookup_insert_iff.mp stored with ⟨isSame, _⟩ | ⟨_, before⟩
    · exact absurd isSame same
    · exact ⟨found, before, queued⟩

theorem advance_admitted {choice : CreationChoice} (admitted : stage.Admitted queue limit view)
    (advanced : view.advance settings request stage choice = some statement)
    (isNext : statement.next = .proceed locals) :
    locals.stage.Admitted queue limit
      ((creationProgram settings).writeAll view statement.writes) := by
  cases advances_of_advance advanced with
  | raising => cases isNext
  | resolving last user => cases admitted
  | conflicting user isChecked room => cases isNext
  | creating user isChecked room isNew =>
      cases isNext
      apply Nat.lt_of_le_of_lt (erase_storeRoom room _)
      apply Nat.lt_of_le_of_lt _ admitted
      rw [Table.count_erase view.rooms (IsQueued queue) room]
      exact Nat.le_add_right _ _
  | processing room row isCreated isValid =>
      cases isNext
      dsimp only
      split
      · exact admitted
      · exact admitted
  | proceeding proceeded =>
      cases stage with
      | creatingRoom user isChecked => cases proceeded
      | processingHistory room row isCreated => cases proceeded
      | creatingMetrics room row =>
          cases proceeded
          cases isNext
          exact admitted
      | saving room save =>
          cases save with
          | history row isCreated =>
              rcases Option.map_eq_some_iff.mp proceeded with ⟨found, _, rfl⟩
              by_cases isActive : found .isActive = true
              · rw [if_pos isActive] at isNext ⊢
                cases isNext
                exact admitted
              · rw [if_neg isActive] at isNext
                cases isNext
          | _ => cases admitted
      | storing room save =>
          cases save with
          | history row isCreated =>
              cases proceeded
              cases isNext
              exact Nat.lt_of_le_of_lt (erase_storeRoom room row) admitted
          | _ => cases admitted
      | finishing room isCreated =>
          cases proceeded
          cases isNext
      | _ => cases admitted

end Statements

/-! ## The limit holds -/

/-- A request either puts no room into the queue, or it holds the lock of the queue and
has found a place there. -/
inductive LimitAssertion (settings : ExternalSettings) (queue : Uuid) (limit : Nat)
    (owns : CreationLock → Prop) (store : CreationStore)
    (session : Session CreationWrite CreationLocal) : Prop
  | harmless : (∀ write ∈ session.pending, ¬write.Queues queue) →
      session.locals.stage.Harmless queue limit owns session.locals.request →
      LimitAssertion settings queue limit owns store session
  | admitted : owns (.queue queue) →
      session.locals.stage.Admitted queue limit
        ((creationProgram settings).writeAll store session.pending) →
      LimitAssertion settings queue limit owns store session

namespace LimitAssertion

variable {limit : Nat} {owns : CreationLock → Prop} {store later : CreationStore}
  {session : Session CreationWrite CreationLocal} {choice : CreationChoice}
  {statement : CreationStatement}

theorem within (assertion : LimitAssertion settings queue limit owns store session)
    (within : later.rooms.Within store.rooms (IsQueued queue)) :
    LimitAssertion settings queue limit owns later session := by
  cases assertion with
  | harmless spare harmless => exact .harmless spare harmless
  | admitted locked admitted =>
      exact .admitted locked (admitted.within (CreationStore.writeAll_within_writeAll within))

theorem proceed (limits : settings.Limits queue limit)
    (assertion : LimitAssertion settings queue limit owns store session)
    (allowed : ThroughCheck queue ((creationProgram settings).writeAll store session.pending)
      session choice)
    (advanced : ((creationProgram settings).writeAll store session.pending).advance settings
      session.locals.request session.locals.stage choice = some statement)
    {locals : CreationLocal} (isNext : statement.next = .proceed locals) :
    LimitAssertion settings queue limit (fun lock => owns lock ∨ lock ∈ statement.locks) store
      { locals, pending := session.pending ++ statement.writes } := by
  cases assertion with
  | harmless spare harmless =>
      rcases advance_limit limits harmless allowed advanced with
        ⟨spares, goesOn⟩ | ⟨rfl, _, locked, room⟩
      · refine .harmless ?_ (goesOn locals isNext)
        intro write member
        rcases List.mem_append.mp member with before | here
        · exact spare write before
        · exact spares write here
      · cases isNext
        refine .admitted (.inl locked) ?_
        rw [RoomRequest.proceed, List.append_nil]
        exact room
  | admitted locked admitted =>
      refine .admitted (.inl locked) ?_
      rw [SessionProgram.writeAll_append]
      exact advance_admitted admitted advanced isNext

theorem rooms_of_commit {view : CreationStore} {request : RoomRequest} {stage : CreationStage}
    (advanced : view.advance settings request stage choice = some statement)
    {rest : Option CreationLocal} (isNext : statement.next = .commit rest) :
    (∃ room isCreated, stage = .finishing room isCreated) ∧ rest = none ∧
      ((creationProgram settings).writeAll view statement.writes).rooms = view.rooms := by
  cases advance_continues advanced with
  | proceed => cases isNext
  | rollback => cases isNext
  | commit room isCreated isFinishing =>
      cases isNext
      exact ⟨⟨room, isCreated, isFinishing⟩, rfl, rfl⟩

theorem commit
    (assertion : LimitAssertion settings queue limit owns store session)
    (within : queuedRoomsCount store queue ≤ limit)
    (advanced : ((creationProgram settings).writeAll store session.pending).advance settings
      session.locals.request session.locals.stage choice = some statement)
    {rest : Option CreationLocal} (isNext : statement.next = .commit rest) :
    queuedRoomsCount ((creationProgram settings).writeAll store
      (session.pending ++ statement.writes)) queue ≤ limit := by
  rcases rooms_of_commit advanced isNext with ⟨⟨room, isCreated, isFinishing⟩, _, same⟩
  rw [SessionProgram.writeAll_append, queuedRoomsCount, same]
  cases assertion with
  | harmless spare _ =>
      exact Nat.le_trans (CreationStore.writeAll_within spare).count_le within
  | admitted _ admitted =>
      rw [isFinishing] at admitted
      have place : Table.count (AList.erase room (((creationProgram settings).writeAll store
          session.pending).rooms)) (IsQueued queue) < limit := admitted
      have counted := Table.count_erase (((creationProgram settings).writeAll store
        session.pending).rooms) (IsQueued queue) room
      split at counted <;> omega

theorem commit_within (unlocked : ¬owns (.queue queue))
    (assertion : LimitAssertion settings queue limit owns store session)
    (advanced : ((creationProgram settings).writeAll store session.pending).advance settings
      session.locals.request session.locals.stage choice = some statement)
    {rest : Option CreationLocal} (isNext : statement.next = .commit rest) :
    ((creationProgram settings).writeAll store (session.pending ++ statement.writes)).rooms.Within
      store.rooms (IsQueued queue) := by
  rcases rooms_of_commit advanced isNext with ⟨_, _, same⟩
  rw [SessionProgram.writeAll_append, same]
  cases assertion with
  | harmless spare _ => exact CreationStore.writeAll_within spare
  | admitted locked _ => exact absurd locked unlocked

end LimitAssertion

def limitOutline (Pid : Type) [DecidableEq Pid] {limit : Nat}
    (limits : settings.Limits queue limit) :
    SessionOutline (creationProgram settings)
      (fun (sessions : CreationSessions Pid) event =>
        (creationProgram settings).OwnStep (ThroughCheck queue) sessions event) where
  Invariant := fun store => queuedRoomsCount store queue ≤ limit
  Assertion := LimitAssertion settings queue limit
  enter := fun _ _ => .harmless (by simp) trivial
  proceed := by
    intro sessions pid choice session statement locals meets running _ assertion advanced isNext
    exact assertion.proceed limits (meets.allowed running) advanced isNext
  commit := by
    intro sessions pid choice session statement rest _ _ within assertion advanced isNext
    refine ⟨assertion.commit within advanced isNext, ?_⟩
    intro locals isRest
    cases (LimitAssertion.rooms_of_commit advanced isNext).2.1.symm.trans isRest
  commitOther := by
    intro sessions pid choice session statement rest _ _ _ assertion advanced isNext owns other
      apart otherAssertion
    cases otherAssertion with
    | harmless spare harmless => exact .harmless spare harmless
    | admitted locked admitted =>
        have unlocked : ¬sessions.Owns pid (.queue queue) :=
          fun owned => apart _ locked (.inl owned)
        exact LimitAssertion.within (.admitted locked admitted)
          (assertion.commit_within unlocked advanced isNext)
  rollback := by
    intro sessions pid choice session statement rest locals _ _ _ _ advanced isNext isRest
    cases rest_of_rollback advanced isNext
    cases isRest
  surround := by
    intro sessions event store _ within surrounded
    cases surrounded
    have shrinks : (sessions.store.surround event).rooms.Within sessions.store.rooms
        (IsQueued queue) := CreationStore.surround_within sessions.store event
    exact ⟨Nat.le_trans shrinks.count_le within, fun _ _ assertion => assertion.within shrinks⟩

theorem full_of_refused {view : CreationStore} {request : RoomRequest} {stage : CreationStage}
    {own : Nat} {statement : CreationStatement} {rest : Option CreationLocal}
    (counting : stage = .countingQueuedRooms own)
    (advanced : view.advance settings request stage .done = some statement)
    (refused : statement.next = .rollback rest) : own ≤ queuedRoomsCount view request.queue := by
  subst counting
  cases advanced
  split at refused
  · next full => exact full
  · cases refused

/-- As long as the rooms that are left without an agent are created within the limit of
the queue, no more rooms than that wait in it after any step; and a request that is
refused has met that many. -/
theorem queue_limit_holds {Pid : Type} [DecidableEq Pid] (settings : ExternalSettings)
    (queue : Uuid) (limit : Nat) (limits : settings.Limits queue limit) (initial : CreationStore)
    (within : queuedRoomsCount initial queue ≤ limit) {current : CreationSessions Pid}
    (reaches : (creationProgram settings).machine.Reaches
      (fun sessions event => (creationProgram settings).OwnStep (ThroughCheck queue) sessions event)
      (Sessions.idle initial) current) :
    queuedRoomsCount current.store queue ≤ limit ∧
      ∀ pid session own statement, current.session pid = some session →
        session.locals.request.queue = queue →
        session.locals.stage = .countingQueuedRooms own →
        (creationProgram settings).advance ((creationProgram settings).view current session)
          session.locals .done = some statement →
        statement.next = .rollback none → limit ≤ queuedRoomsCount current.store queue := by
  have holds := (limitOutline Pid limits).holds_of_reaches reaches
    ((limitOutline Pid limits).holds_idle within)
  refine ⟨holds.store, ?_⟩
  intro pid session own statement running sameQueue counting advanced refused
  have assertion : LimitAssertion settings queue limit (current.Owns pid) current.store session :=
    holds.locals pid session running
  cases assertion with
  | harmless spare harmless =>
      rw [counting] at harmless
      rcases harmless sameQueue with ⟨_, rfl⟩
      have shrinks : ((creationProgram settings).view current session).rooms.Within
          current.store.rooms (IsQueued queue) := CreationStore.writeAll_within spare
      have full := full_of_refused counting advanced refused
      rw [sameQueue] at full
      exact Nat.le_trans full shrinks.count_le
  | admitted _ admitted =>
      rw [counting] at admitted
      cases admitted

/-- The second request meets the limit once it gets the lock. -/
theorem queue_limit_holds_for_two_requests :
    ∃ current : CreationSessions Caller,
      (creationProgram singleProject).machine.runMeeting
        (fun sessions event =>
          (creationProgram singleProject).OwnStep (ThroughCheck 5) sessions event)
        (Sessions.idle .initial)
        (requestUpToQueue .first (plainRequest 1 none) ++
          requestUpToQueue .second (plainRequest 2 none) ++ createQueuedRoom .first 11 ++
          CreationEvent.proceed .second 2) = some current ∧
      current.store.answers = [⟨1, 11, true⟩] ∧ queuedRoomsCount current.store 5 ≤ 1 := by
  have ends : ((creationProgram singleProject).machine.runMeeting
      (fun sessions event =>
        (creationProgram singleProject).OwnStep (ThroughCheck 5) sessions event)
      (Sessions.idle .initial)
      (requestUpToQueue .first (plainRequest 1 none) ++
        requestUpToQueue .second (plainRequest 2 none) ++ createQueuedRoom .first 11 ++
        CreationEvent.proceed .second 2)).map
          (fun current : CreationSessions Caller => current.store.answers) =
      some [⟨1, 11, true⟩] := by
    decide
  rcases Option.map_eq_some_iff.mp ends with ⟨current, ran, answers⟩
  have limited := queue_limit_holds singleProject 5 1 ⟨rfl, rfl⟩ .initial (by decide)
    (.of_runMeeting ran)
  exact ⟨current, ran, answers, limited.1⟩

end ChatsEngine.Rooms
