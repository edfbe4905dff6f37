import ChatsEngine.Rooms.ExternalCreation

/-! # One open room for a contact

The requests for one contact in one project go one after the other, since each of them
holds the lock of the contact's row until its transaction ends. So there is one open
room at most. A request that returns a room without creating one has found it by the
contact, or by a flow start, of which nobody asks whose room it has. -/

namespace ChatsEngine.Rooms

variable {settings : ExternalSettings} {contact project : Uuid}

/-! ## Rows -/

theorem isOpen_congr {row other : RoomRecord} (isActive : row .isActive = other .isActive)
    (isContact : row .contact = other .contact) (isQueue : row .queue = other .queue) :
    IsOpen settings contact project row ↔ IsOpen settings contact project other := by
  rw [IsOpen, IsOpen, isActive, isContact, isQueue]

theorem isOpen_update (update : TicketUpdate) (row : RoomRecord) :
    IsOpen settings contact project (row.assign update.assignments) ↔
      IsOpen settings contact project row :=
  isOpen_congr (update.assign_spare (by decide) (by decide))
    (update.assign_spare (by decide) (by decide)) (update.assign_spare (by decide) (by decide))

theorem isOpen_answered (now : Instant) (row : RoomRecord) :
    IsOpen settings contact project (savedRow now [⟨.isWaiting, false⟩] row) ↔
      IsOpen settings contact project row :=
  isOpen_congr (savedRow_spare (by decide)) (savedRow_spare (by decide))
    (savedRow_spare (by decide))

theorem not_isOpen_closing (now : Instant) (endedBy : String) (closedBy : Option UserEmail)
    (row : RoomRecord) :
    ¬IsOpen settings contact project
      (savedRow now (RoomInstance.closing now endedBy closedBy) row) :=
  fun isOpen => absurd ((savedRow_closing now endedBy closedBy row).symm.trans isOpen.1) (by decide)

/-! ## Rooms -/

def HasOpen (settings : ExternalSettings) (contact project : Uuid)
    (rooms : Table Uuid RoomRecord) (room : Uuid) : Prop :=
  ∃ row ∈ rooms.lookup room, IsOpen settings contact project row

instance (rooms : Table Uuid RoomRecord) (room : Uuid) :
    Decidable (HasOpen settings contact project rooms room) :=
  inferInstanceAs (Decidable (∃ row ∈ rooms.lookup room, _))

def AtMostOneOpen (settings : ExternalSettings) (contact project : Uuid)
    (rooms : Table Uuid RoomRecord) : Prop :=
  ∀ room other, HasOpen settings contact project rooms room →
    HasOpen settings contact project rooms other → room = other

def NoneOpen (settings : ExternalSettings) (contact project : Uuid)
    (rooms : Table Uuid RoomRecord) : Prop :=
  ∀ room, ¬HasOpen settings contact project rooms room

section Rooms

variable {rooms : Table Uuid RoomRecord} {room other : Uuid} {row : RoomRecord}

theorem hasOpen_insert_iff :
    HasOpen settings contact project (rooms.insert room row) other ↔
      other = room ∧ IsOpen settings contact project row ∨
        other ≠ room ∧ HasOpen settings contact project rooms other := by
  constructor
  · intro given
    rcases given with ⟨found, stored, isOpen⟩
    rcases Table.lookup_insert_iff.mp stored with ⟨same, rfl⟩ | ⟨different, before⟩
    · exact .inl ⟨same, isOpen⟩
    · exact .inr ⟨different, found, before, isOpen⟩
  · rintro (⟨same, isOpen⟩ | ⟨different, found, before, isOpen⟩)
    · exact ⟨row, Table.lookup_insert_iff.mpr (.inl ⟨same, rfl⟩), isOpen⟩
    · exact ⟨found, Table.lookup_insert_iff.mpr (.inr ⟨different, before⟩), isOpen⟩

theorem hasOpen_update_iff (update : TicketUpdate) :
    HasOpen settings contact project
        (rooms.modify room fun row => row.assign update.assignments) other ↔
      HasOpen settings contact project rooms other := by
  constructor
  · intro given
    rcases given with ⟨found, stored, isOpen⟩
    rcases Table.lookup_modify_iff.mp stored with ⟨rfl, row, before, rfl⟩ | ⟨_, before⟩
    · exact ⟨row, before, (isOpen_update update row).mp isOpen⟩
    · exact ⟨found, before, isOpen⟩
  · intro given
    rcases given with ⟨found, before, isOpen⟩
    by_cases same : other = room
    · exact ⟨_, Table.lookup_modify_iff.mpr (.inl ⟨same, found, same ▸ before, rfl⟩),
        (isOpen_update update found).mpr isOpen⟩
    · exact ⟨found, Table.lookup_modify_iff.mpr (.inr ⟨same, before⟩), isOpen⟩

theorem AtMostOneOpen.update (unique : AtMostOneOpen settings contact project rooms)
    (update : TicketUpdate) :
    AtMostOneOpen settings contact project
      (rooms.modify room fun row => row.assign update.assignments) := by
  intro left right leftOpen rightOpen
  exact unique left right ((hasOpen_update_iff update).mp leftOpen)
    ((hasOpen_update_iff update).mp rightOpen)

theorem AtMostOneOpen.insert (unique : AtMostOneOpen settings contact project rooms)
    (already : IsOpen settings contact project row →
      HasOpen settings contact project rooms room) :
    AtMostOneOpen settings contact project (rooms.insert room row) := by
  have before : ∀ left, HasOpen settings contact project (rooms.insert room row) left →
      HasOpen settings contact project rooms left := by
    intro left isOpen
    rcases hasOpen_insert_iff.mp isOpen with ⟨rfl, rowOpen⟩ | ⟨_, before⟩
    · exact already rowOpen
    · exact before
  exact fun left right leftOpen rightOpen =>
    unique left right (before left leftOpen) (before right rightOpen)

theorem NoneOpen.atMostOneOpen_insert (noneOpen : NoneOpen settings contact project rooms) :
    AtMostOneOpen settings contact project (rooms.insert room row) := by
  have only : ∀ left, HasOpen settings contact project (rooms.insert room row) left →
      left = room := by
    intro left isOpen
    rcases hasOpen_insert_iff.mp isOpen with ⟨same, _⟩ | ⟨_, before⟩
    · exact same
    · exact absurd before (noneOpen left)
  exact fun left right leftOpen rightOpen =>
    (only left leftOpen).trans (only right rightOpen).symm

end Rooms

theorem mem_activeRooms_iff {store : CreationStore} {room : Uuid} :
    room ∈ store.activeRooms settings contact project ↔
      HasOpen settings contact project store.rooms room := by
  constructor
  · intro listed
    rcases List.mem_map.mp listed with ⟨entry, filtered, rfl⟩
    rcases List.mem_filter.mp filtered with ⟨member, isOpen⟩
    exact ⟨entry.2, Table.mem_entries_iff.mp member, of_decide_eq_true isOpen⟩
  · intro given
    rcases given with ⟨row, stored, isOpen⟩
    apply List.mem_map.mpr
    exact ⟨⟨room, row⟩,
      List.mem_filter.mpr ⟨Table.mem_entries_iff.mpr stored, decide_eq_true isOpen⟩, rfl⟩

theorem noneOpen_of_activeRooms {store : CreationStore}
    (noRoom : store.activeRooms settings contact project = []) :
    NoneOpen settings contact project store.rooms := by
  intro room isOpen
  have listed := mem_activeRooms_iff.mpr isOpen
  rw [noRoom] at listed
  cases listed

/-! ## The stages of a request -/

/-- An instance of a room that a request holds. If it is open, so is the stored room. A
room that is returned is open where the flow starts lead to rooms of the contact. -/
def HeldRoom (settings : ExternalSettings) (contact project : Uuid) (leads : Prop)
    (rooms : Table Uuid RoomRecord) (room : Uuid) (row : RoomRecord) (isCreated : Bool) : Prop :=
  (IsOpen settings contact project row → HasOpen settings contact project rooms room) ∧
    (isCreated = false → leads → IsOpen settings contact project row)

def RoomSave.Keeps (settings : ExternalSettings) (contact project : Uuid) (leads : Prop)
    (rooms : Table Uuid RoomRecord) (room : Uuid) : RoomSave → Prop
  | .closing row _ => ¬IsOpen settings contact project row
  | .flowStartRoom row _ => HeldRoom settings contact project leads rooms room row false
  | .activeRoom _ _ => HasOpen settings contact project rooms room
  | .history row isCreated => HeldRoom settings contact project leads rooms room row isCreated

/-- What a request that holds the lock of the contact knows of the rooms as it sees them. -/
def CreationStage.Knows (settings : ExternalSettings) (contact project : Uuid) (leads : Prop)
    (rooms : Table Uuid RoomRecord) : CreationStage → Prop
  | .deletingFlowStart _ room row =>
      HeldRoom settings contact project leads rooms room row false
  | .saving room save => save.Keeps settings contact project leads rooms room
  | .storing room save => save.Keeps settings contact project leads rooms room
  | .findingLastFlowStart => NoneOpen settings contact project rooms
  | .resolvingRoomUser _ => NoneOpen settings contact project rooms
  | .checkingLaterRooms _ _ => NoneOpen settings contact project rooms
  | .lockingQueue => NoneOpen settings contact project rooms
  | .countingQueuedRooms _ => NoneOpen settings contact project rooms
  | .creatingRoom _ _ => NoneOpen settings contact project rooms
  | .creatingMetrics room row => HeldRoom settings contact project leads rooms room row true
  | .processingHistory room row isCreated =>
      HeldRoom settings contact project leads rooms room row isCreated
  | .finishing room isCreated =>
      isCreated = false → leads → HasOpen settings contact project rooms room
  | _ => True

/-- The flow start that is found for a contact leads to a room of this contact, in the
project, unless its room is closed. -/
def LeadsToContact (settings : ExternalSettings) (view : CreationStore)
    (session : Session CreationWrite CreationLocal) (_ : CreationChoice) : Prop :=
  match session.locals.stage with
  | .gettingFlowStartRoom _ room => ∀ row ∈ view.rooms.lookup room, row .isActive = true →
      IsOpen settings session.locals.request.contact
        (settings.projectOf session.locals.request) row
  | _ => True

instance (view : CreationStore) (session : Session CreationWrite CreationLocal)
    (choice : CreationChoice) : Decidable (LeadsToContact settings view session choice) := by
  unfold LeadsToContact
  split <;> infer_instance

section Statements

variable {leads : Prop} {view : CreationStore} {request : RoomRequest} {stage : CreationStage}
  {statement : CreationStatement} {choice : CreationChoice}

def GoesOnUnique (settings : ExternalSettings) (contact project : Uuid) (leads : Prop)
    (view : CreationStore) (statement : CreationStatement) : Prop :=
  ∀ locals, statement.next = .proceed locals →
    AtMostOneOpen settings contact project
        ((creationProgram settings).writeAll view statement.writes).rooms ∧
      locals.stage.Knows settings contact project leads
        ((creationProgram settings).writeAll view statement.writes).rooms

theorem goesOnUnique_proceed (unique : AtMostOneOpen settings contact project view.rooms)
    (knows : stage.Knows settings contact project leads view.rooms) :
    GoesOnUnique settings contact project leads view (request.proceed stage) := by
  intro locals isNext
  cases isNext
  exact ⟨unique, knows⟩

theorem goesOnUnique_deleteFlowStart {flowStart : Uuid}
    (unique : AtMostOneOpen settings contact project view.rooms)
    (knows : stage.Knows settings contact project leads view.rooms) :
    GoesOnUnique settings contact project leads view
      (request.write (.deleteFlowStart flowStart) stage) := by
  intro locals isNext
  cases isNext
  exact ⟨unique, knows⟩

theorem goesOnUnique_rollback :
    GoesOnUnique settings contact project leads view rollbackRequest :=
  fun _ isNext => by cases isNext

theorem goesOnUnique_save {room : Uuid} {save : RoomSave}
    (unique : AtMostOneOpen settings contact project view.rooms)
    (keeps : save.Keeps settings contact project leads view.rooms room) :
    GoesOnUnique settings contact project leads view
      (request.write (save.write room) (save.next room)) := by
  intro locals isNext
  cases isNext
  cases save with
  | closing row rest => exact ⟨unique.insert fun isOpen => absurd isOpen keeps, trivial⟩
  | flowStartRoom row update =>
      refine ⟨unique.update update, ?_, ?_⟩
      · intro isOpen
        exact (hasOpen_update_iff update).mpr (keeps.1 ((isOpen_update update row).mp isOpen))
      · intro returned leadsTo
        exact (isOpen_update update row).mpr (keeps.2 returned leadsTo)
  | activeRoom row update =>
      exact ⟨unique.update update, fun _ _ => (hasOpen_update_iff update).mpr keeps⟩
  | history row isCreated =>
      refine ⟨unique.insert keeps.1, ?_⟩
      intro returned leadsTo
      exact hasOpen_insert_iff.mpr (.inl ⟨rfl, keeps.2 returned leadsTo⟩)

theorem heldRoom_of_lookup {room : Uuid} {row : RoomRecord} {rooms : Table Uuid RoomRecord}
    (stored : rooms.lookup room = some row)
    (isOpen : leads → IsOpen settings contact project row) :
    HeldRoom settings contact project leads rooms room row false :=
  ⟨fun rowOpen => ⟨row, stored, rowOpen⟩, fun _ => isOpen⟩

theorem proceed_unique (isContact : request.contact = contact)
    (isProject : settings.projectOf request = project)
    (unique : AtMostOneOpen settings contact project view.rooms)
    (knows : stage.Knows settings contact project leads view.rooms)
    (found : leads → ∀ flowStart room, stage = .gettingFlowStartRoom flowStart room →
      ∀ row ∈ view.rooms.lookup room, row .isActive = true → IsOpen settings contact project row)
    (advanced : view.proceed settings request stage = some statement) :
    GoesOnUnique settings contact project leads view statement := by
  cases proceeds_of_proceed advanced with
  | rollback => exact goesOnUnique_rollback
  | updateContact =>
      intro locals isNext
      cases isNext
      exact ⟨unique, trivial⟩
  | getOpenRoom stored isActive =>
      apply goesOnUnique_proceed unique
      exact heldRoom_of_lookup stored fun leadsTo =>
        found leadsTo _ _ rfl _ stored isActive
  | leaveRoom => exact goesOnUnique_deleteFlowStart unique knows
  | updateRoom => exact goesOnUnique_deleteFlowStart unique knows
  | deleteNext => exact goesOnUnique_deleteFlowStart unique trivial
  | closeRoom => exact goesOnUnique_proceed unique (not_isOpen_closing _ _ _ _)
  | guard => exact goesOnUnique_proceed unique knows
  | store => exact goesOnUnique_save unique knows
  | findNoRoom noRoom =>
      rw [isContact, isProject] at noRoom
      exact goesOnUnique_proceed unique (noneOpen_of_activeRooms noRoom)
  | takeActiveRoom isActiveRoom =>
      rw [isContact, isProject] at isActiveRoom
      exact goesOnUnique_proceed unique (mem_activeRooms_iff.mp isActiveRoom)
  | findLastFlowStart => exact goesOnUnique_proceed unique knows
  | checkQueue => exact goesOnUnique_proceed unique knows
  | skipQueue => exact goesOnUnique_proceed unique knows
  | lockLimited _ =>
      intro locals isNext
      cases isNext
      exact ⟨unique, knows⟩
  | lockUnlimited _ =>
      intro locals isNext
      cases isNext
      exact ⟨unique, knows⟩
  | findPlace _ => exact goesOnUnique_proceed unique knows
  | createMetrics => exact goesOnUnique_proceed unique knows
  | finish =>
      intro locals isNext
      cases isNext
  | _ => exact goesOnUnique_proceed unique trivial

theorem advance_unique {pending : List CreationWrite} (isContact : request.contact = contact)
    (isProject : settings.projectOf request = project)
    (unique : AtMostOneOpen settings contact project view.rooms)
    (knows : stage.Knows settings contact project leads view.rooms)
    (found : leads → LeadsToContact settings view ⟨⟨request, stage⟩, pending⟩ choice)
    (advanced : view.advance settings request stage choice = some statement) :
    GoesOnUnique settings contact project leads view statement := by
  cases advances_of_advance advanced with
  | proceeding proceeded =>
      apply proceed_unique isContact isProject unique knows _ proceeded
      intro leadsTo flowStart room same
      subst same
      rw [← isContact, ← isProject]
      exact found leadsTo
  | raising => exact goesOnUnique_rollback
  | resolving last user => exact goesOnUnique_proceed unique knows
  | conflicting user isChecked room => exact goesOnUnique_rollback
  | creating user isChecked room isNew =>
      intro locals isNext
      cases isNext
      have noneOpen : NoneOpen settings contact project view.rooms := knows
      refine ⟨noneOpen.atMostOneOpen_insert, ?_, ?_⟩
      · exact fun isOpen => hasOpen_insert_iff.mpr (.inl ⟨rfl, isOpen⟩)
      · exact fun returned => by cases returned
  | processing room row isCreated isValid =>
      apply goesOnUnique_proceed unique
      have held : HeldRoom settings contact project leads view.rooms room row isCreated := knows
      split
      · refine ⟨fun isOpen => held.1 ((isOpen_answered view.now row).mp isOpen), ?_⟩
        exact fun returned leadsTo =>
          (isOpen_answered view.now row).mpr (held.2 returned leadsTo)
      · exact fun returned leadsTo => held.1 (held.2 returned leadsTo)

theorem locks_of_updatingContact
    (advanced : view.advance settings request .updatingContact choice = some statement)
    {locals : CreationLocal} (isNext : statement.next = .proceed locals) :
    .contact request.contact ∈ statement.locks := by
  cases choice with
  | done =>
      cases advanced
      exact List.mem_cons_self
  | raised =>
      cases advanced
      cases isNext
  | _ => cases advanced

end Statements

/-! ## Runs -/

/-- The requests are for the contact and the project; meanwhile, time passes. -/
def ForContact (settings : ExternalSettings) (contact project : Uuid) {Pid : Type} :
    CreationEvent Pid → Prop
  | .start _ request => request.contact = contact ∧ settings.projectOf request = project
  | .surround (.tick _) => True
  | .surround _ => False
  | _ => True

instance {Pid : Type} (event : CreationEvent Pid) :
    Decidable (ForContact settings contact project event) := by
  unfold ForContact
  split <;> infer_instance

/-- A request has not begun, or it holds the lock of the contact. -/
structure OpenAssertion (settings : ExternalSettings) (contact project : Uuid) (leads : Prop)
    (owns : CreationLock → Prop) (store : CreationStore)
    (session : Session CreationWrite CreationLocal) : Prop where
  isContact : session.locals.request.contact = contact
  isProject : settings.projectOf session.locals.request = project
  progress : session.locals.stage = .updatingContact ∧ session.pending = [] ∨
    owns (.contact contact) ∧
      AtMostOneOpen settings contact project
        ((creationProgram settings).writeAll store session.pending).rooms ∧
      session.locals.stage.Knows settings contact project leads
        ((creationProgram settings).writeAll store session.pending).rooms

namespace OpenAssertion

variable {leads : Prop} {owns : CreationLock → Prop} {store later : CreationStore}
  {session : Session CreationWrite CreationLocal} {choice : CreationChoice}
  {statement : CreationStatement}

theorem proceed (assertion : OpenAssertion settings contact project leads owns store session)
    (unique : AtMostOneOpen settings contact project store.rooms)
    (found : leads → LeadsToContact settings
      ((creationProgram settings).writeAll store session.pending) session choice)
    (advanced : ((creationProgram settings).writeAll store session.pending).advance settings
      session.locals.request session.locals.stage choice = some statement)
    {locals : CreationLocal} (isNext : statement.next = .proceed locals) :
    OpenAssertion settings contact project leads
      (fun lock => owns lock ∨ lock ∈ statement.locks) store
      { locals, pending := session.pending ++ statement.writes } := by
  have sameRequest : locals.request = session.locals.request := by
    cases advance_continues advanced with
    | proceed => cases isNext; rfl
    | commit => cases isNext
    | rollback => cases isNext
  refine ⟨sameRequest ▸ assertion.isContact, sameRequest ▸ assertion.isProject, .inr ?_⟩
  rw [SessionProgram.writeAll_append]
  rcases assertion.progress with ⟨begins, noWrites⟩ | ⟨locked, viewUnique, knows⟩
  · have takes : CreationLock.contact contact ∈ statement.locks := by
      rw [begins] at advanced
      rw [← assertion.isContact]
      exact locks_of_updatingContact advanced isNext
    have viewUnique : AtMostOneOpen settings contact project
        ((creationProgram settings).writeAll store session.pending).rooms := by
      rw [noWrites]
      exact unique
    have knows : session.locals.stage.Knows settings contact project leads
        ((creationProgram settings).writeAll store session.pending).rooms := by
      rw [begins]
      trivial
    exact ⟨.inr takes, advance_unique assertion.isContact assertion.isProject viewUnique knows
      found advanced locals isNext⟩
  · exact ⟨.inl locked, advance_unique assertion.isContact assertion.isProject viewUnique knows
      found advanced locals isNext⟩

theorem commit (assertion : OpenAssertion settings contact project leads owns store session)
    (advanced : ((creationProgram settings).writeAll store session.pending).advance settings
      session.locals.request session.locals.stage choice = some statement)
    {rest : Option CreationLocal} (isNext : statement.next = .commit rest) :
    owns (.contact contact) ∧ rest = none ∧
      AtMostOneOpen settings contact project ((creationProgram settings).writeAll store
        (session.pending ++ statement.writes)).rooms ∧
      ∃ room isCreated, statement.writes = [.answer ⟨contact, room, isCreated⟩] ∧
        (isCreated = false → leads → HasOpen settings contact project
          ((creationProgram settings).writeAll store
            (session.pending ++ statement.writes)).rooms room) := by
  cases advance_continues advanced with
  | proceed => cases isNext
  | rollback => cases isNext
  | commit room isCreated isFinishing =>
      cases isNext
      rcases assertion.progress with ⟨begins, _⟩ | ⟨locked, unique, knows⟩
      · cases begins.symm.trans isFinishing
      · rw [isFinishing] at knows
        rw [SessionProgram.writeAll_append]
        exact ⟨locked, rfl, unique, room, isCreated, by rw [assertion.isContact], knows⟩

end OpenAssertion

theorem writeAll_rooms {store later : CreationStore} (same : later.rooms = store.rooms)
    (writes : List CreationWrite) :
    ((creationProgram settings).writeAll later writes).rooms =
      ((creationProgram settings).writeAll store writes).rooms := by
  induction writes generalizing store later with
  | nil => exact same
  | cons write writes induction =>
      apply induction
      cases write with
      | storeRoom room row => exact congrArg (AList.insert room row) same
      | updateTicket room update =>
          exact congrArg (Table.modify · room fun row => row.assign update.assignments) same
      | _ => exact same

def openOutline (Pid : Type) [DecidableEq Pid] (settings : ExternalSettings)
    (contact project : Uuid) (leads : Prop) :
    SessionOutline (creationProgram settings)
      (fun (sessions : CreationSessions Pid) event =>
        ForContact settings contact project event ∧
          (leads → (creationProgram settings).OwnStep (LeadsToContact settings) sessions event)) where
  Invariant := fun store => AtMostOneOpen settings contact project store.rooms
  Assertion := OpenAssertion settings contact project leads
  enter := fun meets _ => ⟨meets.1.1, meets.1.2, .inl ⟨rfl, rfl⟩⟩
  proceed := by
    intro sessions pid choice session statement locals meets running unique assertion advanced
      isNext
    exact assertion.proceed unique (fun leadsTo => (meets.2 leadsTo).allowed running) advanced
      isNext
  commit := by
    intro sessions pid choice session statement rest _ _ _ assertion advanced isNext
    rcases assertion.commit advanced isNext with ⟨_, ended, unique, _⟩
    exact ⟨unique, fun locals isRest => by cases ended.symm.trans isRest⟩
  commitOther := by
    intro sessions pid choice session statement rest _ _ _ assertion advanced isNext owns other
      apart otherAssertion
    rcases assertion.commit advanced isNext with ⟨locked, _⟩
    refine ⟨otherAssertion.isContact, otherAssertion.isProject, ?_⟩
    rcases otherAssertion.progress with begins | ⟨otherLocked, _⟩
    · exact .inl begins
    · exact absurd (.inl locked) (apart _ otherLocked)
  rollback := by
    intro sessions pid choice session statement rest locals _ _ _ _ advanced isNext isRest
    cases rest_of_rollback advanced isNext
    cases isRest
  surround := by
    intro sessions event store meets unique surrounded
    cases event with
    | tick elapsed =>
        cases surrounded
        refine ⟨unique, fun owns session assertion => ?_⟩
        refine ⟨assertion.isContact, assertion.isProject, ?_⟩
        have same : ((creationProgram settings).writeAll
            (sessions.store.surround (.tick elapsed)) session.pending).rooms =
            ((creationProgram settings).writeAll sessions.store session.pending).rooms := by
          apply writeAll_rooms
          rfl
        rw [same]
        exact assertion.progress
    | assign room user => exact absurd meets.1 id
    | close room endedBy closedBy => exact absurd meets.1 id

/-- However the requests for a contact overlap, the contact has one open room in the
project at most. As long as the flow starts lead to the contact's own rooms, a request
that succeeds without creating a room returns the open one. -/
theorem contact_has_one_open_room {Pid : Type} [DecidableEq Pid] (settings : ExternalSettings)
    (contact project : Uuid) (initial : CreationStore)
    (unique : AtMostOneOpen settings contact project initial.rooms) :
    (∀ current : CreationSessions Pid,
        (creationProgram settings).machine.Reaches
          (fun _ event => ForContact settings contact project event)
          (Sessions.idle initial) current →
        AtMostOneOpen settings contact project current.store.rooms) ∧
      ∀ current next : CreationSessions Pid,
        (creationProgram settings).machine.Reaches
          (fun sessions event => ForContact settings contact project event ∧
            (creationProgram settings).OwnStep (LeadsToContact settings) sessions event)
          (Sessions.idle initial) current →
        ∀ pid choice room,
          (creationProgram settings).machine.step current (.advance pid choice) = some next →
          next.store.answers = ⟨contact, room, false⟩ :: current.store.answers →
          HasOpen settings contact project next.store.rooms room := by
  constructor
  · intro current reaches
    have holds := (openOutline Pid settings contact project False).holds_of_reaches
      (reaches.mono fun _ _ meets => ⟨meets, fun impossible => by cases impossible⟩)
      ((openOutline Pid settings contact project False).holds_idle unique)
    exact holds.store
  · intro current next reaches pid choice room stepped answered
    have holds := (openOutline Pid settings contact project True).holds_of_reaches
      (reaches.mono fun _ _ meets => ⟨meets.1, fun _ => meets.2⟩)
      ((openOutline Pid settings contact project True).holds_idle unique)
    rcases SessionProgram.step_advance stepped with
      ⟨session, statement, running, advanced, _, rfl⟩
    have assertion : OpenAssertion settings contact project True (current.Owns pid) current.store
        session := holds.locals pid session running
    cases isNext : statement.next with
    | commit rest =>
        rcases assertion.commit advanced isNext with ⟨_, _, _, own, isCreated, written, isOpen⟩
        rw [SessionProgram.perform_store_of_commit isNext] at answered ⊢
        have answers : ((creationProgram settings).writeAll current.store
            (session.pending ++ statement.writes)).answers =
            ⟨contact, own, isCreated⟩ ::
              ((creationProgram settings).writeAll current.store session.pending).answers := by
          rw [SessionProgram.writeAll_append, written]
          rfl
        cases (List.cons.inj (answers.symm.trans answered)).1
        exact isOpen rfl trivial
    | proceed locals =>
        rw [SessionProgram.perform_store_of_not_commit (by simp [isNext])] at answered
        exact absurd answered.symm (List.cons_ne_self _ _)
    | rollback rest =>
        rw [SessionProgram.perform_store_of_not_commit (by simp [isNext])] at answered
        exact absurd answered.symm (List.cons_ne_self _ _)

/-! ## A flow start for two contacts -/

/-- `ProjectViewset.start_flow`, for a room that has no flow start yet and is no longer
valid within 24 hours. The room is looked up for the first contact, and the flow start
refers to all of them. -/
def CreationStore.startFlow (store : CreationStore) (uuid project : Uuid) (flow : String)
    (contacts groups : List Uuid) (room : Uuid) : CreationStore :=
  let isFound : Prop := ∃ row ∈ store.rooms.lookup room,
    row .isActive = true ∧ row .contact = contacts.head?
  { store with
    flowStarts :=
      { uuid, flow := some flow, project, room := if isFound then some room else none
        references := groups ++ contacts, isDeleted := false, createdOn := store.now } ::
        store.flowStarts
    rooms :=
      if isFound then
        store.rooms.modify room (savedRow store.now [⟨.isWaiting, true⟩])
      else
        store.rooms }

def startedFlow (contacts : List Uuid) : CreationStore :=
  CreationStore.initial.write (.storeRoom 7 ((plainRequest 1 none).newRow 0 0 (some "agent")))
    |>.startFlow 30 0 "flow" contacts [] 7

def followFlowStart (caller : Caller) (contact : Uuid) : List (CreationEvent Caller) :=
  [.start caller (plainRequest contact (some "flow"))] ++ CreationEvent.proceed caller 6 ++
    [.advance caller (.is24hValid true)] ++ CreationEvent.proceed caller 2

theorem flow_start_returns_room_of_other_contact :
    ¬∀ initial : CreationStore, AtMostOneOpen singleProject 2 0 initial.rooms →
      ∀ current next : CreationSessions Caller,
        (creationProgram singleProject).machine.Reaches
          (fun _ event => ForContact singleProject 2 0 event) (Sessions.idle initial) current →
        ∀ pid choice room,
          (creationProgram singleProject).machine.step current (.advance pid choice) = some next →
          next.store.answers = ⟨2, room, false⟩ :: current.store.answers →
          HasOpen singleProject 2 0 next.store.rooms room := by
  intro returns
  have noRoom : NoneOpen singleProject 2 0 (startedFlow [1, 2]).rooms :=
    noneOpen_of_activeRooms (by decide)
  have ends : ((creationProgram singleProject).machine.runMeeting
      (fun _ event => ForContact singleProject 2 0 event)
      (Sessions.idle (startedFlow [1, 2])) (followFlowStart .first 2)).map
        (fun current : CreationSessions Caller => (current.store.answers,
          ((creationProgram singleProject).machine.step current (.advance .first .done)).map
            fun next => (next.store.answers,
              decide (HasOpen singleProject 2 0 next.store.rooms 7)))) =
      some ([], some ([⟨2, 7, false⟩], false)) := by
    decide
  rcases Option.map_eq_some_iff.mp ends with ⟨current, ran, same⟩
  rcases Prod.mk.inj same with ⟨before, stepped⟩
  rcases Option.map_eq_some_iff.mp stepped with ⟨next, isNext, outcome⟩
  rcases Prod.mk.inj outcome with ⟨answered, notOpen⟩
  apply of_decide_eq_false notOpen
  apply returns (startedFlow [1, 2]) _ current next (.of_runMeeting ran) .first .done 7 isNext
  · rw [before]
    exact answered
  · exact fun room _ isOpen => absurd isOpen (noRoom room)

theorem startedFlow_atMostOneOpen :
    AtMostOneOpen singleProject 1 0 (startedFlow [1]).rooms := by
  have only : (startedFlow [1]).activeRooms singleProject 1 0 = [7] := by decide
  have isSeven : ∀ room, HasOpen singleProject 1 0 (startedFlow [1]).rooms room → room = 7 := by
    intro room isOpen
    have listed := mem_activeRooms_iff.mpr isOpen
    rw [only] at listed
    exact List.mem_singleton.mp listed
  exact fun left right leftOpen rightOpen =>
    (isSeven left leftOpen).trans (isSeven right rightOpen).symm

/-- A second request of the contact waits while the first one is led to the room. -/
theorem contact_has_one_open_room_after_flow_start :
    ∃ current next : CreationSessions Caller,
      (creationProgram singleProject).machine.runMeeting
        (fun sessions event => ForContact singleProject 1 0 event ∧
          (creationProgram singleProject).OwnStep (LeadsToContact singleProject) sessions event)
        (Sessions.idle (startedFlow [1]))
        (.start .second (plainRequest 1 none) :: followFlowStart .first 1) = some current ∧
      (creationProgram singleProject).machine.step current (.advance .first .done) = some next ∧
      AtMostOneOpen singleProject 1 0 current.store.rooms ∧
      HasOpen singleProject 1 0 next.store.rooms 7 := by
  have ends : ((creationProgram singleProject).machine.runMeeting
      (fun sessions event => ForContact singleProject 1 0 event ∧
        (creationProgram singleProject).OwnStep (LeadsToContact singleProject) sessions event)
      (Sessions.idle (startedFlow [1]))
      (.start .second (plainRequest 1 none) :: followFlowStart .first 1)).map
        (fun current : CreationSessions Caller => (current.store.answers,
          ((creationProgram singleProject).machine.step current (.advance .first .done)).map
            fun next => next.store.answers)) =
      some ([], some [⟨1, 7, false⟩]) := by
    decide
  rcases Option.map_eq_some_iff.mp ends with ⟨current, ran, same⟩
  rcases Prod.mk.inj same with ⟨before, stepped⟩
  rcases Option.map_eq_some_iff.mp stepped with ⟨next, isNext, answered⟩
  have reaches := Machine.Reaches.of_runMeeting ran
  have contactHasOne := @contact_has_one_open_room Caller _ singleProject 1 0
    (startedFlow [1]) startedFlow_atMostOneOpen
  refine ⟨current, next, ran, isNext, ?_, ?_⟩
  · exact contactHasOne.1 current (reaches.mono fun _ _ meets => meets.1)
  · apply contactHasOne.2 current next reaches .first .done 7 isNext
    rw [before]
    exact answered

end ChatsEngine.Rooms
