import ChatsEngine.Queues.Router

/-! # First in, first out

The router visits the rooms of a queue in the order of their entry. A room that it
visits is assigned, has been assigned by somebody else, or is passed over because
a check has turned down the agent that was picked for it. In the last case the
router goes on with younger rooms. -/

namespace ChatsEngine.Queues

open ChatsEngine.Projects ChatsEngine.Rooms

theorem assignedRoom_user (now : Nat) (room : RoomInstance) (agent : UserEmail) :
    assignedRoom now room agent .user = some agent :=
  RoomInstance.saveAssignments_spare (by decide) now none _

theorem not_waits_assignedRoom (queue : Uuid) (now : Nat) (room : RoomInstance)
    (agent : UserEmail) : ¬Waits queue (assignedRoom now room agent) := by
  intro waits
  have unassigned := waits.2.2
  rw [assignedRoom_user] at unassigned
  cases unassigned

theorem createdRoom_user (now : Nat) (queue : QueueInstance) (columns : RoomRecord)
    (user : Option UserEmail) : createdRoom now queue columns user .user = user :=
  RoomInstance.saveAssignments_spare (by decide) now none _

theorem entryDate_createdRoom (now : Nat) (queue : QueueInstance) (columns : RoomRecord) :
    entryDate (createdRoom now queue columns none) = now := by
  simp [entryDate, createdRoom, RoomInstance.assign, RoomInstance.saveAssignments,
    RoomInstance.stamps, RoomInstance.create, RoomInstance.userHasChanged, Record.assign,
    Record.Stores]

namespace Database

variable {database before after : Database}

/-- Rooms that have come to wait in the meantime are dated in the meantime. -/
structure Later (before after : Database) : Prop where
  now : before.now ≤ after.now
  waits : ∀ queue pk columns, after.rooms.lookup pk = some columns → Waits queue columns →
    (∃ old, before.rooms.lookup pk = some old ∧ Waits queue old ∧
      entryDate old = entryDate columns) ∨
    before.now ≤ entryDate columns ∧ entryDate columns ≤ after.now

def EntriesAreDated (database : Database) : Prop :=
  ∀ queue pk columns, database.rooms.lookup pk = some columns → Waits queue columns →
    entryDate columns ≤ database.now

theorem EntriesAreDated.later (dated : before.EntriesAreDated) (later : Later before after) :
    after.EntriesAreDated := by
  intro queue pk columns stored waits
  rcases later.waits queue pk columns stored waits with ⟨old, oldStored, oldWaits, same⟩ | entered
  · have oldDated := dated queue pk old oldStored oldWaits
    have clock := later.now
    omega
  · exact entered.2

theorem Later.of_rooms (now : before.now ≤ after.now) (rooms : after.rooms = before.rooms) :
    Later before after where
  now := now
  waits := by
    intro queue pk columns stored waits
    rw [rooms] at stored
    exact .inl ⟨columns, stored, waits, rfl⟩

theorem Later.refl (database : Database) : Later database database :=
  .of_rooms le_rfl rfl

theorem Later.of_insert {pk : Uuid} {columns : RoomRecord} (now : after.now = before.now)
    (rooms : after.rooms = before.rooms.insert pk columns)
    (enters : ∀ queue, Waits queue columns → entryDate columns = before.now ∨
      ∃ old ∈ before.rooms.lookup pk, Waits queue old ∧ entryDate old = entryDate columns) :
    Later before after where
  now := now.ge
  waits := by
    intro queue other found stored waits
    rw [rooms] at stored
    rcases Table.lookup_insert_iff.mp stored with ⟨rfl, rfl⟩ | ⟨_, unchanged⟩
    · rcases enters queue waits with present | ⟨old, oldStored, oldWaits, same⟩
      · right
        omega
      · exact .inl ⟨old, oldStored, oldWaits, same⟩
    · exact .inl ⟨found, unchanged, waits, rfl⟩

theorem surround_later {event : RouterSurrounding}
    (surrounded : database.surround event = some after) : Later database after := by
  cases event with
  | tick elapsed =>
      cases surrounded
      exact .of_rooms (Nat.le_add_right _ _) rfl
  | writeRoom pk columns =>
      rw [Database.surround] at surrounded
      split at surrounded
      · next enters =>
          cases surrounded
          exact .of_insert rfl rfl fun queue waits => enters queue waits.1 waits
      · cases surrounded
  | _ =>
      cases surrounded
      exact .of_rooms le_rfl rfl

/-- Every room was assigned while none waited that had entered the queue before
it. -/
def KeepsOrder (database : Database) : Prop :=
  ∀ record ∈ database.routingRecords, record.overtaken = []

instance : DecidablePred KeepsOrder :=
  fun database => inferInstanceAs
    (Decidable (∀ record ∈ database.routingRecords, record.overtaken = []))

end Database

open Database

/-- The rooms that still wait in the queue of a run: those that it has passed over,
those that it has still to visit, and those that entered the queue after they were
listed. -/
structure RouteRun.Covers (run : RouteRun) (database : Database) (rooms : List ListedRoom) :
    Prop where
  sorted : rooms.Pairwise fun earlier later => earlier.dateField ≤ later.dateField
  clock : run.listedAt ≤ database.now
  dated : ∀ listed ∈ rooms, listed.dateField ≤ run.listedAt
  covers : ∀ pk columns, database.rooms.lookup pk = some columns →
    Waits run.queue.uuid columns →
    pk ∈ run.passedOver ∨
      (∃ listed ∈ rooms, listed.pk = pk ∧ listed.dateField = entryDate columns) ∨
      run.listedAt ≤ entryDate columns

namespace RouteRun.Covers

variable {run : RouteRun} {database after : Database} {listed : ListedRoom}
  {rooms : List ListedRoom}

theorem later (covers : run.Covers database rooms) (later : Later database after) :
    run.Covers after rooms where
  sorted := covers.sorted
  clock := covers.clock.trans later.now
  dated := covers.dated
  covers := by
    intro pk columns stored waits
    rcases later.waits _ pk columns stored waits with ⟨old, oldStored, oldWaits, same⟩ | entered
    · rw [← same]
      exact covers.covers pk old oldStored oldWaits
    · exact .inr (.inr (covers.clock.trans entered.1))

theorem rest (covers : run.Covers database (listed :: rooms))
    (gone : ∀ columns, database.rooms.lookup listed.pk = some columns →
      ¬Waits run.queue.uuid columns) :
    run.Covers database rooms where
  sorted := covers.sorted.of_cons
  clock := covers.clock
  dated := fun other member => covers.dated other (List.mem_cons_of_mem _ member)
  covers := by
    intro pk columns stored waits
    rcases covers.covers pk columns stored waits with passedOver | ⟨other, member, same, date⟩ | after
    · exact .inl passedOver
    · rcases List.mem_cons.mp member with rfl | later
      · subst same
        exact absurd waits (gone columns stored)
      · exact .inr (.inl ⟨other, later, same, date⟩)
    · exact .inr (.inr after)

theorem passOver (covers : run.Covers database (listed :: rooms)) :
    { run with passedOver := listed.pk :: run.passedOver }.Covers database rooms where
  sorted := covers.sorted.of_cons
  clock := covers.clock
  dated := fun other member => covers.dated other (List.mem_cons_of_mem _ member)
  covers := by
    intro pk columns stored waits
    rcases covers.covers pk columns stored waits with passedOver | ⟨other, member, same, date⟩ | after
    · exact .inl (List.mem_cons_of_mem _ passedOver)
    · rcases List.mem_cons.mp member with rfl | later
      · exact .inl (same ▸ List.mem_cons_self)
      · exact .inr (.inl ⟨other, later, same, date⟩)
    · exact .inr (.inr after)

theorem passedOver_of_waitingBefore (covers : run.Covers database (listed :: rooms)) {pk : Uuid}
    (waiting : pk ∈ database.waitingBefore run.queue.uuid listed.dateField) :
    pk ∈ run.passedOver := by
  rcases mem_waitingBefore_iff.mp waiting with ⟨columns, stored, waits, earlier⟩
  rcases covers.covers pk columns stored waits with passedOver | ⟨other, member, _, date⟩ | after
  · exact passedOver
  · -- the rooms that remain are not older than the one that is being visited
    have notOlder : listed.dateField ≤ other.dateField := by
      rcases List.mem_cons.mp member with rfl | later
      · exact le_rfl
      · exact (List.pairwise_cons.mp covers.sorted).1 other later
    omega
  · have dated := covers.dated listed List.mem_cons_self
    omega

end RouteRun.Covers

theorem listing_covers {database : Database} (dated : database.EntriesAreDated)
    (queue : QueueInstance) :
    let rooms := (database.roomsToRoute queue.uuid).map fun room =>
      ({ pk := room.1, dateField := entryDate room.2 } : ListedRoom)
    RouteRun.Covers { queue := queue, rooms := rooms, listedAt := database.now, passedOver := [] }
      database rooms := by
  intro rooms
  refine ⟨?_, le_rfl, ?_, ?_⟩
  · rw [List.pairwise_map]
    exact List.pairwise_insertionSort _ _
  · intro listed member
    rcases List.mem_map.mp member with ⟨room, routed, rfl⟩
    rcases mem_roomsToRoute_iff.mp routed with ⟨stored, waits⟩
    exact dated queue.uuid room.1 room.2 stored waits
  · intro pk columns stored waits
    have routed : (⟨pk, columns⟩ : (_ : Uuid) × RoomRecord) ∈
        database.roomsToRoute queue.uuid :=
      mem_roomsToRoute_iff.mpr ⟨stored, waits⟩
    exact .inr (.inl ⟨_, List.mem_map_of_mem routed, rfl, rfl⟩)

def Purpose.Covered (database : Database) : Purpose → Prop
  | .route run listed _ => run.Covers database (listed :: run.rooms)
  | .create _ _ _ => True

namespace RouterProgress

def Ordered (database : Database) : RouterProgress → Prop
  | .visiting run => run.Covers database run.rooms
  | .readingLimit purpose => purpose.Covered database
  | .picking purpose _ => purpose.Covered database
  | .breakingTie purpose _ => purpose.Covered database
  | .choosing purpose _ => purpose.Covered database
  | .readingCustomLimit purpose _ => purpose.Covered database
  | .readingQueueLimit purpose _ => purpose.Covered database
  | .counting purpose _ _ => purpose.Covered database
  | .checkingOnline run listed _ _ => run.Covers database (listed :: run.rooms)
  | .guarding run listed _ _ _ => run.Covers database (listed :: run.rooms)
  | .storing run listed _ _ _ => run.Covers database (listed :: run.rooms)
  | _ => True

section Continuations

variable {settings : RouterSettings} {database after : Database} {purpose : Purpose}
  {agent : UserEmail} {remaining : RouterProgress}

theorem covered_later (covered : purpose.Covered database) (later : Later database after) :
    purpose.Covered after := by
  cases purpose with
  | route run listed room => exact RouteRun.Covers.later covered later
  | create queue pk columns => trivial

theorem ordered_later {progress : RouterProgress} (later : Later database after)
    (ordered : progress.Ordered database) : progress.Ordered after := by
  cases progress with
  | visiting run => exact RouteRun.Covers.later ordered later
  | readingLimit purpose => exact covered_later ordered later
  | picking purpose limit => exact covered_later ordered later
  | breakingTie purpose agents => exact covered_later ordered later
  | choosing purpose agents => exact covered_later ordered later
  | readingCustomLimit purpose agent => exact covered_later ordered later
  | readingQueueLimit purpose agent => exact covered_later ordered later
  | counting purpose agent limit => exact covered_later ordered later
  | checkingOnline run listed room agent => exact RouteRun.Covers.later ordered later
  | guarding run listed room agent capacity => exact RouteRun.Covers.later ordered later
  | storing run listed room agent capacity => exact RouteRun.Covers.later ordered later
  | _ => trivial

theorem turnedDown_ordered (covered : purpose.Covered database) :
    (turnedDown purpose).Ordered database := by
  cases purpose with
  | route run listed room => exact RouteRun.Covers.passOver covered
  | create queue pk columns => trivial

theorem assigning_ordered (covered : purpose.Covered database)
    (capacity : Option AgentCapacityResult) :
    (assigning agent capacity purpose).Ordered database := by
  cases purpose with
  | route run listed room => exact covered
  | create queue pk columns => trivial

theorem rechecking_ordered (covered : purpose.Covered database) :
    (rechecking settings purpose agent).Ordered database := by
  rw [rechecking]
  split
  · exact covered
  · exact assigning_ordered covered none

theorem picked_ordered (covered : purpose.Covered database) :
    (picked settings agent purpose).Ordered database := by
  cases purpose with
  | route run listed room => exact covered
  | create queue pk columns => exact rechecking_ordered covered

theorem Continues.ordered {progress : RouterProgress} (dated : database.EntriesAreDated)
    (ordered : progress.Ordered database) (isRead : progress.IsRead)
    (continues : Continues settings database progress remaining) :
    remaining.Ordered database := by
  cases continues with
  | list => exact listing_covers dated _
  | skip isRooms stored assigned =>
      have covers : RouteRun.Covers _ database _ := ordered
      rw [isRooms] at covers
      have rest := covers.rest (by
        intro found isStored waits
        cases stored.symm.trans isStored
        exact assigned waits.2.2)
      exact ⟨rest.sorted, rest.clock, rest.dated, rest.covers⟩
  | load isRooms stored unassigned =>
      have covers : RouteRun.Covers _ database _ := ordered
      rw [isRooms] at covers
      exact ⟨covers.sorted, covers.clock, covers.dated, covers.covers⟩
  | pickOnly => exact picked_ordered ordered
  | choose _ => exact picked_ordered ordered
  | @findOnline run listed room _ =>
      have covered : (Purpose.route run listed room).Covered database := ordered
      exact rechecking_ordered covered
  | @findOffline run listed room _ =>
      have covered : (Purpose.route run listed room).Covered database := ordered
      exact turnedDown_ordered covered
  | receive _ _ => exact assigning_ordered ordered _
  | turnDown => exact turnedDown_ordered ordered
  | store => cases isRead
  | readLimit => exact ordered
  | tie => exact ordered
  | leaveTie => exact ordered
  | breakTie => exact ordered
  | readCustomLimit _ => exact ordered
  | useQueueLimit _ => exact ordered
  | readQueueLimit => exact ordered
  | guard _ => exact ordered
  | _ => trivial

end Continuations

section Statements

variable {settings : RouterSettings} {database after : Database}
  {rest : Option RouterProgress} {choice : RouterChoice}

theorem storeRoom_later (run : RouteRun) (listed : ListedRoom) (room : RoomInstance)
    (agent : UserEmail) :
    Later database (storeRoom settings database run listed room agent).1 :=
  .of_insert rfl rfl fun queue waits =>
    absurd waits (not_waits_assignedRoom queue database.now room agent)

theorem createRoom_later {queue : QueueInstance} {pk : Uuid} {columns : RoomRecord}
    {user : Option UserEmail}
    (advanced : createRoom settings database queue pk columns user = some (after, rest)) :
    Later database after ∧ rest = none ∧
      after.routingRecords = database.routingRecords := by
  cases user with
  | none =>
      rw [createRoom] at advanced
      split at advanced
      · cases advanced
        exact ⟨.of_insert rfl rfl fun _ _ => .inl (entryDate_createdRoom _ _ _), rfl, rfl⟩
      · cases advanced
  | some agent =>
      rw [createRoom] at advanced
      split at advanced
      · cases advanced
        refine ⟨.of_insert rfl rfl fun _ waits => ?_, rfl, rfl⟩
        have unassigned := waits.2.2
        rw [createdRoom_user] at unassigned
        cases unassigned
      · cases advanced

theorem advance_later {progress : RouterProgress}
    (advanced : progress.advance settings database choice = some (after, rest)) :
    Later database after := by
  cases progress with
  | storing run listed room agent capacity =>
      cases advanced
      exact storeRoom_later run listed room agent
  | creating queue pk columns user capacity => exact (createRoom_later advanced).1
  | _ =>
      rw [advance_of_isRead advanced trivial]
      exact .refl database

theorem advance_ordered {progress remaining : RouterProgress} (dated : database.EntriesAreDated)
    (ordered : progress.Ordered database)
    (advanced : progress.advance settings database choice = some (after, some remaining)) :
    remaining.Ordered after := by
  have continues := continues_of_advance advanced
  cases progress with
  | storing run listed room agent capacity =>
      have later : Later database (storeRoom settings database run listed room agent).1 :=
        storeRoom_later run listed room agent
      cases advanced
      apply (RouteRun.Covers.later ordered later).rest
      intro columns stored
      cases (AList.lookup_insert _).symm.trans stored
      exact not_waits_assignedRoom _ _ _ _
  | creating queue pk columns user capacity => cases (createRoom_later advanced).2.1
  | _ =>
      rw [advance_of_isRead advanced trivial]
      exact continues.ordered dated ordered trivial

def routing : RouterProgress → Option (RouteRun × ListedRoom)
  | .storing run listed _ _ _ => some (run, listed)
  | _ => none

/-- The run has passed over no room that still waits when it assigns a younger
one. -/
def OvertakesNone (database : Database) (progress : RouterProgress) (_ : RouterChoice) : Prop :=
  ∀ routed ∈ progress.routing,
    ∀ pk ∈ database.waitingBefore routed.1.queue.uuid routed.2.dateField,
      pk ∉ routed.1.passedOver

instance (database : Database) (progress : RouterProgress) (choice : RouterChoice) :
    Decidable (OvertakesNone database progress choice) :=
  inferInstanceAs (Decidable (∀ routed ∈ progress.routing,
    ∀ pk ∈ database.waitingBefore routed.1.queue.uuid routed.2.dateField,
      pk ∉ routed.1.passedOver))

theorem advance_routingRecords {progress : RouterProgress}
    (advanced : progress.advance settings database choice = some (after, rest)) :
    (progress.routing = none ∧ after.routingRecords = database.routingRecords) ∨
    ∃ run listed room agent capacity, progress = .storing run listed room agent capacity ∧
      after = (storeRoom settings database run listed room agent).1 := by
  cases progress with
  | storing run listed room agent capacity =>
      cases advanced
      exact .inr ⟨run, listed, room, agent, capacity, rfl, rfl⟩
  | creating queue pk columns user capacity =>
      exact .inl ⟨rfl, (createRoom_later advanced).2.2⟩
  | _ =>
      have unchanged := advance_of_isRead advanced trivial
      exact .inl ⟨rfl, congrArg routingRecords unchanged⟩

/-- A run assigns the room that it visits in order exactly when it has passed over
none that still waits. -/
theorem storeRoom_keepsOrder_iff {run : RouteRun} {listed : ListedRoom} (room : RoomInstance)
    (agent : UserEmail) (capacity : Option AgentCapacityResult)
    (covers : run.Covers database (listed :: run.rooms)) (keeps : database.KeepsOrder) :
    (storeRoom settings database run listed room agent).1.KeepsOrder ↔
      OvertakesNone database (.storing run listed room agent capacity) choice := by
  constructor
  · intro keepsAfter routed isRouted pk waiting
    cases isRouted
    have nobody : database.waitingBefore run.queue.uuid listed.dateField = [] :=
      keepsAfter _ List.mem_cons_self
    rw [nobody] at waiting
    cases waiting
  · intro overtakesNone record member
    rcases List.mem_cons.mp member with rfl | before
    · apply List.eq_nil_iff_forall_not_mem.mpr
      intro pk waiting
      exact overtakesNone _ rfl pk waiting (covers.passedOver_of_waitingBefore waiting)
    · exact keeps record before

end Statements

end RouterProgress

def orderOutline (Pid : Type) (settings : RouterSettings) : Outline (routerProgram settings)
    (Machine.anyStep : RouterPool Pid → RouterEvent Pid → Prop) where
  Invariant := EntriesAreDated
  Assertion := fun database progress => progress.Ordered database
  Guarantee := Later
  enter := fun _ => trivial
  advance := by
    intro pool pid choice progress after rest _ _ dated ordered advanced
    have later := RouterProgress.advance_later advanced
    refine ⟨dated.later later, later, ?_⟩
    intro remaining isRemaining
    subst isRemaining
    exact RouterProgress.advance_ordered dated ordered advanced
  surround := by
    intro pool event after _ dated surrounded
    have later := surround_later surrounded
    exact ⟨dated.later later, later⟩
  stable := fun later ordered => RouterProgress.ordered_later later ordered

theorem surround_routingRecords {database after : Database} {event : RouterSurrounding}
    (surrounded : database.surround event = some after) :
    after.routingRecords = database.routingRecords := by
  cases event with
  | writeRoom pk columns =>
      rw [Database.surround] at surrounded
      split at surrounded
      · cases surrounded
        rfl
      · cases surrounded
  | _ =>
      cases surrounded
      rfl

/-- In every run, rooms are routed first in, first out exactly as long as no router
assigns a room while one that it has passed over still waits. -/
theorem rooms_routed_in_order {Pid : Type} [DecidableEq Pid] (settings : RouterSettings)
    {database : Database} (dated : database.EntriesAreDated) (keeps : database.KeepsOrder)
    (events : List (RouterEvent Pid)) :
    (routerProgram settings).machine.Throughout (fun pool => pool.shared.KeepsOrder)
        (Pool.idle database) events ↔
      (routerProgram settings).machine.AllSteps
        (fun pool event => pool.OwnStep RouterProgress.OvertakesNone event)
        (Pool.idle database) events := by
  apply (orderOutline Pid settings).throughout_iff ?_ ?_ dated keeps
  · intro database progress choice after rest _ ordered keeps advanced
    rcases RouterProgress.advance_routingRecords advanced with
      ⟨routesNone, unchanged⟩ | ⟨run, listed, room, agent, capacity, rfl, rfl⟩
    · constructor
      · intro _ routed isRouted
        rw [routesNone] at isRouted
        cases isRouted
      · intro _ record member
        exact keeps record (unchanged ▸ member)
    · exact RouterProgress.storeRoom_keepsOrder_iff room agent capacity ordered keeps
  · intro database event after _ keeps surrounded record member
    exact keeps record (surround_routingRecords surrounded ▸ member)

/-! ## A room that is passed over -/

theorem twoAgents_dated (roomsLimit : Nat) : (twoAgents roomsLimit).EntriesAreDated := by
  intro queue pk columns stored
  cases stored

theorem twoAgents_keepsOrder (roomsLimit : Nat) : (twoAgents roomsLimit).KeepsOrder := by
  intro record member
  cases member

def pickForFirst : List (RouterEvent Unit) :=
  [.surround (.writeRoom 1 (enteringRoom 1 0)), .surround (.tick 10),
    .surround (.writeRoom 2 (enteringRoom 1 10)), .start () (.routeRooms 1)] ++
  List.replicate 8 (.advance () .goOn) ++ [.advance () (.pick "ana@example.com")]

/-- The agent goes offline before the double check, and the other agent gets the
second room. -/
def agentGoesOffline : List (RouterEvent Unit) :=
  .surround (.setPermissions
    [attendant 1 "ana@example.com" .offline, attendant 2 "bob@example.com" .online]) ::
  List.replicate 10 (.advance () .goOn)

theorem younger_room_overtakes :
    ¬ ∀ (settings : RouterSettings) (database : Database) (final : RouterPool Unit),
      database.EntriesAreDated → database.KeepsOrder →
      (routerProgram settings).machine.Reaches Machine.anyStep (Pool.idle database) final →
      ∀ record ∈ final.shared.routingRecords, record.overtaken = [] := by
  intro inOrder
  have routes : ((routerProgram exampleSettings).machine.run (Pool.idle (twoAgents 5))
      (pickForFirst ++ agentGoesOffline)).map (fun pool => pool.shared.routingRecords) =
      some [{ room := 2, overtaken := [1] }] := by
    decide
  rcases Option.map_eq_some_iff.mp routes with ⟨final, ran, records⟩
  have nobody := inOrder exampleSettings (twoAgents 5) final (twoAgents_dated 5)
    (twoAgents_keepsOrder 5) (.of_run ran) { room := 2, overtaken := [1] }
    (records ▸ List.mem_cons_self)
  cases nobody

/-- Both agents stay online, and the router assigns both rooms. -/
theorem two_rooms_routed_in_order :
    (routerProgram exampleSettings).machine.Throughout (fun pool => pool.shared.KeepsOrder)
      (Pool.idle (twoAgents 5))
      (pickForFirst ++ List.replicate 16 (.advance () .goOn)) :=
  (rooms_routed_in_order exampleSettings (twoAgents_dated 5) (twoAgents_keepsOrder 5)
    _).mpr (by decide)

end ChatsEngine.Queues
