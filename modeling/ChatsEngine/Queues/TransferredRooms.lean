import ChatsEngine.Foundation.Sparing
import ChatsEngine.Queues.Router

/-! # Rooms that are transferred while a queue is routed

`route_rooms` lists the rooms of its queue once, and loads each of them again when its turn
comes. Then it only looks at the user of the room, while a transfer may have moved the room
to another queue in between. Where none does, the rooms are still in the queue for which they
were listed. -/

namespace ChatsEngine.Queues

open ChatsEngine.Rooms

namespace Database

/-- A transfer stores a room in another queue. It may keep the date at which the room was
added to a queue. -/
def surroundTransfers (database : Database) : RouterSurrounding → Option Database
  | .writeRoom pk columns => some { database with rooms := database.rooms.insert pk columns }
  | event => database.surround event

end Database

def transferProgram (settings : RouterSettings) :
    Program Database RouterProgress RouterTask RouterChoice RouterSurrounding where
  enter := RouterProgress.enter
  advance := RouterProgress.advance settings
  surround := Database.surroundTransfers

/-- A room that is about to be stored with an agent was waiting in the queue when it was
loaded again. -/
def AssignsWaiting {Pid : Type} (pool : RouterPool Pid) : Prop :=
  ∀ pid run listed room agent capacity,
    pool.process pid = some (.storing run listed room agent capacity) →
      Waits run.queue.uuid room.values

namespace Database

variable (database : Database)

def WaitsElsewhere (queue pk : Uuid) : Prop :=
  ∃ columns ∈ database.rooms.lookup pk, columns .user = none ∧ columns .queue ≠ some queue

instance (queue pk : Uuid) : Decidable (database.WaitsElsewhere queue pk) := by
  unfold WaitsElsewhere
  infer_instance

end Database

def Purpose.run : Purpose → Option RouteRun
  | .route run _ _ => some run
  | .create _ _ _ => none

def Purpose.closedRoom : Purpose → Option Uuid
  | .route _ listed room => if room.values .isActive then none else some listed.pk
  | .create _ _ _ => none

namespace RouterProgress

def purpose : RouterProgress → Option Purpose
  | .readingLimit purpose => some purpose
  | .picking purpose _ => some purpose
  | .breakingTie purpose _ => some purpose
  | .choosing purpose _ => some purpose
  | .checkingOnline run listed room _ => some (.route run listed room)
  | .readingCustomLimit purpose _ => some purpose
  | .readingQueueLimit purpose _ => some purpose
  | .counting purpose _ _ => some purpose
  | .guarding run listed room _ _ => some (.route run listed room)
  | .storing run listed room _ _ => some (.route run listed room)
  | _ => none

def run : RouterProgress → Option RouteRun
  | .visiting run => some run
  | progress => progress.purpose.bind Purpose.run

/-- No room that a run has listed, and has still to load again, is transferred to another
queue without an agent. None that it has loaded when it was closed is opened again. -/
def SparesListed (before after : Database) (progress : RouterProgress) : Prop :=
  (∀ run ∈ progress.run, ∀ listed ∈ run.rooms,
    after.WaitsElsewhere run.queue.uuid listed.pk →
      before.WaitsElsewhere run.queue.uuid listed.pk) ∧
  ∀ own ∈ progress.purpose, ∀ pk ∈ own.closedRoom, before.IsClosed pk → after.IsClosed pk

instance (before after : Database) (progress : RouterProgress) :
    Decidable (progress.SparesListed before after) := by
  unfold SparesListed
  infer_instance

end RouterProgress

structure RouteRun.InQueue (database : Database) (run : RouteRun) : Prop where
  distinct : (run.rooms.map ListedRoom.pk).Nodup
  staying : ∀ listed ∈ run.rooms, ¬database.WaitsElsewhere run.queue.uuid listed.pk

/-- The room that has been loaded was waiting in the queue that is routed. It may have been
closed, but then it still is. -/
structure RouteRun.HasLoaded (database : Database) (run : RouteRun) (listed : ListedRoom)
    (room : RoomInstance) : Prop where
  others : run.InQueue database
  visited : listed.pk ∉ run.rooms.map ListedRoom.pk
  queue : room.values .queue = some run.queue.uuid
  user : room.values .user = none
  closed : room.values .isActive = false → database.IsClosed listed.pk

def Purpose.InQueue (database : Database) : Purpose → Prop
  | .route run listed room => run.HasLoaded database listed room
  | .create _ _ _ => True

namespace RouteRun.InQueue

variable {database after : Database} {run : RouteRun} {listed : ListedRoom}
  {rooms : List ListedRoom}

theorem listing (database : Database) (queue : QueueInstance) (now : Nat)
    (passedOver : List Uuid) :
    RouteRun.InQueue database
      { queue := queue
        rooms := (database.roomsToRoute queue.uuid).map fun room =>
          { pk := room.1, dateField := entryDate room.2 }
        listedAt := now
        passedOver := passedOver } where
  distinct := by
    rw [List.map_map]
    exact database.nodup_roomsToRoute queue.uuid
  staying := by
    intro listed isListed elsewhere
    rcases List.mem_map.mp isListed with ⟨room, routed, rfl⟩
    rcases Database.mem_roomsToRoute_iff.mp routed with ⟨stored, waits⟩
    rcases elsewhere with ⟨columns, found, _, otherQueue⟩
    cases stored.symm.trans found
    exact otherQueue waits.1

theorem tail (inQueue : run.InQueue database) (isRooms : run.rooms = listed :: rooms) :
    RouteRun.InQueue database { run with rooms } := by
  have distinct := inQueue.distinct
  rw [isRooms, List.map_cons, List.nodup_cons] at distinct
  refine ⟨distinct.2, ?_⟩
  intro other isOther
  apply inQueue.staying other
  rw [isRooms]
  exact List.mem_cons_of_mem listed isOther

theorem hasLoaded {columns : RoomRecord} (inQueue : run.InQueue database)
    (isRooms : run.rooms = listed :: rooms)
    (stored : database.rooms.lookup listed.pk = some columns) (noUser : columns .user = none) :
    RouteRun.HasLoaded database { run with rooms } listed (.load columns) where
  others := inQueue.tail isRooms
  visited := by
    have distinct := inQueue.distinct
    rw [isRooms, List.map_cons, List.nodup_cons] at distinct
    exact distinct.1
  queue := by
    have isListed : listed ∈ run.rooms := isRooms ▸ List.mem_cons_self
    by_contra otherQueue
    exact inQueue.staying listed isListed ⟨columns, stored, noUser, otherQueue⟩
  user := noUser
  closed := fun closed => ⟨columns, stored, closed⟩

theorem of_lookup (inQueue : run.InQueue database) {pk : Uuid}
    (visited : pk ∉ run.rooms.map ListedRoom.pk)
    (others : ∀ other, other ≠ pk → after.rooms.lookup other = database.rooms.lookup other) :
    run.InQueue after where
  distinct := inQueue.distinct
  staying := by
    intro listed isListed elsewhere
    have different : listed.pk ≠ pk := fun same => visited (same ▸ List.mem_map_of_mem isListed)
    apply inQueue.staying listed isListed
    rw [Database.WaitsElsewhere, others listed.pk different] at elsewhere
    exact elsewhere

end RouteRun.InQueue

namespace RouterProgress

variable {settings : RouterSettings} {database after : Database}
  {progress remaining : RouterProgress} {purpose own : Purpose} {agent : UserEmail}
  {choice : RouterChoice} {rest : Option RouterProgress}

inductive Begins (database : Database) (progress : RouterProgress) : Purpose → Prop
  | load {run rooms listed columns} :
      progress = .visiting run → run.rooms = listed :: rooms →
      database.rooms.lookup listed.pk = some columns → columns .user = none →
      Begins database progress (.route { run with rooms } listed (.load columns))
  | create (queue : QueueInstance) (pk : Uuid) (columns : RoomRecord) :
      Begins database progress (.create queue pk columns)

theorem purpose_assigning {capacity : Option AgentCapacityResult}
    (isOwn : own ∈ (assigning agent capacity purpose).purpose) : own = purpose := by
  cases purpose with
  | route run listed room =>
      cases isOwn
      rfl
  | create queue pk columns => cases isOwn

theorem purpose_rechecking (isOwn : own ∈ (rechecking settings purpose agent).purpose) :
    own = purpose := by
  rw [rechecking] at isOwn
  split at isOwn
  · cases isOwn
    rfl
  · exact purpose_assigning isOwn

theorem purpose_picked (isOwn : own ∈ (picked settings agent purpose).purpose) :
    own = purpose := by
  cases purpose with
  | route run listed room =>
      cases isOwn
      rfl
  | create queue pk columns => exact purpose_rechecking isOwn

theorem purpose_turnedDown : (turnedDown purpose).purpose = none := by
  cases purpose <;> rfl

theorem purpose_of_advance
    (advanced : progress.advance settings database choice = some (after, some remaining))
    (isOwn : own ∈ remaining.purpose) :
    own ∈ progress.purpose ∨ Begins database progress own := by
  cases continues_of_advance advanced with
  | load isRooms stored noUser =>
      cases isOwn
      exact .inr (.load rfl isRooms stored noUser)
  | resolve _ =>
      cases isOwn
      exact .inr (.create _ _ _)
  | pickOnly => exact .inl (congrArg some (purpose_picked isOwn).symm)
  | choose _ => exact .inl (congrArg some (purpose_picked isOwn).symm)
  | findOnline => exact .inl (congrArg some (purpose_rechecking isOwn).symm)
  | findOffline =>
      rw [purpose_turnedDown] at isOwn
      cases isOwn
  | receive _ _ => exact .inl (congrArg some (purpose_assigning isOwn).symm)
  | turnDown =>
      rw [purpose_turnedDown] at isOwn
      cases isOwn
  | readLimit => exact .inl isOwn
  | tie => exact .inl isOwn
  | leaveTie => exact .inl isOwn
  | breakTie => exact .inl isOwn
  | readCustomLimit _ => exact .inl isOwn
  | useQueueLimit _ => exact .inl isOwn
  | readQueueLimit => exact .inl isOwn
  | guard _ => exact .inl isOwn
  | _ => cases isOwn

inductive Visits (database : Database) (progress : RouterProgress) : RouteRun → Prop
  | listed {queue : QueueInstance} : progress = .listing queue →
      Visits database progress
        { queue := queue
          rooms := (database.roomsToRoute queue.uuid).map fun room =>
            { pk := room.1, dateField := entryDate room.2 }
          listedAt := database.now
          passedOver := [] }
  | skipped {run : RouteRun} {listed : ListedRoom} {rooms : List ListedRoom} :
      progress = .visiting run → run.rooms = listed :: rooms →
      Visits database progress { run with rooms }
  | left {run : RouteRun} {listed : ListedRoom} {room : RoomInstance} (passedOver : List Uuid) :
      .route run listed room ∈ progress.purpose →
      Visits database progress { run with passedOver }

theorem visits_of_turnedDown {run : RouteRun} (isPurpose : purpose ∈ progress.purpose)
    (same : turnedDown purpose = .visiting run) : Visits database progress run := by
  cases purpose with
  | route run listed room =>
      cases same
      exact .left _ isPurpose
  | create queue pk columns => cases same

theorem assigning_ne_visiting {run : RouteRun} {capacity : Option AgentCapacityResult} :
    assigning agent capacity purpose ≠ .visiting run := by
  cases purpose <;> simp [assigning]

theorem rechecking_ne_visiting {run : RouteRun} :
    rechecking settings purpose agent ≠ .visiting run := by
  rw [rechecking]
  split
  · simp
  · exact assigning_ne_visiting

theorem picked_ne_visiting {run : RouteRun} : picked settings agent purpose ≠ .visiting run := by
  cases purpose with
  | route run listed room => simp [picked]
  | create queue pk columns => exact rechecking_ne_visiting

theorem visits_of_advance {run : RouteRun}
    (advanced : progress.advance settings database choice = some (after, some (.visiting run))) :
    Visits database progress run := by
  generalize isVisiting : RouterProgress.visiting run = next at advanced
  cases continues_of_advance advanced with
  | list =>
      cases isVisiting
      exact .listed rfl
  | skip isRooms _ _ =>
      cases isVisiting
      exact .skipped rfl isRooms
  | pickOnly => exact absurd isVisiting.symm picked_ne_visiting
  | choose _ => exact absurd isVisiting.symm picked_ne_visiting
  | findOnline => exact absurd isVisiting.symm rechecking_ne_visiting
  | findOffline => exact visits_of_turnedDown rfl isVisiting.symm
  | receive _ _ => exact absurd isVisiting.symm assigning_ne_visiting
  | turnDown => exact visits_of_turnedDown rfl isVisiting.symm
  | store =>
      cases isVisiting
      exact .left _ rfl
  | _ => cases isVisiting

theorem assigning_ne_storing {run : RouteRun} {listed : ListedRoom} {room : RoomInstance}
    {picked : UserEmail} {rechecked capacity : Option AgentCapacityResult} :
    assigning picked rechecked purpose ≠ .storing run listed room agent capacity := by
  cases purpose <;> simp [assigning]

theorem rechecking_ne_storing {run : RouteRun} {listed : ListedRoom} {room : RoomInstance}
    {picked : UserEmail} {capacity : Option AgentCapacityResult} :
    rechecking settings purpose picked ≠ .storing run listed room agent capacity := by
  rw [rechecking]
  split
  · simp
  · exact assigning_ne_storing

theorem picked_ne_storing {run : RouteRun} {listed : ListedRoom} {room : RoomInstance}
    {found : UserEmail} {capacity : Option AgentCapacityResult} :
    picked settings found purpose ≠ .storing run listed room agent capacity := by
  cases purpose with
  | route run listed room => simp [picked]
  | create queue pk columns => exact rechecking_ne_storing

theorem turnedDown_ne_storing {run : RouteRun} {listed : ListedRoom} {room : RoomInstance}
    {capacity : Option AgentCapacityResult} :
    turnedDown purpose ≠ .storing run listed room agent capacity := by
  cases purpose <;> simp [turnedDown]

theorem guarding_of_storing {run : RouteRun} {listed : ListedRoom} {room : RoomInstance}
    {capacity : Option AgentCapacityResult}
    (advanced : progress.advance settings database choice =
      some (after, some (.storing run listed room agent capacity))) :
    progress = .guarding run listed room agent capacity ∧ ¬database.IsClosed listed.pk := by
  generalize isStoring : RouterProgress.storing run listed room agent capacity = next at advanced
  cases continues_of_advance advanced with
  | guard isOpen =>
      cases isStoring
      exact ⟨rfl, isOpen⟩
  | pickOnly => exact absurd isStoring.symm picked_ne_storing
  | choose _ => exact absurd isStoring.symm picked_ne_storing
  | findOnline => exact absurd isStoring.symm rechecking_ne_storing
  | findOffline => exact absurd isStoring.symm turnedDown_ne_storing
  | receive _ _ => exact absurd isStoring.symm assigning_ne_storing
  | turnDown => exact absurd isStoring.symm turnedDown_ne_storing
  | _ => cases isStoring

theorem run_of_purpose {run : RouteRun} {listed : ListedRoom} {room : RoomInstance}
    (isOwn : .route run listed room ∈ progress.purpose) : run ∈ progress.run := by
  cases progress with
  | visiting run => cases isOwn
  | _ => exact congrArg (Option.bind · Purpose.run) isOwn

structure KnowsRooms (database : Database) (progress : RouterProgress) : Prop where
  visiting : ∀ run, progress = .visiting run → run.InQueue database
  picking : ∀ own ∈ progress.purpose, own.InQueue database
  storing : ∀ run listed room agent capacity,
    progress = .storing run listed room agent capacity → room.values .isActive = true

theorem Visits.inQueue {run : RouteRun} (visits : Visits database progress run)
    (knows : progress.KnowsRooms database) : run.InQueue database := by
  cases visits with
  | listed _ => exact .listing database _ _ _
  | skipped isVisiting isRooms => exact (knows.visiting _ isVisiting).tail isRooms
  | left passedOver isPurpose =>
      have inQueue := (knows.picking _ isPurpose).others
      exact ⟨inQueue.distinct, inQueue.staying⟩

theorem Begins.inQueue (begins : Begins database progress own)
    (knows : progress.KnowsRooms database) : own.InQueue database := by
  cases begins with
  | load isVisiting isRooms stored noUser =>
      exact (knows.visiting _ isVisiting).hasLoaded isRooms stored noUser
  | create queue pk columns => trivial

theorem KnowsRooms.read (knows : progress.KnowsRooms database)
    (advanced : progress.advance settings database choice = some (database, some remaining)) :
    remaining.KnowsRooms database where
  visiting := by
    intro run same
    subst same
    exact (visits_of_advance advanced).inQueue knows
  picking := by
    intro own isOwn
    rcases purpose_of_advance advanced isOwn with kept | begins
    · exact knows.picking own kept
    · exact begins.inQueue knows
  storing := by
    intro run listed room agent capacity same
    subst same
    rcases guarding_of_storing advanced with ⟨rfl, isOpen⟩
    by_contra closed
    rw [Bool.not_eq_true] at closed
    exact isOpen ((knows.picking _ rfl).closed closed)

theorem KnowsRooms.advance (knows : progress.KnowsRooms database)
    (advanced : progress.advance settings database choice = some (after, some remaining)) :
    remaining.KnowsRooms after := by
  by_cases isRead : progress.IsRead
  · cases advance_of_isRead advanced isRead
    exact knows.read advanced
  · cases progress with
    | storing run listed room agent capacity =>
        have loaded := knows.picking (.route run listed room) rfl
        cases advanced
        refine ⟨?_, fun _ impossible => (by cases impossible),
          fun _ _ _ _ _ impossible => (by cases impossible)⟩
        intro other same
        cases same
        apply loaded.others.of_lookup loaded.visited
        intro pk different
        exact AList.lookup_insert_ne different
    | creating queue pk columns user capacity => cases createRoom_ends advanced
    | _ => exact absurd trivial isRead

theorem SparesListed.knowsRooms (spares : progress.SparesListed database after)
    (knows : progress.KnowsRooms database) : progress.KnowsRooms after := by
  have others : ∀ run ∈ progress.run, run.InQueue database → run.InQueue after := by
    intro run isRun inQueue
    refine ⟨inQueue.distinct, ?_⟩
    intro listed isListed elsewhere
    exact inQueue.staying listed isListed (spares.1 run isRun listed isListed elsewhere)
  refine ⟨?_, ?_, knows.storing⟩
  · intro run same
    subst same
    exact others run rfl (knows.visiting run rfl)
  · intro own isOwn
    cases own with
    | create queue pk columns => trivial
    | route run listed room =>
        have loaded := knows.picking _ isOwn
        refine ⟨others run ?_ loaded.others, loaded.visited, loaded.queue, loaded.user, ?_⟩
        · exact run_of_purpose isOwn
        · intro closed
          refine spares.2 _ isOwn listed.pk ?_ (loaded.closed closed)
          rw [Purpose.closedRoom, closed]
          rfl

end RouterProgress

section Run

variable (Pid : Type) (settings : RouterSettings)

/-- Nobody moves a room that is listed, nor opens one again that was loaded when it was
closed. -/
@[reducible] def ListedStay (pool : RouterPool Pid) (event : RouterEvent Pid) : Prop :=
  pool.SparesOthers (transferProgram settings) RouterProgress.SparesListed event

def transferOutline :
    SparingOutline (transferProgram settings) RouterProgress.SparesListed fun _ _ _ => True where
  Invariant := fun _ => True
  Assertion := fun database progress => progress.KnowsRooms database
  Guarantee := fun _ _ => True
  enter := by
    intro database task _
    exact ⟨fun _ impossible => (by cases impossible), fun _ impossible => (by cases impossible),
      fun _ _ _ _ _ impossible => (by cases impossible)⟩
  advance := by
    intro database progress choice after rest _ _ knows advanced
    refine ⟨trivial, trivial, ?_⟩
    intro remaining same
    subst same
    exact knows.advance advanced
  surround := fun _ _ => ⟨trivial, trivial⟩
  stable := fun _ spares knows => spares.knowsRooms knows

variable {Pid} [DecidableEq Pid]

/-- A room is only assigned when it was waiting in the queue as it was loaded again, if no
listed room is transferred to another queue before that, and none that was closed then is
opened again. -/
theorem assigned_rooms_wait_in_queue (tables : Database) (final : RouterPool Pid)
    (reaches : (transferProgram settings).machine.Reaches (ListedStay Pid settings)
      (Pool.idle tables) final) : AssignsWaiting final := by
  intro pid run listed room agent capacity running
  have spared := reaches.mono fun _ _ stay => stay.allowed
  have knows := ((transferOutline settings).holds_of_reaches spared trivial).locals pid _ running
  have loaded := knows.picking (.route run listed room) rfl
  exact ⟨loaded.queue, knows.storing run listed room agent capacity rfl, loaded.user⟩

end Run

/-! ## A room that is transferred while it is listed -/

def listedRoom (meanwhile : List (RouterEvent Unit)) : List (RouterEvent Unit) :=
  [.surround (.writeRoom 1 (enteringRoom 1 0)), .start () (.routeRooms 1)] ++
  List.replicate 5 (.advance () .goOn) ++ meanwhile ++ List.replicate 3 (.advance () .goOn) ++
  [.advance () (.pick "ana@example.com")] ++ List.replicate 5 (.advance () .goOn)

def RouterProgress.assignedQueue : RouterProgress → Option (Uuid × Option Uuid)
  | .storing run _ room _ _ => some (run.queue.uuid, room.values .queue)
  | _ => none

/-- An agent of the first queue gets the room that waits in the second one. -/
theorem assigned_from_other_queue :
    ¬ ∀ (settings : RouterSettings) (tables : Database) (final : RouterPool Unit),
      (transferProgram settings).machine.Reaches Machine.anyStep (Pool.idle tables) final →
      AssignsWaiting final := by
  intro waits
  have assigns : ((transferProgram exampleSettings).machine.run (Pool.idle (twoAgents 5))
      (listedRoom [.surround (.writeRoom 1 (enteringRoom 2 0))])).map
      (fun pool => (pool.process ()).bind RouterProgress.assignedQueue) =
      some (some (1, some 2)) := by
    decide
  rcases Option.map_eq_some_iff.mp assigns with ⟨final, ran, observed⟩
  rcases Option.bind_eq_some_iff.mp observed with ⟨progress, running, queues⟩
  cases progress with
  | storing run listed room agent capacity =>
      have inQueue := waits exampleSettings (twoAgents 5) final (.of_run ran) () run listed room
        agent capacity running
      rcases Prod.mk.inj (Option.some.inj queues) with ⟨routed, transferred⟩
      rw [Waits, routed, transferred] at inQueue
      exact absurd inQueue.1 (by decide)
  | _ => cases queues

/-- The room stays in its queue, and an agent of the queue gets it. -/
theorem assigned_from_own_queue :
    ∃ final, (transferProgram exampleSettings).machine.runMeeting (ListedStay Unit exampleSettings)
        (Pool.idle (twoAgents 5)) (listedRoom []) = some final ∧ AssignsWaiting final := by
  have assigns : ((transferProgram exampleSettings).machine.runMeeting (ListedStay Unit exampleSettings)
      (Pool.idle (twoAgents 5)) (listedRoom [])).map
      (fun pool => (pool.process ()).bind RouterProgress.assignedQueue) =
      some (some (1, some 1)) := by
    decide
  rcases Option.map_eq_some_iff.mp assigns with ⟨final, ran, _⟩
  exact ⟨final, ran,
    assigned_rooms_wait_in_queue exampleSettings (twoAgents 5) final (.of_runMeeting ran)⟩

end ChatsEngine.Queues
