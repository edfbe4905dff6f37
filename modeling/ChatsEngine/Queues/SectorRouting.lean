import ChatsEngine.Queues.Router

/-! # Routing all queues of a sector

`route_sector_rooms` routes one queue after the other, and goes on with the next
queue when a `ValueError` ends a queue. `Room.save` raises another exception for a
room that has been closed, which ends the task with the rooms and the queues that
are left. -/

namespace ChatsEngine.Queues

open ChatsEngine.Rooms

/-- Why `route_rooms` ends. -/
inductive Ending
  /-- `ValueError`: the project does not use priority routing. -/
  | priorityRoutingDisabled
  | queueNotFound
  | noRooms
  | noAgents
  | visitedAll
  /-- `refresh_from_db` raises, as the room does not exist any more. -/
  | roomNotFound
  /-- `Room.save` raises "Closed rooms can't receive updates". -/
  | roomClosed
deriving DecidableEq, Repr

/-- The exceptions that end the task, not only the queue. -/
def Ending.endsTask : Ending → Bool
  | .roomNotFound | .roomClosed => true
  | _ => false

/-- The end of `route_rooms` for a queue, with the listed rooms that have not been
visited and still wait, and the queues that have not been routed. -/
structure QueueEnd where
  queue : Uuid
  ending : Ending
  waiting : List Uuid
  queues : List Uuid
deriving DecidableEq, Repr

namespace Database

def StillWaits (database : Database) (queue pk : Uuid) : Prop :=
  ∃ columns ∈ database.rooms.lookup pk, Waits queue columns

instance (database : Database) (queue : Uuid) : DecidablePred (database.StillWaits queue) :=
  fun pk => inferInstanceAs (Decidable (∃ columns ∈ database.rooms.lookup pk, _))

def stillWaiting (database : Database) (queue : Uuid) (rooms : List ListedRoom) : List Uuid :=
  (rooms.map ListedRoom.pk).filter (database.StillWaits queue)

end Database

namespace RouterProgress

/-- Why `route_rooms` ends with this statement, if it does. -/
def ending (settings : RouterSettings) (database : Database) : RouterProgress → Option Ending
  | .loadingQueue (.routeRooms queue) =>
      if database.loadQueue queue = none then some .queueNotFound else none
  | .findingRooms queue =>
      if database.roomsToRoute queue.uuid = [] then some .noRooms else none
  | .findingAgents queue limit =>
      if database.availableAgents settings queue limit = [] then some .noAgents else none
  | .visiting run =>
      match run.rooms with
      | [] => some .visitedAll
      | listed :: _ =>
          if database.rooms.lookup listed.pk = none then some .roomNotFound else none
  | .picking (.route run _ _) limit =>
      if Database.least (fun agent => database.load settings agent run.queue.sector)
          (database.availableAgents settings run.queue limit) = [] then some .noAgents
      else none
  | .guarding _ listed _ _ _ => if database.IsClosed listed.pk then some .roomClosed else none
  | _ => none

def unvisited : RouterProgress → List ListedRoom
  | .visiting run => run.rooms
  | .readingLimit (.route run _ _) => run.rooms
  | .picking (.route run _ _) _ => run.rooms
  | .breakingTie (.route run _ _) _ => run.rooms
  | .choosing (.route run _ _) _ => run.rooms
  | .checkingOnline run _ _ _ => run.rooms
  | .readingCustomLimit (.route run _ _) _ => run.rooms
  | .readingQueueLimit (.route run _ _) _ => run.rooms
  | .counting (.route run _ _) _ _ => run.rooms
  | .guarding run _ _ _ _ => run.rooms
  | .storing run _ _ _ _ => run.rooms
  | _ => []

end RouterProgress

/-- The tables, the queues that exist, and a record of how routing a queue has
ended. -/
structure SectorDatabase where
  tables : Database
  queues : List Uuid
  ends : List QueueEnd

namespace SectorDatabase

def initial (tables : Database) (queues : List Uuid) : SectorDatabase where
  tables := tables
  queues := queues
  ends := []

/-- `Queue.objects.filter(sector=sector)`. -/
def queuesOf (database : SectorDatabase) (sector : Uuid) : List Uuid :=
  database.queues.filter fun queue => database.tables.sectorOf queue = some sector

def ended (database : SectorDatabase) (queueEnd : QueueEnd) : SectorDatabase :=
  { database with ends := queueEnd :: database.ends }

end SectorDatabase

inductive SectorTask
  | routeQueueRooms (queue : Uuid)
  | routeSectorRooms (sector : Uuid)

inductive SectorProgress
  | findingQueues (sector : Uuid)
  | nextQueue (queues : List Uuid)
  | routing (queue : Uuid) (progress : RouterProgress) (queues : List Uuid)

inductive SectorSurrounding
  | router (event : RouterSurrounding)
  | setQueues (queues : List Uuid)

namespace SectorProgress

def leave (database : SectorDatabase) (queueEnd : QueueEnd) :
    SectorDatabase × Option SectorProgress :=
  (database.ended queueEnd,
    if queueEnd.ending.endsTask then none else some (.nextQueue queueEnd.queues))

def advance (settings : RouterSettings) (useQueuePriorityRouting : Bool)
    (database : SectorDatabase) :
    SectorProgress → RouterChoice → Option (SectorDatabase × Option SectorProgress)
  | .findingQueues sector, _ => some (database, some (.nextQueue (database.queuesOf sector)))
  | .nextQueue [], _ => some (database, none)
  | .nextQueue (queue :: queues), _ =>
      if useQueuePriorityRouting then
        some (database, some (.routing queue (.loadingQueue (.routeRooms queue)) queues))
      else
        some (leave database
          { queue := queue, ending := .priorityRoutingDisabled, waiting := []
            queues := queues })
  | .routing queue progress queues, choice =>
      match progress.ending settings database.tables with
      | some ending =>
          some (leave database
            { queue := queue
              ending := ending
              waiting := database.tables.stillWaiting queue progress.unvisited
              queues := queues })
      | none =>
          match progress.advance settings database.tables choice with
          | none => none
          | some (tables, rest) =>
              some ({ database with tables := tables },
                rest.map fun remaining => .routing queue remaining queues)

end SectorProgress

namespace SectorDatabase

def surround (database : SectorDatabase) : SectorSurrounding → Option SectorDatabase
  | .router event =>
      (database.tables.surround event).map fun tables => { database with tables := tables }
  | .setQueues queues => some { database with queues := queues }

end SectorDatabase

def sectorProgram (settings : RouterSettings) (useQueuePriorityRouting : Bool) :
    Program SectorDatabase SectorProgress SectorTask RouterChoice SectorSurrounding where
  enter
    | .routeQueueRooms queue => .nextQueue [queue]
    | .routeSectorRooms sector => .findingQueues sector
  advance := SectorProgress.advance settings useQueuePriorityRouting
  surround := SectorDatabase.surround

abbrev SectorPool (Pid : Type) := Pool Pid SectorDatabase SectorProgress

abbrev SectorEvent (Pid : Type) := PoolEvent Pid SectorTask RouterChoice SectorSurrounding

/-- Whether an agent is picked in the loop of `route_rooms`. -/
def Purpose.Routes : Purpose → Prop
  | .route _ _ _ => True
  | .create _ _ _ => False

namespace RouterProgress

variable {settings : RouterSettings} {database after : Database}
  {progress remaining : RouterProgress} {purpose : Purpose} {agent : UserEmail}
  {choice : RouterChoice} {rest : Option RouterProgress}

/-- The statements of `route_rooms`. -/
def Routes : RouterProgress → Prop
  | .loadingQueue (.routeRooms _) => True
  | .loadingQueue (.createRoom _ _ _) => False
  | .resolving _ _ _ => False
  | .creating _ _ _ _ _ => False
  | .readingLimit purpose => purpose.Routes
  | .picking purpose _ => purpose.Routes
  | .breakingTie purpose _ => purpose.Routes
  | .choosing purpose _ => purpose.Routes
  | .readingCustomLimit purpose _ => purpose.Routes
  | .readingQueueLimit purpose _ => purpose.Routes
  | .counting purpose _ _ => purpose.Routes
  | _ => True

/-- A statement of `route_rooms` that goes on with another one. -/
def GoesOn (rest : Option RouterProgress) : Prop :=
  ∃ remaining, rest = some remaining ∧ remaining.Routes

theorem picked_routes (routes : purpose.Routes) :
    (picked settings agent purpose).Routes := by
  cases purpose with
  | route run listed room => trivial
  | create queue pk columns => cases routes

theorem assigning_routes (routes : purpose.Routes) (capacity : Option AgentCapacityResult) :
    (assigning agent capacity purpose).Routes := by
  cases purpose with
  | route run listed room => trivial
  | create queue pk columns => cases routes

theorem rechecking_routes (routes : purpose.Routes) :
    (rechecking settings purpose agent).Routes := by
  rw [rechecking]
  split
  · exact routes
  · exact assigning_routes routes none

theorem turnedDown_routes (routes : purpose.Routes) : (turnedDown purpose).Routes := by
  cases purpose with
  | route run listed room => trivial
  | create queue pk columns => cases routes

theorem Continues.routes (routes : progress.Routes)
    (continues : Continues settings database progress remaining) : remaining.Routes := by
  cases continues with
  | create _ => cases routes
  | resolve _ => cases routes
  | queueUp _ => cases routes
  | pickNone => cases routes
  | pickOnly => exact picked_routes routes
  | choose _ => exact picked_routes routes
  | findOnline => exact rechecking_routes trivial
  | @findOffline run listed room _ =>
      have isRoute : (Purpose.route run listed room).Routes := trivial
      exact turnedDown_routes isRoute
  | receive _ _ => exact assigning_routes routes _
  | turnDown => exact turnedDown_routes routes
  | readLimit => exact routes
  | tie => exact routes
  | leaveTie => exact routes
  | breakTie => exact routes
  | readCustomLimit _ => exact routes
  | useQueueLimit _ => exact routes
  | readQueueLimit => exact routes
  | _ => trivial

theorem ending_ne_none (routes : progress.Routes)
    (ends : progress.advance settings database choice = some (after, none)) :
    progress.ending settings database ≠ none := by
  have nothingNext {rest : Option RouterProgress}
      (next : (some (database, rest) : Option (Database × Option RouterProgress)) =
        some (after, none)) : rest = none := congrArg Prod.snd (Option.some.inj next)
  cases progress with
  | loadingQueue task =>
      cases task with
      | createRoom queue pk columns => cases routes
      | routeRooms queue => simp [ending, Option.map_eq_none_iff.mp (nothingNext ends)]
  | findingRooms queue =>
      have empty : database.roomsToRoute queue.uuid = [] := by
        by_contra found
        have next := nothingNext ends
        rw [if_neg found] at next
        cases next
      simp [ending, empty]
  | findingAgents queue limit =>
      have empty : database.availableAgents settings queue limit = [] := by
        by_contra found
        have next := nothingNext ends
        rw [if_neg found] at next
        cases next
      simp [ending, empty]
  | visiting run =>
      have next := nothingNext ends
      rw [visit] at next
      rw [ending.eq_def]
      split at next
      · next isRooms => simp [isRooms]
      · next listed rooms isRooms =>
          split at next
          · next missing => simp [isRooms, missing]
          · split at next <;> cases next
  | picking purpose limit =>
      cases purpose with
      | create queue pk columns => cases routes
      | route run listed room =>
          have empty := eq_nil_of_pickFrom (nothingNext ends)
          simp only [Purpose.queue] at empty
          simp [ending, empty]
  | choosing purpose agents =>
      cases choice with
      | goOn => cases ends
      | pick agent =>
          rw [advance] at ends
          split at ends <;> cases ends
  | guarding run listed room agent capacity =>
      have closed : database.IsClosed listed.pk := by
        by_contra notClosed
        have next := nothingNext ends
        rw [if_neg notClosed] at next
        cases next
      simp [ending, closed]
  | resolving queue pk columns => cases routes
  | creating queue pk columns user capacity => cases routes
  | _ => cases ends

theorem advance_goesOn (routes : progress.Routes)
    (goesOn : progress.ending settings database = none)
    (advanced : progress.advance settings database choice = some (after, rest)) :
    GoesOn rest := by
  cases rest with
  | none => exact absurd goesOn (ending_ne_none routes advanced)
  | some remaining => exact ⟨remaining, rfl, (continues_of_advance advanced).routes routes⟩

theorem advance_of_ending {ending : Ending}
    (ends : progress.ending settings database = some ending) :
    progress.advance settings database choice = some (database, none) := by
  cases progress with
  | loadingQueue task =>
      cases task with
      | createRoom queue pk columns => cases ends
      | routeRooms queue =>
          rw [RouterProgress.ending] at ends
          split at ends
          · next missing => simp [advance, missing]
          · cases ends
  | findingRooms queue =>
      rw [RouterProgress.ending] at ends
      split at ends
      · next empty => simp [advance, empty]
      · cases ends
  | findingAgents queue limit =>
      rw [RouterProgress.ending] at ends
      split at ends
      · next empty => simp [advance, empty]
      · cases ends
  | visiting run =>
      rw [RouterProgress.ending.eq_def] at ends
      cases listed : run.rooms with
      | nil => simp [advance, visit, listed]
      | cons next rooms =>
          cases stored : database.rooms.lookup next.pk with
          | none => simp [advance, visit, listed, stored]
          | some columns => simp [listed, stored] at ends
  | picking purpose limit =>
      cases purpose with
      | create queue pk columns => cases ends
      | route run listed room =>
          rw [RouterProgress.ending] at ends
          split at ends
          · next empty =>
              have noAgents : pickFrom settings (.route run listed room) [] = none := rfl
              rw [advance, Purpose.queue, empty, noAgents]
          · cases ends
  | guarding run listed room agent capacity =>
      rw [RouterProgress.ending] at ends
      split at ends
      · next closed => exact congrArg some (congrArg (Prod.mk database) (if_pos closed))
      · cases ends
  | _ => cases ends

theorem ending_of_isClosed (settings : RouterSettings) (run : RouteRun) {listed : ListedRoom}
    (room : RoomInstance) (agent : UserEmail) (capacity : Option AgentCapacityResult)
    (closed : database.IsClosed listed.pk) :
    (guarding run listed room agent capacity).ending settings database = some .roomClosed := by
  rw [ending, if_pos closed]

theorem closed_of_ending (ends : progress.ending settings database = some .roomClosed) :
    ∃ run listed room agent capacity,
      progress = .guarding run listed room agent capacity ∧ database.IsClosed listed.pk := by
  cases progress with
  | guarding run listed room agent capacity =>
      rw [ending] at ends
      split at ends
      · next closed => exact ⟨run, listed, room, agent, capacity, rfl, closed⟩
      · cases ends
  | loadingQueue task =>
      cases task with
      | createRoom queue pk columns => cases ends
      | routeRooms queue =>
          rw [ending] at ends
          split at ends <;> cases ends
  | findingRooms queue =>
      rw [ending] at ends
      split at ends <;> cases ends
  | findingAgents queue limit =>
      rw [ending] at ends
      split at ends <;> cases ends
  | visiting run =>
      rw [ending.eq_def] at ends
      cases listed : run.rooms with
      | nil => simp [listed] at ends
      | cons next rooms =>
          simp only [listed] at ends
          split at ends <;> cases ends
  | picking purpose limit =>
      cases purpose with
      | create queue pk columns => cases ends
      | route run listed room =>
          rw [ending] at ends
          split at ends <;> cases ends
  | _ => cases ends

end RouterProgress

/-- A closed room has not kept other rooms and queues from being routed. -/
def QueueEnd.SkipsNothing (queueEnd : QueueEnd) : Prop :=
  queueEnd.ending = .roomClosed → queueEnd.waiting = [] ∧ queueEnd.queues = []

instance : DecidablePred QueueEnd.SkipsNothing :=
  fun _ => inferInstanceAs (Decidable (_ → _))

def SectorDatabase.SkipsNothing (database : SectorDatabase) : Prop :=
  ∀ queueEnd ∈ database.ends, queueEnd.SkipsNothing

instance : DecidablePred SectorDatabase.SkipsNothing :=
  fun database => inferInstanceAs (Decidable (∀ queueEnd ∈ database.ends, queueEnd.SkipsNothing))

namespace SectorProgress

variable {settings : RouterSettings} {useQueuePriorityRouting : Bool}
  {database after : SectorDatabase} {progress : SectorProgress} {choice : RouterChoice}
  {rest : Option SectorProgress}

/-- When `Room.save` looks at the room that has been given an agent, the room is
open, or it was the last one there was to route. -/
def FindsRoomOpen (database : SectorDatabase) : SectorProgress → RouterChoice → Prop
  | .routing queue (.guarding run listed _ _ _) queues, _ =>
      ¬database.tables.IsClosed listed.pk ∨
        (database.tables.stillWaiting queue run.rooms = [] ∧ queues = [])
  | _, _ => True

instance (database : SectorDatabase) (progress : SectorProgress) (choice : RouterChoice) :
    Decidable (progress.FindsRoomOpen database choice) := by
  unfold FindsRoomOpen
  split <;> infer_instance

def Routes : SectorProgress → Prop
  | .routing _ progress _ => progress.Routes
  | _ => True

theorem leave_routes {queueEnd : QueueEnd} {remaining : SectorProgress}
    (goesOn : (leave database queueEnd).2 = some remaining) : remaining.Routes := by
  rw [leave] at goesOn
  split at goesOn
  · cases goesOn
  · cases goesOn
    trivial

/-- The statements of a task: it goes on, it has come to the end of its queues, or
routing a queue has ended. -/
inductive SectorStep (database : SectorDatabase) (progress : SectorProgress)
    (choice : RouterChoice) : SectorDatabase → Option SectorProgress → Prop
  | goesOn {after : SectorDatabase} {remaining : SectorProgress} :
      after.ends = database.ends → progress.FindsRoomOpen database choice →
      remaining.Routes → SectorStep database progress choice after (some remaining)
  | finishes : progress = .nextQueue [] → SectorStep database progress choice database none
  | leaves {queueEnd : QueueEnd} :
      (queueEnd.SkipsNothing ↔ progress.FindsRoomOpen database choice) →
      SectorStep database progress choice (leave database queueEnd).1
        (leave database queueEnd).2

/-- An end of `route_rooms` keeps nothing from being routed when `Room.save` has found
the room open. -/
theorem skipsNothing_iff {queue : Uuid} {progress : RouterProgress} {queues : List Uuid}
    {ending : Ending} (ends : progress.ending settings database.tables = some ending) :
    QueueEnd.SkipsNothing
        { queue := queue
          ending := ending
          waiting := database.tables.stillWaiting queue progress.unvisited
          queues := queues } ↔
      (routing queue progress queues).FindsRoomOpen database choice := by
  by_cases closed : ending = .roomClosed
  · subst closed
    rcases RouterProgress.closed_of_ending ends with
      ⟨run, listed, room, agent, capacity, rfl, isClosed⟩
    constructor
    · exact fun skips => .inr (skips rfl)
    · intro findsOpen _
      exact findsOpen.resolve_left (not_not.mpr isClosed)
  · constructor
    · intro _
      cases progress with
      | guarding run listed room agent capacity =>
          left
          intro isClosed
          have guards := RouterProgress.ending_of_isClosed settings run room agent capacity isClosed
          exact closed (Option.some.inj (ends.symm.trans guards))
      | _ => trivial
    · exact fun _ isClosed => absurd isClosed closed

theorem findsRoomOpen_of_goesOn {queue : Uuid} {progress : RouterProgress}
    {queues : List Uuid} (goesOn : progress.ending settings database.tables = none) :
    (routing queue progress queues).FindsRoomOpen database choice := by
  cases progress with
  | guarding run listed room agent capacity =>
      left
      intro isClosed
      have guards := RouterProgress.ending_of_isClosed settings run room agent capacity isClosed
      cases goesOn.symm.trans guards
  | _ => trivial

theorem sectorStep_of_advance (routes : progress.Routes)
    (advanced : progress.advance settings useQueuePriorityRouting database choice =
      some (after, rest)) :
    SectorStep database progress choice after rest := by
  cases progress with
  | findingQueues sector =>
      cases advanced
      exact .goesOn rfl trivial trivial
  | nextQueue queues =>
      cases queues with
      | nil =>
          cases advanced
          exact .finishes rfl
      | cons queue queues =>
          rw [advance] at advanced
          split at advanced
          · cases advanced
            exact .goesOn rfl trivial trivial
          · cases advanced
            apply SectorStep.leaves
            exact ⟨fun _ => trivial, fun _ impossible => by cases impossible⟩
  | routing queue progress queues =>
      rw [advance] at advanced
      split at advanced
      · next ending ends =>
          cases advanced
          exact .leaves (skipsNothing_iff ends)
      · next goesOn =>
          split at advanced
          · cases advanced
          · next tables remains routed =>
              rcases RouterProgress.advance_goesOn routes goesOn routed with
                ⟨remaining, rfl, remainingRoutes⟩
              cases advanced
              exact .goesOn rfl (findsRoomOpen_of_goesOn goesOn) remainingRoutes

end SectorProgress

theorem SectorDatabase.surround_ends {database after : SectorDatabase}
    {event : SectorSurrounding} (surrounded : database.surround event = some after) :
    after.ends = database.ends := by
  cases event with
  | router event =>
      rcases Option.map_eq_some_iff.mp surrounded with ⟨tables, _, rfl⟩
      rfl
  | setQueues queues =>
      cases surrounded
      rfl

def sectorOutline (Pid : Type) (settings : RouterSettings) (useQueuePriorityRouting : Bool) :
    Outline (sectorProgram settings useQueuePriorityRouting)
      (Machine.anyStep : SectorPool Pid → SectorEvent Pid → Prop) where
  Invariant := fun _ => True
  Assertion := fun _ progress => progress.Routes
  Guarantee := fun _ _ => True
  enter := by
    intro database task _
    cases task <;> trivial
  advance := by
    intro pool pid choice progress after rest _ _ _ routes advanced
    refine ⟨trivial, trivial, ?_⟩
    intro remaining goesOn
    cases SectorProgress.sectorStep_of_advance routes advanced with
    | goesOn _ _ remainingRoutes =>
        cases goesOn
        exact remainingRoutes
    | finishes _ => cases goesOn
    | leaves _ => exact SectorProgress.leave_routes goesOn
  surround := fun _ _ _ => ⟨trivial, trivial⟩
  stable := fun _ routes => routes

/-- In every run, closed rooms keep no room and no queue from being routed exactly as
long as each room that is given an agent is still open when it is saved, or is the
last one there was to route. -/
theorem closed_rooms_skip_nothing {Pid : Type} [DecidableEq Pid] (settings : RouterSettings)
    (useQueuePriorityRouting : Bool) (tables : Database) (queues : List Uuid)
    (events : List (SectorEvent Pid)) :
    (sectorProgram settings useQueuePriorityRouting).machine.Throughout
        (fun pool => pool.shared.SkipsNothing) (Pool.idle (.initial tables queues)) events ↔
      (sectorProgram settings useQueuePriorityRouting).machine.AllSteps
        (fun pool event => pool.OwnStep
          (fun database progress choice => progress.FindsRoomOpen database choice) event)
        (Pool.idle (.initial tables queues)) events := by
  apply (sectorOutline Pid settings useQueuePriorityRouting).throughout_iff ?_ ?_ trivial
    (fun _ member => by cases member)
  · intro database progress choice after rest _ routes keeps advanced
    cases SectorProgress.sectorStep_of_advance routes advanced with
    | goesOn unchanged findsOpen _ =>
        exact ⟨fun _ => findsOpen, fun _ other member => keeps other (unchanged ▸ member)⟩
    | finishes isLast =>
        subst isLast
        exact ⟨fun _ => trivial, fun _ => keeps⟩
    | leaves skips =>
        rw [← skips]
        constructor
        · exact fun keepsAfter => keepsAfter _ List.mem_cons_self
        · intro skipsNothing other member
          rcases List.mem_cons.mp member with rfl | listed
          · exact skipsNothing
          · exact keeps other listed
  · intro database event after _ keeps surrounded other member
    exact keeps other (SectorDatabase.surround_ends surrounded ▸ member)

/-! ## A room that is closed while the first queue is routed -/

/-- Two rooms wait in the first queue of the sector. The older one is closed after it
has been listed. -/
def closedWhileRouting : List (SectorEvent Unit) :=
  [.surround (.router (.writeRoom 1 (enteringRoom 1 0))),
    .surround (.router (.tick 10)),
    .surround (.router (.writeRoom 2 (enteringRoom 1 10))),
    .start () (.routeSectorRooms 1)] ++
  List.replicate 7 (.advance () .goOn) ++
  [.surround (.router (.writeRoom 1 ((enteringRoom 1 0).assign [⟨.isActive, false⟩])))] ++
  List.replicate 3 (.advance () .goOn) ++ [.advance () (.pick "ana@example.com")] ++
  List.replicate 5 (.advance () .goOn)

theorem closed_room_ends_sector_task :
    ¬ ∀ (settings : RouterSettings) (useQueuePriorityRouting : Bool) (tables : Database)
      (queues : List Uuid) (final : SectorPool Unit),
      (sectorProgram settings useQueuePriorityRouting).machine.Reaches Machine.anyStep
        (Pool.idle (.initial tables queues)) final →
      ∀ queueEnd ∈ final.shared.ends, queueEnd.ending = .roomClosed →
        queueEnd.waiting = [] ∧ queueEnd.queues = [] := by
  intro skipsNothing
  have routes : ((sectorProgram exampleSettings true).machine.run
      (Pool.idle (.initial (twoAgents 5) [1, 2])) closedWhileRouting).map
        (fun pool => pool.shared.ends) =
      some [{ queue := 1, ending := .roomClosed, waiting := [2], queues := [2] }] := by
    decide
  rcases Option.map_eq_some_iff.mp routes with ⟨final, ran, ends⟩
  have nothing := skipsNothing exampleSettings true (twoAgents 5) [1, 2] final (.of_run ran)
    _ (ends ▸ List.mem_cons_self) rfl
  cases nothing.1

end ChatsEngine.Queues
