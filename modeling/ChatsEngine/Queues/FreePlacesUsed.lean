import ChatsEngine.Queues.AvailableAgents
import ChatsEngine.Queues.FreePlaces

/-! # The use of the free places

In the loop of `route_rooms`, the rooms that have been assigned and those that can still be
assigned are always as many. -/

namespace ChatsEngine.Queues

open ChatsEngine.Projects ChatsEngine.Rooms Database

/-- The rooms that a run has still to visit wait, and so many will have been assigned when it
ends. -/
structure UnderWay (settings : RouterSettings) (start : Database) (queue : QueueInstance)
    (count : Nat) (database : Database) (rooms : List ListedRoom) : Prop where
  loaded : database.Loaded queue
  aboveLimit : ∀ agent, database.AboveLimit settings queue agent →
    start.AboveLimit settings queue agent
  distinct : (rooms.map ListedRoom.pk).Nodup
  waiting : ∀ listed ∈ rooms, ∃ columns ∈ database.rooms.lookup listed.pk,
    Waits queue.uuid columns
  waited : ∀ listed ∈ rooms, listed.pk ∈ start.rooms.keys ∧ start.userOf listed.pk = none
  remaining : (assignedRooms start database).card +
    min rooms.length (database.freeCapacity settings queue) = count

namespace UnderWay

variable {settings : RouterSettings} {start database after : Database} {queue : QueueInstance}
  {count : Nat} {rooms : List ListedRoom} {listed : ListedRoom} {agent : UserEmail}

theorem elapses (underWay : UnderWay settings start queue count database rooms)
    (elapsed : Elapses settings database after) :
    UnderWay settings start queue count after rooms where
  loaded := underWay.loaded.of_sameAgents elapsed.toSameAgents
  aboveLimit := fun agent above =>
    underWay.aboveLimit agent ((elapsed.aboveLimit_iff queue agent).mp above)
  distinct := underWay.distinct
  waiting := by
    rw [elapsed.rooms]
    exact underWay.waiting
  waited := underWay.waited
  remaining := by
    rw [elapsed.assignedRooms, elapsed.freeCapacity]
    exact underWay.remaining

theorem assigns_of_nil (underWay : UnderWay settings start queue count database []) :
    start.Assigns settings queue count database where
  card := by simpa using underWay.remaining
  aboveLimit := underWay.aboveLimit

theorem assigns_of_full (underWay : UnderWay settings start queue count database rooms)
    (full : database.availableAgents settings queue (database.limit queue) = []) :
    start.Assigns settings queue count database where
  card := by
    have remaining := underWay.remaining
    rwa [(freeCapacity_eq_zero_iff underWay.loaded).mpr full, Nat.min_zero, Nat.add_zero]
      at remaining
  aboveLimit := underWay.aboveLimit

theorem unassigned (underWay : UnderWay settings start queue count database (listed :: rooms)) :
    database.userOf listed.pk = none := by
  rcases underWay.waiting listed List.mem_cons_self with ⟨columns, stored, waits⟩
  rw [userOf, Option.mem_def.mp stored]
  exact waits.2.2

theorem gives (underWay : UnderWay settings start queue count database (listed :: rooms))
    (available : agent ∈ database.availableAgents settings queue (database.limit queue))
    (given : Gives settings queue database after listed.pk agent) :
    UnderWay settings start queue count after rooms where
  loaded := underWay.loaded.of_sameAgents given.toSameAgents
  aboveLimit := fun other above =>
    underWay.aboveLimit other (given.aboveLimit underWay.loaded available above)
  distinct := (List.nodup_cons.mp underWay.distinct).2
  waiting := by
    intro other member
    have different : other.pk ≠ listed.pk := by
      intro same
      apply (List.nodup_cons.mp underWay.distinct).1
      rw [← same]
      exact List.mem_map_of_mem member
    rcases given.rooms with ⟨columns, inserted, _⟩
    rw [inserted, AList.lookup_insert_ne different]
    exact underWay.waiting other (List.mem_cons_of_mem listed member)
  waited := fun other member => underWay.waited other (List.mem_cons_of_mem listed member)
  remaining := by
    have remaining := underWay.remaining
    have place := given.freeCapacity underWay.loaded available
    have waited := underWay.waited listed List.mem_cons_self
    rw [given.assignedRooms waited.1 waited.2]
    rw [place, List.length_cons] at remaining
    omega

theorem listing (loaded : database.Loaded queue) :
    UnderWay settings database queue
      (min (database.roomsToRoute queue.uuid).length (database.freeCapacity settings queue))
      database (database.listedRooms queue.uuid) where
  loaded := loaded
  aboveLimit := fun _ above => above
  distinct := by
    rw [listedRooms, List.map_map]
    exact nodup_roomsToRoute database queue.uuid
  waiting := by
    intro listed member
    rcases List.mem_map.mp member with ⟨room, routed, rfl⟩
    rcases mem_roomsToRoute_iff.mp routed with ⟨stored, waits⟩
    exact ⟨room.2, stored, waits⟩
  waited := by
    intro listed member
    rcases List.mem_map.mp member with ⟨room, routed, rfl⟩
    rcases mem_roomsToRoute_iff.mp routed with ⟨stored, waits⟩
    constructor
    · exact AList.lookup_isSome.mp (Option.isSome_of_mem stored)
    · rw [userOf, stored]
      exact waits.2.2
  remaining := by
    have nothing : assignedRooms database database = ∅ := by
      apply Finset.filter_eq_empty_iff.mpr
      intro pk _ both
      rw [both.1] at both
      exact Bool.false_ne_true both.2
    rw [nothing, Finset.card_empty, Nat.zero_add, listedRooms, List.length_map]

theorem elapses_listing
    (underWay : UnderWay settings start queue count database (database.listedRooms queue.uuid))
    (elapsed : Elapses settings database after) :
    UnderWay settings start queue count after (after.listedRooms queue.uuid) := by
  rw [listedRooms, elapsed.roomsToRoute]
  exact underWay.elapses elapsed

end UnderWay

structure Visits (settings : RouterSettings) (start : Database) (count : Nat)
    (database : Database) (run : RouteRun) (listed : ListedRoom) (room : RoomInstance)
    (agent : UserEmail) : Prop where
  underWay : UnderWay settings start run.queue count database (listed :: run.rooms)
  waits : Waits run.queue.uuid room.values
  available : agent ∈ database.availableAgents settings run.queue (database.limit run.queue)

namespace Visits

variable {settings : RouterSettings} {start database after : Database} {count : Nat}
  {run : RouteRun} {listed : ListedRoom} {room : RoomInstance} {agent : UserEmail}

theorem elapses (visits : Visits settings start count database run listed room agent)
    (elapsed : Elapses settings database after) :
    Visits settings start count after run listed room agent where
  underWay := visits.underWay.elapses elapsed
  waits := visits.waits
  available := by
    have available := visits.available
    rw [mem_availableAgents_iff visits.underWay.loaded] at available
    rw [mem_availableAgents_iff (visits.underWay.elapses elapsed).loaded, elapsed.onlineAgents,
      elapsed.activeRoomsCount, elapsed.effectiveLimit]
    exact available

theorem gives_storeRoom (visits : Visits settings start count database run listed room agent) :
    Gives settings run.queue database (RouterProgress.storeRoom settings database run listed room
      agent).1 listed.pk agent where
  toSameAgents := ⟨rfl, rfl, rfl, rfl, rfl, rfl, fun _ _ => Iff.rfl⟩
  unassigned := visits.underWay.unassigned
  rooms := by
    refine ⟨_, rfl, assignedRoom_user _ _ _, ?_, ?_⟩
    · exact (RoomInstance.saveAssignments_spare (by decide) _ none _).trans visits.waits.2.1
    · exact (RoomInstance.saveAssignments_spare (by decide) _ none _).trans visits.waits.1

end Visits

section Statements

variable {settings : RouterSettings} {start database : Database} {count : Nat} {run : RouteRun}
  {listed : ListedRoom} {room : RoomInstance} {agent : UserEmail}

/-- From here, the run ends with so many rooms assigned. -/
abbrev RunsOut (settings : RouterSettings) (start : Database) (queue : QueueInstance)
    (count : Nat) : Database → RouterProgress → Prop :=
  (routerProgram settings).Ends (Elapses settings) (start.Assigns settings queue count)

instance : Nonempty RouterChoice := ⟨.goOn⟩

variable (rest : ∀ after, UnderWay settings start run.queue count after run.rooms →
  RunsOut settings start run.queue count after (.visiting run))

include rest

theorem storing_runsOut (visits : Visits settings start count database run listed room agent)
    (capacity : Option AgentCapacityResult) :
    RunsOut settings start run.queue count database (.storing run listed room agent capacity) := by
  apply Program.Ends.goOn
  intro here elapsed
  have now := visits.elapses elapsed
  refine ⟨_, _, fun _ => rfl, ?_⟩
  exact rest _ (now.underWay.gives now.available now.gives_storeRoom)

theorem guarding_runsOut (visits : Visits settings start count database run listed room agent)
    (capacity : Option AgentCapacityResult) :
    RunsOut settings start run.queue count database
      (.guarding run listed room agent capacity) := by
  apply Program.Ends.goOn
  intro here elapsed
  have now := visits.elapses elapsed
  have isOpen : ¬here.IsClosed listed.pk := by
    intro given
    rcases given with ⟨columns, stored, isClosed⟩
    rcases now.underWay.waiting listed List.mem_cons_self with ⟨found, isStored, waits⟩
    cases stored.symm.trans isStored
    rw [waits.2.1] at isClosed
    cases isClosed
  refine ⟨here, .storing run listed room agent capacity, ?_, storing_runsOut rest now capacity⟩
  intro choice
  simp only [routerProgram, RouterProgress.advance, if_neg isOpen]

theorem counting_runsOut (visits : Visits settings start count database run listed room agent) :
    RunsOut settings start run.queue count database
      (.counting (.route run listed room) agent
        (database.effectiveLimit settings agent run.queue)) := by
  apply Program.Ends.goOn
  intro here elapsed
  have now := visits.elapses elapsed
  have free := ((mem_availableAgents_iff now.underWay.loaded).mp now.available).2
  rw [elapsed.effectiveLimit] at free
  let capacity : AgentCapacityResult :=
    { activeRoomsCount := here.activeRoomsCount agent run.queue.sector
      limit := database.effectiveLimit settings agent run.queue }
  have canReceive : capacity.canReceive := free
  refine ⟨here, .guarding run listed room agent (some capacity), ?_,
    guarding_runsOut rest now (some capacity)⟩
  intro choice
  exact congrArg (fun progress => some (here, some progress)) (if_pos canReceive)

theorem readingQueueLimit_runsOut
    (visits : Visits settings start count database run listed room agent)
    (noCustom : database.customLimit settings agent = none) :
    RunsOut settings start run.queue count database
      (.readingQueueLimit (.route run listed room) agent) := by
  apply Program.Ends.goOn
  intro here elapsed
  have now := visits.elapses elapsed
  have effective : here.effectiveLimit settings agent run.queue = here.limit run.queue := by
    rw [← now.underWay.loaded.effectiveLimit_eq, elapsed.customLimit, noCustom, Option.getD_none]
  refine ⟨here, _, ?_, counting_runsOut rest now⟩
  intro choice
  simp only [routerProgram, RouterProgress.advance, Purpose.queue, effective]

theorem rechecking_runsOut (visits : Visits settings start count database run listed room agent) :
    RunsOut settings start run.queue count database
      (RouterProgress.rechecking settings (.route run listed room) agent) := by
  rw [RouterProgress.rechecking]
  split
  · apply Program.Ends.goOn
    intro here elapsed
    have now := visits.elapses elapsed
    cases custom : here.customLimit settings agent with
    | none =>
        refine ⟨here, _, ?_, readingQueueLimit_runsOut rest now custom⟩
        intro choice
        simp only [routerProgram, RouterProgress.advance, custom]
    | some limit =>
        have effective : here.effectiveLimit settings agent run.queue = limit := by
          rw [effectiveLimit, custom, Option.getD_some]
        refine ⟨here, _, ?_, counting_runsOut rest now⟩
        intro choice
        simp only [routerProgram, RouterProgress.advance, custom, effective]
  · exact guarding_runsOut rest visits none

theorem checkingOnline_runsOut
    (visits : Visits settings start count database run listed room agent) :
    RunsOut settings start run.queue count database (.checkingOnline run listed room agent) := by
  apply Program.Ends.goOn
  intro here elapsed
  have now := visits.elapses elapsed
  have online := ((mem_availableAgents_iff now.underWay.loaded).mp now.available).1
  refine ⟨here, _, ?_, rechecking_runsOut rest now⟩
  intro choice
  simp only [routerProgram, RouterProgress.advance, if_pos (isOnline_of_mem_onlineAgents online)]

theorem choosing_runsOut {agents : List UserEmail} (some : agents ≠ [])
    (visits : ∀ agent ∈ agents, Visits settings start count database run listed room agent) :
    RunsOut settings start run.queue count database
      (.choosing (.route run listed room) agents) := by
  have advance : ∀ here agent, agent ∈ agents →
      (routerProgram settings).advance here (.choosing (.route run listed room) agents)
        (.pick agent) = .some (here, .some (.checkingOnline run listed room agent)) := by
    intro here agent listed
    simp only [routerProgram, RouterProgress.advance, if_pos listed, RouterProgress.picked]
  -- Nothing else can be chosen.
  have picks : ∀ here choice after remaining,
      (routerProgram settings).advance here (.choosing (.route run listed room) agents) choice =
        .some (after, remaining) →
      ∃ agent ∈ agents, after = here ∧
        remaining = .some (.checkingOnline run listed room agent) := by
    intro here choice after remaining advanced
    cases choice with
    | goOn => cases advanced
    | pick agent =>
        by_cases isListed : agent ∈ agents
        · rw [advance here agent isListed] at advanced
          cases advanced
          exact ⟨agent, isListed, rfl, rfl⟩
        · simp only [routerProgram, RouterProgress.advance, if_neg isListed] at advanced
          cases advanced
  apply Program.Ends.step
  · intro here _
    rcases List.exists_mem_of_ne_nil _ some with ⟨agent, isListed⟩
    exact ⟨.pick agent, here, _, advance here agent isListed⟩
  · intro here choice after _ advanced
    rcases picks here choice after none advanced with ⟨_, _, _, impossible⟩
    cases impossible
  · intro here choice after remaining elapsed advanced
    rcases picks here choice after _ advanced with ⟨agent, isListed, rfl, same⟩
    cases same
    exact checkingOnline_runsOut rest ((visits agent isListed).elapses elapsed)

theorem breakingTie_runsOut {agents : List UserEmail} (some : agents ≠ [])
    (visits : ∀ agent ∈ agents, Visits settings start count database run listed room agent) :
    RunsOut settings start run.queue count database
      (.breakingTie (.route run listed room) agents) := by
  apply Program.Ends.goOn
  intro here elapsed
  refine ⟨here, _, fun _ => rfl, choosing_runsOut rest (mt least_eq_nil_iff.mp some) ?_⟩
  intro agent chosen
  exact (visits agent (mem_least_iff.mp chosen).1).elapses elapsed

theorem pickFrom_runsOut {agents : List UserEmail} {remaining : RouterProgress}
    (visits : ∀ agent ∈ agents, Visits settings start count database run listed room agent)
    (goesOn : RouterProgress.pickFrom settings (.route run listed room) agents = some remaining) :
    RunsOut settings start run.queue count database remaining := by
  rcases agents with _ | ⟨first, _ | ⟨second, others⟩⟩
  · cases goesOn
  · cases goesOn
    exact checkingOnline_runsOut rest (visits first List.mem_cons_self)
  · rw [RouterProgress.pickFrom] at goesOn
    · split at goesOn
      · cases goesOn
        exact breakingTie_runsOut rest (List.cons_ne_nil _ _) visits
      · cases goesOn
        exact choosing_runsOut rest (List.cons_ne_nil _ _) visits
    · nofun
    · nofun

theorem picking_runsOut
    (underWay : UnderWay settings start run.queue count database (listed :: run.rooms))
    (waits : Waits run.queue.uuid room.values) :
    RunsOut settings start run.queue count database
      (.picking (.route run listed room) (database.limit run.queue)) := by
  apply Program.Ends.determined
  intro here elapsed
  have now := underWay.elapses elapsed
  refine ⟨here, _, fun _ => rfl, ?_, ?_⟩
  · intro ends
    apply now.assigns_of_full
    rw [elapsed.limit]
    exact least_eq_nil_iff.mp (RouterProgress.eq_nil_of_pickFrom ends)
  · intro remaining goesOn
    apply pickFrom_runsOut rest _ goesOn
    intro agent eligible
    refine ⟨now, waits, ?_⟩
    rw [elapsed.limit]
    exact (mem_least_iff.mp eligible).1

theorem readingLimit_runsOut
    (underWay : UnderWay settings start run.queue count database (listed :: run.rooms))
    (waits : Waits run.queue.uuid room.values) :
    RunsOut settings start run.queue count database
      (.readingLimit (.route run listed room)) := by
  apply Program.Ends.goOn
  intro here elapsed
  exact ⟨here, _, fun _ => rfl, picking_runsOut rest (underWay.elapses elapsed) waits⟩

end Statements

section Runs

variable {settings : RouterSettings} {start database : Database} {queue : QueueInstance}
  {count : Nat}

theorem visiting_runsOut (run : RouteRun)
    (underWay : UnderWay settings start run.queue count database run.rooms) :
    RunsOut settings start run.queue count database (.visiting run) := by
  rcases run with ⟨queue, rooms, listedAt, passedOver⟩
  induction rooms generalizing database with
  | nil =>
      apply Program.Ends.stop
      intro here elapsed
      exact ⟨here, fun _ => rfl, (underWay.elapses elapsed).assigns_of_nil⟩
  | cons listed rooms induction =>
      apply Program.Ends.goOn
      intro here elapsed
      have now := underWay.elapses elapsed
      rcases now.waiting listed List.mem_cons_self with ⟨columns, stored, waits⟩
      refine ⟨here, .readingLimit (.route ⟨queue, rooms, listedAt, passedOver⟩ listed
        (.load columns)), ?_, ?_⟩
      · intro choice
        have unassigned : (columns .user).isSome = false := by rw [waits.2.2, Option.isSome_none]
        simp only [routerProgram, RouterProgress.advance, RouterProgress.visit,
          Option.mem_def.mp stored, unassigned, Bool.false_eq_true, if_false]
      · exact readingLimit_runsOut (fun after underWay => induction underWay) now waits

theorem listing_runsOut
    (underWay : UnderWay settings start queue count database
      (database.listedRooms queue.uuid)) :
    RunsOut settings start queue count database (.listing queue) := by
  apply Program.Ends.goOn
  intro here elapsed
  let run : RouteRun :=
    { queue := queue, rooms := here.listedRooms queue.uuid, listedAt := here.now
      passedOver := [] }
  exact ⟨here, .visiting run, fun _ => rfl, visiting_runsOut run (underWay.elapses_listing elapsed)⟩

theorem findingAgents_runsOut
    (underWay : UnderWay settings start queue count database
      (database.listedRooms queue.uuid)) :
    RunsOut settings start queue count database
      (.findingAgents queue (database.limit queue)) := by
  apply Program.Ends.determined
  intro here elapsed
  have now := underWay.elapses_listing elapsed
  refine ⟨here, _, fun _ => rfl, ?_⟩
  rw [← elapsed.limit]
  split
  · next full => exact ⟨fun _ => now.assigns_of_full full, nofun⟩
  · refine ⟨nofun, ?_⟩
    intro remaining given
    rcases given with ⟨⟩
    exact listing_runsOut now

theorem findingRooms_runsOut
    (underWay : UnderWay settings start queue count database
      (database.listedRooms queue.uuid)) :
    RunsOut settings start queue count database (.findingRooms queue) := by
  apply Program.Ends.determined
  intro here elapsed
  have now := underWay.elapses_listing elapsed
  refine ⟨here, _, fun _ => rfl, ?_⟩
  split
  · next none =>
      rw [listedRooms, none, List.map_nil] at now
      exact ⟨fun _ => now.assigns_of_nil, nofun⟩
  · refine ⟨nofun, ?_⟩
    intro remaining given
    rcases given with ⟨⟩
    apply Program.Ends.goOn
    intro later elapsedAgain
    refine ⟨later, _, fun _ => rfl, ?_⟩
    exact findingAgents_runsOut (now.elapses_listing elapsedAgain)

end Runs

/-- A run that nobody disturbs assigns as many rooms as there are rooms and places. -/
theorem route_rooms_uses_free_places (settings : RouterSettings) (database : Database)
    {uuid : Uuid} {queue : QueueInstance} (loads : database.loadQueue uuid = some queue) :
    (routerProgram settings).Ends (Elapses settings)
      (database.Assigns settings queue
        (min (database.roomsToRoute uuid).length (database.freeCapacity settings queue)))
      database (.loadingQueue (.routeRooms uuid)) := by
  apply Program.Ends.goOn
  intro here elapsed
  have loadsHere : here.loadQueue uuid = some queue := by
    rw [loadQueue, elapsed.sectorOf, elapsed.roomsLimit]
    exact loads
  refine ⟨here, .findingRooms queue, ?_, ?_⟩
  · intro choice
    simp only [routerProgram, RouterProgress.advance, loadsHere, Option.map_some]
  · apply findingRooms_runsOut
    rcases Option.map_eq_some_iff.mp loads with ⟨sector, isSector, rfl⟩
    exact (UnderWay.listing ⟨isSector, rfl⟩).elapses_listing elapsed

def threeRooms : Database :=
  { twoAgents 1 with
    rooms := ((AList.singleton 1 (enteringRoom 1 0)).insert 2 (enteringRoom 1 0)).insert 3
      (enteringRoom 1 0) }

theorem two_of_three_rooms_assigned :
    min (threeRooms.roomsToRoute 1).length (threeRooms.freeCapacity exampleSettings firstQueue) = 2 ∧
      (routerProgram exampleSettings).Ends (Elapses exampleSettings)
        (threeRooms.Assigns exampleSettings firstQueue
          (min (threeRooms.roomsToRoute 1).length
            (threeRooms.freeCapacity exampleSettings firstQueue)))
        threeRooms (.loadingQueue (.routeRooms 1)) :=
  ⟨by decide, route_rooms_uses_free_places exampleSettings threeRooms rfl⟩

end ChatsEngine.Queues
