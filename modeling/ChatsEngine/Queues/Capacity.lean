import ChatsEngine.Foundation.Sparing
import ChatsEngine.Queues.RouteTasks
import ChatsEngine.Queues.Router

/-! # The rooms limit of an agent

The capacity recheck counts the active rooms of the agent right before the
assignment. The count and the write are separate statements, so what others do in
between is not counted. Where nobody takes the place that the recheck has found free,
the assignment keeps the limit. -/

namespace ChatsEngine.Queues

open ChatsEngine.Rooms

/-- The assignment leaves the agent within the limit, unless it gives the agent no
room that the agent does not have. -/
def CapacityRecord.KeepsLimit (record : CapacityRecord) : Prop :=
  record.roomsAfter ≤ record.roomsBefore ∨ record.roomsAfter ≤ record.limit

instance : DecidablePred CapacityRecord.KeepsLimit :=
  fun _ => inferInstanceAs (Decidable (_ ∨ _))

namespace Database

variable {database after : Database} {agent : UserEmail} {sector pk : Uuid}
  {columns : RoomRecord}

def KeepsLimits (database : Database) : Prop :=
  ∀ record ∈ database.capacityRecords, record.KeepsLimit

instance : DecidablePred KeepsLimits :=
  fun database => inferInstanceAs
    (Decidable (∀ record ∈ database.capacityRecords, record.KeepsLimit))

def AddsRoom (database : Database) (agent : UserEmail) (sector pk : Uuid)
    (columns : RoomRecord) : Prop :=
  database.Holds agent sector columns ∧
    ¬∃ old ∈ database.rooms.lookup pk, database.Holds agent sector old

instance (agent : UserEmail) (sector pk : Uuid) (columns : RoomRecord) :
    Decidable (database.AddsRoom agent sector pk columns) :=
  inferInstanceAs (Decidable (_ ∧ _))

def roomsAfter (database : Database) (agent : UserEmail) (sector pk : Uuid)
    (columns : RoomRecord) : Nat :=
  ({ database with rooms := database.rooms.insert pk columns } : Database).activeRoomsCount
    agent sector

theorem roomsAfter_of_addsRoom (adds : database.AddsRoom agent sector pk columns) :
    database.roomsAfter agent sector pk columns =
      database.activeRoomsCount agent sector + 1 := by
  have counted := Table.count_insert database.rooms (database.Holds agent sector) pk columns
  rw [if_pos adds.1, if_neg adds.2] at counted
  exact counted

theorem roomsAfter_of_not_addsRoom (spares : ¬database.AddsRoom agent sector pk columns) :
    database.roomsAfter agent sector pk columns ≤ database.activeRoomsCount agent sector := by
  have counted := Table.count_insert database.rooms (database.Holds agent sector) pk columns
  have after : database.roomsAfter agent sector pk columns =
      Table.count (database.rooms.insert pk columns) (database.Holds agent sector) := rfl
  rw [after, activeRoomsCount]
  by_cases holds : database.Holds agent sector columns
  · have held : ∃ old ∈ database.rooms.lookup pk, database.Holds agent sector old := by
      by_contra notHeld
      exact spares ⟨holds, notHeld⟩
    rw [if_pos holds, if_pos held] at counted
    omega
  · rw [if_neg holds] at counted
    omega

end Database

structure PendingAssignment where
  queue : QueueInstance
  pk : Uuid
  columns : RoomRecord
  agent : UserEmail

structure Recheck where
  queue : QueueInstance
  agent : UserEmail
  limit : Nat
  activeRoomsCount : Option Nat

/-- What a recheck has read still bounds what is stored, and it has found a free place. -/
def Recheck.Holds (settings : RouterSettings) (database : Database) (recheck : Recheck) : Prop :=
  recheck.limit ≤ database.effectiveLimit settings recheck.agent recheck.queue ∧
    ∀ count ∈ recheck.activeRoomsCount,
      database.activeRoomsCount recheck.agent recheck.queue.sector ≤ count ∧
        count < recheck.limit

namespace RouterProgress

def pending (now : Nat) : RouterProgress → Option PendingAssignment
  | .storing run listed room agent _ =>
      some
        { queue := run.queue, pk := listed.pk, columns := assignedRoom now room agent
          agent := agent }
  | .creating queue pk columns (some agent) _ =>
      some
        { queue := queue, pk := pk, columns := createdRoom now queue columns (some agent)
          agent := agent }
  | _ => none

def recheck : RouterProgress → Option Recheck
  | .counting purpose agent limit => some ⟨purpose.queue, agent, limit, none⟩
  | .guarding run _ _ agent (some capacity) =>
      some ⟨run.queue, agent, capacity.limit, some capacity.activeRoomsCount⟩
  | .storing run _ _ agent (some capacity) =>
      some ⟨run.queue, agent, capacity.limit, some capacity.activeRoomsCount⟩
  | .creating queue _ _ (some agent) (some capacity) =>
      some ⟨queue, agent, capacity.limit, some capacity.activeRoomsCount⟩
  | _ => none

/-- A change that does not lower the limit of an agent after a recheck has read it, and does
not give the agent a room of the sector after the recheck has counted them. -/
def SparesRecheck (settings : RouterSettings) (before after : Database)
    (progress : RouterProgress) : Prop :=
  ∀ recheck ∈ progress.recheck,
    before.effectiveLimit settings recheck.agent recheck.queue ≤
        after.effectiveLimit settings recheck.agent recheck.queue ∧
      (recheck.activeRoomsCount.isSome →
        after.activeRoomsCount recheck.agent recheck.queue.sector ≤
          before.activeRoomsCount recheck.agent recheck.queue.sector)

instance (settings : RouterSettings) (before after : Database) (progress : RouterProgress) :
    Decidable (progress.SparesRecheck settings before after) := by
  unfold SparesRecheck
  infer_instance

/-- A recheck that reads the limit of the queue does not find more than what is in force: the
sector, which was loaded along with the queue, has not been given a lower limit since then,
nor the agent a custom one. -/
def ReadsLimitInForce (settings : RouterSettings) (database : Database) :
    RouterProgress → RouterChoice → Prop
  | .readingQueueLimit purpose agent, _ =>
      database.limit purpose.queue ≤ database.effectiveLimit settings agent purpose.queue
  | _, _ => True

instance (settings : RouterSettings) (database : Database) (progress : RouterProgress)
    (choice : RouterChoice) :
    Decidable (progress.ReadsLimitInForce settings database choice) := by
  unfold ReadsLimitInForce
  split <;> infer_instance

def Rechecked : RouterProgress → Prop
  | .guarding _ _ _ _ capacity => capacity.isSome
  | .storing _ _ _ _ capacity => capacity.isSome
  | .creating _ _ _ user capacity => user.isSome → capacity.isSome
  | _ => True

section Statements

variable {settings : RouterSettings} {database after : Database} {purpose : Purpose}
  {agent : UserEmail} {progress remaining : RouterProgress} {rest : Option RouterProgress}
  {choice : RouterChoice}

theorem turnedDown_rechecked (purpose : Purpose) : (turnedDown purpose).Rechecked := by
  cases purpose with
  | route run listed room => trivial
  | create queue pk columns => exact fun impossible => by cases impossible

theorem picked_rechecked (enabled : settings.agentCapacityRecheck = true) (purpose : Purpose) :
    (picked settings agent purpose).Rechecked := by
  cases purpose with
  | route run listed room => trivial
  | create queue pk columns =>
      rw [picked, rechecking, if_pos enabled]
      trivial

theorem assigning_rechecked (capacity : AgentCapacityResult) (purpose : Purpose) :
    (assigning agent (some capacity) purpose).Rechecked := by
  cases purpose with
  | route run listed room => rfl
  | create queue pk columns => exact fun _ => rfl

theorem advance_rechecked (enabled : settings.agentCapacityRecheck = true)
    (rechecked : progress.Rechecked)
    (advanced : progress.advance settings database choice = some (after, some remaining)) :
    remaining.Rechecked := by
  cases continues_of_advance advanced with
  | queueUp _ => exact fun impossible => by cases impossible
  | pickNone => exact fun impossible => by cases impossible
  | pickOnly => exact picked_rechecked enabled _
  | choose _ => exact picked_rechecked enabled _
  | findOnline =>
      rw [rechecking, if_pos enabled]
      trivial
  | findOffline => exact turnedDown_rechecked _
  | receive _ _ => exact assigning_rechecked _ _
  | turnDown => exact turnedDown_rechecked _
  | guard _ => exact rechecked
  | _ => trivial

theorem turnedDown_recheck (purpose : Purpose) : (turnedDown purpose).recheck = none := by
  cases purpose <;> rfl

theorem picked_recheck (enabled : settings.agentCapacityRecheck = true) (purpose : Purpose) :
    (picked settings agent purpose).recheck = none := by
  cases purpose with
  | route run listed room => rfl
  | create queue pk columns =>
      rw [picked, rechecking, if_pos enabled]
      rfl

theorem assigning_recheck (capacity : AgentCapacityResult) (purpose : Purpose) :
    (assigning agent (some capacity) purpose).recheck =
      some ⟨purpose.queue, agent, capacity.limit, some capacity.activeRoomsCount⟩ := by
  cases purpose <;> rfl

theorem recheck_guarding {run : RouteRun} {listed : ListedRoom} {room : RoomInstance}
    {capacity : Option AgentCapacityResult} :
    (guarding run listed room agent capacity).recheck =
      (storing run listed room agent capacity).recheck := by
  cases capacity <;> rfl

theorem advance_recheck (enabled : settings.agentCapacityRecheck = true)
    (inForce : progress.ReadsLimitInForce settings database choice)
    (holds : ∀ recheck ∈ progress.recheck, recheck.Holds settings database)
    (advanced : progress.advance settings database choice = some (after, some remaining)) :
    ∀ recheck ∈ remaining.recheck, recheck.Holds settings after := by
  intro recheck isRecheck
  cases continues_of_advance advanced with
  | pickOnly =>
      rw [picked_recheck enabled] at isRecheck
      cases isRecheck
  | choose _ =>
      rw [picked_recheck enabled] at isRecheck
      cases isRecheck
  | findOnline =>
      rw [rechecking, if_pos enabled] at isRecheck
      cases isRecheck
  | findOffline =>
      rw [turnedDown_recheck] at isRecheck
      cases isRecheck
  | readCustomLimit isLimit =>
      cases advance_of_isRead advanced trivial
      cases isRecheck
      refine ⟨?_, fun _ impossible => by cases impossible⟩
      rw [Database.effectiveLimit, isLimit]
      exact le_refl _
  | readQueueLimit =>
      cases advance_of_isRead advanced trivial
      cases isRecheck
      exact ⟨inForce, fun _ impossible => by cases impossible⟩
  | receive isCapacity receives =>
      cases advance_of_isRead advanced trivial
      subst isCapacity
      rw [assigning_recheck] at isRecheck
      cases isRecheck
      refine ⟨(holds _ rfl).1, ?_⟩
      intro count isCount
      cases isCount
      exact ⟨le_refl _, receives⟩
  | turnDown =>
      rw [turnedDown_recheck] at isRecheck
      cases isRecheck
  | guard _ =>
      cases advance_of_isRead advanced trivial
      exact holds recheck (recheck_guarding ▸ isRecheck)
  | _ => cases isRecheck

theorem pending_recheck (rechecked : progress.Rechecked) {now : Nat}
    {pending : PendingAssignment} (isPending : progress.pending now = some pending) :
    ∃ limit count, progress.recheck = some ⟨pending.queue, pending.agent, limit, some count⟩ := by
  cases progress with
  | storing run listed room agent capacity =>
      cases isPending
      rcases Option.isSome_iff_exists.mp rechecked with ⟨capacity, rfl⟩
      exact ⟨_, _, rfl⟩
  | creating queue pk columns user capacity =>
      cases user with
      | none => cases isPending
      | some agent =>
          cases isPending
          rcases Option.isSome_iff_exists.mp (rechecked rfl) with ⟨capacity, rfl⟩
          exact ⟨_, _, rfl⟩
  | _ => cases isPending

theorem advance_capacityRecords
    (advanced : progress.advance settings database choice = some (after, rest)) :
    after.capacityRecords = database.capacityRecords ∨
    ∃ pending, progress.pending database.now = some pending ∧
      after.capacityRecords =
        { agent := pending.agent
          roomsBefore := database.activeRoomsCount pending.agent pending.queue.sector
          roomsAfter := database.roomsAfter pending.agent pending.queue.sector pending.pk
            pending.columns
          limit := database.effectiveLimit settings pending.agent pending.queue } ::
          database.capacityRecords := by
  cases progress with
  | storing run listed room agent capacity =>
      cases advanced
      exact .inr ⟨_, rfl, rfl⟩
  | creating queue pk columns user capacity =>
      cases user with
      | none =>
          rw [advance, createRoom] at advanced
          split at advanced
          · cases advanced
            exact .inl rfl
          · cases advanced
      | some agent =>
          rw [advance, createRoom] at advanced
          split at advanced
          · cases advanced
            exact .inr ⟨_, rfl, rfl⟩
          · cases advanced
  | _ =>
      have unchanged := advance_of_isRead advanced trivial
      exact .inl (congrArg Database.capacityRecords unchanged)

theorem SparesRecheck.holds (spares : progress.SparesRecheck settings database after)
    (holds : ∀ recheck ∈ progress.recheck, recheck.Holds settings database) :
    ∀ recheck ∈ progress.recheck, recheck.Holds settings after := by
  intro recheck isRecheck
  rcases spares recheck isRecheck with ⟨limit, rooms⟩
  rcases holds recheck isRecheck with ⟨inForce, free⟩
  refine ⟨inForce.trans limit, ?_⟩
  intro count isCount
  rcases free count isCount with ⟨counted, below⟩
  exact ⟨(rooms (Option.isSome_of_mem isCount)).trans counted, below⟩

end Statements

end RouterProgress

theorem Recheck.Holds.keepsLimit {settings : RouterSettings} {database : Database}
    {queue : QueueInstance} {agent : UserEmail} {limit count : Nat}
    (holds : Recheck.Holds settings database ⟨queue, agent, limit, some count⟩) (pk : Uuid)
    (columns : RoomRecord) :
    CapacityRecord.KeepsLimit
      { agent := agent
        roomsBefore := database.activeRoomsCount agent queue.sector
        roomsAfter := database.roomsAfter agent queue.sector pk columns
        limit := database.effectiveLimit settings agent queue } := by
  rcases holds with ⟨inForce, free⟩
  rcases free count rfl with ⟨counted, below⟩
  by_cases adds : database.AddsRoom agent queue.sector pk columns
  · have oneMore := Database.roomsAfter_of_addsRoom adds
    refine .inr ?_
    calc database.roomsAfter agent queue.sector pk columns
        = database.activeRoomsCount agent queue.sector + 1 := oneMore
      _ ≤ count + 1 := Nat.add_le_add_right counted 1
      _ ≤ limit := below
      _ ≤ database.effectiveLimit settings agent queue := inForce
  · exact .inl (Database.roomsAfter_of_not_addsRoom adds)

theorem surround_capacityRecords {database after : Database} {event : RouterSurrounding}
    (surrounded : database.surround event = some after) :
    after.capacityRecords = database.capacityRecords := by
  cases event with
  | writeRoom pk columns =>
      rw [Database.surround] at surrounded
      split at surrounded
      · cases surrounded
        rfl
      · cases surrounded
  | _ =>
      cases surrounded
      rfl

section Run

variable (Pid : Type) (settings : RouterSettings)

@[reducible] def SparesRechecks (pool : RouterPool Pid) (event : RouterEvent Pid) : Prop :=
  pool.AllowedSparing (routerProgram settings) (RouterProgress.SparesRecheck settings)
    (RouterProgress.ReadsLimitInForce settings) event

def recheckOutline (enabled : settings.agentCapacityRecheck = true) :
    SparingOutline (routerProgram settings) (RouterProgress.SparesRecheck settings)
      (RouterProgress.ReadsLimitInForce settings) where
  Invariant := Database.KeepsLimits
  Assertion := fun database progress =>
    progress.Rechecked ∧ ∀ recheck ∈ progress.recheck, recheck.Holds settings database
  Guarantee := fun _ _ => True
  enter := fun _ => ⟨trivial, fun _ impossible => by cases impossible⟩
  advance := by
    intro database progress choice after rest inForce keeps assertion advanced
    rcases assertion with ⟨rechecked, holds⟩
    refine ⟨?_, trivial, ?_⟩
    · intro record member
      rcases RouterProgress.advance_capacityRecords advanced with
        unchanged | ⟨pending, isPending, recorded⟩
      · exact keeps record (unchanged ▸ member)
      · rw [recorded] at member
        rcases List.mem_cons.mp member with rfl | before
        · rcases RouterProgress.pending_recheck rechecked isPending with
            ⟨limit, count, isRecheck⟩
          exact (holds _ isRecheck).keepsLimit pending.pk pending.columns
        · exact keeps record before
    · intro remaining same
      subst same
      exact ⟨RouterProgress.advance_rechecked enabled rechecked advanced,
        RouterProgress.advance_recheck enabled inForce holds advanced⟩
  surround := by
    intro database event after keeps surrounded
    refine ⟨?_, trivial⟩
    intro record member
    exact keeps record (surround_capacityRecords surrounded ▸ member)
  stable := fun _ spares assertion => ⟨assertion.1, spares.holds assertion.2⟩

variable {Pid settings} [DecidableEq Pid]

/-- In every run with the recheck enabled, automatic assignments keep the limits if the
rechecks read the limits in force, and nobody else gives an agent a room or lowers its limit
between its recheck and the write. -/
theorem automatic_assignments_keep_limits (enabled : settings.agentCapacityRecheck = true)
    {database : Database} (keeps : database.KeepsLimits) {final : RouterPool Pid}
    (reaches : (routerProgram settings).machine.Reaches (SparesRechecks Pid settings)
      (Pool.idle database) final) : final.shared.KeepsLimits :=
  ((recheckOutline settings enabled).holds_of_reaches reaches keeps).shared

end Run

/-! ## Two routers of one sector -/

theorem twoAgents_keepsLimits (roomsLimit : Nat) : (twoAgents roomsLimit).KeepsLimits := by
  intro record member
  cases member

def roomInEachQueue : List (RouterEvent Worker) :=
  [.surround (.writeRoom 1 (enteringRoom 1 0)), .surround (.writeRoom 2 (enteringRoom 2 0)),
    .start .first (.routeRooms 1), .start .second (.routeRooms 2)]

def firstRechecks : List (RouterEvent Worker) :=
  List.replicate 8 (.advance .first .goOn) ++ [.advance .first (.pick "ana@example.com")] ++
    List.replicate 5 (.advance .first .goOn)

def secondPicks : List (RouterEvent Worker) :=
  List.replicate 11 (.advance .second .goOn)

def secondRechecks : List (RouterEvent Worker) :=
  secondPicks ++ List.replicate 2 (.advance .second .goOn)

theorem routers_exceed_limit :
    ¬ ∀ (settings : RouterSettings) (database : Database) (final : RouterPool Worker),
      settings.agentCapacityRecheck = true → database.KeepsLimits →
      (routerProgram settings).machine.Reaches Machine.anyStep (Pool.idle database) final →
      ∀ record ∈ final.shared.capacityRecords, record.KeepsLimit := by
  intro within
  have assigns : ((routerProgram exampleSettings).machine.run (Pool.idle (twoAgents 1))
      (roomInEachQueue ++ firstRechecks ++ secondRechecks ++
        [.advance .first .goOn, .advance .second .goOn])).map
      (fun pool => decide pool.shared.KeepsLimits) = some false := by
    decide
  rcases Option.map_eq_some_iff.mp assigns with ⟨final, ran, exceeded⟩
  exact of_decide_eq_false exceeded (within exampleSettings (twoAgents 1) final rfl
    (twoAgents_keepsLimits 1) (.of_run ran))

/-- The first router has written before the second one counts, which turns the agent
down. -/
theorem second_router_finds_agent_full :
    ∃ final, (routerProgram exampleSettings).machine.runMeeting
        (SparesRechecks Worker exampleSettings) (Pool.idle (twoAgents 1))
        (roomInEachQueue ++ firstRechecks ++ secondPicks ++ [.advance .first .goOn] ++
          List.replicate 2 (.advance .second .goOn)) = some final ∧
      final.shared.KeepsLimits := by
  have assigns : ((routerProgram exampleSettings).machine.runMeeting
      (SparesRechecks Worker exampleSettings) (Pool.idle (twoAgents 1))
      (roomInEachQueue ++ firstRechecks ++ secondPicks ++ [.advance .first .goOn] ++
        List.replicate 2 (.advance .second .goOn))).map
      (fun pool => pool.shared.capacityRecords.map CapacityRecord.roomsAfter) = some [1] := by
    decide
  rcases Option.map_eq_some_iff.mp assigns with ⟨final, ran, _⟩
  exact ⟨final, ran,
    automatic_assignments_keep_limits rfl (twoAgents_keepsLimits 1) (.of_runMeeting ran)⟩

end ChatsEngine.Queues
