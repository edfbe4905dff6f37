import ChatsEngine.Rooms.Operations

/-! # Rooms that are taken from the queue

Four operations give a queued room to an agent. Each loads the room, looks whether it has a
user, and stores the whole row later. Other operations may store the room without user in
between, or leave its user as it is. Only the user of the loaded instance is looked at, so
that the room is taken twice where the stored user has changed since. -/

namespace ChatsEngine.Rooms

structure TakeOperation where
  activeOnly : Bool
deriving DecidableEq, Repr

namespace TakeOperation

/-- One round of the loop in `QueueRouterService.route_rooms`, from `refresh_from_db`. -/
def routeRooms : TakeOperation := ⟨false⟩

def pickQueueRoom : TakeOperation := ⟨false⟩

/-- `BulkTakeService.take`, for one room of a batch. -/
def take : TakeOperation := ⟨false⟩

def partialUpdate : TakeOperation := ⟨true⟩

end TakeOperation

/-- The room, with the agents who have been given it since it was last stored without user. -/
structure QueuedRoom where
  now : Instant
  row : RoomRecord
  taken : List UserEmail

structure TakeTask where
  operation : TakeOperation
  agent : UserEmail
deriving DecidableEq, Repr

inductive TakeStage
  | loading (task : TakeTask)
  | guarding (room : RoomInstance) (agent : UserEmail)
  /-- `Room.save` has found the room active. -/
  | storing (room : RoomInstance) (agent : UserEmail)

inductive RoomWrite
  | tick (elapsed : Nat)
  | write (assignments : List RoomAssignment)

namespace QueuedRoom

def queued (now : Instant) (row : RoomRecord) : QueuedRoom where
  now := now
  row := row
  taken := []

/-- The row that `room.user = agent; room.save()` stores. -/
def assigned (database : QueuedRoom) (room : RoomInstance) (agent : UserEmail) : RoomRecord :=
  let assigned := room.assign [⟨.user, some agent⟩]
  (assigned.assign (assigned.saveAssignments database.now none)).values

/-- An operation that finds a user, or none of its rooms, goes no further. One that finds no
agent or raises an exception ends just as if it was killed. -/
def advance (database : QueuedRoom) : TakeStage → Unit → Option (QueuedRoom × Option TakeStage)
  | .loading task, _ =>
      if task.operation.activeOnly && !database.row .isActive then some (database, none)
      else if (database.row .user).isSome then some (database, none)
      else some (database, some (.guarding (.load database.row) task.agent))
  | .guarding room agent, _ =>
      if database.row .isActive then some (database, some (.storing room agent))
      else some (database, none)
  | .storing room agent, _ =>
      let row := database.row.store (database.assigned room agent) none
      some ({ database with row, taken := agent :: database.taken }, none)

def surround (database : QueuedRoom) : RoomWrite → Option QueuedRoom
  | .tick elapsed => some { database with now := database.now + elapsed }
  | .write assignments =>
      let row := database.row.assign assignments
      if row .user = none then some { database with row, taken := [] }
      else if row .user = database.row .user then some { database with row }
      else none

end QueuedRoom

def takeProgram : Program QueuedRoom TakeStage TakeTask Unit RoomWrite where
  enter := .loading
  advance := QueuedRoom.advance
  surround := QueuedRoom.surround

abbrev TakePool (Pid : Type) := Pool Pid QueuedRoom TakeStage

abbrev TakeEvent (Pid : Type) := PoolEvent Pid TakeTask Unit RoomWrite

namespace QueuedRoom

variable {database after : QueuedRoom} {stage : TakeStage} {rest : Option TakeStage}

structure TakenOnce (database : QueuedRoom) : Prop where
  once : database.taken.length ≤ 1
  stored : ∀ agent ∈ database.taken, database.row .user = some agent

def IsQueuedUntaken (database : QueuedRoom) : Prop :=
  database.row .user = none ↔ database.taken = []

/-- The user of the room is still the one with which the operation loaded it. -/
def StoresInTime (database : QueuedRoom) : TakeStage → Unit → Prop
  | .storing room _, _ => database.row .user = room.values .user
  | _, _ => True

instance : (stage : TakeStage) → (choice : Unit) → Decidable (database.StoresInTime stage choice)
  | .loading _, _ => inferInstanceAs (Decidable True)
  | .guarding _ _, _ => inferInstanceAs (Decidable True)
  | .storing room _, _ => inferInstanceAs (Decidable (database.row .user = room.values .user))

end QueuedRoom

def TakeStage.LoadedQueued : TakeStage → Prop
  | .loading _ => True
  | .guarding room _ => room.values .user = none
  | .storing room _ => room.values .user = none

namespace QueuedRoom

variable {database after : QueuedRoom} {stage : TakeStage} {rest : Option TakeStage}

theorem assigned_user (room : RoomInstance) (agent : UserEmail) :
    database.assigned room agent .user = some agent := by
  have spared : RoomColumn.user ∉ RoomInstance.stampedColumns := by decide
  rw [assigned, RoomInstance.saveAssignments_spare spared]
  rfl

theorem advance_cases (advanced : database.advance stage () = some (after, rest)) :
    (after = database ∧ database.StoresInTime stage ()) ∨
      ∃ room agent, stage = .storing room agent ∧ after.taken = agent :: database.taken ∧
        after.row .user = some agent := by
  cases stage with
  | loading task =>
      rw [advance] at advanced
      split at advanced
      · cases advanced
        exact .inl ⟨rfl, trivial⟩
      · split at advanced <;> cases advanced
        · exact .inl ⟨rfl, trivial⟩
        · exact .inl ⟨rfl, trivial⟩
  | guarding room agent =>
      rw [advance] at advanced
      split at advanced <;> cases advanced
      · exact .inl ⟨rfl, trivial⟩
      · exact .inl ⟨rfl, trivial⟩
  | storing room agent =>
      cases advanced
      refine .inr ⟨room, agent, rfl, rfl, ?_⟩
      have stores : Record.Stores none RoomColumn.user := trivial
      dsimp only
      rw [Record.store_of_stores _ _ stores]
      exact assigned_user room agent

theorem advance_loadedQueued (queued : stage.LoadedQueued)
    (advanced : database.advance stage () = some (after, rest)) :
    ∀ remaining, rest = some remaining → remaining.LoadedQueued := by
  intro remaining goesOn
  subst goesOn
  cases stage with
  | loading task =>
      rw [advance] at advanced
      split at advanced
      · cases advanced
      · split at advanced
        · cases advanced
        · next noUser =>
            cases advanced
            exact Option.not_isSome_iff_eq_none.mp noUser
  | guarding room agent =>
      rw [advance] at advanced
      split at advanced <;> cases advanced
      exact queued
  | storing room agent => cases advanced

theorem TakenOnce.advance_iff (untaken : database.IsQueuedUntaken) (queued : stage.LoadedQueued)
    (once : database.TakenOnce) (advanced : database.advance stage () = some (after, rest)) :
    after.TakenOnce ↔ database.StoresInTime stage () := by
  rcases advance_cases advanced with ⟨rfl, inTime⟩ | ⟨room, agent, rfl, taken, user⟩
  · exact ⟨fun _ => inTime, fun _ => once⟩
  · have tested : room.values .user = none := queued
    rw [StoresInTime, tested]
    refine Iff.trans ?_ untaken.symm
    constructor
    · intro next
      have length := next.once
      rw [taken, List.length_cons] at length
      exact List.length_eq_zero_iff.mp (by omega)
    · intro none
      rw [none] at taken
      refine ⟨by simp [taken], ?_⟩
      intro other member
      rw [taken, List.mem_singleton] at member
      exact member ▸ user

theorem IsQueuedUntaken.surround {event : RoomWrite} (untaken : database.IsQueuedUntaken)
    (surrounded : database.surround event = some after) : after.IsQueuedUntaken := by
  cases event with
  | tick elapsed =>
      cases surrounded
      exact untaken
  | write assignments =>
      simp only [QueuedRoom.surround] at surrounded
      split at surrounded
      · next none =>
          cases surrounded
          exact ⟨fun _ => rfl, fun _ => none⟩
      · next user =>
          split at surrounded <;> cases surrounded
          next same =>
            rw [IsQueuedUntaken] at untaken ⊢
            dsimp only
            rw [same]
            exact untaken

theorem TakenOnce.surround {event : RoomWrite} (once : database.TakenOnce)
    (surrounded : database.surround event = some after) : after.TakenOnce := by
  cases event with
  | tick elapsed =>
      cases surrounded
      exact ⟨once.once, once.stored⟩
  | write assignments =>
      simp only [QueuedRoom.surround] at surrounded
      split at surrounded
      · cases surrounded
        exact ⟨Nat.zero_le _, fun _ member => by cases member⟩
      · split at surrounded <;> cases surrounded
        next same => exact ⟨once.once, fun agent member => same.trans (once.stored agent member)⟩

end QueuedRoom

section Run

variable (Pid : Type)

def takeOutline :
    Outline takeProgram (Machine.anyStep : TakePool Pid → TakeEvent Pid → Prop) where
  Invariant := QueuedRoom.IsQueuedUntaken
  Assertion := fun _ stage => stage.LoadedQueued
  Guarantee := fun _ _ => True
  enter := fun _ => trivial
  advance := by
    intro pool pid choice stage after rest _ _ untaken queued advanced
    refine ⟨?_, trivial, QueuedRoom.advance_loadedQueued queued advanced⟩
    rcases QueuedRoom.advance_cases advanced with ⟨rfl, _⟩ | ⟨room, agent, _, taken, user⟩
    · exact untaken
    · rw [QueuedRoom.IsQueuedUntaken, taken, user]
      simp
  surround := fun _ untaken surrounded => ⟨untaken.surround surrounded, trivial⟩
  stable := fun _ queued => queued

variable {Pid} [DecidableEq Pid]

/-- Between two moments at which the room is stored without user, at most one operation
takes it and it is stored with that operation's agent, exactly if the user of the room is the
same whenever an operation stores it as when the operation loaded it. -/
theorem taken_once_iff (now : Instant) (row : RoomRecord) (queued : row .user = none)
    (events : List (TakeEvent Pid)) :
    takeProgram.machine.Throughout (fun pool => pool.shared.TakenOnce)
        (Pool.idle (.queued now row)) events ↔
      takeProgram.machine.AllSteps (fun pool event => pool.OwnStep QueuedRoom.StoresInTime event)
        (Pool.idle (.queued now row)) events := by
  have untaken : (QueuedRoom.queued now row).IsQueuedUntaken := ⟨fun _ => rfl, fun _ => queued⟩
  have initially : (QueuedRoom.queued now row).TakenOnce :=
    ⟨Nat.zero_le _, fun _ member => by cases member⟩
  have advance_iff : ∀ database stage choice after rest, QueuedRoom.IsQueuedUntaken database →
      stage.LoadedQueued → database.TakenOnce →
      takeProgram.advance database stage choice = some (after, rest) →
      (after.TakenOnce ↔ database.StoresInTime stage choice) :=
    fun _ _ _ _ _ untaken queued once advanced => once.advance_iff untaken queued advanced
  have surround_keeps : ∀ database event after, QueuedRoom.IsQueuedUntaken database →
      database.TakenOnce → takeProgram.surround database event = some after → after.TakenOnce :=
    fun _ _ _ _ once surrounded => once.surround surrounded
  exact (takeOutline Pid).throughout_iff advance_iff surround_keeps untaken initially events

end Run

/-! ## Two agents who pick the same room -/

def picks (pid : Nat) (agent : UserEmail) : TakeEvent Nat :=
  .start pid ⟨.pickQueueRoom, agent⟩

/-- One agent picks the room, and another one is told that it is not queued. When it is back
in the queue, the other one picks it. -/
def pickedInTurn : List (TakeEvent Nat) :=
  [picks 0 "a", .advance 0 (), .advance 0 (), .advance 0 (), picks 1 "b", .advance 1 (),
    .surround (.write [⟨.user, none⟩]), picks 2 "b", .advance 2 (), .advance 2 (), .advance 2 ()]

theorem taken_once_of_pickedInTurn :
    takeProgram.machine.Throughout (fun pool => pool.shared.TakenOnce)
        (Pool.idle (.queued 0 (.defaults 0))) pickedInTurn ∧
      (takeProgram.machine.run (Pool.idle (.queued 0 (.defaults 0))) pickedInTurn).map
        (fun pool => (pool.shared.row .user, pool.shared.taken)) = some (some "b", ["b"]) :=
  ⟨(taken_once_iff 0 (.defaults 0) rfl pickedInTurn).mpr (by decide), by decide⟩

/-- Both agents load the room before one of them stores it. -/
def pickedAtOnce : List (TakeEvent Nat) :=
  [picks 0 "a", .advance 0 (), picks 1 "b", .advance 1 (), .advance 0 (), .advance 0 (),
    .advance 1 (), .advance 1 ()]

theorem taken_twice_of_pickedAtOnce :
    ¬∀ (now : Instant) (row : RoomRecord) (events : List (TakeEvent Nat)), row .user = none →
      takeProgram.machine.Throughout (fun pool => pool.shared.TakenOnce)
        (Pool.idle (.queued now row)) events := by
  intro once
  have ends : (takeProgram.machine.run (Pool.idle (.queued 0 (.defaults 0)))
      pickedAtOnce).map (fun pool => pool.shared.taken) = some ["b", "a"] := by
    decide
  rcases Option.map_eq_some_iff.mp ends with ⟨final, ran, taken⟩
  have single := ((once 0 (.defaults 0) pickedAtOnce rfl).of_run ran).once
  rw [taken] at single
  cases single with
  | step impossible => cases impossible

end ChatsEngine.Rooms
