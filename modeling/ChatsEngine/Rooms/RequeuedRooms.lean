import ChatsEngine.Foundation.Pool
import ChatsEngine.Foundation.Table
import ChatsEngine.Rooms.InService
import Mathlib.Data.Finset.Option

/-! # Rooms of an agent who loses access to a project

`requeue_agent_rooms_task` loads the agent's rooms in the project once, and saves the instances
one after the other without their user. Requests close and reassign rooms in the meantime, and
an exception ends the execution where it is raised. The queues are routed after the last room. -/

namespace ChatsEngine.Rooms

/-- The arguments of `requeue_agent_rooms_task`. -/
structure RequeueTask where
  userEmail : UserEmail
  projectUuid : Uuid
deriving DecidableEq, Repr

structure LoadedRoom where
  uuid : Uuid
  room : RoomInstance

/-- What `requeue_agent_rooms` has done so far: the queues that it has collected, the rooms
that it has loaded and those that it has stored without user, and the queues that have
received one. -/
structure Requeuing where
  agent : UserEmail
  affectedQueues : Finset Uuid
  loaded : List Uuid
  stored : List Uuid
  received : List Uuid

inductive RequeueStage
  | loading (task : RequeueTask)
  /-- The loop has still these rooms ahead. -/
  | looping (requeuing : Requeuing) (rooms : List LoadedRoom)
  /-- `Room.save` has found the room active. -/
  | storing (requeuing : Requeuing) (room : LoadedRoom) (rooms : List LoadedRoom)
  /-- The row is stored. What `Room.save` and the loop tell others about it comes next. -/
  | notifying (requeuing : Requeuing) (room : LoadedRoom) (rooms : List LoadedRoom)
  /-- The second loop has still these queues ahead. -/
  | routing (requeuing : Requeuing) (queues : Finset Uuid) (routed : List Uuid)

inductive RequeueChoice
  | succeeds
  | raises
  | routes (queue : Uuid)
deriving DecidableEq, Repr

inductive RequeueSurrounding
  | tick (elapsed : Nat)
  | store (uuid : Uuid) (row : RoomRecord)

/-- The rooms, with a record of what executions have done wrong: the rooms that were still
active and their agent's when the execution that had loaded them ended without having stored
them, the rooms that were stored without user while they were another agent's, and the queues
that received a room from an execution that ended without routing them. -/
structure RequeueState where
  now : Instant
  rooms : Table Uuid RoomRecord
  stranded : List Uuid
  takenAway : List Uuid
  unrouted : List Uuid

namespace Requeuing

def begin (agent : UserEmail) (rooms : List LoadedRoom) : Requeuing where
  agent := agent
  affectedQueues := ∅
  loaded := rooms.map LoadedRoom.uuid
  stored := []
  received := []

/-- The room is stored, without user and in the queue that it was loaded with. -/
def stores (requeuing : Requeuing) (room : LoadedRoom) : Requeuing :=
  { requeuing with
    stored := room.uuid :: requeuing.stored
    received := (room.room.values .queue : Option Uuid).toList ++ requeuing.received }

def addQueue (requeuing : Requeuing) (queue : Uuid) : Requeuing :=
  { requeuing with affectedQueues := insert queue requeuing.affectedQueues }

def queuesWith (requeuing : Requeuing) (room : LoadedRoom) : Finset Uuid :=
  (room.room.values .queue : Option Uuid).toFinset ∪ requeuing.affectedQueues

end Requeuing

namespace RequeueStage

def agent : RequeueStage → UserEmail
  | .loading task => task.userEmail
  | .looping requeuing _ => requeuing.agent
  | .storing requeuing _ _ => requeuing.agent
  | .notifying requeuing _ _ => requeuing.agent
  | .routing requeuing _ _ => requeuing.agent

def pending : RequeueStage → Finset Uuid
  | .loading _ => ∅
  | .looping requeuing _ => requeuing.affectedQueues
  | .storing requeuing _ _ => requeuing.affectedQueues
  | .notifying requeuing room _ => requeuing.queuesWith room
  | .routing _ queues _ => queues

end RequeueStage

/-- The row that `room.user = None; room.save()` stores. -/
def requeuedRow (now : Instant) (room : RoomInstance) : RoomRecord :=
  let unassigned := room.assign [⟨.user, none⟩]
  (unassigned.assign (unassigned.saveAssignments now none)).values

namespace RequeueState

def initial (now : Instant) (rooms : Table Uuid RoomRecord) : RequeueState where
  now := now
  rooms := rooms
  stranded := []
  takenAway := []
  unrouted := []

def Assigned (state : RequeueState) (agent : UserEmail) (uuid : Uuid) : Prop :=
  ∃ row ∈ state.rooms.lookup uuid, row .isActive = true ∧ row .user = some agent

def IsClosed (state : RequeueState) (uuid : Uuid) : Prop :=
  ∃ row ∈ state.rooms.lookup uuid, row .isActive = false

def BelongsToOther (state : RequeueState) (agent : UserEmail) (uuid : Uuid) : Prop :=
  ∃ row ∈ state.rooms.lookup uuid, row .user ≠ none ∧ row .user ≠ some agent

variable (state : RequeueState) (agent : UserEmail) (uuid : Uuid)

instance : Decidable (state.Assigned agent uuid) := by
  unfold Assigned
  infer_instance

instance : Decidable (state.IsClosed uuid) := by
  unfold IsClosed
  infer_instance

instance : Decidable (state.BelongsToOther agent uuid) := by
  unfold BelongsToOther
  infer_instance

def store (requeuing : Requeuing) (room : LoadedRoom) : RequeueState :=
  { state with
    rooms := state.rooms.insert room.uuid (requeuedRow state.now room.room)
    takenAway :=
      if state.BelongsToOther requeuing.agent room.uuid then room.uuid :: state.takenAway
      else state.takenAway }

def surround : RequeueSurrounding → Option RequeueState
  | .tick elapsed => some { state with now := state.now + elapsed }
  | .store uuid row => some { state with rooms := state.rooms.insert uuid row }

section Execution

/-! `projectOf` gives the project of a queue, through its sector, and
`useQueuePriorityRouting` whether a project is configured for it. -/

variable (projectOf : Uuid → Uuid) (useQueuePriorityRouting : Uuid → Bool)

/-- The queryset of `requeue_agent_rooms_task`. -/
def roomsOf (task : RequeueTask) : List LoadedRoom :=
  (state.rooms.entries.filter fun entry =>
    Occupies projectOf task.userEmail task.projectUuid entry.2).map
      fun entry => ⟨entry.1, .load entry.2⟩

/-- `start_queue_priority_routing`, with the queues for which `route_queue_rooms` was called
before. -/
def startQueuePriorityRouting (queue : Uuid) (routed : List Uuid) : List Uuid :=
  if useQueuePriorityRouting (projectOf queue) then queue :: routed else routed

def ended (requeuing : Requeuing) (routed : List Uuid) : RequeueState :=
  { state with
    stranded :=
      requeuing.loaded.filter (fun uuid =>
        uuid ∉ requeuing.stored ∧ state.Assigned requeuing.agent uuid) ++ state.stranded
    unrouted :=
      requeuing.received.filter (fun queue =>
        queue ∉ routed ∧ useQueuePriorityRouting (projectOf queue)) ++ state.unrouted }

/-- One statement of `requeue_agent_rooms_task`. An exception is not handled anywhere. -/
def advance : RequeueStage → RequeueChoice → Option (RequeueState × Option RequeueStage)
  | .loading task, .succeeds =>
      let rooms := state.roomsOf projectOf task
      some (state, some (.looping (.begin task.userEmail rooms) rooms))
  | .loading task, .raises =>
      let requeuing := Requeuing.begin task.userEmail (state.roomsOf projectOf task)
      some (state.ended projectOf useQueuePriorityRouting requeuing [], none)
  | .looping requeuing [], .succeeds =>
      some (state, some (.routing requeuing requeuing.affectedQueues []))
  | .looping requeuing (room :: rooms), .succeeds =>
      if room.room.values .user = none then some (state, some (.looping requeuing rooms))
      else if state.IsClosed room.uuid then
        -- "Closed rooms can't receive updates"
        some (state.ended projectOf useQueuePriorityRouting requeuing [], none)
      else some (state, some (.storing requeuing room rooms))
  | .looping requeuing (_ :: _), .raises =>
      some (state.ended projectOf useQueuePriorityRouting requeuing [], none)
  | .storing requeuing room rooms, .succeeds =>
      some (state.store requeuing room, some (.notifying (requeuing.stores room) room rooms))
  | .storing requeuing _ _, .raises =>
      some (state.ended projectOf useQueuePriorityRouting requeuing [], none)
  | .notifying requeuing room rooms, .succeeds =>
      match (room.room.values .queue : Option Uuid) with
      -- `notify_queue` reads the key of the queue
      | none => some (state.ended projectOf useQueuePriorityRouting requeuing [], none)
      | some queue => some (state, some (.looping (requeuing.addQueue queue) rooms))
  | .notifying requeuing _ _, .raises =>
      some (state.ended projectOf useQueuePriorityRouting requeuing [], none)
  | .routing requeuing queues routed, .succeeds =>
      if queues = ∅ then
        some (state.ended projectOf useQueuePriorityRouting requeuing routed, none)
      else none
  | .routing requeuing queues routed, .routes queue =>
      if queue ∈ queues then
        let called := startQueuePriorityRouting projectOf useQueuePriorityRouting queue routed
        some (state, some (.routing requeuing (queues.erase queue) called))
      else none
  | .routing requeuing queues routed, .raises =>
      if queues = ∅ then none
      else some (state.ended projectOf useQueuePriorityRouting requeuing routed, none)
  | _, _ => none

end Execution

end RequeueState

def requeueProgram (projectOf : Uuid → Uuid) (useQueuePriorityRouting : Uuid → Bool) :
    Program RequeueState RequeueStage RequeueTask RequeueChoice RequeueSurrounding where
  enter := .loading
  advance := fun state => state.advance projectOf useQueuePriorityRouting
  surround := RequeueState.surround

abbrev RequeuePool (Pid : Type) := Pool Pid RequeueState RequeueStage

abbrev RequeueEvent (Pid : Type) :=
  PoolEvent Pid RequeueTask RequeueChoice RequeueSurrounding

namespace RequeueState

structure RequeuesAll (state : RequeueState) : Prop where
  stranded : state.stranded = []
  takenAway : state.takenAway = []
  unrouted : state.unrouted = []

section Exact

variable (projectOf : Uuid → Uuid) (useQueuePriorityRouting : Uuid → Bool)

def ahead (state : RequeueState) : RequeueStage → List LoadedRoom
  | .loading task => state.roomsOf projectOf task
  | .looping _ rooms => rooms
  | .storing _ room rooms => room :: rooms
  | .notifying _ _ rooms => rooms
  | .routing _ _ _ => []

/-- None of the rooms is still active and the agent's, and none of the queues belongs to a
project with priority routing. -/
def NothingLeft (state : RequeueState) (agent : UserEmail) (rooms : List LoadedRoom)
    (queues : Finset Uuid) : Prop :=
  (∀ room ∈ rooms, ¬state.Assigned agent room.uuid) ∧
    ∀ queue ∈ queues, useQueuePriorityRouting (projectOf queue) = false

def Raises (state : RequeueState) : RequeueStage → RequeueChoice → Prop
  | .looping _ (room :: _), .succeeds => state.IsClosed room.uuid
  | .notifying _ room _, .succeeds => room.room.values .queue = none
  | _, .raises => True
  | _, _ => False

/-- The room is the agent's or nobody's when it is stored without user. -/
def StoresOwn (state : RequeueState) : RequeueStage → RequeueChoice → Prop
  | .storing requeuing room _, .succeeds => ¬state.BelongsToOther requeuing.agent room.uuid
  | _, _ => True

/-- An exception finds no room that has still to be taken from the agent, and no queue that
has still to be routed. -/
structure Completes (state : RequeueState) (stage : RequeueStage) (choice : RequeueChoice) :
    Prop where
  storesOwn : state.StoresOwn stage choice
  raisesLast : state.Raises stage choice →
    state.NothingLeft projectOf useQueuePriorityRouting stage.agent (state.ahead projectOf stage)
      stage.pending

end Exact

end RequeueState

/-! ## What is left to an execution -/

section Accounts

variable (projectOf : Uuid → Uuid) (useQueuePriorityRouting : Uuid → Bool)

/-- The rooms ahead are those that have not been stored, and the queues ahead, as far as they
are routed at all, those that have not been routed since they received a room. -/
structure Requeuing.Accounts (requeuing : Requeuing) (rooms : List LoadedRoom)
    (queues : Finset Uuid) (routed : List Uuid) : Prop where
  distinct : (rooms.map LoadedRoom.uuid).Nodup
  assigned : ∀ room ∈ rooms, room.room.values .user = some requeuing.agent
  unstored : ∀ uuid, uuid ∈ requeuing.loaded ∧ uuid ∉ requeuing.stored ↔
    uuid ∈ rooms.map LoadedRoom.uuid
  unrouted : ∀ queue, useQueuePriorityRouting (projectOf queue) = true →
    (queue ∈ requeuing.received ∧ queue ∉ routed ↔ queue ∈ queues)

def RequeueStage.Consistent : RequeueStage → Prop
  | .loading _ => True
  | .looping requeuing rooms =>
      requeuing.Accounts projectOf useQueuePriorityRouting rooms requeuing.affectedQueues []
  | .storing requeuing room rooms =>
      requeuing.Accounts projectOf useQueuePriorityRouting (room :: rooms)
        requeuing.affectedQueues []
  | .notifying requeuing room rooms =>
      requeuing.Accounts projectOf useQueuePriorityRouting rooms (requeuing.queuesWith room) []
  | .routing requeuing queues routed =>
      requeuing.Accounts projectOf useQueuePriorityRouting [] queues routed

theorem Requeuing.accounts_begin (state : RequeueState) (task : RequeueTask) :
    (Requeuing.begin task.userEmail (state.roomsOf projectOf task)).Accounts projectOf
      useQueuePriorityRouting (state.roomsOf projectOf task) ∅ [] := by
  refine ⟨?_, ?_, ?_, ?_⟩
  · rw [RequeueState.roomsOf, List.map_map]
    exact Table.nodup_keys_filter state.rooms _
  · intro room member
    rcases List.mem_map.mp member with ⟨entry, selected, rfl⟩
    have occupies := of_decide_eq_true (List.mem_filter.mp selected).2
    exact occupies.2.1
  · intro uuid
    simp [Requeuing.begin]
  · intro queue _
    simp [Requeuing.begin]

variable {projectOf useQueuePriorityRouting} {state : RequeueState} {requeuing : Requeuing}
  {room : LoadedRoom} {rooms : List LoadedRoom} {queues : Finset Uuid} {routed : List Uuid}

theorem RequeueState.ended_requeuesAll_iff
    (accounts : requeuing.Accounts projectOf useQueuePriorityRouting rooms queues routed)
    (all : state.RequeuesAll) :
    (state.ended projectOf useQueuePriorityRouting requeuing routed).RequeuesAll ↔
      state.NothingLeft projectOf useQueuePriorityRouting requeuing.agent rooms queues := by
  constructor
  · intro after
    have stranded := (List.append_eq_nil_iff.mp after.stranded).1
    have unrouted := (List.append_eq_nil_iff.mp after.unrouted).1
    rw [List.filter_eq_nil_iff] at stranded unrouted
    constructor
    · intro room member isAssigned
      have unstored := (accounts.unstored room.uuid).mpr (List.mem_map_of_mem member)
      exact stranded room.uuid unstored.1 (decide_eq_true ⟨unstored.2, isAssigned⟩)
    · intro queue member
      rw [← Bool.not_eq_true]
      intro routes
      have waits := (accounts.unrouted queue routes).mpr member
      exact unrouted queue waits.1 (decide_eq_true ⟨waits.2, routes⟩)
  · intro given
    rcases given with ⟨noRoom, noQueue⟩
    refine ⟨?_, all.takenAway, ?_⟩
    · refine List.append_eq_nil_iff.mpr ⟨List.filter_eq_nil_iff.mpr ?_, all.stranded⟩
      intro uuid loaded chosen
      rcases of_decide_eq_true chosen with ⟨notStored, isAssigned⟩
      rcases List.mem_map.mp ((accounts.unstored uuid).mp ⟨loaded, notStored⟩) with
        ⟨room, member, rfl⟩
      exact noRoom room member isAssigned
    · refine List.append_eq_nil_iff.mpr ⟨List.filter_eq_nil_iff.mpr ?_, all.unrouted⟩
      intro queue received chosen
      rcases of_decide_eq_true chosen with ⟨notRouted, routes⟩
      have quiet := noQueue queue ((accounts.unrouted queue routes).mp ⟨received, notRouted⟩)
      rw [routes] at quiet
      cases quiet

theorem RequeueState.nothingLeft_nil (agent : UserEmail) :
    state.NothingLeft projectOf useQueuePriorityRouting agent [] ∅ := by
  constructor
  · intro room member
    cases member
  · intro queue member
    exact absurd member (Finset.notMem_empty queue)

theorem RequeueState.store_requeuesAll_iff (all : state.RequeuesAll) :
    (state.store requeuing room).RequeuesAll ↔
      ¬state.BelongsToOther requeuing.agent room.uuid := by
  constructor
  · intro after belongs
    have takenAway := after.takenAway
    rw [RequeueState.store] at takenAway
    simp only [if_pos belongs] at takenAway
    cases takenAway
  · intro spared
    refine ⟨all.stranded, ?_, all.unrouted⟩
    rw [RequeueState.store]
    simp only [if_neg spared]
    exact all.takenAway

namespace Requeuing

theorem Accounts.user_ne_none
    (accounts : requeuing.Accounts projectOf useQueuePriorityRouting (room :: rooms) queues
      routed) : room.room.values .user ≠ none := by
  rw [accounts.assigned room List.mem_cons_self]
  exact Option.some_ne_none _

theorem Accounts.stores
    (accounts : requeuing.Accounts projectOf useQueuePriorityRouting (room :: rooms)
      requeuing.affectedQueues []) :
    (requeuing.stores room).Accounts projectOf useQueuePriorityRouting rooms
      ((requeuing.stores room).queuesWith room) [] := by
  have distinct := accounts.distinct
  rw [List.map_cons, List.nodup_cons] at distinct
  refine ⟨distinct.2, ?_, ?_, ?_⟩
  · intro other member
    exact accounts.assigned other (List.mem_cons_of_mem _ member)
  · intro uuid
    have unstored := accounts.unstored uuid
    rw [List.map_cons, List.mem_cons] at unstored
    rw [Requeuing.stores, List.mem_cons, not_or]
    constructor
    · intro given
      rcases given with ⟨loaded, differs, notStored⟩
      exact (unstored.mp ⟨loaded, notStored⟩).resolve_left differs
    · intro later
      have before := unstored.mpr (.inr later)
      exact ⟨before.1, fun same => distinct.1 (same ▸ later), before.2⟩
  · intro queue routes
    have unrouted := accounts.unrouted queue routes
    simp only [List.not_mem_nil, not_false_eq_true, and_true] at unrouted ⊢
    rw [queuesWith, Finset.mem_union, Option.mem_toFinset, Requeuing.stores, List.mem_append,
      Option.mem_toList, unrouted]
    exact Iff.rfl

theorem queuesWith_of_queue {queue : Uuid}
    (isQueue : (room.room.values .queue : Option Uuid) = some queue) :
    requeuing.queuesWith room = (requeuing.addQueue queue).affectedQueues := by
  rw [queuesWith, isQueue, Option.toFinset_some, addQueue, Finset.insert_eq]

theorem Accounts.routes {queue : Uuid}
    (accounts : requeuing.Accounts projectOf useQueuePriorityRouting [] queues routed) :
    requeuing.Accounts projectOf useQueuePriorityRouting [] (queues.erase queue)
      (RequeueState.startQueuePriorityRouting projectOf useQueuePriorityRouting queue
        routed) := by
  refine ⟨accounts.distinct, accounts.assigned, accounts.unstored, ?_⟩
  intro other routes
  rw [Finset.mem_erase, ← accounts.unrouted other routes,
    RequeueState.startQueuePriorityRouting]
  split
  · rw [List.mem_cons, not_or]
    tauto
  · next skipped =>
      have differs : other ≠ queue := fun same => skipped (same ▸ routes)
      tauto

end Requeuing

end Accounts

namespace RequeueState

section Effects

variable (projectOf : Uuid → Uuid) (useQueuePriorityRouting : Uuid → Bool)

/-- What a statement does to the state: the execution goes on with the state as it is, or it
stores a room, or it ends, because the statement raises or because nothing is ahead any more. -/
inductive Effect (state : RequeueState) (stage : RequeueStage) (choice : RequeueChoice) :
    RequeueState → Option RequeueStage → Prop
  | goesOn {next : RequeueStage} : state.StoresOwn stage choice → ¬state.Raises stage choice →
      next.Consistent projectOf useQueuePriorityRouting →
      Effect state stage choice state (some next)
  | stores {requeuing : Requeuing} {room : LoadedRoom} {rooms : List LoadedRoom} :
      stage = .storing requeuing room rooms → choice = .succeeds →
      Effect state stage choice (state.store requeuing room)
        (some (.notifying (requeuing.stores room) room rooms))
  | ends {requeuing : Requeuing} {routed : List Uuid} : requeuing.agent = stage.agent →
      requeuing.Accounts projectOf useQueuePriorityRouting (state.ahead projectOf stage)
        stage.pending routed →
      state.StoresOwn stage choice →
      state.Raises stage choice ∨ state.ahead projectOf stage = [] ∧ stage.pending = ∅ →
      Effect state stage choice (state.ended projectOf useQueuePriorityRouting requeuing routed)
        none

variable {projectOf useQueuePriorityRouting} {state after : RequeueState}
  {stage : RequeueStage} {choice : RequeueChoice} {rest : Option RequeueStage}

theorem effect_of_raises (consistent : stage.Consistent projectOf useQueuePriorityRouting)
    (advanced : state.advance projectOf useQueuePriorityRouting stage .raises =
      some (after, rest)) :
    Effect projectOf useQueuePriorityRouting state stage .raises after rest := by
  cases stage with
  | loading task =>
      cases advanced
      have accounts :=
        Requeuing.accounts_begin projectOf useQueuePriorityRouting state task
      exact .ends rfl accounts trivial (.inl trivial)
  | looping requeuing rooms =>
      cases rooms <;> cases advanced
      exact .ends rfl consistent trivial (.inl trivial)
  | storing requeuing room rooms =>
      cases advanced
      exact .ends rfl consistent trivial (.inl trivial)
  | notifying requeuing room rooms =>
      cases advanced
      exact .ends rfl consistent trivial (.inl trivial)
  | routing requeuing queues routed =>
      rw [advance] at advanced
      split at advanced <;> cases advanced
      exact .ends rfl consistent trivial (.inl trivial)

theorem effect_of_routes {queue : Uuid}
    (consistent : stage.Consistent projectOf useQueuePriorityRouting)
    (advanced : state.advance projectOf useQueuePriorityRouting stage (.routes queue) =
      some (after, rest)) :
    Effect projectOf useQueuePriorityRouting state stage (.routes queue) after rest := by
  cases stage with
  | routing requeuing queues routed =>
      rw [advance] at advanced
      split at advanced <;> cases advanced
      exact .goesOn trivial id (Requeuing.Accounts.routes consistent)
  | looping requeuing rooms => cases rooms <;> cases advanced
  | loading task => cases advanced
  | storing requeuing room rooms => cases advanced
  | notifying requeuing room rooms => cases advanced

theorem effect_of_succeeds (consistent : stage.Consistent projectOf useQueuePriorityRouting)
    (advanced : state.advance projectOf useQueuePriorityRouting stage .succeeds =
      some (after, rest)) :
    Effect projectOf useQueuePriorityRouting state stage .succeeds after rest := by
  cases stage with
  | loading task =>
      cases advanced
      exact .goesOn trivial id
        (Requeuing.accounts_begin projectOf useQueuePriorityRouting state task)
  | looping requeuing rooms =>
      cases rooms with
      | nil =>
          cases advanced
          exact .goesOn trivial id consistent
      | cons room rooms =>
          rw [advance, if_neg (Requeuing.Accounts.user_ne_none consistent)] at advanced
          split at advanced
          · next closed =>
              cases advanced
              exact .ends rfl consistent trivial (.inl closed)
          · next found =>
              cases advanced
              exact .goesOn trivial found consistent
  | storing requeuing room rooms =>
      cases advanced
      exact .stores rfl rfl
  | notifying requeuing room rooms =>
      rw [advance] at advanced
      split at advanced
      · next noQueue =>
          cases advanced
          exact .ends rfl consistent trivial (.inl noQueue)
      · next queue isQueue =>
          cases advanced
          have silent : ¬state.Raises (.notifying requeuing room rooms) .succeeds := by
            intro noQueue
            rw [Raises, isQueue] at noQueue
            cases noQueue
          have accounts : requeuing.Accounts projectOf useQueuePriorityRouting rooms
            (requeuing.queuesWith room) [] := consistent
          rw [Requeuing.queuesWith_of_queue isQueue] at accounts
          exact .goesOn trivial silent
            ⟨accounts.distinct, accounts.assigned, accounts.unstored, accounts.unrouted⟩
  | routing requeuing queues routed =>
      rw [advance] at advanced
      split at advanced
      · next done =>
          cases advanced
          exact .ends rfl consistent trivial (.inr ⟨rfl, done⟩)
      · cases advanced

theorem effect_of_advance (consistent : stage.Consistent projectOf useQueuePriorityRouting)
    (advanced : state.advance projectOf useQueuePriorityRouting stage choice =
      some (after, rest)) :
    Effect projectOf useQueuePriorityRouting state stage choice after rest := by
  cases choice with
  | succeeds => exact effect_of_succeeds consistent advanced
  | raises => exact effect_of_raises consistent advanced
  | routes queue => exact effect_of_routes consistent advanced

theorem advance_consistent (consistent : stage.Consistent projectOf useQueuePriorityRouting)
    (advanced : state.advance projectOf useQueuePriorityRouting stage choice =
      some (after, rest)) {remaining : RequeueStage} (remains : rest = some remaining) :
    remaining.Consistent projectOf useQueuePriorityRouting := by
  cases effect_of_advance consistent advanced with
  | goesOn _ _ isConsistent =>
      cases remains
      exact isConsistent
  | stores isStage _ =>
      cases remains
      rw [isStage] at consistent
      exact Requeuing.Accounts.stores consistent
  | ends _ _ _ _ => cases remains

theorem RequeuesAll.advance_iff (all : state.RequeuesAll)
    (consistent : stage.Consistent projectOf useQueuePriorityRouting)
    (advanced : state.advance projectOf useQueuePriorityRouting stage choice =
      some (after, rest)) :
    after.RequeuesAll ↔ state.Completes projectOf useQueuePriorityRouting stage choice := by
  cases effect_of_advance consistent advanced with
  | goesOn own silent _ =>
      exact ⟨fun _ => ⟨own, fun raises => absurd raises silent⟩, fun _ => all⟩
  | stores isStage succeeds =>
      rw [store_requeuesAll_iff all, isStage, succeeds]
      constructor
      · exact fun spared => ⟨spared, fun raises => raises.elim⟩
      · exact fun completes => completes.storesOwn
  | ends agent accounts own raises =>
      rw [ended_requeuesAll_iff accounts all, agent]
      constructor
      · exact fun nothing => ⟨own, fun _ => nothing⟩
      · intro completes
        rcases raises with raises | ⟨noRoom, noQueue⟩
        · exact completes.raisesLast raises
        · rw [noRoom, noQueue]
          exact nothingLeft_nil stage.agent

theorem RequeuesAll.surround {event : RequeueSurrounding} (all : state.RequeuesAll)
    (surrounded : state.surround event = some after) : after.RequeuesAll := by
  cases event with
  | tick elapsed =>
      cases surrounded
      exact ⟨all.stranded, all.takenAway, all.unrouted⟩
  | store uuid row =>
      cases surrounded
      exact ⟨all.stranded, all.takenAway, all.unrouted⟩

end Effects

end RequeueState

section Run

variable (projectOf : Uuid → Uuid) (useQueuePriorityRouting : Uuid → Bool) (Pid : Type)

def requeueOutline :
    Outline (requeueProgram projectOf useQueuePriorityRouting)
      (Machine.anyStep : RequeuePool Pid → RequeueEvent Pid → Prop) where
  Invariant := fun _ => True
  Assertion := fun _ stage => stage.Consistent projectOf useQueuePriorityRouting
  Guarantee := fun _ _ => True
  enter := fun _ => trivial
  advance := fun _ _ _ consistent advanced =>
    ⟨trivial, trivial, fun _ remains =>
      RequeueState.advance_consistent consistent advanced remains⟩
  surround := fun _ _ _ => ⟨trivial, trivial⟩
  stable := fun _ consistent => consistent

variable {Pid} [DecidableEq Pid]

end Run

/-! ## A room that is reassigned, and one that is closed, while the loop runs -/

def agentRoom (agent : UserEmail) : RoomRecord :=
  (RoomRecord.defaults 0).assign [⟨.queue, some 10⟩, ⟨.user, some agent⟩]

def agentRooms : Table Uuid RoomRecord :=
  ((AList.singleton 3 (agentRoom "agent")).insert 2 (agentRoom "agent")).insert
    1 (agentRoom "agent")

/-- The first room is transferred after it has been loaded, and the second one is closed before
it is saved. The third one is not reached. -/
def disturbedRequeuing : List (RequeueEvent Nat) :=
  [.start 0 ⟨"agent", 0⟩, .advance 0 .succeeds,
    .surround (.store 1 (agentRoom "colleague")),
    .advance 0 .succeeds, .advance 0 .succeeds, .advance 0 .succeeds,
    .surround (.store 2 ((agentRoom "agent").assign [⟨.isActive, false⟩])),
    .advance 0 .succeeds]

end ChatsEngine.Rooms
