import ChatsEngine.Messages.BulkSend

/-! # The preview of bulk sends

Before a bulk send is started, the rooms that match its filter are announced. The
preview and the dispatch are separate queries. Here both read the statuses as the
strings that they receive. -/

namespace ChatsEngine.Messages

def BulkMessageSendRoomStatus.value : BulkMessageSendRoomStatus → String
  | .ongoing => "ongoing"
  | .waiting => "waiting"

theorem BulkMessageSendRoomStatus.value_injective :
    Function.Injective BulkMessageSendRoomStatus.value := by
  intro status other same
  cases status <;> cases other <;> first | rfl | simp [value] at same

/-- What the manager has chosen, for the preview and then for the bulk send. -/
structure BulkSendFilter where
  project : Uuid
  statuses : List String
  queues : Option (List Uuid)
  agents : Option (List UserEmail)
  deriving DecidableEq, Repr

/-- What `StartBulkSendMessagesUseCase` stores of the filter. -/
structure StoredFilter where
  statuses : List String
  queues : List Uuid
  agents : List UserEmail
  deriving DecidableEq, Repr

def BulkSendFilter.snapshot (filter : BulkSendFilter) : StoredFilter where
  statuses := filter.statuses
  queues := filter.queues.getD []
  agents := filter.agents.getD []

namespace BulkSendRoom

variable (room : BulkSendRoom)

def InProject (project : Uuid) : Prop :=
  room.isActive = true ∧
    ∃ queue ∈ room.queue, queue.project = project ∧ queue.isDeleted = false ∧
      queue.sectorIsDeleted = false

def InQueues (queues : List Uuid) : Prop :=
  queues = [] ∨ ∃ queue ∈ room.queue, queue.uuid ∈ queues

def OfAgents (agents : List UserEmail) : Prop :=
  agents = [] ∨ ∃ user ∈ room.user, user ∈ agents

instance (project : Uuid) : Decidable (room.InProject project) :=
  inferInstanceAs (Decidable (_ ∧ ∃ queue ∈ room.queue, _))

instance (queues : List Uuid) : Decidable (room.InQueues queues) :=
  inferInstanceAs (Decidable (_ ∨ ∃ queue ∈ room.queue, _))

instance (agents : List UserEmail) : Decidable (room.OfAgents agents) :=
  inferInstanceAs (Decidable (_ ∨ ∃ user ∈ room.user, _))

end BulkSendRoom

/-! ## The two queries -/

/-- Some status that the two queries know has been chosen. The filter of an empty `Q`
selects all rooms. -/
def NamesStatus (statuses : List String) : Prop :=
  BulkMessageSendRoomStatus.waiting.value ∈ statuses ∨
    BulkMessageSendRoomStatus.ongoing.value ∈ statuses

instance (statuses : List String) : Decidable (NamesStatus statuses) :=
  inferInstanceAs (Decidable (_ ∨ _))

/-- `status_q` of `GetRoomsCountForSendBulkMsgsUseCase`. -/
def BulkSendRoom.AnnouncedStatus (room : BulkSendRoom) (statuses : List String) : Prop :=
  (BulkMessageSendRoomStatus.waiting.value ∈ statuses ∧ room.user.isNone) ∨
    (BulkMessageSendRoomStatus.ongoing.value ∈ statuses ∧ room.user.isSome)

/-- `status_q` of `GetBulkSendRoomsUseCase`. -/
def BulkSendRoom.DispatchedStatus (room : BulkSendRoom) (statuses : List String) : Prop :=
  (BulkMessageSendRoomStatus.ongoing.value ∈ statuses ∧ room.MatchesStatus .ongoing) ∨
    (BulkMessageSendRoomStatus.waiting.value ∈ statuses ∧ room.MatchesStatus .waiting)

instance (room : BulkSendRoom) (statuses : List String) :
    Decidable (room.AnnouncedStatus statuses) :=
  inferInstanceAs (Decidable (_ ∨ _))

instance (room : BulkSendRoom) (statuses : List String) :
    Decidable (room.DispatchedStatus statuses) :=
  inferInstanceAs (Decidable (_ ∨ _))

/-- The rooms that `GetRoomsCountForSendBulkMsgsUseCase` counts. -/
def BulkSendFilter.Announces (filter : BulkSendFilter) (room : BulkSendRoom) : Prop :=
  room.InProject filter.project ∧
    (NamesStatus filter.statuses → room.AnnouncedStatus filter.statuses) ∧
    room.InQueues (filter.queues.getD []) ∧ room.OfAgents (filter.agents.getD [])

/-- The rooms that `GetBulkSendRoomsUseCase` selects. -/
def StoredFilter.Dispatches (project : Uuid) (stored : StoredFilter) (room : BulkSendRoom) :
    Prop :=
  room.InProject project ∧ room.InQueues stored.queues ∧ room.OfAgents stored.agents ∧
    stored.statuses ≠ [] ∧
    (NamesStatus stored.statuses → room.DispatchedStatus stored.statuses)

instance (filter : BulkSendFilter) : DecidablePred filter.Announces := fun _ =>
  inferInstanceAs (Decidable (_ ∧ _))

instance (project : Uuid) (stored : StoredFilter) : DecidablePred (stored.Dispatches project) :=
  fun _ => inferInstanceAs (Decidable (_ ∧ _))

def getRoomsCountForSendBulkMsgs (filter : BulkSendFilter) (rooms : Table Uuid BulkSendRoom) :
    Nat :=
  rooms.entries.countP fun entry => filter.Announces entry.2

def getBulkSendRoomUuids (project : Uuid) (stored : StoredFilter)
    (rooms : Table Uuid BulkSendRoom) : List Uuid :=
  (rooms.entries.filter fun entry => stored.Dispatches project entry.2).map Sigma.fst

def BulkMessageSend.stored (bulkSend : BulkMessageSend) : StoredFilter where
  statuses := bulkSend.filterSnapshot.statuses.map BulkMessageSendRoomStatus.value
  queues := bulkSend.filterSnapshot.queues
  agents := bulkSend.filterSnapshot.agents

theorem value_mem_map {status : BulkMessageSendRoomStatus}
    {statuses : List BulkMessageSendRoomStatus} :
    status.value ∈ statuses.map BulkMessageSendRoomStatus.value ↔ status ∈ statuses :=
  List.mem_map_of_injective BulkMessageSendRoomStatus.value_injective

theorem dispatches_iff_selects (bulkSend : BulkMessageSend) (room : BulkSendRoom) :
    bulkSend.stored.Dispatches bulkSend.project room ↔ bulkSend.Selects room := by
  have statuses : (bulkSend.stored.statuses ≠ [] ∧ (NamesStatus bulkSend.stored.statuses →
      room.DispatchedStatus bulkSend.stored.statuses)) ↔
      ∃ status ∈ bulkSend.filterSnapshot.statuses, room.MatchesStatus status := by
    simp only [BulkMessageSend.stored, NamesStatus, BulkSendRoom.DispatchedStatus, value_mem_map,
      ne_eq, List.map_eq_nil_iff]
    constructor
    · intro given
      rcases given with ⟨nonempty, matched⟩
      rcases List.exists_mem_of_ne_nil _ nonempty with ⟨status, member⟩
      have named : .waiting ∈ bulkSend.filterSnapshot.statuses ∨
          .ongoing ∈ bulkSend.filterSnapshot.statuses := by
        cases status with
        | waiting => exact .inl member
        | ongoing => exact .inr member
      rcases matched named with ⟨listed, matching⟩ | ⟨listed, matching⟩
      · exact ⟨.ongoing, listed, matching⟩
      · exact ⟨.waiting, listed, matching⟩
    · intro given
      rcases given with ⟨status, member, matching⟩
      constructor
      · exact List.ne_nil_of_mem member
      · intro _
        cases status with
        | ongoing => exact .inl ⟨member, matching⟩
        | waiting => exact .inr ⟨member, matching⟩
  simp only [StoredFilter.Dispatches, BulkMessageSend.Selects, BulkSendRoom.InProject,
    BulkSendRoom.InQueues, BulkSendRoom.OfAgents]
  rw [statuses]
  simp only [BulkMessageSend.stored]
  constructor
  · intro given
    rcases given with ⟨⟨active, queue, own, project, kept, sectorKept⟩, queues, agents, matched⟩
    refine ⟨active, ⟨queue, own, project, kept, sectorKept, queues.imp id ?_⟩, agents, matched⟩
    intro given
    rcases given with ⟨other, same, member⟩
    cases Option.mem_unique own same
    exact member
  · intro given
    rcases given with ⟨active, ⟨queue, own, project, kept, sectorKept, queues⟩, agents, matched⟩
    exact ⟨⟨active, queue, own, project, kept, sectorKept⟩,
      queues.imp id fun member => ⟨queue, own, member⟩, agents, matched⟩

/-! ## What the preview announces -/

/-- A room that waits for an answer to a flow, which the preview counts among the rooms
with one of the statuses. -/
def BulkSendFilter.AnnouncesFlowStart (filter : BulkSendFilter) (room : BulkSendRoom) : Prop :=
  filter.Announces room ∧ NamesStatus filter.statuses ∧ room.isWaiting = true

instance (filter : BulkSendFilter) : DecidablePred filter.AnnouncesFlowStart := fun _ =>
  inferInstanceAs (Decidable (_ ∧ _))

theorem BulkSendRoom.dispatchedStatus_iff (room : BulkSendRoom) (statuses : List String) :
    room.DispatchedStatus statuses ↔ room.AnnouncedStatus statuses ∧ room.isWaiting = false := by
  simp only [DispatchedStatus, AnnouncedStatus, MatchesStatus]
  tauto

theorem dispatches_snapshot_iff {filter : BulkSendFilter} (nonempty : filter.statuses ≠ [])
    (room : BulkSendRoom) :
    filter.snapshot.Dispatches filter.project room ↔
      filter.Announces room ∧ ¬filter.AnnouncesFlowStart room := by
  simp only [StoredFilter.Dispatches, BulkSendFilter.snapshot, BulkSendFilter.AnnouncesFlowStart,
    BulkSendFilter.Announces, BulkSendRoom.dispatchedStatus_iff, ne_eq, nonempty]
  cases room.isWaiting <;> simp <;> tauto

/-- The preview announces the rooms that are dispatched to, and besides them the rooms
that wait for an answer to a flow. -/
theorem announced_eq_dispatched_add_flow_starts (filter : BulkSendFilter)
    (rooms : Table Uuid BulkSendRoom) (nonempty : filter.statuses ≠ []) :
    (∀ room, filter.snapshot.Dispatches filter.project room → filter.Announces room) ∧
      getRoomsCountForSendBulkMsgs filter rooms =
        (getBulkSendRoomUuids filter.project filter.snapshot rooms).length +
          rooms.entries.countP (fun entry => filter.AnnouncesFlowStart entry.2) := by
  constructor
  · intro room dispatched
    exact ((dispatches_snapshot_iff nonempty room).mp dispatched).1
  · rw [getRoomsCountForSendBulkMsgs, getBulkSendRoomUuids, List.length_map,
      ← List.countP_eq_length_filter,
      List.countP_eq_countP_filter_add rooms.entries _
        (fun entry => decide (filter.AnnouncesFlowStart entry.2)),
      List.countP_filter, List.countP_filter, Nat.add_comm]
    congr 1
    · apply List.countP_congr
      intro entry _
      simp [dispatches_snapshot_iff nonempty]
    · apply List.countP_congr
      intro entry _
      simp only [Bool.and_eq_true, decide_eq_true_eq]
      exact ⟨fun both => both.2, fun flowStart => ⟨flowStart.1, flowStart⟩⟩

def queuedAndFlowStart : Table Uuid BulkSendRoom :=
  oneWaitingRoom.insert 2 { waitingRoom with isWaiting := true }

def bothStatuses : BulkSendFilter := ⟨0, ["waiting", "ongoing"], none, none⟩

theorem two_rooms_are_announced_and_one_dispatched :
    getRoomsCountForSendBulkMsgs bothStatuses queuedAndFlowStart = 2 ∧
      (getBulkSendRoomUuids 0 bothStatuses.snapshot queuedAndFlowStart).length = 1 := by
  have announced := (announced_eq_dispatched_add_flow_starts bothStatuses queuedAndFlowStart
    (by decide)).2
  have flowStarts : queuedAndFlowStart.entries.countP (fun entry =>
      bothStatuses.AnnouncesFlowStart entry.2) = 1 := by
    decide
  have dispatched : (getBulkSendRoomUuids 0 bothStatuses.snapshot queuedAndFlowStart).length =
      1 := by
    decide
  constructor
  · rw [announced, flowStarts]
    exact congrArg (· + 1) dispatched
  · exact dispatched

theorem preview_differs_from_dispatch :
    ¬∀ (filter : BulkSendFilter) (rooms : Table Uuid BulkSendRoom), filter.statuses ≠ [] →
      getRoomsCountForSendBulkMsgs filter rooms =
        (getBulkSendRoomUuids filter.project filter.snapshot rooms).length := by
  intro equal
  have same := equal bothStatuses queuedAndFlowStart (by decide)
  revert same
  decide

end ChatsEngine.Messages
