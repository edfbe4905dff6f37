import ChatsEngine.Rooms.TransferOutcomes

/-! # Histories that lead from holder to holder

Among the entries that an operation appends when it changes the holder of a room, one should
lead from the holder that the room had, and one to the holder that it has afterwards. -/

namespace ChatsEngine.Rooms

/-- The entries that are appended lead from the holder of the room before to the one after. -/
def Chains (directory : TransferDirectory) (before after : TransferRoom) : Prop :=
  ∃ entries, after.history = before.history ++ entries ∧
    (∃ entry ∈ entries, entry.fromData = directory.getDataFromObject before.holder) ∧
    ∃ entry ∈ entries, entry.toData = directory.getDataFromObject after.holder

/-- The operation records where the room was, and where it is now. -/
def HolderOperation.RecordsHolders (requester : UserEmail) (room : TransferRoom) :
    HolderOperation → Prop
  | .performUpdate _ (some queue) => room.user ≠ none ∨ room.queue = some queue
  | .performUpdate _ none | .pickQueueRoom | .take | .transferUserAndQueue _ _ => True
  | .transferUser user => room.user = some user ∨
      room.user = none ∧ room.queue = none ∧ requester = user
  | .transferQueue queue => room.user ≠ none ∨ room.queue = some queue

variable {directory : TransferDirectory} {requester : UserEmail} {room : TransferRoom}
  {pk : Uuid}

namespace HolderOperation

theorem leaves_holder (operation : HolderOperation) :
    (operation.leaves directory requester room).holder =
      ((operation.newUser directory requester room).map .user).or
        ((operation.newQueue room).map .queue) := by
  rw [leaves, TransferRoom.holder]
  rcases TransferRoom.foldl_addTransfer { room with
    user := operation.newUser directory requester room
    queue := operation.newQueue room } (operation.entries directory requester room)
    with ⟨user, queue, _⟩
  rw [user, queue]

theorem leaves_history (operation : HolderOperation) :
    (operation.leaves directory requester room).history =
      room.history ++ operation.entries directory requester room :=
  (TransferRoom.foldl_addTransfer _ _).2.2

theorem chains_leaves_iff (operation : HolderOperation) :
    Chains directory room (operation.leaves directory requester room) ↔
      (∃ entry ∈ operation.entries directory requester room,
        entry.fromData = directory.getDataFromObject room.holder) ∧
      ∃ entry ∈ operation.entries directory requester room,
        entry.toData = directory.getDataFromObject
          (((operation.newUser directory requester room).map .user).or
            ((operation.newQueue room).map .queue)) := by
  rw [Chains, leaves_history, leaves_holder]
  constructor
  · intro given
    rcases given with ⟨entries, appended, leads⟩
    rw [List.append_cancel_left appended]
    exact leads
  · exact fun leads => ⟨_, rfl, leads⟩

theorem records_iff (operation : HolderOperation) (accepted : operation.Accepts room) :
    ((operation.leaves directory requester room).holder ≠ room.holder →
        Chains directory room (operation.leaves directory requester room)) ↔
      operation.RecordsHolders requester room := by
  rw [chains_leaves_iff, leaves_holder]
  rcases room with ⟨user, queue, _, _, _⟩
  cases operation with
  | performUpdate given target =>
      -- the origin of the entries is the queue that is given, unless the room had a user
      cases target <;> cases given <;> cases user <;> cases queue <;>
        simp [RecordsHolders, entries, newUser, newQueue, updateOrigin, TransferRoom.holder,
          eq_comm]
  | pickQueueRoom =>
      cases accepted
      simp [RecordsHolders, entries, newUser, TransferRoom.holder]
  | take =>
      cases accepted
      simp [RecordsHolders, entries, newUser, TransferRoom.holder]
  | transferUserAndQueue given target =>
      -- one of the entries leads from the user, and the other one from the queue
      cases user <;> cases queue <;>
        simp [RecordsHolders, entries, newUser, newQueue, TransferRoom.holder]
  | transferUser given =>
      -- the entry leads to the user that the room had, or to the requester
      cases user <;> cases queue <;>
        simp [RecordsHolders, entries, newUser, newQueue, TransferRoom.holder, eq_comm]
  | transferQueue target =>
      -- the entry leads from a user, also if the room had none
      cases user <;> cases queue <;>
        simp [RecordsHolders, entries, newUser, newQueue, TransferRoom.holder, eq_comm]

end HolderOperation

/-- Exactly the operations that record both holders make a history that leads from holder to
holder. -/
theorem history_chains_iff (directory : TransferDirectory) (fault : Option TransferStep)
    (operation : HolderOperation) (requester : UserEmail) {rooms after : TransferRooms}
    {pk : Uuid} {room row : TransferRoom} (stored : rooms.lookup pk = some room)
    (returned : operation.carryOut directory fault pk room requester rooms = (.ok ⟨⟩, after))
    (left : after.lookup pk = some row) :
    (row.holder ≠ room.holder → Chains directory room row) ↔
      operation.RecordsHolders requester room := by
  have ensured := operation.carryOut_ensures directory fault requester rooms
    (RoomStored.of_lookup stored)
  rw [returned] at ensured
  rcases ensured with ⟨accepted, isStored⟩
  rw [isStored.stored] at left
  cases left
  exact operation.records_iff accepted

def exampleDirectory : TransferDirectory where
  userName := id
  userId _ := 1
  queueName _ := "support"
  lower := id

def roomOfAna : TransferRoom where
  user := some "ana"
  queue := some 1
  isActive := true
  fullTransferHistory := some []
  transferHistory := none

def roomsOfAna : TransferRooms := AList.singleton 7 roomOfAna

/-- A transfer to a user and a queue records that the room was ana's and is bob's. -/
theorem transferred_room_is_recorded :
    Chains exampleDirectory roomOfAna
      ((HolderOperation.transferUserAndQueue "bob" 2).leaves exampleDirectory "eve"
        roomOfAna) :=
  (history_chains_iff exampleDirectory none (.transferUserAndQueue "bob" 2) "eve"
    (show roomsOfAna.lookup 7 = some roomOfAna from rfl) rfl rfl).mpr trivial (by decide)

/-- A transfer to another user records that the room went from ana to ana. -/
theorem transferred_user_is_not_recorded :
    ¬∀ (operation : HolderOperation) (rooms after : TransferRooms) (room row : TransferRoom),
      rooms.lookup 7 = some room →
      operation.carryOut exampleDirectory none 7 room "eve" rooms = (.ok ⟨⟩, after) →
      after.lookup 7 = some row → row.holder ≠ room.holder →
        Chains exampleDirectory room row := by
  intro chains
  have chained := chains (.transferUser "bob") roomsOfAna _ roomOfAna
    ((HolderOperation.transferUser "bob").leaves exampleDirectory "eve" roomOfAna)
    rfl rfl rfl (by decide)
  rw [HolderOperation.chains_leaves_iff] at chained
  revert chained
  decide

end ChatsEngine.Rooms
