import ChatsEngine.Rooms.Transfers

/-! # What a transfer leaves behind

Which user, queue and history a room has after an operation that returns, and after one that
raises somewhere in between. The other rooms stay as they are. -/

namespace ChatsEngine.Rooms

structure RoomStored (initial : TransferRooms) (pk : Uuid) (row : TransferRoom)
    (rooms : TransferRooms) : Prop where
  stored : rooms.lookup pk = some row
  spared : ∀ other ≠ pk, rooms.lookup other = initial.lookup other

/-- The statement that raises comes after the one that stores a picked room. -/
def RaisesAfterStoring (fault : Option TransferStep) : Prop :=
  fault ∈ [some (.afterStoring 0), some (.storingHistory 0), some (.afterStoringHistory 0),
    some (.creatingFeedbackMessage 0)]

instance (fault : Option TransferStep) : Decidable (RaisesAfterStoring fault) :=
  inferInstanceAs (Decidable (fault ∈ [_, _, _, _]))

variable {initial rooms : TransferRooms} {pk : Uuid} {row room old : TransferRoom}
  {fault : Option TransferStep} {transfer : Transfer} {call : Nat}
  {before : TransferRooms → Prop} {Result : Type} {directory : TransferDirectory}

theorem RoomStored.of_lookup (stored : rooms.lookup pk = some row) : RoomStored rooms pk row rooms where
  stored := stored
  spared := fun _ _ => rfl

theorem RoomStored.insert (stored : RoomStored initial pk old rooms) (row : TransferRoom) :
    RoomStored initial pk row (rooms.insert pk row) where
  stored := AList.lookup_insert _
  spared := by
    intro other different
    rw [AList.lookup_insert_ne different]
    exact stored.spared other different

theorem RoomStored.modify (stored : RoomStored initial pk old rooms)
    (change : TransferRoom → TransferRoom) :
    RoomStored initial pk (change old) (rooms.modify pk change) := by
  rw [Table.modify, stored.stored]
  exact stored.insert (change old)

namespace TransferAction

/-! ## What the statements do -/

theorem steps_ensures {points : List TransferStep}
    {returns : PUnit → TransferRooms → Prop} {raises : TransferError → TransferRooms → Prop}
    (passes : ∀ rooms, before rooms → (∀ point ∈ points, fault ≠ some point) → returns ⟨⟩ rooms)
    (fails : ∀ rooms, before rooms → ∀ point ∈ points, fault = some point →
      raises (.raised point) rooms) :
    Action.Ensures before (steps fault points) returns raises := by
  cases fault with
  | none => exact Action.Ensures.pure fun rooms starts => passes rooms starts (by simp)
  | some point =>
      apply Action.Ensures.require
      · intro rooms starts spared
        apply passes rooms starts
        intro other isPoint same
        cases same
        exact spared isPoint
      · intro rooms starts isPoint
        exact fails rooms starts point (Decidable.not_not.mp isPoint) rfl

theorem steps_bind {points : List TransferStep} {next : PUnit → TransferAction Result}
    {returns : Result → TransferRooms → Prop} {raises : TransferError → TransferRooms → Prop}
    (fails : ∀ point ∈ points, fault = some point → ∀ rooms, before rooms →
      raises (.raised point) rooms)
    (rest : (∀ point ∈ points, fault ≠ some point) →
      Action.Ensures before (next ⟨⟩) returns raises) :
    Action.Ensures before (steps fault points >>= next) returns raises := by
  apply Action.Ensures.bind fun _ rooms =>
    before rooms ∧ ∀ point ∈ points, fault ≠ some point
  · exact steps_ensures (fun _ starts spared => ⟨starts, spared⟩)
      fun rooms starts point isPoint same => fails point isPoint same rooms starts
  · exact fun _ rooms starts => rest starts.2 rooms starts.1

theorem checkActive_bind {next : PUnit → TransferAction Result}
    {returns : Result → TransferRooms → Prop} {raises : TransferError → TransferRooms → Prop}
    (refused : ∀ rooms, before rooms →
      (rooms.lookup pk).map TransferRoom.isActive = some false → raises .closedRoom rooms)
    (rest : Action.Ensures before (next ⟨⟩) returns raises) :
    Action.Ensures before (checkActive pk >>= next) returns raises := by
  apply Action.Ensures.bind fun _ => before
  · apply Action.Ensures.query_bind
    intro found
    apply Action.Ensures.require
    · exact fun _ starts _ => starts.1
    · intro rooms starts isClosed
      apply refused rooms starts.1
      rw [starts.2]
      exact Decidable.not_not.mp isClosed
  · exact fun _ => rest

theorem save_ensures :
    Action.Ensures (RoomStored initial pk old) (save fault call pk room)
      (fun _ rooms => RoomStored initial pk room rooms ∧
        fault ≠ some (.storing call) ∧ fault ≠ some (.afterStoring call))
      (fun _ rooms => RoomStored initial pk old rooms ∧
          (old.isActive = false ∨ fault = some (.storing call)) ∨
        RoomStored initial pk room rooms ∧ fault = some (.afterStoring call)) := by
  apply checkActive_bind
  · intro rooms starts isClosed
    rw [starts.stored] at isClosed
    exact .inl ⟨starts, .inl (Option.some.inj isClosed)⟩
  apply steps_bind
  · intro point isPoint same rooms starts
    rw [List.mem_singleton.mp isPoint] at same
    exact .inl ⟨starts, .inr same⟩
  intro spared
  apply Action.Ensures.bind fun _ => RoomStored initial pk room
  · exact Action.Ensures.update fun rooms starts => starts.insert room
  intro _
  apply steps_ensures
  · exact fun _ starts later => ⟨starts, spared _ (by simp), later _ (by simp)⟩
  · intro rooms starts point isPoint same
    rw [List.mem_singleton.mp isPoint] at same
    exact .inr ⟨starts, same⟩

theorem addTransferToHistory_ensures :
    Action.Ensures (RoomStored initial pk old)
      (addTransferToHistory fault call pk room transfer)
      (fun next rooms => next = room.addTransfer transfer ∧
        RoomStored initial pk (old.storeHistory (room.addTransfer transfer)) rooms ∧
        fault ≠ some (.storingHistory call) ∧ fault ≠ some (.afterStoringHistory call))
      (fun _ rooms => (RoomStored initial pk old rooms ∨
          RoomStored initial pk (old.storeHistory (room.addTransfer transfer)) rooms) ∧
        (old.isActive = false ∨ fault = some (.storingHistory call) ∨
          fault = some (.afterStoringHistory call))) := by
  apply checkActive_bind
  · intro rooms starts isClosed
    rw [starts.stored] at isClosed
    exact ⟨.inl starts, .inl (Option.some.inj isClosed)⟩
  apply steps_bind
  · intro point isPoint same rooms starts
    rw [List.mem_singleton.mp isPoint] at same
    exact ⟨.inl starts, .inr (.inl same)⟩
  intro spared
  apply Action.Ensures.bind fun _ =>
    RoomStored initial pk (old.storeHistory (room.addTransfer transfer))
  · apply Action.Ensures.update
    exact fun rooms starts => starts.modify fun row =>
      row.storeHistory (room.addTransfer transfer)
  intro _
  apply steps_bind
  · intro point isPoint same rooms starts
    rw [List.mem_singleton.mp isPoint] at same
    exact ⟨.inr starts, .inr (.inr same)⟩
  intro later
  apply Action.Ensures.pure
  exact fun rooms starts => ⟨rfl, starts, spared _ (by simp), later _ (by simp)⟩

/-! ## What the operations do -/

theorem save_bind {next : PUnit → TransferAction Result}
    {returns : Result → TransferRooms → Prop}
    (rest : Action.Ensures (RoomStored initial pk room) (next ⟨⟩) returns fun _ _ => True) :
    Action.Ensures (RoomStored initial pk old) (save fault call pk room >>= next) returns
      fun _ _ => True := by
  apply Action.Ensures.bind fun _ => RoomStored initial pk room
  · exact save_ensures.weaken (fun _ starts => starts) (fun _ _ returned => returned.1)
      fun _ _ _ => trivial
  · exact fun _ => rest

def Adds (initial : TransferRooms) (pk : Uuid) (old : TransferRoom)
    (action : TransferAction TransferRoom) (added : TransferRoom) : Prop :=
  Action.Ensures (RoomStored initial pk old) action
    (fun result rooms => result = added ∧ RoomStored initial pk (old.storeHistory added) rooms)
    fun _ _ => True

theorem Adds.bind {action : TransferAction TransferRoom} {added : TransferRoom}
    {next : TransferRoom → TransferAction Result} {returns : Result → TransferRooms → Prop}
    (adds : Adds initial pk old action added)
    (rest : Action.Ensures (RoomStored initial pk (old.storeHistory added)) (next added) returns
      fun _ _ => True) :
    Action.Ensures (RoomStored initial pk old) (action >>= next) returns fun _ _ => True := by
  apply Action.Ensures.bind _ adds
  intro result
  apply Action.Ensures.of_fact
  intro same
  subst same
  exact rest

theorem addTransferToHistory_adds :
    Adds initial pk old (addTransferToHistory fault call pk room transfer)
      (room.addTransfer transfer) :=
  addTransferToHistory_ensures.weaken (fun _ starts => starts)
    (fun _ _ returned => ⟨returned.1, returned.2.1⟩) fun _ _ _ => trivial

theorem passing {points : List TransferStep} :
    Action.Ensures before (steps fault points) (fun _ => before) fun _ _ => True :=
  steps_ensures (fun _ starts _ => starts) fun _ _ _ _ _ => trivial

theorem passing_bind {points : List TransferStep} {next : PUnit → TransferAction Result}
    {returns : Result → TransferRooms → Prop}
    (rest : Action.Ensures before (next ⟨⟩) returns fun _ _ => True) :
    Action.Ensures before (steps fault points >>= next) returns fun _ _ => True :=
  steps_bind (fun _ _ _ _ _ => trivial) fun _ => rest

theorem passing_when_bind {condition : Prop} [Decidable condition] {points : List TransferStep}
    {next : PUnit → TransferAction Result} {returns : Result → TransferRooms → Prop}
    (rest : Action.Ensures before (next ⟨⟩) returns fun _ _ => True) :
    Action.Ensures before (Action.when condition (steps fault points) >>= next) returns
      fun _ _ => True := by
  apply Action.Ensures.bind fun _ => before
  · exact Action.Ensures.when (fun _ => passing) fun _ starts _ => starts
  · exact fun _ => rest

end TransferAction

namespace HolderOperation

variable (directory : TransferDirectory) (requester : UserEmail) (room : TransferRoom)

def Accepts : HolderOperation → Prop
  | .pickQueueRoom | .take => room.user = none
  | .performUpdate _ _ | .transferUserAndQueue _ _ | .transferUser _ | .transferQueue _ => True

def newUser : HolderOperation → Option UserEmail
  | .performUpdate (some user) _ => some (directory.lower user)
  | .performUpdate none (some _) => none
  | .performUpdate none none => room.user
  | .pickQueueRoom | .take => some requester
  | .transferUserAndQueue user _ | .transferUser user => some user
  | .transferQueue _ => none

def newQueue : HolderOperation → Option Uuid
  | .performUpdate _ (some queue) | .transferUserAndQueue _ queue | .transferQueue queue =>
      some queue
  | .performUpdate _ none | .pickQueueRoom | .take | .transferUser _ => room.queue

/-- Where `perform_update` says that the room comes from. -/
def updateOrigin (queue : Option Uuid) : Option RoomHolder :=
  (room.user.map RoomHolder.user).or ((queue.or room.queue).map .queue)

def entries : HolderOperation → List Transfer
  | .performUpdate user queue =>
      (user.map fun user =>
        directory.createTransferJson (if requester ≠ user then "transfer" else "pick")
          (updateOrigin room queue) (some (.user (directory.lower user))) requester).toList ++
      (queue.map fun given =>
        directory.createTransferJson "transfer" (updateOrigin room queue)
          (some (.queue given)) requester).toList
  | .pickQueueRoom | .take =>
      [directory.createTransferJson "pick" (room.queue.map .queue) (some (.user requester))
        requester]
  | .transferUserAndQueue user queue =>
      [directory.createTransferJson "transfer" (room.queue.map .queue) (some (.queue queue))
          requester,
        directory.createTransferJson "transfer" (room.user.map .user) (some (.user user))
          requester]
  | .transferUser _ =>
      [directory.createTransferJson "transfer" (room.user.map .user)
        (some (.user (room.user.getD requester))) requester]
  | .transferQueue queue =>
      [directory.createTransferJson "transfer" (some (.user (room.user.getD requester)))
        (some (.queue queue)) requester]

def leaves (operation : HolderOperation) : TransferRoom :=
  (operation.entries directory requester room).foldl TransferRoom.addTransfer
    { room with
      user := operation.newUser directory requester room
      queue := operation.newQueue room }

end HolderOperation

theorem TransferRoom.foldl_addTransfer (room : TransferRoom) (entries : List Transfer) :
    (entries.foldl addTransfer room).user = room.user ∧
      (entries.foldl addTransfer room).queue = room.queue ∧
      (entries.foldl addTransfer room).history = room.history ++ entries := by
  induction entries generalizing room with
  | nil => simp
  | cons entry entries induction =>
      rcases induction (room.addTransfer entry) with ⟨user, queue, history⟩
      refine ⟨user, queue, ?_⟩
      rw [List.foldl_cons, history, addTransfer_history, List.append_assoc]
      rfl

namespace TransferAction

variable {requester user : UserEmail} {queue : Uuid}

theorem pick_ensures :
    Action.Ensures (RoomStored initial pk room) (pick directory fault pk room user)
      (fun _ rooms => room.user = none ∧
        RoomStored initial pk (HolderOperation.take.leaves directory user room) rooms)
      fun _ _ => True := by
  apply Action.Ensures.require_bind
  · exact fun _ _ _ => trivial
  intro queued
  apply passing_bind
  apply save_bind
  apply addTransferToHistory_adds.bind
  exact passing.weaken (fun _ stored => ⟨queued, stored⟩) (fun _ _ kept => kept)
    fun _ _ raised => raised

theorem transferUserAndQueue_ensures :
    Action.Ensures (RoomStored initial pk room)
      (transferUserAndQueue directory fault pk room requester user queue)
      (fun _ => RoomStored initial pk
        ((HolderOperation.transferUserAndQueue user queue).leaves directory requester room))
      fun _ _ => True := by
  apply passing_bind
  apply save_bind
  apply passing_when_bind
  apply addTransferToHistory_adds.bind
  apply addTransferToHistory_adds.bind
  exact passing

theorem transferUser_ensures :
    Action.Ensures (RoomStored initial pk room)
      (transferUser directory fault pk room requester user)
      (fun _ => RoomStored initial pk
        ((HolderOperation.transferUser user).leaves directory requester room))
      fun _ _ => True := by
  apply save_bind
  apply passing_when_bind
  apply addTransferToHistory_adds.bind
  exact passing

theorem transferQueue_ensures :
    Action.Ensures (RoomStored initial pk room)
      (transferQueue directory fault pk room requester queue)
      (fun _ => RoomStored initial pk
        ((HolderOperation.transferQueue queue).leaves directory requester room))
      fun _ _ => True := by
  apply passing_bind
  apply save_bind
  apply addTransferToHistory_adds.bind
  exact passing

theorem updateUser_adds {origin : Option RoomHolder} :
    Adds initial pk old (updateUser directory fault pk room requester origin user)
      (room.addTransfer (directory.createTransferJson
        (if requester ≠ user then "transfer" else "pick") origin (room.user.map .user)
        requester)) := by
  apply passing_bind
  apply passing_bind
  exact addTransferToHistory_adds

theorem updateQueue_adds {origin : Option RoomHolder} {user : Option UserEmail} :
    Adds initial pk old (updateQueue directory fault pk room requester origin user)
      ((if user = none then { room with user := none } else room).addTransfer
        (directory.createTransferJson "transfer" origin (room.queue.map .queue) requester)) := by
  apply passing_bind
  exact addTransferToHistory_adds

theorem performUpdate_ensures {user : Option UserEmail} {queue : Option Uuid} :
    Action.Ensures (RoomStored initial pk room)
      (performUpdate directory fault pk room requester user queue)
      (fun _ => RoomStored initial pk
        ((HolderOperation.performUpdate user queue).leaves directory requester room))
      fun _ _ => True := by
  apply Action.Ensures.atomic fun _ _ => True
  · apply save_bind
    apply passing_when_bind
    apply Action.Ensures.when
    · intro given
      apply passing_bind
      cases user with
      | none =>
          cases queue with
          | none => simp at given
          | some queue =>
              apply Action.Ensures.pure_bind
              apply updateQueue_adds.bind
              apply save_bind
              exact passing
      | some user =>
          apply updateUser_adds.bind
          cases queue with
          | none =>
              apply Action.Ensures.pure_bind
              apply save_bind
              exact passing
          | some queue =>
              apply updateQueue_adds.bind
              apply save_bind
              exact passing
    · intro rooms starts missing
      rw [not_or, Decidable.not_not, Decidable.not_not] at missing
      rcases missing with ⟨rfl, rfl⟩
      exact starts
  · exact fun _ _ _ _ _ => trivial

end TransferAction

theorem HolderOperation.carryOut_ensures (directory : TransferDirectory)
    (fault : Option TransferStep) (operation : HolderOperation) (requester : UserEmail) :
    Action.Ensures (RoomStored initial pk room)
      (operation.carryOut directory fault pk room requester)
      (fun _ rooms => operation.Accepts room ∧
        RoomStored initial pk (operation.leaves directory requester room) rooms)
      fun _ _ => True := by
  have always {action : TransferAction PUnit} {returns : TransferRooms → Prop} {fact : Prop}
      (ensures : Action.Ensures (RoomStored initial pk room) action (fun _ => returns)
        fun _ _ => True) (holds : fact) :
      Action.Ensures (RoomStored initial pk room) action
        (fun _ rooms => fact ∧ returns rooms) fun _ _ => True :=
    ensures.weaken (fun _ starts => starts) (fun _ _ left => ⟨holds, left⟩)
      fun _ _ raised => raised
  cases operation with
  | performUpdate user queue => exact always TransferAction.performUpdate_ensures trivial
  | pickQueueRoom =>
      apply Action.Ensures.bind _ TransferAction.pick_ensures
      exact fun _ => TransferAction.passing
  | take => exact TransferAction.pick_ensures
  | transferUserAndQueue user queue =>
      exact always TransferAction.transferUserAndQueue_ensures trivial
  | transferUser user => exact always TransferAction.transferUser_ensures trivial
  | transferQueue queue => exact always TransferAction.transferQueue_ensures trivial

end ChatsEngine.Rooms
