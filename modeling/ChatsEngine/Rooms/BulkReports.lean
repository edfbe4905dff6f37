import ChatsEngine.Rooms.BulkTransfers

/-! # What bulk requests report

Every room of the queryset is counted once. Rooms that are requested and not in the queryset
are not counted at all, and a room that could not be taken keeps its user only if the failure
came before it was stored. -/

namespace ChatsEngine.Rooms

def holdersOf (rooms : TransferRooms) (pk : Uuid) : Option (Option UserEmail × Option Uuid) :=
  (rooms.lookup pk).map fun room => (room.user, room.queue)

structure Reports (requested : List Uuid) (before after : TransferRooms)
    (result : BulkResult) : Prop where
  total : result.toDict.successCount + result.toDict.failedCount = requested.length
  once : (result.succeededRooms ++ result.failedRooms).Perm requested
  kept : ∀ room ∈ result.failedRooms, holdersOf after room = holdersOf before room

def BulkRequest.FindsAll (request : BulkRequest) (rooms : TransferRooms) : Prop :=
  ∀ pk ∈ request.roomsList, ∃ room ∈ rooms.lookup pk, request.Selects room

instance (request : BulkRequest) (rooms : TransferRooms) : Decidable (request.FindsAll rooms) :=
  inferInstanceAs (Decidable (∀ pk ∈ request.roomsList, ∃ room ∈ rooms.lookup pk, _))

/-- A room that fails keeps its holders: transfers run in a transaction, and takes do not. -/
def BulkRequest.Keeps (faults : Uuid → Option TransferStep) (pk : Uuid) : BulkRequest → Prop
  | .transfer _ _ _ => True
  | .take _ => ¬RaisesAfterStoring (faults pk)

instance (faults : Uuid → Option TransferStep) (pk : Uuid) :
    (request : BulkRequest) → Decidable (request.Keeps faults pk)
  | .transfer _ _ _ => inferInstanceAs (Decidable True)
  | .take _ => inferInstanceAs (Decidable (¬RaisesAfterStoring (faults pk)))

variable {initial rooms : TransferRooms} {pk : Uuid} {room : TransferRoom}
  {fault : Option TransferStep} {directory : TransferDirectory} {user : UserEmail}

/-! ## Taking one room -/

/-- The room has kept its user and its queue exactly if it has not been stored. -/
def TakenHalfway (initial : TransferRooms) (pk : Uuid) (room : TransferRoom)
    (fault : Option TransferStep) (rooms : TransferRooms) : Prop :=
  ∃ row, RoomStored initial pk row rooms ∧
    ((row.user, row.queue) = (room.user, room.queue) ↔ ¬RaisesAfterStoring fault)

theorem TakenHalfway.of_early {point : TransferStep} (same : fault = some point)
    (early : ¬RaisesAfterStoring (some point)) (stored : RoomStored initial pk room rooms) :
    TakenHalfway initial pk room fault rooms :=
  ⟨room, stored, fun _ => same ▸ early, fun _ => rfl⟩

theorem TakenHalfway.of_late {row : TransferRoom} (late : RaisesAfterStoring fault)
    (queued : room.user = none) (taken : row.user = some user)
    (stored : RoomStored initial pk row rooms) : TakenHalfway initial pk room fault rooms := by
  refine ⟨row, stored, ?_, fun early => absurd late early⟩
  intro kept
  rw [Prod.mk.injEq, taken, queued] at kept
  cases kept.1

theorem TransferAction.take_ensures (queued : room.user = none) (isActive : room.isActive = true) :
    Action.Ensures (RoomStored initial pk room) (take directory fault pk room user)
      (fun _ rooms => ¬RaisesAfterStoring fault ∧ ∃ row, RoomStored initial pk row rooms)
      (fun _ => TakenHalfway initial pk room fault) := by
  apply Action.Ensures.require_bind
  · exact fun assigned => absurd queued assigned
  intro _
  have late : ∀ {point}, fault = some point → RaisesAfterStoring (some point) →
      RaisesAfterStoring fault := fun same raises => same ▸ raises
  apply steps_bind
  · intro point isPoint same rooms starts
    cases List.mem_singleton.mp isPoint
    exact .of_early same (by decide) starts
  intro _
  apply Action.Ensures.bind fun _ rooms => fault ≠ some (.afterStoring 0) ∧
    RoomStored initial pk { room with user := some user } rooms
  · apply save_ensures.weaken
    · exact fun _ starts => starts
    · exact fun _ _ saved => ⟨saved.2.2, saved.1⟩
    · rintro error rooms (⟨stored, isClosed | same⟩ | ⟨stored, same⟩)
      · rw [isActive] at isClosed
        cases isClosed
      · exact .of_early same (by decide) stored
      · exact .of_late (late same (by decide)) queued rfl stored
  intro _
  apply Action.Ensures.of_fact
  intro saved
  apply Action.Ensures.bind fun _ rooms => (fault ≠ some (.storingHistory 0) ∧
    fault ≠ some (.afterStoringHistory 0)) ∧
      ∃ row, row.user = some user ∧ RoomStored initial pk row rooms
  · apply addTransferToHistory_ensures.weaken
    · exact fun _ starts => starts
    · intro added rooms given
      rcases given with ⟨_, stored, passed⟩
      exact ⟨passed, _, rfl, stored⟩
    · intro error rooms given
      rcases given with ⟨stored, raised⟩
      have later : RaisesAfterStoring fault := by
        rcases raised with isClosed | same | same
        · rw [isActive] at isClosed
          cases isClosed
        · exact late same (by decide)
        · exact late same (by decide)
      rcases stored with stored | stored
      · exact .of_late later queued rfl stored
      · exact .of_late later queued rfl stored
  intro _
  apply Action.Ensures.of_fact
  intro added
  apply steps_ensures
  · intro rooms given passed
    rcases given with ⟨row, _, stored⟩
    refine ⟨?_, row, stored⟩
    intro raises
    simp only [RaisesAfterStoring, List.mem_cons, List.not_mem_nil, or_false] at raises
    rcases raises with same | same | same | same
    · exact saved same
    · exact added.1 same
    · exact added.2 same
    · exact passed _ (by simp) same
  · intro rooms given point isPoint same
    rcases given with ⟨row, taken, stored⟩
    cases List.mem_singleton.mp isPoint
    exact .of_late (late same (by decide)) queued taken stored

theorem BulkAction.transferRoom_ensures (settings : BulkSettings)
    (faults : Uuid → Option TransferStep) (requester : UserEmail) (given : Option UserEmail)
    (queue : Option Uuid) :
    Action.Ensures (RoomStored initial pk room)
      (transferRoom settings faults requester given queue pk room).atomic
      (fun _ rooms => ∃ row, RoomStored initial pk row rooms)
      (fun _ => RoomStored initial pk room) := by
  have stores {action : TransferAction PUnit} {row : TransferRoom}
      (ensures : Action.Ensures (RoomStored initial pk room) action
        (fun _ => RoomStored initial pk row) fun _ _ => True) :
      Action.Ensures (RoomStored initial pk room) action
        (fun _ rooms => ∃ row, RoomStored initial pk row rooms) fun _ _ => True :=
    ensures.weaken (fun _ starts => starts) (fun _ _ stored => ⟨row, stored⟩)
      fun _ _ raised => raised
  apply Action.Ensures.atomic fun _ _ => True
  · unfold transferRoom
    split
    · exact stores TransferAction.transferUserAndQueue_ensures
    · exact stores TransferAction.transferUser_ensures
    · exact stores TransferAction.transferQueue_ensures
    · exact Action.Ensures.pure fun _ stored => ⟨_, stored⟩
  · exact fun _ _ _ starts _ => starts

/-! ## Counting the rooms -/

section Counting

variable {Keeps : Uuid → Prop} {all pending : List Uuid} {result : BulkResult}
  {process : Uuid → TransferRoom → TransferAction PUnit}

/-- Each room is counted or pending. The failed rooms that keep their holders are known, and
the pending ones are as they were. -/
structure Counted (initial : TransferRooms) (Keeps : Uuid → Prop) (all pending : List Uuid)
    (result : BulkResult) (rooms : TransferRooms) : Prop where
  perm : (result.succeededRooms ++ result.failedRooms ++ pending).Perm all
  successes : result.successCount = result.succeededRooms.length
  failures : result.failedCount = result.failedRooms.length
  waiting : ∀ pk ∈ pending, rooms.lookup pk = initial.lookup pk
  kept : ∀ pk ∈ result.failedRooms, holdersOf rooms pk = holdersOf initial pk ↔ Keeps pk
  sure : ∀ pk ∈ result.succeededRooms, Keeps pk

/-- A failure that is counted keeps the holders of its room exactly if the room `Keeps`. -/
def Accounts (process : Uuid → TransferRoom → TransferAction PUnit) (Keeps : Uuid → Prop)
    (Selects : TransferRoom → Prop) : Prop :=
  ∀ (initial : TransferRooms) (pk : Uuid) (room : TransferRoom), Selects room →
    Action.Ensures (RoomStored initial pk room) (process pk room)
      (fun _ rooms => Keeps pk ∧ ∃ row, RoomStored initial pk row rooms)
      (fun _ rooms => ∃ row, RoomStored initial pk row rooms ∧
        ((row.user, row.queue) = (room.user, room.queue) ↔ Keeps pk))

theorem Counted.start (table : TransferRooms) (pks : List Uuid) :
    Counted table Keeps pks pks .empty table where
  perm := List.Perm.refl _
  successes := rfl
  failures := rfl
  waiting := fun _ _ => rfl
  kept := by simp [BulkResult.empty]
  sure := by simp [BulkResult.empty]

theorem Counted.of_perm {others : List Uuid}
    (counted : Counted initial Keeps all pending result rooms) (same : others.Perm pending) :
    Counted initial Keeps all others result rooms :=
  { counted with
    perm := (List.Perm.append_left _ same).trans counted.perm
    waiting := fun pk isPending => counted.waiting pk (same.mem_iff.mp isPending) }

theorem Counted.apart (counted : Counted initial Keeps all (pk :: pending) result rooms)
    (distinct : all.Nodup) :
    pk ∉ result.succeededRooms ∧ pk ∉ result.failedRooms ∧ pk ∉ pending := by
  have nodup := counted.perm.nodup_iff.mpr distinct
  rw [List.nodup_append, List.nodup_cons] at nodup
  have counts : ∀ other ∈ result.succeededRooms ++ result.failedRooms, other ≠ pk :=
    fun other isCounted => nodup.2.2 other isCounted pk (by simp)
  refine ⟨?_, ?_, nodup.2.1.1⟩
  · exact fun succeeded => counts pk (List.mem_append_left _ succeeded) rfl
  · exact fun failed => counts pk (List.mem_append_right _ failed) rfl

theorem Counted.addSuccess (counted : Counted initial Keeps all (pk :: pending) result rooms)
    (distinct : all.Nodup) (keeps : Keeps pk) {row : TransferRoom} {after : TransferRooms}
    (stored : RoomStored rooms pk row after) :
    Counted initial Keeps all pending (result.addSuccess pk) after := by
  rcases counted.apart distinct with ⟨_, notFailed, notPending⟩
  constructor
  · refine List.Perm.trans ?_ counted.perm
    simp only [BulkResult.addSuccess, List.append_assoc, List.singleton_append]
    exact List.Perm.append_left _ List.perm_middle.symm
  · simp [BulkResult.addSuccess, counted.successes]
  · exact counted.failures
  · intro other isPending
    rw [stored.spared other (ne_of_mem_of_not_mem isPending notPending)]
    exact counted.waiting other (List.mem_cons_of_mem _ isPending)
  · intro other failed
    rw [holdersOf, stored.spared other (ne_of_mem_of_not_mem failed notFailed)]
    exact counted.kept other failed
  · intro other succeeded
    rcases List.mem_append.mp succeeded with before | now
    · exact counted.sure other before
    · rw [List.mem_singleton.mp now]
      exact keeps

theorem Counted.addFailure (counted : Counted initial Keeps all (pk :: pending) result rooms)
    (distinct : all.Nodup) {error : BulkError} {row : TransferRoom} {after : TransferRooms}
    (stored : RoomStored rooms pk row after)
    (keeps : holdersOf after pk = holdersOf initial pk ↔ Keeps pk) :
    Counted initial Keeps all pending (result.addFailure pk error) after := by
  rcases counted.apart distinct with ⟨_, notFailed, notPending⟩
  constructor
  · refine List.Perm.trans ?_ counted.perm
    simp [BulkResult.addFailure]
  · exact counted.successes
  · simp [BulkResult.addFailure, counted.failures]
  · intro other isPending
    rw [stored.spared other (ne_of_mem_of_not_mem isPending notPending)]
    exact counted.waiting other (List.mem_cons_of_mem _ isPending)
  · intro other failed
    rcases List.mem_append.mp failed with before | now
    · rw [holdersOf, stored.spared other (ne_of_mem_of_not_mem before notFailed)]
      exact counted.kept other before
    · rw [List.mem_singleton.mp now]
      exact keeps
  · exact counted.sure

def Found (initial : TransferRooms) (Selects : TransferRoom → Prop) (entries : List RoomEntry) :
    Prop :=
  ∀ entry ∈ entries, initial.lookup entry.1 = some entry.2 ∧ Selects entry.2

variable {Selects : TransferRoom → Prop}

theorem processRoom_ensures (accounts : Accounts process Keeps Selects) (distinct : all.Nodup)
    (entry : RoomEntry) (found : initial.lookup entry.1 = some entry.2)
    (selected : Selects entry.2) (pending : List Uuid) (result : BulkResult) :
    Action.Ensures (Counted initial Keeps all (entry.1 :: pending) result)
      (BulkAction.processRoom process result entry)
      (Counted initial Keeps all pending) fun _ _ => False := by
  apply Action.Ensures.of_each
  intro table counted
  have stored : table.lookup entry.1 = some entry.2 := by
    rw [counted.waiting entry.1 (by simp), found]
  apply Action.Ensures.attempt_bind ((accounts table entry.1 entry.2 selected).weaken ?_
    (fun _ _ returned => returned) fun _ _ raised => raised)
  · intro value
    apply Action.Ensures.pure
    intro rooms given
    rcases given with ⟨keeps, row, isStored⟩
    exact counted.addSuccess distinct keeps isStored
  · intro error
    apply Action.Ensures.pure
    intro rooms given
    rcases given with ⟨row, isStored, keeps⟩
    apply counted.addFailure distinct isStored
    rw [holdersOf, holdersOf, isStored.stored, found]
    exact Option.some_inj.trans keeps
  · intro _ same
    subst same
    exact RoomStored.of_lookup stored

theorem processBatch_ensures (accounts : Accounts process Keeps Selects) (distinct : all.Nodup)
    (batchPks pending : List Uuid) (nodup : batchPks.Nodup)
    (found : ∀ pk ∈ batchPks, ∃ room ∈ initial.lookup pk, Selects room) (result : BulkResult) :
    Action.Ensures (Counted initial Keeps all (batchPks ++ pending) result)
      (BulkAction.processBatch process result batchPks)
      (Counted initial Keeps all pending) fun _ _ => False := by
  apply Action.Ensures.query_bind
  intro batch
  apply Action.Ensures.of_each
  intro table given
  rcases given with ⟨counted, rfl⟩
  have lookups : ∀ pk ∈ batchPks, table.lookup pk = initial.lookup pk :=
    fun pk isPk => counted.waiting pk (List.mem_append_left _ isPk)
  have stored : ∀ pk ∈ batchPks, pk ∈ table := by
    intro pk isPk
    rcases found pk isPk with ⟨room, isRoom, _⟩
    rw [← AList.lookup_isSome, lookups pk isPk, isRoom]
    rfl
  have loaded := Table.perm_keys_filter_mem nodup stored
  have batchFound : Found initial Selects (table.entries.filter fun entry => entry.1 ∈ batchPks) := by
    intro entry isEntry
    rcases List.mem_filter.mp isEntry with ⟨member, isPk⟩
    have isPk := of_decide_eq_true isPk
    have isRow := Table.mem_entries_iff.mp member
    rw [lookups entry.1 isPk] at isRow
    rcases found entry.1 isPk with ⟨room, isRoom, selected⟩
    cases isRoom.symm.trans isRow
    exact ⟨isRow, selected⟩
  apply (Action.Ensures.fold (fun entries result rooms => Found initial Selects entries ∧
    Counted initial Keeps all (entries.map Sigma.fst ++ pending) result rooms) ?_ result _).weaken
  · intro _ same
    subst same
    exact ⟨batchFound, counted.of_perm (loaded.append_right pending)⟩
  · exact fun _ _ done => done.2
  · exact fun _ _ raised => raised
  · intro result entry entries
    apply Action.Ensures.of_fact
    intro foundHere
    have rest : Found initial Selects entries :=
      fun other isEntry => foundHere other (List.mem_cons_of_mem _ isEntry)
    rcases foundHere entry (by simp) with ⟨isRow, selected⟩
    exact (processRoom_ensures accounts distinct entry isRow selected _ result).weaken
      (fun _ starts => starts) (fun _ _ kept => ⟨rest, kept⟩) fun _ _ raised => raised

theorem processBatches_ensures (accounts : Accounts process Keeps Selects) {batchSize : Nat}
    (positive : 0 < batchSize) {pks : List Uuid} (distinct : pks.Nodup)
    (found : ∀ pk ∈ pks, ∃ room ∈ initial.lookup pk, Selects room) :
    Action.Ensures (fun rooms => rooms = initial)
      (BulkAction.processBatches process batchSize pks)
      (Counted initial Keeps pks []) fun _ _ => False := by
  have inside : ∀ index, (part pks batchSize index).Sublist pks :=
    fun index => (List.take_sublist _ _).trans (List.drop_sublist _ _)
  apply (Action.Ensures.fold (fun batches result rooms =>
    (∀ batch ∈ batches, batch.Sublist pks) ∧
      Counted initial Keeps pks batches.flatten result rooms) ?_ .empty _).weaken
  · intro _ same
    subst same
    refine ⟨?_, ?_⟩
    · intro batch isBatch
      rcases List.mem_map.mp isBatch with ⟨index, _, rfl⟩
      exact inside index
    · rw [← List.flatMap_def, flatMap_part pks positive]
      exact Counted.start _ pks
  · exact fun _ _ done => done.2
  · exact fun _ _ raised => raised
  · intro result batch batches
    apply Action.Ensures.of_fact
    intro within
    have isWithin := within batch (by simp)
    exact (processBatch_ensures accounts distinct batch batches.flatten
        (isWithin.nodup distinct) (fun pk isPk => found pk (isWithin.subset isPk)) result).weaken
      (fun _ starts => starts)
      (fun _ _ kept => ⟨fun other isBatch => within other (List.mem_cons_of_mem _ isBatch), kept⟩)
      fun _ _ raised => raised

theorem Counted.addFailures {entries : List RoomEntry} {error : BulkError}
    (counted : Counted initial Keeps all (entries.map Sigma.fst) result initial)
    (distinct : all.Nodup) (keeps : ∀ pk, Keeps pk)
    (stored : ∀ entry ∈ entries, initial.lookup entry.1 = some entry.2) :
    Counted initial Keeps all []
      (entries.foldl (fun result entry => result.addFailure entry.1 error) result) initial := by
  induction entries generalizing result with
  | nil => exact counted
  | cons entry entries induction =>
      apply induction
      · exact counted.addFailure distinct (RoomStored.of_lookup (stored entry (by simp)))
          ⟨fun _ => keeps entry.1, fun _ => rfl⟩
      · exact fun other isEntry => stored other (List.mem_cons_of_mem _ isEntry)

end Counting

/-! ## The requests -/

def BulkRequest.roomPks (request : BulkRequest) (rooms : TransferRooms) : List Uuid :=
  (request.rooms rooms).map Sigma.fst

variable {request : BulkRequest}

theorem BulkRequest.roomPks_nodup (request : BulkRequest) (rooms : TransferRooms) :
    (request.roomPks rooms).Nodup :=
  Table.nodup_keys_filter rooms _

theorem BulkRequest.mem_rooms {entry : RoomEntry} :
    entry ∈ request.rooms rooms ↔ rooms.lookup entry.1 = some entry.2 ∧
      entry.1 ∈ request.roomsList ∧ request.Selects entry.2 := by
  rw [BulkRequest.rooms, List.mem_filter, Table.mem_entries_iff, decide_eq_true_iff]

theorem BulkRequest.mem_roomPks :
    pk ∈ request.roomPks rooms ↔
      pk ∈ request.roomsList ∧ ∃ room ∈ rooms.lookup pk, request.Selects room := by
  rw [BulkRequest.roomPks, List.mem_map]
  constructor
  · intro given
    rcases given with ⟨entry, isEntry, rfl⟩
    rcases BulkRequest.mem_rooms.mp isEntry with ⟨stored, requested, selected⟩
    exact ⟨requested, entry.2, stored, selected⟩
  · intro given
    rcases given with ⟨requested, room, stored, selected⟩
    exact ⟨⟨pk, room⟩, BulkRequest.mem_rooms.mpr ⟨stored, requested, selected⟩, rfl⟩

section Requests

variable (settings : BulkSettings) (faults : Uuid → Option TransferStep) (requester : UserEmail)

theorem transfer_accounts (given : Option UserEmail) (queue : Option Uuid)
    (Selects : TransferRoom → Prop) :
    Accounts (fun pk room =>
      (BulkAction.transferRoom settings faults requester given queue pk room).atomic)
      (fun _ => True) Selects := by
  intro initial pk room _
  apply (BulkAction.transferRoom_ensures settings faults requester given queue).weaken
  · exact fun _ starts => starts
  · exact fun _ _ returned => ⟨trivial, returned⟩
  · exact fun _ _ stored => ⟨room, stored, fun _ => trivial, fun _ => rfl⟩

theorem take_accounts (roomsList : List Uuid) :
    Accounts (fun pk room =>
      TransferAction.take settings.directory (faults pk) pk room requester)
      (fun pk => ¬RaisesAfterStoring (faults pk)) (BulkRequest.take roomsList).Selects := by
  intro initial pk room selected
  exact TransferAction.take_ensures selected.2 selected.1

theorem serve_ensures (request : BulkRequest) :
    Action.Ensures (fun rooms => rooms = initial)
      (BulkAction.serve settings faults requester request.rooms request)
      (Counted initial (request.Keeps faults) (request.roomPks initial) [])
      fun _ _ => True := by
  have found : ∀ pk ∈ request.roomPks initial, ∃ room ∈ initial.lookup pk,
      request.Selects room := fun pk isPk => (BulkRequest.mem_roomPks.mp isPk).2
  have distinct := request.roomPks_nodup initial
  cases request with
  | transfer roomsList given queue =>
      apply Action.Ensures.require_bind
      · exact fun _ _ _ => trivial
      intro _
      apply Action.Ensures.require_bind
      · exact fun _ _ _ => trivial
      intro _
      apply Action.Ensures.query_bind
      intro entries
      apply Action.Ensures.of_each
      intro table holds
      rcases holds with ⟨rfl, rfl⟩
      split
      · apply Action.Ensures.pure
        intro _ same
        subst same
        apply (Counted.start _ _).addFailures distinct fun _ => trivial
        exact fun entry isEntry => (BulkRequest.mem_rooms.mp isEntry).1
      · exact (processBatches_ensures (transfer_accounts settings faults requester given queue _)
          settings.transferLimits.positive distinct found).weaken (fun _ starts => starts)
          (fun _ _ counted => counted) fun _ _ _ => trivial
  | take roomsList =>
      apply Action.Ensures.query_bind
      intro entries
      apply Action.Ensures.of_each
      intro table holds
      rcases holds with ⟨rfl, rfl⟩
      exact (processBatches_ensures (take_accounts settings faults requester roomsList)
        settings.takeLimits.positive distinct found).weaken (fun _ starts => starts)
        (fun _ _ counted => counted) fun _ _ _ => trivial

theorem validate_ensures (request : BulkRequest) :
    Action.Ensures (fun rooms => rooms = initial) (BulkAction.validate settings request)
      (fun data rooms => (data = { rooms := request.rooms, skippedRooms := none } ∧
        request.roomsList.Nodup) ∧ rooms = initial) fun _ _ => True := by
  apply Action.Ensures.require_bind
  · exact fun _ _ _ => trivial
  intro _
  apply Action.Ensures.require_bind
  · exact fun _ _ _ => trivial
  intro _
  apply Action.Ensures.require_bind
  · exact fun _ _ _ => trivial
  intro distinct
  apply Action.Ensures.require_bind
  · exact fun _ _ _ => trivial
  intro _
  apply Action.Ensures.query_bind
  intro entries
  apply Action.Ensures.require_bind
  · exact fun _ _ _ => trivial
  intro _
  exact Action.Ensures.pure fun _ starts => ⟨⟨rfl, distinct⟩, starts.1⟩

theorem BulkAction.handle_ensures (request : BulkRequest) :
    Action.Ensures (fun rooms => rooms = initial)
      (handle settings faults requester request)
      (fun result rooms => request.roomsList.Nodup ∧
        Counted initial (request.Keeps faults) (request.roomPks initial) [] result rooms)
      fun _ _ => True := by
  apply Action.Ensures.bind _ (validate_ensures settings request)
  intro data
  apply Action.Ensures.of_fact
  intro given
  rcases given with ⟨rfl, distinct⟩
  apply Action.Ensures.bind _ (serve_ensures settings faults requester request)
  intro result
  exact Action.Ensures.pure fun _ counted => ⟨distinct, counted⟩

end Requests

theorem Counted.reports_iff {Keeps : Uuid → Prop} {result : BulkResult}
    (counted : Counted initial Keeps (request.roomPks initial) [] result rooms)
    (distinct : request.roomsList.Nodup) :
    Reports request.roomsList initial rooms result ↔
      request.FindsAll initial ∧ ∀ pk ∈ request.roomsList, Keeps pk := by
  have perm := counted.perm
  rw [List.append_nil] at perm
  constructor
  · intro reports
    have same : (request.roomPks initial).Perm request.roomsList := perm.symm.trans reports.once
    refine ⟨?_, ?_⟩
    · exact fun pk requested => (BulkRequest.mem_roomPks.mp (same.mem_iff.mpr requested)).2
    · intro pk requested
      rcases List.mem_append.mp (reports.once.mem_iff.mpr requested) with succeeded | failed
      · exact counted.sure pk succeeded
      · exact (counted.kept pk failed).mp (reports.kept pk failed)
  · intro given
    rcases given with ⟨findsAll, keeps⟩
    have same : (request.roomPks initial).Perm request.roomsList := by
      rw [List.perm_ext_iff_of_nodup (request.roomPks_nodup initial) distinct]
      intro pk
      rw [BulkRequest.mem_roomPks]
      exact ⟨And.left, fun requested => ⟨requested, findsAll pk requested⟩⟩
    have once := perm.trans same
    constructor
    · have length := once.length_eq
      rw [List.length_append, ← counted.successes, ← counted.failures] at length
      exact length
    · exact once
    · intro pk failed
      exact (counted.kept pk failed).mpr
        (keeps pk (once.mem_iff.mp (List.mem_append_right _ failed)))

theorem bulk_reports_iff (settings : BulkSettings) (faults : Uuid → Option TransferStep)
    (requester : UserEmail) (request : BulkRequest) {before after : TransferRooms}
    {result : BulkResult}
    (answered : BulkAction.handle settings faults requester request before =
      (.ok result, after)) :
    Reports request.roomsList before after result ↔
      request.FindsAll before ∧ ∀ pk ∈ request.roomsList, request.Keeps faults pk := by
  have ensured := BulkAction.handle_ensures settings faults requester request before rfl
  rw [answered] at ensured
  exact ensured.2.reports_iff ensured.1

def exampleBulkSettings : BulkSettings where
  directory := { userName := id, userId := fun _ => 1, queueName := fun _ => "", lower := id }
  transferLimits := { batchSize := 50, maxRooms := 200, positive := by decide }
  takeLimits := { batchSize := 50, maxRooms := 200, positive := by decide }
  users _ := true
  queues _ := true
  projectOf _ := 1
  userProjects _ := [1]

def queuedTransferRoom : TransferRoom where
  user := none
  queue := some 1
  isActive := true
  fullTransferHistory := some []
  transferHistory := none

def twoQueuedRooms : TransferRooms :=
  (AList.singleton 7 queuedTransferRoom).insert 8 queuedTransferRoom

def roomEightFails (pk : Uuid) : Option TransferStep :=
  if pk = 8 then some (.storing 0) else none

/-- One of two rooms cannot be stored: it is counted, and still in the queue. -/
theorem one_of_two_rooms_is_taken :
    Reports [7, 8] twoQueuedRooms
      (BulkAction.handle exampleBulkSettings roomEightFails "eve" (.take [7, 8])
        twoQueuedRooms).2
      { BulkResult.empty with
        successCount := 1
        failedCount := 1
        errors := [.room 8 (.raised (.storing 0))]
        failedRooms := [8]
        succeededRooms := [7] } :=
  (bulk_reports_iff exampleBulkSettings roomEightFails "eve" (.take [7, 8]) rfl).mpr (by decide)

/-- A room whose history cannot be stored is counted as failed, and is eve's. -/
theorem room_taken_halfway_is_reported_failed :
    ¬∀ (faults : Uuid → Option TransferStep) (request : BulkRequest)
      (before after : TransferRooms) (result : BulkResult),
      BulkAction.handle exampleBulkSettings faults "eve" request before = (.ok result, after) →
        Reports request.roomsList before after result := by
  intro reports
  have reported := reports (fun _ => some (.storingHistory 0)) (.take [7]) twoQueuedRooms _ _ rfl
  exact absurd (reported.kept 7 (by decide)) (by decide)

end ChatsEngine.Rooms
