import ChatsEngine.Rooms.Room

/-! # The ticketer of a transferred room

The ticket of a room has a ticketer in Flows, the one of the sector that the room's queue
belongs to. A transfer to a queue of another sector has to change two stores: the row of
the room in a transaction, and the ticketer in Flows with a call that no rollback undoes.
A single transfer saves the room before the call, a bulk transfer after it. -/

namespace ChatsEngine.Rooms

structure FlowsSettings where
  /-- `USE_WENI_FLOWS`. -/
  useWeniFlows : Bool
  /-- The feature flag for the change of ticketers, by project. -/
  changesTicketers : Uuid → Bool
  sectorOf : Uuid → Uuid
  projectOf : Uuid → Uuid
  /-- The ticketers that Flows has for the sectors. -/
  ticketerBySector : Uuid → Option Uuid

/-- The row of the room, and the ticketer of its ticket in Flows. -/
structure TicketStores where
  room : RoomRecord
  ticketer : Uuid

inductive TransferFault
  /-- Before Flows is asked to change the ticketer. -/
  | ticketerLookup
  /-- Flows does not change the ticketer. -/
  | callRejected
  /-- Flows changes the ticketer, and the response is lost. -/
  | responseLost
  /-- The lock of the row, or the save of the room. -/
  | save
  /-- A later write of the transaction, or its commit. -/
  | laterWrite
deriving DecidableEq, Repr

inductive TicketerError
  | flowsTicketerNotFound (sector : Uuid)
  | flowsChangeTicketer (ticketer : Uuid)
deriving DecidableEq, Repr

/-- `get_ticketer_by_sector` and `change_ticketer`: the ticketer afterwards, and the exception
that is raised. -/
def callFlows (settings : FlowsSettings) (destinationSector : Uuid)
    (fault : Option TransferFault) (ticketer : Uuid) : Uuid × Option TicketerError :=
  match settings.ticketerBySector destinationSector, fault with
  | none, _ => (ticketer, some (.flowsTicketerNotFound destinationSector))
  | some _, some .ticketerLookup =>
      (ticketer, some (.flowsTicketerNotFound destinationSector))
  | some destination, some .callRejected =>
      (ticketer, some (.flowsChangeTicketer destination))
  | some destination, some .responseLost =>
      (destination, some (.flowsChangeTicketer destination))
  | some destination, _ => (destination, none)

def changeTicketerForRoom (settings : FlowsSettings) (room : RoomRecord)
    (destinationSector : Uuid) (fault : Option TransferFault) (ticketer : Uuid) :
    Uuid × Option TicketerError :=
  if settings.useWeniFlows = false ∨ room .ticketUuid = none then (ticketer, none)
  else
    match room .queue with
    | none => (ticketer, none)
    | some queue =>
        if settings.sectorOf queue = destinationSector then (ticketer, none)
        else if settings.changesTicketers (settings.projectOf (settings.sectorOf queue)) = false
          then (ticketer, none)
        else callFlows settings destinationSector fault ticketer

inductive TransferPath
  /-- `RoomViewset.perform_update`. -/
  | performUpdate
  /-- `_transfer_queue` and `_transfer_user_and_queue` of `BulkTransferService`. -/
  | bulkTransfer
deriving DecidableEq, Repr

/-- An attempt to transfer a room to a queue, and to a user if one is given. -/
structure QueueTransfer where
  path : TransferPath
  now : Instant
  user : Option UserEmail
  queue : Uuid
  fault : Option TransferFault

namespace QueueTransfer

/-- `serializer.save()`, with the fields that the request gives. -/
def givenRow (transfer : QueueTransfer) (room : RoomRecord) : RoomRecord :=
  savedRow transfer.now
    ((transfer.user.map fun user => ⟨.user, some user⟩).toList ++ [⟨.queue, some transfer.queue⟩])
    room

/-- The row that the transfer leaves. A room that is transferred to a queue only loses
its user. -/
def transferredRow (transfer : QueueTransfer) (room : RoomRecord) : RoomRecord :=
  match transfer.path with
  | .performUpdate =>
      savedRow transfer.now (if transfer.user = none then [⟨.user, none⟩] else [])
        (transfer.givenRow room)
  | .bulkTransfer =>
      savedRow transfer.now [⟨.user, transfer.user⟩, ⟨.queue, some transfer.queue⟩] room

variable (settings : FlowsSettings) (transfer : QueueTransfer) (stores : TicketStores)

/-- `perform_update` asks for another ticketer when the sector has changed, with the
instance that it has just saved. -/
def performUpdate : TicketStores :=
  if stores.room .isActive = false ∨ transfer.fault = some .save then stores
  else
    let destinationSector := settings.sectorOf transfer.queue
    let called :=
      if (stores.room .queue).map settings.sectorOf = some destinationSector then
        (stores.ticketer, none)
      else
        changeTicketerForRoom settings (transfer.givenRow stores.room) destinationSector
          transfer.fault stores.ticketer
    if called.2.isSome ∨ transfer.fault = some .laterWrite then
      { stores with ticketer := called.1 }
    else { room := transfer.transferredRow stores.room, ticketer := called.1 }

/-- `_transfer_room` of a bulk transfer asks for another ticketer first. -/
def bulkTransfer : TicketStores :=
  let called := changeTicketerForRoom settings stores.room (settings.sectorOf transfer.queue)
    transfer.fault stores.ticketer
  if called.2.isSome ∨ stores.room .isActive = false ∨ transfer.fault = some .save ∨
      transfer.fault = some .laterWrite then
    { stores with ticketer := called.1 }
  else { room := transfer.transferredRow stores.room, ticketer := called.1 }

def attempt : TicketStores :=
  match transfer.path with
  | .performUpdate => transfer.performUpdate settings stores
  | .bulkTransfer => transfer.bulkTransfer settings stores

end QueueTransfer

namespace TicketStores

/-- The ticketer of the ticket is the one of the sector that the room's queue belongs to. -/
def InSync (settings : FlowsSettings) (stores : TicketStores) : Prop :=
  ∃ queue, stores.room .queue = some queue ∧
    settings.ticketerBySector (settings.sectorOf queue) = some stores.ticketer

/-- The project of the room uses Flows, and changes ticketers. -/
structure Integrated (settings : FlowsSettings) (stores : TicketStores) : Prop where
  useWeniFlows : settings.useWeniFlows = true
  ticketUuid : (stores.room .ticketUuid).isSome = true
  changesTicketers : ∀ queue, stores.room .queue = some queue →
    settings.changesTicketers (settings.projectOf (settings.sectorOf queue)) = true

end TicketStores

namespace QueueTransfer

/-- Both sectors have the same ticketer, or the path keeps the stores in step: a single
transfer when it fails, a bulk transfer when it is completed or when it fails before the
ticketer is changed. -/
def KeepsTicketer (settings : FlowsSettings) (stores : TicketStores)
    (transfer : QueueTransfer) : Prop :=
  settings.ticketerBySector (settings.sectorOf transfer.queue) = some stores.ticketer ∨
    match transfer.path with
    | .performUpdate => stores.room .isActive = false ∨ transfer.fault = some .save ∨
        transfer.fault = some .laterWrite
    | .bulkTransfer => settings.ticketerBySector (settings.sectorOf transfer.queue) = none ∨
        transfer.fault = some .ticketerLookup ∨ transfer.fault = some .callRejected ∨
        (stores.room .isActive = true ∧ transfer.fault = none)

variable {settings : FlowsSettings} {transfer : QueueTransfer} {stores : TicketStores}

theorem givenRow_queue (room : RoomRecord) :
    transfer.givenRow room .queue = some transfer.queue := by
  rw [givenRow, savedRow_spare (by decide)]
  cases transfer.user <;> rfl

theorem transferredRow_queue (room : RoomRecord) :
    transfer.transferredRow room .queue = some transfer.queue := by
  rw [transferredRow]
  cases transfer.path with
  | performUpdate =>
      dsimp only
      rw [savedRow_spare (by decide), Record.assign_of_not_mem]
      · exact givenRow_queue room
      · split <;> decide
  | bulkTransfer =>
      dsimp only
      rw [savedRow_spare (by decide)]
      rfl

theorem changeTicketerForRoom_givenRow (room : RoomRecord) (fault : Option TransferFault)
    (ticketer : Uuid) :
    changeTicketerForRoom settings (transfer.givenRow room) (settings.sectorOf transfer.queue)
      fault ticketer = (ticketer, none) := by
  rw [changeTicketerForRoom, givenRow_queue]
  simp

theorem inSync_transferred (ticketer : Uuid) :
    TicketStores.InSync settings
        { room := transfer.transferredRow stores.room, ticketer := ticketer } ↔
      settings.ticketerBySector (settings.sectorOf transfer.queue) = some ticketer := by
  constructor
  · intro inSync
    rcases inSync with ⟨queue, isQueue, isTicketer⟩
    cases (transferredRow_queue stores.room).symm.trans isQueue
    exact isTicketer
  · intro isTicketer
    exact ⟨transfer.queue, transferredRow_queue stores.room, isTicketer⟩

theorem inSync_rolledBack (inSync : stores.InSync settings) (ticketer : Uuid) :
    TicketStores.InSync settings { stores with ticketer := ticketer } ↔
      ticketer = stores.ticketer := by
  rcases inSync with ⟨queue, isQueue, isTicketer⟩
  constructor
  · intro after
    rcases after with ⟨other, isOther, otherTicketer⟩
    cases isQueue.symm.trans isOther
    exact Option.some.inj (otherTicketer.symm.trans isTicketer)
  · intro same
    subst same
    exact ⟨queue, isQueue, isTicketer⟩

theorem performUpdate_inSync_iff (inSync : stores.InSync settings) :
    (transfer.performUpdate settings stores).InSync settings ↔
      settings.ticketerBySector (settings.sectorOf transfer.queue) = some stores.ticketer ∨
        stores.room .isActive = false ∨ transfer.fault = some .save ∨
        transfer.fault = some .laterWrite := by
  have notCalled : (if (stores.room .queue).map settings.sectorOf =
        some (settings.sectorOf transfer.queue) then (stores.ticketer, none)
      else changeTicketerForRoom settings (transfer.givenRow stores.room)
        (settings.sectorOf transfer.queue) transfer.fault stores.ticketer) =
      ((stores.ticketer, none) : Uuid × Option TicketerError) := by
    rw [changeTicketerForRoom_givenRow, ite_self]
  rw [performUpdate]
  dsimp only
  rw [notCalled]
  by_cases refused : stores.room .isActive = false ∨ transfer.fault = some .save
  · rw [if_pos refused]
    refine ⟨fun _ => ?_, fun _ => inSync⟩
    rcases refused with closed | locked
    · exact .inr (.inl closed)
    · exact .inr (.inr (.inl locked))
  · rw [if_neg refused]
    by_cases later : transfer.fault = some .laterWrite
    · rw [if_pos (.inr later)]
      exact ⟨fun _ => .inr (.inr (.inr later)), fun _ => inSync⟩
    · rw [if_neg (by simp [later]), inSync_transferred]
      refine ⟨.inl, ?_⟩
      intro either
      rcases either with same | closed | locked | fails
      · exact same
      · exact absurd (.inl closed) refused
      · exact absurd (.inr locked) refused
      · exact absurd fails later

theorem changeTicketerForRoom_integrated {queue destinationSector : Uuid}
    (integrated : stores.Integrated settings) (isQueue : stores.room .queue = some queue)
    (different : settings.sectorOf queue ≠ destinationSector) (fault : Option TransferFault)
    (ticketer : Uuid) :
    changeTicketerForRoom settings stores.room destinationSector fault ticketer =
      callFlows settings destinationSector fault ticketer := by
  have calls : ¬(settings.useWeniFlows = false ∨ stores.room .ticketUuid = none) := by
    intro either
    rcases either with unused | missing
    · cases unused.symm.trans integrated.useWeniFlows
    · have ticketUuid := integrated.ticketUuid
      rw [missing] at ticketUuid
      cases ticketUuid
  have enabled : ¬settings.changesTicketers
      (settings.projectOf (settings.sectorOf queue)) = false := by
    rw [integrated.changesTicketers queue isQueue]
    nofun
  rw [changeTicketerForRoom, if_neg calls, isQueue]
  dsimp only
  rw [if_neg different, if_neg enabled]

theorem callFlows_cases {sector destination ticketer : Uuid} {fault : Option TransferFault}
    (isDestination : settings.ticketerBySector sector = some destination) :
    (∃ error, callFlows settings sector fault ticketer = (ticketer, some error) ∧
        (fault = some .ticketerLookup ∨ fault = some .callRejected)) ∨
      ∃ error, callFlows settings sector fault ticketer = (destination, error) ∧
        (error.isSome = true ↔ fault = some .responseLost) ∧
        fault ≠ some .ticketerLookup ∧ fault ≠ some .callRejected := by
  unfold callFlows
  rw [isDestination]
  cases fault with
  | none => exact .inr ⟨none, by simp⟩
  | some fault =>
      cases fault with
      | ticketerLookup => exact .inl ⟨_, rfl, .inl rfl⟩
      | callRejected => exact .inl ⟨_, rfl, .inr rfl⟩
      | responseLost => exact .inr ⟨_, rfl, by simp⟩
      | save => exact .inr ⟨none, by simp⟩
      | laterWrite => exact .inr ⟨none, by simp⟩

theorem bulkTransfer_inSync_of_uncalled (inSync : stores.InSync settings)
    {error : Option TicketerError}
    (called : changeTicketerForRoom settings stores.room (settings.sectorOf transfer.queue)
      transfer.fault stores.ticketer = (stores.ticketer, error))
    (stays : error = none →
      settings.ticketerBySector (settings.sectorOf transfer.queue) = some stores.ticketer) :
    (transfer.bulkTransfer settings stores).InSync settings := by
  rw [bulkTransfer, called]
  dsimp only
  split
  · exact inSync
  · next completes =>
      rw [inSync_transferred]
      cases error with
      | none => exact stays rfl
      | some error => exact absurd (.inl rfl) completes

theorem bulkTransfer_inSync_of_called (inSync : stores.InSync settings) {destination : Uuid}
    {error : Option TicketerError}
    (isTicketer : settings.ticketerBySector (settings.sectorOf transfer.queue) =
      some destination)
    (called : changeTicketerForRoom settings stores.room (settings.sectorOf transfer.queue)
      transfer.fault stores.ticketer = (destination, error)) :
    (transfer.bulkTransfer settings stores).InSync settings ↔
      destination = stores.ticketer ∨
        ¬(error.isSome = true ∨ stores.room .isActive = false ∨ transfer.fault = some .save ∨
          transfer.fault = some .laterWrite) := by
  rw [bulkTransfer, called]
  dsimp only
  split
  · next fails =>
      rw [inSync_rolledBack inSync]
      exact ⟨.inl, fun either => either.resolve_right fun completes => completes fails⟩
  · next completes =>
      rw [inSync_transferred]
      exact ⟨fun _ => .inr completes, fun _ => isTicketer⟩

theorem bulkTransfer_inSync_iff (integrated : stores.Integrated settings)
    (inSync : stores.InSync settings) :
    (transfer.bulkTransfer settings stores).InSync settings ↔
      settings.ticketerBySector (settings.sectorOf transfer.queue) = some stores.ticketer ∨
        settings.ticketerBySector (settings.sectorOf transfer.queue) = none ∨
        transfer.fault = some .ticketerLookup ∨ transfer.fault = some .callRejected ∨
        (stores.room .isActive = true ∧ transfer.fault = none) := by
  rcases inSync with ⟨queue, isQueue, isTicketer⟩
  have inSync : stores.InSync settings := ⟨queue, isQueue, isTicketer⟩
  by_cases same : settings.sectorOf queue = settings.sectorOf transfer.queue
  · have kept : settings.ticketerBySector (settings.sectorOf transfer.queue) =
        some stores.ticketer := same ▸ isTicketer
    have called : changeTicketerForRoom settings stores.room
        (settings.sectorOf transfer.queue) transfer.fault stores.ticketer =
          (stores.ticketer, none) := by
      rw [changeTicketerForRoom, isQueue]
      simp [same]
    exact ⟨fun _ => .inl kept,
      fun _ => bulkTransfer_inSync_of_uncalled inSync called fun _ => kept⟩
  · have called := changeTicketerForRoom_integrated integrated isQueue same transfer.fault
      stores.ticketer
    cases isDestination :
        settings.ticketerBySector (settings.sectorOf transfer.queue) with
    | none =>
        simp only [callFlows, isDestination] at called
        exact ⟨fun _ => .inr (.inl rfl),
          fun _ => bulkTransfer_inSync_of_uncalled inSync called nofun⟩
    | some destination =>
        rcases callFlows_cases isDestination with
          ⟨error, answered, refused⟩ | ⟨error, answered, isError, notLookup, notRejected⟩
        · have kept := bulkTransfer_inSync_of_uncalled inSync (called.trans answered) nofun
          refine ⟨fun _ => ?_, fun _ => kept⟩
          rcases refused with lookup | rejected
          · exact .inr (.inr (.inl lookup))
          · exact .inr (.inr (.inr (.inl rejected)))
        · rw [bulkTransfer_inSync_of_called inSync isDestination (called.trans answered),
            isError]
          cases isFault : transfer.fault with
          | none => simp
          | some fault =>
              rw [isFault] at notLookup notRejected
              cases fault with
              | ticketerLookup => exact absurd rfl notLookup
              | callRejected => exact absurd rfl notRejected
              | responseLost => simp
              | save => simp
              | laterWrite => simp

end QueueTransfer

/-- When an attempt has ended, the ticketer is the one of the sector of the stored queue
exactly if the attempt keeps it. -/
theorem transfer_keeps_ticketer_iff (settings : FlowsSettings) (transfer : QueueTransfer)
    (stores : TicketStores) (integrated : stores.Integrated settings)
    (inSync : stores.InSync settings) :
    (transfer.attempt settings stores).InSync settings ↔
      transfer.KeepsTicketer settings stores := by
  rw [QueueTransfer.attempt, QueueTransfer.KeepsTicketer]
  cases transfer.path with
  | performUpdate => exact QueueTransfer.performUpdate_inSync_iff inSync
  | bulkTransfer => exact QueueTransfer.bulkTransfer_inSync_iff integrated inSync

/-! ## A transfer to another sector -/

/-- Queue 1 is in sector 3 with ticketer 5, queue 2 in sector 4 with ticketer 6. -/
def twoSectors : FlowsSettings where
  useWeniFlows := true
  changesTicketers := fun _ => true
  sectorOf := fun queue => queue + 2
  projectOf := fun _ => 9
  ticketerBySector := fun sector => if sector = 3 then some 5 else if sector = 4 then some 6 else none

def ticketOfFirstSector : TicketStores where
  room := (RoomRecord.defaults 0).assign
    [⟨.user, some "agent@example.com"⟩, ⟨.queue, some 1⟩, ⟨.ticketUuid, some 8⟩]
  ticketer := 5

theorem ticketOfFirstSector_integrated : ticketOfFirstSector.Integrated twoSectors where
  useWeniFlows := rfl
  ticketUuid := by decide
  changesTicketers := fun _ _ => rfl

def toSecondSector (path : TransferPath) (fault : Option TransferFault) : QueueTransfer :=
  { path, now := 100, user := none, queue := 2, fault }

theorem single_transfer_keeps_old_ticketer :
    ¬ ∀ (settings : FlowsSettings) (transfer : QueueTransfer) (stores : TicketStores),
      stores.Integrated settings → stores.InSync settings →
      (transfer.attempt settings stores).InSync settings := by
  intro keeps
  have after := keeps twoSectors (toSecondSector .performUpdate none) ticketOfFirstSector
    ticketOfFirstSector_integrated ⟨1, by decide, by decide⟩
  rcases after with ⟨queue, isQueue, isTicketer⟩
  have queueAfter : ((toSecondSector .performUpdate none).attempt twoSectors
      ticketOfFirstSector).room .queue = some 2 := by
    decide
  cases queueAfter.symm.trans isQueue
  exact absurd isTicketer (by decide)

/-- A bulk transfer to queue 2 that is completed. -/
theorem transfer_keeps_ticketer_iff_of_bulk :
    ticketOfFirstSector.Integrated twoSectors ∧ ticketOfFirstSector.InSync twoSectors ∧
      ((toSecondSector .bulkTransfer none).attempt twoSectors ticketOfFirstSector).InSync
        twoSectors := by
  have inSync : ticketOfFirstSector.InSync twoSectors := ⟨1, by decide, by decide⟩
  refine ⟨ticketOfFirstSector_integrated, inSync, ?_⟩
  apply (transfer_keeps_ticketer_iff twoSectors (toSecondSector .bulkTransfer none)
    ticketOfFirstSector ticketOfFirstSector_integrated inSync).mpr
  exact .inr (.inr (.inr (.inr ⟨by decide, rfl⟩)))

end ChatsEngine.Rooms
