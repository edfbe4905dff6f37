import ChatsEngine.Foundation.Table
import ChatsEngine.Rooms.Operations

/-! # Inactivity sweeps

`check_inactivity_rooms` warns the rooms whose contact has not replied, and
closes the rooms that were warned. Both passes select their rooms once and then
work on what they selected, statement by statement, while contacts and agents
write messages and other operations save the rooms. -/

namespace ChatsEngine.Rooms

/-- `Sector.inactivity_timeout`. Times are in seconds. -/
structure InactivityConfig where
  isMessageTimeoutEnabled : Bool
  messageTimeoutText : Option String
  messageTimeoutTime : Option Int
  isCloseRoomEnabled : Bool
  closeRoomMessageText : Option String
  closeRoomTimeoutTime : Option Int
deriving DecidableEq, Repr

def microseconds (seconds : Int) : Int := seconds * 1000000

namespace InactivityConfig

def warnTimeout (config : InactivityConfig) : Int :=
  microseconds (config.messageTimeoutTime.getD 0)

def closeTimeout (config : InactivityConfig) : Int :=
  microseconds (config.closeRoomTimeoutTime.getD 0)

/-- `_eligible_warn_queryset`. -/
def EligibleForWarning (config : InactivityConfig) (columns : RoomRecord) : Prop :=
  columns .isActive = true ∧ columns .isInactive = false ∧ columns .isWaiting = false ∧
    (columns .user).isSome ∧ (columns .lastMessageUser).isSome ∧
    config.isMessageTimeoutEnabled = true

/-- `_eligible_close_queryset`. -/
def EligibleForClosing (config : InactivityConfig) (columns : RoomRecord) : Prop :=
  columns .isActive = true ∧ columns .isInactive = true ∧ columns .isWaiting = false ∧
    (columns .user).isSome ∧ (columns .lastMessageUser).isSome ∧
    config.isCloseRoomEnabled = true

instance (config : InactivityConfig) : DecidablePred config.EligibleForWarning :=
  fun _ => inferInstanceAs (Decidable (_ ∧ _))

instance (config : InactivityConfig) : DecidablePred config.EligibleForClosing :=
  fun _ => inferInstanceAs (Decidable (_ ∧ _))

end InactivityConfig

def RoomRecord.lastInteraction (columns : RoomRecord) : Option Nat := columns .lastInteraction

namespace InactivityConfig

/-- What `warn_inactive_rooms` asks of an eligible room. -/
def WarnDue (config : InactivityConfig) (now : Nat) (columns : RoomRecord) : Prop :=
  0 < config.warnTimeout ∧
    ∃ last ∈ RoomRecord.lastInteraction columns, config.warnTimeout ≤ (now : Int) - last

/-- What `close_inactive_rooms` asks of an eligible room. -/
def CloseDue (config : InactivityConfig) (now : Nat) (columns : RoomRecord) : Prop :=
  (0 < config.warnTimeout ∧ 0 < config.closeTimeout) ∧
    ∃ last ∈ RoomRecord.lastInteraction columns,
      config.warnTimeout + config.closeTimeout ≤ (now : Int) - last

instance (config : InactivityConfig) (now : Nat) : DecidablePred (config.WarnDue now) :=
  fun _ => inferInstanceAs (Decidable (_ ∧ _))

instance (config : InactivityConfig) (now : Nat) : DecidablePred (config.CloseDue now) :=
  fun _ => inferInstanceAs (Decidable (_ ∧ _))

end InactivityConfig

/-- A room as a pass has selected it, with the configuration of its sector. -/
structure SelectedRoom where
  pk : Uuid
  columns : RoomRecord
  config : InactivityConfig

/-- When the room is due for its warning. Rooms without interaction are not warned. -/
def SelectedRoom.warningDueAt (room : SelectedRoom) : Int :=
  (RoomRecord.lastInteraction room.columns).getD 0 + room.config.warnTimeout

/-- A warning of a contact: when it was issued, and when the room was due for it. -/
structure Warning where
  issuedAt : Nat
  dueAt : Int
deriving DecidableEq, Repr

/-- A warnings pass that has gone over all the rooms that it had selected. -/
structure WarningsPass where
  startedAt : Nat
  endedAt : Nat
deriving DecidableEq, Repr

/-- A closing by a sweep: when it was stored, when the room had last been warned,
and the closing timeout that the sweep went by. -/
structure Closing where
  room : Uuid
  closedAt : Nat
  warnedAt : Option Nat
  closeTimeout : Int
deriving DecidableEq, Repr

/-- At the closing, the closing timeout has passed since the warning. -/
def Closing.KeepsTimeout (closing : Closing) : Prop :=
  ∃ warnedAt ∈ closing.warnedAt, closing.closeTimeout ≤ (closing.closedAt : Int) - warnedAt

instance : DecidablePred Closing.KeepsTimeout := by
  unfold Closing.KeepsTimeout
  infer_instance

structure SweepLock where
  token : Uuid
  expiresAt : Nat
deriving DecidableEq, Repr

/-- No statement reads the last warnings, the warnings passes and the closings, which are a
record of what the sweeps have done. -/
structure InactivityTable where
  now : Nat
  rooms : Table Uuid RoomRecord
  sectorOf : Uuid → Option Uuid
  config : Uuid → InactivityConfig
  lock : Option SweepLock
  lastWarning : Uuid → Option Warning
  warningsPasses : List WarningsPass
  closings : List Closing

namespace InactivityTable

def initial (now : Nat) (sectorOf : Uuid → Option Uuid)
    (config : Uuid → InactivityConfig) : InactivityTable where
  now := now
  rooms := ∅
  sectorOf := sectorOf
  config := config
  lock := none
  lastWarning := fun _ => none
  warningsPasses := []
  closings := []

/-- `room.queue.sector.inactivity_timeout`. -/
def configOf (table : InactivityTable) (columns : RoomRecord) : Option InactivityConfig :=
  match columns .queue with
  | none => none
  | some queue => (table.sectorOf queue).map table.config

def select (table : InactivityTable) (Eligible : InactivityConfig → RoomRecord → Prop)
    [∀ config, DecidablePred (Eligible config)] : List SelectedRoom :=
  table.rooms.entries.filterMap fun room =>
    match table.configOf room.2 with
    | none => none
    | some config =>
        if Eligible config room.2 then
          some { pk := room.1, columns := room.2, config := config }
        else none

def mapRoom (table : InactivityTable) (pk : Uuid) (change : RoomRecord → RoomRecord) :
    InactivityTable :=
  { table with rooms := table.rooms.modify pk change }

/-- `Room.objects.filter(pk=pk, …).update(…)`. -/
def update (table : InactivityTable) (pk : Uuid) (update : QuerysetUpdate) : InactivityTable :=
  table.mapRoom pk fun columns =>
    if update.Selects columns then columns.assign (update.assignments columns table.now)
    else columns

/-- `super().save()` of an instance. -/
def store (table : InactivityTable) (pk : Uuid) (room : RoomInstance) : InactivityTable :=
  table.mapRoom pk fun _ =>
    (room.assign (room.saveAssignments table.now none)).values

def warned (table : InactivityTable) (room : SelectedRoom) : InactivityTable :=
  { table with
    lastWarning := Function.update table.lastWarning room.pk
      (some { issuedAt := table.now, dueAt := room.warningDueAt }) }

def closed (table : InactivityTable) (closing : Closing) : InactivityTable :=
  { table with closings := closing :: table.closings }

/-- `_send_silent_automatic_message`, as far as the room is concerned. -/
def sendSilently (table : InactivityTable) (room : SelectedRoom) (uuid : Uuid)
    (text : String) : InactivityTable :=
  table.update room.pk (.updateLastMessage
    { uuid := uuid, text := some text, medias := [], createdOn := table.now }
    (room.columns .user) false)

def LockHeld (table : InactivityTable) : Prop :=
  ∃ lock ∈ table.lock, table.now < lock.expiresAt

instance (table : InactivityTable) : Decidable table.LockHeld := by
  unfold LockHeld
  infer_instance

/-- `lock.release()`, whose failure is only logged. -/
def release (table : InactivityTable) (token : Uuid) : InactivityTable :=
  if ∃ lock ∈ table.lock, table.now < lock.expiresAt ∧ lock.token = token then
    { table with lock := none }
  else
    table

end InactivityTable

/-- The settings of a sweep, and the token with which it holds the lock. -/
structure SweepSettings where
  token : Uuid
  lockTimeout : Nat
  maxWarningsPerRun : Nat
  maxClosuresPerRun : Nat
deriving DecidableEq, Repr

structure Pass where
  settings : SweepSettings
  now : Nat
  rooms : List SelectedRoom
  count : Nat

/-- What other operations assign to a room. The flag is not among it: it belongs
to the sweeps and to the replies. -/
structure OtherWrites where
  assignments : List RoomAssignment
  spared : RoomColumn.isInactive ∉ assignments.map Sigma.fst

inductive InactivityTask
  | checkInactivityRooms (settings : SweepSettings)
  | contactMessage (pk : Uuid) (message : LastMessage) (contact : Option Uuid)
      (incrementUnread : Int)
  | operation (pk : Uuid) (writes : OtherWrites)

inductive InactivityProgress
  | acquiring (settings : SweepSettings)
  | beforeWarnings (settings : SweepSettings)
  | warning (pass : Pass)
  | sendingWarning (pass : Pass) (room : SelectedRoom)
  | flagging (pass : Pass) (room : SelectedRoom)
  | beforeClosures (settings : SweepSettings)
  | closing (pass : Pass)
  | sendingClosure (pass : Pass) (room : SelectedRoom)
  | refreshing (pass : Pass) (room : SelectedRoom)
  | guarding (pass : Pass) (room : SelectedRoom) (held : RoomInstance)
  | storing (pass : Pass) (room : SelectedRoom) (held : RoomInstance)
  | releasing (settings : SweepSettings)
  | receiving (pk : Uuid) (message : LastMessage) (contact : Option Uuid)
      (incrementUnread : Int)
  | received (pk : Uuid) (room : RoomRecord) (message : LastMessage) (contact : Option Uuid)
      (incrementUnread : Int)
  | resetting (pk : Uuid)
  | loading (pk : Uuid) (writes : OtherWrites)
  | assigned (pk : Uuid) (room : RoomInstance)
  | saving (pk : Uuid) (room : RoomInstance)

/-- Whether a statement goes through or raises. A statement that creates a message
is told its uuid. -/
inductive Outcome
  | done (uuid : Uuid)
  | failed
deriving DecidableEq, Repr

inductive InactivitySurrounding
  | tick (elapsed : Nat)
  | configure (sector : Uuid) (config : InactivityConfig)
  | createRoom (pk : Uuid) (writes : OtherWrites)
  | agentMessage (pk : Uuid) (message : LastMessage) (user : Option UserEmail)

namespace InactivityProgress

/-- One round of the loop in `warn_inactive_rooms`, up to the message. -/
def warnRound (pass : Pass) : InactivityProgress :=
  match pass.rooms with
  | [] => .beforeClosures pass.settings
  | room :: rooms =>
      if pass.settings.maxWarningsPerRun ≤ pass.count then .beforeClosures pass.settings
      else if room.config.WarnDue pass.now room.columns then
        .sendingWarning { pass with rooms := rooms } room
      else .warning { pass with rooms := rooms }

/-- The loop has come to its end without having been stopped at the maximum of its run. -/
def recordPass (table : InactivityTable) (pass : Pass) : InactivityTable :=
  match pass.rooms with
  | [] =>
      { table with
        warningsPasses := { startedAt := pass.now, endedAt := table.now } ::
          table.warningsPasses }
  | _ :: _ => table

/-- One round of the loop in `close_inactive_rooms`, up to the messages. -/
def closeRound (pass : Pass) : InactivityProgress :=
  match pass.rooms with
  | [] => .releasing pass.settings
  | room :: rooms =>
      if pass.settings.maxClosuresPerRun ≤ pass.count then .releasing pass.settings
      else if room.config.CloseDue pass.now room.columns then
        .sendingClosure { pass with rooms := rooms } room
      else .closing { pass with rooms := rooms }

abbrev Effect := InactivityTable × Option InactivityProgress

def acquire (table : InactivityTable) (settings : SweepSettings) : Effect :=
  if table.LockHeld then (table, none)
  else
    ({ table with
        lock := some { token := settings.token, expiresAt := table.now + settings.lockTimeout } },
      some (.beforeWarnings settings))

/-- The message of `_warn_room`. -/
def sendWarning (table : InactivityTable) (pass : Pass) (room : SelectedRoom)
    (outcome : Outcome) : Effect :=
  let text := room.config.messageTimeoutText.getD ""
  if text = "" then (table, some (.flagging pass room))
  else
    match outcome with
    | .done uuid =>
        ((table.sendSilently room uuid text).warned room, some (.flagging pass room))
    | .failed => (table, some (.warning pass))

/-- The update of `_warn_room`. Without a text, the flag is all the warning there
is. -/
def flag (table : InactivityTable) (pass : Pass) (room : SelectedRoom) : Effect :=
  let flagged := table.update room.pk .warnRoom
  (if room.config.messageTimeoutText.getD "" = "" then flagged.warned room else flagged,
    some (.warning { pass with count := pass.count + 1 }))

/-- The closing message of `_close_room`, without which it goes on. -/
def sendClosure (table : InactivityTable) (pass : Pass) (room : SelectedRoom)
    (outcome : Outcome) : Effect :=
  let text := room.config.closeRoomMessageText.getD ""
  match outcome with
  | .done uuid =>
      (if text = "" then table else table.sendSilently room uuid text,
        some (.refreshing pass room))
  | .failed => (table, some (.refreshing pass room))

/-- `refresh_from_db`, which raises when there is no such room, and the
assignments of `room.close`. -/
def refresh (table : InactivityTable) (pass : Pass) (room : SelectedRoom) : Effect :=
  match table.rooms.lookup room.pk with
  | none => (table, some (.releasing pass.settings))
  | some columns =>
      let held := (RoomInstance.load columns).assign (⟨.automaticClosed, true⟩ ::
        RoomInstance.closing table.now "inactivity" (columns .user))
      (table, some (.guarding pass room held))

/-- The guard "Closed rooms can't receive updates" of `Room.save`. -/
def Refused (table : InactivityTable) (pk : Uuid) : Prop :=
  ∃ columns ∈ table.rooms.lookup pk, columns .isActive = false

instance (table : InactivityTable) (pk : Uuid) : Decidable (Refused table pk) := by
  unfold Refused
  infer_instance

/-- The write of `_close_room`. -/
def storeClosing (table : InactivityTable) (pass : Pass) (room : SelectedRoom)
    (held : RoomInstance) : Outcome → Effect
  | .done _ =>
      ((table.store room.pk held).closed
          { room := room.pk, closedAt := table.now
            warnedAt := (table.lastWarning room.pk).map Warning.issuedAt
            closeTimeout := room.config.closeTimeout },
        some (.closing { pass with count := pass.count + 1 }))
  | .failed => (table, some (.closing pass))

/-- `Room.objects.get(pk=pk)` at the start of a request, which ends when there is
no such room. -/
def load (table : InactivityTable) (pk : Uuid) (goOn : RoomRecord → InactivityProgress) :
    Effect :=
  (table, (table.rooms.lookup pk).map goOn)

def advance (table : InactivityTable) : InactivityProgress → Outcome → Effect
  | .acquiring settings, _ => acquire table settings
  | .beforeWarnings settings, .done _ =>
      (table, some (.warning
        { settings := settings, now := table.now, count := 0
          rooms := table.select InactivityConfig.EligibleForWarning }))
  | .warning pass, .done _ => (recordPass table pass, some (warnRound pass))
  | .sendingWarning pass room, outcome => sendWarning table pass room outcome
  | .flagging pass room, .done _ => flag table pass room
  | .beforeClosures settings, .done _ =>
      (table, some (.closing
        { settings := settings, now := table.now, count := 0
          rooms := table.select InactivityConfig.EligibleForClosing }))
  | .closing pass, .done _ => (table, some (closeRound pass))
  -- an exception ends the pass that it comes from
  | .beforeWarnings settings, .failed => (table, some (.beforeClosures settings))
  | .warning pass, .failed => (table, some (.beforeClosures pass.settings))
  | .flagging pass _, .failed => (table, some (.beforeClosures pass.settings))
  | .beforeClosures settings, .failed => (table, some (.releasing settings))
  | .closing pass, .failed => (table, some (.releasing pass.settings))
  | .sendingClosure pass room, outcome => sendClosure table pass room outcome
  | .refreshing pass room, _ => refresh table pass room
  | .guarding pass room held, _ =>
      (table, some (if Refused table room.pk then .closing pass else .storing pass room held))
  | .storing pass room held, outcome => storeClosing table pass room held outcome
  | .releasing settings, _ => (table.release settings.token, none)
  | .receiving pk message contact incrementUnread, _ =>
      load table pk fun columns => .received pk columns message contact incrementUnread
  | .received pk room message contact incrementUnread, _ =>
      (table.update pk (.onNewMessage message contact incrementUnread),
        if room .isInactive = true ∧ contact.isSome ∧ room .isActive = true
        then some (.resetting pk) else none)
  | .resetting pk, _ => (table.update pk .resetInactivity, none)
  | .loading pk writes, _ =>
      load table pk fun columns =>
        .assigned pk ((RoomInstance.load columns).assign writes.assignments)
  | .assigned pk room, _ =>
      (table, if Refused table pk then none else some (.saving pk room))
  | .saving pk room, _ => (table.store pk room, none)

end InactivityProgress

namespace InactivityTable

def surround (table : InactivityTable) : InactivitySurrounding → Option InactivityTable
  | .tick elapsed => some { table with now := table.now + elapsed }
  | .configure sector config =>
      some { table with config := Function.update table.config sector config }
  | .createRoom pk writes =>
      match table.rooms.lookup pk with
      | some _ => none
      | none =>
          let columns := (RoomRecord.defaults table.now).assign writes.assignments
          some { table with rooms := table.rooms.insert pk columns }
  | .agentMessage pk message user =>
      some (table.update pk (.updateLastMessage message user true))

end InactivityTable

def inactivityProgram : Program InactivityTable InactivityProgress InactivityTask Outcome
    InactivitySurrounding where
  enter
    | .checkInactivityRooms settings => .acquiring settings
    | .contactMessage pk message contact incrementUnread =>
        .receiving pk message contact incrementUnread
    | .operation pk writes => .loading pk writes
  advance := fun table progress outcome => some (progress.advance table outcome)
  surround := InactivityTable.surround

abbrev InactivityPool (Pid : Type) := Pool Pid InactivityTable InactivityProgress

abbrev InactivityEvent (Pid : Type) :=
  PoolEvent Pid InactivityTask Outcome InactivitySurrounding

end ChatsEngine.Rooms
