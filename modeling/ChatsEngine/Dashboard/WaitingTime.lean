import ChatsEngine.Dashboard.RoomMetrics
import ChatsEngine.Foundation.Machine
import ChatsEngine.Rooms.Room
import Mathlib.Tactic.Ring

/-! # The waiting time of a room

A room waits while it is open and has no agent. Every operation that ends a wait adds
it to the metrics by itself, after it has saved the room. -/

namespace ChatsEngine.Dashboard

open ChatsEngine.Rooms

/-- `int((to - from).total_seconds())`. -/
def wholeSeconds (start stop : Instant) : Int :=
  ((stop : Int) - start).tdiv 1000000

/-- `calculate_last_queue_waiting_time`, at a given end time. -/
def calculateLastQueueWaitingTime (row : RoomRecord) (endTime : Instant) : Int :=
  match row .addedToQueueAt with
  | none => 0
  | some addedToQueueAt => wholeSeconds addedToQueueAt endTime

structure CloseSettings where
  /-- `USE_CELERY`. -/
  useCelery : Bool
  /-- `ACTIVATE_CALC_METRICS`. -/
  activateCalcMetrics : Bool

inductive ClosePath
  /-- `RoomViewset.close` and `RoomFlowViewSet.close`. -/
  | request
  /-- `BulkCloseService.close`. -/
  | bulk
  /-- `get_active_room_flow_start`, for another flow start of the contact. -/
  | flowStart
  /-- `_close_room` of the inactivity sweep. -/
  | inactivity
deriving DecidableEq, Repr

namespace ClosePath

/-- The runs of `generate_metrics` inside the operation. -/
def inline (settings : CloseSettings) : ClosePath → Nat
  | .request => if settings.activateCalcMetrics then 1 else 0
  | .bulk => 1
  | .flowStart => 1
  | .inactivity => 0

/-- The `close_metrics` tasks that the operation schedules. `close_room` schedules one
besides the inline run. -/
def scheduled (settings : CloseSettings) : ClosePath → Nat
  | .request => if settings.activateCalcMetrics && settings.useCelery then 1 else 0
  | .bulk => if settings.useCelery then 1 else 0
  | .flowStart => if settings.useCelery then 1 else 0
  | .inactivity => if settings.activateCalcMetrics then 1 else 0

def runs (settings : CloseSettings) (path : ClosePath) : Nat :=
  path.inline settings + path.scheduled settings

/-- The rooms that are closed this way: the sweep selects rooms with an agent. -/
def Selects (row : RoomRecord) : ClosePath → Prop
  | .inactivity => (row .user).isSome
  | _ => True

instance (row : RoomRecord) : (path : ClosePath) → Decidable (path.Selects row)
  | .inactivity => inferInstanceAs (Decidable ((row .user).isSome = true))
  | .request => inferInstanceAs (Decidable True)
  | .bulk => inferInstanceAs (Decidable True)
  | .flowStart => inferInstanceAs (Decidable True)

end ClosePath

def Unattended (row : RoomRecord) : Prop :=
  row .isActive = true ∧ row .user = none

instance : DecidablePred Unattended := fun row =>
  inferInstanceAs (Decidable (row .isActive = true ∧ row .user = none))

structure RoomHistory where
  now : Nat
  row : RoomRecord
  metrics : RoomMetrics
  closeMetricsTasks : Nat
  /-- Since when the room has been open without an agent. -/
  unattendedSince : Option Nat
  /-- The intervals that are over. -/
  intervals : List (Nat × Nat)

/-- What happens to a room. After an operation has saved the room, some time passes until
it reads the clock for the metrics. -/
inductive RoomEvent
  | tick (elapsed : Nat)
  | routeRooms (agent : UserEmail) (delay : Nat)
  | pickQueueRoom (agent : UserEmail) (delay : Nat)
  | bulkTake (agent : UserEmail) (delay : Nat)
  /-- `RoomViewset.perform_update`. -/
  | performUpdate (user : Option UserEmail) (queue : Option Uuid) (delay : Nat)
  | bulkTransfer (user : Option UserEmail) (queue : Option Uuid) (delay : Nat)
  /-- `RoomUserExternalViewSet.partial_update`. -/
  | partialUpdate (agent : UserEmail) (delay : Nat)
  /-- `RoomFlowViewSet.perform_update`, where a user can be given as null. -/
  | flowUpdate (user : Option (Option UserEmail)) (queue : Option Uuid)
  | close (path : ClosePath) (responseTime : Int)
  | closeMetrics (responseTime : Int)
deriving DecidableEq, Repr

/-- `Room.objects.create`. -/
def createdRow (now : Instant) (user : Option UserEmail) (queue : Option Uuid) : RoomRecord :=
  let room := RoomInstance.create
    ((RoomRecord.defaults now).assign [⟨.user, user⟩, ⟨.queue, queue⟩])
  (room.assign (room.saveAssignments now none)).values

namespace RoomHistory

def created (now : Instant) (user : Option UserEmail) (queue : Option Uuid) : RoomHistory where
  now := now
  row := createdRow now user queue
  metrics := {}
  closeMetricsTasks := 0
  unattendedSince := if user = none then some now else none
  intervals := []

variable (history : RoomHistory)

/-- Store the row, and record where an interval without an agent begins or ends. -/
def store (row : RoomRecord) : RoomHistory :=
  if Unattended row then
    { history with
      row
      unattendedSince := some (history.unattendedSince.getD history.now) }
  else
    { history with
      row
      unattendedSince := none
      intervals := (history.unattendedSince.map fun since => (since, history.now)).toList ++
        history.intervals }

def save (assignments : List RoomAssignment) : RoomHistory :=
  history.store (savedRow history.now assignments history.row)

def wait (elapsed : Nat) : RoomHistory :=
  { history with now := history.now + elapsed }

def change (change : MetricsChange) : RoomHistory :=
  { history with metrics := change.apply history.metrics }

def addWaitingTime (delay : Nat) : RoomHistory :=
  let later := history.wait delay
  later.change (.assign (calculateLastQueueWaitingTime later.row later.now))

def assignFromQueue (agent : UserEmail) (delay : Nat) : RoomHistory :=
  (history.save [⟨.user, some agent⟩]).addWaitingTime delay

def transferAssignments (user : Option (Option UserEmail)) (queue : Option Uuid) :
    List RoomAssignment :=
  (user.map fun user => ⟨.user, user⟩).toList ++ (queue.map fun queue => ⟨.queue, some queue⟩).toList

/-- The first part of `RoomViewset.perform_update`: the room is saved with what is given,
and the metrics are changed for the user. -/
def updateUser (user : Option UserEmail) (queue : Option Uuid) (delay : Nat) : RoomHistory :=
  let saved := history.save (transferAssignments (user.map some) queue)
  match user with
  | none => saved.wait delay
  | some _ =>
      if history.row .user = none then saved.addWaitingTime delay
      else (saved.wait delay).change .transfer

/-- `RoomViewset.perform_update`: the metrics are also changed for the queue, and the room
is saved again, without its user if only a queue was given. -/
def performUpdate (user : Option UserEmail) (queue : Option Uuid) (delay : Nat) :
    RoomHistory :=
  let forUser := history.updateUser user queue delay
  match user, queue with
  | none, none => forUser
  | some _, none => forUser.save []
  | none, some _ => (forUser.change .transfer).save [⟨.user, none⟩]
  | some _, some _ => (forUser.change .transfer).save []

/-- `BulkTransferService._transfer_room`. -/
def bulkTransfer (user : Option UserEmail) (queue : Option Uuid) (delay : Nat) :
    RoomHistory :=
  match user, queue with
  | none, none => history
  | none, some queue => history.save (transferAssignments (some none) (some queue))
  | some user, queue =>
      let saved := history.save (transferAssignments (some (some user)) queue)
      if history.row .user = none then saved.addWaitingTime delay else saved

/-- `RoomUserExternalViewSet.partial_update`, which measures the wait from the date of
modification that the room had. -/
def partialUpdate (agent : UserEmail) (delay : Nat) : RoomHistory :=
  let later := (history.save [⟨.user, some agent⟩]).wait delay
  later.change (.assign (wholeSeconds (history.row .modifiedOn) later.now))

/-- What `generate_metrics` does to the metrics of the room. -/
def generateMetricsChange (responseTime : Int) : MetricsChange where
  messageResponseTime := some responseTime
  interactionTime := some (
    match history.row .isActive, history.row .firstUserAssignedAt, history.row .endedAt with
    | false, some firstUserAssignedAt, some endedAt => wholeSeconds firstUserAssignedAt endedAt
    | _, _, _ => 0)
  waitingTime :=
    if history.row .user = none then
      calculateLastQueueWaitingTime history.row ((history.row .endedAt).getD history.now)
    else 0

def generateMetrics (responseTime : Int) : RoomHistory :=
  history.change (history.generateMetricsChange responseTime)

/-- `Room.close` and what its callers do about metrics. -/
def close (settings : CloseSettings) (path : ClosePath) (responseTime : Int) : RoomHistory :=
  let closed := history.save (RoomInstance.closing history.now "" none)
  let scheduled := { closed with
    closeMetricsTasks := closed.closeMetricsTasks + path.scheduled settings }
  if path.inline settings = 0 then scheduled else scheduled.generateMetrics responseTime

/-- `Room.save` refuses closed rooms, and rooms that are routed, picked or taken have no
user. -/
def step (settings : CloseSettings) : RoomEvent → Option RoomHistory
  | .tick elapsed => some (history.wait elapsed)
  | .routeRooms agent delay =>
      if Unattended history.row then some (history.assignFromQueue agent delay) else none
  | .pickQueueRoom agent delay =>
      if Unattended history.row then some (history.assignFromQueue agent delay) else none
  | .bulkTake agent delay =>
      if Unattended history.row then some (history.assignFromQueue agent delay) else none
  | .performUpdate user queue delay =>
      if history.row .isActive then some (history.performUpdate user queue delay) else none
  | .bulkTransfer user queue delay =>
      if history.row .isActive then some (history.bulkTransfer user queue delay) else none
  | .partialUpdate agent delay =>
      if Unattended history.row then some (history.partialUpdate agent delay) else none
  | .flowUpdate user queue =>
      if history.row .isActive then some (history.save (transferAssignments user queue))
      else none
  | .close path responseTime =>
      if history.row .isActive ∧ path.Selects history.row then
        some (history.close settings path responseTime)
      else none
  | .closeMetrics responseTime =>
      match history.closeMetricsTasks with
      | 0 => none
      | tasks + 1 =>
          some ({ history with closeMetricsTasks := tasks }.generateMetrics responseTime)

end RoomHistory

def waitingMachine (settings : CloseSettings) : Machine RoomHistory RoomEvent where
  step := fun history event => history.step settings event

/-! ## The balance of waiting times -/

namespace RoomHistory

def total (history : RoomHistory) : Int :=
  (history.intervals.map fun interval => wholeSeconds interval.1 interval.2).sum

def waitEnded (history : RoomHistory) (row : RoomRecord) : Int :=
  if Unattended row then 0
  else (history.unattendedSince.map fun since => wholeSeconds since history.now).getD 0

/-- What a run of `generate_metrics` adds for a closed room. -/
def closingWait (row : RoomRecord) : Int :=
  if row .user = none then
    calculateLastQueueWaitingTime row ((row .endedAt).getD 0)
  else 0

/-- The metrics and the scheduled tasks account for all intervals that are over, up to
what is still owed. -/
structure Owes (owed : Int) (history : RoomHistory) : Prop where
  since : ∀ since, history.unattendedSince = some since →
    history.row .addedToQueueAt = some since
  unattended : history.unattendedSince.isSome = true ↔ Unattended history.row
  tasks : history.row .isActive = true → history.closeMetricsTasks = 0
  ended : history.row .isActive = false → (history.row .endedAt).isSome = true
  balance : history.metrics.waitingTime +
    history.closeMetricsTasks * closingWait history.row + owed = history.total

variable {history : RoomHistory} {owed : Int} {row : RoomRecord}

@[simp] theorem store_row : (history.store row).row = row := by
  rw [store]
  split <;> rfl

@[simp] theorem store_now : (history.store row).now = history.now := by
  rw [store]
  split <;> rfl

@[simp] theorem store_metrics : (history.store row).metrics = history.metrics := by
  rw [store]
  split <;> rfl

@[simp] theorem store_closeMetricsTasks :
    (history.store row).closeMetricsTasks = history.closeMetricsTasks := by
  rw [store]
  split <;> rfl

theorem store_unattendedSince : (history.store row).unattendedSince =
    if Unattended row then some (history.unattendedSince.getD history.now) else none := by
  rw [store]
  split <;> rfl

theorem total_store : (history.store row).total = history.total + history.waitEnded row := by
  rw [store, waitEnded]
  split
  · exact (add_zero _).symm
  · cases history.unattendedSince with
    | none => exact (add_zero _).symm
    | some since => exact add_comm _ _

theorem Owes.store (owes : Owes owed history) (noTasks : history.closeMetricsTasks = 0)
    (added : Unattended row →
      row .addedToQueueAt = some (history.unattendedSince.getD history.now))
    (ended : row .isActive = false → (row .endedAt).isSome = true) :
    Owes (owed + history.waitEnded row) (history.store row) where
  since := by
    intro since isSince
    rw [store_unattendedSince] at isSince
    split at isSince
    · next unattended =>
        rw [store_row, added unattended]
        exact isSince
    · cases isSince
  unattended := by
    rw [store_unattendedSince, store_row]
    split
    · next unattended => exact ⟨fun _ => unattended, fun _ => rfl⟩
    · next attended =>
        exact ⟨fun impossible => (by cases impossible),
          fun unattended => absurd unattended attended⟩
  tasks := by
    rw [store_closeMetricsTasks]
    exact fun _ => noTasks
  ended := by
    rw [store_row]
    exact ended
  balance := by
    have before := owes.balance
    rw [noTasks, Int.ofNat_zero, zero_mul, add_zero] at before
    rw [store_metrics, store_closeMetricsTasks, noTasks, total_store, ← before, Int.ofNat_zero,
      zero_mul, add_zero, add_assoc]

theorem Owes.wait (owes : Owes owed history) (elapsed : Nat) :
    Owes owed (history.wait elapsed) where
  since := owes.since
  unattended := owes.unattended
  tasks := owes.tasks
  ended := owes.ended
  balance := owes.balance

theorem Owes.change {change : MetricsChange} (owes : Owes (change.waitingTime + owed) history) :
    Owes owed (history.change change) where
  since := owes.since
  unattended := owes.unattended
  tasks := owes.tasks
  ended := owes.ended
  balance := by
    have before := owes.balance
    have changed : (history.change change).metrics.waitingTime =
        history.metrics.waitingTime + change.waitingTime := rfl
    rw [changed]
    change _ = history.total
    rw [← before]
    change history.metrics.waitingTime + change.waitingTime +
      history.closeMetricsTasks * closingWait history.row + owed = _
    ring

theorem Owes.save (owes : Owes owed history) (isActive : history.row .isActive = true)
    {assignments : List RoomAssignment}
    (spared : ∀ column ∈ assignments.map Sigma.fst, column = .user ∨ column = .queue) :
    Owes (owed + history.waitEnded (savedRow history.now assignments history.row))
      (history.save assignments) := by
  apply owes.store (owes.tasks isActive)
  · intro unattended
    have notAdded : RoomColumn.addedToQueueAt ∉ assignments.map Sigma.fst := by
      intro member
      rcases spared _ member with impossible | impossible <;> cases impossible
    have user : history.row.assign assignments .user = none := by
      have saved : savedRow history.now assignments history.row .user =
          history.row.assign assignments .user := savedRow_spare (by decide)
      exact saved.symm.trans unattended.2
    rw [savedRow_addedToQueueAt notAdded]
    by_cases attended : history.row .user = none
    · rw [if_neg fun loses => loses.1 attended]
      have before : Unattended history.row := ⟨isActive, attended⟩
      rcases Option.isSome_iff_exists.mp (owes.unattended.mpr before) with ⟨since, isSince⟩
      rw [isSince, owes.since since isSince]
      rfl
    · rw [if_pos ⟨attended, user⟩]
      have before : ¬history.unattendedSince.isSome = true :=
        fun isSome => attended (owes.unattended.mp isSome).2
      rw [Option.not_isSome_iff_eq_none.mp before]
      rfl
  · intro closed
    have spares : RoomColumn.isActive ∉ assignments.map Sigma.fst := by
      intro member
      rcases spared _ member with impossible | impossible <;> cases impossible
    rw [savedRow_spare (by decide), Record.assign_of_not_mem spares, isActive] at closed
    cases closed

theorem waitEnded_of_attended (attended : history.unattendedSince = none) :
    history.waitEnded row = 0 := by
  rw [waitEnded, attended]
  split <;> rfl

theorem waitEnded_of_unattended (unattended : Unattended row) : history.waitEnded row = 0 :=
  if_pos unattended

theorem waitEnded_of_since {since : Nat} (isSince : history.unattendedSince = some since)
    (attended : ¬Unattended row) : history.waitEnded row = wholeSeconds since history.now := by
  rw [waitEnded, if_neg attended, isSince]
  rfl

theorem transferAssignments_spare (user : Option (Option UserEmail)) (queue : Option Uuid) :
    ∀ column ∈ (transferAssignments user queue).map Sigma.fst,
      column = RoomColumn.user ∨ column = .queue := by
  intro column member
  cases user <;> cases queue <;> simp_all [transferAssignments]

theorem transferAssignments_user (row : RoomRecord) (user : Option (Option UserEmail))
    (queue : Option Uuid) :
    row.assign (transferAssignments user queue) .user = user.getD (row .user) := by
  cases user <;> cases queue <;> rfl

section Saving

variable {assignments : List RoomAssignment}

theorem save_isActive
    (spared : ∀ column ∈ assignments.map Sigma.fst, column = .user ∨ column = .queue) :
    (history.save assignments).row .isActive = history.row .isActive := by
  rw [RoomHistory.save, store_row, savedRow_spare (by decide)]
  apply Record.assign_of_not_mem
  intro member
  rcases spared _ member with impossible | impossible <;> cases impossible

theorem save_user :
    (history.save assignments).row .user = history.row.assign assignments .user := by
  rw [RoomHistory.save, store_row, savedRow_spare (by decide)]

theorem Owes.save_without_end (owes : Owes owed history) (isActive : history.row .isActive = true)
    (spared : ∀ column ∈ assignments.map Sigma.fst, column = .user ∨ column = .queue)
    (user : history.row.assign assignments .user = none ∨ history.row .user ≠ none) :
    Owes owed (history.save assignments) := by
  have saved := owes.save isActive spared
  have none : history.waitEnded (savedRow history.now assignments history.row) = 0 := by
    rcases user with isNone | attended
    · have unattended : Unattended (savedRow history.now assignments history.row) := by
        have active : (history.save assignments).row .isActive = history.row .isActive :=
          save_isActive spared
        have isUser : (history.save assignments).row .user =
            history.row.assign assignments .user := save_user
        rw [RoomHistory.save, store_row] at active isUser
        exact ⟨active.trans isActive, isUser.trans isNone⟩
      exact waitEnded_of_unattended unattended
    · have notSince : ¬history.unattendedSince.isSome = true :=
        fun isSome => attended (owes.unattended.mp isSome).2
      exact waitEnded_of_attended (Option.not_isSome_iff_eq_none.mp notSince)
  rw [none, add_zero] at saved
  exact saved

theorem Owes.save_assigned (owes : Owes 0 history) (unattended : Unattended history.row)
    (spared : ∀ column ∈ assignments.map Sigma.fst, column = .user ∨ column = .queue)
    (user : history.row.assign assignments .user ≠ none) :
    ∃ since, history.unattendedSince = some since ∧
      (history.save assignments).row .addedToQueueAt = some since ∧
      Owes (wholeSeconds since history.now) (history.save assignments) := by
  rcases Option.isSome_iff_exists.mp (owes.unattended.mpr unattended) with ⟨since, isSince⟩
  have attended : ¬Unattended (savedRow history.now assignments history.row) := by
    intro stillUnattended
    have saved : savedRow history.now assignments history.row .user =
        history.row.assign assignments .user := savedRow_spare (by decide)
    exact user (saved.symm.trans stillUnattended.2)
  have saved := owes.save unattended.1 spared
  rw [waitEnded_of_since isSince attended, zero_add] at saved
  refine ⟨since, isSince, ?_, saved⟩
  have notAdded : RoomColumn.addedToQueueAt ∉ assignments.map Sigma.fst := by
    intro member
    rcases spared _ member with impossible | impossible <;> cases impossible
  rw [RoomHistory.save, store_row, savedRow_addedToQueueAt notAdded,
    if_neg fun loses => loses.1 unattended.2]
  exact owes.since since isSince

end Saving

theorem Owes.addWaitingTime {since delay : Nat} (owes : Owes owed history)
    (added : history.row .addedToQueueAt = some since)
    (measured : wholeSeconds since (history.now + delay) = owed) :
    Owes 0 (history.addWaitingTime delay) := by
  apply Owes.change
  have isOwed : calculateLastQueueWaitingTime (history.wait delay).row (history.wait delay).now =
      owed := by
    rw [calculateLastQueueWaitingTime]
    simp only [RoomHistory.wait, added, measured]
  change Owes (calculateLastQueueWaitingTime (history.wait delay).row
    (history.wait delay).now + 0) _
  rw [isOwed, add_zero]
  exact owes.wait delay

/-- The metrics are measured in the same whole second of the wait in which it ended. -/
def MeasuredAfter (history : RoomHistory) (delay : Nat) : Prop :=
  ∀ since ∈ history.unattendedSince,
    wholeSeconds since (history.now + delay) = wholeSeconds since history.now

instance (history : RoomHistory) (delay : Nat) : Decidable (history.MeasuredAfter delay) :=
  inferInstanceAs (Decidable (∀ since ∈ history.unattendedSince, _))

/-- An event that ends a wait adds its whole seconds once. -/
def MeasuresWait (settings : CloseSettings) (history : RoomHistory) : RoomEvent → Prop
  | .routeRooms _ delay => history.MeasuredAfter delay
  | .pickQueueRoom _ delay => history.MeasuredAfter delay
  | .bulkTake _ delay => history.MeasuredAfter delay
  | .performUpdate (some _) _ delay => history.MeasuredAfter delay
  | .bulkTransfer (some _) _ delay => history.MeasuredAfter delay
  | .partialUpdate _ delay => ∀ since ∈ history.unattendedSince,
      wholeSeconds (history.row .modifiedOn) (history.now + delay) =
        wholeSeconds since history.now
  | .flowUpdate (some (some _)) _ => ∀ since ∈ history.unattendedSince,
      wholeSeconds since history.now = 0
  | .close path _ => ∀ since ∈ history.unattendedSince,
      path.runs settings = 1 ∨ wholeSeconds since history.now = 0
  | _ => True

instance (settings : CloseSettings) (history : RoomHistory) (event : RoomEvent) :
    Decidable (history.MeasuresWait settings event) := by
  unfold MeasuresWait
  split <;> infer_instance

theorem Owes.assignFromQueue (owes : Owes 0 history) (unattended : Unattended history.row)
    (agent : UserEmail) {delay : Nat} (measured : history.MeasuredAfter delay) :
    Owes 0 (history.assignFromQueue agent delay) := by
  rcases owes.save_assigned unattended (transferAssignments_spare (some (some agent)) none)
    nofun with ⟨since, isSince, added, saved⟩
  apply saved.addWaitingTime added
  rw [RoomHistory.save, store_now]
  exact measured since isSince

theorem Owes.transfer (owes : Owes 0 history) : Owes 0 (history.change .transfer) :=
  Owes.change owes

theorem Owes.saveAgain (owes : Owes 0 history) (isActive : history.row .isActive = true) :
    Owes 0 (history.save []) := by
  apply owes.save_without_end isActive (transferAssignments_spare none none)
  by_cases unassigned : history.row .user = none
  · exact .inl unassigned
  · exact .inr unassigned

theorem Owes.updateUser (owes : Owes 0 history) (isActive : history.row .isActive = true)
    (user : Option UserEmail) (queue : Option Uuid) {delay : Nat}
    (measured : user.isSome = true → history.MeasuredAfter delay) :
    Owes 0 (history.updateUser user queue delay) ∧
      (history.updateUser user queue delay).row .isActive = true := by
  have spared := transferAssignments_spare (user.map some) queue
  have isUser := transferAssignments_user history.row (user.map some) queue
  have stillActive : (history.save (transferAssignments (user.map some) queue)).row .isActive =
      true := (save_isActive spared).trans isActive
  cases user with
  | none =>
      have kept : history.row.assign (transferAssignments none queue) .user = none ∨
          history.row .user ≠ none := by
        by_cases unassigned : history.row .user = none
        · exact .inl (isUser.trans unassigned)
        · exact .inr unassigned
      exact ⟨(owes.save_without_end isActive spared kept).wait delay, stillActive⟩
  | some agent =>
      rw [RoomHistory.updateUser]
      split
      · next unassigned =>
          have notNone : history.row.assign (transferAssignments (some (some agent)) queue)
              .user ≠ none := by
            intro isNone
            cases isUser.symm.trans isNone
          rcases owes.save_assigned ⟨isActive, unassigned⟩ spared notNone with
            ⟨since, isSince, added, saved⟩
          refine ⟨saved.addWaitingTime added ?_, stillActive⟩
          rw [RoomHistory.save, store_now]
          exact measured rfl since isSince
      · next assigned =>
          exact ⟨((owes.save_without_end isActive spared (.inr assigned)).wait delay).transfer,
            stillActive⟩

theorem Owes.performUpdate (owes : Owes 0 history) (isActive : history.row .isActive = true)
    (user : Option UserEmail) (queue : Option Uuid) {delay : Nat}
    (measured : user.isSome = true → history.MeasuredAfter delay) :
    Owes 0 (history.performUpdate user queue delay) := by
  rcases owes.updateUser isActive user queue measured with ⟨forUser, stillActive⟩
  cases user with
  | none =>
      cases queue with
      | none => exact forUser
      | some queue =>
          apply forUser.transfer.save_without_end stillActive
          · exact transferAssignments_spare (some none) none
          · exact .inl rfl
  | some agent =>
      cases queue with
      | none => exact forUser.saveAgain stillActive
      | some queue => exact forUser.transfer.saveAgain stillActive

theorem Owes.bulkTransfer (owes : Owes 0 history) (isActive : history.row .isActive = true)
    (user : Option UserEmail) (queue : Option Uuid) {delay : Nat}
    (measured : user.isSome = true → history.MeasuredAfter delay) :
    Owes 0 (history.bulkTransfer user queue delay) := by
  cases user with
  | none =>
      cases queue with
      | none => exact owes
      | some queue =>
          apply owes.save_without_end isActive (transferAssignments_spare (some none) (some queue))
          exact .inl rfl
  | some agent =>
      have spared := transferAssignments_spare (some (some agent)) queue
      have isUser := transferAssignments_user history.row (some (some agent)) queue
      rw [RoomHistory.bulkTransfer]
      split
      · next unassigned =>
          have notNone : history.row.assign (transferAssignments (some (some agent)) queue)
              .user ≠ none := by
            rw [isUser]
            nofun
          rcases owes.save_assigned ⟨isActive, unassigned⟩ spared notNone with
            ⟨since, isSince, added, saved⟩
          apply saved.addWaitingTime added
          rw [RoomHistory.save, store_now]
          exact measured rfl since isSince
      · next assigned => exact owes.save_without_end isActive spared (.inr assigned)

theorem Owes.partialUpdate (owes : Owes 0 history) (unattended : Unattended history.row)
    (agent : UserEmail) {delay : Nat}
    (measured : ∀ since ∈ history.unattendedSince,
      wholeSeconds (history.row .modifiedOn) (history.now + delay) =
        wholeSeconds since history.now) :
    Owes 0 (history.partialUpdate agent delay) := by
  rcases owes.save_assigned unattended (transferAssignments_spare (some (some agent)) none)
    nofun with ⟨since, isSince, _, saved⟩
  apply Owes.change
  have isOwed : wholeSeconds (history.row .modifiedOn)
      ((history.save [⟨.user, some agent⟩]).wait delay).now = wholeSeconds since history.now := by
    rw [← measured since isSince, RoomHistory.wait, RoomHistory.save, store_now]
  change Owes (wholeSeconds (history.row .modifiedOn) _ + 0) _
  rw [isOwed, add_zero]
  exact saved.wait delay

theorem Owes.flowUpdate (owes : Owes 0 history) (isActive : history.row .isActive = true)
    (user : Option (Option UserEmail)) (queue : Option Uuid)
    (short : ∀ agent, user = some (some agent) → ∀ since ∈ history.unattendedSince,
      wholeSeconds since history.now = 0) :
    Owes 0 (history.save (transferAssignments user queue)) := by
  have spared := transferAssignments_spare user queue
  have isUser := transferAssignments_user history.row user queue
  by_cases attended : history.row .user = none
  · cases isNew : user.getD (history.row .user) with
    | none => exact owes.save_without_end isActive spared (.inl (isUser.trans isNew))
    | some agent =>
        have notNone : history.row.assign (transferAssignments user queue) .user ≠ none := by
          rw [isUser, isNew]
          nofun
        rcases owes.save_assigned ⟨isActive, attended⟩ spared notNone with
          ⟨since, isSince, _, saved⟩
        have given : user = some (some agent) := by
          cases user with
          | none => exact absurd isNew (by simp [attended])
          | some given => simpa using isNew
        rw [short agent given since isSince] at saved
        exact saved
  · exact owes.save_without_end isActive spared (.inr attended)

/-- The last wait of a room that is closed is what each run of `generate_metrics` adds. -/
theorem Owes.save_closing (owes : Owes 0 history) (isActive : history.row .isActive = true) :
    Owes (closingWait (history.save (RoomInstance.closing history.now "" none)).row)
      (history.save (RoomInstance.closing history.now "" none)) ∧
    closingWait (history.save (RoomInstance.closing history.now "" none)).row =
      (history.unattendedSince.map fun since => wholeSeconds since history.now).getD 0 := by
  have row : (history.save (RoomInstance.closing history.now "" none)).row =
      savedRow history.now (RoomInstance.closing history.now "" none) history.row := store_row
  have closed : savedRow history.now (RoomInstance.closing history.now "" none) history.row
      .isActive = false := savedRow_spare (by decide)
  have endedAt : savedRow history.now (RoomInstance.closing history.now "" none) history.row
      .endedAt = some history.now := savedRow_spare (by decide)
  have user : savedRow history.now (RoomInstance.closing history.now "" none) history.row
      .user = history.row .user := savedRow_spare (by decide)
  have notUnattended : ¬Unattended
      (savedRow history.now (RoomInstance.closing history.now "" none) history.row) := by
    intro unattended
    cases closed.symm.trans unattended.1
  have stored : Owes (0 + _) (history.save (RoomInstance.closing history.now "" none)) :=
    owes.store (owes.tasks isActive) (fun unattended => absurd unattended notUnattended)
      (fun _ => by rw [endedAt]; rfl)
  have wait : closingWait (history.save (RoomInstance.closing history.now "" none)).row =
      (history.unattendedSince.map fun since => wholeSeconds since history.now).getD 0 := by
    rw [row, closingWait, user, endedAt]
    by_cases unassigned : history.row .user = none
    · rcases Option.isSome_iff_exists.mp (owes.unattended.mpr ⟨isActive, unassigned⟩) with
        ⟨since, isSince⟩
      have added : savedRow history.now (RoomInstance.closing history.now "" none)
          history.row .addedToQueueAt = some since := by
        rw [savedRow_addedToQueueAt (by simp [RoomInstance.closing]),
          if_neg fun loses => loses.1 unassigned]
        exact owes.since since isSince
      rw [if_pos unassigned, isSince, calculateLastQueueWaitingTime, added]
      rfl
    · have notSince : ¬history.unattendedSince.isSome = true :=
        fun isSome => unassigned (owes.unattended.mp isSome).2
      rw [if_neg unassigned, Option.not_isSome_iff_eq_none.mp notSince]
      rfl
  refine ⟨?_, wait⟩
  rw [wait]
  rw [zero_add, waitEnded, if_neg notUnattended] at stored
  exact stored

theorem Owes.generateMetrics (owes : Owes (closingWait history.row) history)
    (closed : history.row .isActive = false) (responseTime : Int) :
    Owes 0 (history.generateMetrics responseTime) := by
  rcases Option.isSome_iff_exists.mp (owes.ended closed) with ⟨endedAt, isEnd⟩
  have added : (history.generateMetricsChange responseTime).waitingTime =
      closingWait history.row := by
    rw [generateMetricsChange, closingWait, isEnd]
    rfl
  apply Owes.change
  rw [added, add_zero]
  exact owes

theorem Owes.schedule (owes : Owes owed history) (closed : history.row .isActive = false)
    (tasks : Nat) :
    Owes (owed - tasks * closingWait history.row)
      { history with closeMetricsTasks := history.closeMetricsTasks + tasks } where
  since := owes.since
  unattended := owes.unattended
  tasks := fun isActive => by cases closed.symm.trans isActive
  ended := owes.ended
  balance := by
    have before := owes.balance
    change history.metrics.waitingTime +
      ((history.closeMetricsTasks + tasks : Nat) : Int) * closingWait history.row +
        (owed - tasks * closingWait history.row) = history.total
    rw [← before]
    push_cast
    ring

theorem ClosePath.inline_cases (settings : CloseSettings) (path : ClosePath) :
    path.inline settings = 0 ∨ path.inline settings = 1 := by
  cases path with
  | request =>
      rw [ClosePath.inline]
      split
      · exact .inr rfl
      · exact .inl rfl
  | bulk => exact .inr rfl
  | flowStart => exact .inr rfl
  | inactivity => exact .inl rfl

theorem Owes.close (owes : Owes 0 history) (isActive : history.row .isActive = true)
    (settings : CloseSettings) (path : ClosePath) (responseTime : Int)
    (once : ∀ since ∈ history.unattendedSince,
      path.runs settings = 1 ∨ wholeSeconds since history.now = 0) :
    Owes 0 (history.close settings path responseTime) := by
  rcases owes.save_closing isActive with ⟨saved, wait⟩
  have closed : (history.save (RoomInstance.closing history.now "" none)).row .isActive =
      false := by
    rw [RoomHistory.save, store_row]
    exact savedRow_spare (by decide)
  rw [RoomHistory.close]
  generalize history.save (RoomInstance.closing history.now "" none) = stored at *
  have runsOnce : (path.runs settings : Int) * closingWait stored.row =
      closingWait stored.row := by
    rw [wait]
    cases isSince : history.unattendedSince with
    | none => exact mul_zero _
    | some since =>
        rcases once since isSince with one | none
        · rw [one]
          exact one_mul _
        · simp [none]
  rw [ClosePath.runs, Int.natCast_add, add_mul] at runsOnce
  have scheduled := saved.schedule closed (path.scheduled settings)
  rcases ClosePath.inline_cases settings path with none | one
  · rw [none, Int.ofNat_zero, zero_mul, zero_add] at runsOnce
    rw [runsOnce, sub_self] at scheduled
    rw [if_pos none]
    exact scheduled
  · have nonePending : (path.scheduled settings : Int) * closingWait stored.row = 0 := by
      rw [one, Int.natCast_one, one_mul] at runsOnce
      exact add_eq_left.mp runsOnce
    rw [nonePending, sub_zero] at scheduled
    rw [if_neg (by rw [one]; exact one_ne_zero)]
    apply Owes.generateMetrics
    · exact scheduled
    · exact closed

theorem Owes.closeMetrics (owes : Owes 0 history) {tasks : Nat}
    (isScheduled : history.closeMetricsTasks = tasks + 1) (responseTime : Int) :
    Owes 0 ({ history with closeMetricsTasks := tasks }.generateMetrics responseTime) := by
  have closed : history.row .isActive = false := by
    by_contra isActive
    have noTasks := owes.tasks (by simpa using isActive)
    rw [noTasks] at isScheduled
    cases isScheduled
  apply Owes.generateMetrics
  · refine ⟨owes.since, owes.unattended, ?_, owes.ended, ?_⟩
    · intro isActive
      cases closed.symm.trans isActive
    · have before := owes.balance
      rw [isScheduled] at before
      change history.metrics.waitingTime + tasks * closingWait history.row +
        closingWait history.row = history.total
      rw [← before]
      push_cast
      ring
  · exact closed

theorem Owes.step {settings : CloseSettings} {event : RoomEvent} {next : RoomHistory}
    (owes : Owes 0 history) (measures : history.MeasuresWait settings event)
    (stepped : history.step settings event = some next) : Owes 0 next := by
  cases event with
  | tick elapsed =>
      cases stepped
      exact owes.wait elapsed
  | routeRooms agent delay =>
      rcases Option.ite_none_right_eq_some.mp stepped with ⟨unattended, isNext⟩
      cases isNext
      exact owes.assignFromQueue unattended agent measures
  | pickQueueRoom agent delay =>
      rcases Option.ite_none_right_eq_some.mp stepped with ⟨unattended, isNext⟩
      cases isNext
      exact owes.assignFromQueue unattended agent measures
  | bulkTake agent delay =>
      rcases Option.ite_none_right_eq_some.mp stepped with ⟨unattended, isNext⟩
      cases isNext
      exact owes.assignFromQueue unattended agent measures
  | performUpdate user queue delay =>
      rcases Option.ite_none_right_eq_some.mp stepped with ⟨isActive, isNext⟩
      cases isNext
      apply owes.performUpdate isActive
      intro isSome
      cases user with
      | none => cases isSome
      | some user => exact measures
  | bulkTransfer user queue delay =>
      rcases Option.ite_none_right_eq_some.mp stepped with ⟨isActive, isNext⟩
      cases isNext
      apply owes.bulkTransfer isActive
      intro isSome
      cases user with
      | none => cases isSome
      | some user => exact measures
  | partialUpdate agent delay =>
      rcases Option.ite_none_right_eq_some.mp stepped with ⟨unattended, isNext⟩
      cases isNext
      exact owes.partialUpdate unattended agent measures
  | flowUpdate user queue =>
      rcases Option.ite_none_right_eq_some.mp stepped with ⟨isActive, isNext⟩
      cases isNext
      apply owes.flowUpdate isActive
      intro agent given
      subst given
      exact measures
  | close path responseTime =>
      rcases Option.ite_none_right_eq_some.mp stepped with ⟨⟨isActive, _⟩, isNext⟩
      cases isNext
      exact owes.close isActive settings path responseTime measures
  | closeMetrics responseTime =>
      rw [RoomHistory.step] at stepped
      split at stepped
      · cases stepped
      · next tasks isScheduled =>
          cases stepped
          exact owes.closeMetrics isScheduled responseTime

theorem created_owes (now : Instant) (user : Option UserEmail) (queue : Option Uuid) :
    Owes 0 (created now user queue) := by
  have isActive : createdRow now user queue .isActive = true :=
    RoomInstance.saveAssignments_spare (by decide) now none _
  have isUser : createdRow now user queue .user = user :=
    RoomInstance.saveAssignments_spare (by decide) now none _
  have added : createdRow now user queue .addedToQueueAt = some now := by
    rw [createdRow, RoomInstance.saveAssignments_addedToQueueAt]
    simp [RoomInstance.create]
  refine ⟨?_, ?_, fun _ => rfl, ?_, by simp [created, total]⟩
  · intro since isSince
    rw [created] at isSince
    dsimp only at isSince
    split at isSince
    · cases isSince
      exact added
    · cases isSince
  · rw [created]
    dsimp only
    rw [Unattended, isActive, isUser]
    split
    · next unassigned => exact ⟨fun _ => ⟨rfl, unassigned⟩, fun _ => rfl⟩
    · next assigned =>
        exact ⟨fun impossible => (by cases impossible), fun both => absurd both.2 assigned⟩
  · intro closed
    cases isActive.symm.trans closed

end RoomHistory

/-- In every run in which each event that ends a wait adds its whole seconds once, the
waiting time of a room whose metric tasks have run is the sum of its waits. -/
theorem waiting_time_sums_waits (settings : CloseSettings) (now : Instant)
    (user : Option UserEmail) (queue : Option Uuid) {final : RoomHistory}
    (reaches : (waitingMachine settings).Reaches (RoomHistory.MeasuresWait settings)
      (.created now user queue) final)
    (allRun : final.closeMetricsTasks = 0) :
    final.metrics.waitingTime =
      (final.intervals.map fun interval => wholeSeconds interval.1 interval.2).sum := by
  have owes := reaches.invariant (RoomHistory.created_owes now user queue)
    fun _ _ _ owes measures stepped => owes.step measures stepped
  have balance := owes.balance
  rw [allRun, Int.ofNat_zero, zero_mul, add_zero, add_zero] at balance
  exact balance

/-! ## A room that is closed while it waits -/

def closedInQueue : List RoomEvent :=
  [.tick 30000000, .close .request 0, .closeMetrics 0]

theorem close_counts_last_wait_twice :
    ¬ ∀ (settings : CloseSettings) (now : Instant) (user : Option UserEmail)
      (queue : Option Uuid) (final : RoomHistory),
      (waitingMachine settings).Reaches Machine.anyStep (.created now user queue) final →
      final.row .isActive = false → final.closeMetricsTasks = 0 →
      final.metrics.waitingTime =
        (final.intervals.map fun interval => wholeSeconds interval.1 interval.2).sum := by
  intro sums
  have ends : ((waitingMachine ⟨true, true⟩).run (.created 0 none (some 1)) closedInQueue).map
      (fun final => (final.row .isActive, final.closeMetricsTasks, final.metrics.waitingTime,
        final.intervals)) = some (false, 0, 60, [(0, 30000000)]) := by
    decide
  rcases Option.map_eq_some_iff.mp ends with ⟨final, ran, observed⟩
  simp only [Prod.mk.injEq] at observed
  rcases observed with ⟨closed, allRun, waitingTime, intervals⟩
  have sum := sums ⟨true, true⟩ 0 none (some 1) final (.of_run ran) closed allRun
  rw [waitingTime, intervals] at sum
  exact absurd sum (by decide)

/-- The room is routed after 40 seconds, goes back to a queue, and is closed by a bulk close
after another 25 seconds. -/
def routedAndClosed : List RoomEvent :=
  [.tick 40000000, .routeRooms "agent@example.com" 200000, .tick 5000000,
    .performUpdate none (some 2) 100000, .tick 25000000, .close .bulk 0]

theorem waiting_time_sums_waits_of_routed_room :
    ∃ final, (waitingMachine ⟨false, true⟩).runMeeting
        (RoomHistory.MeasuresWait ⟨false, true⟩) (.created 0 none (some 1)) routedAndClosed =
          some final ∧
      final.metrics.waitingTime = 65 ∧
      final.metrics.waitingTime =
        (final.intervals.map fun interval => wholeSeconds interval.1 interval.2).sum := by
  have ends : ((waitingMachine ⟨false, true⟩).runMeeting
      (RoomHistory.MeasuresWait ⟨false, true⟩) (.created 0 none (some 1)) routedAndClosed).map
      (fun final => (final.closeMetricsTasks, final.metrics.waitingTime)) = some (0, 65) := by
    decide
  rcases Option.map_eq_some_iff.mp ends with ⟨final, ran, observed⟩
  rcases Prod.mk.inj observed with ⟨allRun, waitingTime⟩
  exact ⟨final, ran, waitingTime,
    waiting_time_sums_waits ⟨false, true⟩ 0 none (some 1) (.of_runMeeting ran) allRun⟩

end ChatsEngine.Dashboard
