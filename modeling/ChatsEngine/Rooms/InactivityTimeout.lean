import ChatsEngine.Foundation.Sparing
import ChatsEngine.Rooms.Inactivity

/-! # The closing timeout after the warning

The deadline of a closing counts from the last turn of the conversation, the
warning is issued whenever a sweep gets to it. A late warning is caught up with
by the deadline, and the room can be closed in the sweep that has warned it. The
contact has the whole timeout where the sweeps keep a schedule: the first sweep that
goes over all rooms once a room is due warns it, and a sweep that finds the room due
for closing comes a closing timeout after the warnings of such a sweep. -/

namespace ChatsEngine.Rooms

namespace InactivityTable

variable {table before middle after : InactivityTable} {pk : Uuid}

/-- The clock goes on, and a room that was warned stays warned. -/
structure Later (before after : InactivityTable) : Prop where
  now : before.now ≤ after.now
  warned : ∀ pk, (before.lastWarning pk).isSome → (after.lastWarning pk).isSome

theorem Later.of_eq (now : after.now = before.now)
    (lastWarning : after.lastWarning = before.lastWarning) : Later before after where
  now := now.ge
  warned := fun _ => by
    rw [lastWarning]
    exact id

theorem Later.trans (first : Later before middle) (second : Later middle after) :
    Later before after where
  now := first.now.trans second.now
  warned := fun pk warned => second.warned pk (first.warned pk warned)

def FlaggedAreWarned (table : InactivityTable) : Prop :=
  ∀ pk columns, table.rooms.lookup pk = some columns → columns .isInactive = true →
    (table.lastWarning pk).isSome

theorem later_update (table : InactivityTable) (pk : Uuid) (update : QuerysetUpdate) :
    Later table (table.update pk update) :=
  .of_eq rfl rfl

theorem later_store (table : InactivityTable) (pk : Uuid) (room : RoomInstance) :
    Later table (table.store pk room) :=
  .of_eq rfl rfl

theorem later_warned (table : InactivityTable) (room : SelectedRoom) :
    Later table (table.warned room) where
  now := le_refl _
  warned := by
    intro other isSome
    by_cases same : other = room.pk
    · simp [InactivityTable.warned, same]
    · simpa [InactivityTable.warned, same] using isSome

theorem warned_self (table : InactivityTable) (room : SelectedRoom) :
    ((table.warned room).lastWarning room.pk).isSome := by
  simp [InactivityTable.warned]

theorem FlaggedAreWarned.later {after : InactivityTable} (holds : table.FlaggedAreWarned)
    (later : Later table after) (rooms : after.rooms = table.rooms) :
    after.FlaggedAreWarned := by
  intro pk columns stored flagged
  rw [rooms] at stored
  exact later.warned pk (holds pk columns stored flagged)

theorem FlaggedAreWarned.insert (holds : table.FlaggedAreWarned) {columns : RoomRecord}
    (flags : columns .isInactive = true → (table.lastWarning pk).isSome) :
    ({ table with rooms := table.rooms.insert pk columns } : InactivityTable).FlaggedAreWarned := by
  intro other found stored flagged
  rcases Table.lookup_insert_iff.mp stored with ⟨rfl, rfl⟩ | ⟨_, before⟩
  · exact flags flagged
  · exact holds other found before flagged

theorem FlaggedAreWarned.mapRoom (holds : table.FlaggedAreWarned)
    {change : RoomRecord → RoomRecord}
    (flags : ∀ columns, change columns .isInactive = true →
      columns .isInactive = true ∨ (table.lastWarning pk).isSome) :
    (table.mapRoom pk change).FlaggedAreWarned := by
  rw [InactivityTable.mapRoom, Table.modify]
  split
  · exact holds
  · next columns stored =>
      apply holds.insert
      intro flagged
      rcases flags columns flagged with before | warned
      · exact holds pk columns stored before
      · exact warned

/-- The warnings have been issued, each one by the end of the first pass that has gone over
all rooms since its room was due for it. -/
structure WarnedByFirstPass (table : InactivityTable) : Prop where
  issued : ∀ pk, ∀ warning ∈ table.lastWarning pk, warning.issuedAt ≤ table.now
  byFirst : ∀ pk, ∀ warning ∈ table.lastWarning pk, ∀ pass ∈ table.warningsPasses,
    warning.dueAt ≤ pass.startedAt → warning.issuedAt ≤ pass.endedAt

theorem WarnedByFirstPass.later (holds : table.WarnedByFirstPass) (now : table.now ≤ after.now)
    (lastWarning : after.lastWarning = table.lastWarning)
    (passes : after.warningsPasses = table.warningsPasses) : after.WarnedByFirstPass where
  issued := by
    intro pk warning isWarning
    rw [lastWarning] at isWarning
    exact (holds.issued pk warning isWarning).trans now
  byFirst := by
    intro pk warning isWarning pass ended
    rw [lastWarning] at isWarning
    rw [passes] at ended
    exact holds.byFirst pk warning isWarning pass ended

theorem mem_lastWarning_warned {room : SelectedRoom} {warning : Warning}
    (isWarning : warning ∈ (table.warned room).lastWarning pk) :
    warning = { issuedAt := table.now, dueAt := room.warningDueAt } ∨
      warning ∈ table.lastWarning pk := by
  by_cases same : pk = room.pk
  · subst same
    simp only [InactivityTable.warned, Function.update_self, Option.mem_def,
      Option.some.injEq] at isWarning
    exact .inl isWarning.symm
  · simp only [InactivityTable.warned, Function.update_of_ne same] at isWarning
    exact .inr isWarning

theorem WarnedByFirstPass.warned (holds : table.WarnedByFirstPass) {room : SelectedRoom}
    (first : ∀ pass ∈ table.warningsPasses, (pass.startedAt : Int) < room.warningDueAt) :
    (table.warned room).WarnedByFirstPass where
  issued := by
    intro pk warning isWarning
    rcases mem_lastWarning_warned isWarning with rfl | before
    · exact le_refl _
    · exact holds.issued pk warning before
  byFirst := by
    intro pk warning isWarning pass ended onceDue
    rcases mem_lastWarning_warned isWarning with rfl | before
    · exact absurd onceDue (not_le.mpr (first pass ended))
    · exact holds.byFirst pk warning before pass ended onceDue

theorem WarnedByFirstPass.recordPass (holds : table.WarnedByFirstPass) (pass : Pass) :
    (InactivityProgress.recordPass table pass).WarnedByFirstPass := by
  rw [InactivityProgress.recordPass]
  split
  · refine ⟨holds.issued, ?_⟩
    intro pk warning isWarning other ended onceDue
    rcases List.mem_cons.mp ended with rfl | before
    · exact holds.issued pk warning isWarning
    · exact holds.byFirst pk warning isWarning other before onceDue
  · exact holds

theorem not_flags_update {columns : RoomRecord} {now : Nat} {update : QuerysetUpdate}
    (spares : update ≠ .warnRoom)
    (flagged : (if update.Selects columns then columns.assign (update.assignments columns now)
      else columns) .isInactive = true) :
    columns .isInactive = true := by
  split at flagged
  · cases update with
    | warnRoom => exact absurd rfl spares
    | resetInactivity => cases flagged
    | incrementUnreadMessagesCount count last => exact flagged
    | clearUnreadMessagesCount => exact flagged
    | updateLastMessage message user updateLastInteraction =>
        cases updateLastInteraction <;> exact flagged
    | onNewMessage message contact incrementUnread =>
        rw [QuerysetUpdate.assignments] at flagged
        split at flagged <;> exact flagged
  · exact flagged

theorem FlaggedAreWarned.update (holds : table.FlaggedAreWarned) {update : QuerysetUpdate}
    (spares : update ≠ .warnRoom) : (table.update pk update).FlaggedAreWarned :=
  holds.mapRoom fun _ flagged => .inl (not_flags_update spares flagged)

theorem FlaggedAreWarned.store (holds : table.FlaggedAreWarned) {room : RoomInstance}
    (warned : room.values .isInactive = true → (table.lastWarning pk).isSome) :
    (table.store pk room).FlaggedAreWarned := by
  apply holds.mapRoom
  intro columns flagged
  rw [RoomInstance.saveAssignments_spare (by decide)] at flagged
  exact .inr (warned flagged)

theorem mem_select {Eligible : InactivityConfig → RoomRecord → Prop}
    [∀ config, DecidablePred (Eligible config)] {room : SelectedRoom}
    (member : room ∈ table.select Eligible) :
    Eligible room.config room.columns ∧ table.rooms.lookup room.pk = some room.columns ∧
      table.configOf room.columns = some room.config := by
  rcases List.mem_filterMap.mp member with ⟨stored, listed, selected⟩
  split at selected
  · cases selected
  · next config isConfig =>
      split at selected
      · next eligible =>
          cases selected
          exact ⟨eligible, Table.mem_entries_iff.mp listed, isConfig⟩
      · cases selected

end InactivityTable

namespace InactivityProgress

open InactivityTable

def WarnedInTime (table : InactivityTable) (now : Nat) (room : SelectedRoom) : Prop :=
  ∃ warning ∈ table.lastWarning room.pk, room.config.CloseDue now room.columns →
    room.config.closeTimeout ≤ (now : Int) - warning.issuedAt

/-- All rooms that a closing pass visits have been warned. -/
structure WarnedPass (table : InactivityTable) (pass : Pass) : Prop where
  now : pass.now ≤ table.now
  rooms : ∀ room ∈ pass.rooms, WarnedInTime table pass.now room

structure Taken (table : InactivityTable) (pass : Pass) (room : SelectedRoom) : Prop where
  due : room.config.CloseDue pass.now room.columns
  warned : WarnedInTime table pass.now room
  others : WarnedPass table pass

/-- Storing the instance flags the room only if the room has been warned. -/
def MayStore (table : InactivityTable) (pk : Uuid) (room : RoomInstance) : Prop :=
  room.values .isInactive = true → (table.lastWarning pk).isSome

def Assertion (table : InactivityTable) : InactivityProgress → Prop
  | .flagging _ room =>
      room.config.messageTimeoutText.getD "" ≠ "" → (table.lastWarning room.pk).isSome
  | .closing pass => WarnedPass table pass
  | .sendingClosure pass room => Taken table pass room
  | .refreshing pass room => Taken table pass room
  | .guarding pass room held => Taken table pass room ∧ MayStore table room.pk held
  | .storing pass room held => Taken table pass room ∧ MayStore table room.pk held
  | .assigned pk room => MayStore table pk room
  | .saving pk room => MayStore table pk room
  | _ => True

/-- The rooms that a closing pass has selected and is not done with. -/
def closingRooms : InactivityProgress → List SelectedRoom
  | .closing pass => pass.rooms
  | .sendingClosure pass room => room :: pass.rooms
  | .refreshing pass room => room :: pass.rooms
  | .guarding pass room _ => room :: pass.rooms
  | .storing pass room _ => room :: pass.rooms
  | _ => []

/-- No room that a closing pass has selected is warned once more. -/
def SparesClosing (before after : InactivityTable) (progress : InactivityProgress) : Prop :=
  ∀ room ∈ progress.closingRooms, after.lastWarning room.pk = before.lastWarning room.pk

instance (before after : InactivityTable) (progress : InactivityProgress) :
    Decidable (progress.SparesClosing before after) :=
  inferInstanceAs (Decidable (∀ room ∈ progress.closingRooms, _))

/-- The room whose warning is issued by the statement: with the message, or with the flag where
there is no text. -/
def issuesWarning : InactivityProgress → Outcome → Option SelectedRoom
  | .sendingWarning _ room, .done _ =>
      if room.config.messageTimeoutText.getD "" = "" then none else some room
  | .flagging _ room, .done _ =>
      if room.config.messageTimeoutText.getD "" = "" then some room else none
  | _, _ => none

/-- No pass that has started once the room was due has gone over all rooms before the room is
warned. -/
def WarnsFirst (table : InactivityTable) (progress : InactivityProgress) (outcome : Outcome) :
    Prop :=
  ∀ room ∈ progress.issuesWarning outcome, ∀ pass ∈ table.warningsPasses,
    (pass.startedAt : Int) < room.warningDueAt

instance (table : InactivityTable) (progress : InactivityProgress) (outcome : Outcome) :
    Decidable (progress.WarnsFirst table outcome) :=
  inferInstanceAs (Decidable (∀ room ∈ progress.issuesWarning outcome, _))

/-- A closing pass starts: for each room that is due, a warnings pass that had started once the
room was due for its warning has ended a closing timeout ago. The room is not due for its warning
earlier than it was when it was warned. -/
def StartsInTime (table : InactivityTable) : InactivityProgress → Outcome → Prop
  | .beforeClosures _, .done _ =>
      ∀ room ∈ table.select InactivityConfig.EligibleForClosing,
        room.config.CloseDue table.now room.columns →
          (∃ pass ∈ table.warningsPasses, room.warningDueAt ≤ pass.startedAt ∧
            pass.endedAt + room.config.closeTimeout ≤ table.now) ∧
          ∀ warning ∈ table.lastWarning room.pk, warning.dueAt ≤ room.warningDueAt
  | _, _ => True

instance (table : InactivityTable) (progress : InactivityProgress) (outcome : Outcome) :
    Decidable (progress.StartsInTime table outcome) := by
  unfold StartsInTime
  split <;> infer_instance

@[reducible] def OnSchedule (table : InactivityTable) (progress : InactivityProgress)
    (outcome : Outcome) : Prop :=
  progress.WarnsFirst table outcome ∧ progress.StartsInTime table outcome

section Stable

variable {before after : InactivityTable} {pass : Pass} {room : SelectedRoom} {now : Nat}

theorem WarnedInTime.of_eq (same : after.lastWarning room.pk = before.lastWarning room.pk)
    (warned : WarnedInTime before now room) : WarnedInTime after now room := by
  rw [WarnedInTime, same]
  exact warned

theorem WarnedPass.later (later : Later before after)
    (same : ∀ room ∈ pass.rooms, after.lastWarning room.pk = before.lastWarning room.pk)
    (warned : WarnedPass before pass) : WarnedPass after pass where
  now := warned.now.trans later.now
  rooms := fun room member => (warned.rooms room member).of_eq (same room member)

theorem Taken.later (later : Later before after)
    (same : ∀ other ∈ room :: pass.rooms,
      after.lastWarning other.pk = before.lastWarning other.pk)
    (taken : Taken before pass room) : Taken after pass room where
  due := taken.due
  warned := taken.warned.of_eq (same room List.mem_cons_self)
  others := taken.others.later later fun other member =>
    same other (List.mem_cons_of_mem room member)

theorem MayStore.later (later : Later before after) {pk : Uuid} {held : RoomInstance}
    (may : MayStore before pk held) : MayStore after pk held :=
  fun flagged => later.warned pk (may flagged)

theorem Assertion.later (later : Later before after) {progress : InactivityProgress}
    (spares : progress.SparesClosing before after) (assertion : progress.Assertion before) :
    progress.Assertion after := by
  cases progress with
  | flagging pass room => exact fun text => later.warned room.pk (assertion text)
  | closing pass => exact WarnedPass.later later spares assertion
  | sendingClosure pass room => exact Taken.later later spares assertion
  | refreshing pass room => exact Taken.later later spares assertion
  | guarding pass room held =>
      exact ⟨assertion.1.later later spares, assertion.2.later later⟩
  | storing pass room held =>
      exact ⟨assertion.1.later later spares, assertion.2.later later⟩
  | assigned pk room => exact MayStore.later later assertion
  | saving pk room => exact MayStore.later later assertion
  | _ => trivial

end Stable

theorem warnRound_assertion (table : InactivityTable) (pass : Pass) :
    (warnRound pass).Assertion table := by
  rw [warnRound]
  split
  · trivial
  · split
    · trivial
    · split <;> trivial

theorem closeRound_assertion {table : InactivityTable} {pass : Pass}
    (warned : WarnedPass table pass) : (closeRound pass).Assertion table := by
  rw [closeRound]
  split
  · trivial
  · next room rooms listed =>
      have rest : WarnedPass table { pass with rooms := rooms } :=
        ⟨warned.now, fun other member => warned.rooms other (by simp [listed, member])⟩
      split
      · trivial
      · split
        · next due => exact ⟨due, warned.rooms room (by simp [listed]), rest⟩
        · exact rest

structure Leaves (table : InactivityTable) (effect : Effect) : Prop where
  flagged : effect.1.FlaggedAreWarned
  later : Later table effect.1
  remains : ∀ remaining ∈ effect.2, remaining.Assertion effect.1

section Statements

variable {table after : InactivityTable} {rest : Option InactivityProgress}
  {pass : Pass} {room : SelectedRoom} {held : RoomInstance}

theorem Leaves.reads (flagged : table.FlaggedAreWarned)
    (remains : ∀ remaining ∈ rest, remaining.Assertion table) :
    Leaves table (table, rest) :=
  ⟨flagged, .of_eq rfl rfl, remains⟩

theorem Leaves.goesOn {progress : InactivityProgress} (flagged : after.FlaggedAreWarned)
    (later : Later table after) (assertion : progress.Assertion after) :
    Leaves table (after, some progress) where
  flagged := flagged
  later := later
  remains := by
    intro remaining isRemaining
    cases isRemaining
    exact assertion

theorem Leaves.ends (flagged : after.FlaggedAreWarned) (later : Later table after) :
    Leaves table (after, none) :=
  ⟨flagged, later, fun _ impossible => by cases impossible⟩

theorem Leaves.update (flagged : table.FlaggedAreWarned) {pk : Uuid} {update : QuerysetUpdate}
    (spares : update ≠ .warnRoom)
    (remains : ∀ remaining ∈ rest, remaining.Assertion table) :
    Leaves table (table.update pk update, rest) where
  flagged := flagged.update spares
  later := later_update table pk update
  remains := fun remaining isRemaining =>
    (remains remaining isRemaining).later (later_update table pk update) fun _ _ => rfl

theorem acquire_leaves (flagged : table.FlaggedAreWarned) (settings : SweepSettings) :
    Leaves table (acquire table settings) := by
  rw [acquire]
  split
  · exact .ends flagged (.of_eq rfl rfl)
  · have later : Later table { table with
        lock := some { token := settings.token
                       expiresAt := table.now + settings.lockTimeout } } := .of_eq rfl rfl
    exact .goesOn (flagged.later later rfl) later trivial

theorem sendWarning_leaves (flagged : table.FlaggedAreWarned) (outcome : Outcome) :
    Leaves table (sendWarning table pass room outcome) := by
  by_cases empty : room.config.messageTimeoutText.getD "" = ""
  · rw [sendWarning.eq_def, if_pos empty]
    exact .goesOn flagged (.of_eq rfl rfl) fun text => absurd empty text
  · rw [sendWarning.eq_def, if_neg empty]
    cases outcome with
    | failed => exact .goesOn flagged (.of_eq rfl rfl) trivial
    | done uuid =>
        have sent : (table.sendSilently room uuid
            (room.config.messageTimeoutText.getD "")).FlaggedAreWarned := flagged.update nofun
        have later := later_warned
          (table.sendSilently room uuid (room.config.messageTimeoutText.getD "")) room
        exact .goesOn (sent.later later rfl) ((later_update table room.pk _).trans later)
          fun _ => warned_self _ _

theorem flag_leaves (flagged : table.FlaggedAreWarned)
    (warned : room.config.messageTimeoutText.getD "" ≠ "" → (table.lastWarning room.pk).isSome) :
    Leaves table (flag table pass room) := by
  rw [flag]
  split
  · have later := later_warned (table.update room.pk .warnRoom) room
    have flags : ((table.warned room).update room.pk .warnRoom).FlaggedAreWarned :=
      (flagged.later (later_warned table room) rfl).mapRoom
        fun _ _ => .inr (warned_self table room)
    exact .goesOn flags ((later_update table room.pk _).trans later) trivial
  · next text =>
      have flags : (table.update room.pk .warnRoom).FlaggedAreWarned :=
        flagged.mapRoom fun _ _ => .inr (warned text)
      exact .goesOn flags (later_update table room.pk _) trivial

theorem sendClosure_leaves (flagged : table.FlaggedAreWarned) (taken : Taken table pass room)
    (outcome : Outcome) : Leaves table (sendClosure table pass room outcome) := by
  cases outcome with
  | failed => exact .goesOn flagged (.of_eq rfl rfl) taken
  | done uuid =>
      rw [sendClosure]
      split
      · exact .goesOn flagged (.of_eq rfl rfl) taken
      · have later := later_update table room.pk (.updateLastMessage
          { uuid := uuid, text := some (room.config.closeRoomMessageText.getD ""), medias := []
            createdOn := table.now } (room.columns .user) false)
        exact .goesOn (flagged.update nofun) later (taken.later later fun _ _ => rfl)

theorem mayStore_assign (flagged : table.FlaggedAreWarned) {columns : RoomRecord} {pk : Uuid}
    (found : table.rooms.lookup pk = some columns) {assignments : List RoomAssignment}
    (spared : RoomColumn.isInactive ∉ assignments.map Sigma.fst) :
    MayStore table pk ((RoomInstance.load columns).assign assignments) := by
  intro isInactive
  have unassigned : ((RoomInstance.load columns).assign assignments).values .isInactive =
      columns .isInactive := Record.assign_of_not_mem spared
  exact flagged pk columns found (unassigned ▸ isInactive)

theorem refresh_leaves (flagged : table.FlaggedAreWarned) (taken : Taken table pass room) :
    Leaves table (refresh table pass room) := by
  rw [refresh]
  split
  · exact .goesOn flagged (.of_eq rfl rfl) trivial
  · next columns found =>
      exact .goesOn flagged (.of_eq rfl rfl)
        ⟨taken, mayStore_assign flagged found (by simp [RoomInstance.closing])⟩

theorem storeClosing_leaves (flagged : table.FlaggedAreWarned) (taken : Taken table pass room)
    (mayStore : MayStore table room.pk held) (outcome : Outcome) :
    Leaves table (storeClosing table pass room held outcome) := by
  cases outcome with
  | failed => exact .goesOn flagged (.of_eq rfl rfl) taken.others
  | done uuid =>
      have stored := flagged.store mayStore
      have later : Later table (storeClosing table pass room held (.done uuid)).1 :=
        .of_eq rfl rfl
      have others := taken.others.later later fun _ _ => rfl
      exact .goesOn (stored.later (.of_eq rfl rfl) rfl) later ⟨others.now, others.rooms⟩

theorem load_leaves (flagged : table.FlaggedAreWarned) {pk : Uuid}
    {goOn : RoomRecord → InactivityProgress}
    (assertion : ∀ columns, table.rooms.lookup pk = some columns →
      (goOn columns).Assertion table) :
    Leaves table (load table pk goOn) := by
  apply Leaves.reads flagged
  intro remaining isRemaining
  rcases Option.map_eq_some_iff.mp isRemaining with ⟨columns, found, rfl⟩
  exact assertion columns found

theorem release_leaves (flagged : table.FlaggedAreWarned) (token : Uuid) :
    Leaves table (table.release token, none) := by
  rw [InactivityTable.release]
  split
  · have later : Later table { table with lock := none } := .of_eq rfl rfl
    exact .ends (flagged.later later rfl) later
  · exact .ends flagged (.of_eq rfl rfl)

theorem select_warned (flagged : table.FlaggedAreWarned) (warned : table.WarnedByFirstPass)
    {settings : SweepSettings} {uuid : Uuid}
    (starts : StartsInTime table (.beforeClosures settings) (.done uuid)) :
    ∀ room ∈ table.select InactivityConfig.EligibleForClosing,
      WarnedInTime table table.now room := by
  intro room member
  rcases mem_select member with ⟨eligible, stored, _⟩
  have isSome := flagged room.pk room.columns stored eligible.2.1
  rcases Option.isSome_iff_exists.mp isSome with ⟨warning, isWarning⟩
  refine ⟨warning, isWarning, ?_⟩
  intro due
  rcases starts room member due with ⟨⟨pass, ended, onceDue, closeTimeoutAgo⟩, notEarlier⟩
  have startedOnceDue : warning.dueAt ≤ pass.startedAt :=
    (notEarlier warning isWarning).trans onceDue
  have issued := warned.byFirst room.pk warning isWarning pass ended startedOnceDue
  omega

theorem advance_warnedByFirstPass {progress : InactivityProgress}
    (warned : table.WarnedByFirstPass) {outcome : Outcome}
    (first : progress.WarnsFirst table outcome) :
    (progress.advance table outcome).1.WarnedByFirstPass := by
  cases progress with
  | acquiring settings =>
      rw [advance, acquire]
      split
      · exact warned
      · exact warned.later (le_refl _) rfl rfl
  | warning pass =>
      cases outcome with
      | done uuid => exact warned.recordPass pass
      | failed => exact warned
  | sendingWarning pass room =>
      rw [advance, sendWarning.eq_def]
      dsimp only
      split
      · exact warned
      · next text =>
          cases outcome with
          | failed => exact warned
          | done uuid =>
              rw [WarnsFirst, issuesWarning, if_neg text] at first
              have sent : (table.sendSilently room uuid
                  (room.config.messageTimeoutText.getD "")).WarnedByFirstPass :=
                warned.later (le_refl _) rfl rfl
              exact sent.warned (first room rfl)
  | flagging pass room =>
      cases outcome with
      | failed => exact warned
      | done uuid =>
          have flagged : (table.update room.pk .warnRoom).WarnedByFirstPass :=
            warned.later (le_refl _) rfl rfl
          rw [advance, flag]
          dsimp only
          split
          · next noText =>
              rw [WarnsFirst, issuesWarning, if_pos noText] at first
              exact flagged.warned (first room rfl)
          · exact flagged
  | sendingClosure pass room =>
      cases outcome with
      | failed => exact warned
      | done uuid =>
          rw [advance, sendClosure]
          dsimp only
          split
          · exact warned
          · exact warned.later (le_refl _) rfl rfl
  | refreshing pass room =>
      rw [advance, refresh]
      split <;> exact warned
  | releasing settings =>
      rw [advance, InactivityTable.release]
      split
      · exact warned.later (le_refl _) rfl rfl
      · exact warned
  | beforeWarnings settings | beforeClosures settings | closing settings =>
      cases outcome <;> exact warned
  | storing pass room held =>
      cases outcome with
      | done uuid => exact warned.later (le_refl _) rfl rfl
      | failed => exact warned
  | guarding pass room held | receiving pk message contact incrementUnread | loading pk writes
  | assigned pk room => exact warned
  | received pk room message contact incrementUnread | resetting pk | saving pk room =>
      exact warned.later (le_refl _) rfl rfl

theorem advance_leaves {progress : InactivityProgress} (flagged : table.FlaggedAreWarned)
    (warned : table.WarnedByFirstPass) (assertion : progress.Assertion table) {outcome : Outcome}
    (starts : progress.StartsInTime table outcome) :
    Leaves table (progress.advance table outcome) := by
  have unchanged : Later table table := .of_eq rfl rfl
  cases progress with
  | acquiring settings => exact acquire_leaves flagged settings
  | beforeWarnings settings =>
      cases outcome with
      | done uuid => exact .goesOn flagged unchanged trivial
      | failed => exact .goesOn flagged unchanged trivial
  | warning pass =>
      cases outcome with
      | done uuid =>
          rw [advance, recordPass]
          split
          · exact .goesOn (flagged.later (.of_eq rfl rfl) rfl) (.of_eq rfl rfl)
              (warnRound_assertion _ pass)
          · exact .goesOn flagged unchanged (warnRound_assertion table pass)
      | failed => exact .goesOn flagged unchanged trivial
  | sendingWarning pass room => exact sendWarning_leaves flagged outcome
  | flagging pass room =>
      cases outcome with
      | done uuid => exact flag_leaves flagged assertion
      | failed => exact .goesOn flagged unchanged trivial
  | beforeClosures settings =>
      cases outcome with
      | done uuid =>
          exact .goesOn flagged unchanged ⟨le_refl _, select_warned flagged warned starts⟩
      | failed => exact .goesOn flagged unchanged trivial
  | closing pass =>
      cases outcome with
      | done uuid => exact .goesOn flagged unchanged (closeRound_assertion assertion)
      | failed => exact .goesOn flagged unchanged trivial
  | sendingClosure pass room => exact sendClosure_leaves flagged assertion outcome
  | refreshing pass room => exact refresh_leaves flagged assertion
  | guarding pass room held =>
      apply Leaves.goesOn flagged unchanged
      split
      · exact assertion.1.others
      · exact assertion
  | storing pass room held =>
      exact storeClosing_leaves flagged assertion.1 assertion.2 outcome
  | releasing settings => exact release_leaves flagged settings.token
  | receiving pk message contact incrementUnread =>
      rw [advance]
      exact load_leaves flagged fun _ _ => trivial
  | received pk room message contact incrementUnread =>
      rw [advance]
      have spares : QuerysetUpdate.onNewMessage message contact incrementUnread ≠ .warnRoom :=
        nofun
      apply Leaves.update flagged spares
      intro remaining isRemaining
      split at isRemaining
      · cases isRemaining
        trivial
      · cases isRemaining
  | resetting pk => exact .update flagged nofun fun _ impossible => by cases impossible
  | loading pk writes =>
      rw [advance]
      exact load_leaves flagged fun _ found => mayStore_assign flagged found writes.spared
  | assigned pk room =>
      apply Leaves.reads flagged
      intro remaining isRemaining
      split at isRemaining
      · cases isRemaining
      · cases isRemaining
        exact assertion
  | saving pk room => exact .ends (flagged.store assertion) (later_store table pk room)

end Statements

end InactivityProgress

namespace InactivityTable

theorem surround_warnings {table after : InactivityTable} {event : InactivitySurrounding}
    (surrounded : table.surround event = some after) :
    after.lastWarning = table.lastWarning ∧ after.warningsPasses = table.warningsPasses := by
  cases event with
  | createRoom pk writes =>
      rw [InactivityTable.surround] at surrounded
      split at surrounded <;> cases surrounded
      exact ⟨rfl, rfl⟩
  | tick elapsed | configure sector config | agentMessage pk message user =>
      cases surrounded
      exact ⟨rfl, rfl⟩

theorem surround_keeps {table after : InactivityTable} {event : InactivitySurrounding}
    (flagged : table.FlaggedAreWarned) (surrounded : table.surround event = some after) :
    after.FlaggedAreWarned ∧ Later table after ∧ after.closings = table.closings := by
  cases event with
  | tick elapsed =>
      cases surrounded
      have later : Later table { table with now := table.now + elapsed } :=
        ⟨Nat.le_add_right _ _, fun _ => id⟩
      exact ⟨flagged.later later rfl, later, rfl⟩
  | configure sector config =>
      cases surrounded
      have later : Later table
          { table with config := Function.update table.config sector config } := .of_eq rfl rfl
      exact ⟨flagged.later later rfl, later, rfl⟩
  | createRoom pk writes =>
      rw [InactivityTable.surround] at surrounded
      split at surrounded
      · cases surrounded
      · cases surrounded
        refine ⟨flagged.insert ?_, .of_eq rfl rfl, rfl⟩
        intro isInactive
        have unassigned : (RoomRecord.defaults table.now).assign writes.assignments .isInactive =
            false := Record.assign_of_not_mem writes.spared
        exact absurd (unassigned.symm.trans isInactive) (by decide)
  | agentMessage pk message user =>
      cases surrounded
      exact ⟨flagged.update nofun, later_update table pk _, rfl⟩

theorem initial_flaggedAreWarned (now : Nat) (sectorOf : Uuid → Option Uuid)
    (config : Uuid → InactivityConfig) : (initial now sectorOf config).FlaggedAreWarned := by
  intro pk columns stored
  cases stored

theorem initial_warnedByFirstPass (now : Nat) (sectorOf : Uuid → Option Uuid)
    (config : Uuid → InactivityConfig) : (initial now sectorOf config).WarnedByFirstPass where
  issued := nofun
  byFirst := nofun

/-- Every sweep so far has left the contact the closing timeout after the
warning. -/
def KeepsTimeouts (table : InactivityTable) : Prop :=
  ∀ closing ∈ table.closings, closing.KeepsTimeout

instance : DecidablePred KeepsTimeouts := by
  unfold KeepsTimeouts
  infer_instance

end InactivityTable

namespace InactivityProgress

open InactivityTable

theorem advance_closings (table : InactivityTable) (progress : InactivityProgress)
    (outcome : Outcome) :
    (progress.advance table outcome).1.closings = table.closings ∨
    ∃ pass room held uuid, progress = .storing pass room held ∧ outcome = .done uuid := by
  cases progress with
  | storing pass room held =>
      cases outcome with
      | done uuid => exact .inr ⟨pass, room, held, uuid, rfl, rfl⟩
      | failed => exact .inl rfl
  | acquiring settings =>
      refine .inl ?_
      rw [advance, acquire]
      split <;> rfl
  | warning pass =>
      refine .inl ?_
      cases outcome with
      | done uuid =>
          rw [advance, recordPass]
          split <;> rfl
      | failed => rfl
  | sendingWarning pass room =>
      refine .inl ?_
      cases outcome with
      | done uuid =>
          rw [advance, sendWarning]
          split <;> rfl
      | failed =>
          rw [advance, sendWarning]
          split <;> rfl
  | flagging pass room =>
      refine .inl ?_
      cases outcome with
      | done uuid =>
          rw [advance, flag]
          split <;> rfl
      | failed => rfl
  | sendingClosure pass room =>
      refine .inl ?_
      cases outcome with
      | done uuid =>
          rw [advance, sendClosure]
          split <;> rfl
      | failed => rfl
  | refreshing pass room =>
      refine .inl ?_
      rw [advance, refresh]
      split <;> rfl
  | releasing settings =>
      refine .inl ?_
      rw [advance, InactivityTable.release]
      split <;> rfl
  | _ => exact .inl (by cases outcome <;> rfl)

theorem storeClosing_keeps {table : InactivityTable} {pass : Pass} {room : SelectedRoom}
    (taken : Taken table pass room) (held : RoomInstance) (uuid : Uuid)
    (keeps : table.KeepsTimeouts) :
    (storeClosing table pass room held (.done uuid)).1.KeepsTimeouts := by
  rcases taken.warned with ⟨warning, isWarning, inTime⟩
  have timeout := inTime taken.due
  have clock : (pass.now : Int) ≤ table.now := by exact_mod_cast taken.others.now
  have atWrite : room.config.closeTimeout ≤ (table.now : Int) - warning.issuedAt := by omega
  intro closing member
  rcases List.mem_cons.mp member with rfl | listed
  · exact ⟨warning.issuedAt, Option.map_eq_some_iff.mpr ⟨warning, isWarning, rfl⟩, atWrite⟩
  · exact keeps closing listed

theorem advance_keeps {table : InactivityTable} {progress : InactivityProgress}
    (assertion : progress.Assertion table) (keeps : table.KeepsTimeouts) (outcome : Outcome) :
    (progress.advance table outcome).1.KeepsTimeouts := by
  rcases advance_closings table progress outcome with
    unchanged | ⟨pass, room, held, uuid, rfl, rfl⟩
  · intro closing member
    exact keeps closing (unchanged ▸ member)
  · exact storeClosing_keeps assertion.1 held uuid keeps

end InactivityProgress

open InactivityTable InactivityProgress

def inactivityOutline : SparingOutline inactivityProgram SparesClosing
    fun table progress outcome => progress.OnSchedule table outcome where
  Invariant := fun table =>
    table.FlaggedAreWarned ∧ table.WarnedByFirstPass ∧ table.KeepsTimeouts
  Assertion := fun table progress => progress.Assertion table
  Guarantee := Later
  enter := by
    intro table task _
    cases task <;> trivial
  advance := by
    intro table progress outcome after rest onSchedule invariant assertion advanced
    rcases invariant with ⟨flagged, warned, keeps⟩
    have leaves := advance_leaves flagged warned assertion onSchedule.2
    have warnedAfter := advance_warnedByFirstPass warned onSchedule.1
    have keepsAfter := advance_keeps assertion keeps outcome
    rw [show progress.advance table outcome = (after, rest) from
      Option.some.inj advanced] at leaves warnedAfter keepsAfter
    exact ⟨⟨leaves.flagged, warnedAfter, keepsAfter⟩, leaves.later, leaves.remains⟩
  surround := by
    intro table event after invariant surrounded
    rcases invariant with ⟨flagged, warned, keeps⟩
    rcases surround_keeps flagged surrounded with ⟨flaggedAfter, later, unchanged⟩
    rcases surround_warnings surrounded with ⟨sameWarnings, samePasses⟩
    refine ⟨⟨flaggedAfter, warned.later later.now sameWarnings samePasses, ?_⟩, later⟩
    intro closing member
    exact keeps closing (unchanged ▸ member)
  stable := fun later spares assertion => assertion.later later spares

@[reducible] def KeepsSchedule (Pid : Type) (pool : InactivityPool Pid)
    (event : InactivityEvent Pid) : Prop :=
  pool.AllowedSparing inactivityProgram SparesClosing
    (fun table progress outcome => progress.OnSchedule table outcome) event

/-- In every run in which the first warnings pass that goes over all rooms once a room is due warns
it, a closing pass starts a closing timeout after such a pass has ended, and no room is warned
meanwhile, the sweeps leave the contacts the closing timeout after the warning. -/
theorem closing_timeout_after_warning {Pid : Type} [DecidableEq Pid] (now : Nat)
    (sectorOf : Uuid → Option Uuid) (config : Uuid → InactivityConfig)
    {final : InactivityPool Pid}
    (reaches : inactivityProgram.machine.Reaches (KeepsSchedule Pid)
      (Pool.idle (.initial now sectorOf config)) final) :
    final.shared.KeepsTimeouts := by
  have initially : (InactivityTable.initial now sectorOf config).KeepsTimeouts :=
    fun _ member => by cases member
  exact (inactivityOutline.holds_of_reaches reaches
    ⟨initial_flaggedAreWarned now sectorOf config, initial_warnedByFirstPass now sectorOf config,
      initially⟩).shared.2.2

/-! ## A room that is warned and closed by the same sweep -/

/-- Ten minutes to the warning, and one more to the closing. -/
def tenMinutesAndOne : InactivityConfig where
  isMessageTimeoutEnabled := true
  messageTimeoutText := some "Are you still there?"
  messageTimeoutTime := some 600
  isCloseRoomEnabled := true
  closeRoomMessageText := some "Closing due to inactivity."
  closeRoomTimeoutTime := some 60

def assignedRoom : OtherWrites where
  assignments := [⟨.queue, some 7⟩, ⟨.user, some "agent@example.com"⟩]
  spared := by simp

def agentGreets : LastMessage where
  uuid := 10
  text := some "Hello"
  medias := []
  createdOn := 0

def oneSweep : SweepSettings where
  token := 1
  lockTimeout := 120000000
  maxWarningsPerRun := 1000
  maxClosuresPerRun := 500

def sweepAfter (seconds : Nat) : List (InactivityEvent Unit) :=
  [.surround (.createRoom 3 assignedRoom),
    .surround (.agentMessage 3 agentGreets (some "agent@example.com")),
    .surround (.tick (seconds * 1000000)),
    .start () (.checkInactivityRooms oneSweep)]

def sweepAfterPause : List (InactivityEvent Unit) :=
  sweepAfter 700 ++ List.replicate 12 (.advance () (.done 11))

theorem room_closed_with_its_warning :
    ¬ ∀ (now : Nat) (sectorOf : Uuid → Option Uuid) (config : Uuid → InactivityConfig)
      (final : InactivityPool Unit),
      inactivityProgram.machine.Reaches Machine.anyStep
        (Pool.idle (.initial now sectorOf config)) final →
      ∀ closing ∈ final.shared.closings, closing.KeepsTimeout := by
  intro keeps
  have closes : (inactivityProgram.machine.run
      (Pool.idle (.initial 0 (fun _ => some 1) fun _ => tenMinutesAndOne)) sweepAfterPause).map
      (fun pool => decide pool.shared.KeepsTimeouts) = some false := by
    decide
  rcases Option.map_eq_some_iff.mp closes with ⟨final, ran, broken⟩
  exact of_decide_eq_false broken (keeps 0 _ _ final (.of_run ran))

def sweepsMinuteApart : List (InactivityEvent Unit) :=
  sweepAfter 610 ++ List.replicate 10 (.advance () (.done 11)) ++
    [.surround (.tick 60000000), .start () (.checkInactivityRooms oneSweep)] ++
    List.replicate 9 (.advance () (.done 12))

theorem room_closed_minute_after_warning :
    ∃ final, inactivityProgram.machine.runMeeting (KeepsSchedule Unit)
        (Pool.idle (.initial 0 (fun _ => some 1) fun _ => tenMinutesAndOne))
        sweepsMinuteApart = some final ∧
      final.shared.KeepsTimeouts := by
  have closes : (inactivityProgram.machine.runMeeting (KeepsSchedule Unit)
      (Pool.idle (.initial 0 (fun _ => some 1) fun _ => tenMinutesAndOne))
      sweepsMinuteApart).map (fun pool => pool.shared.closings.map Closing.closedAt) =
      some [670000000] := by
    decide
  rcases Option.map_eq_some_iff.mp closes with ⟨final, ran, _⟩
  exact ⟨final, ran, closing_timeout_after_warning 0 _ _ (.of_runMeeting ran)⟩

end ChatsEngine.Rooms
