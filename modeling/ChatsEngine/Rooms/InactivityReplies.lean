import ChatsEngine.Rooms.InactivityTimeout

/-! # Replies and the inactivity sweep

A reply clears the flag of its room when the instance that it has loaded carries
the flag, and a sweep warns and closes the rooms that it has selected. Neither
looks at what the other has done in between. -/

namespace ChatsEngine.Rooms

/-- The most recent message of an agent or of the contact in a room. A message of the
contact is handled when `on_new_message` has returned. -/
structure LatestMessage where
  uuid : Uuid
  createdOn : Nat
  fromContact : Bool
  handled : Bool
deriving DecidableEq, Repr

/-- The tables of the sweeps, with a record of the conversations: the latest message
of each room, and the rooms that a sweep has closed while that message was the
contact's. -/
structure RepliesTable where
  table : InactivityTable
  latest : Uuid → Option LatestMessage
  closedOnContact : List Uuid

namespace RepliesTable

def initial (now : Nat) (sectorOf : Uuid → Option Uuid)
    (config : Uuid → InactivityConfig) : RepliesTable where
  table := .initial now sectorOf config
  latest := fun _ => none
  closedOnContact := []

/-- A message is the most recent one unless another is dated later. -/
def speak (replies : RepliesTable) (pk : Uuid) (message : LatestMessage) : RepliesTable :=
  if ∀ last ∈ replies.latest pk, last.createdOn ≤ message.createdOn then
    { replies with latest := Function.update replies.latest pk (some message) }
  else
    replies

def handle (replies : RepliesTable) (pk message : Uuid) : RepliesTable :=
  { replies with
    latest := Function.update replies.latest pk ((replies.latest pk).map fun last =>
      if last.uuid = message then { last with handled := true } else last) }

def ContactSpokeLast (replies : RepliesTable) (pk : Uuid) : Prop :=
  ∃ last ∈ replies.latest pk, last.fromContact = true

/-- The most recent message is the contact's, and its handling has finished. -/
def Replied (replies : RepliesTable) (pk : Uuid) : Prop :=
  ∃ last ∈ replies.latest pk, last.fromContact = true ∧ last.handled = true

def IsLatest (replies : RepliesTable) (pk message : Uuid) : Prop :=
  ∃ last ∈ replies.latest pk, last.fromContact = true ∧ last.uuid = message

instance (replies : RepliesTable) : DecidablePred replies.ContactSpokeLast :=
  fun pk => inferInstanceAs (Decidable (∃ last ∈ replies.latest pk, _))

instance (replies : RepliesTable) : DecidablePred replies.Replied :=
  fun pk => inferInstanceAs (Decidable (∃ last ∈ replies.latest pk, _))

instance (replies : RepliesTable) (pk message : Uuid) :
    Decidable (replies.IsLatest pk message) :=
  inferInstanceAs (Decidable (∃ last ∈ replies.latest pk, _))

/-- No room is left inactive after a reply, and none was closed on the contact. -/
structure KeepsReplies (replies : RepliesTable) : Prop where
  active : ∀ room ∈ replies.table.rooms.entries, replies.Replied room.1 →
    room.2 .isInactive = false
  noneClosed : replies.closedOnContact = []

instance : DecidablePred KeepsReplies := fun replies =>
  decidable_of_iff
    ((∀ room ∈ replies.table.rooms.entries, replies.Replied room.1 →
      room.2 .isInactive = false) ∧ replies.closedOnContact = [])
    ⟨fun keeps => ⟨keeps.1, keeps.2⟩, fun keeps => ⟨keeps.1, keeps.2⟩⟩

end RepliesTable

/-- The handling of a contact's message, which is stored before `on_new_message`, and
the other operations. -/
inductive RepliesProgress
  | storingMessage (pk : Uuid) (room : RoomRecord) (message : LastMessage)
      (contact : Option Uuid) (incrementUnread : Int)
  | received (pk : Uuid) (room : RoomRecord) (message : LastMessage) (contact : Option Uuid)
      (incrementUnread : Int)
  | resetting (pk message : Uuid)
  | running (progress : InactivityProgress)

namespace RepliesTable

def record (replies : RepliesTable) : InactivityProgress → Outcome → RepliesTable
  | .storing _ room _, .done _ =>
      if replies.ContactSpokeLast room.pk then
        { replies with closedOnContact := room.pk :: replies.closedOnContact }
      else replies
  | _, _ => replies

def withTable (replies : RepliesTable) (table : InactivityTable) : RepliesTable :=
  { replies with table := table }

end RepliesTable

namespace RepliesProgress

abbrev Effect := RepliesTable × Option RepliesProgress

/-- `Message.save`, which refuses a message in a room that was loaded closed. A message
without a contact is neither the contact's nor an agent's. -/
def storeMessage (replies : RepliesTable) (pk : Uuid) (room : RoomRecord)
    (message : LastMessage) (contact : Option Uuid) (incrementUnread : Int) : Effect :=
  if room .isActive = false then (replies, none)
  else
    (if contact.isSome then
      replies.speak pk
        { uuid := message.uuid, createdOn := message.createdOn, fromContact := true
          handled := false }
    else replies,
    some (.received pk room message contact incrementUnread))

/-- The update of `on_new_message`, after which it returns unless the loaded room is
flagged. -/
def receive (replies : RepliesTable) (pk : Uuid) (room : RoomRecord) (message : LastMessage)
    (contact : Option Uuid) (incrementUnread : Int) (outcome : Outcome) : Effect :=
  let effect := InactivityProgress.advance replies.table
    (.received pk room message contact incrementUnread) outcome
  match effect.2 with
  | some _ => (replies.withTable effect.1, some (.resetting pk message.uuid))
  | none => ((replies.withTable effect.1).handle pk message.uuid, none)

def runOn (replies : RepliesTable) (progress : InactivityProgress) (outcome : Outcome) :
    Effect :=
  let effect := progress.advance replies.table outcome
  ((replies.record progress outcome).withTable effect.1, effect.2.map .running)

def advance (replies : RepliesTable) : RepliesProgress → Outcome → Effect
  | .storingMessage pk room message contact incrementUnread, _ =>
      storeMessage replies pk room message contact incrementUnread
  | .received pk room message contact incrementUnread, outcome =>
      receive replies pk room message contact incrementUnread outcome
  | .resetting pk message, outcome =>
      let effect := InactivityProgress.advance replies.table (.resetting pk) outcome
      ((replies.withTable effect.1).handle pk message, none)
  | .running (.receiving pk message contact incrementUnread), _ =>
      (replies, (replies.table.rooms.lookup pk).map fun room =>
        .storingMessage pk room message contact incrementUnread)
  | .running progress, outcome => runOn replies progress outcome

end RepliesProgress

namespace RepliesTable

/-- An agent's message is stored and written to the room in one transaction. -/
def surround (replies : RepliesTable) (event : InactivitySurrounding) : Option RepliesTable :=
  (replies.table.surround event).map fun table =>
    match event with
    | .agentMessage pk message _ =>
        (replies.withTable table).speak pk
          { uuid := message.uuid, createdOn := message.createdOn, fromContact := false
            handled := true }
    | _ => replies.withTable table

end RepliesTable

def repliesProgram : Program RepliesTable RepliesProgress InactivityTask Outcome
    InactivitySurrounding where
  enter := fun task => .running (inactivityProgram.enter task)
  advance := fun replies progress outcome => some (progress.advance replies outcome)
  surround := RepliesTable.surround

abbrev RepliesPool (Pid : Type) := Pool Pid RepliesTable RepliesProgress

abbrev RepliesEvent (Pid : Type) := PoolEvent Pid InactivityTask Outcome InactivitySurrounding

namespace InactivityTable

variable {table before middle after : InactivityTable} {pk : Uuid}

def Flagged (table : InactivityTable) (pk : Uuid) : Prop :=
  ∃ columns ∈ table.rooms.lookup pk, columns .isInactive = true

def Open (table : InactivityTable) (pk : Uuid) : Prop :=
  ∃ columns ∈ table.rooms.lookup pk, columns .isActive = true

instance (table : InactivityTable) : DecidablePred table.Flagged :=
  fun pk => inferInstanceAs (Decidable (∃ columns ∈ table.rooms.lookup pk, _))

instance (table : InactivityTable) : DecidablePred table.Open :=
  fun pk => inferInstanceAs (Decidable (∃ columns ∈ table.rooms.lookup pk, _))

def RaisesNoFlag (before after : InactivityTable) : Prop :=
  ∀ pk, after.Flagged pk → before.Flagged pk

theorem RaisesNoFlag.of_rooms (rooms : after.rooms = before.rooms) :
    RaisesNoFlag before after := by
  intro pk flagged
  rw [Flagged, rooms] at flagged
  exact flagged

theorem RaisesNoFlag.trans (first : RaisesNoFlag before middle)
    (second : RaisesNoFlag middle after) : RaisesNoFlag before after :=
  fun pk flagged => first pk (second pk flagged)

theorem flagged_mapRoom_iff {change : RoomRecord → RoomRecord} {other : Uuid} :
    (table.mapRoom pk change).Flagged other ↔
      (other = pk ∧ ∃ columns ∈ table.rooms.lookup pk, change columns .isInactive = true) ∨
        (other ≠ pk ∧ table.Flagged other) := by
  rw [InactivityTable.mapRoom, Table.modify, Flagged]
  cases stored : table.rooms.lookup pk with
  | none =>
      constructor
      · intro flagged
        right
        refine ⟨?_, flagged⟩
        intro same
        subst same
        rcases flagged with ⟨columns, found, _⟩
        simp [stored] at found
      · intro either
        rcases either with ⟨_, columns, found, _⟩ | ⟨_, flagged⟩
        · simp at found
        · exact flagged
  | some columns =>
      constructor
      · intro flagged
        rcases flagged with ⟨found, isFound, isInactive⟩
        rcases Table.lookup_insert_iff.mp isFound with ⟨same, rfl⟩ | ⟨different, before⟩
        · exact .inl ⟨same, columns, rfl, isInactive⟩
        · exact .inr ⟨different, found, before, isInactive⟩
      · intro either
        rcases either with ⟨same, _, isStored, isInactive⟩ | ⟨different, found, before, isInactive⟩
        · cases isStored
          exact ⟨_, Table.lookup_insert_iff.mpr (.inl ⟨same, rfl⟩), isInactive⟩
        · exact ⟨found, Table.lookup_insert_iff.mpr (.inr ⟨different, before⟩), isInactive⟩

theorem raisesNoFlag_update {update : QuerysetUpdate} (spares : update ≠ .warnRoom) :
    RaisesNoFlag table (table.update pk update) := by
  intro other flagged
  rcases flagged_mapRoom_iff.mp flagged with ⟨rfl, columns, found, isInactive⟩ | ⟨_, before⟩
  · exact ⟨columns, found, not_flags_update spares isInactive⟩
  · exact before

theorem flagged_onNewMessage_iff {message : LastMessage} {contact : Option Uuid}
    {incrementUnread : Int} :
    (table.update pk (.onNewMessage message contact incrementUnread)).Flagged pk ↔
      table.Flagged pk := by
  constructor
  · have spares : QuerysetUpdate.onNewMessage message contact incrementUnread ≠ .warnRoom := nofun
    exact raisesNoFlag_update spares pk
  · intro flagged
    rcases flagged with ⟨columns, found, isInactive⟩
    refine flagged_mapRoom_iff.mpr (.inl ⟨rfl, columns, found, ?_⟩)
    split
    · rw [QuerysetUpdate.assignments]
      split
      · exact isInactive
      · exact isInactive
    · exact isInactive

theorem flagged_store_iff {room : RoomInstance} :
    (table.store pk room).Flagged pk ↔
      (∃ columns, table.rooms.lookup pk = some columns) ∧
        room.values .isInactive = true := by
  rw [InactivityTable.store, flagged_mapRoom_iff,
    RoomInstance.saveAssignments_spare (by decide)]
  simp

theorem flagged_warnRoom (isOpen : table.Open pk) : (table.update pk .warnRoom).Flagged pk := by
  rcases isOpen with ⟨columns, found, isActive⟩
  apply flagged_mapRoom_iff.mpr
  refine .inl ⟨rfl, columns, found, ?_⟩
  by_cases isInactive : columns .isInactive = true
  · rw [if_neg]
    · exact isInactive
    · intro selects
      rw [selects.1] at isInactive
      cases isInactive
  · have selects : QuerysetUpdate.warnRoom.Selects columns := ⟨by simpa using isInactive, isActive⟩
    rw [if_pos selects]
    rfl

theorem flagged_of_warnRoom {other : Uuid}
    (flagged : (table.update pk .warnRoom).Flagged other) :
    table.Flagged other ∨ (other = pk ∧ table.Open pk) := by
  rcases flagged_mapRoom_iff.mp flagged with ⟨rfl, columns, found, isInactive⟩ | ⟨_, before⟩
  · split at isInactive
    · next selects => exact .inr ⟨rfl, columns, found, selects.2⟩
    · exact .inl ⟨columns, found, isInactive⟩
  · exact .inl before

theorem flagged_resetInactivity_iff :
    (table.update pk .resetInactivity).Flagged pk ↔ table.Flagged pk ∧ ¬table.Open pk := by
  rw [InactivityTable.update, flagged_mapRoom_iff, Flagged, Open]
  cases stored : table.rooms.lookup pk with
  | none => simp
  | some columns =>
      by_cases isActive : columns .isActive = true
      · have selects : QuerysetUpdate.resetInactivity.Selects columns := isActive
        have cleared : columns.assign
            (QuerysetUpdate.resetInactivity.assignments columns table.now) .isInactive =
              false := rfl
        simp [selects, cleared, isActive]
      · have spares : ¬QuerysetUpdate.resetInactivity.Selects columns := isActive
        simp [spares, isActive]

end InactivityTable

namespace InactivityProgress

open InactivityTable

def MayFlag : InactivityProgress → Prop
  | .flagging _ _ => True
  | .storing _ _ _ => True
  | .saving _ _ => True
  | _ => False

theorem advance_raisesNoFlag {table : InactivityTable} {progress : InactivityProgress}
    (spares : ¬progress.MayFlag) (outcome : Outcome) :
    RaisesNoFlag table (progress.advance table outcome).1 := by
  have unchanged : RaisesNoFlag table table := .of_rooms rfl
  cases progress with
  | flagging pass room => exact absurd trivial spares
  | storing pass room held => exact absurd trivial spares
  | saving pk room => exact absurd trivial spares
  | acquiring settings =>
      rw [advance, acquire]
      split
      · exact unchanged
      · exact .of_rooms rfl
  | warning pass =>
      cases outcome with
      | done uuid =>
          rw [advance, recordPass]
          split
          · exact .of_rooms rfl
          · exact unchanged
      | failed => exact unchanged
  | sendingWarning pass room =>
      cases outcome with
      | done uuid =>
          rw [advance, sendWarning]
          split
          · exact unchanged
          · have sent : RaisesNoFlag table (table.sendSilently room uuid
                (room.config.messageTimeoutText.getD "")) :=
              raisesNoFlag_update fun impossible => by cases impossible
            exact sent.trans (.of_rooms rfl)
      | failed =>
          rw [advance, sendWarning]
          split
          · exact unchanged
          · exact unchanged
  | sendingClosure pass room =>
      cases outcome with
      | done uuid =>
          rw [advance, sendClosure]
          split
          · exact unchanged
          · exact raisesNoFlag_update fun impossible => by cases impossible
      | failed => exact unchanged
  | refreshing pass room =>
      rw [advance, refresh]
      split
      · exact unchanged
      · exact unchanged
  | releasing settings =>
      rw [advance, InactivityTable.release]
      split
      · exact .of_rooms rfl
      · exact unchanged
  | received pk room message contact incrementUnread =>
      exact raisesNoFlag_update fun impossible => by cases impossible
  | resetting pk => exact raisesNoFlag_update fun impossible => by cases impossible
  | _ => cases outcome <;> exact unchanged

end InactivityProgress

namespace RepliesTable

open InactivityTable

variable {replies after : RepliesTable} {pk other message : Uuid}

theorem keepsReplies_iff :
    replies.KeepsReplies ↔
      (∀ pk, replies.Replied pk → ¬replies.table.Flagged pk) ∧
        replies.closedOnContact = [] := by
  constructor
  · intro keeps
    refine ⟨?_, keeps.noneClosed⟩
    intro pk replied flagged
    rcases flagged with ⟨columns, found, isInactive⟩
    have active := keeps.active ⟨pk, columns⟩ (Table.mem_entries_iff.mpr found) replied
    exact absurd (active.symm.trans isInactive) (by decide)
  · intro keeps
    refine ⟨?_, keeps.2⟩
    intro room listed replied
    have notFlagged := keeps.1 room.1 replied
    by_contra isInactive
    exact notFlagged ⟨room.2, Table.mem_entries_iff.mp listed, by simpa using isInactive⟩

theorem KeepsReplies.of_raisesNoFlag (keeps : replies.KeepsReplies)
    (flags : RaisesNoFlag replies.table after.table)
    (replied : ∀ pk, after.Replied pk → replies.Replied pk)
    (closed : after.closedOnContact = replies.closedOnContact) : after.KeepsReplies := by
  rw [keepsReplies_iff] at keeps ⊢
  refine ⟨?_, closed.trans keeps.2⟩
  intro pk isReplied flagged
  exact keeps.1 pk (replied pk isReplied) (flags pk flagged)

theorem replied_of_speak {latest : LatestMessage}
    (fresh : latest.fromContact = true → latest.handled = false)
    (replied : (replies.speak pk latest).Replied other) : replies.Replied other := by
  rw [speak] at replied
  split at replied
  · rcases replied with ⟨last, isLast, fromContact, handled⟩
    dsimp only at isLast
    by_cases same : other = pk
    · subst same
      rw [Function.update_self] at isLast
      cases isLast
      exact absurd ((fresh fromContact).symm.trans handled) (by decide)
    · rw [Function.update_of_ne same] at isLast
      exact ⟨last, isLast, fromContact, handled⟩
  · exact replied

theorem speak_table (latest : LatestMessage) : (replies.speak pk latest).table = replies.table := by
  rw [speak]
  split <;> rfl

theorem speak_closedOnContact (latest : LatestMessage) :
    (replies.speak pk latest).closedOnContact = replies.closedOnContact := by
  rw [speak]
  split <;> rfl

theorem replied_handle_iff :
    (replies.handle pk message).Replied other ↔
      replies.Replied other ∨ (other = pk ∧ replies.IsLatest pk message) := by
  rw [Replied, handle]
  dsimp only
  by_cases same : other = pk
  · subst same
    rw [Function.update_self]
    cases last : replies.latest other with
    | none => simp [Replied, IsLatest, last]
    | some latest =>
        by_cases isThis : latest.uuid = message
        · simp [Replied, IsLatest, last, isThis]
          tauto
        · simp [Replied, IsLatest, last, isThis]
  · rw [Function.update_of_ne same]
    simp [Replied, same]

theorem keepsReplies_handle_iff (keeps : replies.KeepsReplies) {table : InactivityTable}
    (flags : RaisesNoFlag replies.table table) :
    ((replies.withTable table).handle pk message).KeepsReplies ↔
      ¬(replies.IsLatest pk message ∧ table.Flagged pk) := by
  rw [keepsReplies_iff] at keeps ⊢
  constructor
  · intro keepsAfter isThis
    exact keepsAfter.1 pk (replied_handle_iff.mpr (.inr ⟨rfl, isThis.1⟩)) isThis.2
  · intro spares
    refine ⟨?_, keeps.2⟩
    intro other replied flagged
    rcases replied_handle_iff.mp replied with before | ⟨rfl, isThis⟩
    · exact keeps.1 other before (flags other flagged)
    · exact spares ⟨isThis, flagged⟩

end RepliesTable

namespace RepliesProgress

open InactivityTable

/-- A sweep flags no open room after a reply, and closes none on the contact; no stale
copy of the flag is saved after a reply; and a reply to a room that is flagged when it
is written clears the flag. -/
def KeepsReply (replies : RepliesTable) : RepliesProgress → Outcome → Prop
  | .received pk room message contact _, _ =>
      (room .isInactive = true ∧ contact.isSome ∧ room .isActive = true) ∨
        ¬(replies.IsLatest pk message.uuid ∧ replies.table.Flagged pk)
  | .resetting pk message, _ =>
      ¬(replies.IsLatest pk message ∧ replies.table.Flagged pk ∧ ¬replies.table.Open pk)
  | .running (.flagging _ room), .done _ =>
      ¬(replies.Replied room.pk ∧ replies.table.Open room.pk)
  | .running (.storing _ room _), .done _ => ¬replies.ContactSpokeLast room.pk
  | .running (.saving pk room), _ =>
      ¬(replies.Replied pk ∧ (replies.table.rooms.lookup pk).isSome ∧
        room.values .isInactive = true)
  | _, _ => True

variable {replies after : RepliesTable} {progress : RepliesProgress} {outcome : Outcome}

theorem storeMessage_keeps (keeps : replies.KeepsReplies) (pk : Uuid) (room : RoomRecord)
    (message : LastMessage) (contact : Option Uuid) (incrementUnread : Int) :
    (storeMessage replies pk room message contact incrementUnread).1.KeepsReplies := by
  rw [storeMessage]
  split
  · exact keeps
  · dsimp only
    split
    · exact keeps.of_raisesNoFlag (.of_rooms (by rw [RepliesTable.speak_table]))
        (fun _ => RepliesTable.replied_of_speak fun _ => rfl)
        (RepliesTable.speak_closedOnContact _)
    · exact keeps

theorem receive_keeps_iff (keeps : replies.KeepsReplies) (pk : Uuid) (room : RoomRecord)
    (message : LastMessage) (contact : Option Uuid) (incrementUnread : Int) :
    (receive replies pk room message contact incrementUnread outcome).1.KeepsReplies ↔
      KeepsReply replies (.received pk room message contact incrementUnread) outcome := by
  have flags : RaisesNoFlag replies.table
      (replies.table.update pk (.onNewMessage message contact incrementUnread)) :=
    raisesNoFlag_update fun impossible => by cases impossible
  by_cases resets : room .isInactive = true ∧ contact.isSome ∧ room .isActive = true
  · have effect : (receive replies pk room message contact incrementUnread outcome).1 =
        replies.withTable
          (replies.table.update pk (.onNewMessage message contact incrementUnread)) := by
      simp [receive, InactivityProgress.advance, resets]
    rw [effect]
    exact ⟨fun _ => .inl resets, fun _ => keeps.of_raisesNoFlag flags (fun _ => id) rfl⟩
  · have effect : (receive replies pk room message contact incrementUnread outcome).1 =
        (replies.withTable (replies.table.update pk
          (.onNewMessage message contact incrementUnread))).handle pk message.uuid := by
      rw [receive, InactivityProgress.advance, if_neg resets]
    rw [effect, RepliesTable.keepsReplies_handle_iff keeps flags, KeepsReply,
      or_iff_right resets]
    exact not_congr (and_congr_right' flagged_onNewMessage_iff)

theorem resetting_keeps_iff (keeps : replies.KeepsReplies) (pk message : Uuid) :
    (advance replies (.resetting pk message) outcome).1.KeepsReplies ↔
      KeepsReply replies (.resetting pk message) outcome := by
  have flags : RaisesNoFlag replies.table (replies.table.update pk .resetInactivity) :=
    raisesNoFlag_update fun impossible => by cases impossible
  have effect : (advance replies (.resetting pk message) outcome).1 =
      (replies.withTable (replies.table.update pk .resetInactivity)).handle pk message := rfl
  rw [effect, RepliesTable.keepsReplies_handle_iff keeps flags, KeepsReply]
  exact not_congr (and_congr_right' flagged_resetInactivity_iff)

theorem flagging_keeps_iff (keeps : replies.KeepsReplies) (pass : Pass) (room : SelectedRoom)
    (uuid : Uuid) :
    (runOn replies (.flagging pass room) (.done uuid)).1.KeepsReplies ↔
      ¬(replies.Replied room.pk ∧ replies.table.Open room.pk) := by
  have flagged : ∀ pk, (InactivityProgress.flag replies.table pass room).1.Flagged pk ↔
      (replies.table.update room.pk .warnRoom).Flagged pk := by
    intro pk
    rw [InactivityProgress.flag]
    dsimp only
    split <;> rfl
  constructor
  · intro keepsAfter both
    rw [RepliesTable.keepsReplies_iff] at keepsAfter
    exact keepsAfter.1 room.pk both.1 ((flagged room.pk).mpr (flagged_warnRoom both.2))
  · intro spares
    rw [RepliesTable.keepsReplies_iff] at keeps ⊢
    refine ⟨?_, keeps.2⟩
    intro pk replied isFlagged
    rcases flagged_of_warnRoom ((flagged pk).mp isFlagged) with before | ⟨rfl, isOpen⟩
    · exact keeps.1 pk replied before
    · exact spares ⟨replied, isOpen⟩

theorem storing_keeps_iff (keeps : replies.KeepsReplies) (pass : Pass) (room : SelectedRoom)
    (held : RoomInstance) (uuid : Uuid) :
    (runOn replies (.storing pass room held) (.done uuid)).1.KeepsReplies ↔
      ¬replies.ContactSpokeLast room.pk := by
  have flagged : ∀ pk, (InactivityProgress.storeClosing replies.table pass room held
      (.done uuid)).1.Flagged pk ↔ (replies.table.store room.pk held).Flagged pk :=
    fun _ => Iff.rfl
  by_cases onContact : replies.ContactSpokeLast room.pk
  · have recorded : (runOn replies (.storing pass room held) (.done uuid)).1.closedOnContact =
        room.pk :: replies.closedOnContact := by
      simp [runOn, RepliesTable.record, RepliesTable.withTable, onContact]
    refine ⟨fun keepsAfter => ?_, fun spares => absurd onContact spares⟩
    have noneClosed := keepsAfter.noneClosed
    rw [recorded] at noneClosed
    cases noneClosed
  · have recorded : (replies.record (.storing pass room held) (.done uuid)) = replies := by
      rw [RepliesTable.record, if_neg onContact]
    refine ⟨fun _ => onContact, fun _ => ?_⟩
    rw [runOn, recorded]
    rw [RepliesTable.keepsReplies_iff] at keeps ⊢
    refine ⟨?_, keeps.2⟩
    intro pk replied isFlagged
    rcases flagged_mapRoom_iff.mp ((flagged pk).mp isFlagged) with ⟨rfl, _⟩ | ⟨_, before⟩
    · rcases replied with ⟨last, isLast, fromContact, _⟩
      exact onContact ⟨last, isLast, fromContact⟩
    · exact keeps.1 pk replied before

theorem saving_keeps_iff (keeps : replies.KeepsReplies) (pk : Uuid) (room : RoomInstance) :
    (runOn replies (.saving pk room) outcome).1.KeepsReplies ↔
      ¬(replies.Replied pk ∧ (replies.table.rooms.lookup pk).isSome ∧
        room.values .isInactive = true) := by
  have table : (runOn replies (.saving pk room) outcome).1 =
      replies.withTable (replies.table.store pk room) := rfl
  rw [table]
  constructor
  · intro keepsAfter stale
    rw [RepliesTable.keepsReplies_iff] at keepsAfter
    have stored : ∃ columns, replies.table.rooms.lookup pk = some columns :=
      Option.isSome_iff_exists.mp stale.2.1
    exact keepsAfter.1 pk stale.1 (flagged_store_iff.mpr ⟨stored, stale.2.2⟩)
  · intro spares
    rw [RepliesTable.keepsReplies_iff] at keeps ⊢
    refine ⟨?_, keeps.2⟩
    intro other replied isFlagged
    by_cases same : other = pk
    · subst same
      rcases flagged_store_iff.mp isFlagged with ⟨stored, isInactive⟩
      exact spares ⟨replied, Option.isSome_iff_exists.mpr stored, isInactive⟩
    · rcases flagged_mapRoom_iff.mp isFlagged with ⟨impossible, _⟩ | ⟨_, before⟩
      · exact same impossible
      · exact keeps.1 other replied before

theorem runOn_keeps (keeps : replies.KeepsReplies) {progress : InactivityProgress}
    (spares : ¬progress.MayFlag) : (runOn replies progress outcome).1.KeepsReplies := by
  have recorded : replies.record progress outcome = replies := by
    cases progress with
    | storing pass room held => exact absurd trivial spares
    | _ => rfl
  rw [runOn, recorded]
  exact keeps.of_raisesNoFlag (InactivityProgress.advance_raisesNoFlag spares outcome)
    (fun _ => id) rfl

theorem advance_keeps_iff (keeps : replies.KeepsReplies) :
    (progress.advance replies outcome).1.KeepsReplies ↔ progress.KeepsReply replies outcome := by
  cases progress with
  | storingMessage pk room message contact incrementUnread =>
      exact ⟨fun _ => trivial,
        fun _ => storeMessage_keeps keeps pk room message contact incrementUnread⟩
  | received pk room message contact incrementUnread =>
      exact receive_keeps_iff keeps pk room message contact incrementUnread
  | resetting pk message => exact resetting_keeps_iff keeps pk message
  | running progress =>
      cases progress with
      | flagging pass room =>
          cases outcome with
          | done uuid => exact flagging_keeps_iff keeps pass room uuid
          | failed => exact ⟨fun _ => trivial, fun _ => keeps⟩
      | storing pass room held =>
          cases outcome with
          | done uuid => exact storing_keeps_iff keeps pass room held uuid
          | failed => exact ⟨fun _ => trivial, fun _ => keeps⟩
      | saving pk room => exact saving_keeps_iff keeps pk room
      | receiving pk message contact incrementUnread => exact ⟨fun _ => trivial, fun _ => keeps⟩
      | _ => exact ⟨fun _ => by cases outcome <;> trivial, fun _ => runOn_keeps keeps id⟩

end RepliesProgress

namespace RepliesTable

open InactivityTable

theorem surround_raisesNoFlag {table after : InactivityTable} {event : InactivitySurrounding}
    (surrounded : table.surround event = some after) : RaisesNoFlag table after := by
  cases event with
  | tick elapsed =>
      cases surrounded
      exact .of_rooms rfl
  | configure sector config =>
      cases surrounded
      exact .of_rooms rfl
  | createRoom pk writes =>
      rw [InactivityTable.surround] at surrounded
      split at surrounded
      · cases surrounded
      · cases surrounded
        intro other flagged
        rcases flagged with ⟨columns, found, isInactive⟩
        rcases Table.lookup_insert_iff.mp found with ⟨_, rfl⟩ | ⟨_, before⟩
        · have unassigned : (RoomRecord.defaults table.now).assign writes.assignments
              .isInactive = false := Record.assign_of_not_mem writes.spared
          exact absurd (unassigned.symm.trans isInactive) (by decide)
        · exact ⟨columns, before, isInactive⟩
  | agentMessage pk message user =>
      cases surrounded
      exact raisesNoFlag_update fun impossible => by cases impossible

theorem surround_keeps {replies after : RepliesTable} {event : InactivitySurrounding}
    (keeps : replies.KeepsReplies) (surrounded : replies.surround event = some after) :
    after.KeepsReplies := by
  rcases Option.map_eq_some_iff.mp surrounded with ⟨table, isTable, rfl⟩
  have flags := surround_raisesNoFlag isTable
  have same : (replies.withTable table).KeepsReplies :=
    keeps.of_raisesNoFlag flags (fun _ => id) rfl
  cases event with
  | agentMessage pk message user =>
      exact same.of_raisesNoFlag (.of_rooms (by rw [speak_table]))
        (fun _ => replied_of_speak fun impossible => by cases impossible)
        (speak_closedOnContact _)
  | _ => exact same

theorem initial_keepsReplies (now : Nat) (sectorOf : Uuid → Option Uuid)
    (config : Uuid → InactivityConfig) : (initial now sectorOf config).KeepsReplies where
  active := fun _ member => by cases member
  noneClosed := rfl

end RepliesTable

def repliesOutline (Pid : Type) : Outline repliesProgram
    (Machine.anyStep : RepliesPool Pid → RepliesEvent Pid → Prop) where
  Invariant := fun _ => True
  Assertion := fun _ _ => True
  Guarantee := fun _ _ => True
  enter := fun _ => trivial
  advance := fun _ _ _ _ _ => ⟨trivial, trivial, fun _ _ => trivial⟩
  surround := fun _ _ _ => ⟨trivial, trivial⟩
  stable := fun _ _ => trivial

/-- In every run, no room is left inactive or closed by a sweep after its contact has
replied, exactly as long as each statement respects the replies before it. -/
theorem replies_kept_iff {Pid : Type} [DecidableEq Pid] (now : Nat)
    (sectorOf : Uuid → Option Uuid) (config : Uuid → InactivityConfig)
    (events : List (RepliesEvent Pid)) :
    repliesProgram.machine.Throughout (fun pool => pool.shared.KeepsReplies)
        (Pool.idle (.initial now sectorOf config)) events ↔
      repliesProgram.machine.AllSteps
        (fun pool event => pool.OwnStep
          (fun replies progress outcome => progress.KeepsReply replies outcome) event)
        (Pool.idle (.initial now sectorOf config)) events := by
  apply (repliesOutline Pid).throughout_iff ?_ ?_ trivial
    (RepliesTable.initial_keepsReplies now sectorOf config)
  · intro replies progress outcome after rest _ _ keeps advanced
    have effect : progress.advance replies outcome = (after, rest) := Option.some.inj advanced
    have afterIs : (progress.advance replies outcome).1 = after := by rw [effect]
    rw [← afterIs]
    exact RepliesProgress.advance_keeps_iff keeps
  · intro replies event after _ keeps surrounded
    exact RepliesTable.surround_keeps keeps surrounded

/-! ## A reply during the sweep -/

def contactReplies : LastMessage where
  uuid := 20
  text := some "Yes"
  medias := []
  createdOn := 700000000

/-- The agent writes, and 700 seconds later a sweep selects the room. While the warning
is sent, the contact replies. -/
def replyDuringSweep : List (RepliesEvent Party) :=
  [.surround (.createRoom 3 assignedRoom),
    .surround (.agentMessage 3 agentGreets (some "agent@example.com")),
    .surround (.tick 700000000),
    .start .router (.checkInactivityRooms oneSweep)] ++
  List.replicate 4 (.advance .router (.done 11)) ++
  [.start .request (.contactMessage 3 contactReplies (some 5) 1)] ++
  List.replicate 3 (.advance .request (.done 12)) ++
  [.advance .router (.done 11)]

theorem room_flagged_after_reply :
    ¬ ∀ (now : Nat) (sectorOf : Uuid → Option Uuid) (config : Uuid → InactivityConfig)
      (final : RepliesPool Party),
      repliesProgram.machine.Reaches Machine.anyStep
        (Pool.idle (.initial now sectorOf config)) final →
      (∀ room ∈ final.shared.table.rooms.entries, final.shared.Replied room.1 →
        room.2 .isInactive = false) ∧ final.shared.closedOnContact = [] := by
  intro keeps
  have flags : (repliesProgram.machine.run
      (Pool.idle (.initial 0 (fun _ => some 1) fun _ => tenMinutesAndOne)) replyDuringSweep).map
      (fun pool => decide pool.shared.KeepsReplies) = some false := by
    decide
  rcases Option.map_eq_some_iff.mp flags with ⟨final, ran, broken⟩
  have both := keeps 0 _ _ final (.of_run ran)
  exact of_decide_eq_false broken ⟨both.1, both.2⟩

end ChatsEngine.Rooms
