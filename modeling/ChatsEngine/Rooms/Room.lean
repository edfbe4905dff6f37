import ChatsEngine.Core.Types
import ChatsEngine.Foundation.Record

/-! # Rooms

The columns of the `Room` table, the instances that requests and tasks hold in
memory, and what `Room.save` does to an instance before it is stored. -/

namespace ChatsEngine.Rooms

structure LastMessageMedia where
  contentType : String
  url : String
deriving DecidableEq, Repr

inductive RoomColumn
  | user
  | contact
  | queue
  | customFields
  | urn
  | projectUuid
  | ticketUuid
  | callbackUrl
  | endedAt
  | endedBy
  | closedBy
  | isActive
  | isWaiting
  | transferHistory
  | fullTransferHistory
  | protocol
  | serviceChat
  | firstUserAssignedAt
  | userAssignedAt
  | addedToQueueAt
  | unreadMessagesCount
  | lastUnreadMessageAt
  | lastInteraction
  | lastMessage
  | lastMessageText
  | lastMessageUser
  | lastMessageContact
  | lastMessageMedia
  | automaticMessageSentAt
  | isInactive
  | automaticClosed
  | config
  | createdOn
  | modifiedOn
deriving DecidableEq, Repr

@[reducible] def RoomColumn.Value : RoomColumn → Type
  | .user | .lastMessageUser | .closedBy => Option UserEmail
  | .contact | .queue | .ticketUuid | .lastMessage | .lastMessageContact => Option Uuid
  | .customFields | .transferHistory | .config => Option Json
  | .urn | .projectUuid | .callbackUrl | .endedBy | .protocol | .serviceChat
  | .lastMessageText => Option String
  | .endedAt | .firstUserAssignedAt | .userAssignedAt | .addedToQueueAt
  | .lastUnreadMessageAt | .lastInteraction | .automaticMessageSentAt => Option Instant
  | .isActive | .isWaiting | .isInactive | .automaticClosed => Bool
  | .fullTransferHistory => List Json
  | .unreadMessagesCount => Int
  | .lastMessageMedia => List LastMessageMedia
  | .createdOn | .modifiedOn => Instant

abbrev RoomRecord := Record RoomColumn.Value

abbrev RoomAssignment := Assignment RoomColumn.Value

def RoomRecord.defaults (now : Instant) : RoomRecord
  | .user | .lastMessageUser | .closedBy => none
  | .contact | .queue | .ticketUuid | .lastMessage | .lastMessageContact => none
  | .customFields | .transferHistory | .config => none
  | .callbackUrl | .endedBy => none
  | .urn | .projectUuid | .protocol | .serviceChat | .lastMessageText => some ""
  | .endedAt | .firstUserAssignedAt | .userAssignedAt | .addedToQueueAt
  | .lastUnreadMessageAt | .lastInteraction | .automaticMessageSentAt => none
  | .isActive => true
  | .isWaiting | .isInactive | .automaticClosed => false
  | .fullTransferHistory => []
  | .unreadMessagesCount => 0
  | .lastMessageMedia => []
  | .createdOn | .modifiedOn => now

/-- A `Room` in memory. `tracked` is the user with which the field tracker
compares, the one of the last load or save. -/
structure RoomInstance where
  values : RoomRecord
  adding : Bool
  tracked : Option UserEmail

namespace RoomInstance

def load (row : RoomRecord) : RoomInstance where
  values := row
  adding := false
  tracked := row .user

/-- `Room(**fields)`, not yet saved. -/
def create (values : RoomRecord) : RoomInstance where
  values := values
  adding := true
  tracked := values .user

def assign (room : RoomInstance) (assignments : List RoomAssignment) : RoomInstance :=
  { room with values := room.values.assign assignments }

def userHasChanged (room : RoomInstance) : Bool :=
  room.values .user ≠ room.tracked

/-- The assignments with which `Room.save` stamps the instance, in the order in
which they are made. -/
def stamps (now : Instant) (room : RoomInstance) : List RoomAssignment :=
  let userAssigned :=
    (room.values .user).isSome && (room.values .userAssignedAt).isNone || room.userHasChanged
  let userAssignedAt := if userAssigned then some now else room.values .userAssignedAt
  (if room.adding then [⟨.addedToQueueAt, some now⟩] else []) ++
  (if userAssigned then [⟨.userAssignedAt, userAssignedAt⟩] else []) ++
  (if room.values .isActive && (room.values .user).isSome &&
      (room.values .firstUserAssignedAt).isNone then
    [⟨.firstUserAssignedAt, some (userAssignedAt.getD now)⟩]
  else []) ++
  (if room.userHasChanged && (room.values .user).isNone then
    [⟨.addedToQueueAt, some now⟩]
  else [])

/-- All that `Room.save` assigns before the row is written: the stamps, and the
date of modification that `auto_now` gives the instance when it is stored. -/
def saveAssignments (now : Instant) (updateFields : Option (List RoomColumn))
    (room : RoomInstance) : List RoomAssignment :=
  room.stamps now ++
  (if Record.Stores updateFields RoomColumn.modifiedOn then [⟨.modifiedOn, now⟩] else [])

/-- The columns that `Room.save` itself assigns. -/
def stampedColumns : List RoomColumn :=
  [.addedToQueueAt, .userAssignedAt, .firstUserAssignedAt, .modifiedOn]

theorem saveAssignments_columns {now : Instant} {updateFields : Option (List RoomColumn)}
    {room : RoomInstance} {assignment : RoomAssignment}
    (member : assignment ∈ room.saveAssignments now updateFields) :
    assignment.1 ∈ stampedColumns := by
  simp only [saveAssignments, stamps, List.mem_append] at member
  rcases member with (((member | member) | member) | member) | member <;>
    · split at member
      · rw [List.mem_singleton] at member
        subst member
        simp [stampedColumns]
      · cases member

theorem saveAssignments_spare {column : RoomColumn} (spared : column ∉ stampedColumns)
    (now : Instant) (updateFields : Option (List RoomColumn)) (room : RoomInstance) :
    (room.assign (room.saveAssignments now updateFields)).values column =
      room.values column := by
  apply Record.assign_of_not_mem
  intro member
  rcases List.mem_map.mp member with ⟨assignment, assigned, rfl⟩
  exact spared (saveAssignments_columns assigned)

theorem saveAssignments_addedToQueueAt (now : Instant)
    (updateFields : Option (List RoomColumn)) (room : RoomInstance) :
    (room.assign (room.saveAssignments now updateFields)).values .addedToQueueAt =
      if room.userHasChanged && (room.values .user).isNone then some now
      else if room.adding then some now
      else room.values .addedToQueueAt := by
  have modified : ∀ row : RoomRecord, row.assign
      (if Record.Stores updateFields RoomColumn.modifiedOn then [⟨.modifiedOn, now⟩] else [])
      .addedToQueueAt = row .addedToQueueAt := by
    intro row
    split
    · exact Record.assign_of_not_mem (by simp)
    · rfl
  rw [assign, saveAssignments, stamps]
  simp only [Record.assign_append]
  rw [modified, Record.assign_if_self, Record.assign_if_other, Record.assign_if_other,
    Record.assign_if_self]
  · decide
  · decide

/-- The instance after `super().save()`. The tracker looks again at the user
when that column has been stored. -/
def afterStore (updateFields : Option (List RoomColumn)) (room : RoomInstance) :
    RoomInstance :=
  { room with
    adding := false
    tracked :=
      if Record.Stores updateFields RoomColumn.user then room.values .user
      else room.tracked }

/-- What `Room.close` assigns before it saves. -/
def closing (now : Instant) (endedBy : String) (closedBy : Option UserEmail) :
    List RoomAssignment :=
  [⟨.isActive, false⟩, ⟨.endedAt, some now⟩, ⟨.endedBy, some endedBy⟩, ⟨.closedBy, closedBy⟩]

end RoomInstance

/-- `Room.save` of an instance that was just loaded and assigned to. -/
def savedRow (now : Instant) (assignments : List RoomAssignment) (row : RoomRecord) :
    RoomRecord :=
  let room := (RoomInstance.load row).assign assignments
  (room.assign (room.saveAssignments now none)).values

variable {now : Instant} {assignments : List RoomAssignment} {row : RoomRecord}

theorem savedRow_spare {column : RoomColumn} (spared : column ∉ RoomInstance.stampedColumns) :
    savedRow now assignments row column = row.assign assignments column :=
  RoomInstance.saveAssignments_spare spared now none _

theorem savedRow_addedToQueueAt
    (spared : RoomColumn.addedToQueueAt ∉ assignments.map Sigma.fst) :
    savedRow now assignments row .addedToQueueAt =
      if row .user ≠ none ∧ row.assign assignments .user = none then some now
      else row .addedToQueueAt := by
  have stamped := RoomInstance.saveAssignments_addedToQueueAt now none
    ((RoomInstance.load row).assign assignments)
  rw [savedRow, stamped]
  have unassigned : ((RoomInstance.load row).assign assignments).values .addedToQueueAt =
      row .addedToQueueAt := Record.assign_of_not_mem spared
  rw [unassigned]
  by_cases loses : row .user ≠ none ∧ row.assign assignments .user = none
  · have changed : (((RoomInstance.load row).assign assignments).userHasChanged &&
        (((RoomInstance.load row).assign assignments).values .user).isNone) = true := by
      simp [RoomInstance.userHasChanged, RoomInstance.assign, RoomInstance.load, loses.2,
        Ne.symm loses.1]
    rw [if_pos changed, if_pos loses]
  · have kept : (((RoomInstance.load row).assign assignments).userHasChanged &&
        (((RoomInstance.load row).assign assignments).values .user).isNone) ≠ true := by
      intro changed
      simp only [RoomInstance.userHasChanged, RoomInstance.assign, RoomInstance.load,
        Bool.and_eq_true, Option.isNone_iff_eq_none] at changed
      apply loses
      refine ⟨?_, changed.2⟩
      rw [← changed.2]
      exact Ne.symm (of_decide_eq_true changed.1)
    rw [if_neg kept, if_neg loses]
    rfl

end ChatsEngine.Rooms
