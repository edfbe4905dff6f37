import ChatsEngine.Foundation.Pool
import ChatsEngine.Rooms.Room

/-! # Operations on one room

Requests and tasks load an instance of the room, assign to it, refresh it, and
save or close it. Any number of them run at the same time, interleaved at their
statements on the row. A statement inside a transaction stands here where the
transaction commits, which is when the others see it. In between, the
conversation updates the row through querysets. -/

namespace ChatsEngine.Rooms

structure LastMessage where
  uuid : Uuid
  text : Option String
  medias : List LastMessageMedia
  createdOn : Instant
deriving DecidableEq, Repr

/-- The updates of the row that go through a queryset, not through an instance. -/
inductive QuerysetUpdate
  | incrementUnreadMessagesCount (count : Int) (lastUnreadMessageAt : Instant)
  | clearUnreadMessagesCount
  | updateLastMessage (message : LastMessage) (user : Option UserEmail)
      (updateLastInteraction : Bool)
  | onNewMessage (message : LastMessage) (contact : Option Uuid) (incrementUnread : Int)
  | warnRoom
  | resetInactivity
deriving DecidableEq, Repr

namespace QuerysetUpdate

def Selects (row : RoomRecord) : QuerysetUpdate → Prop
  | .incrementUnreadMessagesCount _ lastUnreadMessageAt =>
      ∀ last ∈ row .lastUnreadMessageAt, last < lastUnreadMessageAt
  | .clearUnreadMessagesCount => True
  | .updateLastMessage _ _ _ => True
  | .onNewMessage message _ _ => ∀ last ∈ row .lastInteraction, last < message.createdOn
  | .warnRoom => row .isInactive = false ∧ row .isActive = true
  | .resetInactivity => row .isActive = true

instance (row : RoomRecord) (update : QuerysetUpdate) : Decidable (update.Selects row) := by
  unfold Selects
  split <;> infer_instance

def assignments (row : RoomRecord) (now : Instant) : QuerysetUpdate → List RoomAssignment
  | .incrementUnreadMessagesCount count _ =>
      [⟨.unreadMessagesCount, row .unreadMessagesCount + count⟩]
  | .clearUnreadMessagesCount =>
      [⟨.unreadMessagesCount, (0 : Int)⟩, ⟨.lastUnreadMessageAt, some now⟩]
  | .updateLastMessage message user updateLastInteraction =>
      [⟨.lastMessage, some message.uuid⟩, ⟨.lastMessageText, message.text⟩,
        ⟨.lastMessageUser, user⟩, ⟨.lastMessageContact, none⟩,
        ⟨.lastMessageMedia, message.medias⟩] ++
      if updateLastInteraction then [⟨.lastInteraction, some message.createdOn⟩] else []
  | .onNewMessage message contact incrementUnread =>
      [⟨.lastInteraction, some message.createdOn⟩, ⟨.lastMessage, some message.uuid⟩,
        ⟨.lastMessageText, message.text⟩, ⟨.lastMessageUser, none⟩,
        ⟨.lastMessageContact, contact⟩, ⟨.lastMessageMedia, message.medias⟩] ++
      if incrementUnread > 0 then
        [⟨.unreadMessagesCount, row .unreadMessagesCount + incrementUnread⟩]
      else []
  | .warnRoom => [⟨.isInactive, true⟩]
  | .resetInactivity => [⟨.isInactive, false⟩]

end QuerysetUpdate

inductive Command
  | assign (assignments : List RoomAssignment)
  | refresh
  | save (updateFields : Option (List RoomColumn))
  | close (endedBy : String) (closedBy : Option UserEmail)

/-- An instance that an operation holds, with the columns that the operation has
assigned since it was last loaded. -/
structure Held where
  room : RoomInstance
  assigned : List RoomColumn

namespace Held

def load (row : RoomRecord) : Held where
  room := .load row
  assigned := []

def assign (held : Held) (assignments : List RoomAssignment) : Held :=
  { held with
    room := held.room.assign assignments
    assigned := assignments.map Sigma.fst ++ held.assigned }

theorem assign_value_of_not_mem {held : Held} {assignments : List RoomAssignment}
    {column : RoomColumn} (notMember : column ∉ (held.assign assignments).assigned) :
    (held.assign assignments).room.values column = held.room.values column :=
  Record.assign_of_not_mem fun assigned => notMember (List.mem_append_left _ assigned)

theorem mem_assign {held : Held} {column : RoomColumn} (assignments : List RoomAssignment)
    (member : column ∈ held.assigned) : column ∈ (held.assign assignments).assigned :=
  List.mem_append_right _ member

/-- The instance as `Room.save` is about to store it. -/
def stamped (held : Held) (now : Instant) (updateFields : Option (List RoomColumn)) : Held :=
  held.assign (held.room.saveAssignments now updateFields)

end Held

inductive Progress
  | loading (commands : List Command)
  | holding (held : Held) (commands : List Command)
  /-- `Room.save` has found the stored row active and has not written it yet. -/
  | saving (held : Held) (updateFields : Option (List RoomColumn)) (commands : List Command)

/-- The value that the latest queryset update gave to each column, as long as no
save has meant to replace it. -/
abbrev Updated := Record fun column => Option (RoomColumn.Value column)

/-- The row, with a record of the queryset updates that it has seen. -/
structure RoomTable where
  now : Instant
  row : RoomRecord
  updated : Updated

namespace RoomTable

def initial (now : Instant) (row : RoomRecord) : RoomTable where
  now := now
  row := row
  updated := fun _ => none

/-- The columns that a save means to write: those assigned to the instance, and
those it names. -/
def Means (held : Held) (updateFields : Option (List RoomColumn)) (column : RoomColumn) :
    Prop :=
  column ∈ held.assigned ∨ updateFields ≠ none

instance (held : Held) (updateFields : Option (List RoomColumn)) (column : RoomColumn) :
    Decidable (Means held updateFields column) := by
  unfold Means
  infer_instance

/-- `super().save()`. -/
def store (table : RoomTable) (held : Held) (updateFields : Option (List RoomColumn)) :
    RoomTable :=
  { table with
    row := table.row.store held.room.values updateFields
    updated := fun column =>
      if Record.Stores updateFields column ∧ Means held updateFields column then none
      else table.updated column }

@[simp] theorem store_row (table : RoomTable) (held : Held)
    (updateFields : Option (List RoomColumn)) :
    (table.store held updateFields).row = table.row.store held.room.values updateFields := rfl

theorem store_updated (table : RoomTable) (held : Held)
    (updateFields : Option (List RoomColumn)) (column : RoomColumn) :
    (table.store held updateFields).updated column =
      if Record.Stores updateFields column ∧ Means held updateFields column then none
      else table.updated column := rfl

def update (table : RoomTable) (update : QuerysetUpdate) : RoomTable :=
  let assignments := update.assignments table.row table.now
  if update.Selects table.row then
    { table with
      row := table.row.assign assignments
      updated := table.updated.assign (assignments.map (Sigma.map id fun _ => some)) }
  else
    table

end RoomTable

inductive Surrounding
  | tick (elapsed : Nat)
  | update (update : QuerysetUpdate)

def surround (table : RoomTable) : Surrounding → Option RoomTable
  | .tick elapsed => some { table with now := table.now + elapsed }
  | .update update => some (table.update update)

def advance (table : RoomTable) : Progress → Unit → Option (RoomTable × Option Progress)
  | .loading commands, _ =>
      some (table, some (.holding (.load table.row) commands))
  | .holding _ [], _ => some (table, none)
  | .holding held (.assign assignments :: commands), _ =>
      some (table, some (.holding (held.assign assignments) commands))
  | .holding _ (.refresh :: commands), _ =>
      some (table, some (.holding (.load table.row) commands))
  | .holding held (.save updateFields :: commands), _ =>
      -- the guard "Closed rooms can't receive updates" ends the operation
      if table.row .isActive then some (table, some (.saving held updateFields commands))
      else some (table, none)
  | .holding held (.close endedBy closedBy :: commands), _ =>
      some (table, some (.holding
        (held.assign (RoomInstance.closing table.now endedBy closedBy))
        (.save none :: commands)))
  | .saving held updateFields commands, _ =>
      let stamped := held.stamped table.now updateFields
      some (table.store stamped updateFields,
        some (.holding { stamped with room := stamped.room.afterStore updateFields } commands))

theorem advance_cases {table next : RoomTable} {progress : Progress}
    {rest : Option Progress} (advanced : advance table progress () = some (next, rest)) :
    (next = table ∧ ∀ held updateFields commands,
      rest = some (.saving held updateFields commands) → table.row .isActive = true) ∨
    ∃ held updateFields commands, progress = .saving held updateFields commands ∧
      next = table.store (held.stamped table.now updateFields) updateFields ∧
      ∃ after, rest = some (.holding after commands) := by
  cases progress with
  | loading commands =>
      cases advanced
      exact .inl ⟨rfl, fun _ _ _ impossible => by cases impossible⟩
  | holding held commands =>
      left
      cases commands with
      | nil =>
          cases advanced
          exact ⟨rfl, fun _ _ _ impossible => by cases impossible⟩
      | cons command commands =>
          cases command with
          | save updateFields =>
              rw [advance] at advanced
              split at advanced
              · next isActive =>
                  cases advanced
                  exact ⟨rfl, fun _ _ _ _ => isActive⟩
              · cases advanced
                exact ⟨rfl, fun _ _ _ impossible => by cases impossible⟩
          | _ =>
              cases advanced
              exact ⟨rfl, fun _ _ _ impossible => by cases impossible⟩
  | saving held updateFields commands =>
      cases advanced
      exact .inr ⟨held, updateFields, commands, rfl, rfl, _, rfl⟩

/-- A task is what an operation does with the room after loading it. -/
def roomProgram : Program RoomTable Progress (List Command) Unit Surrounding where
  enter := .loading
  advance := advance
  surround := surround

abbrev RoomPool (Pid : Type) := Pool Pid RoomTable Progress

abbrev RoomEvent (Pid : Type) := PoolEvent Pid (List Command) Unit Surrounding

/-- One round of the loop in `QueueRouterService.route_rooms`. -/
def routeRoom (agent : UserEmail) : List Command :=
  [.refresh, .assign [⟨.user, some agent⟩], .save none]

/-- `InactivityService._close_room`. -/
def closeInactiveRoom (agent : Option UserEmail) : List Command :=
  [.refresh, .assign [⟨.automaticClosed, true⟩], .close "inactivity" agent]

/-- The close endpoint, which closes the instance as it was loaded. -/
def closeRoom (closedBy : Option UserEmail) : List Command :=
  [.close "agent" closedBy]

/-- Two operations that run at the same time. -/
inductive Party
  | router
  | request
deriving DecidableEq

instance : Fintype Party where
  elems := {.router, .request}
  complete := by
    intro party
    cases party <;> simp

end ChatsEngine.Rooms
