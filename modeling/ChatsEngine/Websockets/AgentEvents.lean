import ChatsEngine.Core.Types
import ChatsEngine.Foundation.JsonRoundTrip
import ChatsEngine.Foundation.Table

/-! # What an agent's connection sends to the client

`AgentRoomConsumer.notify` passes the events of the channel layer on to the client. To the
content of an event on a room it adds whether the contact has a history. A call of `send_json`
only makes a coroutine, which sends nothing unless it is awaited. -/

namespace ChatsEngine.Websockets.AgentEvents

open JsonText

/-! ## Tables -/

structure HistoryContact where
  externalId : Option String
  email : Option String
  document : Option String
deriving DecidableEq, Repr

structure HistoryRoom where
  user : Option UserEmail
  contact : Option Uuid
  queue : Option Uuid
  isActive : Bool
  endedAt : Option Instant
deriving DecidableEq, Repr

/-- What the configuration of a project says about histories. -/
structure HistoryProject where
  historyContactsBlocklist : List String
  agentsCanSeeQueueHistory : Bool
deriving DecidableEq, Repr

structure HistoryPermission where
  user : UserEmail
  project : Uuid
  isDeleted : Bool
  isAdmin : Bool
  queueIds : List Uuid
deriving DecidableEq, Repr

structure EventTables where
  rooms : Table Uuid HistoryRoom
  contacts : Table Uuid HistoryContact
  /-- The project of the queue's sector. -/
  queues : Table Uuid Uuid
  projects : Table Uuid HistoryProject
  permissions : List HistoryPermission
  /-- The queries on the tables do not raise. -/
  answers : Bool

structure EventRuntime (Real : Type) where
  floats : FloatFormat Real
  /-- The uuid that a value stands for in a query, which may raise. -/
  toUuid : Value Real → Option Uuid
  /-- `UPPER` of the database, for `iexact`. -/
  upper : String → String

/-! ## The history of a contact -/

namespace EventTables

variable (tables : EventTables) (upper : String → String)

/-- Neither `None` nor empty. -/
def filled (value : Option String) : Option String := value.filter (· ≠ "")

/-- `get_related_contact_ids` -/
def RelatedContact (uuid : Uuid) (contact : HistoryContact) (other : Uuid)
    (otherContact : HistoryContact) : Prop :=
  other = uuid ∨
    (∃ email ∈ filled contact.email, otherContact.email.map upper = some (upper email)) ∨
    ∃ document ∈ filled contact.document, otherContact.document = some document

instance (uuid : Uuid) (contact : HistoryContact) (other : Uuid)
    (otherContact : HistoryContact) :
    Decidable (RelatedContact upper uuid contact other otherContact) :=
  inferInstanceAs (Decidable (_ ∨ (∃ _ ∈ _, _) ∨ ∃ _ ∈ _, _))

/-- `filter_history_rooms_queryset_by_project_permission`, on a room of a related contact. -/
def isVisible (permission : HistoryPermission) (project : HistoryProject)
    (contact : HistoryContact) (room : HistoryRoom) : Bool :=
  !(contact.externalId.any (· ∈ project.historyContactsBlocklist)) &&
    room.queue.bind tables.queues.lookup = some permission.project &&
    (permission.isAdmin || room.user = some permission.user ||
      project.agentsCanSeeQueueHistory && room.queue.any (· ∈ permission.queueIds))

/-- A closed room of a related contact that the permission lets the agent see. -/
def isHistory (permission : HistoryPermission) (project : HistoryProject) (uuid : Uuid)
    (contact : HistoryContact) (room : HistoryRoom) : Bool :=
  !room.isActive && room.endedAt.isSome &&
    room.contact.any fun other =>
      (tables.contacts.lookup other).any fun otherContact =>
        RelatedContact upper uuid contact other otherContact &&
          tables.isVisible permission project otherContact room

/-- `get_history_rooms_queryset_by_contact(contact, user, project).exists()` -/
def historyExists (user : UserEmail) (project : Uuid) (projectRow : HistoryProject)
    (uuid : Uuid) (contact : HistoryContact) : Bool :=
  match tables.permissions.find? fun permission =>
      permission.user = user && permission.project = project && !permission.isDeleted with
  | none => false
  | some permission =>
      tables.rooms.entries.any fun entry =>
        tables.isHistory upper permission projectRow uuid contact entry.2

end EventTables

section Consumer

variable {Real : Type} (runtime : EventRuntime Real) (tables : EventTables) (user : UserEmail)

/-- `get_has_history_by_room_uuid`, which raises without a room, its contact or its queue. -/
def getHasHistoryByRoomUuid (roomUuid : Value Real) : Option Bool := do
  let uuid ← runtime.toUuid roomUuid
  let room ← if tables.answers then tables.rooms.lookup uuid else none
  let project ← room.queue.bind tables.queues.lookup
  let projectRow ← tables.projects.lookup project
  let contact ← room.contact
  let contactRow ← tables.contacts.lookup contact
  return tables.historyExists runtime.upper user project projectRow contact contactRow

/-! ## Events -/

/-- An event of the channel layer is a dictionary. -/
structure Event (Real : Type) where
  fields : Fields Real
  wellFormed : (Value.object fields).WellFormed

namespace Event

variable (event : Event Real)

def action : Option (Value Real) := event.fields.get (text "action")

def content : Option (Value Real) := event.fields.get (text "content")

/-- `event["content"] = content` -/
def setContent (content : Text) : Event Real where
  fields := event.fields.set (text "content") (.string content)
  wellFormed := wellFormed_set event.wellFormed trivial

/-- `event.get("action") == action` -/
def hasAction (action : Text) : Bool :=
  match event.action with
  | some (.string own) => own = action
  | _ => false

/-- Part of the protocol by which connections look for others of the same agent. -/
def isConnectionCheck : Bool :=
  event.hasAction (text "connection_check") || event.hasAction (text "connection_check_response")

end Event

/-- `text in value`, which raises for a value without members. -/
def containsText (needle : Text) : Option (Value Real) → Option Bool
  | some (.string value) => some (needle <:+: value)
  | some (.array values) =>
      some (values.any fun
        | .string value => value = needle
        | _ => false)
  | some (.object fields) => some (fields.any fun field => field.1 = needle)
  | _ => none

/-! ## The handler -/

inductive NotifyResult (Real : Type)
  /-- `await self.send_json(event)` -/
  | sends (event : Event Real)
  /-- `return self.send_json(event)`, a coroutine that is not awaited. -/
  | returnsCoroutine
  /-- Nothing for the client. -/
  | checksConnection
  | raises

/-- The frames that the client is sent. `send_json` encodes the event with `json.dumps`. -/
def NotifyResult.frames : NotifyResult Real → List Text
  | .sends event => [dumps runtime.floats none false (.object event.fields)]
  | _ => []

/-- The content, which is loaded if it is a text, and empty if there is none. -/
def loadContent (content : Option (Value Real)) : Option (Value Real) :=
  match content with
  | none => some (.object [])
  | some (.string content) => loads runtime.floats content
  | some content => some content

/-- `json.dumps(content, sort_keys=True, indent=1, cls=DjangoJSONEncoder)` after the history has
been added. -/
def enrichedContent (content : Fields Real) (hasHistory : Bool) : Text :=
  dumps runtime.floats (some 1) true
    (.object (Fields.set (text "has_history") (.bool hasHistory) content))

def notifyRoom (event : Event Real) : NotifyResult Real :=
  match loadContent runtime event.content with
  | some (.object content) =>
      match Fields.get content (text "uuid") with
      | none => .returnsCoroutine
      | some roomUuid =>
          if roomUuid.isTruthy runtime.floats then
            match getHasHistoryByRoomUuid runtime tables user roomUuid with
            | some hasHistory =>
                .sends (event.setContent (enrichedContent runtime content hasHistory))
            | none => .returnsCoroutine
          else .returnsCoroutine
  -- `json.loads` or `content.get` raises
  | _ => .returnsCoroutine

def notify (event : Event Real) : NotifyResult Real :=
  if event.isConnectionCheck then
    match event.content with
    | some (.object _) => .checksConnection
    | _ => .raises
  else if event.hasAction (text "rooms.inactivity") then .sends event
  else
    match containsText (text "rooms.") event.action with
    | some true => notifyRoom runtime tables user event
    | some false => .sends event
    | none => .raises

end Consumer

/-! ## What the client reads -/

section Delivery

variable {Real : Type} (runtime : EventRuntime Real) (tables : EventTables) (user : UserEmail)

/-- The content that the client reads is that of the event with the history added, whichever
order the keys are in. -/
def Enriched (content written : Option (Value Real)) : Prop :=
  ∃ fields roomUuid hasHistory, ∃ own : Text, ∃ read : Fields Real,
    loadContent runtime content = some (.object fields) ∧
    Fields.get fields (text "uuid") = some roomUuid ∧
    getHasHistoryByRoomUuid runtime tables user roomUuid = some hasHistory ∧
    written = some (.string own) ∧ loads runtime.floats own = some (.object read) ∧
    Same (.object read) (.object (Fields.set (text "has_history") (.bool hasHistory) fields))

/-- The client is sent one frame, with the action of the event and with its content, to which
the history may have been added. -/
def Delivers (event : Event Real) (frames : List Text) : Prop :=
  ∃ frame, ∃ read : Fields Real, frames = [frame] ∧
    loads runtime.floats frame = some (.object read) ∧
    Fields.get read (text "action") = event.action ∧
    (Fields.get read (text "content") = event.content ∨
      Enriched runtime tables user event.content (Fields.get read (text "content")))

def Enrichable (event : Event Real) : Prop :=
  ∃ fields roomUuid hasHistory, loadContent runtime event.content = some (.object fields) ∧
    Fields.get fields (text "uuid") = some roomUuid ∧ roomUuid.isTruthy runtime.floats = true ∧
    getHasHistoryByRoomUuid runtime tables user roomUuid = some hasHistory

/-- The action does not name an event on rooms, except `rooms.inactivity`, or the history can be
added. -/
def Awaited (event : Event Real) : Prop :=
  event.hasAction (text "rooms.inactivity") = true ∨
    containsText (text "rooms.") event.action = some false ∨
    containsText (text "rooms.") event.action = some true ∧ Enrichable runtime tables user event

variable {runtime tables user}

theorem loads_frame (event : Event Real) :
    loads runtime.floats (dumps runtime.floats none false (.object event.fields)) =
      some (.object event.fields) :=
  loads_dumps runtime.floats none false event.wellFormed

theorem delivers_sends (event : Event Real) :
    Delivers runtime tables user event (NotifyResult.frames runtime (.sends event)) :=
  ⟨_, event.fields, rfl, loads_frame event, rfl, .inl rfl⟩

theorem not_delivers_nil (event : Event Real) : ¬Delivers runtime tables user event [] := by
  intro given
  rcases given with ⟨frame, read, sent, _⟩
  cases sent

theorem wellFormed_loadContent {event : Event Real} {value : Value Real}
    (loaded : loadContent runtime event.content = some value) : value.WellFormed := by
  unfold loadContent at loaded
  split at loaded
  · cases loaded
    exact ⟨List.nodup_nil, trivial⟩
  · exact wellFormed_of_loads loaded
  · next content present =>
      cases loaded
      rcases Option.map_eq_some_iff.mp present with ⟨field, found, rfl⟩
      exact (wellFormed_object_iff.mp event.wellFormed).2 field (List.mem_of_find?_eq_some found)

theorem loads_enrichedContent {fields : Fields Real} (hasHistory : Bool)
    (wellFormed : (Value.object fields).WellFormed) :
    ∃ read : Fields Real,
      loads runtime.floats (enrichedContent runtime fields hasHistory) = some (.object read) ∧
      Same (.object read)
        (.object (Fields.set (text "has_history") (.bool hasHistory) fields)) :=
  ⟨_, loads_dumps runtime.floats (some 1) true (wellFormed_set wellFormed trivial),
    same_sorted (.object (Fields.set (text "has_history") (.bool hasHistory) fields))⟩

theorem delivers_enriched {event : Event Real} {fields : Fields Real} {roomUuid : Value Real}
    {hasHistory : Bool} (loaded : loadContent runtime event.content = some (.object fields))
    (hasUuid : Fields.get fields (text "uuid") = some roomUuid)
    (found : getHasHistoryByRoomUuid runtime tables user roomUuid = some hasHistory) :
    Delivers runtime tables user event
      (NotifyResult.frames runtime
        (.sends (event.setContent (enrichedContent runtime fields hasHistory)))) := by
  rcases loads_enrichedContent hasHistory (wellFormed_loadContent loaded) with
    ⟨read, readBack, same⟩
  have other : text "action" ≠ text "content" := by decide
  refine ⟨_, _, rfl, loads_frame _, Fields.get_set_of_ne other, .inr ?_⟩
  exact ⟨fields, roomUuid, hasHistory, _, read, loaded, hasUuid, found, Fields.get_set_self,
    readBack, same⟩

theorem notifyRoom_delivers_iff (event : Event Real) :
    Delivers runtime tables user event
        ((notifyRoom runtime tables user event).frames runtime) ↔
      Enrichable runtime tables user event := by
  constructor
  · intro delivers
    unfold notifyRoom at delivers
    split at delivers
    · next fields loaded =>
        split at delivers
        · exact absurd delivers (not_delivers_nil event)
        · next roomUuid hasUuid =>
            split at delivers
            · next truthy =>
                split at delivers
                · next hasHistory found =>
                    exact ⟨fields, roomUuid, hasHistory, loaded, hasUuid, truthy, found⟩
                · exact absurd delivers (not_delivers_nil event)
            · exact absurd delivers (not_delivers_nil event)
    · exact absurd delivers (not_delivers_nil event)
  · intro given
    rcases given with ⟨fields, roomUuid, hasHistory, loaded, hasUuid, truthy, found⟩
    have result : notifyRoom runtime tables user event =
        .sends (event.setContent (enrichedContent runtime fields hasHistory)) := by
      simp only [notifyRoom, loaded, hasUuid, truthy, if_true, found]
    rw [result]
    exact delivers_enriched loaded hasUuid found

/-- An event that is not part of the connection check reaches the client exactly when the
coroutine that sends it is awaited. -/
theorem notify_delivers_iff {event : Event Real} (notCheck : event.isConnectionCheck = false) :
    Delivers runtime tables user event ((notify runtime tables user event).frames runtime) ↔
      Awaited runtime tables user event := by
  rw [notify, if_neg (by simp [notCheck]), Awaited]
  by_cases inactivity : event.hasAction (text "rooms.inactivity") = true
  · rw [if_pos inactivity]
    exact iff_of_true (delivers_sends event) (.inl inactivity)
  · rw [if_neg inactivity]
    cases contains : containsText (text "rooms.") event.action with
    | none =>
        simp only [inactivity, reduceCtorEq, false_and, or_self, iff_false]
        exact not_delivers_nil event
    | some isRooms =>
        cases isRooms with
        | true => simpa [inactivity] using notifyRoom_delivers_iff event
        | false => exact iff_of_true (delivers_sends event) (.inr (.inl rfl))

end Delivery

/-! ## Events on rooms -/

/-- A runtime that takes the texts of 32 hexadecimal digits as uuids. -/
def hexRuntime : EventRuntime FloatLiteral where
  floats := .literal
  toUuid
    | .string digits =>
        if digits.length = 32 then
          (digits.mapM hexDigit).map fun values => Nat.ofDigits 16 values.reverse
        else none
    | _ => none
  upper := String.toUpper

def oneRoom : EventTables where
  rooms := AList.insert 1 ⟨some "ana@weni.ai", some 5, some 3, true, none⟩ ∅
  contacts := AList.insert 5 ⟨none, none, none⟩ ∅
  queues := AList.insert 3 7 ∅
  projects := AList.insert 7 ⟨[], true⟩ ∅
  permissions := [⟨"ana@weni.ai", 7, false, false, [3]⟩]
  answers := true

/-- `rooms.update` with a room as content, of which only the uuid is of interest. -/
def roomUpdate (room : Text) : Event FloatLiteral where
  fields :=
    [(text "type", .string (text "notify")), (text "action", .string (text "rooms.update")),
      (text "content", .string (dumps FloatFormat.literal none false
        (.object [(text "uuid", .string room)])))]
  wellFormed := by
    have keys : [text "type", text "action", text "content"].Nodup := by decide
    rw [wellFormed_object_iff]
    refine ⟨keys, ?_⟩
    intro field member
    simp only [List.mem_cons, List.not_mem_nil, or_false] at member
    rcases member with rfl | rfl | rfl <;> trivial

def missingRoomUpdate : Event FloatLiteral :=
  roomUpdate (text "00000000000000000000000000000004")

theorem missing_room_update_is_lost :
    missingRoomUpdate.isConnectionCheck = false ∧
      ¬Delivers hexRuntime oneRoom "ana@weni.ai" missingRoomUpdate
        ((notify hexRuntime oneRoom "ana@weni.ai" missingRoomUpdate).frames hexRuntime) := by
  refine ⟨by decide +kernel, ?_⟩
  have noFrame : (notify hexRuntime oneRoom "ana@weni.ai" missingRoomUpdate).frames
      hexRuntime = [] := by
    decide +kernel
  rw [noFrame]
  exact not_delivers_nil _

def existingRoomUpdate : Event FloatLiteral :=
  roomUpdate (text "00000000000000000000000000000001")

theorem existing_room_update_delivers_iff :
    Delivers hexRuntime oneRoom "ana@weni.ai" existingRoomUpdate
        ((notify hexRuntime oneRoom "ana@weni.ai" existingRoomUpdate).frames hexRuntime) ↔
      Awaited hexRuntime oneRoom "ana@weni.ai" existingRoomUpdate :=
  notify_delivers_iff (by decide +kernel)

example : ((notify hexRuntime oneRoom "ana@weni.ai" existingRoomUpdate).frames
    hexRuntime).length = 1 := by
  decide +kernel

end ChatsEngine.Websockets.AgentEvents
