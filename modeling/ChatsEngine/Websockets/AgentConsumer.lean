import ChatsEngine.Core.Types
import ChatsEngine.Foundation.Machine
import Mathlib.Logic.Function.Basic

/-! # The connection of an agent

`AgentRoomConsumer` joins the groups of the agent when the connection has been accepted, and
then handles one frame of the client after the other. The frames of `message_create` take
several statements, between which the tables may change. -/

namespace ChatsEngine.Websockets

/-! ## JSON -/

inductive JsonValue
  | null
  | bool (value : Bool)
  | int (value : Int)
  /-- A number with a fraction or an exponent, as it is printed. -/
  | float (text : String)
  | string (text : String)
  | array (values : List JsonValue)
  | object (fields : List (String × JsonValue))

namespace JsonValue

def get (fields : List (String × JsonValue)) (key : String) : Option JsonValue :=
  (fields.find? fun field => field.1 = key).map Prod.snd

/-- `bool(value)` -/
def isTruthy : JsonValue → Bool
  | null => false
  | bool value => value
  | int value => value ≠ 0
  | float text => text ≠ "0.0" ∧ text ≠ "-0.0"
  | string text => text ≠ ""
  | array values => !values.isEmpty
  | object fields => !fields.isEmpty

/-- `value == text` -/
def isString (text : String) : JsonValue → Bool
  | string other => other = text
  | _ => false

end JsonValue

/-! ## Surroundings -/

structure ConsumerRuntime where
  /-- `str` of a list or of a dictionary. -/
  reprContainer : JsonValue → String
  /-- `json.loads`, which may raise. -/
  loads : String → Option JsonValue
  /-- The uuid that a value stands for in a query, which may raise. -/
  toUuid : JsonValue → Option Uuid
  /-- Whether `group_add` takes the name. -/
  accepts : String → Bool

def ConsumerRuntime.str (runtime : ConsumerRuntime) : JsonValue → String
  | .null => "None"
  | .bool value => if value then "True" else "False"
  | .int value => toString value
  | .float text => text
  | .string text => text
  | container => runtime.reprContainer container

structure ConsumerAgent where
  email : UserEmail
  project : Uuid
  permission : String
  connectionId : String
deriving DecidableEq, Repr

namespace ConsumerAgent

def permissionGroup (agent : ConsumerAgent) : String :=
  "permission_" ++ agent.permission

/-- The groups of the agent's permission, and of the queues that it is authorised in. -/
def OwnGroup (agent : ConsumerAgent) (queues : List String) (group : String) : Prop :=
  group = agent.permissionGroup ∨ group ∈ queues.map ("queue_" ++ ·)

instance (agent : ConsumerAgent) (queues : List String) : DecidablePred (agent.OwnGroup queues) :=
  fun _ => inferInstanceAs (Decidable (_ ∨ _))

theorem ownGroup_queue_iff {agent : ConsumerAgent} {queues : List String} {queue : String} :
    agent.OwnGroup queues ("queue_" ++ queue) ↔ queue ∈ queues := by
  constructor
  · intro isOwn
    rcases isOwn with isPermission | isQueue
    · have chars := congrArg String.toList isPermission
      simp [permissionGroup, String.toList_append] at chars
    · rcases List.mem_map.mp isQueue with ⟨other, isOther, same⟩
      have chars := congrArg String.toList same
      rw [String.toList_append, String.toList_append, List.append_cancel_left_eq] at chars
      exact String.toList_injective chars ▸ isOther
  · intro isQueue
    exact .inr (List.mem_map_of_mem isQueue)

end ConsumerAgent

structure ConsumerRoom where
  user : Option UserEmail
  /-- The queue with its project. -/
  queue : Option (String × Uuid)
  isActive : Bool
  isWaiting : Bool
deriving DecidableEq, Repr

structure ConsumerTables where
  rooms : Uuid → Option ConsumerRoom
  /-- The permission of a user in a project. -/
  permissions : Uuid → UserEmail → Option String
  online : Uuid → UserEmail → Bool
  restrictsOfflineAgents : Uuid → Bool
  /-- `permission.queue_ids`, the texts of the uuids. -/
  queueIds : List String

/-! ## The connection -/

/-- The next statement of `message_create`. No statement reads `checked`, the user of the room
when it was checked. -/
inductive MessageCreateStage
  | claiming (content : List (String × JsonValue))
  | loadingRoom (content : List (String × JsonValue))
  | checkingStatus (room project : Uuid) (checked : Option UserEmail)
  | validating (room : Uuid) (checked : Option UserEmail)
  | saving (room : ConsumerRoom)
  | notifying (room : ConsumerRoom)
  /-- What is left of the transaction, and the answer. -/
  | finishing

/-- What was sent to a group, with the queues that the agent was authorised in by then. -/
structure SentMessage where
  group : String
  queues : List String
deriving DecidableEq, Repr

structure Connection where
  isOpen : Bool
  addedGroups : List String
  /-- The groups that the channel layer has the channel in. -/
  subscribed : List String
  sent : List SentMessage
  /-- The keys of the responses in the cache. -/
  responses : List String
  creating : Option MessageCreateStage
  tables : ConsumerTables

/-- How a statement of `message_create` ends, besides what the tables say. -/
inductive MessageCreateChoice
  | returns
  /-- Answered already, or with a `MessageCreateError`. -/
  | declines
deriving DecidableEq, Repr

inductive ConnectionEvent
  /-- The client sends a frame. -/
  | frame (payload : JsonValue)
  /-- The channel layer delivers a notification. -/
  | notification (event : JsonValue)
  | create (choice : MessageCreateChoice)
  /-- The connection is lost, or a statement raises. -/
  | drop
  | saveRoom (room : Uuid) (row : Option ConsumerRoom)
  | savePermission (project : Uuid) (user : UserEmail) (permission : Option String)
  | saveStatus (project : Uuid) (user : UserEmail) (isOnline : Bool)
  | saveProject (project : Uuid) (restrictsOfflineAgents : Bool)
  /-- The agent is given queues, or loses them. -/
  | authorize (queues : List String)

namespace Connection

variable (runtime : ConsumerRuntime) (agent : ConsumerAgent)

/-- An exception leaves the handler, which ends the connection. -/
def raised (connection : Connection) : Connection :=
  { connection with isOpen := false }

/-- `channel_layer.group_add` and `added_groups.append` -/
def addGroup (group : String) (connection : Connection) : Connection :=
  if runtime.accepts group then
    { connection with
      subscribed := group :: connection.subscribed
      addedGroups := connection.addedGroups ++ [group] }
  else connection.raised

/-- `added_groups.remove` and `channel_layer.group_discard` -/
def discardGroup (group : String) (connection : Connection) : Connection :=
  if group ∈ connection.addedGroups then
    { connection with
      addedGroups := connection.addedGroups.erase group
      subscribed := connection.subscribed.filter (· ≠ group) }
  else connection

def send (group : String) (connection : Connection) : Connection :=
  { connection with sent := ⟨group, connection.tables.queueIds⟩ :: connection.sent }

/-- The event that `join` and `exit` look at, which may be in the text of the `content`. -/
def loadEvent (fields : List (String × JsonValue)) : Option JsonValue :=
  match JsonValue.get fields "content" with
  | none => some (.object fields)
  | some content =>
      if content.isTruthy then
        match content with
        | .string text => runtime.loads text
        | _ => none
      else some (.object fields)

def namedGroup (event : JsonValue) : Option (JsonValue × String) :=
  match event with
  | .object fields =>
      (loadEvent runtime fields).bind fun
        | .object fields =>
            (JsonValue.get fields "name").bind fun name =>
              (JsonValue.get fields "id").map fun id =>
                (name, runtime.str name ++ "_" ++ runtime.str id)
        | _ => none
  | _ => none

def join (event : JsonValue) (connection : Connection) : Connection :=
  match namedGroup runtime event with
  | none => connection.raised
  | some (name, group) =>
      -- any other name is answered as deprecated
      if name.isString "permission" ∨ name.isString "queue" then
        connection.addGroup runtime group
      else connection

def exit (event : JsonValue) (connection : Connection) : Connection :=
  match namedGroup runtime event with
  | none => connection.raised
  | some (_, group) => connection.discardGroup group

def asksForAgent (content : List (String × JsonValue)) : Bool :=
  !((JsonValue.get content "connection_id").any (JsonValue.isString agent.connectionId)) ∧
    (JsonValue.get content "user_email").any (JsonValue.isString agent.email)

def notify (event : JsonValue) (connection : Connection) : Connection :=
  match event with
  | .object fields =>
      match JsonValue.get fields "action" with
      | some (.string "connection_check") =>
          match JsonValue.get fields "content" with
          | some (.object content) =>
              if asksForAgent agent content then connection.send agent.permissionGroup
              else connection
          | _ => connection.raised
      | some (.string "connection_check_response") =>
          match JsonValue.get fields "content" with
          | some (.object content) =>
              { connection with
                responses :=
                  runtime.str ((JsonValue.get content "connection_id").getD .null) ::
                    connection.responses }
          | _ => connection.raised
      -- the event is sent to the client
      | some (.string _) => connection
      | some (.array _) => connection
      | some (.object _) => connection
      -- `"rooms." in event.get("action")`
      | _ => connection.raised
  | _ => connection.raised

/-- The content of `message_create`, which is empty unless it is a dictionary. -/
def contentFields : JsonValue → List (String × JsonValue)
  | .object fields => fields
  | _ => []

/-- `message_create` up to its first statement. -/
def messageCreate (content : JsonValue) (connection : Connection) : Connection :=
  if (JsonValue.get (contentFields content) "request_id").any JsonValue.isTruthy then
    { connection with creating := some (.claiming (contentFields content)) }
  else connection

/-- `getattr(self, action)` for the `ALLOWED_METHODS`. -/
def callMethod (action : String) (content : JsonValue) (connection : Connection) : Connection :=
  match action with
  | "join" => connection.join runtime content
  | "exit" => connection.exit runtime content
  | "list_groups" => connection
  | "message_create" => connection.messageCreate content
  -- answered with `method_not_allowed`
  | _ => connection

def receiveJson (payload : JsonValue) (connection : Connection) : Connection :=
  match payload with
  | .object fields =>
      match JsonValue.get fields "type" with
      | some (.string "notify") =>
          match JsonValue.get fields "content" with
          | some content => connection.notify runtime agent content
          | none => connection.raised
      | some (.string "method") =>
          match JsonValue.get fields "action" with
          | some (.string action) =>
              connection.callMethod runtime action
                ((JsonValue.get fields "content").getD (.object []))
          -- not hashable
          | some (.array _) => connection.raised
          | some (.object _) => connection.raised
          | _ => connection
      | _ => connection
  | _ => connection.raised

/-! ## Creating a message -/

/-- What the next statement does, or `none` where it raises. -/
def createsNext (connection : Connection) : MessageCreateStage → Option (Option MessageCreateStage)
  | .claiming content => some (some (.loadingRoom content))
  | .loadingRoom content =>
      match JsonValue.get content "room" with
      | none => some none
      | some value =>
          if value.isTruthy then
            (runtime.toUuid value).map fun uuid =>
              (connection.tables.rooms uuid).bind fun room =>
                if room.user ≠ some agent.email then none
                else
                  match room.queue with
                  | none => some (.validating uuid room.user)
                  | some (_, project) =>
                      if connection.tables.restrictsOfflineAgents project then
                        some (.checkingStatus uuid project room.user)
                      else some (.validating uuid room.user)
          else some none
  | .checkingStatus room project checked =>
      some (if connection.tables.online project agent.email then some (.validating room checked)
        else none)
  | .validating room _ => some ((connection.tables.rooms room).map .saving)
  | .saving room =>
      some (if room.isWaiting = true ∨ room.isActive = false then none else some (.notifying room))
  | .notifying room =>
      -- `self.get_permission` and `self.queue.pk` need a queue
      if room.queue = none then none else some (some .finishing)
  | .finishing => some none

/-- The group of `base_notification`. -/
def notifiedGroup (tables : ConsumerTables) (room : ConsumerRoom) : Option String :=
  room.queue.bind fun queue =>
    match room.user with
    | some user => (tables.permissions queue.2 user).map ("permission_" ++ ·)
    | none => some ("queue_" ++ queue.1)

def notifies (connection : Connection) : MessageCreateStage → Option String
  | .notifying room => notifiedGroup connection.tables room
  | _ => none

def sends (connection : Connection) (stage : MessageCreateStage) : List SentMessage :=
  ((connection.notifies stage).map fun group => ⟨group, connection.tables.queueIds⟩).toList

def create (stage : MessageCreateStage) (choice : MessageCreateChoice) (connection : Connection) :
    Connection :=
  match choice with
  | .declines => { connection with creating := none }
  | .returns =>
      match connection.createsNext runtime agent stage with
      | none => connection.raised
      | some rest =>
          { connection with
            creating := rest
            sent := connection.sends stage ++ connection.sent }

/-! ## Steps -/

def step (connection : Connection) : ConnectionEvent → Option Connection
  | .frame payload =>
      if connection.isOpen ∧ connection.creating.isNone then
        some (connection.receiveJson runtime agent payload)
      else none
  | .notification event =>
      if connection.isOpen ∧ connection.creating.isNone then
        some (connection.notify runtime agent event)
      else none
  | .create choice =>
      if connection.isOpen then
        connection.creating.map fun stage => connection.create runtime agent stage choice
      else none
  | .drop => if connection.isOpen then some connection.raised else none
  | .saveRoom room row =>
      some { connection with
        tables.rooms := Function.update connection.tables.rooms room row }
  | .savePermission project user permission =>
      some { connection with
        tables.permissions := Function.update connection.tables.permissions project
          (Function.update (connection.tables.permissions project) user permission) }
  | .saveStatus project user isOnline =>
      some { connection with
        tables.online := Function.update connection.tables.online project
          (Function.update (connection.tables.online project) user isOnline) }
  | .saveProject project restrictsOfflineAgents =>
      some { connection with
        tables.restrictsOfflineAgents := Function.update connection.tables.restrictsOfflineAgents
          project restrictsOfflineAgents }
  | .authorize queues => some { connection with tables.queueIds := queues }

def accepted (tables : ConsumerTables) : Connection where
  isOpen := true
  addedGroups := []
  subscribed := []
  sent := []
  responses := []
  creating := none
  tables := tables

def loadQueues (queues : List String) (connection : Connection) : Connection :=
  queues.foldl
    (fun connection queue =>
      if connection.isOpen then connection.addGroup runtime ("queue_" ++ queue) else connection)
    connection

def loadUser (connection : Connection) : Connection :=
  if connection.isOpen then connection.addGroup runtime agent.permissionGroup else connection

/-- What `connect` does with a connection that it has accepted. -/
def connect (tables : ConsumerTables) : Connection :=
  ((accepted tables).loadQueues runtime tables.queueIds).loadUser runtime agent

end Connection

def agentConsumer (runtime : ConsumerRuntime) (agent : ConsumerAgent) :
    Machine Connection ConnectionEvent where
  step := Connection.step runtime agent

end ChatsEngine.Websockets
