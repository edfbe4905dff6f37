import ChatsEngine.Archive.Messages
import ChatsEngine.Foundation.Pool

/-! # Automatic messages

Every assignment of a room to an agent schedules `send_automatic_message`, which polls for the
ticket, checks that nobody has written in the room yet, and creates the message in a
transaction. Executions are interleaved statement by statement. -/

namespace ChatsEngine.Sectors

open Archive (AutomaticMessageType)

/-! ## Tables -/

structure RoomMessage where
  uuid : Uuid
  user : Option UserEmail
  text : Option String
  createdOn : Instant
deriving DecidableEq, Repr

structure AutomaticMessage where
  message : Uuid
  automaticMessageType : AutomaticMessageType
deriving DecidableEq, Repr

structure AutomaticMessageRoom where
  ticketUuid : Option String
  queue : Option Uuid
  isActive : Bool
  automaticMessageSentAt : Option Instant
  /-- `last_message` and the columns that go with it. -/
  lastMessage : Option RoomMessage
  lastInteraction : Option Instant
deriving DecidableEq, Repr

structure AutomaticMessageSector where
  isAutomaticMessageActive : Bool
  automaticMessageText : Option String
deriving DecidableEq, Repr

structure AutomaticMessageTables where
  room : AutomaticMessageRoom
  users : Nat → Option UserEmail
  sectorOf : Uuid → Option Uuid
  sectors : Uuid → Option AutomaticMessageSector
  messages : List RoomMessage
  automaticMessages : List AutomaticMessage
  /-- For each execution that has created the message, the messages that there were before its
  checks. -/
  messagesBefore : List (List RoomMessage)

/-- `bool(text)` -/
def IsTruthy (text : Option String) : Prop :=
  ∃ content ∈ text, content ≠ ""

instance : DecidablePred IsTruthy :=
  fun text => inferInstanceAs (Decidable (∃ content ∈ text, content ≠ ""))

namespace AutomaticMessageTables

def opens (tables : AutomaticMessageTables) : Nat :=
  tables.automaticMessages.countP fun row => row.automaticMessageType = .automaticOpen

/-- `room.messages.filter(user__isnull=False).exists()` -/
def HasUserMessage (messages : List RoomMessage) : Prop :=
  ∃ message ∈ messages, message.user ≠ none

instance : DecidablePred HasUserMessage :=
  fun messages => inferInstanceAs (Decidable (∃ message ∈ messages, message.user ≠ none))

def commit (tables : AutomaticMessageTables) (message : RoomMessage)
    (before : List RoomMessage) : AutomaticMessageTables :=
  { tables with
    messages := message :: tables.messages
    automaticMessages := ⟨message.uuid, .automaticOpen⟩ :: tables.automaticMessages
    room :=
      { tables.room with
        automaticMessageSentAt := some message.createdOn
        lastMessage := if IsTruthy message.text then some message else tables.room.lastMessage
        lastInteraction :=
          if IsTruthy message.text then some message.createdOn else tables.room.lastInteraction }
    messagesBefore := before :: tables.messagesBefore }

end AutomaticMessageTables

/-! ## The task -/

structure AutomaticMessageArgs where
  message : String
  userId : Nat
  checkTicket : Bool
deriving DecidableEq, Repr

/-- The body of the answer to `get_ticket`. -/
inductive TicketBody
  /-- `response.json().get("results")` raises. -/
  | invalid
  /-- The length of the results, if there are any. -/
  | results (length : Option Nat)
deriving DecidableEq, Repr

structure TicketResponse where
  statusCode : Nat
  body : TicketBody
deriving DecidableEq, Repr

inductive AutomaticMessageChoice
  | returns
  | answers (response : TicketResponse)
  /-- What `is_24h_valid` computes. -/
  | validates (is24hValid : Bool)
  | inserts (uuid : Uuid) (createdOn : Instant)
  | raises
deriving DecidableEq, Repr

/-- The next statement. Those from `validating` to `committing` are in the transaction. -/
inductive AutomaticMessageStage
  | loadingRoom
  | loadingUser (room : AutomaticMessageRoom)
  | loadingQueue (room : AutomaticMessageRoom) (user : UserEmail)
  | loadingSector (room : AutomaticMessageRoom) (user : UserEmail) (sector : Uuid)
  | loadingProject (room : AutomaticMessageRoom) (user : UserEmail)
      (sector : AutomaticMessageSector)
  | gettingTicket (room : AutomaticMessageRoom) (user : UserEmail)
      (sector : AutomaticMessageSector) (attempts : Nat)
  | checkingAutomaticMessages (room : AutomaticMessageRoom) (user : UserEmail)
      (before : List RoomMessage)
  | checkingMessages (room : AutomaticMessageRoom) (user : UserEmail)
      (before : List RoomMessage) (opens : Nat)
  | validating (room : AutomaticMessageRoom) (user : UserEmail) (before : List RoomMessage)
      (opens : Nat)
  | insertingMessage (user : UserEmail) (before : List RoomMessage) (opens : Nat)
  | clearingCache (message : RoomMessage) (before : List RoomMessage) (opens : Nat)
  | insertingAutomaticMessage (message : RoomMessage) (before : List RoomMessage) (opens : Nat)
  | updatingRoom (message : RoomMessage) (before : List RoomMessage) (opens : Nat)
  | listingMedias (message : RoomMessage) (before : List RoomMessage) (opens : Nat)
  | updatingLastMessage (message : RoomMessage) (before : List RoomMessage) (opens : Nat)
  | committing (message : RoomMessage) (before : List RoomMessage) (opens : Nat)
  | notifying
deriving DecidableEq, Repr

/-- An execution. Its stage carries, besides the code's own variables, a record of the messages
that there were `before` its checks, and of how many automatic messages that open a room its
check has counted. -/
structure AutomaticMessageRun where
  args : AutomaticMessageArgs
  stage : AutomaticMessageStage
deriving DecidableEq, Repr

inductive AutomaticMessageEvent
  /-- An agent's message, or another one. -/
  | message (message : RoomMessage)
  /-- A message of the inactivity sweep. -/
  | silentMessage (message : RoomMessage) (automaticMessageType : AutomaticMessageType)
  | saveRoom (room : AutomaticMessageRoom)
  | saveQueue (queue sector : Uuid)
  | saveSector (sector : Uuid) (columns : AutomaticMessageSector)
deriving DecidableEq, Repr

namespace AutomaticMessageRun

open AutomaticMessageStage

abbrev Result := AutomaticMessageTables × Option AutomaticMessageStage

def checkSector (tables : AutomaticMessageTables) (room : AutomaticMessageRoom)
    (user : UserEmail) (sector : AutomaticMessageSector) : Option AutomaticMessageStage :=
  if sector.isAutomaticMessageActive = false ∨ ¬IsTruthy sector.automaticMessageText then none
  else some (checkingAutomaticMessages room user tables.messages)

def nextAttempt (room : AutomaticMessageRoom) (user : UserEmail)
    (sector : AutomaticMessageSector) : Nat → Option AutomaticMessageStage
  | 0 => none
  | attempts + 1 => some (gettingTicket room user sector attempts)

def answered (tables : AutomaticMessageTables) (room : AutomaticMessageRoom) (user : UserEmail)
    (sector : AutomaticMessageSector) (attempts : Nat) (response : TicketResponse) :
    Option AutomaticMessageStage :=
  if response.statusCode = 200 then
    match response.body with
    | .invalid => nextAttempt room user sector attempts
    | .results none => none
    | .results (some length) =>
        if 0 < length then checkSector tables room user sector
        else nextAttempt room user sector attempts
  else nextAttempt room user sector attempts

/-- A statement that returns. `retries` is `AUTOMATIC_MESSAGE_FLOWS_GET_TICKET_RETRIES`. -/
def returns (retries : Int) (args : AutomaticMessageArgs) (tables : AutomaticMessageTables) :
    AutomaticMessageStage → Option Result
  | loadingRoom => some (tables, some (loadingUser tables.room))
  | loadingUser room => some (tables, (tables.users args.userId).map (loadingQueue room))
  | loadingQueue room user =>
      some (tables, (room.queue.bind tables.sectorOf).map (loadingSector room user))
  | loadingSector room user sector =>
      some (tables, (tables.sectors sector).bind fun columns =>
        if IsTruthy room.ticketUuid ∧ args.checkTicket = true then
          some (loadingProject room user columns)
        else
          checkSector tables room user columns)
  | loadingProject room user sector =>
      some (tables, nextAttempt room user sector (retries + 1).toNat)
  | gettingTicket _ _ _ _ => none
  | checkingAutomaticMessages room user before =>
      some (tables,
        if 0 < tables.opens then none else some (checkingMessages room user before tables.opens))
  | checkingMessages room user before opens =>
      some (tables,
        if AutomaticMessageTables.HasUserMessage tables.messages then none
        else some (validating room user before opens))
  | validating _ _ _ _ => none
  | insertingMessage _ _ _ => none
  | clearingCache message before opens =>
      some (tables, some (insertingAutomaticMessage message before opens))
  | insertingAutomaticMessage message before opens =>
      some (tables, some (updatingRoom message before opens))
  | updatingRoom message before opens =>
      some (tables,
        if IsTruthy message.text then some (listingMedias message before opens)
        else some (committing message before opens))
  | listingMedias message before opens =>
      some (tables, some (updatingLastMessage message before opens))
  | updatingLastMessage message before opens =>
      some (tables, some (committing message before opens))
  | committing message before _ => some (tables.commit message before, some notifying)
  | notifying => some (tables, none)

/-- One statement. An exception ends the execution, inside the transaction or outside, and
discards what the transaction has written. -/
def execute (retries : Int) (args : AutomaticMessageArgs) (tables : AutomaticMessageTables)
    (stage : AutomaticMessageStage) : AutomaticMessageChoice → Option Result
  | .returns => returns retries args tables stage
  | .answers response =>
      match stage with
      | gettingTicket room user sector attempts =>
          some (tables, answered tables room user sector attempts response)
      | _ => none
  | .validates is24hValid =>
      match stage with
      | validating room user before opens =>
          some (tables,
            if room.isActive = false ∨ is24hValid = false then none
            else some (insertingMessage user before opens))
      | _ => none
  | .inserts uuid createdOn =>
      match stage with
      | insertingMessage user before opens =>
          some (tables, some (clearingCache
            { uuid, user := some user, text := some args.message, createdOn } before opens))
      | _ => none
  | .raises => some (tables, none)

end AutomaticMessageRun

namespace AutomaticMessageTables

def surround (tables : AutomaticMessageTables) :
    AutomaticMessageEvent → Option AutomaticMessageTables
  | .message message => some { tables with messages := message :: tables.messages }
  | .silentMessage message automaticMessageType =>
      if automaticMessageType = .automaticOpen then none
      else some { tables with
        messages := message :: tables.messages
        automaticMessages := ⟨message.uuid, automaticMessageType⟩ :: tables.automaticMessages }
  | .saveRoom room => some { tables with room := room }
  | .saveQueue queue sector =>
      some { tables with sectorOf := Function.update tables.sectorOf queue (some sector) }
  | .saveSector sector columns =>
      some { tables with sectors := Function.update tables.sectors sector (some columns) }

end AutomaticMessageTables

def automaticMessages (retries : Int) :
    Program AutomaticMessageTables AutomaticMessageRun AutomaticMessageArgs
      AutomaticMessageChoice AutomaticMessageEvent where
  enter := fun args => { args, stage := .loadingRoom }
  advance := fun tables run choice =>
    (AutomaticMessageRun.execute retries run.args tables run.stage choice).map fun result =>
      (result.1, result.2.map fun stage => { run with stage })
  surround := AutomaticMessageTables.surround

end ChatsEngine.Sectors
