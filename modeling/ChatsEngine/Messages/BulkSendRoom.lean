import ChatsEngine.Foundation.Action
import ChatsEngine.Messages.BulkSend

/-! # A bulk message in one room

`SendBulkMessageToRoomUseCase` creates the message and its outcome in a transaction, and an
outcome without a message when it catches an exception. What runs when the transaction has
been committed runs inside the same `try`. -/

namespace ChatsEngine.Messages

inductive SendPoint
  | creatingClosed
  | schedulingClosed
  -- `Message.objects.create`
  | readingValidity
  | insertingMessage
  | clearingCache
  | insertingBulkMessage
  | listingMedias
  | updatingRoom
  | committing
  -- on commit
  | serializing
  | findingGroup
  | sendingToGroup
  | signing
  | postingCallback
  | schedulingProgress
  -- the handler
  | creatingFailed
  | schedulingFailed
deriving DecidableEq, Repr

structure SendError where
  point : SendPoint
  error : String
deriving DecidableEq, Repr

structure SendEnvironment where
  raisesAt : SendPoint → Option String
  traceback : SendPoint → String

structure SendUser where
  email : UserEmail
  firstName : String
  /-- The permission of the user in the project of the room. -/
  permission : Option Uuid
deriving DecidableEq, Repr

structure SendQueue where
  uuid : Uuid
  signMessages : Bool
deriving DecidableEq, Repr

structure SendRoom where
  uuid : Uuid
  isActive : Bool
  is24hValid : Bool
  user : Option SendUser
  queue : Option SendQueue
  callbackUrl : Option String
deriving DecidableEq, Repr

inductive NotificationGroup
  | permission (uuid : Uuid)
  | queue (uuid : Uuid)
deriving DecidableEq, Repr

structure RoomMessage where
  room : Uuid
  message : BulkSendMessage
deriving DecidableEq, Repr

structure GroupNotification where
  group : NotificationGroup
  content : RoomMessage
  action : String
deriving DecidableEq, Repr

structure SendTables where
  messages : List RoomMessage
  bulkMessages : List BulkMessageSendMessage
  /-- `last_message` and the columns that go with it. -/
  lastMessage : Uuid → Option BulkSendMessage
  notifications : List GroupNotification
  callbacks : List (String × RoomMessage)
  progressUpdates : Nat

abbrev SendAction (Result : Type) := Action SendTables SendError Result

namespace SendAction

variable (environment : SendEnvironment) (room : SendRoom)

def reach (point : SendPoint) : SendAction PUnit :=
  Action.require (environment.raisesAt point = none)
    { point, error := (environment.raisesAt point).getD "" }

def scheduleProgressUpdate (point : SendPoint) : SendAction PUnit := do
  reach environment point
  Action.update fun tables => { tables with progressUpdates := tables.progressUpdates + 1 }

def createBulkMessage (point : SendPoint) (row : BulkMessageSendMessage) : SendAction PUnit := do
  reach environment point
  Action.update fun tables => { tables with bulkMessages := row :: tables.bulkMessages }

/-- `Message.save` of a new message. -/
def createMessage (message : RoomMessage) : SendAction PUnit := do
  Action.require (room.isActive = true)
    { point := .readingValidity, error := "\x7b'detail': [\"Closed rooms can't receive messages\"]\x7d" }
  reach environment .readingValidity
  Action.require (room.is24hValid = true ∨ room.user = none)
    { point := .readingValidity
      error := "\x7b'detail': [\"You can't send messages after 24h from the last contact message\"]\x7d" }
  reach environment .insertingMessage
  Action.update fun tables => { tables with messages := message :: tables.messages }
  reach environment .clearingCache

def updateLastMessage (message : RoomMessage) : SendAction PUnit := do
  reach environment .listingMedias
  reach environment .updatingRoom
  Action.update fun tables =>
    { tables with
      lastMessage := Function.update tables.lastMessage message.room (some message.message) }

/-- `send_channels_group`, which catches all exceptions when its retries are used up. -/
def sendChannelsGroup (notification : GroupNotification) : SendAction PUnit := do
  let _ ← (Action.attempt (do
    reach environment .sendingToGroup
    Action.update fun tables =>
      { tables with notifications := notification :: tables.notifications }) :
    SendAction (Except SendError PUnit))

def baseNotification (content : RoomMessage) (action : String) : SendAction PUnit := do
  reach environment .findingGroup
  match room.user with
  | some user =>
      match user.permission with
      | none => return
      | some permission => sendChannelsGroup environment ⟨.permission permission, content, action⟩
  | none => do
      let queue ← Action.expect room.queue
        { point := .findingGroup, error := "'NoneType' object has no attribute 'pk'" }
      sendChannelsGroup environment ⟨.queue queue.uuid, content, action⟩

def updateMsgTextWithSignature (message : RoomMessage) : SendAction RoomMessage := do
  reach environment .signing
  match room.user with
  | none => return message
  | some user => do
      let queue ← Action.expect room.queue
        { point := .signing, error := "'NoneType' object has no attribute 'sector'" }
      if queue.signMessages ∧ message.message.text ≠ "" then
        return { message with
          message.text := user.firstName ++ ":\n\n" ++ message.message.text }
      else
        return message

/-- What `requests` does with the callback, whose exceptions are caught. -/
def postCallback (url : String) (content : RoomMessage) : SendAction PUnit := do
  reach environment .postingCallback
  Action.update fun tables => { tables with callbacks := (url, content) :: tables.callbacks }

def notifyRoom (message : RoomMessage) : SendAction PUnit := do
  reach environment .serializing
  baseNotification environment room message "msg.create"
  match room.callbackUrl with
  | none => return
  | some url =>
      Action.when (url ≠ "") do
        let content ← updateMsgTextWithSignature environment room message
        let _ ← (Action.attempt (postCallback environment url content) :
          SendAction (Except SendError PUnit))

variable (text : String)

def bulkSendMessage : BulkSendMessage where
  user := room.user.map SendUser.email
  text := text

def successRow : BulkMessageSendMessage where
  room := room.uuid
  message := some (bulkSendMessage room text)
  status := .success
  errors := none

def failedRow (errors : BulkSendErrors) : BulkMessageSendMessage where
  room := room.uuid
  message := none
  status := .failed
  errors := some errors

/-- The block of `transaction.atomic`. -/
def sendInTransaction : SendAction PUnit := Action.atomic do
  let message : RoomMessage := { room := room.uuid, message := bulkSendMessage room text }
  createMessage environment room message
  createBulkMessage environment .insertingBulkMessage (successRow room text)
  updateLastMessage environment message
  reach environment .committing

/-- The callbacks of `transaction.on_commit`, in the order in which they were registered. -/
def runCommitHooks : SendAction PUnit := do
  notifyRoom environment room { room := room.uuid, message := bulkSendMessage room text }
  scheduleProgressUpdate environment .schedulingProgress

/-- The body of the `try`. -/
def trySend : SendAction PUnit := do
  sendInTransaction environment room text
  runCommitHooks environment room text

/-- Both places that record a failure do this. -/
def recordFailed (creating scheduling : SendPoint) (errors : BulkSendErrors) :
    SendAction BulkMessageSendMessage := do
  let row := failedRow room errors
  createBulkMessage environment creating row
  scheduleProgressUpdate environment scheduling
  return row

def execute : SendAction BulkMessageSendMessage := do
  if room.isActive then
    let outcome ← (Action.attempt (trySend environment room text) :
      SendAction (Except SendError PUnit))
    match outcome with
    | .ok _ => return successRow room text
    | .error error =>
        recordFailed environment room .creatingFailed .schedulingFailed
          { error := error.error, traceback := environment.traceback error.point }
  else
    recordFailed environment room .creatingClosed .schedulingClosed closedRoomErrors

end SendAction

/-! ## When the statements return -/

namespace SendEnvironment

variable (environment : SendEnvironment) (room : SendRoom)

def transactionPoints : List SendPoint :=
  [.readingValidity, .insertingMessage, .clearingCache, .insertingBulkMessage, .listingMedias,
    .updatingRoom, .committing]

structure Commits : Prop where
  isValid : room.is24hValid = true ∨ room.user = none
  returns : ∀ point ∈ transactionPoints, environment.raisesAt point = none

/-- The group of the room is found, or that there is none. -/
def FindsGroup : Prop :=
  environment.raisesAt .findingGroup = none ∧ (room.user = none → room.queue.isSome)

def SignsCallback : Prop :=
  ∀ url ∈ room.callbackUrl, url ≠ "" →
    environment.raisesAt .signing = none ∧ (room.user.isSome → room.queue.isSome)

structure HooksReturn : Prop where
  serializing : environment.raisesAt .serializing = none
  group : environment.FindsGroup room
  callback : environment.SignsCallback room
  schedulingProgress : environment.raisesAt .schedulingProgress = none

structure HandlerReturns : Prop where
  creatingFailed : environment.raisesAt .creatingFailed = none
  schedulingFailed : environment.raisesAt .schedulingFailed = none

end SendEnvironment

namespace SendTables

def sent (tables : SendTables) (room : SendRoom) (text : String) : Nat :=
  tables.messages.countP fun stored => stored.room = room.uuid ∧ stored.message.text = text

/-- There is one more outcome of the room, which says whether there is one more message. -/
def RecordsOutcome (before after : SendTables) (room : SendRoom) (text : String) : Prop :=
  ∃ row : BulkMessageSendMessage, row.room = room.uuid ∧
    after.bulkMessages = row :: before.bulkMessages ∧
      (row.status = .success ↔ after.sent room text = before.sent room text + 1)

def Stores (messages : List RoomMessage) (bulkMessages : List BulkMessageSendMessage)
    (tables : SendTables) : Prop :=
  tables.messages = messages ∧ tables.bulkMessages = bulkMessages

end SendTables

namespace SendAction

open ChatsEngine.Action SendTables

variable {environment : SendEnvironment} {room : SendRoom} {text : String}
  {messages : List RoomMessage} {bulkMessages : List BulkMessageSendMessage}
  {Result : Type} {before : SendTables → Prop} {returns : Result → SendTables → Prop}
  {raises : SendTables → Prop}

theorem reach_bind {point : SendPoint} {next : PUnit → SendAction Result}
    (fails : environment.raisesAt point ≠ none → ∀ tables, before tables → raises tables)
    (rest : environment.raisesAt point = none →
      Ensures before (next ⟨⟩) returns fun _ => raises) :
    Ensures before (reach environment point >>= next) returns fun _ => raises :=
  Ensures.require_bind fails rest

theorem scheduleProgressUpdate_ensures (point : SendPoint) :
    Ensures (Stores messages bulkMessages) (scheduleProgressUpdate environment point)
      (fun _ tables => environment.raisesAt point = none ∧ Stores messages bulkMessages tables)
      fun _ tables => environment.raisesAt point ≠ none ∧ Stores messages bulkMessages tables := by
  apply reach_bind (fun fails tables stored => ⟨fails, stored⟩)
  intro reached
  exact Ensures.update fun tables stored => ⟨reached, stored⟩

theorem createBulkMessage_ensures (point : SendPoint) (row : BulkMessageSendMessage) :
    Ensures (Stores messages bulkMessages) (createBulkMessage environment point row)
      (fun _ tables => environment.raisesAt point = none ∧
        Stores messages (row :: bulkMessages) tables)
      fun _ _ => environment.raisesAt point ≠ none := by
  apply reach_bind (fun fails _ _ => fails)
  intro reached
  apply Ensures.update
  intro tables given
  rcases given with ⟨sameMessages, sameRows⟩
  exact ⟨reached, sameMessages, congrArg (row :: ·) sameRows⟩

theorem sendChannelsGroup_ensures (notification : GroupNotification) :
    Ensures (Stores messages bulkMessages) (sendChannelsGroup environment notification)
      (fun _ => Stores messages bulkMessages) fun _ => raises := by
  have sends : Ensures (Stores messages bulkMessages)
      (do
        reach environment .sendingToGroup
        Action.update fun tables =>
          { tables with notifications := notification :: tables.notifications })
      (fun _ => Stores messages bulkMessages) fun _ => Stores messages bulkMessages := by
    apply reach_bind (fun _ tables stored => stored)
    intro _
    exact Ensures.update fun tables stored => stored
  apply Ensures.bind (fun _ => Stores messages bulkMessages) (Ensures.attempt sends)
  intro _
  exact Ensures.pure fun tables stored => stored

theorem baseNotification_ensures (content : RoomMessage) (action : String) :
    Ensures (Stores messages bulkMessages) (baseNotification environment room content action)
      (fun _ tables => environment.FindsGroup room ∧ Stores messages bulkMessages tables)
      fun _ tables => ¬environment.FindsGroup room ∧ Stores messages bulkMessages tables := by
  apply reach_bind (fun fails tables stored => ⟨fun finds => fails finds.1, stored⟩)
  intro found
  rw [SendEnvironment.FindsGroup]
  cases room.user with
  | some user =>
      cases isPermission : user.permission with
      | none =>
          dsimp only
          rw [isPermission]
          exact Ensures.pure fun tables stored => ⟨⟨found, nofun⟩, stored⟩
      | some permission =>
          dsimp only
          rw [isPermission]
          apply (sendChannelsGroup_ensures _).weaken (fun _ stored => stored)
            (fun _ _ stored => ⟨⟨found, nofun⟩, stored⟩) (fun _ _ raised => raised)
  | none =>
      apply Ensures.expect_bind
      · intro absent tables stored
        refine ⟨fun finds => ?_, stored⟩
        have isQueue := finds.2 rfl
        rw [absent] at isQueue
        cases isQueue
      · intro queue isQueue
        rw [isQueue]
        apply (sendChannelsGroup_ensures _).weaken (fun _ stored => stored)
          (fun _ _ stored => ⟨⟨found, fun _ => rfl⟩, stored⟩) (fun _ _ raised => raised)

theorem updateMsgTextWithSignature_ensures (message : RoomMessage) :
    Ensures (Stores messages bulkMessages)
      (updateMsgTextWithSignature environment room message)
      (fun _ tables => (environment.raisesAt .signing = none ∧
        (room.user.isSome → room.queue.isSome)) ∧ Stores messages bulkMessages tables)
      fun _ tables => ¬(environment.raisesAt .signing = none ∧
        (room.user.isSome → room.queue.isSome)) ∧ Stores messages bulkMessages tables := by
  apply reach_bind (fun fails tables stored => ⟨fun signs => fails signs.1, stored⟩)
  intro reached
  cases room.user with
  | none => exact Ensures.pure fun tables stored => ⟨⟨reached, nofun⟩, stored⟩
  | some user =>
      apply Ensures.expect_bind
      · intro absent tables stored
        refine ⟨fun signs => ?_, stored⟩
        have found := signs.2 rfl
        rw [absent] at found
        cases found
      · intro queue isQueue
        rw [isQueue]
        split
        · exact Ensures.pure fun tables stored => ⟨⟨reached, fun _ => rfl⟩, stored⟩
        · exact Ensures.pure fun tables stored => ⟨⟨reached, fun _ => rfl⟩, stored⟩

theorem postCallback_ensures (url : String) (content : RoomMessage) :
    Ensures (Stores messages bulkMessages) (postCallback environment url content)
      (fun _ => Stores messages bulkMessages) fun _ => Stores messages bulkMessages := by
  apply reach_bind (fun _ tables stored => stored)
  intro _
  exact Ensures.update fun tables stored => stored

theorem signCallback_ensures (message : RoomMessage) (url : String) :
    Ensures (Stores messages bulkMessages)
      (do
        let content ← updateMsgTextWithSignature environment room message
        let _ ← (Action.attempt (postCallback environment url content) :
          SendAction (Except SendError PUnit)))
      (fun _ tables => (environment.raisesAt .signing = none ∧
        (room.user.isSome → room.queue.isSome)) ∧ Stores messages bulkMessages tables)
      fun _ tables => ¬(environment.raisesAt .signing = none ∧
        (room.user.isSome → room.queue.isSome)) ∧ Stores messages bulkMessages tables := by
  apply Ensures.bind _ (updateMsgTextWithSignature_ensures message)
  intro content
  apply Ensures.of_fact
  intro signed
  apply Ensures.bind (fun _ => Stores messages bulkMessages)
    (Ensures.attempt (postCallback_ensures url content))
  intro _
  exact Ensures.pure fun tables stored => ⟨signed, stored⟩

theorem notifyRoom_ensures (message : RoomMessage) :
    Ensures (Stores messages bulkMessages) (notifyRoom environment room message)
      (fun _ tables => (environment.raisesAt .serializing = none ∧
        environment.FindsGroup room ∧ environment.SignsCallback room) ∧
          Stores messages bulkMessages tables)
      fun _ tables => ¬(environment.raisesAt .serializing = none ∧
        environment.FindsGroup room ∧ environment.SignsCallback room) ∧
          Stores messages bulkMessages tables := by
  apply reach_bind (fun fails tables stored => ⟨fun all => fails all.1, stored⟩)
  intro serialized
  apply Ensures.bind (fun _ tables => environment.FindsGroup room ∧
    Stores messages bulkMessages tables)
  · apply (baseNotification_ensures message "msg.create").weaken (fun _ stored => stored)
      (fun _ _ notified => notified)
    intro _ tables holds
    rcases holds with ⟨fails, stored⟩
    exact ⟨fun all => fails all.2.1, stored⟩
  · intro _
    apply Ensures.of_fact
    intro notified
    rw [SendEnvironment.SignsCallback]
    cases room.callbackUrl with
    | none => exact Ensures.pure fun tables stored => ⟨⟨serialized, notified, nofun⟩, stored⟩
    | some url =>
        apply Ensures.when
        · intro given
          apply (signCallback_ensures message url).weaken (fun _ stored => stored)
          · intro _ tables holds
            rcases holds with ⟨signs, stored⟩
            refine ⟨⟨serialized, notified, ?_⟩, stored⟩
            intro _ holds _
            rcases holds with ⟨⟩
            exact signs
          · intro _ tables holds
            rcases holds with ⟨fails, stored⟩
            exact ⟨fun all => fails (all.2.2 url rfl given), stored⟩
        · intro tables stored empty
          refine ⟨⟨serialized, notified, ?_⟩, stored⟩
          intro _ holds given
          rcases holds with ⟨⟩
          exact absurd given empty

theorem runCommitHooks_ensures :
    Ensures (Stores messages bulkMessages) (runCommitHooks environment room text)
      (fun _ tables => environment.HooksReturn room ∧ Stores messages bulkMessages tables)
      fun _ tables => ¬environment.HooksReturn room ∧ Stores messages bulkMessages tables := by
  apply Ensures.bind (fun _ tables => (environment.raisesAt .serializing = none ∧
    environment.FindsGroup room ∧ environment.SignsCallback room) ∧
      Stores messages bulkMessages tables)
  · apply (notifyRoom_ensures _).weaken (fun _ stored => stored) (fun _ _ notified => notified)
    intro _ tables given
    rcases given with ⟨fails, stored⟩
    exact ⟨fun all => fails ⟨all.serializing, all.group, all.callback⟩, stored⟩
  · intro _
    apply Ensures.of_fact
    intro given
    rcases given with ⟨serialized, notified, signed⟩
    apply (scheduleProgressUpdate_ensures .schedulingProgress).weaken (fun _ stored => stored)
    · intro _ tables given
      rcases given with ⟨scheduled, stored⟩
      exact ⟨⟨serialized, notified, signed, scheduled⟩, stored⟩
    · intro _ tables given
      rcases given with ⟨fails, stored⟩
      exact ⟨fun all => fails all.schedulingProgress, stored⟩

theorem createMessage_ensures (isActive : room.isActive = true) (message : RoomMessage) :
    Ensures (Stores messages bulkMessages) (createMessage environment room message)
      (fun _ tables => ((room.is24hValid = true ∨ room.user = none) ∧
        environment.raisesAt .readingValidity = none ∧
          environment.raisesAt .insertingMessage = none ∧
            environment.raisesAt .clearingCache = none) ∧
        Stores (message :: messages) bulkMessages tables)
      fun _ _ => ¬environment.Commits room := by
  apply Ensures.require_bind (fun isClosed => absurd isActive isClosed)
  intro _
  apply reach_bind (fun fails _ _ commits => fails (commits.returns .readingValidity (by decide)))
  intro read
  apply Ensures.require_bind (fun invalid _ _ commits => invalid commits.isValid)
  intro isValid
  apply reach_bind (fun fails _ _ commits => fails (commits.returns .insertingMessage (by decide)))
  intro inserted
  apply Ensures.bind (fun _ => Stores (message :: messages) bulkMessages)
  · apply Ensures.update
    intro tables given
    rcases given with ⟨sameMessages, sameRows⟩
    exact ⟨congrArg (message :: ·) sameMessages, sameRows⟩
  · intro _
    apply Ensures.require
    · exact fun tables stored cleared => ⟨⟨isValid, read, inserted, cleared⟩, stored⟩
    · exact fun _ _ fails commits => fails (commits.returns .clearingCache (by decide))

theorem updateLastMessage_ensures (message : RoomMessage) :
    Ensures (Stores messages bulkMessages) (updateLastMessage environment message)
      (fun _ tables => (environment.raisesAt .listingMedias = none ∧
        environment.raisesAt .updatingRoom = none) ∧ Stores messages bulkMessages tables)
      fun _ _ => ¬environment.Commits room := by
  apply reach_bind (fun fails _ _ commits => fails (commits.returns .listingMedias (by decide)))
  intro listed
  apply reach_bind (fun fails _ _ commits => fails (commits.returns .updatingRoom (by decide)))
  intro updated
  exact Ensures.update fun tables stored => ⟨⟨listed, updated⟩, stored⟩

theorem sendInTransaction_ensures (isActive : room.isActive = true) :
    Ensures (Stores messages bulkMessages) (sendInTransaction environment room text)
      (fun _ tables => environment.Commits room ∧
        Stores ({ room := room.uuid, message := bulkSendMessage room text } :: messages)
          (successRow room text :: bulkMessages) tables)
      fun _ tables => ¬environment.Commits room ∧ Stores messages bulkMessages tables := by
  apply Ensures.atomic (fun _ _ => ¬environment.Commits room)
  · apply Ensures.bind _ (createMessage_ensures isActive _)
    intro _
    apply Ensures.of_fact
    intro given
    rcases given with ⟨isValid, read, inserted, cleared⟩
    apply Ensures.bind (fun _ tables => environment.raisesAt .insertingBulkMessage = none ∧
      Stores ({ room := room.uuid, message := bulkSendMessage room text } :: messages)
        (successRow room text :: bulkMessages) tables)
    · apply (createBulkMessage_ensures _ _).weaken (fun _ stored => stored)
        (fun _ _ created => created)
      exact fun _ _ fails commits => fails (commits.returns .insertingBulkMessage (by decide))
    · intro _
      apply Ensures.of_fact
      intro created
      apply Ensures.bind _ (updateLastMessage_ensures _)
      intro _
      apply Ensures.of_fact
      intro given
      rcases given with ⟨listed, updated⟩
      apply Ensures.require
      · intro tables stored committed
        refine ⟨⟨isValid, ?_⟩, stored⟩
        simp [SendEnvironment.transactionPoints, read, inserted, cleared, created, listed,
          updated, committed]
      · exact fun _ _ fails commits => fails (commits.returns .committing (by decide))
  · exact fun _ _ _ stored fails => ⟨fails, stored⟩

theorem recordFailed_ensures (creating scheduling : SendPoint) (errors : BulkSendErrors) :
    Ensures (Stores messages bulkMessages)
      (recordFailed environment room creating scheduling errors)
      (fun _ tables => (environment.raisesAt creating = none ∧
        environment.raisesAt scheduling = none) ∧
          Stores messages (failedRow room errors :: bulkMessages) tables)
      fun _ _ => ¬(environment.raisesAt creating = none ∧
        environment.raisesAt scheduling = none) := by
  apply Ensures.bind (fun _ tables => environment.raisesAt creating = none ∧
    Stores messages (failedRow room errors :: bulkMessages) tables)
  · apply (createBulkMessage_ensures _ _).weaken (fun _ stored => stored)
      (fun _ _ created => created)
    exact fun _ _ fails both => fails both.1
  · intro _
    apply Ensures.of_fact
    intro created
    apply Ensures.bind _ ((scheduleProgressUpdate_ensures scheduling).weaken
      (fun _ stored => stored) (fun _ _ scheduled => scheduled)
      fun _ _ fails both => fails.1 both.2)
    intro _
    apply Ensures.of_fact
    intro scheduled
    exact Ensures.pure fun tables stored => ⟨⟨created, scheduled⟩, stored⟩

/-- What the `try` has left when it was left. -/
inductive TryEnds (environment : SendEnvironment) (room : SendRoom) (text : String)
    (messages : List RoomMessage) (bulkMessages : List BulkMessageSendMessage) :
    Except SendError PUnit → SendTables → Prop
  | returned {tables : SendTables} :
      environment.HooksReturn room →
        Stores ({ room := room.uuid, message := bulkSendMessage room text } :: messages)
          (successRow room text :: bulkMessages) tables →
        TryEnds environment room text messages bulkMessages (.ok ⟨⟩) tables
  | rolledBack {error : SendError} {tables : SendTables} :
      ¬environment.Commits room → Stores messages bulkMessages tables →
        TryEnds environment room text messages bulkMessages (.error error) tables
  | committed {error : SendError} {tables : SendTables} :
      environment.Commits room → ¬environment.HooksReturn room →
        Stores ({ room := room.uuid, message := bulkSendMessage room text } :: messages)
          (successRow room text :: bulkMessages) tables →
        TryEnds environment room text messages bulkMessages (.error error) tables

theorem trySend_ends (isActive : room.isActive = true) :
    Ensures (Stores messages bulkMessages) (trySend environment room text)
      (fun _ => TryEnds environment room text messages bulkMessages (.ok ⟨⟩))
      fun error => TryEnds environment room text messages bulkMessages (.error error) := by
  apply Ensures.bind (fun _ tables => environment.Commits room ∧
    Stores ({ room := room.uuid, message := bulkSendMessage room text } :: messages)
      (successRow room text :: bulkMessages) tables)
  · apply (sendInTransaction_ensures isActive).weaken (fun _ stored => stored)
      (fun _ _ sent => sent)
    intro _ tables given
    rcases given with ⟨fails, stored⟩
    exact .rolledBack fails stored
  · intro _
    apply Ensures.of_fact
    intro commits
    apply runCommitHooks_ensures.weaken (fun _ stored => stored)
    · intro _ tables given
      rcases given with ⟨returns, stored⟩
      exact .returned returns stored
    · intro _ tables given
      rcases given with ⟨fails, stored⟩
      exact .committed commits fails stored

inductive ExecuteEnds (environment : SendEnvironment) (room : SendRoom) (text : String)
    (messages : List RoomMessage) (bulkMessages : List BulkMessageSendMessage) :
    SendTables → Prop
  | failed (errors : BulkSendErrors) {tables : SendTables} :
      (room.isActive = true → ¬environment.Commits room) →
        Stores messages (failedRow room errors :: bulkMessages) tables →
        ExecuteEnds environment room text messages bulkMessages tables
  | succeeded {tables : SendTables} :
      environment.HooksReturn room →
        Stores ({ room := room.uuid, message := bulkSendMessage room text } :: messages)
          (successRow room text :: bulkMessages) tables →
        ExecuteEnds environment room text messages bulkMessages tables
  /-- The transaction was committed, and the handler records that it failed. -/
  | recordedTwice (errors : BulkSendErrors) {tables : SendTables} :
      room.isActive = true → environment.Commits room → ¬environment.HooksReturn room →
        environment.HandlerReturns →
        Stores ({ room := room.uuid, message := bulkSendMessage room text } :: messages)
          (failedRow room errors :: successRow room text :: bulkMessages) tables →
        ExecuteEnds environment room text messages bulkMessages tables

theorem execute_ends (environment : SendEnvironment) (room : SendRoom) (text : String) :
    Ensures (Stores messages bulkMessages) (execute environment room text)
      (fun _ => ExecuteEnds environment room text messages bulkMessages)
      fun _ _ => room.isActive = true → ¬environment.HandlerReturns := by
  rw [execute]
  split
  · next isActive =>
      apply Ensures.bind (TryEnds environment room text messages bulkMessages)
        (Ensures.attempt (trySend_ends isActive))
      rintro (error | _)
      · have raises : ∀ (_ : SendError) (_ : SendTables),
            ¬(environment.raisesAt .creatingFailed = none ∧
              environment.raisesAt .schedulingFailed = none) →
            room.isActive = true → ¬environment.HandlerReturns :=
          fun _ _ fails _ returns => fails ⟨returns.creatingFailed, returns.schedulingFailed⟩
        intro tables ends
        cases ends with
        | rolledBack fails stored =>
            refine (recordFailed_ensures .creatingFailed .schedulingFailed _).weaken
              (fun _ stored => stored) ?_ raises tables stored
            intro _ after given
            rcases given with ⟨_, stored⟩
            exact .failed _ (fun _ => fails) stored
        | committed commits fails stored =>
            refine (recordFailed_ensures .creatingFailed .schedulingFailed _).weaken
              (fun _ stored => stored) ?_ raises tables stored
            intro _ after given
            rcases given with ⟨returns, stored⟩
            exact .recordedTwice _ isActive commits fails ⟨returns.1, returns.2⟩ stored
      · apply Ensures.pure
        intro tables ends
        cases ends with
        | returned returns stored => exact .succeeded returns stored
  · next isClosed =>
      apply (recordFailed_ensures .creatingClosed .schedulingClosed _).weaken
        (fun _ stored => stored)
      · intro _ tables given
        rcases given with ⟨_, stored⟩
        exact .failed closedRoomErrors (fun isActive => absurd isActive isClosed) stored
      · exact fun _ _ _ isActive => absurd isActive isClosed

/-! ## The outcome -/

theorem recordsOutcome_of_failed {tables after : SendTables} {errors : BulkSendErrors}
    (stored : Stores tables.messages (failedRow room errors :: tables.bulkMessages) after) :
    tables.RecordsOutcome after room text := by
  refine ⟨failedRow room errors, rfl, stored.2, ?_⟩
  apply iff_of_false nofun
  rw [sent, sent, stored.1]
  omega

theorem recordsOutcome_of_succeeded {tables after : SendTables}
    (stored : Stores ({ room := room.uuid, message := bulkSendMessage room text } ::
      tables.messages) (successRow room text :: tables.bulkMessages) after) :
    tables.RecordsOutcome after room text := by
  refine ⟨successRow room text, rfl, stored.2, ?_⟩
  apply iff_of_true rfl
  rw [sent, stored.1, List.countP_cons_of_pos (by simp [bulkSendMessage]), sent]

theorem not_recordsOutcome_of_twice {tables after : SendTables}
    {row other : BulkMessageSendMessage}
    (stored : after.bulkMessages = row :: other :: tables.bulkMessages) :
    ¬tables.RecordsOutcome after room text := by
  intro given
  rcases given with ⟨_, _, recorded, _⟩
  have length := congrArg List.length (stored.symm.trans recorded)
  simp only [List.length_cons] at length
  omega

end SendAction

open SendAction

def exampleRoom : SendRoom where
  uuid := 1
  isActive := true
  is24hValid := true
  user := none
  queue := some { uuid := 2, signMessages := false }
  callbackUrl := none

/-- Nothing raises but the first attempt to schedule the progress task. -/
def brokerRefuses : SendEnvironment where
  raisesAt := fun point => if point = .schedulingProgress then some "connection refused" else none
  traceback := fun _ => ""

def emptySendTables : SendTables where
  messages := []
  bulkMessages := []
  lastMessage := fun _ => none
  notifications := []
  callbacks := []
  progressUpdates := 0

end ChatsEngine.Messages
