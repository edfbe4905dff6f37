import ChatsEngine.Websockets.AgentConsumer

/-! # The groups that a client can reach

`join` adds the connection to any group of a permission or of a queue, and `message_create`
notifies wherever the room is by then. Everything else that a frame does stays among the groups
of the agent. -/

namespace ChatsEngine.Websockets

namespace Connection

variable (runtime : ConsumerRuntime) (agent : ConsumerAgent)

/-- The connection listens to the groups of its agent only, and nothing was sent elsewhere. -/
structure Isolated (connection : Connection) : Prop where
  subscribed : ∀ group ∈ connection.subscribed, agent.OwnGroup connection.tables.queueIds group
  sent : ∀ message ∈ connection.sent, agent.OwnGroup message.queues message.group

instance : DecidablePred (Isolated agent) := fun connection =>
  decidable_of_iff
    ((∀ group ∈ connection.subscribed, agent.OwnGroup connection.tables.queueIds group) ∧
      ∀ message ∈ connection.sent, agent.OwnGroup message.queues message.group)
    ⟨fun both => ⟨both.1, both.2⟩, fun isolated => ⟨isolated.subscribed, isolated.sent⟩⟩

/-- The group that an event of `join` leads to. -/
def joinedBy (event : JsonValue) : Option String :=
  (namedGroup runtime event).bind fun named =>
    if (named.1.isString "permission" ∨ named.1.isString "queue") ∧ runtime.accepts named.2 then
      some named.2
    else none

def joinedGroup : JsonValue → Option String
  | .object fields =>
      if (JsonValue.get fields "type").any (JsonValue.isString "method") ∧
          (JsonValue.get fields "action").any (JsonValue.isString "join") then
        joinedBy runtime ((JsonValue.get fields "content").getD (.object []))
      else none
  | _ => none

/-- A frame joins no group of somebody else, and the agent loses no queue that the connection
listens to. -/
def JoinsOwn (connection : Connection) : ConnectionEvent → Prop
  | .frame payload =>
      ∀ group ∈ joinedGroup runtime payload, agent.OwnGroup connection.tables.queueIds group
  | .authorize queues => ∀ queue ∈ connection.tables.queueIds, queue ∉ queues →
      "queue_" ++ queue ∉ connection.subscribed
  | _ => True

/-- Besides, the message that is created is notified to no group of somebody else. -/
def KeepsToOwn (connection : Connection) : ConnectionEvent → Prop
  | .create .returns => ∀ stage ∈ connection.creating,
      ∀ group ∈ connection.notifies stage, agent.OwnGroup connection.tables.queueIds group
  | event => JoinsOwn runtime agent connection event

/-- The room that the serializer loads is still the one of the user that was checked, and it is
in the project of the connection. -/
def LoadsAsChecked (connection : Connection) : MessageCreateStage → Prop
  | .validating uuid checked => ∀ room ∈ connection.tables.rooms uuid,
      room.user = checked ∧ ∀ queue ∈ room.queue, queue.2 = agent.project
  | _ => True

instance (connection : Connection) : DecidablePred (LoadsAsChecked agent connection) := by
  intro stage
  unfold LoadsAsChecked
  split <;> infer_instance

/-- The messages are created in rooms that stay where they were checked, and the agent keeps its
permission in the project, unless it loses it. -/
def KeepsScope (connection : Connection) : ConnectionEvent → Prop
  | .create .returns => ∀ stage ∈ connection.creating, LoadsAsChecked agent connection stage
  | .savePermission project user permission =>
      project = agent.project → user = agent.email → ∀ saved ∈ permission, saved = agent.permission
  | event => JoinsOwn runtime agent connection event

instance (connection : Connection) (event : ConnectionEvent) :
    Decidable (KeepsScope runtime agent connection event) := by
  unfold KeepsScope JoinsOwn
  split
  · infer_instance
  · infer_instance
  · split <;> infer_instance

variable {runtime agent} {connection next : Connection} {event : JsonValue} {group : String}

/-! ## What a frame can do -/

/-- No group is joined, and only the own permission group is sent something. -/
structure Confined (agent : ConsumerAgent) (connection next : Connection) : Prop where
  subscribed : next.subscribed ⊆ connection.subscribed
  sent : ∀ message ∈ next.sent,
    message.group = agent.permissionGroup ∨ message ∈ connection.sent
  tables : next.tables = connection.tables
  creating : next.creating = connection.creating ∨ ∃ content, next.creating = some (.claiming content)

/-- What a handler can do, depending on the group that it joins. -/
inductive Handled (agent : ConsumerAgent) (connection : Connection) :
    Option String → Connection → Prop
  | joined (group : String) {next : Connection} :
      next.subscribed = group :: connection.subscribed → next.sent = connection.sent →
      next.tables = connection.tables → next.creating = connection.creating →
      Handled agent connection (some group) next
  | confined {next : Connection} : Confined agent connection next →
      Handled agent connection none next

theorem confined_of_same (subscribed : next.subscribed = connection.subscribed)
    (sent : next.sent = connection.sent) (tables : next.tables = connection.tables)
    (creating : next.creating = connection.creating) : Confined agent connection next where
  subscribed := subscribed ▸ List.Subset.refl _
  sent := fun _ isSent => .inr (sent ▸ isSent)
  tables := tables
  creating := .inl creating

theorem confined_refl : Confined agent connection connection := confined_of_same rfl rfl rfl rfl

theorem confined_raised : Confined agent connection connection.raised :=
  confined_of_same rfl rfl rfl rfl

theorem confined_discardGroup : Confined agent connection (connection.discardGroup group) := by
  rw [discardGroup]
  split
  · exact ⟨List.filter_sublist.subset, fun _ isSent => .inr isSent, rfl, .inl rfl⟩
  · exact confined_refl

theorem confined_send : Confined agent connection (connection.send agent.permissionGroup) where
  subscribed := List.Subset.refl _
  sent := fun _ isSent => (List.mem_cons.mp isSent).imp (congrArg SentMessage.group) id
  tables := rfl
  creating := .inl rfl

theorem Handled.isolated_iff {joined : Option String} (handled : Handled agent connection joined next)
    (isolated : Isolated agent connection) :
    Isolated agent next ↔ ∀ group ∈ joined, agent.OwnGroup connection.tables.queueIds group := by
  cases handled with
  | joined group subscribed sent tables _ =>
      constructor
      · intro isolatedNext other isJoined
        cases isJoined
        exact tables ▸ isolatedNext.subscribed group (subscribed ▸ List.mem_cons_self)
      · intro isOwn
        refine ⟨?_, sent ▸ isolated.sent⟩
        rw [subscribed, tables]
        exact List.forall_mem_cons.mpr ⟨isOwn group rfl, isolated.subscribed⟩
  | confined confined =>
      refine iff_of_true ⟨?_, ?_⟩ fun _ isJoined => absurd isJoined (Option.not_mem_none _)
      · intro other isSubscribed
        rw [confined.tables]
        exact isolated.subscribed other (confined.subscribed isSubscribed)
      · intro message isSent
        rcases confined.sent message isSent with isPermission | wasSent
        · exact .inl isPermission
        · exact isolated.sent message wasSent

theorem join_handled : Handled agent connection (joinedBy runtime event)
    (connection.join runtime event) := by
  rw [join, joinedBy]
  cases namedGroup runtime event with
  | none => exact .confined confined_raised
  | some named =>
      simp only [Option.bind_some]
      by_cases isGroup : named.1.isString "permission" ∨ named.1.isString "queue"
      · by_cases accepted : runtime.accepts named.2
        · rw [if_pos ⟨isGroup, accepted⟩, if_pos isGroup, addGroup, if_pos accepted]
          exact .joined named.2 rfl rfl rfl rfl
        · rw [if_neg fun both => accepted both.2, if_pos isGroup, addGroup, if_neg accepted]
          exact .confined confined_raised
      · rw [if_neg fun both => isGroup both.1, if_neg isGroup]
        exact .confined confined_refl

theorem exit_confined : Confined agent connection (connection.exit runtime event) := by
  rw [exit]
  split
  · exact confined_raised
  · exact confined_discardGroup

theorem notify_confined : Confined agent connection (connection.notify runtime agent event) := by
  unfold notify
  split
  · split
    · split
      · split
        · exact confined_send
        · exact confined_refl
      · exact confined_raised
    · split
      · exact confined_of_same rfl rfl rfl rfl
      · exact confined_raised
    · exact confined_refl
    · exact confined_refl
    · exact confined_refl
    · exact confined_raised
  · exact confined_raised

theorem messageCreate_confined : Confined agent connection (connection.messageCreate event) := by
  rw [messageCreate]
  split
  · exact ⟨List.Subset.refl _, fun _ isSent => .inr isSent, rfl, .inr ⟨_, rfl⟩⟩
  · exact confined_refl

theorem callMethod_confined {action : String} (notJoin : action ≠ "join") :
    Confined agent connection (connection.callMethod runtime action event) := by
  unfold callMethod
  split
  · exact absurd rfl notJoin
  · exact exit_confined
  · exact confined_refl
  · exact messageCreate_confined
  · exact confined_refl

theorem any_isString_iff {value : Option JsonValue} {text : String} :
    value.any (JsonValue.isString text) = true ↔ value = some (.string text) := by
  cases value with
  | none => simp
  | some value => cases value <;> simp [JsonValue.isString]

/-- The frame calls `join`. -/
def CallsJoin (fields : List (String × JsonValue)) : Prop :=
  JsonValue.get fields "type" = some (.string "method") ∧
    JsonValue.get fields "action" = some (.string "join")

theorem joinedGroup_of_callsJoin {fields : List (String × JsonValue)} (calls : CallsJoin fields) :
    joinedGroup runtime (.object fields) =
      joinedBy runtime ((JsonValue.get fields "content").getD (.object [])) :=
  if_pos ⟨any_isString_iff.mpr calls.1, any_isString_iff.mpr calls.2⟩

theorem joinedGroup_of_not_callsJoin {fields : List (String × JsonValue)}
    (otherwise : ¬CallsJoin fields) : joinedGroup runtime (.object fields) = none :=
  if_neg fun both => otherwise ⟨any_isString_iff.mp both.1, any_isString_iff.mp both.2⟩

theorem receiveJson_confined {fields : List (String × JsonValue)}
    (otherwise : ¬CallsJoin fields) :
    Confined agent connection (connection.receiveJson runtime agent (.object fields)) := by
  unfold receiveJson
  dsimp only
  split
  · split
    · exact notify_confined
    · exact confined_raised
  · next isMethod =>
      split
      · next action isAction =>
          apply callMethod_confined
          intro isJoin
          exact otherwise ⟨isMethod, isJoin ▸ isAction⟩
      · exact confined_raised
      · exact confined_raised
      · exact confined_refl
  · exact confined_refl

theorem receiveJson_handled (payload : JsonValue) :
    Handled agent connection (joinedGroup runtime payload)
      (connection.receiveJson runtime agent payload) := by
  cases payload with
  | object fields =>
      by_cases calls : CallsJoin fields
      · rw [joinedGroup_of_callsJoin calls]
        unfold receiveJson
        simp only [calls.1, calls.2]
        exact join_handled
      · rw [joinedGroup_of_not_callsJoin calls]
        exact .confined (receiveJson_confined calls)
  | _ => exact .confined confined_raised

/-! ## Steps -/

theorem notifies_of_raises {stage : MessageCreateStage}
    (raises : connection.createsNext runtime agent stage = none) :
    connection.notifies stage = none := by
  cases stage with
  | notifying room =>
      have noQueue : room.queue = none := by
        simpa only [createsNext, ite_eq_left_iff, reduceCtorEq, imp_false, not_not] using raises
      rw [notifies, notifiedGroup, noQueue, Option.bind_none]
  | _ => rfl

theorem create_isolated_iff {stage : MessageCreateStage} {choice : MessageCreateChoice}
    (creating : connection.creating = some stage) (isolated : Isolated agent connection) :
    Isolated agent (connection.create runtime agent stage choice) ↔
      KeepsToOwn runtime agent connection (.create choice) := by
  cases choice with
  | declines => exact iff_of_true ⟨isolated.subscribed, isolated.sent⟩ trivial
  | returns =>
      have keeps_iff : KeepsToOwn runtime agent connection (.create .returns) ↔
          ∀ group ∈ connection.notifies stage,
            agent.OwnGroup connection.tables.queueIds group := by
        simp only [KeepsToOwn, creating, Option.mem_some_iff, forall_eq']
      rw [keeps_iff, create]
      split
      · next raises =>
          rw [notifies_of_raises raises]
          exact iff_of_true ⟨isolated.subscribed, isolated.sent⟩
            fun _ isNotified => absurd isNotified (Option.not_mem_none _)
      · constructor
        · intro isolatedNext group isNotified
          apply isolatedNext.sent ⟨group, connection.tables.queueIds⟩ (List.mem_append_left _ _)
          rw [sends, Option.mem_def.mp isNotified]
          exact List.mem_singleton_self _
        · intro isOwn
          refine ⟨isolated.subscribed, ?_⟩
          intro message isSent
          rcases List.mem_append.mp isSent with isNotified | wasSent
          · rcases Option.map_eq_some_iff.mp (Option.mem_toList.mp isNotified) with
              ⟨group, isGroup, rfl⟩
            exact isOwn group isGroup
          · exact isolated.sent message wasSent

theorem authorize_isolated_iff {queues : List String} (isolated : Isolated agent connection) :
    Isolated agent { connection with tables.queueIds := queues } ↔
      ∀ queue ∈ connection.tables.queueIds, queue ∉ queues →
        "queue_" ++ queue ∉ connection.subscribed := by
  constructor
  · intro isolatedNext queue _ removed isSubscribed
    exact removed (ConsumerAgent.ownGroup_queue_iff.mp (isolatedNext.subscribed _ isSubscribed))
  · intro unsubscribed
    refine ⟨?_, isolated.sent⟩
    intro group isSubscribed
    rcases isolated.subscribed group isSubscribed with isPermission | isQueue
    · exact .inl isPermission
    · rcases List.mem_map.mp isQueue with ⟨queue, wasAuthorised, rfl⟩
      apply ConsumerAgent.ownGroup_queue_iff.mpr
      by_contra removed
      exact unsubscribed queue wasAuthorised removed isSubscribed

theorem isolated_of_same (isolated : Isolated agent connection)
    (subscribed : next.subscribed = connection.subscribed) (sent : next.sent = connection.sent)
    (queueIds : next.tables.queueIds = connection.tables.queueIds) : Isolated agent next where
  subscribed := subscribed ▸ queueIds ▸ isolated.subscribed
  sent := sent ▸ isolated.sent

theorem step_isolated_iff {event : ConnectionEvent} (isolated : Isolated agent connection)
    (stepped : (agentConsumer runtime agent).step connection event = some next) :
    Isolated agent next ↔ KeepsToOwn runtime agent connection event := by
  have confined : ∀ {next}, Confined agent connection next → Isolated agent next :=
    fun confined => ((Handled.confined confined).isolated_iff isolated).mpr
      fun _ isJoined => absurd isJoined (Option.not_mem_none _)
  cases event with
  | frame payload =>
      simp only [agentConsumer, step] at stepped
      split at stepped
      · cases stepped
        exact (receiveJson_handled payload).isolated_iff isolated
      · cases stepped
  | notification event =>
      simp only [agentConsumer, step] at stepped
      split at stepped
      · cases stepped
        exact iff_of_true (confined notify_confined) trivial
      · cases stepped
  | create choice =>
      simp only [agentConsumer, step] at stepped
      split at stepped
      · rcases Option.map_eq_some_iff.mp stepped with ⟨stage, creating, rfl⟩
        exact create_isolated_iff creating isolated
      · cases stepped
  | drop =>
      simp only [agentConsumer, step] at stepped
      split at stepped
      · cases stepped
        exact iff_of_true (confined confined_raised) trivial
      · cases stepped
  | saveRoom room row =>
      cases stepped
      exact iff_of_true (isolated_of_same isolated rfl rfl rfl) trivial
  | savePermission project user permission =>
      cases stepped
      exact iff_of_true (isolated_of_same isolated rfl rfl rfl) trivial
  | saveStatus project user isOnline =>
      cases stepped
      exact iff_of_true (isolated_of_same isolated rfl rfl rfl) trivial
  | saveProject project restrictsOfflineAgents =>
      cases stepped
      exact iff_of_true (isolated_of_same isolated rfl rfl rfl) trivial
  | authorize queues =>
      cases stepped
      exact authorize_isolated_iff isolated

/-! ## The room of a message -/

def StageInScope (agent : ConsumerAgent) : MessageCreateStage → Prop
  | .checkingStatus _ _ checked => checked = some agent.email
  | .validating _ checked => checked = some agent.email
  | .saving room => room.user = some agent.email ∧ ∀ queue ∈ room.queue, queue.2 = agent.project
  | .notifying room => room.user = some agent.email ∧ ∀ queue ∈ room.queue, queue.2 = agent.project
  | _ => True

/-- The agent has the permission of the connection or none, and creates a message in a room of
its own. -/
structure InScope (agent : ConsumerAgent) (connection : Connection) : Prop where
  permission : ∀ saved ∈ connection.tables.permissions agent.project agent.email,
    saved = agent.permission
  creating : ∀ stage ∈ connection.creating, StageInScope agent stage

theorem Handled.inScope {joined : Option String} (handled : Handled agent connection joined next)
    (scope : InScope agent connection) : InScope agent next := by
  cases handled with
  | joined group _ _ tables creating =>
      exact ⟨tables ▸ scope.permission, creating ▸ scope.creating⟩
  | confined confined =>
      refine ⟨confined.tables ▸ scope.permission, ?_⟩
      rcases confined.creating with same | ⟨content, claims⟩
      · exact same ▸ scope.creating
      · rw [claims]
        rintro stage ⟨⟩
        trivial

theorem stageInScope_of_loadingRoom {content : List (String × JsonValue)}
    {rest : MessageCreateStage}
    (goesOn : connection.createsNext runtime agent (.loadingRoom content) = some (some rest)) :
    StageInScope agent rest := by
  unfold createsNext at goesOn
  dsimp only at goesOn
  split at goesOn
  · cases goesOn
  · split at goesOn
    · rcases Option.map_eq_some_iff.mp goesOn with ⟨uuid, _, found⟩
      rcases Option.bind_eq_some_iff.mp found with ⟨room, _, passes⟩
      split at passes
      · cases passes
      · next isOwn =>
          have checked : room.user = some agent.email := not_not.mp isOwn
          split at passes
          · cases passes
            exact checked
          · split at passes
            · cases passes
              exact checked
            · cases passes
              exact checked
    · cases goesOn

theorem createsNext_inScope {stage rest : MessageCreateStage}
    (creating : connection.creating = some stage) (scope : StageInScope agent stage)
    (keeps : KeepsScope runtime agent connection (.create .returns))
    (goesOn : connection.createsNext runtime agent stage = some (some rest)) :
    StageInScope agent rest := by
  cases stage with
  | claiming content =>
      cases goesOn
      trivial
  | loadingRoom content => exact stageInScope_of_loadingRoom goesOn
  | checkingStatus room project checked =>
      have isOnline := Option.some.inj goesOn
      split at isOnline
      · cases isOnline
        exact scope
      · cases isOnline
  | validating uuid checked =>
      rcases Option.map_eq_some_iff.mp (Option.some.inj goesOn) with ⟨room, isRoom, rfl⟩
      rcases keeps _ creating room isRoom with ⟨sameUser, sameProject⟩
      exact ⟨sameUser.trans scope, sameProject⟩
  | saving room =>
      have isOpen := Option.some.inj goesOn
      split at isOpen
      · cases isOpen
      · cases isOpen
        exact scope
  | notifying room =>
      rw [createsNext] at goesOn
      split at goesOn
      · cases goesOn
      · cases goesOn
        trivial
  | finishing => cases goesOn

theorem InScope.create {stage : MessageCreateStage} {choice : MessageCreateChoice}
    (scope : InScope agent connection) (creating : connection.creating = some stage)
    (keeps : KeepsScope runtime agent connection (.create choice)) :
    InScope agent (connection.create runtime agent stage choice) := by
  cases choice with
  | declines => exact ⟨scope.permission, fun _ isStage => absurd isStage (Option.not_mem_none _)⟩
  | returns =>
      rw [Connection.create]
      split
      · exact ⟨scope.permission, scope.creating⟩
      · next rest goesOn =>
          refine ⟨scope.permission, ?_⟩
          intro next isNext
          have isRest : rest = some next := isNext
          subst isRest
          exact createsNext_inScope creating (scope.creating stage creating) keeps goesOn

theorem InScope.savePermission {project : Uuid} {user : UserEmail} {permission : Option String}
    (scope : InScope agent connection)
    (keeps : KeepsScope runtime agent connection (.savePermission project user permission)) :
    InScope agent { connection with
      tables.permissions := Function.update connection.tables.permissions project
        (Function.update (connection.tables.permissions project) user permission) } := by
  refine ⟨?_, scope.creating⟩
  intro saved isSaved
  dsimp only at isSaved
  by_cases sameProject : agent.project = project
  · subst sameProject
    rw [Function.update_self] at isSaved
    by_cases sameUser : agent.email = user
    · subst sameUser
      rw [Function.update_self] at isSaved
      exact keeps rfl rfl saved isSaved
    · rw [Function.update_of_ne sameUser] at isSaved
      exact scope.permission saved isSaved
  · rw [Function.update_of_ne sameProject] at isSaved
    exact scope.permission saved isSaved

theorem InScope.step {event : ConnectionEvent} (scope : InScope agent connection)
    (keeps : KeepsScope runtime agent connection event)
    (stepped : (agentConsumer runtime agent).step connection event = some next) :
    InScope agent next := by
  cases event with
  | frame payload =>
      simp only [agentConsumer, Connection.step] at stepped
      split at stepped
      · cases stepped
        exact (receiveJson_handled payload).inScope scope
      · cases stepped
  | notification event =>
      simp only [agentConsumer, Connection.step] at stepped
      split at stepped
      · cases stepped
        exact (Handled.confined notify_confined).inScope scope
      · cases stepped
  | create choice =>
      simp only [agentConsumer, Connection.step] at stepped
      split at stepped
      · rcases Option.map_eq_some_iff.mp stepped with ⟨stage, creating, rfl⟩
        exact scope.create creating keeps
      · cases stepped
  | drop =>
      simp only [agentConsumer, Connection.step] at stepped
      split at stepped
      · cases stepped
        exact ⟨scope.permission, scope.creating⟩
      · cases stepped
  | savePermission project user permission =>
      cases stepped
      exact scope.savePermission keeps
  | saveRoom | saveStatus | saveProject | authorize =>
      cases stepped
      exact ⟨scope.permission, scope.creating⟩

theorem InScope.keepsToOwn {event : ConnectionEvent} (scope : InScope agent connection)
    (keeps : KeepsScope runtime agent connection event) :
    KeepsToOwn runtime agent connection event := by
  cases event with
  | create choice =>
      cases choice with
      | declines => trivial
      | returns =>
          intro stage creating group isNotified
          cases stage with
          | notifying room =>
              rcases scope.creating _ creating with ⟨isOwn, inProject⟩
              rcases Option.bind_eq_some_iff.mp isNotified with ⟨queue, isQueue, notified⟩
              rw [isOwn, inProject queue isQueue] at notified
              rcases Option.map_eq_some_iff.mp notified with ⟨saved, isSaved, rfl⟩
              rw [scope.permission saved isSaved]
              exact .inl rfl
          | _ => cases isNotified
  | savePermission => trivial
  | _ => exact keeps

/-! ## Connecting -/

/-- What holds while the server joins the groups of the agent. -/
structure Connecting (agent : ConsumerAgent) (tables : ConsumerTables) (connection : Connection) :
    Prop where
  isolated : Isolated agent connection
  tables : connection.tables = tables
  creating : connection.creating = none

variable {tables : ConsumerTables}

theorem Connecting.addGroup (connecting : Connecting agent tables connection)
    (isOwn : agent.OwnGroup tables.queueIds group) :
    Connecting agent tables (connection.addGroup runtime group) := by
  rcases connecting with ⟨isolated, rfl, creating⟩
  rw [Connection.addGroup]
  split
  · exact ⟨⟨List.forall_mem_cons.mpr ⟨isOwn, isolated.subscribed⟩, isolated.sent⟩, rfl, creating⟩
  · exact ⟨⟨isolated.subscribed, isolated.sent⟩, rfl, creating⟩

theorem Connecting.loadQueues {queues : List String} (areOwn : queues ⊆ tables.queueIds)
    (connecting : Connecting agent tables connection) :
    Connecting agent tables (connection.loadQueues runtime queues) := by
  induction queues generalizing connection with
  | nil => exact connecting
  | cons queue queues induction =>
      rw [Connection.loadQueues, List.foldl_cons]
      apply induction (List.subset_of_cons_subset areOwn)
      split
      · exact connecting.addGroup (ConsumerAgent.ownGroup_queue_iff.mpr (areOwn List.mem_cons_self))
      · exact connecting

theorem connect_connecting (tables : ConsumerTables) :
    Connecting agent tables (connect runtime agent tables) := by
  have accepts : Connecting agent tables (accepted tables) :=
    ⟨⟨fun _ isSubscribed => absurd isSubscribed List.not_mem_nil,
      fun _ isSent => absurd isSent List.not_mem_nil⟩, rfl, rfl⟩
  have loaded : Connecting agent tables ((accepted tables).loadQueues runtime tables.queueIds) :=
    accepts.loadQueues (List.Subset.refl _)
  rw [connect, loadUser]
  split
  · exact loaded.addGroup (.inl rfl)
  · exact loaded

theorem connect_inScope
    (loaded : tables.permissions agent.project agent.email = some agent.permission) :
    InScope agent (connect runtime agent tables) := by
  have connecting : Connecting agent tables (connect runtime agent tables) :=
    connect_connecting tables
  constructor
  · intro saved isSaved
    rw [connecting.tables, loaded] at isSaved
    exact (Option.some.inj isSaved).symm
  · intro stage creating
    rw [connecting.creating] at creating
    cases creating

/-- A connection stays among the groups of its agent as long as the client joins no other one,
the agent loses no queue that the connection listens to, and the room of a message stays where
it was checked. It stays so exactly as long as the client joins no other one, the agent loses no
such queue, and no message is notified to another one. -/
theorem connection_isolated_iff (runtime : ConsumerRuntime) (agent : ConsumerAgent)
    (tables : ConsumerTables)
    (loaded : tables.permissions agent.project agent.email = some agent.permission)
    (events : List ConnectionEvent) :
    ((agentConsumer runtime agent).AllSteps (KeepsScope runtime agent)
        (connect runtime agent tables) events →
      (agentConsumer runtime agent).Throughout (Isolated agent) (connect runtime agent tables)
        events) ∧
    ((agentConsumer runtime agent).Throughout (Isolated agent) (connect runtime agent tables) events ↔
      (agentConsumer runtime agent).AllSteps (KeepsToOwn runtime agent)
        (connect runtime agent tables) events) := by
  have keeps_iff : (agentConsumer runtime agent).Throughout (Isolated agent)
      (connect runtime agent tables) events ↔ _ :=
    Machine.throughout_iff_allSteps (fun _ _ _ _ _ => trivial)
      (fun _ _ _ _ isolated stepped => step_isolated_iff isolated stepped)
      trivial (connect_connecting tables).isolated events
  refine ⟨?_, keeps_iff⟩
  intro keeps
  apply keeps_iff.mpr
  exact keeps.of_invariant (fun _ _ _ scope keeps stepped => scope.step keeps stepped)
    (fun _ _ scope keeps => scope.keepsToOwn keeps) (connect_inScope loaded)

/-! ## A message in a room of the agent, and a frame that joins the queue of somebody else -/

def plainRuntime : ConsumerRuntime where
  reprContainer := fun _ => "[]"
  loads := fun _ => none
  toUuid := fun _ => none
  accepts := fun _ => true

def oneRoomRuntime : ConsumerRuntime :=
  { plainRuntime with toUuid := fun _ => some 1 }

def salesAgent : ConsumerAgent where
  email := "agent@acme.com"
  project := 7
  permission := "a"
  connectionId := "1"

def joinSupport : JsonValue :=
  .object [("type", .string "method"), ("action", .string "join"),
    ("content", .object [("name", .string "queue"), ("id", .string "support")])]

def ownRoomTables : ConsumerTables where
  rooms := fun _ => some ⟨some "agent@acme.com", some ("sales", 7), true, false⟩
  permissions := fun _ _ => some "a"
  online := fun _ _ => false
  restrictsOfflineAgents := fun _ => false
  queueIds := ["sales"]

def writeToRoom : JsonValue :=
  .object [("type", .string "method"), ("action", .string "message_create"),
    ("content", .object [("request_id", .string "1"), ("room", .string "1")])]

def writing : List ConnectionEvent :=
  .frame writeToRoom :: List.replicate 6 (.create .returns)

theorem message_notified_to_own_permission :
    (agentConsumer oneRoomRuntime salesAgent).Throughout (Isolated salesAgent)
        (connect oneRoomRuntime salesAgent ownRoomTables) writing ∧
      ((agentConsumer oneRoomRuntime salesAgent).run
        (connect oneRoomRuntime salesAgent ownRoomTables) writing).map Connection.sent =
          some [⟨"permission_a", ["sales"]⟩] :=
  ⟨(connection_isolated_iff oneRoomRuntime salesAgent ownRoomTables rfl writing).1 (by decide),
    by decide⟩

theorem not_connection_isolated :
    ¬∀ (runtime : ConsumerRuntime) (agent : ConsumerAgent) (tables : ConsumerTables)
      (events : List ConnectionEvent),
      tables.permissions agent.project agent.email = some agent.permission →
        (agentConsumer runtime agent).Throughout (Isolated agent) (connect runtime agent tables)
          events := by
  intro isolated
  have joined : ¬(agentConsumer plainRuntime salesAgent).Throughout (Isolated salesAgent)
      (connect plainRuntime salesAgent ownRoomTables) [.frame joinSupport] := by
    decide
  exact joined (isolated _ _ _ _ rfl)

end Connection

end ChatsEngine.Websockets
