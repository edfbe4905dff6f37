import ChatsEngine.Sectors.AutomaticMessages

/-! # How often a room is opened

The message is created without a look at what has been created since the check, so that two
executions which are between their checks and their commits both open the room. No execution
opens a room in which somebody has written before its checks. -/

namespace ChatsEngine.Sectors

open AutomaticMessageTables AutomaticMessageRun AutomaticMessageStage

variable {retries : Int} {args : AutomaticMessageArgs}
  {tables after : AutomaticMessageTables} {stage : AutomaticMessageStage}
  {choice : AutomaticMessageChoice} {rest : Option AutomaticMessageStage}

namespace AutomaticMessageTables

/-- The room has been opened at most once, and by no execution that came after an agent's
message. -/
structure OpensOnce (tables : AutomaticMessageTables) : Prop where
  once : tables.opens ≤ 1
  unanswered : ∀ before ∈ tables.messagesBefore, ¬HasUserMessage before

instance : DecidablePred OpensOnce := fun tables =>
  decidable_of_iff (tables.opens ≤ 1 ∧ ∀ before ∈ tables.messagesBefore, ¬HasUserMessage before)
    ⟨fun both => ⟨both.1, both.2⟩, fun once => ⟨once.once, once.unanswered⟩⟩

def created (room : AutomaticMessageRoom) (users : Nat → Option UserEmail)
    (sectorOf : Uuid → Option Uuid) (sectors : Uuid → Option AutomaticMessageSector) :
    AutomaticMessageTables :=
  { room, users, sectorOf, sectors, messages := [], automaticMessages := [], messagesBefore := [] }

theorem opensOnce_created (room : AutomaticMessageRoom) (users : Nat → Option UserEmail)
    (sectorOf : Uuid → Option Uuid) (sectors : Uuid → Option AutomaticMessageSector) :
    (created room users sectorOf sectors).OpensOnce where
  once := Nat.zero_le 1
  unanswered := fun _ isBefore => absurd isBefore List.not_mem_nil

theorem HasUserMessage.mono {messages others : List RoomMessage}
    (has : HasUserMessage messages) (subset : messages ⊆ others) : HasUserMessage others := by
  rcases has with ⟨message, isMember, isUser⟩
  exact ⟨message, subset isMember, isUser⟩

theorem opens_commit (tables : AutomaticMessageTables) (message : RoomMessage)
    (before : List RoomMessage) :
    (tables.commit message before).opens = tables.opens + 1 := by
  simp [opens, commit]

theorem surround_keeps {event : AutomaticMessageEvent}
    (surrounded : tables.surround event = some after) :
    tables.messages ⊆ after.messages ∧ after.opens = tables.opens ∧
      after.messagesBefore = tables.messagesBefore := by
  cases event with
  | message message =>
      cases surrounded
      exact ⟨List.subset_cons_self _ _, rfl, rfl⟩
  | silentMessage message automaticMessageType =>
      simp only [surround] at surrounded
      split at surrounded
      · cases surrounded
      · next isSilent =>
          cases surrounded
          refine ⟨List.subset_cons_self _ _, ?_, rfl⟩
          simp [opens, isSilent]
  | saveRoom room =>
      cases surrounded
      exact ⟨List.Subset.refl _, rfl, rfl⟩
  | saveQueue queue sector =>
      cases surrounded
      exact ⟨List.Subset.refl _, rfl, rfl⟩
  | saveSector sector columns =>
      cases surrounded
      exact ⟨List.Subset.refl _, rfl, rfl⟩

end AutomaticMessageTables

namespace AutomaticMessageStage

def Sound (tables : AutomaticMessageTables) : AutomaticMessageStage → Prop
  | checkingAutomaticMessages _ _ before => before ⊆ tables.messages
  | checkingMessages _ _ before opens => before ⊆ tables.messages ∧ opens = 0
  | validating _ _ before opens => ¬HasUserMessage before ∧ opens = 0
  | insertingMessage _ before opens => ¬HasUserMessage before ∧ opens = 0
  | clearingCache _ before opens => ¬HasUserMessage before ∧ opens = 0
  | insertingAutomaticMessage _ before opens => ¬HasUserMessage before ∧ opens = 0
  | updatingRoom _ before opens => ¬HasUserMessage before ∧ opens = 0
  | listingMedias _ before opens => ¬HasUserMessage before ∧ opens = 0
  | updatingLastMessage _ before opens => ¬HasUserMessage before ∧ opens = 0
  | committing _ before opens => ¬HasUserMessage before ∧ opens = 0
  | _ => True

theorem Sound.mono (sound : Sound tables stage) (subset : tables.messages ⊆ after.messages) :
    Sound after stage := by
  cases stage with
  | checkingAutomaticMessages room user before => exact List.Subset.trans sound subset
  | checkingMessages room user before opens =>
      exact ⟨List.Subset.trans sound.1 subset, sound.2⟩
  | _ => exact sound

theorem Sound.some (sound : Sound tables stage) : ∀ next ∈ some stage, Sound tables next := by
  intro next isNext
  cases isNext
  exact sound

/-- An execution does not commit when another one has committed since its check. -/
def Undisturbed (tables : AutomaticMessageTables) :
    AutomaticMessageStage → AutomaticMessageChoice → Prop
  | committing _ _ opens, .returns => tables.opens = opens
  | _, _ => True

instance : DecidablePred (Undisturbed tables stage) := by
  intro choice
  unfold Undisturbed
  split <;> infer_instance

end AutomaticMessageStage

namespace AutomaticMessageRun

theorem checkSector_sound {room : AutomaticMessageRoom} {user : UserEmail}
    {sector : AutomaticMessageSector} {next : AutomaticMessageStage}
    (checked : checkSector tables room user sector = some next) : Sound tables next := by
  rw [checkSector] at checked
  split at checked
  · cases checked
  · cases checked
    exact List.Subset.refl _

theorem nextAttempt_sound {room : AutomaticMessageRoom} {user : UserEmail}
    {sector : AutomaticMessageSector} {next : AutomaticMessageStage} {attempts : Nat}
    (goesOn : nextAttempt room user sector attempts = some next) : Sound tables next := by
  cases attempts with
  | zero => cases goesOn
  | succ attempts =>
      cases goesOn
      trivial

theorem answered_sound {room : AutomaticMessageRoom} {user : UserEmail}
    {sector : AutomaticMessageSector} {next : AutomaticMessageStage} {attempts : Nat}
    {response : TicketResponse}
    (goesOn : answered tables room user sector attempts response = some next) :
    Sound tables next := by
  rw [answered] at goesOn
  split at goesOn
  · split at goesOn
    · exact nextAttempt_sound goesOn
    · cases goesOn
    · split at goesOn
      · exact checkSector_sound goesOn
      · exact nextAttempt_sound goesOn
  · exact nextAttempt_sound goesOn

inductive Executed (tables : AutomaticMessageTables) :
    AutomaticMessageStage → AutomaticMessageChoice → Result → Prop
  | committed {message : RoomMessage} {before : List RoomMessage} {opens : Nat} :
      Executed tables (committing message before opens) .returns
        (tables.commit message before, some notifying)
  | unchanged {stage : AutomaticMessageStage} {choice : AutomaticMessageChoice}
      {rest : Option AutomaticMessageStage} : Undisturbed tables stage choice →
      (∀ next ∈ rest, Sound tables next) → Executed tables stage choice (tables, rest)

theorem executed_of_returns (sound : Sound tables stage)
    (executed : returns retries args tables stage = some (after, rest)) :
    Executed tables stage .returns (after, rest) := by
  cases stage with
  | loadingRoom =>
      cases executed
      exact .unchanged trivial (by simp [Sound])
  | loadingUser room =>
      cases executed
      exact .unchanged trivial (by simp [Sound])
  | loadingQueue room user =>
      cases executed
      refine .unchanged trivial ?_
      intro next goesOn
      rcases Option.map_eq_some_iff.mp goesOn with ⟨sector, _, rfl⟩
      trivial
  | loadingSector room user sector =>
      cases executed
      refine .unchanged trivial ?_
      intro next goesOn
      rcases Option.bind_eq_some_iff.mp goesOn with ⟨columns, _, checked⟩
      split at checked
      · cases checked
        trivial
      · exact checkSector_sound checked
  | loadingProject room user sector =>
      cases executed
      exact .unchanged trivial fun _ goesOn => nextAttempt_sound goesOn
  | gettingTicket room user sector attempts => cases executed
  | checkingAutomaticMessages room user before =>
      cases executed
      refine .unchanged trivial ?_
      intro next goesOn
      split at goesOn
      · cases goesOn
      · next noneOpen =>
          cases goesOn
          exact ⟨sound, by omega⟩
  | checkingMessages room user before opens =>
      cases executed
      refine .unchanged trivial ?_
      intro next goesOn
      split at goesOn
      · cases goesOn
      · next nobody =>
          cases goesOn
          exact ⟨fun somebody => nobody (somebody.mono sound.1), sound.2⟩
  | validating room user before opens => cases executed
  | insertingMessage user before opens => cases executed
  | clearingCache message before opens =>
      cases executed
      exact .unchanged trivial (Sound.some sound)
  | insertingAutomaticMessage message before opens =>
      cases executed
      exact .unchanged trivial (Sound.some sound)
  | updatingRoom message before opens =>
      cases executed
      refine .unchanged trivial ?_
      intro next goesOn
      split at goesOn
      · cases goesOn
        exact sound
      · cases goesOn
        exact sound
  | listingMedias message before opens =>
      cases executed
      exact .unchanged trivial (Sound.some sound)
  | updatingLastMessage message before opens =>
      cases executed
      exact .unchanged trivial (Sound.some sound)
  | committing message before opens =>
      cases executed
      exact .committed
  | notifying =>
      cases executed
      exact .unchanged trivial fun _ goesOn => absurd goesOn (Option.not_mem_none _)

theorem executed_of_execute (sound : Sound tables stage)
    (executed : execute retries args tables stage choice = some (after, rest)) :
    Executed tables stage choice (after, rest) := by
  cases choice with
  | returns => exact executed_of_returns sound executed
  | answers response =>
      simp only [execute] at executed
      split at executed
      · cases executed
        exact .unchanged trivial fun _ goesOn => answered_sound goesOn
      · cases executed
  | validates is24hValid =>
      simp only [execute] at executed
      split at executed
      · cases executed
        refine .unchanged trivial ?_
        intro next goesOn
        split at goesOn
        · cases goesOn
        · cases goesOn
          exact sound
      · cases executed
  | inserts uuid createdOn =>
      simp only [execute] at executed
      split at executed
      · cases executed
        exact .unchanged trivial (Sound.some sound)
      · cases executed
  | raises =>
      cases executed
      refine .unchanged ?_ fun _ goesOn => absurd goesOn (Option.not_mem_none _)
      unfold Undisturbed
      split <;> trivial

namespace Executed

theorem messages_subset (executed : Executed tables stage choice (after, rest)) :
    tables.messages ⊆ after.messages := by
  cases executed with
  | committed => exact List.subset_cons_self _ _
  | unchanged => exact List.Subset.refl _

theorem rest_sound (executed : Executed tables stage choice (after, rest)) :
    ∀ next ∈ rest, Sound after next := by
  cases executed with
  | committed => exact Sound.some trivial
  | unchanged _ sound => exact sound

theorem unanswered (executed : Executed tables stage choice (after, rest))
    (sound : Sound tables stage)
    (unanswered : ∀ before ∈ tables.messagesBefore, ¬HasUserMessage before) :
    ∀ before ∈ after.messagesBefore, ¬HasUserMessage before := by
  cases executed with
  | committed => exact List.forall_mem_cons.mpr ⟨sound.1, unanswered⟩
  | unchanged => exact unanswered

theorem once_iff (executed : Executed tables stage choice (after, rest))
    (sound : Sound tables stage) (once : tables.opens ≤ 1) :
    after.opens ≤ 1 ↔ Undisturbed tables stage choice := by
  cases executed with
  | @committed message before opens =>
      have noneSeen : opens = 0 := sound.2
      have counted := opens_commit tables message before
      change _ ↔ tables.opens = opens
      omega
  | unchanged undisturbed => exact iff_of_true once undisturbed

end Executed

end AutomaticMessageRun

/-! ## Runs -/

section Runs

variable {Pid : Type}

theorem executed_of_advance {run : AutomaticMessageRun} {remaining : Option AutomaticMessageRun}
    (sound : Sound tables run.stage)
    (advanced : (automaticMessages retries).advance tables run choice = some (after, remaining)) :
    ∃ rest, remaining = rest.map (fun stage => { run with stage }) ∧
      Executed tables run.stage choice (after, rest) := by
  rcases Option.map_eq_some_iff.mp advanced with ⟨⟨_, rest⟩, executed, same⟩
  cases same
  exact ⟨rest, rfl, executed_of_execute sound executed⟩

/-- Messages are only added, so that what the checks have found out remains. -/
def checkedOutline (Pid : Type) (retries : Int) :
    Outline (automaticMessages retries)
      (Machine.anyStep : Pool Pid AutomaticMessageTables AutomaticMessageRun →
        PoolEvent Pid AutomaticMessageArgs AutomaticMessageChoice AutomaticMessageEvent → Prop) where
  Invariant := fun tables => ∀ before ∈ tables.messagesBefore, ¬HasUserMessage before
  Assertion := fun tables run => Sound tables run.stage
  Guarantee := fun tables after => tables.messages ⊆ after.messages
  enter := fun _ => trivial
  advance := by
    intro pool pid choice run after remaining _ running unanswered sound advanced
    rcases executed_of_advance sound advanced with ⟨rest, rfl, executed⟩
    refine ⟨executed.unanswered sound unanswered, executed.messages_subset, ?_⟩
    intro next goesOn
    rcases Option.map_eq_some_iff.mp goesOn with ⟨stage, isRest, rfl⟩
    exact executed.rest_sound stage isRest
  surround := by
    intro pool event after _ unanswered surrounded
    rcases surround_keeps surrounded with ⟨subset, _, sameBefore⟩
    exact ⟨sameBefore ▸ unanswered, subset⟩
  stable := fun subset sound => sound.mono subset

variable [DecidableEq Pid]

/-- However many executions there are, the room is opened at most once, and never after an
agent's message, exactly when no execution commits between the check and the commit of
another one. -/
theorem opensOnce_iff (retries : Int) (room : AutomaticMessageRoom)
    (users : Nat → Option UserEmail) (sectorOf : Uuid → Option Uuid)
    (sectors : Uuid → Option AutomaticMessageSector)
    (events : List
      (PoolEvent Pid AutomaticMessageArgs AutomaticMessageChoice AutomaticMessageEvent)) :
    (automaticMessages retries).machine.Throughout (fun pool => pool.shared.OpensOnce)
        (Pool.idle (created room users sectorOf sectors)) events ↔
      (automaticMessages retries).machine.AllSteps
        (fun pool event => pool.OwnStep
          (fun tables run choice => Undisturbed tables run.stage choice) event)
        (Pool.idle (created room users sectorOf sectors)) events := by
  have once := opensOnce_created room users sectorOf sectors
  apply (checkedOutline Pid retries).throughout_iff ?_ ?_ once.unanswered once
  · intro tables run choice after remaining _ sound once advanced
    rcases executed_of_advance sound advanced with ⟨rest, _, executed⟩
    constructor
    · intro onceAfter
      exact (executed.once_iff sound once.once).mp onceAfter.once
    · intro undisturbed
      exact ⟨(executed.once_iff sound once.once).mpr undisturbed,
        executed.unanswered sound once.unanswered⟩
  · intro tables event after _ once surrounded
    rcases surround_keeps surrounded with ⟨_, sameOpens, sameBefore⟩
    exact ⟨sameOpens ▸ once.once, sameBefore ▸ once.unanswered⟩

end Runs

/-! ## Two executions -/

def assignedRoom : AutomaticMessageRoom where
  ticketUuid := none
  queue := some 1
  isActive := true
  automaticMessageSentAt := none
  lastMessage := none
  lastInteraction := none

def welcomingSector : AutomaticMessageSector where
  isAutomaticMessageActive := true
  automaticMessageText := some "Welcome!"

def welcome : AutomaticMessageArgs where
  message := "Welcome!"
  userId := 1
  checkTicket := false

abbrev WelcomeEvent :=
  PoolEvent Bool AutomaticMessageArgs AutomaticMessageChoice AutomaticMessageEvent

def checks (pid : Bool) : List WelcomeEvent :=
  .start pid welcome :: List.replicate 6 (.advance pid .returns)

def creates (pid : Bool) (uuid : Uuid) : List WelcomeEvent :=
  .advance pid (.validates true) :: .advance pid (.inserts uuid uuid) ::
    List.replicate 6 (.advance pid .returns)

theorem not_opensOnce :
    ¬∀ (retries : Int) (room : AutomaticMessageRoom) (users : Nat → Option UserEmail)
      (sectorOf : Uuid → Option Uuid) (sectors : Uuid → Option AutomaticMessageSector)
      (events : List WelcomeEvent),
      (automaticMessages retries).machine.Throughout (fun pool => pool.shared.OpensOnce)
        (Pool.idle (created room users sectorOf sectors)) events := by
  intro once
  have twice : ¬(automaticMessages 3).machine.Throughout
      (fun pool : Pool Bool _ _ => pool.shared.OpensOnce)
      (Pool.idle (created assignedRoom (fun _ => some "agent@acme.com") some
        fun _ => some welcomingSector))
      (checks false ++ checks true ++ creates false 1 ++ creates true 2) := by
    decide
  exact twice (once _ _ _ _ _ _)

end ChatsEngine.Sectors
