import ChatsEngine.Core.Types
import ChatsEngine.Foundation.Pool
import ChatsEngine.Foundation.TtlStore

/-! # Agent messages with a request id

`CreateAgentMessageUseCase` claims the request id of its user in Redis before it
creates the message, and stores the message there afterwards. A request that finds
the id claimed answers with the message that it finds stored. -/

namespace ChatsEngine.Messages

/-- What the cache key `agent_message_create:{user}:{request_id}` is made of. -/
structure RequestKey where
  user : Uuid
  requestId : String
deriving DecidableEq, Repr

structure CreateSettings where
  /-- `AGENT_MESSAGE_CREATE_REQUEST_ID_CACHE_TTL`. -/
  cacheTtl : Nat
  /-- `AGENT_MESSAGE_CREATE_REQUEST_ID_POLL_ATTEMPTS`. -/
  pollAttempts : Nat
  cacheTtl_positive : 0 < cacheTtl

/-- The value of a claimed request id. -/
inductive RequestIdValue
  /-- `REQUEST_ID_PENDING_MARKER`. -/
  | pending
  | message (uuid : Uuid)
deriving DecidableEq, Repr

inductive Answer
  | success (message : Uuid)
  /-- The `duplicate_in_progress` of `_resolve_existing_message`. -/
  | duplicateInProgress
  /-- The exception that `_create_message` has raised, by its code. -/
  | raised (code : String)
deriving DecidableEq, Repr

/-- Keys are missing for requests without a request id. -/
structure CreateState where
  now : Nat
  cache : TtlStore RequestKey RequestIdValue
  /-- The uuids of the committed messages. -/
  messages : List Uuid
  /-- The messages that requests have created so far. -/
  created : List (Option RequestKey × Uuid)
  /-- The answers that requests have been given so far. -/
  answers : List (Option RequestKey × Answer)

namespace CreateState

def initial (now : Nat) (messages : List Uuid) : CreateState where
  now := now
  cache := fun _ => none
  messages := messages
  created := []
  answers := []

def createdFor (state : CreateState) (key : RequestKey) : List Uuid :=
  (state.created.filter fun creation => creation.1 = some key).map Prod.snd

def requestIdValue (state : CreateState) (key : RequestKey) : Option RequestIdValue :=
  state.cache.get state.now key

def answer (state : CreateState) (claim : Option RequestKey) (answer : Answer) :
    CreateState :=
  { state with answers := (claim, answer) :: state.answers }

def create (state : CreateState) (claim : Option RequestKey) (message : Uuid) :
    CreateState :=
  { state with
    messages := message :: state.messages
    created := (claim, message) :: state.created }

end CreateState

/-- `PostCreateAgentMessageUseCase`. -/
inductive PostCreateStep
  | notifyRoom
  | updateLastMessage
  | loadRoom
  | calculateFirstResponseTime
deriving DecidableEq, Repr

def PostCreateStep.next : PostCreateStep → Option PostCreateStep
  | .notifyRoom => some .updateLastMessage
  | .updateLastMessage => some .loadRoom
  | .loadRoom => some .calculateFirstResponseTime
  | .calculateFirstResponseTime => none

/-- The next statement of a request. From `validating` to `committing` it is inside
`_create_message`, from `saving` on inside the transaction. -/
inductive CreateStage
  | claiming (key : RequestKey)
  | resolving (key : RequestKey) (attempts : Nat)
  | fetching (key : RequestKey) (message : Uuid) (attempts : Nat)
  | validating (claim : Option RequestKey)
  | saving (claim : Option RequestKey)
  | postCreating (claim : Option RequestKey) (message : Uuid) (step : PostCreateStep)
  | committing (claim : Option RequestKey) (message : Uuid)
  | releasing (key : RequestKey) (code : String)
  | storing (key : RequestKey) (message : Uuid)
deriving DecidableEq, Repr

inductive CreateChoice
  | done
  /-- The uuid that the message is given. -/
  | saved (message : Uuid)
  | raised (code : String)
deriving DecidableEq, Repr

/-- What a request passes on: an empty request id counts as none. -/
structure CreateRequest where
  user : Uuid
  requestId : Option String
deriving DecidableEq, Repr

def CreateRequest.claim (request : CreateRequest) : Option RequestKey :=
  match request.requestId with
  | none => none
  | some requestId =>
      if requestId = "" then none else some { user := request.user, requestId }

def CreateStage.enter (request : CreateRequest) : CreateStage :=
  match request.claim with
  | some key => .claiming key
  | none => .validating none

namespace CreateState

variable (settings : CreateSettings) (state : CreateState)

abbrev Effect := CreateState × Option CreateStage

def claimRequestId (key : RequestKey) : Effect :=
  match state.cache.setNx state.now key .pending settings.cacheTtl with
  | some cache => ({ state with cache }, some (.validating (some key)))
  | none => (state, some (.resolving key settings.pollAttempts))

/-- Another attempt of `_resolve_existing_message`, if there is one left. -/
def poll (key : RequestKey) : Nat → Effect
  | 0 => (state.answer (some key) .duplicateInProgress, none)
  | attempts + 1 => (state, some (.resolving key attempts))

def getRequestIdValue (key : RequestKey) (attempts : Nat) : Effect :=
  match state.requestIdValue key with
  | some (.message message) => (state, some (.fetching key message attempts))
  | _ => state.poll key attempts

def fetch (key : RequestKey) (message : Uuid) (attempts : Nat) : Effect :=
  if message ∈ state.messages then (state.answer (some key) (.success message), none)
  else state.poll key attempts

/-- `_create_message` has raised; what it has done is rolled back. -/
def raise (claim : Option RequestKey) (code : String) : Effect :=
  match claim with
  | some key => (state, some (.releasing key code))
  | none => (state.answer none (.raised code), none)

/-- `_create_message` returns. The hook that runs after the commit only hands a task
(`register_message_improvement_task`) to the broker and is not taken to raise. -/
def commit (claim : Option RequestKey) (message : Uuid) : Effect :=
  match claim with
  | some key => (state.create (some key) message, some (.storing key message))
  | none => ((state.create none message).answer none (.success message), none)

def releaseRequestId (key : RequestKey) (code : String) : Effect :=
  ({ state with cache := state.cache.delete key }.answer (some key) (.raised code), none)

def storeRequestIdMessage (key : RequestKey) (message : Uuid) : Effect :=
  ({ state with
      cache := state.cache.set state.now key (.message message) settings.cacheTtl }.answer
    (some key) (.success message), none)

/-- A uuid that a committed message has violates the primary key. -/
def advance : CreateStage → CreateChoice → Option Effect
  | .claiming key, .done => some (state.claimRequestId settings key)
  | .resolving key attempts, .done => some (state.getRequestIdValue key attempts)
  | .fetching key message attempts, .done => some (state.fetch key message attempts)
  | .validating claim, .done => some (state, some (.saving claim))
  | .saving claim, .saved message =>
      some (if message ∈ state.messages then state.raise claim "integrity_error"
        else (state, some (.postCreating claim message .notifyRoom)))
  | .postCreating claim message step, .done =>
      some (state, some (match step.next with
        | some next => .postCreating claim message next
        | none => .committing claim message))
  | .committing claim message, .done =>
      some (if message ∈ state.messages then state.raise claim "integrity_error"
        else state.commit claim message)
  | .validating claim, .raised code => some (state.raise claim code)
  | .saving claim, .raised code => some (state.raise claim code)
  | .postCreating claim _ _, .raised code => some (state.raise claim code)
  | .committing claim _, .raised code => some (state.raise claim code)
  | .releasing key code, .done => some (state.releaseRequestId key code)
  | .storing key message, .done => some (state.storeRequestIdMessage settings key message)
  | _, _ => none

end CreateState

inductive CreateSurrounding
  | tick (elapsed : Nat)
  /-- A message that is created elsewhere. -/
  | otherMessage (message : Uuid)
  | deleteMessage (message : Uuid)
deriving DecidableEq, Repr

def CreateState.surround (state : CreateState) : CreateSurrounding → CreateState
  | .tick elapsed => { state with now := state.now + elapsed }
  | .otherMessage message => { state with messages := message :: state.messages }
  | .deleteMessage message =>
      { state with messages := state.messages.filter fun stored => stored ≠ message }

def createProgram (settings : CreateSettings) : Program CreateState CreateStage
    CreateRequest CreateChoice CreateSurrounding where
  enter := .enter
  advance := fun state stage choice => state.advance settings stage choice
  surround := fun state event => some (state.surround event)

abbrev CreatePool (Pid : Type) := Pool Pid CreateState CreateStage

abbrev CreateEvent (Pid : Type) :=
  PoolEvent Pid CreateRequest CreateChoice CreateSurrounding

/-! ## The states of a request id -/

/-- A request id is free, claimed, claimed with its message created, or completed. -/
inductive KeyState
  | free
  | claimed
  | created (message : Uuid)
  | completed (message : Uuid)
deriving DecidableEq, Repr

def KeyState.value : KeyState → Option RequestIdValue
  | .free => none
  | .claimed => some .pending
  | .created _ => some .pending
  | .completed message => some (.message message)

def KeyState.messages : KeyState → List Uuid
  | .free => []
  | .claimed => []
  | .created message => [message]
  | .completed message => [message]

namespace CreateState

variable {settings : CreateSettings} {state after : CreateState} {key other : RequestKey}
  {keyState : KeyState} {message : Uuid}

/-- The store and the messages created agree on the state of the request id, and no
request has answered with another message. -/
structure Tracks (state : CreateState) (key : RequestKey) (keyState : KeyState) : Prop where
  value : state.requestIdValue key = keyState.value
  messages : state.createdFor key = keyState.messages
  answered : ∀ message, (some key, Answer.success message) ∈ state.answers →
    keyState.messages = [message]

theorem Tracks.eq_completed (tracks : state.Tracks key keyState)
    (stored : state.requestIdValue key = some (.message message)) :
    keyState = .completed message := by
  have value := tracks.value.symm.trans stored
  cases keyState <;> cases value
  rfl

theorem Tracks.eq_free (tracks : state.Tracks key keyState)
    (free : state.requestIdValue key = none) : keyState = .free := by
  have value := tracks.value.symm.trans free
  cases keyState <;> cases value
  rfl

theorem Tracks.of_same (tracks : state.Tracks key keyState)
    (value : after.requestIdValue key = state.requestIdValue key)
    (created : after.createdFor key = state.createdFor key)
    (answered : ∀ message, (some key, Answer.success message) ∈ after.answers →
      (some key, Answer.success message) ∈ state.answers ∨
        state.createdFor key = [message]) :
    after.Tracks key keyState where
  value := value.trans tracks.value
  messages := created.trans tracks.messages
  answered := by
    intro message isAnswer
    rcases answered message isAnswer with before | isCreated
    · exact tracks.answered message before
    · exact tracks.messages.symm.trans isCreated

end CreateState

/-- What a request knows about a request id: that it has claimed it, and whether it has
created the message for it, or which message it has found there. -/
inductive KeyRole
  | outside
  | owner
  | creator (message : Uuid)
  | reader (message : Uuid)
deriving DecidableEq, Repr

/-- The role of a request inside `_create_message`. -/
def claimRole (key : RequestKey) (claim : Option RequestKey) : KeyRole :=
  if claim = some key then .owner else .outside

def CreateStage.role (key : RequestKey) : CreateStage → KeyRole
  | .validating claim => claimRole key claim
  | .saving claim => claimRole key claim
  | .postCreating claim _ _ => claimRole key claim
  | .committing claim _ => claimRole key claim
  | .releasing claimed _ => claimRole key (some claimed)
  | .storing claimed message => if claimed = key then .creator message else .outside
  | .fetching claimed message _ => if claimed = key then .reader message else .outside
  | _ => .outside

def KeyRole.Holds : KeyRole → Prop
  | .owner => True
  | .creator _ => True
  | _ => False

instance : DecidablePred KeyRole.Holds
  | .owner => inferInstanceAs (Decidable True)
  | .creator _ => inferInstanceAs (Decidable True)
  | .outside => inferInstanceAs (Decidable False)
  | .reader _ => inferInstanceAs (Decidable False)

namespace CreateState

variable {settings : CreateSettings} {state after : CreateState} {stage : CreateStage}
  {choice : CreateChoice} {rest : Option CreateStage} {key other : RequestKey}
  {claim : Option RequestKey} {message : Uuid}

theorem createdFor_create_self :
    (state.create (some key) message).createdFor key = message :: state.createdFor key := by
  simp [createdFor, create]

theorem createdFor_create_other (different : claim ≠ some key) :
    (state.create claim message).createdFor key = state.createdFor key := by
  simp [createdFor, create, different]

theorem mem_answers_answer {answer : Answer} {success : Uuid} :
    (some key, Answer.success success) ∈ (state.answer claim answer).answers ↔
      (claim = some key ∧ answer = .success success) ∨
        (some key, Answer.success success) ∈ state.answers := by
  rw [CreateState.answer, List.mem_cons, Prod.mk.injEq]
  constructor
  · intro member
    rcases member with ⟨isKey, isSuccess⟩ | before
    · exact .inl ⟨isKey.symm, isSuccess.symm⟩
    · exact .inr before
  · intro member
    rcases member with ⟨isKey, isSuccess⟩ | before
    · exact .inl ⟨isKey.symm, isSuccess.symm⟩
    · exact .inr before

def SparesAnswers (key : RequestKey) (state after : CreateState) : Prop :=
  after.answers = state.answers ∨
    ∃ claim answer, after.answers = (claim, answer) :: state.answers ∧
      (claim = some key → answer = .duplicateInProgress)

theorem SparesAnswers.success (spares : SparesAnswers key state after)
    (answered : (some key, Answer.success message) ∈ after.answers) :
    (some key, Answer.success message) ∈ state.answers := by
  rcases spares with same | ⟨claim, answer, isAnswer, spared⟩
  · rw [same] at answered
    exact answered
  · rw [isAnswer] at answered
    cases answered with
    | head => cases spared rfl
    | tail _ before => exact before

theorem sparesAnswers_refl : SparesAnswers key state state := .inl rfl

/-- What a statement does to a request id, and to what its request knows about it. -/
inductive KeyEffect (key : RequestKey) (state : CreateState) (role : KeyRole)
    (after : CreateState) (rest : Option CreateStage) : Prop
  | claimed :
      state.requestIdValue key = none → after.requestIdValue key = some .pending →
      after.createdFor key = state.createdFor key → after.answers = state.answers →
      (∀ remaining, rest = some remaining → remaining.role key = .owner) →
      KeyEffect key state role after rest
  | created (message : Uuid) :
      role = .owner → after = state.create (some key) message →
      (∀ remaining, rest = some remaining → remaining.role key = .creator message) →
      KeyEffect key state role after rest
  | completed (message : Uuid) :
      role = .creator message → after.requestIdValue key = some (.message message) →
      after.createdFor key = state.createdFor key →
      after.answers = (some key, .success message) :: state.answers → rest = none →
      KeyEffect key state role after rest
  | released (code : String) :
      role = .owner → after.requestIdValue key = none →
      after.createdFor key = state.createdFor key →
      after.answers = (some key, .raised code) :: state.answers → rest = none →
      KeyEffect key state role after rest
  | found (message : Uuid) :
      state.requestIdValue key = some (.message message) → after = state →
      (∀ remaining, rest = some remaining → remaining.role key = .reader message) →
      KeyEffect key state role after rest
  | read (message : Uuid) :
      role = .reader message → after = state.answer (some key) (.success message) →
      rest = none → KeyEffect key state role after rest
  | kept :
      after.requestIdValue key = state.requestIdValue key →
      after.createdFor key = state.createdFor key →
      SparesAnswers key state after →
      (∀ remaining, rest = some remaining →
        remaining.role key = role ∨ remaining.role key = .outside) →
      KeyEffect key state role after rest

theorem KeyEffect.released_of_raised {role : KeyRole} {code : String}
    (effect : KeyEffect key state role after rest)
    (raised : after.answers = (some key, .raised code) :: state.answers) :
    role = .owner ∧ after.requestIdValue key = none ∧
      after.createdFor key = state.createdFor key ∧ rest = none := by
  cases effect with
  | claimed _ _ _ answers _ => simp [answers] at raised
  | created message _ isAfter _ => simp [isAfter, create] at raised
  | completed message _ _ _ answers _ => simp [answers] at raised
  | released code isOwner value created _ ended => exact ⟨isOwner, value, created, ended⟩
  | found message _ isAfter _ => simp [isAfter] at raised
  | read message _ isAfter _ => simp [isAfter, answer] at raised
  | kept _ _ answered _ =>
      rcases answered with same | ⟨claim, answer, isAnswer, spared⟩
      · simp [same] at raised
      · rw [isAnswer] at raised
        cases raised
        cases spared rfl

theorem KeyEffect.kept_of_duplicate {role : KeyRole}
    (effect : KeyEffect key state role after rest)
    (duplicate : after.answers = (some key, .duplicateInProgress) :: state.answers) :
    after.requestIdValue key = state.requestIdValue key ∧
      after.createdFor key = state.createdFor key := by
  cases effect with
  | claimed _ _ _ answers _ => simp [answers] at duplicate
  | created message _ isAfter _ => simp [isAfter, create] at duplicate
  | completed message _ _ _ answers _ => simp [answers] at duplicate
  | released code _ _ _ answers _ => simp [answers] at duplicate
  | found message _ isAfter _ => simp [isAfter] at duplicate
  | read message _ isAfter _ => simp [isAfter, answer] at duplicate
  | kept value created _ _ => exact ⟨value, created⟩

theorem KeyEffect.of_unchanged {role : KeyRole} {remaining : CreateStage}
    (roles : remaining.role key = role ∨ remaining.role key = .outside) :
    KeyEffect key state role state (some remaining) := by
  refine .kept rfl rfl sparesAnswers_refl ?_
  intro goingOn isRemaining
  cases isRemaining
  exact roles

theorem KeyEffect.of_answer {role : KeyRole} {answer : Answer}
    (spares : claim = some key → answer = .duplicateInProgress) :
    KeyEffect key state role (state.answer claim answer) none :=
  .kept rfl rfl (.inr ⟨claim, answer, rfl, spares⟩) nofun

theorem keyEffect_claimRequestId {role : KeyRole}
    (isEffect : state.claimRequestId settings other = (after, rest)) :
    KeyEffect key state role after rest := by
  rw [claimRequestId] at isEffect
  split at isEffect
  · next cache adds =>
      cases isEffect
      rcases TtlStore.setNx_eq_some adds with ⟨free, rfl⟩
      by_cases same : key = other
      · subst same
        refine .claimed free (TtlStore.get_set_self settings.cacheTtl_positive) rfl rfl ?_
        intro remaining isRemaining
        cases isRemaining
        exact if_pos rfl
      · refine .kept (TtlStore.get_set_other same) rfl sparesAnswers_refl ?_
        intro remaining isRemaining
        cases isRemaining
        have outside : (CreateStage.validating (some other)).role key = .outside :=
          if_neg fun impossible => same (Option.some.inj impossible).symm
        exact .inr outside
  · cases isEffect
    exact .of_unchanged (.inr rfl)

theorem keyEffect_poll {role : KeyRole} {attempts : Nat}
    (isEffect : state.poll other attempts = (after, rest)) :
    KeyEffect key state role after rest := by
  cases attempts with
  | zero =>
      cases isEffect
      exact .of_answer fun _ => rfl
  | succ attempts =>
      cases isEffect
      exact .of_unchanged (.inr rfl)

theorem keyEffect_getRequestIdValue {role : KeyRole} {attempts : Nat}
    (isEffect : state.getRequestIdValue other attempts = (after, rest)) :
    KeyEffect key state role after rest := by
  rw [getRequestIdValue] at isEffect
  split at isEffect
  · next message stored =>
      cases isEffect
      by_cases same : other = key
      · subst same
        refine .found message stored rfl ?_
        intro remaining isRemaining
        cases isRemaining
        exact if_pos rfl
      · exact .of_unchanged (.inr (if_neg same))
  · exact keyEffect_poll isEffect

theorem keyEffect_fetch {attempts : Nat}
    (isEffect : state.fetch other message attempts = (after, rest)) :
    KeyEffect key state ((CreateStage.fetching other message attempts).role key) after rest := by
  rw [fetch] at isEffect
  split at isEffect
  · cases isEffect
    by_cases same : other = key
    · subst same
      exact .read message (if_pos rfl) rfl rfl
    · exact .of_answer fun isKey => absurd (Option.some.inj isKey) same
  · exact keyEffect_poll isEffect

theorem keyEffect_raise {code : String} (isEffect : state.raise claim code = (after, rest)) :
    KeyEffect key state (claimRole key claim) after rest := by
  cases claim with
  | none =>
      cases isEffect
      exact .of_answer nofun
  | some claimed =>
      cases isEffect
      exact .of_unchanged (.inl rfl)

theorem keyEffect_commit (isEffect : state.commit claim message = (after, rest)) :
    KeyEffect key state (claimRole key claim) after rest := by
  cases claim with
  | none =>
      cases isEffect
      exact .kept rfl (createdFor_create_other nofun) (.inr ⟨_, _, rfl, nofun⟩) nofun
  | some claimed =>
      cases isEffect
      by_cases same : claimed = key
      · subst same
        refine .created message (if_pos rfl) rfl ?_
        intro remaining isRemaining
        cases isRemaining
        exact if_pos rfl
      · refine .kept rfl (createdFor_create_other (by simpa using same)) sparesAnswers_refl ?_
        intro remaining isRemaining
        cases isRemaining
        exact .inr (if_neg same)

theorem keyEffect_releaseRequestId {code : String}
    (isEffect : state.releaseRequestId other code = (after, rest)) :
    KeyEffect key state ((CreateStage.releasing other code).role key) after rest := by
  cases isEffect
  by_cases same : other = key
  · subst same
    exact .released code (if_pos rfl) TtlStore.get_delete_self rfl rfl rfl
  · have spares : some other = some key → Answer.raised code = .duplicateInProgress :=
      fun isKey => absurd (Option.some.inj isKey) same
    exact .kept (TtlStore.get_delete_other (Ne.symm same)) rfl (.inr ⟨_, _, rfl, spares⟩) nofun

theorem keyEffect_storeRequestIdMessage
    (isEffect : state.storeRequestIdMessage settings other message = (after, rest)) :
    KeyEffect key state ((CreateStage.storing other message).role key) after rest := by
  cases isEffect
  by_cases same : other = key
  · subst same
    exact .completed message (if_pos rfl) (TtlStore.get_set_self settings.cacheTtl_positive)
      rfl rfl rfl
  · have spares : some other = some key → Answer.success message = .duplicateInProgress :=
      fun isKey => absurd (Option.some.inj isKey) same
    exact .kept (TtlStore.get_set_other (Ne.symm same)) rfl (.inr ⟨_, _, rfl, spares⟩) nofun

theorem keyEffect_of_advance
    (advanced : state.advance settings stage choice = some (after, rest)) :
    KeyEffect key state (stage.role key) after rest := by
  rw [advance.eq_def] at advanced
  split at advanced
  · exact keyEffect_claimRequestId (Option.some.inj advanced)
  · exact keyEffect_getRequestIdValue (Option.some.inj advanced)
  · exact keyEffect_fetch (Option.some.inj advanced)
  · cases advanced
    exact .of_unchanged (.inl rfl)
  · split at advanced
    · exact keyEffect_raise (Option.some.inj advanced)
    · cases advanced
      exact .of_unchanged (.inl rfl)
  · cases advanced
    apply KeyEffect.of_unchanged
    left
    split <;> rfl
  · split at advanced
    · exact keyEffect_raise (Option.some.inj advanced)
    · exact keyEffect_commit (Option.some.inj advanced)
  · exact keyEffect_raise (Option.some.inj advanced)
  · exact keyEffect_raise (Option.some.inj advanced)
  · exact keyEffect_raise (Option.some.inj advanced)
  · exact keyEffect_raise (Option.some.inj advanced)
  · exact keyEffect_releaseRequestId (Option.some.inj advanced)
  · exact keyEffect_storeRequestIdMessage (Option.some.inj advanced)
  · cases advanced

end CreateState

/-! ## What requests know -/

def KeyRole.Knows (state : CreateState) (key : RequestKey) : KeyRole → Prop
  | .outside => True
  | .owner => state.Tracks key .claimed
  | .creator message => state.Tracks key (.created message)
  | .reader message => state.createdFor key = [message]

namespace KeyRole

open CreateState

variable {state after : CreateState} {key : RequestKey} {role other : KeyRole}
  {rest : Option CreateStage} {keyState : KeyState}

theorem Knows.of_same (knows : role.Knows state key)
    (value : after.requestIdValue key = state.requestIdValue key)
    (created : after.createdFor key = state.createdFor key)
    (answered : ∀ message, (some key, Answer.success message) ∈ after.answers →
      (some key, Answer.success message) ∈ state.answers ∨
        state.createdFor key = [message]) :
    role.Knows after key := by
  cases role with
  | outside => trivial
  | owner => exact Tracks.of_same knows value created answered
  | creator message => exact Tracks.of_same knows value created answered
  | reader message => exact created.trans knows

theorem Knows.outside_of_free (knows : role.Knows state key) (tracks : state.Tracks key .free) :
    role = .outside := by
  cases role with
  | outside => rfl
  | owner => cases knows.value.symm.trans tracks.value
  | creator message => cases knows.value.symm.trans tracks.value
  | reader message => cases knows.symm.trans tracks.messages

theorem Knows.outside_of_claimed (knows : role.Knows state key) (notHolds : ¬role.Holds)
    (tracks : state.Tracks key .claimed) : role = .outside := by
  cases role with
  | outside => rfl
  | owner => exact absurd trivial notHolds
  | creator message => exact absurd trivial notHolds
  | reader message => cases knows.symm.trans tracks.messages

theorem Knows.of_created (knows : role.Knows state key) (notHolds : ¬role.Holds)
    (created : after.createdFor key = state.createdFor key) : role.Knows after key := by
  cases role with
  | outside => trivial
  | owner => exact absurd trivial notHolds
  | creator message => exact absurd trivial notHolds
  | reader message => exact created.trans knows

theorem knows_of_keyEffect (effect : KeyEffect key state role after rest)
    (tracks : state.Tracks key keyState) (knows : role.Knows state key) :
    (∃ afterState, after.Tracks key afterState) ∧
      ∀ remaining, rest = some remaining → (remaining.role key).Knows after key := by
  cases effect with
  | claimed free value created answers roles =>
      cases tracks.eq_free free
      have claimed : after.Tracks key .claimed := by
        refine ⟨value, created.trans tracks.messages, ?_⟩
        rw [answers]
        exact tracks.answered
      refine ⟨⟨_, claimed⟩, ?_⟩
      intro remaining remains
      rw [roles remaining remains]
      exact claimed
  | created message isOwner isAfter roles =>
      subst isOwner isAfter
      have before : state.Tracks key .claimed := knows
      have created : (state.create (some key) message).Tracks key (.created message) := by
        refine ⟨before.value, ?_, ?_⟩
        · rw [createdFor_create_self, before.messages]
          rfl
        · intro success answered
          cases before.answered success answered
      refine ⟨⟨_, created⟩, ?_⟩
      intro remaining remains
      rw [roles remaining remains]
      exact created
  | completed message isCreator value created answers ended =>
      subst isCreator ended
      have before : state.Tracks key (.created message) := knows
      refine ⟨⟨.completed message, value, created.trans before.messages, ?_⟩, nofun⟩
      intro success answered
      rw [answers] at answered
      cases answered with
      | head => rfl
      | tail _ earlier => exact before.answered success earlier
  | released code isOwner value created answers ended =>
      subst isOwner ended
      have before : state.Tracks key .claimed := knows
      refine ⟨⟨.free, value, created.trans before.messages, ?_⟩, nofun⟩
      intro success answered
      rw [answers] at answered
      cases answered with
      | tail _ earlier => exact before.answered success earlier
  | found message stored isAfter roles =>
      subst isAfter
      refine ⟨⟨_, tracks⟩, ?_⟩
      intro remaining remains
      rw [roles remaining remains]
      cases tracks.eq_completed stored
      exact tracks.messages
  | read message isReader isAfter ended =>
      subst isReader isAfter ended
      refine ⟨⟨_, tracks.of_same rfl rfl ?_⟩, nofun⟩
      intro success answered
      rcases mem_answers_answer.mp answered with ⟨_, isSuccess⟩ | before
      · cases isSuccess
        exact .inr knows
      · exact .inl before
  | kept value created answered roles =>
      have answeredBefore : ∀ success, (some key, Answer.success success) ∈ after.answers →
          (some key, Answer.success success) ∈ state.answers ∨
            state.createdFor key = [success] :=
        fun success isAnswer => .inl (answered.success isAnswer)
      refine ⟨⟨_, tracks.of_same value created answeredBefore⟩, ?_⟩
      intro remaining remains
      rcases roles remaining remains with same | outside
      · rw [same]
        exact knows.of_same value created answeredBefore
      · rw [outside]
        trivial

theorem others_know_of_keyEffect (effect : KeyEffect key state role after rest)
    (tracks : state.Tracks key keyState) (knows : role.Knows state key)
    (otherKnows : other.Knows state key) (notBoth : ¬(role.Holds ∧ other.Holds)) :
    other.Knows after key ∧
      ∀ remaining, rest = some remaining → ¬((remaining.role key).Holds ∧ other.Holds) := by
  cases effect with
  | claimed free value created answers roles =>
      cases tracks.eq_free free
      cases otherKnows.outside_of_free tracks
      exact ⟨trivial, fun _ _ both => both.2⟩
  | created message isOwner isAfter roles =>
      subst isOwner
      have notHolds : ¬other.Holds := fun holds => notBoth ⟨trivial, holds⟩
      cases otherKnows.outside_of_claimed notHolds knows
      exact ⟨trivial, fun _ _ both => both.2⟩
  | completed message isCreator value created answers ended =>
      subst isCreator ended
      have notHolds : ¬other.Holds := fun holds => notBoth ⟨trivial, holds⟩
      exact ⟨otherKnows.of_created notHolds created, nofun⟩
  | released code isOwner value created answers ended =>
      subst isOwner ended
      have notHolds : ¬other.Holds := fun holds => notBoth ⟨trivial, holds⟩
      exact ⟨otherKnows.of_created notHolds created, nofun⟩
  | found message stored isAfter roles =>
      subst isAfter
      refine ⟨otherKnows, ?_⟩
      intro remaining remains both
      rw [roles remaining remains] at both
      exact both.1
  | read message isReader isAfter ended =>
      subst isReader isAfter ended
      refine ⟨otherKnows.of_same rfl rfl ?_, nofun⟩
      intro success answered
      rcases mem_answers_answer.mp answered with ⟨_, isSuccess⟩ | before
      · cases isSuccess
        exact .inr knows
      · exact .inl before
  | kept value created answered roles =>
      refine ⟨otherKnows.of_same value created fun success isAnswer =>
        .inl (answered.success isAnswer), ?_⟩
      intro remaining remains both
      rcases roles remaining remains with same | outside
      · rw [same] at both
        exact notBoth both
      · rw [outside] at both
        exact both.1

end KeyRole

def WithinTimeToLive {Pid : Type} (key : RequestKey) (pool : CreatePool Pid) :
    CreateEvent Pid → Prop
  | .surround (.tick elapsed) =>
      pool.shared.cache.Unexpired (pool.shared.now + elapsed) key
  | _ => True

instance {Pid : Type} (key : RequestKey) (pool : CreatePool Pid) :
    (event : CreateEvent Pid) → Decidable (WithinTimeToLive key pool event)
  | .surround (.tick elapsed) =>
      inferInstanceAs (Decidable
        (pool.shared.cache.Unexpired (pool.shared.now + elapsed) key))
  | .surround (.otherMessage _) => inferInstanceAs (Decidable True)
  | .surround (.deleteMessage _) => inferInstanceAs (Decidable True)
  | .start _ _ => inferInstanceAs (Decidable True)
  | .advance _ _ => inferInstanceAs (Decidable True)
  | .kill _ => inferInstanceAs (Decidable True)

theorem CreateStage.role_enter (key : RequestKey) (request : CreateRequest) :
    (CreateStage.enter request).role key = .outside := by
  rw [CreateStage.enter]
  split
  · rfl
  · simp [CreateStage.role, claimRole]

/-- Every request knows what it needs to know, and at most one holds the claim. -/
def requestIdOutline (Pid : Type) (settings : CreateSettings) (key : RequestKey) :
    PairOutline (createProgram settings)
      (WithinTimeToLive key : CreatePool Pid → CreateEvent Pid → Prop) where
  Invariant := fun state => ∃ keyState, state.Tracks key keyState
  Assertion := fun state stage => (stage.role key).Knows state key
  Compatible := fun left right => ¬((left.role key).Holds ∧ (right.role key).Holds)
  symmetric := fun notBoth both => notBoth both.symm
  enter := by
    intro state request _
    have outside := CreateStage.role_enter key request
    dsimp only [createProgram]
    rw [outside]
    trivial
  enterCompatible := by
    intro request stage both
    have outside := CreateStage.role_enter key request
    dsimp only [createProgram] at both
    rw [outside] at both
    exact both.1
  advance := by
    intro pool pid choice stage after rest _ _ invariant knows advanced
    rcases invariant with ⟨keyState, tracks⟩
    exact KeyRole.knows_of_keyEffect (CreateState.keyEffect_of_advance advanced) tracks knows
  advanceOther := by
    intro pool pid choice stage after rest _ _ invariant knows advanced other otherStage _ _
      otherKnows notBoth
    rcases invariant with ⟨keyState, tracks⟩
    exact KeyRole.others_know_of_keyEffect (CreateState.keyEffect_of_advance advanced) tracks
      knows otherKnows notBoth
  surround := by
    intro pool event after meets invariant surrounded
    rcases invariant with ⟨keyState, tracks⟩
    cases surrounded
    have value : (pool.shared.surround event).requestIdValue key =
        pool.shared.requestIdValue key := by
      cases event with
      | tick elapsed => exact TtlStore.get_later meets (Nat.le_add_right _ _)
      | otherMessage message => rfl
      | deleteMessage message => rfl
    have created : (pool.shared.surround event).createdFor key =
        pool.shared.createdFor key := by
      cases event <;> rfl
    have answers : (pool.shared.surround event).answers = pool.shared.answers := by
      cases event <;> rfl
    have answered : ∀ message,
        (some key, Answer.success message) ∈ (pool.shared.surround event).answers →
        (some key, Answer.success message) ∈ pool.shared.answers ∨
          pool.shared.createdFor key = [message] := by
      intro message isAnswer
      rw [answers] at isAnswer
      exact .inl isAnswer
    exact ⟨⟨keyState, tracks.of_same value created answered⟩,
      fun _ _ _ knows => knows.of_same value created answered⟩

theorem CreateState.initial_tracks (now : Nat) (messages : List Uuid) (key : RequestKey) :
    (CreateState.initial now messages).Tracks key .free where
  value := rfl
  messages := rfl
  answered := fun _ member => by cases member

/-! ## Retries -/

section Retries

variable {Pid : Type} [DecidableEq Pid] {settings : CreateSettings} {key : RequestKey}

def undisturbedRequest (pid : Pid) (request : CreateRequest) (message : Uuid) :
    List (CreateEvent Pid) :=
  [.start pid request, .advance pid .done, .advance pid .done, .advance pid (.saved message),
    .advance pid .done, .advance pid .done, .advance pid .done, .advance pid .done,
    .advance pid .done, .advance pid .done]

theorem undisturbedCreation_creates {pool : CreatePool Pid} (pid : Pid) {message : Uuid}
    (fresh : message ∉ pool.shared.messages) :
    ∃ last, (createProgram settings).machine.run
        (pool.set pid (some (.validating (some key))))
        [.advance pid .done, .advance pid (.saved message), .advance pid .done,
          .advance pid .done, .advance pid .done, .advance pid .done, .advance pid .done,
          .advance pid .done] = some last ∧
      last.shared.createdFor key = message :: pool.shared.createdFor key ∧
      (some key, Answer.success message) ∈ last.shared.answers := by
  have saved : (createProgram settings).advance pool.shared (.saving (some key))
      (.saved message) =
        some (pool.shared, some (.postCreating (some key) message .notifyRoom)) := by
    simp [createProgram, CreateState.advance, fresh]
  have committed : (createProgram settings).advance pool.shared (.committing (some key) message)
      .done = some (pool.shared.create (some key) message, some (.storing key message)) := by
    simp [createProgram, CreateState.advance, CreateState.commit, fresh]
  rw [Program.run_advance_unchanged rfl, Program.run_advance_unchanged saved,
    Program.run_advance_unchanged rfl, Program.run_advance_unchanged rfl,
    Program.run_advance_unchanged rfl, Program.run_advance_unchanged rfl]
  dsimp only [PostCreateStep.next]
  rw [Program.run_advance_set committed, Program.run_advance_set rfl]
  refine ⟨_, rfl, ?_, ?_⟩
  · exact CreateState.createdFor_create_self
  · exact List.mem_cons_self

theorem undisturbedRequest_creates {pool : CreatePool Pid} {pid : Pid}
    {request : CreateRequest} {message : Uuid} (idle : pool.process pid = none)
    (claims : request.claim = some key) (free : pool.shared.requestIdValue key = none)
    (fresh : message ∉ pool.shared.messages) :
    ∃ last, (createProgram settings).machine.run pool
        (undisturbedRequest pid request message) = some last ∧
      last.shared.createdFor key = message :: pool.shared.createdFor key ∧
      (some key, Answer.success message) ∈ last.shared.answers := by
  have entered : (createProgram settings).enter request = .claiming key := by
    simp only [createProgram, CreateStage.enter, claims]
  have claimed : (createProgram settings).advance pool.shared (.claiming key) .done =
      some ({ pool.shared with
        cache := pool.shared.cache.set pool.shared.now key .pending settings.cacheTtl },
        some (.validating (some key))) := by
    simp only [createProgram, CreateState.advance, CreateState.claimRequestId,
      TtlStore.setNx_of_free free]
  rw [undisturbedRequest, Program.run_start request idle, entered,
    Program.run_advance_set claimed]
  rw [← show CreateState.createdFor { pool.shared with
    cache := pool.shared.cache.set pool.shared.now key .pending settings.cacheTtl } key =
      pool.shared.createdFor key from rfl]
  have stillFresh : message ∉ CreateState.messages { pool.shared with
    cache := pool.shared.cache.set pool.shared.now key .pending settings.cacheTtl } := fresh
  exact undisturbedCreation_creates pid stillFresh

end Retries

/-- While the request id does not expire, at most one message is created for it, and
every success answers with that message. A request that raises leaves the request id
free, and a retry creates the message; one that gives up leaves it as it is. -/
theorem request_creates_one_message {Pid : Type} [DecidableEq Pid] (settings : CreateSettings)
    (now : Nat) (messages : List Uuid) (key : RequestKey) {final : CreatePool Pid}
    (reaches : (createProgram settings).machine.Reaches (WithinTimeToLive key)
      (Pool.idle (.initial now messages)) final) :
    (final.shared.createdFor key).length ≤ 1 ∧
    (∀ message, (some key, Answer.success message) ∈ final.shared.answers →
      final.shared.createdFor key = [message]) ∧
    (∀ pid choice next, (createProgram settings).machine.step final (.advance pid choice) =
        some next →
      (∀ code, next.shared.answers = (some key, .raised code) :: final.shared.answers →
        next.shared.requestIdValue key = none ∧ next.shared.createdFor key = [] ∧
        ∀ request message, request.claim = some key → message ∉ next.shared.messages →
          ∃ last, (createProgram settings).machine.run next
              (undisturbedRequest pid request message) = some last ∧
            last.shared.createdFor key = [message] ∧
            (some key, Answer.success message) ∈ last.shared.answers) ∧
      (next.shared.answers = (some key, .duplicateInProgress) :: final.shared.answers →
        next.shared.requestIdValue key = final.shared.requestIdValue key ∧
        next.shared.createdFor key = final.shared.createdFor key)) := by
  have outline := (requestIdOutline Pid settings key).holds_of_reaches reaches
    ((requestIdOutline Pid settings key).holds_of_isIdle
      ⟨.free, CreateState.initial_tracks now messages key⟩ (Pool.idle_isIdle _))
  rcases outline.shared with ⟨keyState, tracks⟩
  refine ⟨?_, ?_, ?_⟩
  · rw [tracks.messages]
    cases keyState <;> simp [KeyState.messages]
  · intro message answered
    exact tracks.messages.trans (tracks.answered message answered)
  · intro pid choice next stepped
    rcases Program.step_advance stepped with ⟨stage, after, rest, running, advanced, rfl⟩
    have knows : (stage.role key).Knows final.shared key := outline.locals pid stage running
    have effect : CreateState.KeyEffect key final.shared (stage.role key) after rest :=
      CreateState.keyEffect_of_advance advanced
    constructor
    · intro code answers
      rcases effect.released_of_raised answers with ⟨isOwner, free, created, ended⟩
      rw [isOwner] at knows
      have noneCreated : after.createdFor key = [] := created.trans knows.messages
      refine ⟨free, noneCreated, ?_⟩
      intro request message claims fresh
      have idle : ({ final with shared := after }.set pid rest).process pid = none := by
        rw [Pool.set_process_self]
        exact ended
      rcases undisturbedRequest_creates idle claims free fresh with
        ⟨last, ran, isCreated, answered⟩
      exact ⟨last, ran, isCreated.trans (congrArg _ noneCreated), answered⟩
    · intro answers
      exact effect.kept_of_duplicate answers

/-! ## A request that is repeated -/

inductive Requester
  | first
  | second
deriving DecidableEq, Repr

instance : Fintype Requester :=
  ⟨{.first, .second}, fun requester => by cases requester <;> decide⟩

def oneDay : CreateSettings := ⟨86400, 10, by decide⟩

def greetingKey : RequestKey := ⟨4, "greeting"⟩

def greeting : CreateRequest := ⟨4, some "greeting"⟩

/-- The first request fails in its transaction. Its retry is repeated while it creates
the message. -/
def repeatedRequest : List (CreateEvent Requester) :=
  [.start .first greeting, .advance .first .done, .advance .first .done,
    .advance .first (.raised "room_closed"), .advance .first .done,
    .start .first greeting, .start .second greeting, .advance .first .done,
    .advance .second .done, .advance .second .done, .advance .first .done,
    .advance .first (.saved 7)] ++
  List.replicate 5 (.advance .first .done) ++
  [.surround (.tick 60), .advance .second .done, .advance .first .done,
    .advance .second .done, .advance .second .done]

theorem request_creates_one_message_when_repeated :
    ∃ final, (createProgram oneDay).machine.runMeeting (WithinTimeToLive greetingKey)
        (Pool.idle (.initial 0 [])) repeatedRequest = some final ∧
      final.shared.answers = [(some greetingKey, .success 7), (some greetingKey, .success 7),
        (some greetingKey, .raised "room_closed")] ∧
      final.shared.createdFor greetingKey = [7] := by
  have ends : ((createProgram oneDay).machine.runMeeting (WithinTimeToLive greetingKey)
      (Pool.idle (.initial 0 [])) repeatedRequest).map (fun pool => pool.shared.answers) =
      some [(some greetingKey, .success 7), (some greetingKey, .success 7),
        (some greetingKey, .raised "room_closed")] := by
    decide
  rcases Option.map_eq_some_iff.mp ends with ⟨final, ran, answers⟩
  refine ⟨final, ran, answers, ?_⟩
  have creates := request_creates_one_message oneDay 0 [] greetingKey (.of_runMeeting ran)
  exact creates.2.1 7 (by simp [answers])

end ChatsEngine.Messages
