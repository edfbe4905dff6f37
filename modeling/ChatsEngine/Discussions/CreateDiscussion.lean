import ChatsEngine.Core.Types
import ChatsEngine.Foundation.Action
import ChatsEngine.Foundation.JsonWriter
import ChatsEngine.Foundation.Table

/-! # The creation of a discussion

`CreateDiscussionUseCase` stores the discussion, two messages and a participant one after the
other, without a transaction around them, so that what is stored when a step raises stays. -/

namespace ChatsEngine.Discussions

open ChatsEngine.Action JsonText

/-! ## Rows -/

structure DiscussionRow where
  subject : Text
  createdBy : UserEmail
  room : Uuid
  queue : Uuid
  isQueued : Bool
  isActive : Bool
deriving DecidableEq

structure DiscussionMessageRow where
  discussion : Uuid
  user : Option UserEmail
  text : Option Text
deriving DecidableEq

structure DiscussionUserRow where
  permission : Uuid
  discussion : Uuid
  role : Nat
deriving DecidableEq, Repr

/-- `DiscussionUser.Role.CREATOR` -/
def roleCreator : Nat := 0

structure Store where
  discussions : Table Uuid DiscussionRow
  messages : Table Uuid DiscussionMessageRow
  users : Table Uuid DiscussionUserRow

namespace Store

/-- The room has an active discussion, of which `unique_room_is_activetrue_discussion` allows
one. -/
def HasOpen (store : Store) (room : Uuid) : Prop :=
  ∃ entry ∈ store.discussions.entries, entry.2.room = room ∧ entry.2.isActive = true

instance (store : Store) (room : Uuid) : Decidable (store.HasOpen room) :=
  inferInstanceAs (Decidable (∃ entry ∈ store.discussions.entries, _))

/-- `self.added_users.count()` -/
def addedUsers (store : Store) (discussion : Uuid) : Nat :=
  store.users.count fun row => row.discussion = discussion

def insertDiscussion (store : Store) (uuid : Uuid) (row : DiscussionRow) : Store :=
  { store with discussions := store.discussions.insert uuid row }

def insertMessage (store : Store) (uuid : Uuid) (row : DiscussionMessageRow) : Store :=
  { store with messages := store.messages.insert uuid row }

def insertUser (store : Store) (uuid : Uuid) (row : DiscussionUserRow) : Store :=
  { store with users := store.users.insert uuid row }

def unqueue (store : Store) (uuid : Uuid) : Store :=
  { store with
    discussions := store.discussions.modify uuid fun row => { row with isQueued := false } }

end Store

/-! ## Requests -/

structure UserInstance where
  email : UserEmail
  firstName : Text
deriving DecidableEq

structure QueueInstance where
  uuid : Uuid
  name : Text
  project : Uuid
deriving DecidableEq

/-- A room with the project of its queue, if it has one. -/
structure RoomInstance where
  uuid : Uuid
  project : Option Uuid
deriving DecidableEq, Repr

structure CreationRequest where
  room : RoomInstance
  queue : QueueInstance
  subject : Text
  initialMessage : Option Text
  createdBy : UserInstance
deriving DecidableEq

structure PermissionInstance where
  uuid : Uuid
  email : UserEmail
  role : Nat
  isAdmin : Bool
  hasSectorAuthorization : Bool
deriving DecidableEq, Repr

def PermissionInstance.isManager (permission : PermissionInstance) : Bool :=
  permission.isAdmin || permission.hasSectorAuthorization

structure CreationContext where
  /-- `project.get_permission(user)` -/
  permission : Uuid → UserEmail → Option PermissionInstance
  discussionAgentsLimit : Nat

structure CreationKeys where
  discussion : Uuid
  feedback : Uuid
  initialMessage : Uuid
  user : Uuid
deriving DecidableEq, Repr

/-! ## What may fail -/

inductive CreationError
  | discussionValidation (message : String)
  | userProjectPermissionNotFound (message : String)
  | integrity
  | attribute
  | other (message : String)
deriving DecidableEq, Repr

/-- The steps that query or change the database, or serialize what a notification sends. What
goes wrong in sending it is caught. -/
inductive CreationStep
  | validating
  | creatingDiscussion
  | creatingFeedback
  | creatingInitialMessage
  | gettingPermissions
  | checkingLimit
  | addingUser
  | checkingQueued
  | savingQueued
  | notifyingQueue
  | notifyingUser
  | notifying
deriving DecidableEq, Repr

structure StepFailure where
  error : CreationError
  carriedOut : Bool
deriving DecidableEq, Repr

abbrev Failures := CreationStep → Option StepFailure

/-! ## The use case -/

section UseCase

variable (context : CreationContext) (request : CreationRequest) (keys : CreationKeys)
  (failures : Failures)

def step (own : CreationStep) (change : Store → Store) : Action Store CreationError PUnit :=
  match failures own with
  | none => update change
  | some failure => fun store =>
      (.error failure.error, if failure.carriedOut then change store else store)

/-- `validate_queue_and_room`, and what its answer means. -/
def validateQueueAndRoom : Action Store CreationError PUnit := do
  step failures .validating id
  let project ← expect request.room.project .attribute
  require (request.queue.project = project)
    (.discussionValidation "Cannot set outside project queue on the discussion")

def newDiscussion : DiscussionRow :=
  ⟨request.subject, request.createdBy.email, request.room.uuid, request.queue.uuid, true, true⟩

/-- `Discussion.objects.create` -/
def createDiscussion : Action Store CreationError PUnit := do
  let store ← query id
  require (keys.discussion ∉ store.discussions ∧ ¬store.HasOpen request.room.uuid) .integrity
  step failures .creatingDiscussion fun store =>
    store.insertDiscussion keys.discussion (newDiscussion request)

/-- `create_discussion_message`, without a notification. -/
def createDiscussionMessage (own : CreationStep) (uuid : Uuid) (row : DiscussionMessageRow) :
    Action Store CreationError PUnit := do
  let store ← query id
  require (uuid ∉ store.messages) .integrity
  step failures own fun store => store.insertMessage uuid row

/-- The text of `create_discussion_feedback_message`. -/
def feedbackText : Text :=
  dumps FloatFormat.literal none false
    (.object [(text "method", .string (text "dc")),
      (text "content", .object [(text "user", .string request.createdBy.firstName),
        (text "queue", .string request.queue.name)])])

def feedbackMessage : DiscussionMessageRow :=
  ⟨keys.discussion, none, some (feedbackText request)⟩

def initialMessage : DiscussionMessageRow :=
  ⟨keys.discussion, some request.createdBy.email, request.initialMessage⟩

def CanAddUser (permission : PermissionInstance) (store : Store) : Prop :=
  permission.isManager = true ∨ store.addedUsers keys.discussion < context.discussionAgentsLimit

instance (permission : PermissionInstance) (store : Store) :
    Decidable (CanAddUser context keys permission store) :=
  inferInstanceAs (Decidable (_ ∨ _))

/-- `check_queued` of the new discussion, which is queued. -/
def checkQueued : Action Store CreationError PUnit := do
  step failures .checkingQueued id
  let store ← query id
  Action.when (1 < store.addedUsers keys.discussion) do
    step failures .savingQueued fun store => store.unqueue keys.discussion
    step failures .notifyingQueue id

def notFound (email : UserEmail) : CreationError :=
  .userProjectPermissionNotFound ("User " ++ email ++ " not found in the project")

/-- `self.added_users.create`, and what follows it. -/
def addUser (permission : PermissionInstance) (role : Nat) :
    Action Store CreationError PUnit := do
  let store ← query id
  require (keys.user ∉ store.users) .integrity
  step failures .addingUser fun store =>
    store.insertUser keys.user ⟨permission.uuid, keys.discussion, role⟩
  checkQueued keys failures
  step failures .notifyingUser id

def createDiscussionUser (fromUser toUser : UserEmail) (role : Nat) :
    Action Store CreationError PUnit := do
  step failures .gettingPermissions id
  let fromPermission ← expect (context.permission request.queue.project fromUser)
    (notFound fromUser)
  let toPermission ← expect (context.permission request.queue.project toUser) (notFound toUser)
  step failures .checkingLimit id
  let store ← query id
  Action.when (CanAddUser context keys fromPermission store)
    (addUser keys failures toPermission role)

def completeDiscussion : Action Store CreationError PUnit := do
  createDiscussionMessage failures .creatingFeedback keys.feedback (feedbackMessage request keys)
  createDiscussionMessage failures .creatingInitialMessage keys.initialMessage
    (initialMessage request keys)
  createDiscussionUser context request keys failures request.createdBy.email
    request.createdBy.email roleCreator
  step failures .notifying id

def execute : Action Store CreationError Uuid := do
  validateQueueAndRoom request failures
  createDiscussion request keys failures
  completeDiscussion context request keys failures
  return keys.discussion

/-! ## The view -/

inductive CreationResponse
  | created (discussion : Uuid)
  | badRequest (detail : String)
  | conflict (detail : String)
deriving DecidableEq, Repr

/-- `DiscussionViewSet.create`, of which an exception is an internal error of the server. -/
def create : Action Store CreationError CreationResponse := do
  let store ← query id
  if store.HasOpen request.room.uuid then
    return .conflict "The room already have an open discussion."
  else do
    let outcome ← attempt (execute context request keys failures)
    match outcome with
    | .ok discussion => return .created discussion
    | .error (.discussionValidation message) => return .badRequest message
    | .error error => raise error

end UseCase

/-! ## What is left when the creation raises -/

section Leftovers

variable (context : CreationContext) (request : CreationRequest) (keys : CreationKeys)
  (failures : Failures)

/-- If the creation raises, the database is as it was. -/
def LeavesNothing (store : Store) : Prop :=
  ∀ error after, execute context request keys failures store = (.error error, after) →
    after = store

def Stores (store : Store) : Prop :=
  failures .validating = none ∧ request.room.project = some request.queue.project ∧
    keys.discussion ∉ store.discussions ∧ ¬store.HasOpen request.room.uuid ∧
    ∀ failure, failures .creatingDiscussion = some failure → failure.carriedOut = true

def AddsUser (store : Store) : Prop :=
  keys.user ∉ store.users ∧ failures .addingUser = none ∧ failures .checkingQueued = none ∧
    (0 < store.addedUsers keys.discussion →
      failures .savingQueued = none ∧ failures .notifyingQueue = none) ∧
    failures .notifyingUser = none

def AddsCreator (store : Store) : Prop :=
  failures .gettingPermissions = none ∧ failures .checkingLimit = none ∧
    ∃ permission,
      context.permission request.queue.project request.createdBy.email = some permission ∧
      (CanAddUser context keys permission store → AddsUser keys failures store)

def Completes (store : Store) : Prop :=
  (keys.feedback ∉ store.messages ∧ failures .creatingFeedback = none) ∧
    (keys.initialMessage ∉ store.messages ∧ keys.initialMessage ≠ keys.feedback ∧
      failures .creatingInitialMessage = none) ∧
    AddsCreator context request keys failures store ∧ failures .notifying = none

end Leftovers

section Steps

variable {context : CreationContext} {request : CreationRequest} {keys : CreationKeys}
  {failures : Failures} {own : CreationStep} {change : Store → Store} {store : Store}

def Stored (keys : CreationKeys) (store : Store) : Prop := keys.discussion ∈ store.discussions

theorem stored_insertDiscussion (store : Store) (row : DiscussionRow) :
    Stored keys (store.insertDiscussion keys.discussion row) :=
  AList.mem_insert _ |>.mpr (.inl rfl)

theorem stored_unqueue (stored : Stored keys store) :
    Stored keys (store.unqueue keys.discussion) := by
  have present := AList.lookup_isSome.mpr stored
  rw [Stored, ← AList.lookup_isSome]
  rcases Option.isSome_iff_exists.mp present with ⟨row, found⟩
  rw [Option.isSome_iff_exists]
  exact ⟨_, Table.lookup_modify_iff.mpr (.inl ⟨rfl, row, found, rfl⟩)⟩

theorem addedUsers_insertUser {uuid : Uuid} {row : DiscussionUserRow}
    (absent : uuid ∉ store.users) :
    (store.insertUser uuid row).addedUsers row.discussion =
      store.addedUsers row.discussion + 1 := by
  have counted := Table.count_insert store.users (fun other => other.discussion = row.discussion)
    uuid row
  have noRow := AList.lookup_eq_none.mpr absent
  simpa [Store.addedUsers, Store.insertUser, noRow] using counted

theorem ensures_step {Holds : Store → Prop} (before : Holds store)
    (after : Holds (change store)) :
    Ensures (fun found => found = store) (step failures own change)
      (fun _ after => failures own = none ∧ after = change store)
      (fun _ after => failures own ≠ none ∧ Holds after) := by
  rw [step]
  cases failed : failures own with
  | none =>
      intro _ same
      subst same
      exact ⟨rfl, rfl⟩
  | some failure =>
      intro _ same
      subst same
      refine ⟨Option.some_ne_none failure, ?_⟩
      split
      · exact after
      · exact before

theorem ensures_step_bind {Result : Type} {next : Action Store CreationError Result}
    {returns : Result → Store → Prop} {Holds : Store → Prop} {Unmet : Prop}
    (stored : Holds store) (storedAfter : Holds (change store))
    (unmet : failures own ≠ none → Unmet)
    (rest : failures own = none →
      Ensures (fun found => found = change store) next returns
        (fun _ after => Unmet ∧ Holds after)) :
    Ensures (fun found => found = store) (step failures own change >>= fun _ => next) returns
      (fun _ after => Unmet ∧ Holds after) := by
  apply Ensures.bind fun _ after => failures own = none ∧ after = change store
  · apply (ensures_step stored storedAfter).weaken (fun _ same => same)
      fun _ _ returned => returned
    exact fun _ _ raised => ⟨unmet raised.1, raised.2⟩
  · exact fun _ => Ensures.of_fact rest

theorem ensures_createDiscussionMessage {uuid : Uuid} {row : DiscussionMessageRow}
    (stored : Stored keys store) :
    Ensures (fun found => found = store) (createDiscussionMessage failures own uuid row)
      (fun _ after => (uuid ∉ store.messages ∧ failures own = none) ∧
        after = store.insertMessage uuid row)
      (fun _ after => ¬(uuid ∉ store.messages ∧ failures own = none) ∧ Stored keys after) := by
  apply Ensures.query_bind_of_eq
  apply Ensures.require_bind
  · intro present _ equal
    subst equal
    exact ⟨fun met => present met.1, stored⟩
  · intro absent
    apply (ensures_step stored stored).weaken (fun _ same => same)
    · exact fun _ _ returned => ⟨⟨absent, returned.1⟩, returned.2⟩
    · exact fun _ _ raised => ⟨fun met => raised.1 met.2, raised.2⟩

theorem ensures_checkQueued (stored : Stored keys store) :
    Ensures (fun found => found = store) (checkQueued keys failures)
      (fun _ after => (failures .checkingQueued = none ∧
        (1 < store.addedUsers keys.discussion →
          failures .savingQueued = none ∧ failures .notifyingQueue = none)) ∧ Stored keys after)
      (fun _ after => ¬(failures .checkingQueued = none ∧
        (1 < store.addedUsers keys.discussion →
          failures .savingQueued = none ∧ failures .notifyingQueue = none)) ∧
        Stored keys after) := by
  have unqueued := stored_unqueue stored
  apply ensures_step_bind stored stored (fun failed met => failed met.1)
  intro checked
  apply Ensures.query_bind_of_eq
  apply Ensures.when
  · intro several
    apply ensures_step_bind stored unqueued (fun failed met => failed (met.2 several).1)
    intro saved
    apply (ensures_step unqueued unqueued).weaken (fun _ same => same)
    · intro _ _ given
      rcases given with ⟨notified, rfl⟩
      exact ⟨⟨checked, fun _ => ⟨saved, notified⟩⟩, unqueued⟩
    · exact fun _ _ raised => ⟨fun met => raised.1 (met.2 several).2, raised.2⟩
  · intro _ equal few
    subst equal
    exact ⟨⟨checked, fun several => absurd several few⟩, stored⟩

theorem ensures_addUser (stored : Stored keys store) (permission : PermissionInstance)
    (role : Nat) :
    Ensures (fun found => found = store) (addUser keys failures permission role)
      (fun _ after => AddsUser keys failures store ∧ Stored keys after)
      (fun _ after => ¬AddsUser keys failures store ∧ Stored keys after) := by
  apply Ensures.query_bind_of_eq
  apply Ensures.require_bind
  · intro present _ equal
    subst equal
    exact ⟨fun met => present met.1, stored⟩
  intro absent
  have storedUser : Stored keys
      (store.insertUser keys.user ⟨permission.uuid, keys.discussion, role⟩) := stored
  have counted : (store.insertUser keys.user
      ⟨permission.uuid, keys.discussion, role⟩).addedUsers keys.discussion =
        store.addedUsers keys.discussion + 1 := addedUsers_insertUser absent
  apply ensures_step_bind stored storedUser (fun failed met => failed met.2.1)
  intro added
  apply Ensures.bind fun _ after => (failures .checkingQueued = none ∧
    (0 < store.addedUsers keys.discussion →
      failures .savingQueued = none ∧ failures .notifyingQueue = none)) ∧ Stored keys after
  · have checked := @ensures_checkQueued keys failures _ storedUser
    rw [counted] at checked
    apply checked.weaken (fun _ same => same)
    · intro _ _ given
      rcases given with ⟨checked, kept⟩
      exact ⟨⟨checked.1, fun others => checked.2 (Nat.succ_lt_succ others)⟩, kept⟩
    · intro _ _ given
      rcases given with ⟨notChecked, kept⟩
      refine ⟨fun met => notChecked ⟨met.2.2.1, fun several => ?_⟩, kept⟩
      exact met.2.2.2.1 (Nat.lt_of_succ_lt_succ several)
  · intro _
    apply Ensures.of_fact
    intro checked
    apply Ensures.of_each
    intro after kept
    apply (ensures_step kept kept).weaken (fun _ same => same)
    · intro _ _ given
      rcases given with ⟨notified, rfl⟩
      exact ⟨⟨absent, added, checked.1, checked.2, notified⟩, kept⟩
    · exact fun _ _ raised => ⟨fun met => raised.1 met.2.2.2.2, raised.2⟩

theorem ensures_createDiscussionUser (stored : Stored keys store) :
    Ensures (fun found => found = store)
      (createDiscussionUser context request keys failures request.createdBy.email
        request.createdBy.email roleCreator)
      (fun _ after => AddsCreator context request keys failures store ∧ Stored keys after)
      (fun _ after => ¬AddsCreator context request keys failures store ∧ Stored keys after) := by
  apply ensures_step_bind stored stored (fun failed met => failed met.1)
  intro gotPermissions
  have noPermission : context.permission request.queue.project request.createdBy.email = none →
      ¬AddsCreator context request keys failures store := by
    intro absent given
    rcases given with ⟨_, _, permission, found, _⟩
    rw [absent] at found
    cases found
  apply Ensures.expect_bind
  · intro absent _ equal
    subst equal
    exact ⟨noPermission absent, stored⟩
  intro permission found
  apply Ensures.expect_bind
  · intro absent _ equal
    subst equal
    exact ⟨noPermission absent, stored⟩
  intro other _
  apply ensures_step_bind stored stored (fun failed met => failed met.2.1)
  intro checkedLimit
  -- what the permission leads to is all that is left of the condition
  have iffAdds : AddsCreator context request keys failures store ↔
      (CanAddUser context keys permission store → AddsUser keys failures store) := by
    constructor
    · intro given
      rcases given with ⟨_, _, own, ownFound, adds⟩
      rw [found] at ownFound
      cases ownFound
      exact adds
    · exact fun adds => ⟨gotPermissions, checkedLimit, permission, found, adds⟩
  rw [iffAdds]
  apply Ensures.query_bind_of_eq
  apply Ensures.when
  · intro canAdd
    apply (ensures_addUser stored other roleCreator).weaken (fun _ same => same)
    · exact fun _ _ returned => ⟨fun _ => returned.1, returned.2⟩
    · exact fun _ _ raised => ⟨fun met => raised.1 (met canAdd), raised.2⟩
  · intro _ equal cannotAdd
    subst equal
    exact ⟨fun canAdd => absurd canAdd cannotAdd, stored⟩

theorem notMem_insertMessage_iff {uuid other : Uuid} {row : DiscussionMessageRow} :
    other ∉ (store.insertMessage uuid row).messages ↔
      other ∉ store.messages ∧ other ≠ uuid := by
  rw [Store.insertMessage, AList.mem_insert, not_or, and_comm]

theorem ensures_completeDiscussion (stored : Stored keys store) :
    Ensures (fun found => found = store) (completeDiscussion context request keys failures)
      (fun _ _ => Completes context request keys failures store)
      (fun _ after => ¬Completes context request keys failures store ∧ Stored keys after) := by
  apply Ensures.bind fun _ after =>
    (keys.feedback ∉ store.messages ∧ failures .creatingFeedback = none) ∧
      after = store.insertMessage keys.feedback (feedbackMessage request keys)
  · apply (ensures_createDiscussionMessage stored).weaken (fun _ same => same)
      fun _ _ returned => returned
    exact fun _ _ raised => ⟨fun met => raised.1 met.1, raised.2⟩
  intro _
  apply Ensures.of_fact
  intro feedback
  have storedFeedback : Stored keys
      (store.insertMessage keys.feedback (feedbackMessage request keys)) := stored
  have initial := @ensures_createDiscussionMessage keys failures .creatingInitialMessage
    (store.insertMessage keys.feedback (feedbackMessage request keys)) keys.initialMessage
    (initialMessage request keys) storedFeedback
  rw [notMem_insertMessage_iff, and_assoc] at initial
  apply Ensures.bind fun _ after =>
    (keys.initialMessage ∉ store.messages ∧ keys.initialMessage ≠ keys.feedback ∧
      failures .creatingInitialMessage = none) ∧
      after = (store.insertMessage keys.feedback (feedbackMessage request keys)).insertMessage
        keys.initialMessage (initialMessage request keys)
  · apply initial.weaken (fun _ same => same) fun _ _ returned => returned
    exact fun _ _ raised => ⟨fun met => raised.1 met.2.1, raised.2⟩
  intro _
  apply Ensures.of_fact
  intro initial
  apply Ensures.bind fun _ after =>
    AddsCreator context request keys failures store ∧ Stored keys after
  · -- the messages do not change what adding the creator depends on
    have storedInitial : Stored keys ((store.insertMessage keys.feedback
        (feedbackMessage request keys)).insertMessage keys.initialMessage
          (initialMessage request keys)) := stored
    apply (ensures_createDiscussionUser storedInitial).weaken (fun _ same => same)
      fun _ _ returned => returned
    exact fun _ _ raised => ⟨fun met => raised.1 met.2.2.1, raised.2⟩
  · intro _
    apply Ensures.of_fact
    intro adds
    apply Ensures.of_each
    intro after kept
    apply (ensures_step kept kept).weaken (fun _ same => same)
    · exact fun _ _ returned => ⟨feedback, initial, adds, returned.1⟩
    · exact fun _ _ raised => ⟨fun met => raised.1 met.2.2.2, raised.2⟩

theorem ensures_validateQueueAndRoom :
    Ensures (fun found => found = store) (validateQueueAndRoom request failures)
      (fun _ after => (failures .validating = none ∧
        request.room.project = some request.queue.project) ∧ after = store)
      (fun _ after => ¬Stores request keys failures store ∧ after = store) := by
  apply @ensures_step_bind failures .validating id store PUnit _ _ (fun after => after = store)
    _ rfl rfl fun failed stores => failed stores.1
  intro validated
  apply Ensures.expect_bind
  · intro absent _ equal
    subst equal
    refine ⟨fun stores => ?_, rfl⟩
    have same := stores.2.1
    rw [absent] at same
    cases same
  intro project found
  apply Ensures.require
  · intro _ equal same
    subst equal
    exact ⟨⟨validated, same ▸ found⟩, rfl⟩
  · intro _ equal different
    subst equal
    refine ⟨fun stores => different ?_, rfl⟩
    exact Option.some.inj (stores.2.1.symm.trans found)

/-- The discussion is not stored, or nothing is raised once it is to be stored. -/
def Succeeds (context : CreationContext) (request : CreationRequest) (keys : CreationKeys)
    (failures : Failures) (store : Store) : Prop :=
  Stores request keys failures store →
    failures .creatingDiscussion = none ∧ Completes context request keys failures store

theorem ne_of_stored {after : Store} (absent : keys.discussion ∉ store.discussions)
    (stored : Stored keys after) : after ≠ store := by
  intro same
  subst same
  exact absent stored

theorem ensures_createDiscussion (validated : failures .validating = none ∧
    request.room.project = some request.queue.project) :
    Ensures (fun found => found = store) (createDiscussion request keys failures)
      (fun _ after => (Stores request keys failures store ∧ failures .creatingDiscussion = none) ∧
        after = store.insertDiscussion keys.discussion (newDiscussion request))
      (fun _ after => after = store ↔ Succeeds context request keys failures store) := by
  apply Ensures.query_bind_of_eq
  apply Ensures.require_bind
  · intro refused _ same
    subst same
    exact iff_of_true rfl fun stores => absurd ⟨stores.2.2.1, stores.2.2.2.1⟩ refused
  intro free
  rw [step]
  cases failed : failures .creatingDiscussion with
  | none =>
      intro _ same
      subst same
      refine ⟨⟨⟨validated.1, validated.2, free.1, free.2, ?_⟩, rfl⟩, rfl⟩
      intro failure impossible
      rw [failed] at impossible
      cases impossible
  | some failure =>
      intro _ same
      subst same
      dsimp only
      by_cases carriedOut : failure.carriedOut = true
      · rw [if_pos carriedOut]
        refine iff_of_false (ne_of_stored free.1 (stored_insertDiscussion _ _)) fun succeeds => ?_
        refine Option.some_ne_none failure (failed.symm.trans
          (succeeds ⟨validated.1, validated.2, free.1, free.2, ?_⟩).1)
        intro own found
        rw [failed] at found
        cases found
        exact carriedOut
      · rw [if_neg carriedOut]
        exact iff_of_true rfl fun stores => absurd (stores.2.2.2.2 failure failed) carriedOut

theorem ensures_execute :
    Ensures (fun found => found = store) (execute context request keys failures)
      (fun _ _ => Succeeds context request keys failures store)
      (fun _ after => after = store ↔ Succeeds context request keys failures store) := by
  apply Ensures.bind fun _ after => (failures .validating = none ∧
    request.room.project = some request.queue.project) ∧ after = store
  · apply (@ensures_validateQueueAndRoom request keys failures store).weaken
      (fun _ same => same) fun _ _ returned => returned
    exact fun _ _ raised => iff_of_true raised.2 fun stores => absurd stores raised.1
  intro _
  apply Ensures.of_fact
  intro validated
  apply Ensures.bind fun _ after =>
    (Stores request keys failures store ∧ failures .creatingDiscussion = none) ∧
      after = store.insertDiscussion keys.discussion (newDiscussion request)
  · exact ensures_createDiscussion validated
  intro _
  apply Ensures.of_fact
  intro given
  rcases given with ⟨stores, created⟩
  have stored := @stored_insertDiscussion keys store (newDiscussion request)
  apply Ensures.bind fun _ _ => Completes context request keys failures store
  · apply (ensures_completeDiscussion stored).weaken (fun _ same => same)
      fun _ _ completes => completes
    intro _ after raised
    exact iff_of_false (ne_of_stored stores.2.2.1 raised.2)
      fun succeeds => raised.1 (succeeds stores).2
  · exact fun _ => Ensures.pure fun _ completes _ => ⟨created, completes⟩

end Steps

/-- When the creation raises, nothing of it is left exactly when the discussion is not stored, or
nothing is raised from then on. -/
theorem leavesNothing_iff (context : CreationContext) (request : CreationRequest)
    (keys : CreationKeys) (failures : Failures) (store : Store) :
    LeavesNothing context request keys failures store ↔
      (Stores request keys failures store →
        failures .creatingDiscussion = none ∧
          Completes context request keys failures store) := by
  have ensured := @ensures_execute context request keys failures store store rfl
  rw [LeavesNothing]
  revert ensured
  rcases execute context request keys failures store with ⟨outcome, after⟩
  cases outcome with
  | ok discussion =>
      intro succeeds
      refine iff_of_true (fun error other impossible => ?_) succeeds
      cases impossible
  | error error =>
      intro left
      constructor
      · exact fun leavesNothing => left.mp (leavesNothing error after rfl)
      · intro succeeds _ _ same
        cases same
        exact left.mpr succeeds

/-- The agent of a room, who has no permission in the project any more. -/
def removedAgent : CreationRequest where
  room := ⟨1, some 7⟩
  queue := ⟨2, text "Support", 7⟩
  subject := text "Refund"
  initialMessage := some (text "Who can help?")
  createdBy := ⟨"ana@weni.ai", text "Ana"⟩

def noPermissions : CreationContext := ⟨fun _ _ => none, 5⟩

def emptyStore : Store := ⟨∅, ∅, ∅⟩

/-- The discussion and two messages stay, and the request cannot be repeated. -/
theorem removed_agent_leaves_discussion :
    ¬LeavesNothing noPermissions removedAgent ⟨11, 12, 13, 14⟩ (fun _ => none) emptyStore ∧
      (create noPermissions removedAgent ⟨21, 22, 23, 24⟩ (fun _ => none)
          (create noPermissions removedAgent ⟨11, 12, 13, 14⟩ (fun _ => none) emptyStore).2).1 =
        .ok (.conflict "The room already have an open discussion.") := by
  constructor
  · intro leavesNothing
    have messages : (execute noPermissions removedAgent ⟨11, 12, 13, 14⟩ (fun _ => none)
        emptyStore).2.messages.entries.length = 2 := by
      decide +kernel
    have raises : (execute noPermissions removedAgent ⟨11, 12, 13, 14⟩ (fun _ => none)
        emptyStore).1 = .error (notFound "ana@weni.ai") := by
      decide +kernel
    have unchanged : (execute noPermissions removedAgent ⟨11, 12, 13, 14⟩ (fun _ => none)
        emptyStore).2 = emptyStore := leavesNothing _ _ (Prod.ext raises rfl)
    rw [unchanged] at messages
    cases messages
  · decide +kernel

end ChatsEngine.Discussions
