import ChatsEngine.Core.Types
import ChatsEngine.Foundation.Action
import Mathlib.Data.List.Nodup

/-! # The creation of several queues

The queues are created in one transaction, and then one by one on Flows. What has been created
on Flows is destroyed again if a call raises an `APIException`, and only then. -/

namespace ChatsEngine.Queues.BulkQueueCreation

open ChatsEngine.Action

/-! ## Rows -/

structure QueueRow where
  uuid : Uuid
  sector : Uuid
  name : String
  queuePurpose : Option String
  config : Option Json
  queueLimit : Option Nat
  isQueueLimitActive : Bool
  createdBy : UserEmail
  modifiedBy : UserEmail
deriving DecidableEq, Repr

structure PermissionRow where
  uuid : Uuid
  project : Uuid
  user : UserEmail
  isDeleted : Bool
deriving DecidableEq, Repr

/-- `QueueAuthorization.ROLE_AGENT` -/
def queueRoleAgent : Nat := 1

/-- `GroupSectorAuthorization.ROLE_AGENT` -/
def groupRoleAgent : Nat := 2

structure QueueAuthorizationRow where
  queue : Uuid
  permission : Uuid
  role : Nat
  createdBy : Option UserEmail
  modifiedBy : Option UserEmail
deriving DecidableEq, Repr

structure SectorGroupSectorRow where
  sectorGroup : Uuid
  sector : Uuid
deriving DecidableEq, Repr

structure GroupSectorAuthorizationRow where
  groupSector : Uuid
  permission : Uuid
  role : Nat
deriving DecidableEq, Repr

structure Tables where
  queues : List QueueRow
  authorizations : List QueueAuthorizationRow
  permissions : List PermissionRow
  sectorGroupSectors : List SectorGroupSectorRow
  groupSectorAuthorizations : List GroupSectorAuthorizationRow
deriving DecidableEq, Repr

/-- The database, and the queues that Flows has. -/
structure BulkStore where
  tables : Tables
  flows : List Uuid
deriving DecidableEq, Repr

/-! ## What may fail -/

inductive Failure
  | integrityError
  | validationError (field : String) (message : String)
  | apiException (detail : String)
  | other (message : String)
deriving DecidableEq, Repr

/-- `ValidationError` is a subclass of `APIException`. -/
def Failure.isApiException : Failure → Bool
  | .validationError _ _ => true
  | .apiException _ => true
  | _ => false

inductive BulkPoint
  | creatingQueue (queue : Uuid)
  | selectingPermissions (queue : Uuid)
  | creatingAuthorizations (queue : Uuid)
  | authorizingGroups (queue : Uuid)
  | committing
deriving DecidableEq, Repr

structure FlowsResponse where
  statusCode : Nat
  content : String
deriving DecidableEq, Repr

def acceptedStatuses : List Nat := [200, 201]

/-- What becomes of a call that creates a queue on Flows. Flows may have stored the queue also
when it answers with an error, and when no answer arrives. -/
inductive FlowsAnswer
  | answered (response : FlowsResponse) (stored : Bool)
      (accepts : response.statusCode ∈ acceptedStatuses → stored = true)
  | raised (failure : Failure) (stored : Bool)

def FlowsAnswer.stored : FlowsAnswer → Bool
  | .answered _ stored _ => stored
  | .raised _ stored => stored

/-- What the database and Flows do at each statement and call, and `USE_WENI_FLOWS`. -/
structure BulkEnvironment where
  raisesAt : BulkPoint → Option Failure
  useWeniFlows : Bool
  createAnswer : Uuid → FlowsAnswer
  destroyRaises : Uuid → Option Failure

abbrev BulkAction (Result : Type) := Action BulkStore Failure Result

/-! ## The use case -/

structure QueueLimitData where
  limit : Option Nat
  isActive : Option Bool
deriving DecidableEq, Repr

structure QueueData where
  /-- The identifier that is drawn when the queue is created. -/
  uuid : Uuid
  name : String
  queuePurpose : Option String
  config : Option Json
  queueLimit : Option QueueLimitData
  agents : Option (List UserEmail)
deriving DecidableEq, Repr

structure BulkQueueCreationUseCase where
  sector : Uuid
  project : Uuid
  queuesData : List QueueData
  user : UserEmail
  /-- There is a group with the sector when the use case is constructed. -/
  hasGroupSectors : Bool
deriving DecidableEq, Repr

def noLimit : QueueLimitData := ⟨none, none⟩

def QueueData.agentEmails (queueData : QueueData) : List UserEmail := queueData.agents.getD []

section UseCase

variable (useCase : BulkQueueCreationUseCase) (environment : BulkEnvironment)

def conflicts (queue row : QueueRow) : Bool :=
  row.uuid = queue.uuid || (row.sector = queue.sector && row.name = queue.name)

def newQueue (queueData : QueueData) : QueueRow where
  uuid := queueData.uuid
  sector := useCase.sector
  name := queueData.name
  queuePurpose := queueData.queuePurpose
  config := queueData.config
  queueLimit := (queueData.queueLimit.getD noLimit).limit
  isQueueLimitActive := (queueData.queueLimit.getD noLimit).isActive.getD false
  createdBy := useCase.user
  modifiedBy := useCase.user

def insertQueue (queue : QueueRow) (store : BulkStore) : BulkStore :=
  { store with tables := { store.tables with queues := queue :: store.tables.queues } }

def buildQueue (queueData : QueueData) : BulkAction QueueRow := do
  check (environment.raisesAt (.creatingQueue queueData.uuid))
  let taken ← query fun store =>
    store.tables.queues.any (conflicts (newQueue useCase queueData))
  require (taken = false) .integrityError
  update (insertQueue (newQueue useCase queueData))
  return newQueue useCase queueData

def setAuthorizations (authorizations : List QueueAuthorizationRow) (store : BulkStore) :
    BulkStore :=
  { store with tables := { store.tables with authorizations } }

def createQueueAuthorizations (queue : QueueRow) (agentEmails : List UserEmail) :
    BulkAction PUnit :=
  when (agentEmails ≠ []) do
    check (environment.raisesAt (.selectingPermissions queue.uuid))
    let permissions ← query fun store => store.tables.permissions.filter fun permission =>
      permission.project = useCase.project ∧ permission.user ∈ agentEmails.map String.toLower ∧
        ¬permission.isDeleted
    check (environment.raisesAt (.creatingAuthorizations queue.uuid))
    update fun store => setAuthorizations (permissions.map (fun permission =>
      { queue := queue.uuid
        permission := permission.uuid
        role := queueRoleAgent
        createdBy := some useCase.user
        modifiedBy := some useCase.user }) ++ store.tables.authorizations) store

def agentsOfGroups (sector : Uuid) (tables : Tables) : List Uuid :=
  (tables.sectorGroupSectors.filter fun row => row.sector = sector).flatMap fun row =>
    (tables.groupSectorAuthorizations.filter fun authorization =>
      authorization.groupSector = row.sectorGroup ∧ authorization.role = groupRoleAgent).map
        GroupSectorAuthorizationRow.permission

/-- `queue.authorizations.get_or_create`, whose manager does not see the authorizations of
permissions that are deleted. -/
def setUserAuthorization (permissions : List PermissionRow) (queue : Uuid)
    (authorizations : List QueueAuthorizationRow) (permission : Uuid) :
    List QueueAuthorizationRow :=
  if authorizations.any fun row =>
      row.queue = queue && row.permission = permission && row.role = queueRoleAgent &&
        permissions.any fun found => found.uuid = permission && !found.isDeleted then
    authorizations
  else ⟨queue, permission, queueRoleAgent, none, none⟩ :: authorizations

/-- `QueueGroupSectorAuthorizationCreationUseCase(queue).execute()` -/
def authorizeGroups (queue : QueueRow) : BulkAction PUnit := do
  check (environment.raisesAt (.authorizingGroups queue.uuid))
  update fun store => setAuthorizations ((agentsOfGroups queue.sector store.tables).foldl
    (setUserAuthorization store.tables.permissions queue.uuid) store.tables.authorizations) store

def persistQueue (created : List QueueRow) (queueData : QueueData) :
    BulkAction (List QueueRow) := do
  let queue ← buildQueue useCase environment queueData
  createQueueAuthorizations useCase environment queue queueData.agentEmails
  when (useCase.hasGroupSectors = true) (authorizeGroups environment queue)
  return created ++ [queue]

def persistQueues : BulkAction (List QueueRow) :=
  fold (persistQueue useCase environment) [] useCase.queuesData

def conflict : Failure :=
  .validationError "queues"
    "One or more queue names conflict with existing queues in this sector."

/-- The first `try`. -/
def persistOrRefuse : BulkAction (List QueueRow) := do
  let outcome ← (attempt (persistQueues useCase environment) :
    BulkAction (Except Failure (List QueueRow)))
  match outcome with
  | .ok created => return created
  | .error .integrityError => raise conflict
  | .error failure => raise failure

def storeOnFlows (queue : Uuid) (stored : Bool) (store : BulkStore) : BulkStore :=
  if stored then { store with flows := queue :: store.flows } else store

/-- `FlowRESTClient().create_queue` -/
def createQueue (queue : QueueRow) : BulkAction FlowsResponse := do
  update (storeOnFlows queue.uuid (environment.createAnswer queue.uuid).stored)
  match environment.createAnswer queue.uuid with
  | .answered response _ _ => return response
  | .raised failure _ => raise failure

def refusal (response : FlowsResponse) : Failure :=
  .apiException (s!"[{response.statusCode}] Error posting the queue on flows. " ++
    s!"Exception: {response.content}")

def syncQueueWithFlows (queue : QueueRow) : BulkAction PUnit := do
  let response ← createQueue environment queue
  require (response.statusCode ∈ acceptedStatuses) (refusal response)

/-- `FlowRESTClient().destroy_queue` -/
def destroyQueue (queue : QueueRow) : BulkAction PUnit := do
  check (environment.destroyRaises queue.uuid)
  update fun store => { store with flows := store.flows.filter (· ≠ queue.uuid) }

/-- What a call raises is logged. -/
def rollbackFlows (syncedQueues : List QueueRow) : BulkAction PUnit :=
  fold (fun _ queue => do
    let _ ← (attempt (destroyQueue environment queue) : BulkAction (Except Failure PUnit)))
    ⟨⟩ syncedQueues

/-- The loop of the second `try`, with the handler where the loop ends. -/
def syncQueues : List QueueRow → List QueueRow → BulkAction PUnit
  | _, [] => pure ⟨⟩
  | syncedQueues, queue :: queues => do
      let outcome ← (attempt (syncQueueWithFlows environment queue) :
        BulkAction (Except Failure PUnit))
      match outcome with
      | .ok _ => syncQueues (syncedQueues ++ [queue]) queues
      | .error failure => do
          when (failure.isApiException = true) (rollbackFlows environment syncedQueues)
          raise failure

/-- The body of the transaction, which ends with the commit. -/
def createQueues : BulkAction (List QueueRow) := do
  let createdQueues ← persistOrRefuse useCase environment
  when (environment.useWeniFlows = true) (syncQueues environment [] createdQueues)
  check (environment.raisesAt .committing)
  return createdQueues

/-- A transaction rolls back the database, and not Flows. -/
def execute : BulkAction (List QueueRow) :=
  restoring (fun store after => { after with tables := store.tables })
    (createQueues useCase environment)

end UseCase

/-! ## All or nothing -/

def FlowsAnswer.failure : FlowsAnswer → Option Failure
  | .answered response _ _ =>
      if response.statusCode ∈ acceptedStatuses then none else some (refusal response)
  | .raised failure _ => some failure

def FlowsAnswer.RaisesApiException (answer : FlowsAnswer) : Prop :=
  ∃ failure, answer.failure = some failure ∧ failure.isApiException = true

def BulkStore.created (store : BulkStore) : List Uuid := store.tables.queues.map QueueRow.uuid

/-- If the use case returns, all queues are in the database and on Flows, and if it raises,
none is. -/
def AllOrNothing (queues : List Uuid) : Except Failure (List QueueRow) × BulkStore → Prop
  | (.ok _, after) => ∀ queue ∈ queues, queue ∈ after.created ∧ queue ∈ after.flows
  | (.error _, after) => ∀ queue ∈ queues, queue ∉ after.created ∧ queue ∉ after.flows

instance (queues : List Uuid) (ended : Except Failure (List QueueRow) × BulkStore) :
    Decidable (AllOrNothing queues ended) := by
  unfold AllOrNothing
  split <;> infer_instance

section Conditions

variable (useCase : BulkQueueCreationUseCase) (environment : BulkEnvironment)

def BulkQueueCreationUseCase.queues : List Uuid := useCase.queuesData.map QueueData.uuid

structure Fresh (store : BulkStore) : Prop where
  distinct : useCase.queues.Nodup
  notCreated : ∀ queue ∈ useCase.queues, queue ∉ store.created
  notOnFlows : ∀ queue ∈ useCase.queues, queue ∉ store.flows

def points (queueData : QueueData) : List BulkPoint :=
  .creatingQueue queueData.uuid ::
    (if queueData.agentEmails ≠ [] then
      [.selectingPermissions queueData.uuid, .creatingAuthorizations queueData.uuid] else []) ++
    if useCase.hasGroupSectors = true then [.authorizingGroups queueData.uuid] else []

structure Persists (tables : Tables) (queuesData : List QueueData) : Prop where
  names : (queuesData.map QueueData.name).Nodup
  free : ∀ queueData ∈ queuesData, ∀ row ∈ tables.queues,
    row.sector = useCase.sector → row.name ≠ queueData.name
  statements : ∀ queueData ∈ queuesData, ∀ point ∈ points useCase queueData,
    environment.raisesAt point = none

/-- The queue at which creating the queues on Flows ends. -/
def firstFailing (queues : List Uuid) : Option Uuid :=
  queues.find? fun queue => (environment.createAnswer queue).failure.isSome

/-- The first call that fails has left nothing on Flows, and is either the first of all, or an
`APIException`. If no call fails, the commit returns. Without Flows, there is nothing to
create, or the commit raises. -/
def EndsCleanly (queues : List Uuid) : Prop :=
  if environment.useWeniFlows = true then
    match firstFailing environment queues with
    | some queue => (environment.createAnswer queue).stored = false ∧
        ((environment.createAnswer queue).RaisesApiException ∨ queues.head? = some queue)
    | none => queues = [] ∨ environment.raisesAt .committing = none
  else queues = [] ∨ environment.raisesAt .committing ≠ none

end Conditions

/-! ## Writing the queues -/

section Persisting

variable {useCase : BulkQueueCreationUseCase} {environment : BulkEnvironment} {tables : Tables}
  {done items : List QueueData} {queueData : QueueData}

theorem Persists.of_append (persists : Persists useCase environment tables (done ++ items)) :
    Persists useCase environment tables done where
  names := by
    have names := persists.names
    rw [List.map_append] at names
    exact names.of_append_left
  free := fun queueData listed => persists.free queueData (List.mem_append_left _ listed)
  statements := fun queueData listed =>
    persists.statements queueData (List.mem_append_left _ listed)

theorem persists_append_iff :
    Persists useCase environment tables (done ++ [queueData]) ↔
      Persists useCase environment tables done ∧
        (queueData.name ∉ done.map QueueData.name ∧
          ∀ row ∈ tables.queues, row.sector = useCase.sector → row.name ≠ queueData.name) ∧
        ∀ point ∈ points useCase queueData, environment.raisesAt point = none := by
  constructor
  · intro persists
    have last : queueData ∈ done ++ [queueData] :=
      List.mem_append_right _ (List.mem_singleton_self _)
    refine ⟨persists.of_append, ⟨?_, persists.free queueData last⟩,
      persists.statements queueData last⟩
    have names := persists.names
    rw [List.map_append, List.map_singleton, List.nodup_append_comm] at names
    exact (List.nodup_cons.mp names).1
  · intro given
    rcases given with ⟨persists, ⟨unused, free⟩, statements⟩
    constructor
    · rw [List.map_append, List.map_singleton, List.nodup_append_comm]
      exact List.nodup_cons.mpr ⟨unused, persists.names⟩
    · simp only [List.forall_mem_append, List.forall_mem_singleton]
      exact ⟨persists.free, free⟩
    · simp only [List.forall_mem_append, List.forall_mem_singleton]
      exact ⟨persists.statements, statements⟩

theorem conflicts_iff (queue row : QueueRow) :
    conflicts queue row = true ↔
      row.uuid = queue.uuid ∨ (row.sector = queue.sector ∧ row.name = queue.name) := by
  simp [conflicts]

theorem any_conflicts_iff (uuids : queueData.uuid ∉ done.map QueueData.uuid)
    (fresh : queueData.uuid ∉ tables.queues.map QueueRow.uuid) :
    ((done.map (newQueue useCase)).reverse ++ tables.queues).any
        (conflicts (newQueue useCase queueData)) = false ↔
      queueData.name ∉ done.map QueueData.name ∧
        ∀ row ∈ tables.queues, row.sector = useCase.sector → row.name ≠ queueData.name := by
  rw [List.any_append, Bool.or_eq_false_iff, List.any_reverse, List.any_eq_false,
    List.any_eq_false, List.forall_mem_map]
  apply and_congr
  · rw [List.mem_map, not_exists]
    apply forall_congr'
    intro other
    have apart : other ∈ done → other.uuid ≠ queueData.uuid :=
      fun listed same => uuids (List.mem_map.mpr ⟨other, listed, same⟩)
    rw [conflicts_iff]
    constructor
    · exact fun apartly found => apartly found.1 (.inr ⟨rfl, found.2⟩)
    · rintro unused listed (same | named)
      · exact apart listed same
      · exact unused ⟨listed, named.2⟩
  · apply forall_congr'
    intro row
    have apart : row ∈ tables.queues → row.uuid ≠ queueData.uuid :=
      fun listed same => fresh (List.mem_map.mpr ⟨row, listed, same⟩)
    rw [conflicts_iff]
    constructor
    · exact fun apartly listed sector named => apartly listed (.inr ⟨sector, named⟩)
    · rintro free listed (same | named)
      · exact apart listed same
      · exact free listed named.1 named.2

def HasQueues (queues : List QueueRow) (flows : List Uuid) (store : BulkStore) : Prop :=
  store.tables.queues = queues ∧ store.flows = flows

theorem buildQueue_ensures {queues : List QueueRow} {flows : List Uuid} :
    Ensures (HasQueues queues flows) (buildQueue useCase environment queueData)
      (fun queue store => (queue = newQueue useCase queueData ∧
          environment.raisesAt (.creatingQueue queueData.uuid) = none ∧
          queues.any (conflicts queue) = false) ∧ HasQueues (queue :: queues) flows store)
      fun _ store => ¬(environment.raisesAt (.creatingQueue queueData.uuid) = none ∧
          queues.any (conflicts (newQueue useCase queueData)) = false) ∧
        store.flows = flows := by
  apply Ensures.check_bind
  · intro failure raised store starts
    refine ⟨fun returns => ?_, starts.2⟩
    cases raised.symm.trans returns.1
  · intro created
    apply Ensures.query_bind
    intro taken
    apply Ensures.require_bind
    · intro isTaken store given
      rcases given with ⟨⟨rfl, sameFlows⟩, rfl⟩
      exact ⟨fun returns => isTaken returns.2, sameFlows⟩
    · intro same
      subst same
      apply Ensures.bind fun _ store =>
        queues.any (conflicts (newQueue useCase queueData)) = false ∧
          HasQueues (newQueue useCase queueData :: queues) flows store
      · apply Ensures.update
        intro store given
        rcases given with ⟨⟨rfl, sameFlows⟩, free⟩
        exact ⟨free, rfl, sameFlows⟩
      · intro _
        apply Ensures.pure
        intro store given
        rcases given with ⟨free, has⟩
        exact ⟨⟨rfl, created, free⟩, has⟩

theorem createQueueAuthorizations_ensures {queue : QueueRow} {agentEmails : List UserEmail}
    {queues : List QueueRow} {flows : List Uuid} :
    Ensures (HasQueues queues flows)
      (createQueueAuthorizations useCase environment queue agentEmails)
      (fun _ store => (agentEmails ≠ [] →
          environment.raisesAt (.selectingPermissions queue.uuid) = none ∧
            environment.raisesAt (.creatingAuthorizations queue.uuid) = none) ∧
        HasQueues queues flows store)
      fun _ store => ¬(agentEmails ≠ [] →
          environment.raisesAt (.selectingPermissions queue.uuid) = none ∧
            environment.raisesAt (.creatingAuthorizations queue.uuid) = none) ∧
        store.flows = flows := by
  apply Ensures.when
  · intro agents
    apply Ensures.check_bind
    · intro failure raised store starts
      refine ⟨fun returns => ?_, starts.2⟩
      cases raised.symm.trans (returns agents).1
    · intro selected
      apply Ensures.query_bind
      intro permissions
      apply Ensures.check_bind
      · intro failure raised store starts
        refine ⟨fun returns => ?_, starts.1.2⟩
        cases raised.symm.trans (returns agents).2
      · intro created
        apply Ensures.update
        exact fun store starts => ⟨fun _ => ⟨selected, created⟩, starts.1⟩
  · exact fun store starts noAgents => ⟨fun agents => absurd agents noAgents, starts⟩

theorem authorizeGroups_ensures {queue : QueueRow} {queues : List QueueRow}
    {flows : List Uuid} :
    Ensures (HasQueues queues flows) (authorizeGroups environment queue)
      (fun _ store => environment.raisesAt (.authorizingGroups queue.uuid) = none ∧
        HasQueues queues flows store)
      fun _ store => environment.raisesAt (.authorizingGroups queue.uuid) ≠ none ∧
        store.flows = flows := by
  apply Ensures.check_bind
  · intro failure raised store starts
    refine ⟨?_, starts.2⟩
    rw [raised]
    exact Option.some_ne_none failure
  · intro authorized
    apply Ensures.update
    exact fun store starts => ⟨authorized, starts⟩

theorem points_return_iff :
    (∀ point ∈ points useCase queueData, environment.raisesAt point = none) ↔
      environment.raisesAt (.creatingQueue queueData.uuid) = none ∧
        (queueData.agentEmails ≠ [] →
          environment.raisesAt (.selectingPermissions queueData.uuid) = none ∧
            environment.raisesAt (.creatingAuthorizations queueData.uuid) = none) ∧
        (useCase.hasGroupSectors = true →
          environment.raisesAt (.authorizingGroups queueData.uuid) = none) := by
  rw [points, List.cons_append, List.forall_mem_cons, List.forall_mem_append]
  apply and_congr_right'
  apply and_congr
  · split
    · next agents => simp [agents]
    · next noAgents => simp [noAgents]
  · split
    · next groups => simp [groups]
    · next noGroups => simp [noGroups]

def queuesAfter (useCase : BulkQueueCreationUseCase) (done : List QueueData)
    (queues : List QueueRow) : List QueueRow :=
  (done.map (newQueue useCase)).reverse ++ queues

theorem queuesAfter_append (queues : List QueueRow) :
    queuesAfter useCase (done ++ [queueData]) queues =
      newQueue useCase queueData :: queuesAfter useCase done queues := by
  rw [queuesAfter, List.map_append, List.reverse_append]
  rfl

theorem persistQueue_ensures {flows : List Uuid}
    (uuids : queueData.uuid ∉ done.map QueueData.uuid)
    (fresh : queueData.uuid ∉ tables.queues.map QueueRow.uuid)
    (persists : Persists useCase environment tables done) :
    Ensures (HasQueues (queuesAfter useCase done tables.queues) flows)
      (persistQueue useCase environment (done.map (newQueue useCase)) queueData)
      (fun created store => created = (done ++ [queueData]).map (newQueue useCase) ∧
        Persists useCase environment tables (done ++ [queueData]) ∧
        HasQueues (queuesAfter useCase (done ++ [queueData]) tables.queues) flows store)
      fun _ store => ¬Persists useCase environment tables (done ++ [queueData]) ∧
        store.flows = flows := by
  have iff := @persists_append_iff useCase environment tables done queueData
  rw [points_return_iff, ← any_conflicts_iff uuids fresh] at iff
  apply Ensures.bind _ (buildQueue_ensures.weaken (fun _ starts => starts)
    (fun _ _ returned => returned) ?_)
  · intro queue
    apply Ensures.of_fact
    intro given
    rcases given with ⟨rfl, created, free⟩
    apply Ensures.bind _ (createQueueAuthorizations_ensures.weaken (fun _ starts => starts)
      (fun _ _ returned => returned) ?_)
    · intro _
      apply Ensures.of_fact
      intro agents
      apply Ensures.bind fun _ store => (useCase.hasGroupSectors = true →
          environment.raisesAt (.authorizingGroups queueData.uuid) = none) ∧
        HasQueues (newQueue useCase queueData :: queuesAfter useCase done tables.queues) flows
          store
      · apply Ensures.when
        · intro groups
          apply authorizeGroups_ensures.weaken (fun _ starts => starts)
          · exact fun _ store authorized => ⟨fun _ => authorized.1, authorized.2⟩
          · intro _ store given
            rcases given with ⟨raises, sameFlows⟩
            exact ⟨fun all => raises ((iff.mp all).2.2.2.2 groups), sameFlows⟩
        · exact fun store starts noGroups => ⟨fun groups => absurd groups noGroups, starts⟩
      · intro _
        apply Ensures.pure
        intro store given
        rcases given with ⟨authorized, has⟩
        refine ⟨by rw [List.map_append]; rfl,
          iff.mpr ⟨persists, free, created, agents, authorized⟩, ?_⟩
        rw [queuesAfter_append]
        exact has
    · intro _ store given
      rcases given with ⟨raises, sameFlows⟩
      exact ⟨fun all => raises (iff.mp all).2.2.2.1, sameFlows⟩
  · intro _ store given
    rcases given with ⟨raises, sameFlows⟩
    exact ⟨fun all => raises ⟨(iff.mp all).2.2.1, (iff.mp all).2.1⟩, sameFlows⟩

theorem persistQueues_ensures {store : BulkStore} (fresh : Fresh useCase store) :
    Ensures (HasQueues store.tables.queues store.flows)
      (persistQueues useCase environment)
      (fun created after => created = useCase.queuesData.map (newQueue useCase) ∧
        Persists useCase environment store.tables useCase.queuesData ∧
        HasQueues (queuesAfter useCase useCase.queuesData store.tables.queues) store.flows
          after)
      fun _ after => ¬Persists useCase environment store.tables useCase.queuesData ∧
        after.flows = store.flows := by
  apply (Ensures.fold (fun items created after => ∃ done,
    useCase.queuesData = done ++ items ∧ created = done.map (newQueue useCase) ∧
      Persists useCase environment store.tables done ∧
      HasQueues (queuesAfter useCase done store.tables.queues) store.flows after)
    ?_ [] useCase.queuesData).weaken
  · intro own starts
    exact ⟨[], rfl, rfl, ⟨List.nodup_nil, List.forall_mem_nil _, List.forall_mem_nil _⟩, starts⟩
  · intro created after given
    rcases given with ⟨done, all, isCreated, persists, has⟩
    rw [List.append_nil] at all
    rw [all]
    exact ⟨isCreated, persists, has⟩
  · exact fun _ _ raised => raised
  · intro created queueData items
    apply Ensures.of_each
    intro own given
    rcases given with ⟨done, all, rfl, persists, has⟩
    have distinct := fresh.distinct
    have listed : queueData.uuid ∈ useCase.queues :=
      List.mem_map_of_mem (by rw [all]; exact List.mem_append_right _ List.mem_cons_self)
    rw [BulkQueueCreationUseCase.queues, all, List.map_append, List.map_cons] at distinct
    have apart : queueData.uuid ∉ done.map QueueData.uuid := fun found =>
      List.disjoint_of_nodup_append distinct found List.mem_cons_self
    have split : useCase.queuesData = (done ++ [queueData]) ++ items := by
      rw [all, List.append_assoc]
      rfl
    apply (persistQueue_ensures apart (fresh.notCreated _ listed) persists).weaken
    · intro _ same
      subst same
      exact has
    · exact fun created after returned => ⟨done ++ [queueData], split, returned⟩
    · intro _ after given
      rcases given with ⟨raises, sameFlows⟩
      refine ⟨fun all => raises ?_, sameFlows⟩
      rw [split] at all
      exact all.of_append

theorem persistOrRefuse_ensures {store : BulkStore} (fresh : Fresh useCase store) :
    Ensures (HasQueues store.tables.queues store.flows)
      (persistOrRefuse useCase environment)
      (fun created after => (created = useCase.queuesData.map (newQueue useCase) ∧
        Persists useCase environment store.tables useCase.queuesData) ∧
        HasQueues (queuesAfter useCase useCase.queuesData store.tables.queues) store.flows
          after)
      fun _ after => ¬Persists useCase environment store.tables useCase.queuesData ∧
        after.flows = store.flows := by
  apply Ensures.attempt_bind (persistQueues_ensures fresh)
  · intro created
    apply Ensures.pure
    exact fun after returned => ⟨⟨returned.1, returned.2.1⟩, returned.2.2⟩
  · intro failure
    cases failure <;> exact fun after raised => raised

end Persisting

/-! ## Creating the queues on Flows -/

section Syncing

variable {environment : BulkEnvironment} {tables : Tables} {all : List Uuid}
  {queue : QueueRow} {synced queues : List QueueRow}

def OnFlows (tables : Tables) (all onFlows : List Uuid) (store : BulkStore) : Prop :=
  store.tables = tables ∧ ∀ uuid ∈ all, uuid ∈ store.flows ↔ uuid ∈ onFlows

def afterCall (environment : BulkEnvironment) (uuid : Uuid) (onFlows : List Uuid) : List Uuid :=
  if (environment.createAnswer uuid).stored = true then uuid :: onFlows else onFlows

variable {onFlows : List Uuid}

theorem OnFlows.store {store : BulkStore} {uuid : Uuid}
    (starts : OnFlows tables all onFlows store) :
    OnFlows tables all (afterCall environment uuid onFlows)
      (storeOnFlows uuid (environment.createAnswer uuid).stored store) := by
  rw [afterCall, storeOnFlows]
  split
  · refine ⟨starts.1, fun other listed => ?_⟩
    rw [List.mem_cons, List.mem_cons, starts.2 other listed]
  · exact starts

theorem createQueue_ensures :
    Ensures (OnFlows tables all onFlows) (createQueue environment queue)
      (fun response store => (∃ stored accepts,
          environment.createAnswer queue.uuid = .answered response stored accepts) ∧
        OnFlows tables all (afterCall environment queue.uuid onFlows) store)
      fun failure store => (environment.createAnswer queue.uuid).failure = some failure ∧
        OnFlows tables all (afterCall environment queue.uuid onFlows) store := by
  apply Ensures.bind fun _ => OnFlows tables all (afterCall environment queue.uuid onFlows)
  · exact Ensures.update fun store starts => starts.store
  · intro _
    cases answer : environment.createAnswer queue.uuid with
    | answered response stored accepts =>
        exact Ensures.pure fun store starts => ⟨⟨stored, accepts, rfl⟩, starts⟩
    | raised failure stored => exact fun store starts => ⟨rfl, starts⟩

theorem syncQueueWithFlows_ensures :
    Ensures (OnFlows tables all onFlows) (syncQueueWithFlows environment queue)
      (fun _ store => (environment.createAnswer queue.uuid).failure = none ∧
        OnFlows tables all (queue.uuid :: onFlows) store)
      fun failure store => (environment.createAnswer queue.uuid).failure = some failure ∧
        OnFlows tables all (afterCall environment queue.uuid onFlows) store := by
  apply Ensures.bind _ createQueue_ensures
  intro response
  apply Ensures.of_fact
  intro given
  rcases given with ⟨stored, accepts, answer⟩
  rw [afterCall, answer, FlowsAnswer.failure]
  apply Ensures.require
  · intro store starts accepted
    have isStored := accepts accepted
    subst isStored
    exact ⟨if_pos accepted, starts⟩
  · exact fun store starts refused => ⟨if_neg refused, starts⟩

theorem rollbackFlows_ensures
    (compensates : ∀ queue ∈ synced, environment.destroyRaises queue.uuid = none)
    (raises : Failure → BulkStore → Prop) :
    Ensures (OnFlows tables all onFlows) (rollbackFlows environment synced)
      (fun _ store => ∀ uuid ∈ all,
        uuid ∈ store.flows ↔ uuid ∈ onFlows ∧ uuid ∉ synced.map QueueRow.uuid) raises := by
  apply (Ensures.fold (fun items (_ : PUnit) (store : BulkStore) => (∀ queue ∈ items,
      environment.destroyRaises queue.uuid = none) ∧
    ∀ uuid ∈ all, (uuid ∈ store.flows ∧ uuid ∉ items.map QueueRow.uuid) ↔
      uuid ∈ onFlows ∧ uuid ∉ synced.map QueueRow.uuid) ?_ ⟨⟩ synced).weaken
  · intro store starts
    exact ⟨compensates, fun uuid listed => by rw [starts.2 uuid listed]⟩
  · intro _ store given uuid listed
    rcases given with ⟨_, ends⟩
    simpa using ends uuid listed
  · exact fun _ _ raised => raised
  · intro _ item items
    apply Ensures.of_fact
    intro returns
    rw [List.forall_mem_cons] at returns
    apply Ensures.bind fun _ store => ∀ uuid ∈ all,
      (uuid ∈ store.flows ∧ uuid ∉ items.map QueueRow.uuid) ↔
        uuid ∈ onFlows ∧ uuid ∉ synced.map QueueRow.uuid
    · apply Ensures.attempt
      apply Ensures.check_bind
      · intro failure raised
        cases raised.symm.trans returns.1
      · intro _
        apply Ensures.update
        intro store starts uuid listed
        rw [← starts uuid listed, List.mem_filter, List.map_cons, List.mem_cons, not_or,
          decide_eq_true_eq, and_assoc]
    · exact fun _ => Ensures.pure fun store ends => ⟨returns.2, ends⟩

theorem firstFailing_cons_of_none {uuid : Uuid} (uuids : List Uuid)
    (succeeds : (environment.createAnswer uuid).failure = none) :
    firstFailing environment (uuid :: uuids) = firstFailing environment uuids := by
  rw [firstFailing, List.find?_cons, succeeds]
  rfl

theorem firstFailing_cons_of_some {uuid : Uuid} {failure : Failure} (uuids : List Uuid)
    (fails : (environment.createAnswer uuid).failure = some failure) :
    firstFailing environment (uuid :: uuids) = some uuid := by
  rw [firstFailing, List.find?_cons, fails]
  rfl

section Handler

variable {failure : Failure}

theorem none_left_iff {store : BulkStore}
    (fails : (environment.createAnswer queue.uuid).failure = some failure)
    (isAll : all = synced.map QueueRow.uuid ++ queue.uuid :: queues.map QueueRow.uuid)
    (distinct : all.Nodup)
    (left : ∀ uuid ∈ all, uuid ∈ store.flows ↔
      uuid ∈ afterCall environment queue.uuid (synced.map QueueRow.uuid) ∧
        (failure.isApiException = true → uuid ∉ synced.map QueueRow.uuid)) :
    (∀ uuid ∈ all, uuid ∉ store.flows) ↔
      (environment.createAnswer queue.uuid).stored = false ∧
        ((environment.createAnswer queue.uuid).RaisesApiException ∨
          all.head? = some queue.uuid) := by
  have self : queue.uuid ∈ all := by
    rw [isAll]
    exact List.mem_append_right _ List.mem_cons_self
  have apart : queue.uuid ∉ synced.map QueueRow.uuid := by
    rw [isAll] at distinct
    exact fun found => List.disjoint_of_nodup_append distinct found List.mem_cons_self
  constructor
  · intro noneLeft
    constructor
    · by_contra isStored
      rw [Bool.not_eq_false] at isStored
      apply noneLeft queue.uuid self
      rw [left queue.uuid self, afterCall, if_pos isStored]
      exact ⟨List.mem_cons_self, fun _ => apart⟩
    · cases isApi : failure.isApiException with
      | true => exact .inl ⟨failure, fails, isApi⟩
      | false =>
          right
          cases synced with
          | nil => rw [isAll]; rfl
          | cons first synced =>
              have listed : first.uuid ∈ all := by
                rw [isAll]
                exact List.mem_cons_self
              refine absurd ?_ (noneLeft first.uuid listed)
              rw [left first.uuid listed, isApi]
              refine ⟨?_, fun never => Bool.noConfusion never⟩
              rw [afterCall]
              split
              · exact List.mem_cons_of_mem _ List.mem_cons_self
              · exact List.mem_cons_self
  · intro given uuid listed found
    rcases given with ⟨notStored, clean⟩
    rw [left uuid listed, afterCall, notStored] at found
    rcases clean with ⟨same, isSame, isApi⟩ | isFirst
    · cases fails.symm.trans isSame
      exact found.2 isApi found.1
    · cases synced with
      | nil => cases found.1
      | cons first synced =>
          rw [isAll] at isFirst
          have same : first.uuid = queue.uuid := Option.some.inj isFirst
          exact apart (List.mem_cons.mpr (.inl same.symm))

theorem handler_ensures
    (compensates : ∀ queue ∈ synced, environment.destroyRaises queue.uuid = none)
    (fails : (environment.createAnswer queue.uuid).failure = some failure)
    (isAll : all = synced.map QueueRow.uuid ++ queue.uuid :: queues.map QueueRow.uuid)
    (distinct : all.Nodup) (returns : PUnit → BulkStore → Prop) :
    Ensures (OnFlows tables all (afterCall environment queue.uuid (synced.map QueueRow.uuid)))
      (do
        when (failure.isApiException = true) (rollbackFlows environment synced)
        raise failure)
      returns
      fun _ store => (∀ uuid ∈ all, uuid ∉ store.flows) ↔
        (environment.createAnswer queue.uuid).stored = false ∧
          ((environment.createAnswer queue.uuid).RaisesApiException ∨
            all.head? = some queue.uuid) := by
  apply Ensures.bind fun _ store => ∀ uuid ∈ all, uuid ∈ store.flows ↔
    uuid ∈ afterCall environment queue.uuid (synced.map QueueRow.uuid) ∧
      (failure.isApiException = true → uuid ∉ synced.map QueueRow.uuid)
  · apply Ensures.when
    · intro isApi
      apply (rollbackFlows_ensures compensates _).weaken (fun _ starts => starts)
      · intro _ store ends uuid listed
        rw [ends uuid listed]
        simp only [isApi, forall_const]
      · exact fun _ _ raised => raised
    · intro store starts notApi uuid listed
      rw [starts.2 uuid listed]
      simp only [notApi, false_implies, and_true]
  · exact fun _ store left => none_left_iff fails isAll distinct left

end Handler

theorem syncQueues_ensures (synced queues : List QueueRow)
    (compensates : ∀ queue ∈ synced ++ queues, environment.destroyRaises queue.uuid = none)
    (isAll : all = (synced ++ queues).map QueueRow.uuid) (distinct : all.Nodup) :
    Ensures (OnFlows tables all (synced.map QueueRow.uuid))
      (syncQueues environment synced queues)
      (fun _ store => firstFailing environment (queues.map QueueRow.uuid) = none ∧
        store.tables = tables ∧ ∀ uuid ∈ all, uuid ∈ store.flows)
      fun _ store => ∃ uuid,
        firstFailing environment (queues.map QueueRow.uuid) = some uuid ∧
          ((∀ uuid ∈ all, uuid ∉ store.flows) ↔
            (environment.createAnswer uuid).stored = false ∧
              ((environment.createAnswer uuid).RaisesApiException ∨
                all.head? = some uuid)) := by
  induction queues generalizing synced with
  | nil =>
      apply Ensures.pure
      intro store starts
      refine ⟨rfl, starts.1, fun uuid listed => ?_⟩
      rw [starts.2 uuid listed]
      rwa [isAll, List.append_nil] at listed
  | cons queue queues induction =>
      rw [syncQueues]
      apply Ensures.attempt_bind syncQueueWithFlows_ensures
      · intro _
        apply Ensures.of_fact
        intro succeeds
        rw [List.map_cons, firstFailing_cons_of_none _ succeeds]
        have rest : synced ++ queue :: queues = (synced ++ [queue]) ++ queues := by
          rw [List.append_assoc]
          rfl
        rw [rest] at isAll compensates
        apply (induction (synced ++ [queue]) compensates isAll).weaken
        · intro store given
          rcases given with ⟨sameTables, has⟩
          refine ⟨sameTables, fun uuid listed => ?_⟩
          rw [has uuid listed, List.map_append, List.mem_append, or_comm, List.mem_cons,
            List.map_singleton, List.mem_singleton]
        · exact fun _ _ returned => returned
        · exact fun _ _ raised => raised
      · intro failure
        apply Ensures.of_fact
        intro fails
        rw [List.map_append, List.map_cons] at isAll
        apply (handler_ensures (fun queue listed =>
          compensates queue (List.mem_append_left _ listed)) fails isAll distinct _).weaken
            (fun _ starts => starts) (fun _ _ returned => returned)
        intro _ store left
        exact ⟨queue.uuid, firstFailing_cons_of_some _ fails, left⟩

end Syncing

/-! ## The whole use case -/

section Execution

variable {useCase : BulkQueueCreationUseCase} {environment : BulkEnvironment}
  {store : BulkStore}

theorem map_uuid_newQueue :
    (useCase.queuesData.map (newQueue useCase)).map QueueRow.uuid = useCase.queues := by
  rw [List.map_map]
  rfl

theorem Fresh.none_on_flows (fresh : Fresh useCase store) {after : BulkStore}
    (sameFlows : after.flows = store.flows) : ∀ queue ∈ useCase.queues, queue ∉ after.flows := by
  rw [sameFlows]
  exact fresh.notOnFlows

theorem HasQueues.created {flows : List Uuid} {after : BulkStore}
    (has : HasQueues (queuesAfter useCase useCase.queuesData store.tables.queues) flows after) :
    ∀ queue ∈ useCase.queues, queue ∈ after.created := by
  intro queue listed
  rw [BulkStore.created, has.1, queuesAfter, List.map_append, List.map_reverse,
    map_uuid_newQueue]
  exact List.mem_append_left _ (List.mem_reverse.mpr listed)

theorem forall_notMem_iff {queues flows : List Uuid} (all : ∀ queue ∈ queues, queue ∈ flows) :
    (∀ queue ∈ queues, queue ∉ flows) ↔ queues = [] := by
  rw [List.eq_nil_iff_forall_not_mem]
  exact forall_congr' fun queue =>
    ⟨fun apart listed => apart listed (all queue listed), fun empty listed => absurd listed empty⟩

theorem forall_mem_iff {queues flows : List Uuid} (none : ∀ queue ∈ queues, queue ∉ flows) :
    (∀ queue ∈ queues, queue ∈ flows) ↔ queues = [] := by
  rw [List.eq_nil_iff_forall_not_mem]
  exact forall_congr' fun queue =>
    ⟨fun all listed => none queue listed (all listed), fun empty listed => absurd listed empty⟩

/-- The queues are to be committed. They are on Flows if `USE_WENI_FLOWS` is set. -/
def ToCommit (environment : BulkEnvironment) (queues : List Uuid) (after : BulkStore) : Prop :=
  (∀ queue ∈ queues, queue ∈ after.created) ∧
    if environment.useWeniFlows = true then
      firstFailing environment queues = none ∧ ∀ queue ∈ queues, queue ∈ after.flows
    else ∀ queue ∈ queues, queue ∉ after.flows

theorem commit_ensures {created : List QueueRow} {queues : List Uuid} :
    Ensures (ToCommit environment queues)
      (do
        check (environment.raisesAt .committing)
        return created)
      (fun _ after => (∀ queue ∈ queues, queue ∈ after.created ∧ queue ∈ after.flows) ↔
        EndsCleanly environment queues)
      fun _ after => (∀ queue ∈ queues, queue ∉ after.flows) ↔
        EndsCleanly environment queues := by
  rw [EndsCleanly]
  apply Ensures.check_bind
  · intro failure raised after given
    rcases given with ⟨_, onFlows⟩
    split at onFlows
    · next uses =>
        rw [if_pos uses, onFlows.1, forall_notMem_iff onFlows.2, raised]
        simp only [reduceCtorEq, or_false]
    · next unused =>
        rw [if_neg unused, raised]
        simp only [ne_eq, reduceCtorEq, not_false_eq_true, or_true, iff_true]
        exact onFlows
  · intro committed
    apply Ensures.pure
    intro after given
    rcases given with ⟨inDatabase, onFlows⟩
    have both : (∀ queue ∈ queues, queue ∈ after.created ∧ queue ∈ after.flows) ↔
        ∀ queue ∈ queues, queue ∈ after.flows :=
      ⟨fun all queue listed => (all queue listed).2,
        fun all queue listed => ⟨inDatabase queue listed, all queue listed⟩⟩
    rw [both]
    split at onFlows
    · next uses =>
        rw [if_pos uses, onFlows.1, committed]
        simp only [or_true, iff_true]
        exact onFlows.2
    · next unused =>
        rw [if_neg unused, forall_mem_iff onFlows, committed]
        simp only [ne_eq, not_true_eq_false, or_false]

theorem createQueues_ensures (fresh : Fresh useCase store)
    (compensates : ∀ queue ∈ useCase.queues, environment.destroyRaises queue = none) :
    Ensures (HasQueues store.tables.queues store.flows) (createQueues useCase environment)
      (fun _ after =>
        (∀ queue ∈ useCase.queues, queue ∈ after.created ∧ queue ∈ after.flows) ↔
          (Persists useCase environment store.tables useCase.queuesData →
            EndsCleanly environment useCase.queues))
      fun _ after => (∀ queue ∈ useCase.queues, queue ∉ after.flows) ↔
        (Persists useCase environment store.tables useCase.queuesData →
          EndsCleanly environment useCase.queues) := by
  apply Ensures.bind _ ((persistOrRefuse_ensures fresh).weaken (fun _ starts => starts)
    (fun _ _ returned => returned) ?_)
  · intro created
    apply Ensures.of_fact
    intro given
    rcases given with ⟨rfl, persists⟩
    simp only [persists, true_implies]
    apply Ensures.bind _ ?_ fun _ => commit_ensures
    apply Ensures.when
    · intro uses
      apply Ensures.of_each
      intro own has
      have returns : ∀ queue ∈ [] ++ useCase.queuesData.map (newQueue useCase),
          environment.destroyRaises queue.uuid = none := by
        rw [List.nil_append, List.forall_mem_map]
        exact fun queueData listed => compensates _ (List.mem_map_of_mem listed)
      apply (syncQueues_ensures [] _ returns map_uuid_newQueue.symm fresh.distinct).weaken
      · intro _ same
        subst same
        refine ⟨rfl, fun queue listed => ?_⟩
        exact ⟨fun found => absurd found (fresh.none_on_flows has.2 queue listed),
          fun found => absurd found List.not_mem_nil⟩
      · intro _ after given
        rcases given with ⟨noneFails, sameTables, onFlows⟩
        rw [map_uuid_newQueue] at noneFails
        refine ⟨?_, ?_⟩
        · rw [BulkStore.created, sameTables]
          exact has.created
        · rw [if_pos uses]
          exact ⟨noneFails, onFlows⟩
      · intro _ after given
        rcases given with ⟨queue, fails, left⟩
        rw [map_uuid_newQueue] at fails
        rw [left, EndsCleanly, if_pos uses, fails]
    · intro own has unused
      refine ⟨has.created, ?_⟩
      rw [if_neg unused]
      exact fresh.none_on_flows has.2
  · intro _ after given
    rcases given with ⟨refused, sameFlows⟩
    simp only [refused, false_implies, iff_true]
    exact fresh.none_on_flows sameFlows

theorem execute_ensures (fresh : Fresh useCase store)
    (compensates : ∀ queue ∈ useCase.queues, environment.destroyRaises queue = none) :
    Ensures (fun own => own = store) (execute useCase environment)
      (fun result after => AllOrNothing useCase.queues (.ok result, after) ↔
        (Persists useCase environment store.tables useCase.queuesData →
          EndsCleanly environment useCase.queues))
      fun failure after => AllOrNothing useCase.queues (.error failure, after) ↔
        (Persists useCase environment store.tables useCase.queuesData →
          EndsCleanly environment useCase.queues) := by
  apply Ensures.restoring
  · apply (createQueues_ensures fresh compensates).weaken
    · intro _ same
      subst same
      exact ⟨rfl, rfl⟩
    · exact fun _ _ returned => returned
    · exact fun _ _ raised => raised
  · intro failure _ after same raised
    subst same
    rw [← raised]
    exact ⟨fun nothing queue listed => (nothing queue listed).2,
      fun nothing queue listed => ⟨fresh.notCreated queue listed, nothing queue listed⟩⟩

end Execution

/-- All queues are created or none, exactly when, if the database takes the queues and Flows
is used, the first call that fails leaves nothing on Flows and raises an `APIException` unless
it is the first of all, and the commit returns if no call fails. -/
theorem bulk_creation_all_or_nothing_iff (useCase : BulkQueueCreationUseCase)
    (environment : BulkEnvironment) (store : BulkStore) (fresh : Fresh useCase store)
    (compensates : ∀ queue ∈ useCase.queues, environment.destroyRaises queue = none) :
    AllOrNothing useCase.queues (execute useCase environment store) ↔
      (Persists useCase environment store.tables useCase.queuesData →
        EndsCleanly environment useCase.queues) := by
  have ensured := execute_ensures fresh compensates store rfl
  revert ensured
  rcases execute useCase environment store with ⟨outcome, after⟩
  cases outcome with
  | ok result => exact id
  | error failure => exact id

def twoQueues : BulkQueueCreationUseCase where
  sector := 1
  project := 2
  queuesData := [⟨11, "Support", none, none, none, none⟩, ⟨12, "Sales", none, none, none, none⟩]
  user := "admin@weni.ai"
  hasGroupSectors := false

def emptyStore : BulkStore := ⟨⟨[], [], [], [], []⟩, []⟩

def secondAnswer (answer : FlowsAnswer) : BulkEnvironment where
  raisesAt _ := none
  useWeniFlows := true
  createAnswer queue :=
    if queue = 11 then .answered ⟨201, ""⟩ true (fun _ => rfl) else answer
  destroyRaises _ := none

theorem twoQueues_fresh : Fresh twoQueues emptyStore where
  distinct := by decide
  notCreated := by decide
  notOnFlows := by decide

/-- The second queue is refused, and the first is destroyed again. -/
theorem refused_queue_leaves_nothing :
    AllOrNothing twoQueues.queues (execute twoQueues
      (secondAnswer (.answered ⟨500, ""⟩ false (by decide))) emptyStore) := by
  apply (bulk_creation_all_or_nothing_iff twoQueues _ emptyStore twoQueues_fresh
    fun _ _ => rfl).mpr
  exact fun _ => ⟨rfl, .inl ⟨_, rfl, rfl⟩⟩

/-- The call for the second queue times out, and the first stays on Flows. -/
theorem timeout_leaves_queue_on_flows :
    ¬∀ (useCase : BulkQueueCreationUseCase) (environment : BulkEnvironment) (store : BulkStore),
      Fresh useCase store →
      (∀ queue ∈ useCase.queues, environment.destroyRaises queue = none) →
      AllOrNothing useCase.queues (execute useCase environment store) := by
  intro holds
  have nothing := holds twoQueues (secondAnswer (.raised (.other "Read timed out.") false))
    emptyStore twoQueues_fresh fun _ _ => rfl
  revert nothing
  decide

end ChatsEngine.Queues.BulkQueueCreation
