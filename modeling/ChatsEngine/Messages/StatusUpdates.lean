import ChatsEngine.Core.Types
import ChatsEngine.Foundation.Groups
import ChatsEngine.Foundation.Machine
import ChatsEngine.Foundation.Record

/-! # Status updates in batches

Status events are queued and applied in batches, grouped by the fields that they change. The
queue is emptied before the batch is applied. -/

namespace ChatsEngine.Messages

/-! ## Messages and events -/

inductive StatusField
  | isDelivered
  | isRead
deriving DecidableEq, Repr

structure StatusMessage where
  /-- It has a room, and the room has a project. -/
  hasProject : Bool
  flags : Record fun _ : StatusField => Option String

structure StatusTables where
  /-- External ids are unique. -/
  replyIndex : String → Option Uuid
  messages : Uuid → StatusMessage

structure StatusEvent where
  messageId : String
  messageStatus : Option String
deriving DecidableEq, Repr

/-- Neither null nor empty. -/
def isSet (flag : Option String) : Bool := flag.any (· ≠ "")

def statusReadAliases : List String := ["READ", "V"]

def statusDeliveredAliases : List String := ["DELIVERED", "D"]

/-- `upper`, as far as the aliases depend on it: the dotless i is the only letter besides the
ASCII ones that becomes one of theirs. -/
def upper (text : String) : String :=
  String.ofList (text.toList.map fun char => if char = 'ı' then 'I' else char.toUpper)

/-! ## One event -/

/-- A loaded copy of a message, with the fields that an event has changed in it. -/
structure ProcessedMessage where
  uuid : Uuid
  flags : Record fun _ : StatusField => Option String
  updateFields : List StatusField

def applyStatusUpdate (flags : Record fun _ : StatusField => Option String) (status : String) :
    (Record fun _ : StatusField => Option String) × List StatusField :=
  let read : Bool := status ∈ statusReadAliases ∧ ¬isSet (flags .isRead)
  let delivered : Bool := status ∈ statusDeliveredAliases ∧ ¬isSet (flags .isDelivered)
  (flags.assign ((if read then [⟨.isRead, some "read"⟩] else []) ++
      if delivered then [⟨.isDelivered, some "delivered"⟩] else []),
    (if read then [.isRead] else []) ++ if delivered then [.isDelivered] else [])

/-- Nothing for an event without id, of an unknown message, or that changes nothing. -/
def processMessage (tables : StatusTables) (event : StatusEvent) : Option ProcessedMessage :=
  if event.messageId = "" then none
  else
    match tables.replyIndex event.messageId with
    | none => none
    | some uuid =>
        let message := tables.messages uuid
        if message.hasProject then
          let (flags, updateFields) :=
            applyStatusUpdate message.flags (upper (event.messageStatus.getD ""))
          if updateFields ≠ [] then some { uuid, flags, updateFields } else none
        else none

/-! ## A batch -/

/-- The first copy of a message is the one that is stored. -/
def bulkUpdate (tables : StatusTables) (messages : List ProcessedMessage)
    (fields : List StatusField) : StatusTables :=
  { tables with
    messages := fun uuid =>
      match messages.find? fun message => message.uuid = uuid with
      | none => tables.messages uuid
      | some message =>
          { tables.messages uuid with
            flags := (tables.messages uuid).flags.store message.flags (some fields) } }

/-- `tuple(sorted(update_fields))` -/
def fieldsKey (message : ProcessedMessage) : List StatusField :=
  [StatusField.isDelivered, .isRead].filter (· ∈ message.updateFields)

def fieldsToMessages (tables : StatusTables) (events : List StatusEvent) :
    Groups (List StatusField) ProcessedMessage :=
  Groups.collect fieldsKey (events.filterMap (processMessage tables))

/-- A `bulk_update` that raises ends the flush. -/
def bulkCreate (tables : StatusTables) (events : List StatusEvent) (failing : Option Nat) :
    StatusTables :=
  let groups := fieldsToMessages tables events
  let updated := match failing with
    | none => groups
    | some index => groups.take index
  updated.foldl (fun tables group => bulkUpdate tables group.2 group.1) tables

/-! ## The use case -/

structure UpdateStatusMessageUseCase where
  tables : StatusTables
  msgs : List StatusEvent
  /-- All events so far. No statement reads this. -/
  accepted : List StatusEvent

/-- An event comes, and the given update fails if this flushes the queue. -/
def updateStatusMessage (messageBulkSize : Int) (useCase : UpdateStatusMessageUseCase)
    (event : StatusEvent) (failing : Option Nat) : UpdateStatusMessageUseCase :=
  let msgs := useCase.msgs ++ [event]
  if messageBulkSize ≤ msgs.length then
    { tables := bulkCreate useCase.tables msgs failing
      msgs := []
      accepted := useCase.accepted ++ [event] }
  else { useCase with msgs, accepted := useCase.accepted ++ [event] }

def statusUpdates (messageBulkSize : Int) :
    Machine UpdateStatusMessageUseCase (StatusEvent × Option Nat) where
  step useCase input := some (updateStatusMessage messageBulkSize useCase input.1 input.2)

def UpdateStatusMessageUseCase.starting (tables : StatusTables) :
    UpdateStatusMessageUseCase := ⟨tables, [], []⟩

/-! ## One by one -/

def applyOne (tables : StatusTables) (event : StatusEvent) : StatusTables :=
  match processMessage tables event with
  | none => tables
  | some message => bulkUpdate tables [message] message.updateFields

/-- The flags, once the queue has been applied, are those of applying all events one by one. So
once the queue is flushed no event has been lost. -/
def UpdateStatusMessageUseCase.AppliesAll (initial : StatusTables)
    (useCase : UpdateStatusMessageUseCase) : Prop :=
  useCase.msgs.foldl applyOne useCase.tables = useCase.accepted.foldl applyOne initial

def UpdatesSucceed (messageBulkSize : Int) (useCase : UpdateStatusMessageUseCase)
    (input : StatusEvent × Option Nat) : Prop :=
  let msgs := useCase.msgs ++ [input.1]
  messageBulkSize ≤ msgs.length →
    ∀ index ∈ input.2, (fieldsToMessages useCase.tables msgs).length ≤ index

/-! ## Flags that are marked -/

def statusAliases : StatusField → List String
  | .isDelivered => statusDeliveredAliases
  | .isRead => statusReadAliases

def statusValue : StatusField → String
  | .isDelivered => "delivered"
  | .isRead => "read"

def marks (tables : StatusTables) (event : StatusEvent) (uuid : Uuid) (field : StatusField) :
    Bool :=
  event.messageId ≠ "" ∧ tables.replyIndex event.messageId = some uuid ∧
    (tables.messages uuid).hasProject ∧
      upper (event.messageStatus.getD "") ∈ statusAliases field

/-- A flag that is marked is set, unless it is set already. -/
def markFlag (field : StatusField) (marked : Bool) (flag : Option String) : Option String :=
  if marked ∧ ¬isSet flag then some (statusValue field) else flag

def StatusTables.mark (tables : StatusTables) (marked : Uuid → StatusField → Bool) :
    StatusTables :=
  { tables with
    messages := fun uuid =>
      { tables.messages uuid with
        flags := fun field =>
          markFlag field (marked uuid field) ((tables.messages uuid).flags field) } }

variable {tables : StatusTables} {event : StatusEvent} {uuid : Uuid} {field : StatusField}
  {message : ProcessedMessage} {marked other : Uuid → StatusField → Bool}

theorem isSet_statusValue (field : StatusField) : isSet (some (statusValue field)) = true := by
  cases field <;> decide

theorem markFlag_markFlag (field : StatusField) (first second : Bool) (flag : Option String) :
    markFlag field second (markFlag field first flag) = markFlag field (first || second) flag := by
  cases first with
  | false => simp [markFlag]
  | true =>
      cases set : isSet flag with
      | false => simp [markFlag, set, isSet_statusValue]
      | true => simp [markFlag, set]

theorem mark_mark : (tables.mark marked).mark other =
    tables.mark fun uuid field => marked uuid field || other uuid field := by
  simp only [StatusTables.mark, markFlag_markFlag]

theorem markFlag_of_isSet {flag : Option String} (set : isSet flag = true) (marked : Bool) :
    markFlag field marked flag = flag := by
  simp [markFlag, set]

theorem isSet_markFlag {flag : Option String} (notSet : isSet flag = false) (marked : Bool) :
    isSet (markFlag field marked flag) = marked := by
  cases marked with
  | false => simp [markFlag, notSet]
  | true => simp [markFlag, notSet, isSet_statusValue]

theorem mark_eq_mark_iff : tables.mark marked = tables.mark other ↔
    ∀ uuid field, isSet ((tables.messages uuid).flags field) = false →
      marked uuid field = other uuid field := by
  constructor
  · intro same uuid field notSet
    have flags := congrArg (fun tables => isSet ((tables.messages uuid).flags field)) same
    simp only [StatusTables.mark, isSet_markFlag notSet] at flags
    exact flags
  · intro same
    simp only [StatusTables.mark, StatusTables.mk.injEq, true_and]
    funext uuid
    simp only [StatusMessage.mk.injEq, true_and]
    funext field
    cases set : isSet ((tables.messages uuid).flags field) with
    | false => rw [same uuid field set]
    | true => rw [markFlag_of_isSet set, markFlag_of_isSet set]

theorem marks_mark (event : StatusEvent) :
    marks (tables.mark marked) event = marks tables event := rfl

/-! ## One event marks at most one flag -/

section Apply

variable {flags : Record fun _ : StatusField => Option String} {status : String}

theorem field_eq_of_mem {first second : StatusField} (isFirst : status ∈ statusAliases first)
    (isSecond : status ∈ statusAliases second) : first = second := by
  have disjoint : ∀ first second, ∀ status ∈ statusAliases first,
      status ∈ statusAliases second → first = second := by
    intro first second
    cases first <;> cases second <;> decide
  exact disjoint first second status isFirst isSecond

theorem applyStatusUpdate_of_mem (isAlias : status ∈ statusAliases field)
    (notSet : isSet (flags field) = false) :
    applyStatusUpdate flags status =
      (flags.assign [⟨field, some (statusValue field)⟩], [field]) := by
  cases field with
  | isRead =>
      have notDelivered : status ∉ statusAliases .isDelivered := fun isDelivered =>
        absurd (field_eq_of_mem isAlias isDelivered) (by decide)
      simp only [statusAliases] at isAlias notDelivered
      simp [applyStatusUpdate, isAlias, notDelivered, notSet, statusValue]
  | isDelivered =>
      have notRead : status ∉ statusAliases .isRead := fun isRead =>
        absurd (field_eq_of_mem isAlias isRead) (by decide)
      simp only [statusAliases] at isAlias notRead
      simp [applyStatusUpdate, isAlias, notRead, notSet, statusValue]

theorem exists_alias_of_fields (changes : (applyStatusUpdate flags status).2 ≠ []) :
    ∃ field, status ∈ statusAliases field ∧ isSet (flags field) = false := by
  by_cases read : status ∈ statusReadAliases ∧ isSet (flags .isRead) = false
  · exact ⟨.isRead, read⟩
  by_cases delivered : status ∈ statusDeliveredAliases ∧ isSet (flags .isDelivered) = false
  · exact ⟨.isDelivered, delivered⟩
  exact absurd (by simp [applyStatusUpdate, read, delivered]) changes

end Apply

theorem processMessage_eq_some (processed : processMessage tables event = some message) :
    ∃ field, marks tables event message.uuid field = true ∧
      isSet ((tables.messages message.uuid).flags field) = false ∧
      message.updateFields = [field] ∧ message.flags field = some (statusValue field) := by
  rw [processMessage] at processed
  split at processed
  · cases processed
  · next hasId =>
      cases isUuid : tables.replyIndex event.messageId with
      | none =>
          rw [isUuid] at processed
          cases processed
      | some uuid =>
          simp only [isUuid] at processed
          split at processed
          · next hasProject =>
              split at processed
              · next changes =>
                  rcases exists_alias_of_fields changes with ⟨field, isAlias, notSet⟩
                  rw [applyStatusUpdate_of_mem isAlias notSet] at processed
                  cases processed
                  refine ⟨field, ?_, notSet, rfl, Function.update_self _ _ _⟩
                  exact decide_eq_true ⟨hasId, isUuid, hasProject, isAlias⟩
              · cases processed
          · cases processed

theorem exists_processMessage (isMarked : marks tables event uuid field = true)
    (notSet : isSet ((tables.messages uuid).flags field) = false) :
    ∃ message, processMessage tables event = some message ∧ message.uuid = uuid ∧
      message.updateFields = [field] := by
  rcases of_decide_eq_true isMarked with ⟨hasId, isUuid, hasProject, isAlias⟩
  have processed : processMessage tables event =
      some ⟨uuid, (tables.messages uuid).flags.assign [⟨field, some (statusValue field)⟩],
        [field]⟩ := by
    rw [processMessage, if_neg hasId, isUuid]
    simp only [hasProject, if_true, applyStatusUpdate_of_mem isAlias notSet]
    exact if_pos (List.cons_ne_nil _ _)
  exact ⟨_, processed, rfl, rfl⟩

/-! ## Updates mark flags -/

def marksOf (messages : List ProcessedMessage) (fields : List StatusField) (uuid : Uuid)
    (field : StatusField) : Bool :=
  field ∈ fields ∧ messages.any fun message => message.uuid = uuid

/-- The copies have the field changed, which is not set in the table. -/
def Changes (tables : StatusTables) (messages : List ProcessedMessage) (field : StatusField) :
    Prop :=
  ∀ message ∈ messages, message.flags field = some (statusValue field) ∧
    isSet ((tables.messages message.uuid).flags field) = false

theorem bulkUpdate_eq_mark {messages : List ProcessedMessage}
    (changes : Changes tables messages field) :
    bulkUpdate tables messages [field] = tables.mark (marksOf messages [field]) := by
  simp only [bulkUpdate, StatusTables.mark, StatusTables.mk.injEq, true_and]
  funext uuid
  cases found : messages.find? fun message => message.uuid = uuid with
  | none =>
      have absent : (messages.any fun message => message.uuid = uuid) = false := by
        rw [List.any_eq_false]
        intro message listed
        simpa using List.find?_eq_none.mp found message listed
      simp [marksOf, absent, markFlag]
  | some message =>
      have listed := List.mem_of_find?_eq_some found
      have isUuid : message.uuid = uuid := by simpa using List.find?_some found
      have present : (messages.any fun message => message.uuid = uuid) = true :=
        List.any_eq_true.mpr ⟨message, listed, decide_eq_true isUuid⟩
      rcases changes message listed with ⟨isValue, notSet⟩
      rw [isUuid] at notSet
      simp only [StatusMessage.mk.injEq, true_and]
      funext other
      by_cases same : other = field
      · rw [same, Record.store_of_stores _ _ (List.mem_singleton.mpr rfl), isValue]
        simp [markFlag, marksOf, present, notSet]
      · have spares : ¬Record.Stores (some [field]) other :=
          fun stored => same (List.mem_singleton.mp stored)
        rw [Record.store_of_not_stores _ _ spares]
        simp [markFlag, marksOf, same]

theorem mark_nothing : (tables.mark fun _ _ => false) = tables := by
  simp [StatusTables.mark, markFlag]

theorem applyOne_eq_mark (tables : StatusTables) (event : StatusEvent) :
    applyOne tables event = tables.mark (marks tables event) := by
  rw [applyOne]
  cases processed : processMessage tables event with
  | none =>
      have nothing : tables.mark (fun _ _ => false) = tables.mark (marks tables event) := by
        rw [mark_eq_mark_iff]
        intro uuid field notSet
        cases isMarked : marks tables event uuid field with
        | false => rfl
        | true =>
            rcases exists_processMessage isMarked notSet with ⟨message, processes, _⟩
            cases processed.symm.trans processes
      exact mark_nothing.symm.trans nothing
  | some message =>
      rcases processMessage_eq_some processed with ⟨field, isMarked, notSet, isField, isValue⟩
      dsimp only
      rw [isField, bulkUpdate_eq_mark (by simpa [Changes] using ⟨isValue, notSet⟩),
        mark_eq_mark_iff]
      intro uuid other otherNotSet
      rw [Bool.eq_iff_iff]
      constructor
      · intro changed
        rcases of_decide_eq_true changed with ⟨isOther, present⟩
        rw [List.mem_singleton.mp isOther]
        simp only [List.any_cons, List.any_nil, Bool.or_false, decide_eq_true_eq] at present
        rw [← present]
        exact isMarked
      · intro isOther
        rcases exists_processMessage isOther otherNotSet with ⟨same, processes, isUuid, isOnly⟩
        cases processed.symm.trans processes
        rw [isField, List.cons.injEq] at isOnly
        simp [marksOf, isUuid, isOnly.1]

theorem foldl_applyOne (tables : StatusTables) (events : List StatusEvent) :
    events.foldl applyOne tables =
      tables.mark fun uuid field => events.any fun event => marks tables event uuid field := by
  induction events generalizing tables with
  | nil => exact mark_nothing.symm
  | cons event events induction =>
      rw [List.foldl_cons, applyOne_eq_mark, induction, mark_mark]
      simp only [marks_mark, List.any_cons]

/-! ## The groups of a flush -/

def groupMarks (groups : Groups (List StatusField) ProcessedMessage) (uuid : Uuid)
    (field : StatusField) : Bool :=
  groups.any fun group => marksOf group.2 group.1 uuid field

def EachChanges (tables : StatusTables)
    (groups : Groups (List StatusField) ProcessedMessage) : Prop :=
  ∀ group ∈ groups, ∃ field, group.1 = [field] ∧ Changes tables group.2 field

theorem foldl_bulkUpdate {groups : Groups (List StatusField) ProcessedMessage}
    (distinct : (groups.map Prod.fst).Nodup) (each : EachChanges tables groups) :
    groups.foldl (fun tables group => bulkUpdate tables group.2 group.1) tables =
      tables.mark (groupMarks groups) := by
  induction groups generalizing tables with
  | nil => exact mark_nothing.symm
  | cons group groups induction =>
      rcases each group List.mem_cons_self with ⟨field, isField, changes⟩
      rw [List.map_cons, List.nodup_cons] at distinct
      have rest : EachChanges (tables.mark (marksOf group.2 [field])) groups := by
        intro other listed
        rcases each other (List.mem_cons_of_mem _ listed) with ⟨second, isSecond, otherChanges⟩
        refine ⟨second, isSecond, fun message isMessage => ?_⟩
        have different : second ≠ field := by
          intro same
          apply distinct.1
          rw [isField, ← same, ← isSecond]
          exact List.mem_map_of_mem listed
        have unmarked : marksOf group.2 [field] message.uuid second = false := by
          simp [marksOf, different]
        have unchanged := otherChanges message isMessage
        refine ⟨unchanged.1, ?_⟩
        rw [StatusTables.mark]
        dsimp only
        rw [isSet_markFlag unchanged.2, unmarked]
      rw [List.foldl_cons, isField, bulkUpdate_eq_mark changes, induction distinct.2 rest,
        mark_mark, ← isField]
      rfl

theorem fieldsKey_of_updateFields (isField : message.updateFields = [field]) :
    fieldsKey message = [field] := by
  rw [fieldsKey, isField]
  cases field <;> decide

section Flush

variable {events : List StatusEvent} {group : List StatusField × List ProcessedMessage}

theorem exists_event_of_mem (listed : group ∈ fieldsToMessages tables events)
    (member : message ∈ group.2) :
    ∃ event ∈ events, ∃ field, group.1 = [field] ∧
      marks tables event message.uuid field = true ∧
      isSet ((tables.messages message.uuid).flags field) = false ∧
      message.flags field = some (statusValue field) := by
  rcases (Groups.collects_collect fieldsKey _).belongs group listed message member with
    ⟨isProcessed, isKey⟩
  rcases List.mem_filterMap.mp isProcessed with ⟨event, isEvent, processed⟩
  rcases processMessage_eq_some processed with ⟨field, isMarked, notSet, isField, isValue⟩
  rw [fieldsKey_of_updateFields isField] at isKey
  exact ⟨event, isEvent, field, isKey.symm, isMarked, notSet, isValue⟩

theorem eachChanges_fieldsToMessages (tables : StatusTables) (events : List StatusEvent) :
    EachChanges tables (fieldsToMessages tables events) := by
  intro group listed
  have nonempty := (Groups.collects_collect fieldsKey _).nonempty group listed
  rcases List.exists_mem_of_ne_nil _ nonempty with ⟨first, isFirst⟩
  rcases exists_event_of_mem listed isFirst with ⟨_, _, field, isField, _, _, _⟩
  refine ⟨field, isField, fun message member => ?_⟩
  rcases exists_event_of_mem listed member with ⟨_, _, own, isOwn, _, notSet, isValue⟩
  cases isField.symm.trans isOwn
  exact ⟨isValue, notSet⟩

theorem bulkCreate_eq_mark (tables : StatusTables) (events : List StatusEvent)
    (failing : Option Nat) :
    bulkCreate tables events failing = tables.mark (groupMarks (match failing with
      | none => fieldsToMessages tables events
      | some index => (fieldsToMessages tables events).take index)) := by
  have distinct := (Groups.collects_collect fieldsKey
    (events.filterMap (processMessage tables))).distinct
  have each := eachChanges_fieldsToMessages tables events
  cases failing with
  | none => exact foldl_bulkUpdate distinct each
  | some index =>
      apply foldl_bulkUpdate (distinct.sublist ((List.take_sublist _ _).map _))
      exact fun group listed => each group (List.mem_of_mem_take listed)

theorem groupMarks_fieldsToMessages {uuid : Uuid} {field : StatusField}
    (notSet : isSet ((tables.messages uuid).flags field) = false) :
    groupMarks (fieldsToMessages tables events) uuid field =
      events.any fun event => marks tables event uuid field := by
  rw [Bool.eq_iff_iff, groupMarks, List.any_eq_true, List.any_eq_true]
  constructor
  · intro given
    rcases given with ⟨group, listed, isMarked⟩
    rcases of_decide_eq_true isMarked with ⟨isField, present⟩
    rcases List.any_eq_true.mp present with ⟨message, member, isUuid⟩
    rcases exists_event_of_mem listed member with ⟨event, isEvent, own, isOwn, marked, _, _⟩
    rw [isOwn, List.mem_singleton] at isField
    rw [← of_decide_eq_true isUuid, isField]
    exact ⟨event, isEvent, marked⟩
  · intro given
    rcases given with ⟨event, isEvent, isMarked⟩
    rcases exists_processMessage isMarked notSet with ⟨message, processed, isUuid, isField⟩
    have collects := Groups.collects_collect fieldsKey (events.filterMap (processMessage tables))
    rcases collects.collected message (List.mem_filterMap.mpr ⟨event, isEvent, processed⟩) with
      ⟨group, listed, member⟩
    have isKey := (collects.belongs group listed message member).2
    rw [fieldsKey_of_updateFields isField] at isKey
    refine ⟨group, listed, decide_eq_true ⟨?_, ?_⟩⟩
    · rw [← isKey]
      exact List.mem_singleton.mpr rfl
    · exact List.any_eq_true.mpr ⟨message, member, decide_eq_true isUuid⟩

theorem exists_own_mark (listed : group ∈ fieldsToMessages tables events) :
    ∃ uuid field, isSet ((tables.messages uuid).flags field) = false ∧
      (events.any fun event => marks tables event uuid field) = true ∧
      ∀ other ∈ fieldsToMessages tables events, marksOf other.2 other.1 uuid field = true →
        other = group := by
  have collects := Groups.collects_collect fieldsKey (events.filterMap (processMessage tables))
  rcases List.exists_mem_of_ne_nil _ (collects.nonempty group listed) with ⟨message, member⟩
  rcases exists_event_of_mem listed member with ⟨event, isEvent, field, isField, marked, notSet, _⟩
  refine ⟨message.uuid, field, notSet, List.any_eq_true.mpr ⟨event, isEvent, marked⟩, ?_⟩
  intro other isOther isMarked
  rcases eachChanges_fieldsToMessages tables events other isOther with ⟨own, isOwn, _⟩
  have inOther := (of_decide_eq_true isMarked).1
  rw [isOwn, List.mem_singleton] at inOther
  apply List.inj_on_of_nodup_map collects.distinct isOther listed
  rw [isOwn, isField, inOther]

theorem bulkCreate_eq_foldl_iff (tables : StatusTables) (events : List StatusEvent)
    (failing : Option Nat) :
    bulkCreate tables events failing = events.foldl applyOne tables ↔
      ∀ index ∈ failing, (fieldsToMessages tables events).length ≤ index := by
  rw [bulkCreate_eq_mark, foldl_applyOne, mark_eq_mark_iff]
  cases failing with
  | none =>
      constructor
      · exact fun _ _ impossible => absurd impossible (Option.not_mem_none _)
      · exact fun _ uuid field notSet => groupMarks_fieldsToMessages notSet
  | some index =>
      simp only [Option.mem_some, forall_eq']
      constructor
      · intro same
        by_contra fails
        have inRange : index < (fieldsToMessages tables events).length := Nat.lt_of_not_le fails
        have distinct := (Groups.collects_collect fieldsKey
          (events.filterMap (processMessage tables))).distinct.of_map
        have inDrop : (fieldsToMessages tables events)[index] ∈
            (fieldsToMessages tables events).drop index := by
          rw [List.drop_eq_getElem_cons inRange]
          exact List.mem_cons_self
        rcases exists_own_mark (List.getElem_mem inRange) with
          ⟨uuid, field, notSet, isMarked, own⟩
        have before := same uuid field notSet
        rw [isMarked, groupMarks, List.any_eq_true] at before
        rcases before with ⟨other, inTake, otherMarks⟩
        have isGroup := own other (List.mem_of_mem_take inTake) otherMarks
        rw [isGroup] at inTake
        exact List.disjoint_take_drop distinct (Nat.le_refl index) inTake inDrop
      · intro succeeds uuid field notSet
        rw [List.take_of_length_le succeeds]
        exact groupMarks_fieldsToMessages notSet

end Flush

/-! ## Runs -/

theorem appliesAll_step_iff {messageBulkSize : Int} {initial : StatusTables}
    {useCase next : UpdateStatusMessageUseCase} {input : StatusEvent × Option Nat}
    (holds : useCase.AppliesAll initial)
    (stepped : (statusUpdates messageBulkSize).step useCase input = some next) :
    next.AppliesAll initial ↔ UpdatesSucceed messageBulkSize useCase input := by
  cases stepped
  have applied : (useCase.accepted ++ [input.1]).foldl applyOne initial =
      (useCase.msgs ++ [input.1]).foldl applyOne useCase.tables := by
    rw [List.foldl_append, ← holds, List.foldl_append]
  by_cases flushes : messageBulkSize ≤ (useCase.msgs ++ [input.1]).length
  · have flushed : updateStatusMessage messageBulkSize useCase input.1 input.2 =
        ⟨bulkCreate useCase.tables (useCase.msgs ++ [input.1]) input.2, [],
          useCase.accepted ++ [input.1]⟩ := if_pos flushes
    rw [flushed, UpdateStatusMessageUseCase.AppliesAll, applied, UpdatesSucceed]
    exact (bulkCreate_eq_foldl_iff useCase.tables _ input.2).trans
      ⟨fun succeeds _ => succeeds, fun succeeds => succeeds flushes⟩
  · have queued : updateStatusMessage messageBulkSize useCase input.1 input.2 =
        ⟨useCase.tables, useCase.msgs ++ [input.1], useCase.accepted ++ [input.1]⟩ :=
      if_neg flushes
    rw [queued, UpdateStatusMessageUseCase.AppliesAll, applied]
    exact ⟨fun _ flushed => absurd flushed flushes, fun _ => rfl⟩

/-- Throughout a run no event is lost, and the flags are those of applying the events one by
one, exactly when no update of a flush fails. -/
theorem no_event_lost_iff (messageBulkSize : Int) (tables : StatusTables)
    (inputs : List (StatusEvent × Option Nat)) :
    (statusUpdates messageBulkSize).Throughout
        (UpdateStatusMessageUseCase.AppliesAll tables) (.starting tables) inputs ↔
      (statusUpdates messageBulkSize).AllSteps (UpdatesSucceed messageBulkSize)
        (.starting tables) inputs := by
  apply Machine.throughout_iff_allSteps (fun _ _ _ (always : True) _ => always)
    (fun _ _ _ _ holds stepped => appliesAll_step_iff holds stepped) trivial
  exact Eq.refl (List.foldl applyOne tables [])

def oneMessage : StatusTables where
  replyIndex externalId := if externalId = "wamid.1" then some 1 else none
  messages _ := { hasProject := true, flags := fun _ => none }

/-- The queue is flushed at each event. The update for the first one fails, and an event about
another message follows. -/
theorem failed_update_loses_event :
    ¬∀ (messageBulkSize : Int) (tables : StatusTables) (inputs : List (StatusEvent × Option Nat)),
      (statusUpdates messageBulkSize).Throughout
        (UpdateStatusMessageUseCase.AppliesAll tables) (.starting tables) inputs := by
  intro applies
  have throughout := applies 1 oneMessage
    [(⟨"wamid.1", some "read"⟩, some 0), (⟨"wamid.2", some "read"⟩, none)]
  have applied := throughout.2.2.head
  have flag := congrArg (fun tables : StatusTables => (tables.messages 1).flags .isRead) applied
  revert flag
  decide

end ChatsEngine.Messages
