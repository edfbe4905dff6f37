import ChatsEngine.Rooms.Closings

/-! # Rooms that are closed alike

When closing a room in bulk accepts the same requests as closing it alone, and leaves the same
tags, metrics tasks and notifications of billing. -/

namespace ChatsEngine.Rooms

namespace ClosingTables

def metricsOf (tables : ClosingTables) (pk : Uuid) : List MetricsTask :=
  tables.metrics.filter fun task => task.room = pk

def billingOf (tables : ClosingTables) (pk : Uuid) : List Uuid :=
  tables.billing.filter fun room => room = pk

section Statements

variable (tables : ClosingTables) (pk : Uuid)

@[simp] theorem lookup_closeInstance (room : ClosingRoom) (tags : Option (List Uuid)) :
    (tables.closeInstance pk room tags).rooms.lookup pk = some (room.close tags) :=
  AList.lookup_insert _

@[simp] theorem metricsOf_closeInstance (own : Uuid) (room : ClosingRoom)
    (tags : Option (List Uuid)) :
    (tables.closeInstance own room tags).metricsOf pk = tables.metricsOf pk := rfl

@[simp] theorem billingOf_closeInstance (own : Uuid) (room : ClosingRoom)
    (tags : Option (List Uuid)) :
    (tables.closeInstance own room tags).billingOf pk = tables.billingOf pk := rfl

@[simp] theorem rooms_closeRoom (useCelery : Bool) (own : Uuid) :
    (tables.closeRoom useCelery own).rooms = tables.rooms := rfl

@[simp] theorem billingOf_closeRoom (useCelery : Bool) (own : Uuid) :
    (tables.closeRoom useCelery own).billingOf pk = tables.billingOf pk := rfl

@[simp] theorem metricsOf_closeRoom (useCelery : Bool) :
    (tables.closeRoom useCelery pk).metricsOf pk = tables.metricsOf pk ++
      ((if useCelery then [.closeMetrics pk] else []) ++ [.generateMetrics pk]) := by
  cases useCelery <;> simp [metricsOf, closeRoom, MetricsTask.room]

theorem lookup_closeInstance_of_ne {own : Uuid} (different : own ≠ pk) (room : ClosingRoom)
    (tags : Option (List Uuid)) :
    (tables.closeInstance own room tags).rooms.lookup pk = tables.rooms.lookup pk :=
  AList.lookup_insert_ne different.symm

theorem metricsOf_closeRoom_of_ne (useCelery : Bool) {own : Uuid} (different : own ≠ pk) :
    (tables.closeRoom useCelery own).metricsOf pk = tables.metricsOf pk := by
  cases useCelery <;> simp [metricsOf, closeRoom, MetricsTask.room, different]

@[simp] theorem metricsOf_notifyBilling (own : Uuid) :
    (tables.notifyBilling own).metricsOf pk = tables.metricsOf pk := rfl

@[simp] theorem billingOf_notifyBilling :
    (tables.notifyBilling pk).billingOf pk = tables.billingOf pk ++ [pk] := by
  simp [billingOf, notifyBilling]

@[simp] theorem tags_notifyBilling :
    ((tables.notifyBilling pk).rooms.lookup pk).map ClosingRoom.tags =
      (tables.rooms.lookup pk).map ClosingRoom.tags := by
  rw [notifyBilling, Table.modify]
  split
  · rfl
  · next room stored =>
      rw [AList.lookup_insert, stored]
      rfl

end Statements

end ClosingTables

/-- The two endpoints leave the same of a room. -/
structure SameClosing (pk : Uuid) (tables other : ClosingTables) : Prop where
  tags : (tables.rooms.lookup pk).map ClosingRoom.tags =
    (other.rooms.lookup pk).map ClosingRoom.tags
  metrics : tables.metricsOf pk = other.metricsOf pk
  billing : tables.billingOf pk = other.billingOf pk

/-- One of the endpoints closes the room exactly if the other one does, and then they leave
the same. -/
structure ClosesAlike (settings : ClosingSettings) (requester : UserEmail) (pk : Uuid)
    (tags : Option (List String)) (requested : List RoomToClose) (tables : ClosingTables) :
    Prop where
  succeeds : (∃ closed after,
      ClosingAction.bulkClose settings requested tables = (.ok closed, after) ∧ pk ∈ closed) ↔
    ∃ after, ClosingAction.close settings requester pk tags tables = (.ok ⟨⟩, after)
  same : ∀ closed inBulk alone,
    ClosingAction.bulkClose settings requested tables = (.ok closed, inBulk) → pk ∈ closed →
      ClosingAction.close settings requester pk tags tables = (.ok ⟨⟩, alone) →
        SameClosing pk inBulk alone

def AcceptsClose (settings : ClosingSettings) (requester : UserEmail)
    (tags : Option (List String)) (room : ClosingRoom) : Prop :=
  ∃ queue ∈ room.queue,
    (∀ given ∈ tags, ∀ tag ∈ given,
      ∃ own ∈ settings.sectorTags queue, settings.uuids.str own = tag) ∧
    ¬(settings.requiredTags queue = true ∧
      (tags = some [] ∨ tags = none ∧ room.tags = ∅)) ∧
    (room.user = none → settings.canCloseChatsInQueue queue = true →
      settings.isAdmin requester queue = true)

def AcceptsBulk (settings : ClosingSettings) (requested : List RoomToClose)
    (tables : ClosingTables) : Prop :=
  (∀ room ∈ requested, ClosingAction.parseTags settings room.tags ≠ none) ∧
    requested.length ≤ settings.bulkCloseMaxRooms ∧
    (requested.map RoomToClose.uuid).Nodup ∧
    ∀ entry ∈ ClosingAction.activeRooms requested tables, ∃ queue ∈ entry.2.queue,
      ∀ tag ∈ ClosingAction.tagsOf settings requested entry.1, tag ∈ settings.sectorTags queue

variable {settings : ClosingSettings} {requester : UserEmail} {pk : Uuid}
  {tags : Option (List String)} {requested : List RoomToClose} {tables : ClosingTables}
  {room : ClosingRoom}

/-! ## Closing a room alone -/

theorem acceptsClose_iff {queue : Uuid} (isQueue : room.queue = some queue) :
    AcceptsClose settings requester tags room ↔
      (∀ given ∈ tags, ∀ tag ∈ given,
        ∃ own ∈ settings.sectorTags queue, settings.uuids.str own = tag) ∧
      ¬(settings.requiredTags queue = true ∧
        (tags = some [] ∨ tags = none ∧ room.tags = ∅)) ∧
      (room.user = none → settings.canCloseChatsInQueue queue = true →
        settings.isAdmin requester queue = true) := by
  rw [AcceptsClose, isQueue]
  simp only [Option.mem_some_iff, exists_eq_left']

structure ClosedAlone (settings : ClosingSettings) (pk : Uuid) (room : ClosingRoom)
    (tags : Option (List String)) (tables after : ClosingTables) : Prop where
  tags : (after.rooms.lookup pk).map ClosingRoom.tags =
    some (room.close (tags.map (List.filterMap settings.uuids.parse))).tags
  metrics : after.metricsOf pk = tables.metricsOf pk ++
    if settings.activateCalcMetrics then
      (if settings.useCelery then [.closeMetrics pk] else []) ++ [.generateMetrics pk]
    else []
  billing : after.billingOf pk = tables.billingOf pk ++
    if settings.activateCalcMetrics ∧ room.isBillingNotified = false then [pk] else []

theorem close_ensures_alone (settings : ClosingSettings) (requester : UserEmail)
    (tags : Option (List String)) (stored : tables.rooms.lookup pk = some room) :
    Action.Ensures (fun own => own = tables)
      (ClosingAction.close settings requester pk tags)
      (fun _ after => AcceptsClose settings requester tags room ∧
        ClosedAlone settings pk room tags tables after)
      fun _ _ => ¬AcceptsClose settings requester tags room := by
  apply Action.Ensures.query_bind
  intro found
  apply Action.Ensures.of_each
  intro tables holds
  rcases holds with ⟨rfl, rfl⟩
  rw [stored]
  apply Action.Ensures.pure_bind
  apply Action.Ensures.expect_bind
  · intro noQueue _ _ holds
    rcases holds with ⟨queue, isQueue, _⟩
    rw [noQueue] at isQueue
    cases isQueue
  intro queue isQueue
  have accepted : AcceptsClose settings requester tags room ↔ _ := acceptsClose_iff isQueue
  apply Action.Ensures.require_bind
  · exact fun fails _ _ accepts => fails (accepted.mp accepts).1
  intro ownTags
  apply Action.Ensures.require_bind
  · exact fun fails _ _ accepts => fails (accepted.mp accepts).2.1
  intro hasTags
  apply Action.Ensures.require_bind
  · exact fun fails _ _ accepts => fails (accepted.mp accepts).2.2
  intro mayClose
  have accepts := accepted.mpr ⟨ownTags, hasTags, mayClose⟩
  generalize isGiven : tags.map (List.filterMap settings.uuids.parse) = given
  have tagged : ((tables.closeInstance pk room given).rooms.lookup pk).map ClosingRoom.tags =
      some (room.close (tags.map (List.filterMap settings.uuids.parse))).tags := by
    rw [ClosingTables.lookup_closeInstance, isGiven]
    rfl
  apply Action.Ensures.bind fun _ own => own = tables.closeInstance pk room given
  · apply Action.Ensures.update
    intro _ same
    subst same
    rfl
  intro _
  apply Action.Ensures.when
  · intro active
    apply Action.Ensures.bind fun _ own =>
      own = (tables.closeInstance pk room given).closeRoom settings.useCelery pk
    · apply Action.Ensures.update
      intro _ same
      subst same
      rfl
    intro _
    apply Action.Ensures.when
    · intro notNotified
      apply Action.Ensures.update
      intro _ same
      subst same
      exact ⟨accepts, (ClosingTables.tags_notifyBilling _ pk).trans tagged, by simp [active],
        by simp [active, notNotified]⟩
    · intro _ same notified
      subst same
      exact ⟨accepts, tagged, by simp [active], by simp [notified]⟩
  · intro _ same inactive
    subst same
    exact ⟨accepts, tagged, by simp [inactive], by simp [inactive]⟩

/-! ## Closing rooms in bulk -/

structure ClosedInBulk (settings : ClosingSettings) (pk : Uuid) (room : ClosingRoom)
    (tags : List Uuid) (tables after : ClosingTables) : Prop where
  tags : (after.rooms.lookup pk).map ClosingRoom.tags = some (room.close (some tags)).tags
  metrics : after.metricsOf pk = tables.metricsOf pk ++
    ((if settings.useCelery then [.closeMetrics pk] else []) ++ [.generateMetrics pk])
  billing : after.billingOf pk = tables.billingOf pk

def BulkProgress (settings : ClosingSettings) (requested : List RoomToClose) (pk : Uuid)
    (room : ClosingRoom) (tables : ClosingTables) (entries : List ((_ : Uuid) × ClosingRoom))
    (closed : List Uuid) (after : ClosingTables) : Prop :=
  (⟨pk, room⟩ ∈ entries ∧ after.metricsOf pk = tables.metricsOf pk ∧
      after.billingOf pk = tables.billingOf pk) ∨
    (pk ∉ entries.map Sigma.fst ∧ pk ∈ closed ∧
      ClosedInBulk settings pk room (ClosingAction.tagsOf settings requested pk) tables after)

theorem closeEntry_ensures (closed : List Uuid) (entry : (_ : Uuid) × ClosingRoom)
    (entries : List ((_ : Uuid) × ClosingRoom))
    (distinct : ((entry :: entries).map Sigma.fst).Nodup) :
    Action.Ensures (BulkProgress settings requested pk room tables (entry :: entries) closed)
      (ClosingAction.closeEntry settings requested closed entry)
      (BulkProgress settings requested pk room tables entries) fun _ _ => False := by
  rw [List.map_cons, List.nodup_cons] at distinct
  apply Action.Ensures.of_each
  intro before progress
  apply Action.Ensures.bind fun _ own => own = before.closeInstance entry.1 entry.2
    (some (ClosingAction.tagsOf settings requested entry.1))
  · apply Action.Ensures.update
    intro _ same
    subst same
    rfl
  intro _
  apply Action.Ensures.bind fun _ own => own = (before.closeInstance entry.1 entry.2
    (some (ClosingAction.tagsOf settings requested entry.1))).closeRoom settings.useCelery entry.1
  · apply Action.Ensures.update
    intro _ same
    subst same
    rfl
  intro _
  apply Action.Ensures.pure
  intro _ same
  subst same
  rcases progress with ⟨member, metrics, billing⟩ | ⟨absent, isClosed, left⟩
  · rcases List.mem_cons.mp member with rfl | later
    · refine .inr ⟨distinct.1, by simp, ?_, ?_, ?_⟩
      · rw [ClosingTables.rooms_closeRoom, ClosingTables.lookup_closeInstance]
        rfl
      · simp [metrics]
      · simp [billing]
    · have different : entry.1 ≠ pk := by
        intro same
        subst same
        exact distinct.1 (List.mem_map.mpr ⟨_, later, rfl⟩)
      refine .inl ⟨later, ?_, ?_⟩
      · rw [ClosingTables.metricsOf_closeRoom_of_ne _ _ _ different]
        exact metrics
      · exact billing
  · rw [List.map_cons, List.mem_cons, not_or] at absent
    refine .inr ⟨absent.2, List.mem_append_left _ isClosed, ?_, ?_, ?_⟩
    · rw [ClosingTables.rooms_closeRoom,
        ClosingTables.lookup_closeInstance_of_ne _ _ (Ne.symm absent.1)]
      exact left.tags
    · rw [ClosingTables.metricsOf_closeRoom_of_ne _ _ _ (Ne.symm absent.1)]
      exact left.metrics
    · exact left.billing

theorem mem_activeRooms (stored : tables.rooms.lookup pk = some room)
    (isActive : room.isActive = true) (isRequested : ⟨pk, tags⟩ ∈ requested) :
    ⟨pk, room⟩ ∈ ClosingAction.activeRooms requested tables := by
  apply List.mem_filter.mpr
  refine ⟨Table.mem_entries_iff.mpr stored, ?_⟩
  exact decide_eq_true ⟨List.mem_map.mpr ⟨_, isRequested, rfl⟩, isActive⟩

theorem validateBulk_ensures (stored : tables.rooms.lookup pk = some room)
    (isActive : room.isActive = true) (isRequested : ⟨pk, tags⟩ ∈ requested) :
    Action.Ensures (fun own => own = tables) (ClosingAction.validate settings requested)
      (fun _ own => AcceptsBulk settings requested tables ∧ own = tables)
      fun _ _ => ¬AcceptsBulk settings requested tables := by
  have member := mem_activeRooms stored isActive isRequested
  apply Action.Ensures.require_bind
  · exact fun fails _ _ accepts => fails accepts.1
  intro parsed
  apply Action.Ensures.require_bind
  · intro empty
    rw [Decidable.not_not] at empty
    rw [empty] at isRequested
    cases isRequested
  intro _
  apply Action.Ensures.require_bind
  · exact fun fails _ _ accepts => fails accepts.2.1
  intro few
  apply Action.Ensures.require_bind
  · exact fun fails _ _ accepts => fails accepts.2.2.1
  intro distinct
  apply Action.Ensures.query_bind
  intro active
  apply Action.Ensures.of_each
  intro tables given
  rcases given with ⟨rfl, rfl⟩
  apply Action.Ensures.require_bind
  · intro empty
    rw [Decidable.not_not] at empty
    rw [empty] at member
    cases member
  intro _
  apply Action.Ensures.require_bind
  · intro fails _ _ given
    rcases given with ⟨_, _, _, accepts⟩
    apply fails
    intro entry isEntry noQueue
    rcases accepts entry isEntry with ⟨queue, isQueue, _⟩
    rw [noQueue] at isQueue
    cases isQueue
  intro queues
  apply Action.Ensures.require
  · intro _ same tagsFound
    subst same
    refine ⟨⟨parsed, few, distinct, ?_⟩, rfl⟩
    intro entry isEntry
    rcases Option.ne_none_iff_exists'.mp (queues entry isEntry) with ⟨queue, isQueue⟩
    exact ⟨queue, isQueue, tagsFound entry isEntry queue isQueue⟩
  · intro _ _ fails given
    rcases given with ⟨_, _, _, accepts⟩
    apply fails
    intro entry isEntry queue isQueue
    rcases accepts entry isEntry with ⟨own, isOwn, tagsFound⟩
    cases isOwn.symm.trans isQueue
    exact tagsFound

theorem bulkClose_ensures (settings : ClosingSettings)
    (stored : tables.rooms.lookup pk = some room) (isActive : room.isActive = true)
    (isRequested : ⟨pk, tags⟩ ∈ requested) :
    Action.Ensures (fun own => own = tables) (ClosingAction.bulkClose settings requested)
      (fun closed after => AcceptsBulk settings requested tables ∧ pk ∈ closed ∧
        ClosedInBulk settings pk room (ClosingAction.tagsOf settings requested pk) tables after)
      fun _ _ => ¬AcceptsBulk settings requested tables := by
  have member := mem_activeRooms stored isActive isRequested
  apply Action.Ensures.bind _ (validateBulk_ensures stored isActive isRequested)
  intro _
  apply Action.Ensures.of_fact
  intro accepts
  apply Action.Ensures.query_bind
  intro active
  apply Action.Ensures.of_each
  intro tables given
  rcases given with ⟨rfl, rfl⟩
  have distinct : ((ClosingAction.activeRooms requested tables).map Sigma.fst).Nodup :=
    Table.nodup_keys_filter tables.rooms _
  apply (Action.Ensures.fold (fun entries closed after => (entries.map Sigma.fst).Nodup ∧
    BulkProgress settings requested pk room tables entries closed after) ?_ [] _).weaken
  · intro _ same
    subst same
    exact ⟨distinct, .inl ⟨member, rfl, rfl⟩⟩
  · rintro closed after ⟨_, ⟨impossible, _⟩ | ⟨_, isClosed, left⟩⟩
    · cases impossible
    · exact ⟨accepts, isClosed, left⟩
  · exact fun _ _ raised => raised
  · intro closed entry entries
    apply Action.Ensures.of_fact
    intro distinct
    apply (closeEntry_ensures closed entry entries distinct).weaken
    · exact fun _ starts => starts
    · exact fun _ _ kept => ⟨(List.nodup_cons.mp distinct).2, kept⟩
    · exact fun _ _ raised => raised.elim

/-! ## Comparing the two -/

theorem filterMap_of_mapM {Item Value : Type} {parse : Item → Option Value} {items : List Item}
    {values : List Value} (parsed : items.mapM parse = some values) :
    items.filterMap parse = values := by
  induction items generalizing values with
  | nil =>
      cases parsed
      rfl
  | cons item items induction =>
      rw [List.mapM_cons] at parsed
      cases value : parse item with
      | none =>
          rw [value] at parsed
          cases parsed
      | some found =>
          rw [value] at parsed
          cases rest : items.mapM parse with
          | none =>
              rw [rest] at parsed
              cases parsed
          | some others =>
              rw [rest] at parsed
              cases parsed
              rw [List.filterMap_cons_some value, induction rest]

theorem tagsOf_eq (distinct : (requested.map RoomToClose.uuid).Nodup)
    (isRequested : ⟨pk, tags⟩ ∈ requested) :
    ClosingAction.tagsOf settings requested pk = (ClosingAction.parseTags settings tags).getD [] := by
  have found : requested.find? (fun room => room.uuid = pk) = some ⟨pk, tags⟩ := by
    cases isFound : requested.find? fun room => room.uuid = pk with
    | none =>
        have missing := List.find?_eq_none.mp isFound _ isRequested
        simp at missing
    | some other =>
        have same : other.uuid = pk := by simpa using List.find?_some isFound
        rw [List.inj_on_of_nodup_map distinct (List.mem_of_find?_eq_some isFound) isRequested same]
  rw [ClosingAction.tagsOf, found]
  rfl

theorem sameClosing_iff {uuids : List Uuid} {inBulk alone : ClosingTables}
    (parsed : ClosingAction.parseTags settings tags = some uuids)
    (bulk : ClosedInBulk settings pk room uuids tables inBulk)
    (single : ClosedAlone settings pk room tags tables alone) :
    SameClosing pk inBulk alone ↔
      (tags = none → room.tags = ∅) ∧ settings.activateCalcMetrics = true ∧
        room.isBillingNotified = true := by
  have sameTags : ((inBulk.rooms.lookup pk).map ClosingRoom.tags =
      (alone.rooms.lookup pk).map ClosingRoom.tags) ↔ (tags = none → room.tags = ∅) := by
    rw [bulk.tags, single.tags, Option.some_inj]
    cases tags with
    | none =>
        cases parsed
        simp [ClosingRoom.close, eq_comm]
    | some given =>
        have values : given.filterMap settings.uuids.parse = uuids := filterMap_of_mapM parsed
        rw [Option.map_some, values]
        simp
  have sameMetrics : inBulk.metricsOf pk = alone.metricsOf pk ↔
      settings.activateCalcMetrics = true := by
    rw [bulk.metrics, single.metrics, List.append_cancel_left_eq]
    cases settings.activateCalcMetrics <;> simp
  have sameBilling : inBulk.billingOf pk = alone.billingOf pk ↔
      ¬(settings.activateCalcMetrics = true ∧ room.isBillingNotified = false) := by
    rw [bulk.billing, single.billing, List.self_eq_append_right]
    simp
  constructor
  · intro same
    have active := sameMetrics.mp same.metrics
    have notified := sameBilling.mp same.billing
    refine ⟨sameTags.mp same.tags, active, ?_⟩
    cases isNotified : room.isBillingNotified with
    | false => exact absurd ⟨active, isNotified⟩ notified
    | true => rfl
  · intro holds
    rcases holds with ⟨kept, active, notified⟩
    refine ⟨sameTags.mpr kept, sameMetrics.mpr active, sameBilling.mpr ?_⟩
    rw [notified]
    simp

/-- Both endpoints refuse the room, or both close it with tags that are given or with none to
keep, with the metrics active and billing notified before. -/
def AlikeWhen (settings : ClosingSettings) (requester : UserEmail) (tags : Option (List String))
    (requested : List RoomToClose) (room : ClosingRoom) (tables : ClosingTables) : Prop :=
  (¬AcceptsBulk settings requested tables ∧ ¬AcceptsClose settings requester tags room) ∨
    (AcceptsBulk settings requested tables ∧ AcceptsClose settings requester tags room ∧
      (tags = none → room.tags = ∅) ∧ settings.activateCalcMetrics = true ∧
        room.isBillingNotified = true)

theorem bulkClose_returns_iff (stored : tables.rooms.lookup pk = some room)
    (isActive : room.isActive = true) (isRequested : ⟨pk, tags⟩ ∈ requested) :
    (∃ closed after, ClosingAction.bulkClose settings requested tables = (.ok closed, after) ∧
      pk ∈ closed ∧ ClosedInBulk settings pk room
        (ClosingAction.tagsOf settings requested pk) tables after) ↔
      AcceptsBulk settings requested tables :=
  (bulkClose_ensures settings stored isActive isRequested).returns_iff rfl

theorem close_returns_iff (stored : tables.rooms.lookup pk = some room) :
    (∃ after, ClosingAction.close settings requester pk tags tables = (.ok ⟨⟩, after) ∧
      ClosedAlone settings pk room tags tables after) ↔
      AcceptsClose settings requester tags room := by
  rw [← (close_ensures_alone settings requester tags stored).returns_iff rfl]
  constructor
  · intro given
    rcases given with ⟨after, closed, left⟩
    exact ⟨⟨⟩, after, closed, left⟩
  · intro given
    rcases given with ⟨_, after, closed, left⟩
    exact ⟨after, closed, left⟩

/-- Of a room that both endpoints close, they leave the same if nothing is lost in bulk. -/
theorem closesAlike_of_accepted (stored : tables.rooms.lookup pk = some room)
    (isActive : room.isActive = true) (isRequested : ⟨pk, tags⟩ ∈ requested)
    (bulk : AcceptsBulk settings requested tables)
    (single : AcceptsClose settings requester tags room) :
    ClosesAlike settings requester pk tags requested tables ↔
      (tags = none → room.tags = ∅) ∧ settings.activateCalcMetrics = true ∧
        room.isBillingNotified = true := by
  rcases (bulkClose_returns_iff stored isActive isRequested).mpr bulk with
    ⟨closed, inBulk, closesBulk, isClosed, leftBulk⟩
  rcases (close_returns_iff stored).mpr single with ⟨alone, closesAlone, leftAlone⟩
  rcases Option.ne_none_iff_exists'.mp (bulk.1 _ isRequested) with ⟨uuids, parsed⟩
  rw [tagsOf_eq bulk.2.2.1 isRequested, parsed] at leftBulk
  rw [← sameClosing_iff parsed leftBulk leftAlone]
  constructor
  · exact fun alike => alike.same closed inBulk alone closesBulk isClosed closesAlone
  · intro same
    constructor
    · exact ⟨fun _ => ⟨alone, closesAlone⟩, fun _ => ⟨closed, inBulk, closesBulk, isClosed⟩⟩
    · intro other after own otherBulk _ otherAlone
      rw [closesBulk] at otherBulk
      rw [closesAlone] at otherAlone
      cases otherBulk
      cases otherAlone
      exact same

theorem bulkClose_succeeds_iff (settings : ClosingSettings)
    (stored : tables.rooms.lookup pk = some room) (isActive : room.isActive = true)
    (isRequested : ⟨pk, tags⟩ ∈ requested) :
    (∃ closed after, ClosingAction.bulkClose settings requested tables = (.ok closed, after) ∧
      pk ∈ closed) ↔ AcceptsBulk settings requested tables := by
  constructor
  · intro given
    rcases given with ⟨closed, after, returns, _⟩
    have ensured := bulkClose_ensures settings stored isActive isRequested tables rfl
    rw [returns] at ensured
    exact ensured.1
  · intro accepts
    rcases (bulkClose_returns_iff stored isActive isRequested).mpr accepts with
      ⟨closed, after, returns, isClosed, _⟩
    exact ⟨closed, after, returns, isClosed⟩

theorem close_succeeds_iff (settings : ClosingSettings) (requester : UserEmail)
    (tags : Option (List String)) (stored : tables.rooms.lookup pk = some room) :
    (∃ after, ClosingAction.close settings requester pk tags tables = (.ok ⟨⟩, after)) ↔
      AcceptsClose settings requester tags room := by
  constructor
  · intro given
    rcases given with ⟨after, returns⟩
    have ensured := close_ensures_alone settings requester tags stored tables rfl
    rw [returns] at ensured
    exact ensured.1
  · intro accepts
    rcases (close_returns_iff stored).mpr accepts with ⟨after, returns, _⟩
    exact ⟨after, returns⟩

/-- The two endpoints close an active room alike exactly in this case. -/
theorem closes_alike_iff (settings : ClosingSettings) (requester : UserEmail)
    {tags : Option (List String)} {requested : List RoomToClose} {pk : Uuid}
    {room : ClosingRoom} {tables : ClosingTables}
    (stored : tables.rooms.lookup pk = some room) (isActive : room.isActive = true)
    (isRequested : ⟨pk, tags⟩ ∈ requested) :
    ClosesAlike settings requester pk tags requested tables ↔
      AlikeWhen settings requester tags requested room tables := by
  have inBulk := bulkClose_succeeds_iff settings stored isActive isRequested
  have alone := close_succeeds_iff settings requester tags stored
  by_cases bulk : AcceptsBulk settings requested tables
  · by_cases single : AcceptsClose settings requester tags room
    · rw [closesAlike_of_accepted stored isActive isRequested bulk single]
      simp [AlikeWhen, bulk, single]
    · constructor
      · intro alike
        exact absurd (alone.mp (alike.succeeds.mp (inBulk.mpr bulk))) single
      · rintro (⟨refused, _⟩ | ⟨_, accepted, _⟩)
        · exact absurd bulk refused
        · exact absurd accepted single
  · constructor
    · intro alike
      refine .inl ⟨bulk, fun single => bulk ?_⟩
      exact inBulk.mp (alike.succeeds.mpr (alone.mpr single))
    · rintro (⟨_, refused⟩ | ⟨accepted, _⟩)
      · constructor
        · rw [inBulk, alone]
          exact iff_of_false bulk refused
        · intro closed after _ returns isClosed _
          exact absurd (inBulk.mp ⟨closed, after, returns, isClosed⟩) bulk
      · exact absurd accepted bulk

/-! ### A room that is closed both ways -/

/-- A way to write uuids, as many letters as the number says. -/
def exampleUuids : UuidText where
  str uuid := String.ofList (List.replicate uuid 'u')
  parse text := some text.length
  parse_str uuid := by simp

def exampleClosingSettings : ClosingSettings where
  uuids := exampleUuids
  useCelery := true
  activateCalcMetrics := true
  bulkCloseMaxRooms := 200
  sectorTags _ := {5}
  requiredTags _ := true
  canCloseChatsInQueue _ := true
  isAdmin _ _ := false

def roomOfEve (isBillingNotified : Bool) : ClosingRoom where
  user := some "eve"
  queue := some 1
  isActive := true
  tags := ∅
  isBillingNotified := isBillingNotified

def roomOfEveAlone (isBillingNotified : Bool) : ClosingTables where
  rooms := AList.singleton 7 (roomOfEve isBillingNotified)
  metrics := []
  billing := []

theorem billed_room_is_closed_alike :
    ClosesAlike exampleClosingSettings "eve" 7 (some [exampleUuids.str 5])
      [⟨7, some [exampleUuids.str 5]⟩] (roomOfEveAlone true) := by
  apply (closes_alike_iff exampleClosingSettings "eve" rfl rfl (List.mem_singleton.mpr rfl)).mpr
  refine .inr ⟨⟨by decide, by decide, by decide, ?_⟩, ⟨1, rfl, by decide, by decide, ?_⟩, ?_⟩
  · intro entry isEntry
    rw [List.mem_singleton.mp (show entry ∈ [⟨7, roomOfEve true⟩] from isEntry)]
    exact ⟨1, rfl, by decide⟩
  · exact fun unassigned => by cases unassigned
  · exact ⟨nofun, rfl, rfl⟩

/-- Billing is not notified of a room that is closed in bulk. -/
theorem room_closed_in_bulk_is_not_billed :
    ¬ClosesAlike exampleClosingSettings "eve" 7 (some [exampleUuids.str 5])
      [⟨7, some [exampleUuids.str 5]⟩] (roomOfEveAlone false) := by
  intro alike
  have same := alike.same [7] _ _ rfl (by decide) rfl
  exact absurd same.billing (by decide)

end ChatsEngine.Rooms
