import ChatsEngine.Rooms.PinnedLists

/-! # When the two lists of rooms are alike

Both list the same rooms for a user that is known. They differ in the order of the pinned rooms,
which the legacy order takes from the pins of who sends the request. For an email that nobody
has, one lists nothing, and the other one lists everything. Rooms that tie may come in any
order on either side. -/

namespace ChatsEngine.Rooms

open Keyset

namespace TwoAgents

def text : EmailText where
  lower := id
  strip := id

/-- Two rooms of Ana, and one that waits. Ana has pinned her rooms. -/
def tables : RoomListTables where
  rooms := [⟨1, some "ana@acme.com", 7, 5, some 5, true⟩,
    ⟨2, some "ana@acme.com", 7, 5, some 5, true⟩, ⟨3, none, 7, 5, some 5, true⟩]
  users := ["ana@acme.com", "bea@acme.com"]
  permissions := fun _ project => if project = 5 then some ⟨false, [7]⟩ else none
  pins := [⟨1, 1, "ana@acme.com", 5, 40⟩, ⟨2, 2, "ana@acme.com", 5, 30⟩]
  roomsDistinct := by decide
  pinUsers := by decide
  pinsDistinct := by decide
  pinsUnique := by decide

def request (email : Option String) : ListRequest Nat where
  user := "ana@acme.com"
  project := 5
  email := email
  isValid := true
  matching := fun _ => true
  ordering := fun room => room.pk
  limit := 2
  includePinned := true
  limit_positive := by decide

end TwoAgents

namespace RoomListTables

variable (text : EmailText) (tables : RoomListTables)

def PinsOnActiveRooms : Prop :=
  ∀ pin ∈ tables.pins, ∃ room ∈ tables.rooms,
    room.pk = pin.room ∧ room.isActive = true ∧ room.user = some pin.user

instance : Decidable tables.PinsOnActiveRooms :=
  inferInstanceAs (Decidable (∀ pin ∈ tables.pins, ∃ room ∈ tables.rooms, _))

variable {Order : Type} (request : ListRequest Order)

def pinsOf (user : UserEmail) : List ListPin :=
  tables.pins.filter fun pin => pin.user = user ∧ pin.project = request.project

def IsPinnedBy (user : UserEmail) (room : ListRoom) : Prop :=
  room.pk ∈ (tables.pinsOf request user).map ListPin.room

instance (user : UserEmail) (room : ListRoom) : Decidable (tables.IsPinnedBy request user room) :=
  inferInstanceAs (Decidable (_ ∈ _))

variable {tables request} {passes : ListRoom → Bool} {user : UserEmail} {room : ListRoom}
  {pins : List ListPin}

/-! ## Rooms and pages -/

theorem queryset_distinct : ((tables.queryset request).map ListRoom.pk).Nodup :=
  tables.roomsDistinct.sublist (List.filter_sublist.map _)

theorem queryset_nodup : (tables.queryset request).Nodup := queryset_distinct.of_map _

theorem allPages_eq {listing : Nat → List ListRoom} {listed : List ListRoom}
    (same : ∀ offset, listing offset = listed) : allPages request listing = listed := by
  rw [funext same, allPages, OffsetPages.flatten_pages request.limit_positive]

/-! ## Pins -/

theorem pinnedRooms_distinct : ((tables.pinsOf request user).map ListPin.room).Nodup := by
  have pairs := tables.pinsUnique
  apply List.Nodup.map_on
  · intro pin isPin other isOther sameRoom
    simp only [pinsOf, List.mem_filter, decide_eq_true_eq] at isPin isOther
    apply List.inj_on_of_nodup_map pairs isPin.1 isOther.1
    rw [sameRoom, isPin.2.1, isOther.2.1]
  · exact (pairs.of_map _).filter _

theorem rows_pinsQuery (active : tables.PinsOnActiveRooms) :
    (tables.pinsQuery request user).rows = tables.pinsOf request user := by
  apply List.filter_congr
  intro pin isPin
  rcases active pin isPin with ⟨room, isRoom, isPinned, isActive, _⟩
  have exists_room : ∃ room ∈ tables.rooms, room.pk = pin.room ∧ room.isActive = true :=
    ⟨room, isRoom, isPinned, isActive⟩
  simp only [exists_room, and_true]

section Pins

variable (active : tables.PinsOnActiveRooms) (lists : (tables.pinsQuery request user).Lists pins)
include active lists

theorem perm_pins : pins.Perm (tables.pinsOf request user) := rows_pinsQuery active ▸ lists.perm

theorem mem_pins_iff : room.pk ∈ pins.map ListPin.room ↔ tables.IsPinnedBy request user room :=
  ((perm_pins active lists).map ListPin.room).mem_iff

theorem pins_distinct : (pins.map ListPin.room).Nodup :=
  ((perm_pins active lists).map ListPin.room).nodup_iff.mpr pinnedRooms_distinct

theorem createdOn_le_of_idxOf_lt {newer older : ListPin}
    (isNewer : newer ∈ tables.pinsOf request user) (isOlder : older ∈ tables.pinsOf request user)
    (before : (pins.map ListPin.room).idxOf newer.room <
      (pins.map ListPin.room).idxOf older.room) : older.createdOn ≤ newer.createdOn := by
  by_contra later
  have inPins := perm_pins active lists
  have precedes : OrderedQuery.Precedes older newer pins :=
    lists.precedes_of_lt (OrderDual.toDual_lt_toDual.mpr (Nat.lt_of_not_le later))
  have different : older ≠ newer := by
    rintro rfl
    exact Nat.lt_irrefl _ before
  have after := precedes.idxOf_lt (pins_distinct active lists) (inPins.mem_iff.mpr isOlder)
    (inPins.mem_iff.mpr isNewer) different
  exact Nat.lt_asymm before after

end Pins

theorem isPinnedBy_of_pin {pin : ListPin} (isPin : pin ∈ tables.pinsOf request user)
    (pins : pin.room = room.pk) : tables.IsPinnedBy request user room :=
  List.mem_map.mpr ⟨pin, isPin, pins⟩

theorem pinCreatedOn_of_pin {pin : ListPin} (isPin : pin ∈ tables.pinsOf request request.user)
    (pins : pin.room = room.pk) : tables.pinCreatedOn request room = some pin.createdOn := by
  have isOwn := of_decide_eq_true (List.mem_filter.mp isPin).2
  rw [pinCreatedOn, List.max?_eq_some_iff]
  constructor
  · apply List.mem_map_of_mem
    rw [List.mem_filter]
    exact ⟨List.mem_of_mem_filter isPin, decide_eq_true ⟨isOwn.1, pins, isOwn.2⟩⟩
  · intro time isTime
    rcases List.mem_map.mp isTime with ⟨other, isOther, created⟩
    rw [List.mem_filter, decide_eq_true_eq] at isOther
    have otherIsPin : other ∈ tables.pinsOf request request.user :=
      List.mem_filter.mpr ⟨isOther.1, decide_eq_true ⟨isOther.2.1, isOther.2.2.2⟩⟩
    have same : other = pin :=
      List.inj_on_of_nodup_map pinnedRooms_distinct otherIsPin isPin
        (isOther.2.2.1.trans pins.symm)
    rw [← created, same]

theorem pinCreatedOn_of_unpinned (unpinned : ¬tables.IsPinnedBy request request.user room) :
    tables.pinCreatedOn request room = none := by
  have noPins : tables.pins.filter (fun pin => pin.user = request.user ∧ pin.room = room.pk ∧
      pin.project = request.project) = [] := by
    rw [List.filter_eq_nil_iff]
    intro pin isPin isOwn
    have own := of_decide_eq_true isOwn
    exact unpinned (isPinnedBy_of_pin
      (List.mem_filter.mpr ⟨isPin, decide_eq_true ⟨own.1, own.2.2⟩⟩) own.2.1)
  rw [pinCreatedOn, noPins]
  rfl

/-! ## An email that nobody has -/

theorem email_of_pinUser_none (unknown : tables.pinUser request = none) :
    request.email.getD request.user ∉ tables.users := by
  rw [pinUser] at unknown
  cases emailIs : request.email with
  | none => simp [emailIs] at unknown
  | some email => simpa [emailIs] using unknown

theorem isPinned_of_pinUser_none (unknown : tables.pinUser request = none) (room : ListRoom) :
    tables.isPinned request room = false := by
  have noPins : tables.legacyPins request = [] := by
    rw [legacyPins, List.filter_eq_nil_iff]
    intro pin isPin isAsked
    have isUser := tables.pinUsers pin isPin
    rw [(of_decide_eq_true isAsked).2] at isUser
    exact email_of_pinUser_none unknown isUser
  rw [isPinned, noPins]
  rfl

theorem email_of_pinUser_some (known : tables.pinUser request = some user) :
    request.email.getD request.user = user := by
  rw [pinUser] at known
  cases emailIs : request.email with
  | none => simpa [emailIs] using known
  | some email =>
      simp only [emailIs] at known
      split at known
      · exact Option.some.inj known
      · cases known

theorem isPinned_iff (known : tables.pinUser request = some user) :
    tables.isPinned request room = true ↔ tables.IsPinnedBy request user room := by
  have samePins : tables.legacyPins request = tables.pinsOf request user := by
    rw [legacyPins, pinsOf, email_of_pinUser_some known]
    exact List.filter_congr fun pin _ => by simp only [and_comm]
  rw [isPinned, samePins, IsPinnedBy, decide_eq_true_eq]

theorem isPinned_eq_false (known : tables.pinUser request = some user)
    (unpinned : ¬tables.IsPinnedBy request user room) : tables.isPinned request room = false :=
  Bool.eq_false_iff.mpr fun pinned => unpinned ((isPinned_iff known).mp pinned)

theorem isPinned_eq (known : tables.pinUser request = some user) {first second : ListRoom}
    (same : tables.IsPinnedBy request user first ↔ tables.IsPinnedBy request user second) :
    tables.isPinned request first = tables.isPinned request second := by
  rw [Bool.eq_iff_iff, isPinned_iff known, isPinned_iff known, same]

/-! ## The queries -/

variable {text}

theorem pk_mem_filtered_iff (member : room ∈ tables.queryset request) :
    room.pk ∈ ((tables.queryset request).filter passes).map ListRoom.pk ↔ passes room = true := by
  rw [List.mem_map]
  constructor
  · intro found
    rcases found with ⟨other, isFiltered, samePk⟩
    rw [List.mem_filter] at isFiltered
    have same := List.inj_on_of_nodup_map queryset_distinct isFiltered.1 member samePk
    exact same ▸ isFiltered.2
  · intro isPassing
    exact ⟨room, List.mem_filter.mpr ⟨member, isPassing⟩, rfl⟩

section Queries

variable (tables request)

def legacyRooms (passes : ListRoom → Bool) :
    OrderedQuery ListRoom (Bool ×ₗ (WithBot Instantᵒᵈ ×ₗ Order)) where
  rows := (tables.queryset request).filter fun room => passes room ∨ tables.isPinned request room
  key := tables.legacyKey request

def mainRooms (passes : ListRoom → Bool) (user : UserEmail) : OrderedQuery ListRoom Order where
  rows := (tables.queryset request).filter fun room =>
    passes room ∧ ¬tables.IsPinnedBy request user room
  key := request.ordering

def pinnedRooms (pins : List ListPin) : List ListRoom :=
  orderBy (fun room => (pins.map ListPin.room).idxOf room.pk)
    ((tables.queryset request).filter fun room => room.pk ∈ pins.map ListPin.room)

end Queries

theorem legacyQuery_eq (filtered : tables.filters text request = some passes) :
    tables.legacyQuery text request = some (tables.legacyRooms request passes) := by
  rw [legacyQuery, filterQueryset, filtered, Option.map_some, Option.map_some, legacyRooms]
  congr 2
  apply List.filter_congr
  intro room member
  simp only [pk_mem_filtered_iff member]

theorem mainQuery_eq (active : tables.PinsOnActiveRooms)
    (lists : (tables.pinsQuery request user).Lists pins)
    (filtered : tables.filters text request = some passes) :
    tables.mainQuery text request (pins.map ListPin.room) =
      some (tables.mainRooms request passes user) := by
  rw [mainQuery, filterQueryset, filtered, Option.map_some, Option.map_some, mainRooms]
  congr 2
  rw [List.filter_filter]
  apply List.filter_congr
  intro room _
  rw [Bool.eq_iff_iff]
  simp [mem_pins_iff active lists, and_comm]

theorem mem_mainRooms_iff :
    room ∈ (tables.mainRooms request passes user).rows ↔
      room ∈ tables.queryset request ∧ passes room = true ∧
        ¬tables.IsPinnedBy request user room := by
  rw [mainRooms, List.mem_filter, decide_eq_true_eq]

theorem mem_legacyRooms_iff (known : tables.pinUser request = some user) :
    room ∈ (tables.legacyRooms request passes).rows ↔
      room ∈ tables.queryset request ∧
        (passes room = true ∨ tables.IsPinnedBy request user room) := by
  rw [legacyRooms, List.mem_filter, decide_eq_true_eq, isPinned_iff known]

theorem mem_pinnedRooms_iff (active : tables.PinsOnActiveRooms)
    (lists : (tables.pinsQuery request user).Lists pins) :
    room ∈ tables.pinnedRooms request pins ↔
      room ∈ tables.queryset request ∧ tables.IsPinnedBy request user room := by
  rw [pinnedRooms, mem_orderBy, List.mem_filter, decide_eq_true_eq, mem_pins_iff active lists]

theorem exists_pins_precedes (active : tables.PinsOnActiveRooms) {pin other : ListPin}
    (isPin : pin ∈ tables.pinsOf request user) (isOther : other ∈ tables.pinsOf request user)
    {first second : ListRoom}
    (isFirst : first ∈ tables.queryset request) (isSecond : second ∈ tables.queryset request)
    (pinsFirst : pin.room = first.pk) (pinsSecond : other.room = second.pk)
    (different : first ≠ second)
    (inOrder : OrderDual.toDual pin.createdOn ≤ OrderDual.toDual other.createdOn) :
    ∃ pins, (tables.pinsQuery request user).Lists pins ∧
      OrderedQuery.Precedes first second (tables.pinnedRooms request pins) := by
  have rooms : first.pk ≠ second.pk := fun samePk =>
    different (List.inj_on_of_nodup_map queryset_distinct isFirst isSecond samePk)
  have apart : pin ≠ other := by
    rintro rfl
    exact rooms (pinsFirst.symm.trans pinsSecond)
  have inKeys : (tables.pinsQuery request user).key pin ≤
      (tables.pinsQuery request user).key other := inOrder
  rcases OrderedQuery.exists_precedes apart inKeys with ⟨pins, lists, precedes⟩
  refine ⟨pins, lists, ?_⟩
  have before := precedes.idxOf_lt (pins_distinct active lists)
    ((perm_pins active lists).mem_iff.mpr isPin) ((perm_pins active lists).mem_iff.mpr isOther)
    apart
  rw [pinsFirst, pinsSecond] at before
  apply (orderBy_ordered _ _).imp
  rintro left right le ⟨rfl, rfl⟩
  exact absurd before (Nat.not_lt_of_ge le)

theorem listWithOptimizedPinOrder_eq (known : tables.pinUser request = some user)
    (active : tables.PinsOnActiveRooms) (lists : (tables.pinsQuery request user).Lists pins)
    (filtered : tables.filters text request = some passes) (listing : Nat → List ListRoom) :
    tables.optimizedList text request pins listing =
      some (tables.pinnedRooms request pins ++ allPages request listing) := by
  have known' : tables.pinUser { request with includePinned := true } = some user := known
  have main : tables.mainQuery text { request with includePinned := true }
      (pins.map ListPin.room) = some (tables.mainRooms request passes user) :=
    mainQuery_eq active lists filtered
  rw [optimizedList, listWithOptimizedPinOrder, known']
  dsimp only
  rw [main, Option.map_some, Option.map_some]
  split
  · next noPins => simp [pinnedRooms, noPins, orderBy, allPages]
  · rfl

/-! ## Where they agree -/

theorem optimizedList_of_unknown (unknown : tables.pinUser request = none)
    (listing : Nat → List ListRoom) :
    tables.optimizedList text request pins listing = some (allPages request listing) := by
  have unknown' : tables.pinUser { request with includePinned := true } = none := unknown
  rw [optimizedList, listWithOptimizedPinOrder, unknown']
  rfl

theorem rows_legacyRooms_of_unknown (unknown : tables.pinUser request = none) :
    (tables.legacyRooms request passes).rows = (tables.queryset request).filter passes := by
  apply List.filter_congr
  intro room _
  simp [isPinned_of_pinUser_none unknown room]

variable [LinearOrder Order]

section Agreement

variable (text tables request)

/-- Two rooms come in the same order, and do not tie, with both keys. -/
def InSameOrder {Key Other : Type} [LT Key] [LT Other] (key next : Key) (other following : Other) :
    Prop :=
  key < next ∧ other < following ∨ next < key ∧ following < other

/-- The order of the pins of who sends the request lists the rooms that the user has pinned from
the newest pin to the oldest one, and the other rooms as asked for. -/
structure AgreesFor (user : UserEmail) (passes : ListRoom → Bool) : Prop where
  pinned : ∀ pin ∈ tables.pinsOf request user, ∀ other ∈ tables.pinsOf request user,
    ∀ first ∈ tables.queryset request, ∀ second ∈ tables.queryset request,
      pin.room = first.pk → other.room = second.pk → first ≠ second →
        InSameOrder (tables.dateKey request first) (tables.dateKey request second)
          (OrderDual.toDual pin.createdOn) (OrderDual.toDual other.createdOn)
  others : ∀ first ∈ (tables.mainRooms request passes user).rows,
    ∀ second ∈ (tables.mainRooms request passes user).rows, first ≠ second →
      InSameOrder (tables.dateKey request first) (tables.dateKey request second)
        (request.ordering first) (request.ordering second)

/-- No filter takes a room away, and there is at most one room. -/
structure AgreesUnfiltered (passes : ListRoom → Bool) : Prop where
  passing : ∀ room ∈ tables.queryset request, passes room = true
  one : ∀ first ∈ tables.queryset request, ∀ second ∈ tables.queryset request, first = second

def ListsAgree : Prop :=
  match tables.pinUser request with
  | some user => ∀ passes ∈ tables.filters text request, tables.AgreesFor request user passes
  | none => ∃ passes ∈ tables.filters text request, tables.AgreesUnfiltered request passes

def AlwaysSame : Prop :=
  ∀ listing pins others, tables.LegacyListing text request listing →
    tables.OptimizedListing text request pins others →
      tables.listWithLegacyPinOrder text request listing =
        tables.optimizedList text request pins others

end Agreement

theorem legacyKey_lt_iff {first second : ListRoom}
    (same : tables.isPinned request first = tables.isPinned request second) :
    tables.legacyKey request first < tables.legacyKey request second ↔
      tables.dateKey request first < tables.dateKey request second := by
  rw [legacyKey, legacyKey, Prod.Lex.toLex_lt_toLex, same]
  simp

theorem legacyKey_lt_of_pinned {first second : ListRoom}
    (pinned : tables.isPinned request first = true)
    (unpinned : tables.isPinned request second = false) :
    tables.legacyKey request first < tables.legacyKey request second := by
  rw [legacyKey, legacyKey, Prod.Lex.toLex_lt_toLex, pinned, unpinned]
  exact .inl (by simp)

/-! ### A user that is known -/

/-- The pinned rooms in the order of some list of the pins, and some list of the others. -/
def OptimizedRooms (tables : RoomListTables) (request : ListRequest Order)
    (passes : ListRoom → Bool) (user : UserEmail) (listed : List ListRoom) : Prop :=
  ∃ pins others, (tables.pinsQuery request user).Lists pins ∧
    (tables.mainRooms request passes user).Lists others ∧
      listed = tables.pinnedRooms request pins ++ others

/-- What the two lists may be is one list only. -/
def OneList (tables : RoomListTables) (request : ListRequest Order) (passes : ListRoom → Bool)
    (user : UserEmail) : Prop :=
  ∀ listed others, (tables.legacyRooms request passes).Lists listed →
    tables.OptimizedRooms request passes user others → listed = others

theorem OneList.inSameOrder (known : tables.pinUser request = some user)
    (one : tables.OneList request passes user) {first second : ListRoom} [LinearOrder Key]
    {key next : Key}
    (isFirst : first ∈ (tables.legacyRooms request passes).rows)
    (isSecond : second ∈ (tables.legacyRooms request passes).rows) (different : first ≠ second)
    (samePins : tables.IsPinnedBy request user first ↔ tables.IsPinnedBy request user second)
    (forward : key ≤ next → ∃ listed, tables.OptimizedRooms request passes user listed ∧
      OrderedQuery.Precedes first second listed)
    (backward : next ≤ key → ∃ listed, tables.OptimizedRooms request passes user listed ∧
      OrderedQuery.Precedes second first listed) :
    InSameOrder (tables.dateKey request first) (tables.dateKey request second) key next := by
  have strict := OrderedQuery.strict_of_same one
    (fun listed lists => ⟨lists.mem_iff.mpr isFirst, lists.mem_iff.mpr isSecond⟩) different
    (OrderedQuery.exists_precedes different) (OrderedQuery.exists_precedes different.symm)
    forward backward
  have pins := isPinned_eq known samePins
  exact strict.imp (And.imp_left (legacyKey_lt_iff pins).mp)
    (And.imp_left (legacyKey_lt_iff pins.symm).mp)

section Known

variable (active : tables.PinsOnActiveRooms) (known : tables.pinUser request = some user)
include active known

theorem alwaysSame_iff_of_known (filtered : tables.filters text request = some passes) :
    tables.AlwaysSame text request ↔ tables.OneList request passes user := by
  have legacyList (listing : Nat → List ListRoom) :
      tables.listWithLegacyPinOrder text request listing = some (allPages request listing) := by
    rw [listWithLegacyPinOrder, legacyQuery_eq filtered, Option.map_some]
  constructor
  · rintro always listed _ isListed ⟨pins, others, lists, isMain, rfl⟩
    have same := always (fun _ => listed) pins (fun _ => others) ?_ ?_
    · rw [legacyList, listWithOptimizedPinOrder_eq known active lists filtered,
        allPages_eq fun _ => rfl, allPages_eq fun _ => rfl] at same
      exact Option.some.inj same
    · intro query isQuery _
      rw [legacyQuery_eq filtered, Option.mem_some] at isQuery
      exact isQuery ▸ isListed
    · rw [OptimizedListing, known]
      refine ⟨lists, ?_⟩
      intro query isQuery _
      rw [mainQuery_eq active lists filtered, Option.mem_some] at isQuery
      exact isQuery ▸ isMain
  · intro same listing pins others legacy optimized
    rw [OptimizedListing, known] at optimized
    rcases optimized with ⟨lists, optimized⟩
    have isListed := legacy _ (legacyQuery_eq filtered)
    have isMain := optimized _ (mainQuery_eq active lists filtered)
    have listings := fun offset offset' =>
      same _ _ (isListed offset) ⟨pins, _, lists, isMain offset', rfl⟩
    have pages : ∀ offset, others offset = others 0 := fun offset =>
      List.append_cancel_left ((listings 0 offset).symm.trans (listings 0 0))
    rw [legacyList, listWithOptimizedPinOrder_eq known active lists filtered,
      allPages_eq fun offset => listings offset 0, allPages_eq pages]

theorem OneList.agreesFor (one : tables.OneList request passes user) :
    tables.AgreesFor request user passes := by
  have somePins := (tables.pinsQuery request user).lists_orderBy
  have someMain := (tables.mainRooms request passes user).lists_orderBy
  constructor
  · intro pin isPin other isOther first isFirst second isSecond pinsFirst pinsSecond different
    have firstPinned := isPinnedBy_of_pin isPin pinsFirst
    have secondPinned := isPinnedBy_of_pin isOther pinsSecond
    have beforeOthers {room next : ListRoom} (pinned : tables.IsPinnedBy request user room)
        (lists : ∃ pins, (tables.pinsQuery request user).Lists pins ∧
          OrderedQuery.Precedes room next (tables.pinnedRooms request pins)) :
        ∃ listed, tables.OptimizedRooms request passes user listed ∧
          OrderedQuery.Precedes room next listed := by
      rcases lists with ⟨pins, lists, precedes⟩
      refine ⟨_, ⟨pins, _, lists, someMain, rfl⟩, precedes.append_of_notMem_right ?_⟩
      intro isMain
      exact (mem_mainRooms_iff.mp (someMain.mem_iff.mp isMain)).2.2 pinned
    apply OneList.inSameOrder known one
      ((mem_legacyRooms_iff known).mpr ⟨isFirst, .inr firstPinned⟩)
      ((mem_legacyRooms_iff known).mpr ⟨isSecond, .inr secondPinned⟩) different
      (iff_of_true firstPinned secondPinned)
    · intro inOrder
      exact beforeOthers firstPinned (exists_pins_precedes active isPin isOther isFirst isSecond
        pinsFirst pinsSecond different inOrder)
    · intro inOrder
      exact beforeOthers secondPinned (exists_pins_precedes active isOther isPin isSecond isFirst
        pinsSecond pinsFirst different.symm inOrder)
  · intro first isFirst second isSecond different
    have afterPinned {room next : ListRoom}
        (isNext : next ∈ (tables.mainRooms request passes user).rows)
        (lists : ∃ others, (tables.mainRooms request passes user).Lists others ∧
          OrderedQuery.Precedes room next others) :
        ∃ listed, tables.OptimizedRooms request passes user listed ∧
          OrderedQuery.Precedes room next listed := by
      rcases lists with ⟨others, lists, precedes⟩
      refine ⟨_, ⟨_, others, somePins, lists, rfl⟩, precedes.append_of_notMem_left ?_⟩
      intro isPinned
      exact (mem_mainRooms_iff.mp isNext).2.2
        ((mem_pinnedRooms_iff active somePins).mp isPinned).2
    have firstOther := mem_mainRooms_iff.mp isFirst
    have secondOther := mem_mainRooms_iff.mp isSecond
    apply OneList.inSameOrder known one
      ((mem_legacyRooms_iff known).mpr ⟨firstOther.1, .inl firstOther.2.1⟩)
      ((mem_legacyRooms_iff known).mpr ⟨secondOther.1, .inl secondOther.2.1⟩) different
      (iff_of_false firstOther.2.2 secondOther.2.2)
    · intro inOrder
      exact afterPinned isSecond (OrderedQuery.exists_precedes different inOrder)
    · intro inOrder
      exact afterPinned isFirst (OrderedQuery.exists_precedes different.symm inOrder)

theorem AgreesFor.pinnedRooms_strict (agrees : tables.AgreesFor request user passes)
    (lists : (tables.pinsQuery request user).Lists pins) :
    (tables.pinnedRooms request pins).Pairwise fun before after =>
      tables.legacyKey request before < tables.legacyKey request after := by
  have positions : (((tables.queryset request).filter fun room =>
      room.pk ∈ pins.map ListPin.room).map
        fun room => (pins.map ListPin.room).idxOf room.pk).Nodup := by
    apply List.Nodup.map_on
    · intro first isFirst second isSecond same
      rw [List.mem_filter] at isFirst isSecond
      have samePk := (List.idxOf_inj (of_decide_eq_true isFirst.2)).mp same
      exact List.inj_on_of_nodup_map queryset_distinct isFirst.1 isSecond.1 samePk
    · exact queryset_nodup.filter _
  rw [pinnedRooms, pairwise_orderBy_iff _ positions]
  intro first isFirst second isSecond before
  simp only [List.mem_filter, decide_eq_true_eq, mem_pins_iff active lists] at isFirst isSecond
  rcases List.mem_map.mp isFirst.2 with ⟨pin, isPin, pinsFirst⟩
  rcases List.mem_map.mp isSecond.2 with ⟨other, isOther, pinsSecond⟩
  have different : first ≠ second := by
    rintro rfl
    exact Nat.lt_irrefl _ before
  rw [legacyKey_lt_iff (isPinned_eq known (iff_of_true isFirst.2 isSecond.2))]
  rw [← pinsFirst, ← pinsSecond] at before
  have newer := createdOn_le_of_idxOf_lt active lists isPin isOther before
  rcases agrees.pinned pin isPin other isOther first isFirst.1 second isSecond.1 pinsFirst
    pinsSecond different with inOrder | swapped
  · exact inOrder.1
  · exact absurd (OrderDual.toDual_lt_toDual.mp swapped.2) (Nat.not_lt_of_ge newer)

omit active in
theorem AgreesFor.others_strict (agrees : tables.AgreesFor request user passes)
    {others : List ListRoom} (lists : (tables.mainRooms request passes user).Lists others) :
    others.Pairwise fun before after =>
      tables.legacyKey request before < tables.legacyKey request after := by
  have distinct : others.Nodup := lists.nodup (queryset_nodup.filter _)
  apply (lists.ordered.and distinct).imp_of_mem
  rintro first second isFirst isSecond ⟨le, different⟩
  rw [lists.mem_iff] at isFirst isSecond
  have firstOther := (mem_mainRooms_iff.mp isFirst).2.2
  have secondOther := (mem_mainRooms_iff.mp isSecond).2.2
  rw [legacyKey_lt_iff (isPinned_eq known (iff_of_false firstOther secondOther))]
  rcases agrees.others first isFirst second isSecond different with inOrder | swapped
  · exact inOrder.1
  · exact absurd swapped.2 (not_lt_of_ge le)

theorem AgreesFor.oneList (agrees : tables.AgreesFor request user passes) :
    tables.OneList request passes user := by
  rintro listed _ isListed ⟨pins, others, lists, isMain, rfl⟩
  have strict : (tables.pinnedRooms request pins ++ others).Pairwise fun before after =>
      tables.legacyKey request before < tables.legacyKey request after := by
    refine List.pairwise_append.mpr ⟨agrees.pinnedRooms_strict active known lists,
      agrees.others_strict known isMain, ?_⟩
    intro first isFirst second isSecond
    have pinned := ((mem_pinnedRooms_iff active lists).mp isFirst).2
    have other := (mem_mainRooms_iff.mp (isMain.mem_iff.mp isSecond)).2.2
    exact legacyKey_lt_of_pinned ((isPinned_iff known).mpr pinned) (isPinned_eq_false known other)
  apply isListed.eq_of_strict _ strict
  have distinct : (tables.pinnedRooms request pins ++ others).Nodup :=
    strict.imp fun less => ne_of_apply_ne _ less.ne
  apply (List.perm_ext_iff_of_nodup distinct (queryset_nodup.filter _)).mpr
  intro room
  rw [List.mem_append, mem_pinnedRooms_iff active lists, isMain.mem_iff, mem_mainRooms_iff]
  rw [show room ∈ List.filter _ _ ↔ _ from mem_legacyRooms_iff known]
  tauto

end Known

theorem alwaysSame_of_raising (known : tables.pinUser request = some user)
    (raises : tables.filters text request = none) : tables.AlwaysSame text request := by
  intro listing pins others _ _
  have known' : tables.pinUser { request with includePinned := true } = some user := known
  have noQuery : tables.mainQuery text { request with includePinned := true }
      (pins.map ListPin.room) = none := by
    rw [mainQuery, filterQueryset, show tables.filters text { request with includePinned := true } =
      none from raises]
    rfl
  rw [listWithLegacyPinOrder, legacyQuery, filterQueryset, raises, optimizedList,
    listWithOptimizedPinOrder, known']
  dsimp only
  rw [noQuery]
  rfl

/-! ### An email that nobody has -/

theorem agreesUnfiltered_of_same (unknown : tables.pinUser request = none)
    (same : ∀ listed others, (tables.legacyRooms request passes).Lists listed →
      (OrderedQuery.unordered (tables.queryset request)).Lists others → listed = others) :
    tables.AgreesUnfiltered request passes := by
  have someLegacy := (tables.legacyRooms request passes).lists_orderBy
  have someOthers := (OrderedQuery.unordered (tables.queryset request)).lists_orderBy
  have passing : ∀ room ∈ tables.queryset request,
      room ∈ (tables.legacyRooms request passes).rows := by
    intro room member
    rw [← someLegacy.mem_iff, same _ _ someLegacy someOthers, someOthers.mem_iff]
    exact member
  constructor
  · intro room member
    have listed := passing room member
    rw [rows_legacyRooms_of_unknown unknown, List.mem_filter] at listed
    exact listed.2
  · intro first isFirst second isSecond
    by_contra different
    have strict := OrderedQuery.strict_of_same same
      (fun listed lists => ⟨lists.mem_iff.mpr (passing first isFirst),
        lists.mem_iff.mpr (passing second isSecond)⟩) different
      (OrderedQuery.exists_precedes different) (OrderedQuery.exists_precedes (Ne.symm different))
      (OrderedQuery.exists_precedes different) (OrderedQuery.exists_precedes (Ne.symm different))
    rcases strict with ⟨_, less⟩ | ⟨_, less⟩ <;> exact lt_irrefl _ less

theorem alwaysSame_iff_of_unknown (unknown : tables.pinUser request = none) :
    tables.AlwaysSame text request ↔
      ∃ passes ∈ tables.filters text request, tables.AgreesUnfiltered request passes := by
  constructor
  · intro always
    have optimized : tables.OptimizedListing text request [] fun _ =>
        orderBy (fun _ => ()) (tables.queryset request) := by
      rw [OptimizedListing, unknown]
      exact fun _ => (OrderedQuery.unordered (tables.queryset request)).lists_orderBy
    cases filtered : tables.filters text request with
    | none =>
        have noQuery : tables.legacyQuery text request = none := by
          rw [legacyQuery, filterQueryset, filtered]
          rfl
        have same := always (fun _ => []) [] _ (by simp [LegacyListing, noQuery]) optimized
        rw [listWithLegacyPinOrder, noQuery, optimizedList_of_unknown unknown] at same
        cases same
    | some passes =>
        refine ⟨passes, rfl, agreesUnfiltered_of_same unknown ?_⟩
        intro listed others isListed isOthers
        have same := always (fun _ => listed) [] (fun _ => others) ?_ ?_
        · rw [listWithLegacyPinOrder, legacyQuery_eq filtered, Option.map_some,
            optimizedList_of_unknown unknown, allPages_eq fun _ => rfl,
            allPages_eq fun _ => rfl] at same
          exact Option.some.inj same
        · intro query isQuery _
          rw [legacyQuery_eq filtered, Option.mem_some] at isQuery
          exact isQuery ▸ isListed
        · rw [OptimizedListing, unknown]
          exact fun _ => isOthers
  · rintro ⟨passes, filtered, agrees⟩ listing pins others legacy optimized
    rw [OptimizedListing, unknown] at optimized
    have isListed := legacy _ (legacyQuery_eq filtered)
    have rows : (tables.legacyRooms request passes).rows = tables.queryset request := by
      rw [rows_legacyRooms_of_unknown unknown, List.filter_eq_self]
      exact agrees.passing
    rw [listWithLegacyPinOrder, legacyQuery_eq filtered, Option.map_some,
      optimizedList_of_unknown unknown,
      allPages_eq fun offset => ((isListed offset).eq_of_one (rows ▸ agrees.one)).trans rows,
      allPages_eq fun offset => (optimized offset).eq_of_one agrees.one]
    rfl

/-! ### Requests for one's own rooms -/

theorem listsAgree_of_own (own : request.email = none)
    (instants : ((tables.pinsOf request request.user).map ListPin.createdOn).Nodup)
    (orders : ((tables.queryset request).map request.ordering).Nodup) :
    tables.ListsAgree text request := by
  have isUser : tables.pinUser request = some request.user := by
    rw [pinUser, own]
  rw [ListsAgree, isUser]
  intro passes _
  have descend {pin other : ListPin} (isPin : pin ∈ tables.pinsOf request request.user)
      (isOther : other ∈ tables.pinsOf request request.user) {first second : ListRoom}
      (pinsFirst : pin.room = first.pk) (pinsSecond : other.room = second.pk)
      (newer : OrderDual.toDual pin.createdOn < OrderDual.toDual other.createdOn) :
      tables.dateKey request first < tables.dateKey request second := by
    rw [dateKey, dateKey, Prod.Lex.toLex_lt_toLex, pinCreatedOn_of_pin isPin pinsFirst,
      pinCreatedOn_of_pin isOther pinsSecond]
    exact .inl (WithBot.coe_lt_coe.mpr newer)
  constructor
  · intro pin isPin other isOther first isFirst second isSecond pinsFirst pinsSecond different
    have apart : pin.createdOn ≠ other.createdOn := by
      intro same
      rw [List.inj_on_of_nodup_map instants isPin isOther same, pinsSecond] at pinsFirst
      exact different
        (List.inj_on_of_nodup_map queryset_distinct isFirst isSecond pinsFirst.symm)
    rcases lt_or_gt_of_ne (OrderDual.toDual_inj.not.mpr apart) with newer | older
    · exact .inl ⟨descend isPin isOther pinsFirst pinsSecond newer, newer⟩
    · exact .inr ⟨descend isOther isPin pinsSecond pinsFirst older, older⟩
  · intro first isFirst second isSecond different
    rw [mem_mainRooms_iff] at isFirst isSecond
    have apart : request.ordering first ≠ request.ordering second := fun same =>
      different (List.inj_on_of_nodup_map orders isFirst.1 isSecond.1 same)
    rw [dateKey, dateKey, pinCreatedOn_of_unpinned isFirst.2.2,
      pinCreatedOn_of_unpinned isSecond.2.2]
    rcases lt_or_gt_of_ne apart with less | greater
    · exact .inl ⟨Prod.Lex.toLex_lt_toLex.mpr (.inr ⟨rfl, less⟩), less⟩
    · exact .inr ⟨Prod.Lex.toLex_lt_toLex.mpr (.inr ⟨rfl, greater⟩), greater⟩

/-- On tables where pins belong to active rooms of their user, the two lists are the same,
whatever the queries list, exactly if the orders agree. -/
theorem lists_agree_iff (text : EmailText) (tables : RoomListTables)
    (active : tables.PinsOnActiveRooms) (request : ListRequest Order) :
    tables.AlwaysSame text request ↔ tables.ListsAgree text request := by
  rw [ListsAgree]
  cases isUser : tables.pinUser request with
  | none => exact alwaysSame_iff_of_unknown isUser
  | some user =>
      cases filtered : tables.filters text request with
      | none => exact iff_of_true (alwaysSame_of_raising isUser filtered) (by simp)
      | some passes =>
          simp only [Option.mem_some, forall_eq']
          rw [alwaysSame_iff_of_known active isUser filtered]
          exact ⟨OneList.agreesFor active isUser, AgreesFor.oneList active isUser⟩

theorem lists_agree_for_own_rooms :
    TwoAgents.tables.AlwaysSame TwoAgents.text (TwoAgents.request none) :=
  (lists_agree_iff TwoAgents.text TwoAgents.tables (by decide)
    (TwoAgents.request none)).mpr (listsAgree_of_own rfl (by decide) (by decide))

/-- With an email that nobody has, one lists nothing, and the other one lists everything. -/
theorem lists_differ_for_unknown_email :
    ¬∀ (tables : RoomListTables) (request : ListRequest Nat), tables.PinsOnActiveRooms →
      tables.AlwaysSame TwoAgents.text request := by
  intro always
  have same := always TwoAgents.tables (TwoAgents.request (some "eva@acme.com")) (by decide)
    (fun _ => []) [] (fun _ => TwoAgents.tables.rooms) ?_ ?_
  · have nothing : TwoAgents.tables.listWithLegacyPinOrder TwoAgents.text
        (TwoAgents.request (some "eva@acme.com")) (fun _ => []) = some [] := by decide
    have everything : TwoAgents.tables.optimizedList TwoAgents.text
        (TwoAgents.request (some "eva@acme.com")) [] (fun _ => TwoAgents.tables.rooms) =
          some TwoAgents.tables.rooms := by decide
    rw [nothing, everything] at same
    exact absurd same (by decide)
  · intro query isQuery _
    have noRooms : (TwoAgents.tables.legacyQuery TwoAgents.text
        (TwoAgents.request (some "eva@acme.com"))).map OrderedQuery.rows = some [] := by decide
    rw [Option.mem_def.mp isQuery, Option.map_some, Option.some.injEq] at noRooms
    exact ⟨noRooms ▸ .refl _, .nil⟩
  · intro _
    exact ⟨.refl _, List.pairwise_of_forall fun _ _ => le_refl ()⟩

end RoomListTables

end ChatsEngine.Rooms
