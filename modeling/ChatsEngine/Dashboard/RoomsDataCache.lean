import ChatsEngine.Core.Types
import ChatsEngine.Dashboard.RoomMetrics
import ChatsEngine.Foundation.ReadThrough
import ChatsEngine.Foundation.Table
import ChatsEngine.Foundation.UrlText
import Mathlib.Algebra.Order.Ring.Int

/-! # The cache of the rooms data

The general figures of the dashboard are averages over the rooms of the sectors that the
requester manages. They are cached under a text of the filters alone. -/

namespace ChatsEngine.Dashboard.RoomsData

/-- A date with its texts. -/
structure DateTime where
  instant : Int
  str : String
  repr : String

/-- What the libraries make of a text, or of the time on the clock. -/
structure Texts (Timezone : Type) where
  /-- The midnight before an instant. -/
  midnight : Timezone → Instant → DateTime
  pendulumParse : Timezone → String → Option DateTime
  uuid : String → Option Uuid

structure Project (Timezone : Type) where
  uuid : Uuid
  name : String
  timezone : Timezone

inductive Role
  | notSetted
  | admin
  | attendant
  deriving DecidableEq, Repr

structure ProjectPermission where
  uuid : Uuid
  project : Uuid
  role : Role
  deriving DecidableEq, Repr

structure Filters (Timezone : Type) where
  startDate : Option String
  endDate : Option String
  agent : Option UserEmail
  sector : Option String
  tag : Option String
  userRequest : ProjectPermission
  project : Project Timezone

structure Sector where
  project : Uuid
  isDeleted : Bool
  deriving DecidableEq, Repr

structure RoomQueue where
  sector : Uuid
  isDeleted : Bool
  deriving DecidableEq, Repr

/-- A room with the row of its metrics, if there is one. -/
structure Room where
  queue : Option RoomQueue
  user : Option UserEmail
  createdOn : Instant
  tags : List Uuid
  metric : Option RoomMetrics
  deriving DecidableEq, Repr

/-- An authorization is listed with its permission and its sector. -/
structure Database where
  rooms : Table Uuid Room
  sectors : Table Uuid Sector
  authorizations : List (Uuid × Uuid)

/-! ## The filters of the query -/

/-- A parameter that is set, and not empty. -/
def truthy (parameter : Option String) : Option String := parameter.filter (· ≠ "")

inductive CreatedOn
  | range (first last : DateTime)
  | since (midnight : DateTime)

inductive Scope (Timezone : Type)
  | sector (sector : String) (tag : Option String)
  | project (project : Project Timezone)

/-- `rooms_filter`, besides that all rooms have an agent. -/
structure RoomsFilter (Timezone : Type) where
  createdOn : CreatedOn
  user : Option UserEmail
  scope : Scope Timezone

section Filter

variable {Timezone : Type} (texts : Texts Timezone)

def filterDateRange (filters : Filters Timezone) (now : Instant) : Option CreatedOn :=
  match truthy filters.startDate, truthy filters.endDate with
  | some startDate, some endDate =>
      (texts.pendulumParse filters.project.timezone startDate).bind fun first =>
        (texts.pendulumParse filters.project.timezone (endDate ++ " 23:59:59")).map fun last =>
          .range first last
  | _, _ => some (.since (texts.midnight filters.project.timezone now))

def filterSector (filters : Filters Timezone) : Scope Timezone :=
  match truthy filters.sector with
  | some sector => .sector sector (truthy filters.tag)
  | none => .project filters.project

theorem filterDateRange_isSome {filters : Filters Timezone} {now later : Instant}
    (parsed : (filterDateRange texts filters later).isSome) :
    (filterDateRange texts filters now).isSome := by
  rw [filterDateRange] at parsed ⊢
  split
  · next startDate endDate starts ends => simpa only [starts, ends] using parsed
  · rfl

/-- Fails if a date cannot be parsed. -/
def roomsFilter (filters : Filters Timezone) (now : Instant) : Option (RoomsFilter Timezone) :=
  (filterDateRange texts filters now).map fun createdOn =>
    ⟨createdOn, truthy filters.agent, filterSector filters⟩

end Filter

/-! ## The key -/

def CreatedOn.item : CreatedOn → String × String
  | .range first last => ("created_on__range", "[" ++ first.repr ++ ", " ++ last.repr ++ "]")
  | .since midnight => ("created_on__gte", midnight.str)

/-- The text of a project is its name. -/
def Scope.items {Timezone : Type} : Scope Timezone → List (String × String)
  | .sector text tag =>
      ("queue__sector", text) :: (tag.map fun tag => ("tags__uuid", tag)).toList
  | .project own => [("queue__sector__project", own.name)]

def RoomsFilter.items {Timezone : Type} (filter : RoomsFilter Timezone) :
    List (String × String) :=
  ("user__isnull", "False") :: filter.createdOn.item ::
    ((filter.user.map fun user => ("user", user)).toList ++ filter.scope.items)

def Scope.SameTexts {Timezone : Type} : Scope Timezone → Scope Timezone → Prop
  | .sector text tag, .sector other otherTag => text = other ∧ tag = otherTag
  | .project own, .project other => own.name = other.name
  | _, _ => False

def RoomsFilter.SameTexts {Timezone : Type} (filter other : RoomsFilter Timezone) : Prop :=
  filter.createdOn.item = other.createdOn.item ∧ filter.user = other.user ∧
    filter.scope.SameTexts other.scope

theorem Scope.items_eq {Timezone : Type} {scope other : Scope Timezone}
    (same : scope.items = other.items) : scope.SameTexts other := by
  rcases scope with ⟨text, tag⟩ | own <;> rcases other with ⟨text', tag'⟩ | own'
  · cases tag <;> cases tag' <;> simp_all [items, SameTexts]
  · simp [items] at same
  · simp [items] at same
  · simpa [items, SameTexts] using same

theorem Scope.head_items {Timezone : Type} (scope : Scope Timezone) :
    ∃ text rest, scope.items = ("queue__sector", text) :: rest ∨
      scope.items = ("queue__sector__project", text) :: rest := by
  rcases scope with ⟨text, tag⟩ | own
  · exact ⟨text, _, .inl rfl⟩
  · exact ⟨own.name, _, .inr rfl⟩

theorem RoomsFilter.items_eq {Timezone : Type} {filter other : RoomsFilter Timezone}
    (same : filter.items = other.items) : filter.SameTexts other := by
  rcases filter with ⟨createdOn, user, scope⟩
  rcases other with ⟨createdOn', user', scope'⟩
  simp only [items, List.cons.injEq, true_and] at same
  rcases same with ⟨dates, rest⟩
  cases user <;> cases user'
  · exact ⟨dates, rfl, Scope.items_eq (by simpa using rest)⟩
  · rcases Scope.head_items scope with ⟨text, tail, is | is⟩ <;> simp [is] at rest
  · rcases Scope.head_items scope' with ⟨text, tail, is | is⟩ <;> simp [is] at rest
  · simp only [Option.map_some, Option.toList_some, List.cons_append, List.nil_append,
      List.cons.injEq, Prod.mk.injEq, true_and] at rest
    exact ⟨dates, congrArg some rest.1, Scope.items_eq rest.2⟩

theorem RoomsFilter.items_ne_nil {Timezone : Type} (filter : RoomsFilter Timezone) :
    filter.items ≠ [] :=
  List.cons_ne_nil _ _

theorem RoomsFilter.items_of_sameTexts {Timezone : Type} {filter other : RoomsFilter Timezone}
    (same : filter.SameTexts other) : filter.items = other.items := by
  rcases same with ⟨dates, user, scope⟩
  have scopes : filter.scope.items = other.scope.items := by
    revert scope
    rcases filter.scope with ⟨text, tag⟩ | own <;> rcases other.scope with ⟨text', tag'⟩ | own'
    · rintro ⟨rfl, rfl⟩
      rfl
    · exact False.elim
    · exact False.elim
    · intro names
      exact congrArg (fun name => [("queue__sector__project", name)]) names
  rw [items, items, dates, user, scopes]

def getCacheKey {Timezone : Type} (texts : Texts Timezone) (filters : Filters Timezone)
    (now : Instant) : Option String :=
  (roomsFilter texts filters now).map fun filter =>
    "dashboard:" ++ UrlText.urlencode filter.items ++ ":rooms_metrics"

/-- The key tells all texts of the filters, and nothing else. -/
theorem getCacheKey_eq_iff {Timezone : Type} {texts : Texts Timezone}
    {filters others : Filters Timezone} {now later : Instant} {filter other : RoomsFilter Timezone}
    (built : roomsFilter texts filters now = some filter)
    (built' : roomsFilter texts others later = some other) :
    getCacheKey texts filters now = getCacheKey texts others later ↔ filter.SameTexts other := by
  simp only [getCacheKey, built, built', Option.map_some, Option.some.injEq]
  constructor
  · intro same
    apply RoomsFilter.items_eq
    apply UrlText.urlencode_injective filter.items_ne_nil other.items_ne_nil
    apply String.toList_injective
    simpa only [String.toList_append, List.append_cancel_right_eq,
      List.append_cancel_left_eq] using congrArg String.toList same
  · intro same
    rw [RoomsFilter.items_of_sameTexts same]

/-! ## The query -/

/-- The sectors of the project, or those of them that the permission is authorized for. -/
def managerSectors (database : Database) (permission : ProjectPermission) : List Uuid :=
  (database.sectors.entries.filter fun sector =>
    sector.2.isDeleted = false ∧ sector.2.project = permission.project ∧
      (permission.role = .admin ∨ (permission.uuid, sector.1) ∈ database.authorizations)).map
    Sigma.fst

def CreatedOn.Admits (created : CreatedOn) (instant : Instant) : Prop :=
  match created with
  | .range first last => first.instant ≤ (instant : Nat) ∧ (instant : Nat) ≤ last.instant
  | .since midnight => midnight.instant ≤ (instant : Nat)

instance (created : CreatedOn) (instant : Instant) : Decidable (created.Admits instant) := by
  cases created <;> dsimp only [CreatedOn.Admits] <;> infer_instance

/-- A scope whose texts have been read. -/
inductive Target
  | sector (sector : Uuid) (tag : Option Uuid)
  | project (project : Uuid)
  deriving DecidableEq, Repr

/-- Fails if a text is not a uuid. -/
def Scope.target {Timezone : Type} (texts : Texts Timezone) : Scope Timezone → Option Target
  | .sector text none => (texts.uuid text).map fun uuid => .sector uuid none
  | .sector text (some tag) =>
      (texts.uuid text).bind fun uuid =>
        (texts.uuid tag).map fun tag => .sector uuid (some tag)
  | .project own => some (.project own.uuid)

def Target.Admits (database : Database) (target : Target) (sector : Uuid) (tags : List Uuid) :
    Prop :=
  match target with
  | .sector uuid tag => sector = uuid ∧ ∀ wanted ∈ tag, wanted ∈ tags
  | .project uuid => ∃ row ∈ database.sectors.lookup sector, row.project = uuid

instance (database : Database) (target : Target) (sector : Uuid) (tags : List Uuid) :
    Decidable (target.Admits database sector tags) := by
  cases target <;> dsimp only [Target.Admits] <;> infer_instance

def Room.InSector (database : Database) (room : Room) (sector : Uuid) : Prop :=
  room.user.isSome ∧ (∃ queue ∈ room.queue, queue.isDeleted = false ∧ queue.sector = sector) ∧
    ∃ row ∈ database.sectors.lookup sector, row.isDeleted = false

instance (database : Database) (room : Room) (sector : Uuid) :
    Decidable (room.InSector database sector) :=
  inferInstanceAs (Decidable (_ ∧ (∃ queue ∈ room.queue, _) ∧
    ∃ row ∈ database.sectors.lookup sector, _))

structure Selection where
  managed : List Uuid
  createdOn : CreatedOn
  user : Option UserEmail
  target : Target

def selection {Timezone : Type} (texts : Texts Timezone) (database : Database)
    (filters : Filters Timezone) (now : Instant) : Option Selection :=
  (roomsFilter texts filters now).bind fun filter =>
    (filter.scope.target texts).map fun target =>
      ⟨managerSectors database filters.userRequest, filter.createdOn, filter.user, target⟩

def Selection.Admits (selection : Selection) (database : Database) (room : Room) : Prop :=
  (∃ sector ∈ selection.managed,
      room.InSector database sector ∧ selection.target.Admits database sector room.tags) ∧
    selection.createdOn.Admits room.createdOn ∧
    ∀ user ∈ selection.user, room.user = some user

instance (selection : Selection) (database : Database) (room : Room) :
    Decidable (selection.Admits database room) :=
  inferInstanceAs (Decidable ((∃ sector ∈ selection.managed, _) ∧ _ ∧ ∀ user ∈ selection.user, _))

def selectRooms (database : Database) (selection : Selection) : List ((_ : Uuid) × Room) :=
  database.rooms.entries.filter fun room => selection.Admits database room.2

/-- The figures as the dashboard shows them. -/
structure RoomData where
  interactTime : Option Int
  responseTime : Option Int
  waitingTime : Option Int
  deriving DecidableEq, Repr

def averages (average : List Int → Option Int) (rooms : List ((_ : Uuid) × Room)) : RoomData :=
  let metrics := rooms.filterMap fun room => room.2.metric
  ⟨average (metrics.map RoomMetrics.interactionTime),
    average (metrics.map RoomMetrics.messageResponseTime),
    average (metrics.map RoomMetrics.waitingTime)⟩

/-! ## Requests -/

structure Request (Timezone : Type) where
  filters : Filters Timezone
  readAt : Instant
  queriedAt : Instant

section Service

variable {Timezone : Type} (texts : Texts Timezone) (average : List Int → Option Int)
  (database : Database)

/-- `create_room_dto` of what the repository returns. -/
def queryRoomsData (request : Request Timezone) : Option (List RoomData) :=
  (selection texts database request.filters request.queriedAt).map fun selection =>
    [averages average (selectRooms database selection)]

def getRoomsData (cacheTime : Nat) (store : TtlStore String (List RoomData))
    (request : Request Timezone) : Option (List RoomData) × TtlStore String (List RoomData) :=
  match getCacheKey texts request.filters request.readAt with
  | none => (none, store)
  | some cacheKey =>
      match (store.get request.readAt cacheKey).filter (!·.isEmpty) with
      | some cached => (some cached, store)
      | none =>
          match queryRoomsData texts average database request with
          | none => (none, store)
          | some rooms => (some rooms, store.set request.queriedAt cacheKey rooms cacheTime)

def answers (cacheTime : Nat) :
    TtlStore String (List RoomData) → List (Request Timezone) → List (Option (List RoomData))
  | _, [] => []
  | store, request :: requests =>
      (getRoomsData texts average database cacheTime store request).1 ::
        answers cacheTime (getRoomsData texts average database cacheTime store request).2 requests

/-- The two ask for the same dates, agent, sector and tag, or else project name. -/
def AsksAlike (request later : Request Timezone) : Prop :=
  ∃ filter ∈ roomsFilter texts request.filters request.readAt,
    ∃ other ∈ roomsFilter texts later.filters later.readAt, filter.SameTexts other

/-- Of two who ask alike, the later manages the same sectors, and its filter is read in the
same way: the same project, and the same instants. -/
def SharesScope (request later : Request Timezone) : Prop :=
  AsksAlike texts request later →
    managerSectors database request.filters.userRequest =
        managerSectors database later.filters.userRequest ∧
      roomsFilter texts request.filters request.queriedAt =
        roomsFilter texts later.filters later.queriedAt

def AdmitsAlike (request later : Request Timezone) : Prop :=
  AsksAlike texts request later →
    ∀ own ∈ selection texts database request.filters request.queriedAt,
      ∃ other ∈ selection texts database later.filters later.queriedAt,
        ∀ room, own.Admits database room ↔ other.Admits database room

/-- The requests are made while nothing that they have stored expires. -/
def WithinCacheTime (cacheTime : Nat) (start : Instant) (requests : List (Request Timezone)) :
    Prop :=
  ∀ request ∈ requests, start ≤ request.readAt ∧ request.readAt ≤ request.queriedAt ∧
    request.readAt < start + cacheTime

def throughCache : ReadThrough (Request Timezone) String (List RoomData) where
  key request := getCacheKey texts request.filters request.readAt
  compute := queryRoomsData texts average database
  usable := (!·.isEmpty)
  readAt := Request.readAt
  storedAt := Request.queriedAt
  key_isSome := by
    intro request value computed
    rcases Option.map_eq_some_iff.mp computed with ⟨own, selected, _⟩
    rcases Option.bind_eq_some_iff.mp selected with ⟨filter, built, _⟩
    rcases Option.map_eq_some_iff.mp built with ⟨createdOn, parsed, _⟩
    rw [getCacheKey, roomsFilter, Option.isSome_map, Option.isSome_map]
    exact filterDateRange_isSome texts (Option.isSome_of_mem parsed)
  usable_compute := by
    intro request value computed
    rcases Option.map_eq_some_iff.mp computed with ⟨own, _, rfl⟩
    rfl

theorem getRoomsData_eq_serve (cacheTime : Nat) (store : TtlStore String (List RoomData))
    (request : Request Timezone) :
    getRoomsData texts average database cacheTime store request =
      (throughCache texts average database).serve cacheTime store request := by
  rw [getRoomsData, ReadThrough.serve]
  dsimp only [throughCache]
  cases getCacheKey texts request.filters request.readAt with
  | none => rfl
  | some cacheKey =>
      dsimp only
      cases (store.get request.readAt cacheKey).filter (!·.isEmpty) with
      | some cached => rfl
      | none => cases queryRoomsData texts average database request <;> rfl

theorem answers_eq_serveAll (cacheTime : Nat) (store : TtlStore String (List RoomData))
    (requests : List (Request Timezone)) :
    answers texts average database cacheTime store requests =
      (throughCache texts average database).serveAll cacheTime store requests := by
  induction requests generalizing store with
  | nil => rfl
  | cons request requests induction =>
      rw [answers, ReadThrough.serveAll, getRoomsData_eq_serve, induction]

theorem getCacheKey_eq_iff_asksAlike {request : Request Timezone} (later : Request Timezone)
    {own : Selection} (selects : selection texts database request.filters request.queriedAt =
      some own) :
    getCacheKey texts request.filters request.readAt =
        getCacheKey texts later.filters later.readAt ↔
      AsksAlike texts request later := by
  have isBuilt : (roomsFilter texts request.filters request.readAt).isSome := by
    rcases Option.bind_eq_some_iff.mp selects with ⟨filter, built, _⟩
    rcases Option.map_eq_some_iff.mp built with ⟨createdOn, parsed, _⟩
    rw [roomsFilter, Option.isSome_map]
    exact filterDateRange_isSome texts (Option.isSome_of_mem parsed)
  rcases Option.isSome_iff_exists.mp isBuilt with ⟨filter, built⟩
  cases built' : roomsFilter texts later.filters later.readAt with
  | none => simp [AsksAlike, getCacheKey, built, built']
  | some other => simp [AsksAlike, getCacheKey_eq_iff built built', built, built']

theorem selectRooms_congr {own other : Selection}
    (alike : ∀ room, own.Admits database room ↔ other.Admits database room) :
    selectRooms database own = selectRooms database other := by
  apply List.filter_congr
  intro room _
  exact decide_eq_decide.mpr (alike room.2)

theorem SharesScope.admitsAlike {request later : Request Timezone}
    (shares : SharesScope texts database request later) :
    AdmitsAlike texts database request later := by
  intro alike own selects
  rcases shares alike with ⟨managed, filter⟩
  refine ⟨own, ?_, fun room => Iff.rfl⟩
  rw [selection, managed, filter] at selects
  exact selects

theorem AdmitsAlike.agree {request later : Request Timezone}
    (admits : AdmitsAlike texts database request later) :
    (throughCache texts average database).Agree request later := by
  intro sameKey value computed
  rcases Option.map_eq_some_iff.mp computed with ⟨own, selects, rfl⟩
  have alike := (getCacheKey_eq_iff_asksAlike texts database later selects).mp sameKey
  rcases admits alike own selects with ⟨other, selects', same⟩
  simp only [throughCache, queryRoomsData, Option.mem_def.mp selects', Option.map_some,
    selectRooms_congr database same]

def oneRoom (room : Room) : Table Uuid Room :=
  (∅ : Table Uuid Room).insert 0 { room with metric := some {} }

theorem interactTime_oneRoom (averagesRows : ∀ values, average values = none ↔ values = [])
    (room : Room) (own : Selection) :
    (averages average (selectRooms { database with rooms := oneRoom room } own)).interactTime.isSome
      ↔ own.Admits database room := by
  have selected : selectRooms { database with rooms := oneRoom room } own =
      if own.Admits database room then [⟨0, { room with metric := some {} }⟩] else [] := by
    have rows : (oneRoom room).entries = [⟨0, { room with metric := some {} }⟩] := rfl
    rw [selectRooms, rows, List.filter_singleton]
    simp only [Bool.cond_decide]
    rfl
  rw [selected]
  split
  · next admitted => simp [averages, admitted, averagesRows, Option.isSome_iff_ne_none]
  · next refused => simp [averages, refused, (averagesRows []).mpr rfl]

theorem admitsAlike_of_agree (averagesRows : ∀ values, average values = none ↔ values = [])
    {request later : Request Timezone}
    (agree : ∀ rooms, (throughCache texts average { database with rooms := rooms }).Agree
      request later) :
    AdmitsAlike texts database request later := by
  intro alike own selects
  have sameKey := (getCacheKey_eq_iff_asksAlike texts database later selects).mpr alike
  have computes : ∀ rooms, queryRoomsData texts average { database with rooms := rooms } later =
      some [averages average (selectRooms { database with rooms := rooms } own)] := by
    intro rooms
    apply agree rooms sameKey
    simp only [throughCache, queryRoomsData, Option.mem_def]
    rw [show selection texts { database with rooms := rooms } request.filters request.queriedAt =
      some own from selects]
    rfl
  rcases Option.map_eq_some_iff.mp (computes ∅) with ⟨other, selects', _⟩
  refine ⟨other, selects', ?_⟩
  intro room
  have figures := computes (oneRoom room)
  rw [queryRoomsData, show selection texts { database with rooms := oneRoom room } later.filters
    later.queriedAt = some other from selects', Option.map_some, Option.some.injEq,
    List.cons.injEq] at figures
  rw [← interactTime_oneRoom average database averagesRows, ← figures.1,
    interactTime_oneRoom average database averagesRows]

theorem WithinCacheTime.unexpired {cacheTime : Nat} {start : Instant}
    {requests : List (Request Timezone)} (within : WithinCacheTime cacheTime start requests) :
    ∀ request ∈ requests, request.readAt < start + cacheTime ∧ start ≤ request.queriedAt := by
  intro request member
  rcases within request member with ⟨started, queried, early⟩
  exact ⟨early, Nat.le_trans started queried⟩

theorem WithinCacheTime.answers_eq_iff {cacheTime : Nat} {start : Instant}
    {requests : List (Request Timezone)} (within : WithinCacheTime cacheTime start requests) :
    answers texts average database cacheTime (fun _ => none) requests =
        requests.map (queryRoomsData texts average database) ↔
      requests.Pairwise (throughCache texts average database).Agree := by
  rw [answers_eq_serveAll]
  exact ReadThrough.serveAll_eq_iff start requests within.unexpired

/-- As long as nothing expires, each request is answered with what its query returns if any two
who ask alike manage the same sectors and have their filters read in the same way. Whatever
the rooms are, they are answered so exactly if any two who ask alike admit the same rooms. -/
theorem answers_uncached (cacheTime : Nat) (start : Instant) (requests : List (Request Timezone))
    (within : WithinCacheTime cacheTime start requests)
    (averagesRows : ∀ values, average values = none ↔ values = []) :
    (requests.Pairwise (SharesScope texts database) →
      answers texts average database cacheTime (fun _ => none) requests =
        requests.map (queryRoomsData texts average database)) ∧
    ((∀ rooms, answers texts average { database with rooms := rooms } cacheTime (fun _ => none)
          requests =
        requests.map (queryRoomsData texts average { database with rooms := rooms })) ↔
      requests.Pairwise (AdmitsAlike texts database)) := by
  constructor
  · intro shares
    apply (within.answers_eq_iff texts average database).mpr
    exact shares.imp fun scopes => AdmitsAlike.agree texts average database scopes.admitsAlike
  · simp only [within.answers_eq_iff]
    constructor
    · intro agree
      apply List.pairwise_iff_getElem.mpr
      intro first second inFirst inSecond before
      apply admitsAlike_of_agree texts average database averagesRows
      intro rooms
      exact List.pairwise_iff_getElem.mp (agree rooms) first second inFirst inSecond before
    · intro admits rooms
      exact admits.imp fun alike =>
        AdmitsAlike.agree texts average { database with rooms := rooms } alike

end Service

/-! ## Figures of another requester -/

def firstDay : Texts Unit where
  midnight _ _ := ⟨0, "1970-01-01 00:00:00+00:00", "DateTime(1970, 1, 1, tzinfo=UTC)"⟩
  pendulumParse _ _ := none
  uuid := String.toNat?

def truncatedAverage (values : List Int) : Option Int :=
  if values = [] then none else some (values.sum.tdiv values.length)

def oneSector : Database where
  rooms := (∅ : Table Uuid Room).insert 3
    ⟨some ⟨1, false⟩, some "agent@example.com", 50, [], some { waitingTime := 60 }⟩
  sectors := (∅ : Table Uuid Sector).insert 1 ⟨7, false⟩
  authorizations := []

def admin : ProjectPermission := ⟨10, 7, .admin⟩

/-- A representative, who manages no sector. -/
def attendant : ProjectPermission := ⟨11, 7, .attendant⟩

def requestOf (permission : ProjectPermission) (readAt queriedAt : Instant) : Request Unit :=
  ⟨⟨none, none, none, none, none, permission, ⟨7, "Support", ()⟩⟩, readAt, queriedAt⟩

theorem truncatedAverage_eq_none_iff (values : List Int) :
    truncatedAverage values = none ↔ values = [] := by
  simp [truncatedAverage]

theorem answers_uncached_of_one_requester :
    answers firstDay truncatedAverage oneSector 3600000000 (fun _ => none)
        [requestOf admin 100 110, requestOf admin 200 210] =
      [some [⟨some 0, some 0, some 60⟩], some [⟨some 0, some 0, some 60⟩]] := by
  have within : WithinCacheTime 3600000000 100
      [requestOf admin 100 110, requestOf admin 200 210] := by
    simp [WithinCacheTime, requestOf]
  have shares : [requestOf admin 100 110, requestOf admin 200 210].Pairwise
      (SharesScope firstDay oneSector) := by
    simp only [List.pairwise_cons, List.mem_singleton, forall_eq, List.not_mem_nil,
      false_implies, implies_true, List.Pairwise.nil, and_true]
    exact fun _ => ⟨rfl, rfl⟩
  apply ((answers_uncached firstDay truncatedAverage oneSector 3600000000 100 _ within
    truncatedAverage_eq_none_iff).1 shares).trans
  decide

theorem cached_figures_of_another_requester :
    ¬∀ requests, WithinCacheTime 3600000000 100 requests →
      answers firstDay truncatedAverage oneSector 3600000000 (fun _ => none) requests =
        requests.map (queryRoomsData firstDay truncatedAverage oneSector) := by
  intro uncached
  have within : WithinCacheTime 3600000000 100
      [requestOf admin 100 110, requestOf attendant 200 210] := by
    simp [WithinCacheTime, requestOf]
  have answered := uncached _ within
  rw [answers_eq_serveAll] at answered
  have agree := (ReadThrough.serveAll_eq_iff 100 _ within.unexpired).mp answered
  have cached := (List.pairwise_cons.mp agree).1 (requestOf attendant 200 210)
    List.mem_cons_self rfl [⟨some 0, some 0, some 60⟩]
  have other : queryRoomsData firstDay truncatedAverage oneSector
      (requestOf attendant 200 210) = some [⟨none, none, none⟩] := by
    decide
  have wrong := other.symm.trans (cached (by decide))
  simp at wrong

end ChatsEngine.Dashboard.RoomsData
