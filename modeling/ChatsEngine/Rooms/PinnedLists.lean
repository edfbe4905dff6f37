import ChatsEngine.Core.Types
import ChatsEngine.Foundation.Listings
import ChatsEngine.Foundation.OffsetPages
import Mathlib.Order.WithBot

/-! # The list of rooms with its pins

Two ways to list the rooms of a project, pinned rooms first: in one query that is ordered by
annotations, and with the pinned rooms split off and the others in pages. Rooms that tie are
listed in any order. -/

namespace ChatsEngine.Rooms

open Keyset

/-! ## Tables -/

structure ListRoom where
  pk : Uuid
  user : Option UserEmail
  queue : Uuid
  /-- The project of the sector of the queue. -/
  project : Uuid
  /-- The column `project_uuid`. -/
  projectUuid : Option Uuid
  isActive : Bool
deriving DecidableEq, Repr

structure ListPin where
  uuid : Uuid
  room : Uuid
  user : UserEmail
  project : Uuid
  createdOn : Instant
deriving DecidableEq, Repr

structure ListPermission where
  isAdmin : Bool
  queueIds : List Uuid
deriving DecidableEq, Repr

/-- The tables with what their keys and constraints guarantee. -/
structure RoomListTables where
  /-- In the order in which the database lists them when none is asked for. -/
  rooms : List ListRoom
  users : List UserEmail
  permissions : UserEmail → Uuid → Option ListPermission
  pins : List ListPin
  roomsDistinct : (rooms.map ListRoom.pk).Nodup
  pinUsers : ∀ pin ∈ pins, pin.user ∈ users
  pinsDistinct : (pins.map ListPin.uuid).Nodup
  /-- `unique_room_user_room_pin` -/
  pinsUnique : (pins.map fun pin => (pin.room, pin.user)).Nodup

/-- `str.lower` and `str.strip` -/
structure EmailText where
  lower : String → String
  strip : String → String

/-- The parameters of a list request, and who sends it. The order is by any columns. -/
structure ListRequest (Order : Type) where
  user : UserEmail
  project : Uuid
  /-- The parameter `email`, unless it is empty. -/
  email : Option String
  /-- The parameters of the filter are well formed. -/
  isValid : Bool
  /-- The filters besides the one of the project, and the search. -/
  matching : ListRoom → Bool
  ordering : ListRoom → Order
  limit : Nat
  includePinned : Bool
  limit_positive : 0 < limit

namespace RoomListTables

variable {Order : Type} [LinearOrder Order] (text : EmailText) (tables : RoomListTables)
  (request : ListRequest Order)

/-! ## Filters -/

/-- `get_queryset` -/
def queryset : List ListRoom :=
  tables.rooms.filter fun room => (tables.permissions request.user room.project).isSome

/-- `get_user_id_by_email_cached(email) is not None` -/
def Knows (email : String) : Prop :=
  text.lower (text.strip email) ∈ tables.users

instance (email : String) : Decidable (tables.Knows text email) :=
  inferInstanceAs (Decidable (_ ∈ _))

/-- The condition of `filter_project` for an email and its permission. -/
def passesPermission (email : UserEmail) (permission : ListPermission) (room : ListRoom) : Bool :=
  if permission.isAdmin then
    (room.user = some email ∨ room.user = none) ∧ room.isActive ∧ room.queue ∈ permission.queueIds
  else
    (room.user = some email ∧ room.projectUuid = some request.project ∨
      room.user = none ∧ room.queue ∈ permission.queueIds) ∧ room.isActive

/-- `filter_project`, which raises for a user without a permission in the project. -/
def filterProject : Option (ListRoom → Bool) :=
  match tables.permissions request.user request.project with
  | none => some fun _ => false
  | some own =>
      match request.email with
      | none => some (passesPermission request (text.lower request.user) own)
      | some email =>
          if tables.Knows text (text.lower email) then
            (tables.permissions (text.lower email) request.project).map
              (passesPermission request (text.lower email))
          else some fun _ => false

/-- The filters of a request, none if they raise. -/
def filters : Option (ListRoom → Bool) :=
  if request.isValid then
    (tables.filterProject text request).map fun passes room => passes room ∧ request.matching room
  else none

/-- `filter_queryset`, without its order. -/
def filterQueryset : Option (List ListRoom) :=
  (tables.filters text request).map fun passes => (tables.queryset request).filter passes

/-- All rooms that the client is given, page after page, each of which is a query of its own. -/
def allPages (listing : Nat → List ListRoom) : List ListRoom :=
  (OffsetPages.pages request.limit listing).flatten

/-! ## The legacy order -/

/-- `RoomPin.objects.filter` for the email of the request, or for who sends it. -/
def legacyPins : List ListPin :=
  tables.pins.filter fun pin =>
    pin.project = request.project ∧ pin.user = request.email.getD request.user

/-- The annotation `is_pinned` -/
def isPinned (room : ListRoom) : Bool :=
  room.pk ∈ (tables.legacyPins request).map ListPin.room

/-- The annotation `pin_created_on`, which is about the pins of who sends the request. -/
def pinCreatedOn (room : ListRoom) : Option Instant :=
  ((tables.pins.filter fun pin => pin.user = request.user ∧ pin.room = room.pk ∧
    pin.project = request.project).map ListPin.createdOn).max?

/-- Descending, with `NULL` first. -/
def descending : Option Instant → WithBot Instantᵒᵈ
  | none => ⊥
  | some time => ↑(OrderDual.toDual time)

/-- `"-pin_created_on", *secondary_sort` -/
def dateKey (room : ListRoom) : WithBot Instantᵒᵈ ×ₗ Order :=
  toLex (descending (tables.pinCreatedOn request room), request.ordering room)

/-- `"-is_pinned", "-pin_created_on", *secondary_sort` -/
def legacyKey (room : ListRoom) : Bool ×ₗ (WithBot Instantᵒᵈ ×ₗ Order) :=
  toLex (!tables.isPinned request room, tables.dateKey request room)

def legacyQuery : Option (OrderedQuery ListRoom (Bool ×ₗ (WithBot Instantᵒᵈ ×ₗ Order))) :=
  (tables.filterQueryset text request).map fun filtered =>
    { rows := (tables.queryset request).filter fun room =>
        room.pk ∈ filtered.map ListRoom.pk ∨ tables.isPinned request room
      key := tables.legacyKey request }

/-- `_list_with_legacy_pin_order`, for what the query lists for each page. -/
def listWithLegacyPinOrder (listing : Nat → List ListRoom) : Option (List ListRoom) :=
  (tables.legacyQuery text request).map fun _ => allPages request listing

def LegacyListing (listing : Nat → List ListRoom) : Prop :=
  ∀ query ∈ tables.legacyQuery text request, ∀ offset, query.Lists (listing offset)

/-! ## The optimized order -/

/-- What `response.data` holds, with all pages for the results. -/
structure ListResponse where
  pinnedRooms : List ListRoom
  results : List ListRoom
deriving DecidableEq, Repr

def pinUser : Option UserEmail :=
  match request.email with
  | none => some request.user
  | some email => if email ∈ tables.users then some email else none

/-- `order_by("-created_on")` -/
def pinsQuery (user : UserEmail) : OrderedQuery ListPin Instantᵒᵈ where
  rows := tables.pins.filter fun pin => pin.user = user ∧ pin.project = request.project ∧
    ∃ room ∈ tables.rooms, room.pk = pin.room ∧ room.isActive = true
  key pin := OrderDual.toDual pin.createdOn

/-- `filtered_qs.exclude(pk__in=pinned_ids)` -/
def mainQuery (pinnedIds : List Uuid) : Option (OrderedQuery ListRoom Order) :=
  (tables.filterQueryset text request).map fun filtered =>
    { rows := filtered.filter fun room => room.pk ∉ pinnedIds
      key := request.ordering }

/-- `_list_with_optimized_pin_order`, for what the queries list: the pins, and the rooms for
each page. -/
def listWithOptimizedPinOrder (pins : List ListPin) (listing : Nat → List ListRoom) :
    Option ListResponse :=
  match tables.pinUser request with
  | none => some { pinnedRooms := [], results := allPages request listing }
  | some _ =>
      let pinnedIds := pins.map ListPin.room
      (tables.mainQuery text request pinnedIds).map fun _ =>
        if pinnedIds = [] then { pinnedRooms := [], results := allPages request listing }
        else
          { pinnedRooms :=
              if request.includePinned then
                orderBy (fun room => pinnedIds.idxOf room.pk)
                  ((tables.queryset request).filter fun room => room.pk ∈ pinnedIds)
              else []
            results := allPages request listing }

/-- For a user that is not known, the queryset is listed in no order. -/
def OptimizedListing (pins : List ListPin) (listing : Nat → List ListRoom) : Prop :=
  match tables.pinUser request with
  | none => ∀ offset, (OrderedQuery.unordered (tables.queryset request)).Lists (listing offset)
  | some user =>
      (tables.pinsQuery request user).Lists pins ∧
        ∀ query ∈ tables.mainQuery text request (pins.map ListPin.room),
          ∀ offset, query.Lists (listing offset)

/-- What a client obtains: the pinned rooms, which are asked for once, and the pages. -/
def optimizedList (pins : List ListPin) (listing : Nat → List ListRoom) :
    Option (List ListRoom) :=
  (tables.listWithOptimizedPinOrder text { request with includePinned := true } pins listing).map
    fun response => response.pinnedRooms ++ response.results

end RoomListTables

end ChatsEngine.Rooms
