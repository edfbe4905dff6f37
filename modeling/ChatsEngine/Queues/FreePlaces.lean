import ChatsEngine.Foundation.Alone
import ChatsEngine.Queues.Capacity
import ChatsEngine.Queues.FirstInFirstOut
import Mathlib.Algebra.BigOperators.Group.Finset.Basic

/-! # Free places

A run of `route_rooms` that nobody disturbs gives the rooms of its queue to agents
until there are no more rooms, or no more places. -/

namespace ChatsEngine.Queues

open ChatsEngine.Projects ChatsEngine.Rooms

namespace Database

section Definitions

variable (settings : RouterSettings) (database : Database) (queue : QueueInstance)

def freePlaces (agent : UserEmail) : Nat :=
  database.effectiveLimit settings agent queue - database.activeRoomsCount agent queue.sector

def freeCapacity : Nat :=
  ∑ agent ∈ (database.onlineAgents settings queue).toFinset,
    database.freePlaces settings queue agent

def AboveLimit (agent : UserEmail) : Prop :=
  database.effectiveLimit settings agent queue < database.activeRoomsCount agent queue.sector

def userOf (pk : Uuid) : Option UserEmail :=
  (database.rooms.lookup pk).bind fun columns => columns .user

def listedRooms (uuid : Uuid) : List ListedRoom :=
  (database.roomsToRoute uuid).map fun room => { pk := room.1, dateField := entryDate room.2 }

def assignedRooms (before after : Database) : Finset Uuid :=
  before.rooms.keys.toFinset.filter fun pk =>
    before.userOf pk = none ∧ (after.userOf pk).isSome

/-- What a run has done by its end: it has assigned so many rooms, and taken nobody above the
limit. -/
structure Assigns (count : Nat) (after : Database) : Prop where
  card : (assignedRooms database after).card = count
  aboveLimit : ∀ agent, after.AboveLimit settings queue agent →
    database.AboveLimit settings queue agent

/-- The same agents are online, with the same limits. -/
structure SameAgents (before after : Database) : Prop where
  sectorOf : after.sectorOf = before.sectorOf
  roomsLimit : after.roomsLimit = before.roomsLimit
  groupSectors : after.groupSectors = before.groupSectors
  permissions : after.permissions = before.permissions
  authorizations : after.authorizations = before.authorizations
  customStatuses : after.customStatuses = before.customStatuses
  isOnline : ∀ permission agent,
    after.IsOnline settings permission agent ↔ before.IsOnline settings permission agent

structure Elapses (before after : Database) : Prop extends SameAgents settings before after where
  rooms : after.rooms = before.rooms

end Definitions

variable {settings : RouterSettings} {start before database after : Database}
  {queue : QueueInstance} {agent other : UserEmail}

/-! ## What does not change -/

namespace SameAgents

theorem refl (settings : RouterSettings) (database : Database) :
    SameAgents settings database database :=
  ⟨rfl, rfl, rfl, rfl, rfl, rfl, fun _ _ => Iff.rfl⟩

theorem trans (first : SameAgents settings before database)
    (second : SameAgents settings database after) : SameAgents settings before after where
  sectorOf := second.sectorOf.trans first.sectorOf
  roomsLimit := second.roomsLimit.trans first.roomsLimit
  groupSectors := second.groupSectors.trans first.groupSectors
  permissions := second.permissions.trans first.permissions
  authorizations := second.authorizations.trans first.authorizations
  customStatuses := second.customStatuses.trans first.customStatuses
  isOnline := fun permission agent =>
    (second.isOnline permission agent).trans (first.isOnline permission agent)

variable (same : SameAgents settings before after)

include same

theorem onlineAgents (queue : QueueInstance) :
    after.onlineAgents settings queue = before.onlineAgents settings queue := by
  rw [Database.onlineAgents, Database.onlineAgents, same.permissions]
  congr 1
  apply List.filter_congr
  intro permission _
  rw [decide_eq_decide, same.isOnline, OnCustomStatus, OnCustomStatus, same.authorizations,
    same.customStatuses]

theorem customLimit (agent : UserEmail) :
    after.customLimit settings agent = before.customLimit settings agent := by
  simp only [Database.customLimit, same.permissions]

theorem limit (queue : QueueInstance) : after.limit queue = before.limit queue := by
  simp only [Database.limit, same.groupSectors]

theorem inSector (sector : Uuid) (columns : RoomRecord) :
    after.InSector sector columns ↔ before.InSector sector columns := by
  rw [InSector, InSector, same.sectorOf]

theorem effectiveLimit (agent : UserEmail) (queue : QueueInstance) :
    after.effectiveLimit settings agent queue = before.effectiveLimit settings agent queue := by
  rw [Database.effectiveLimit, Database.effectiveLimit, same.customLimit, same.limit,
    same.roomsLimit]

end SameAgents

namespace Elapses

variable (elapses : Elapses settings before after)

include elapses

theorem activeRoomsCount (agent : UserEmail) (sector : Uuid) :
    after.activeRoomsCount agent sector = before.activeRoomsCount agent sector := by
  rw [Database.activeRoomsCount, Database.activeRoomsCount, elapses.rooms]
  apply Table.count_congr
  intro columns
  rw [Holds, Holds, elapses.inSector]

theorem aboveLimit_iff (queue : QueueInstance) (agent : UserEmail) :
    after.AboveLimit settings queue agent ↔ before.AboveLimit settings queue agent := by
  rw [AboveLimit, AboveLimit, elapses.effectiveLimit, elapses.activeRoomsCount]

theorem freeCapacity (queue : QueueInstance) :
    after.freeCapacity settings queue = before.freeCapacity settings queue := by
  simp only [Database.freeCapacity, freePlaces, elapses.onlineAgents, elapses.effectiveLimit,
    elapses.activeRoomsCount]

theorem userOf (pk : Uuid) : after.userOf pk = before.userOf pk := by
  rw [Database.userOf, Database.userOf, elapses.rooms]

theorem assignedRooms (start : Database) :
    Database.assignedRooms start after = Database.assignedRooms start before := by
  simp only [Database.assignedRooms, elapses.userOf]

theorem roomsToRoute (queue : Uuid) : after.roomsToRoute queue = before.roomsToRoute queue := by
  rw [Database.roomsToRoute, Database.roomsToRoute, elapses.rooms]

end Elapses

/-! ## The available agents -/

structure Loaded (database : Database) (queue : QueueInstance) : Prop where
  sector : database.sectorOf queue.uuid = some queue.sector
  roomsLimit : queue.sectorRoomsLimit = database.roomsLimit queue.sector

theorem loaded_of_loadQueue {uuid : Uuid} (loads : database.loadQueue uuid = some queue) :
    database.Loaded queue := by
  rcases Option.map_eq_some_iff.mp loads with ⟨sector, isSector, rfl⟩
  exact ⟨isSector, rfl⟩

theorem Loaded.of_sameAgents (loaded : before.Loaded queue)
    (same : SameAgents settings before after) : after.Loaded queue where
  sector := by rw [same.sectorOf, loaded.sector]
  roomsLimit := by rw [same.roomsLimit, loaded.roomsLimit]

theorem Loaded.effectiveLimit_eq (loaded : database.Loaded queue) :
    (database.customLimit settings agent).getD (database.limit queue) =
      database.effectiveLimit settings agent queue := by
  rw [effectiveLimit, ← loaded.roomsLimit]

theorem mem_availableAgents_iff (loaded : database.Loaded queue) :
    agent ∈ database.availableAgents settings queue (database.limit queue) ↔
      agent ∈ database.onlineAgents settings queue ∧
        database.activeRoomsCount agent queue.sector <
          database.effectiveLimit settings agent queue := by
  rw [availableAgents, List.mem_filter, decide_eq_true_eq, loaded.effectiveLimit_eq]

theorem freeCapacity_eq_zero_iff (loaded : database.Loaded queue) :
    database.freeCapacity settings queue = 0 ↔
      database.availableAgents settings queue (database.limit queue) = [] := by
  rw [freeCapacity, Finset.sum_eq_zero_iff, List.eq_nil_iff_forall_not_mem]
  apply forall_congr'
  intro agent
  rw [mem_availableAgents_iff loaded, List.mem_toFinset, freePlaces, Nat.sub_eq_zero_iff_le,
    not_and, not_lt]

/-! ## One assignment -/

structure Gives (settings : RouterSettings) (queue : QueueInstance) (before after : Database)
    (pk : Uuid) (agent : UserEmail) : Prop extends SameAgents settings before after where
  unassigned : before.userOf pk = none
  rooms : ∃ columns, after.rooms = before.rooms.insert pk columns ∧
    columns .user = some agent ∧ columns .isActive = true ∧ columns .queue = some queue.uuid

namespace Gives

variable {pk room : Uuid} (gives : Gives settings queue before after pk agent)

include gives

theorem userOf_self : after.userOf pk = some agent := by
  rcases gives.rooms with ⟨columns, rooms, assigned, _⟩
  rw [userOf, rooms, AList.lookup_insert]
  exact assigned

theorem userOf_other (different : room ≠ pk) : after.userOf room = before.userOf room := by
  rcases gives.rooms with ⟨columns, rooms, _⟩
  rw [userOf, rooms, AList.lookup_insert_ne different, userOf]

theorem activeRoomsCount (loaded : before.Loaded queue) (other : UserEmail) :
    after.activeRoomsCount other queue.sector =
      before.activeRoomsCount other queue.sector + if other = agent then 1 else 0 := by
  rcases gives.rooms with ⟨columns, rooms, assigned, isActive, isQueue⟩
  have counted := Table.count_insert before.rooms (before.Holds other queue.sector) pk columns
  have notBefore : ¬∃ old ∈ before.rooms.lookup pk, before.Holds other queue.sector old := by
    intro given
    rcases given with ⟨old, stored, holds⟩
    have unassigned := gives.unassigned
    rw [userOf, Option.mem_def.mp stored, Option.bind_some, holds.1] at unassigned
    cases unassigned
  have holds : before.Holds other queue.sector columns ↔ other = agent := by
    constructor
    · intro holds
      exact Option.some.inj (holds.1.symm.trans assigned)
    · intro same
      subst same
      exact ⟨assigned, isActive, queue.uuid, isQueue, loaded.sector⟩
  rw [if_neg notBefore] at counted
  simp only [holds] at counted
  rw [Database.activeRoomsCount, rooms, Database.activeRoomsCount, ← counted]
  apply Table.count_congr
  intro row
  rw [Holds, Holds, gives.inSector]

theorem freeCapacity (loaded : before.Loaded queue)
    (available : agent ∈ before.availableAgents settings queue (before.limit queue)) :
    before.freeCapacity settings queue = after.freeCapacity settings queue + 1 := by
  rcases (mem_availableAgents_iff loaded).mp available with ⟨online, free⟩
  have counts := gives.activeRoomsCount loaded
  have listed := List.mem_toFinset.mpr online
  have own : before.freePlaces settings queue agent =
      after.freePlaces settings queue agent + 1 := by
    have count := counts agent
    rw [if_pos rfl] at count
    rw [freePlaces, freePlaces, gives.effectiveLimit, count]
    omega
  have others : ∀ other ∈ (before.onlineAgents settings queue).toFinset.erase agent,
      before.freePlaces settings queue other = after.freePlaces settings queue other := by
    intro other member
    have count := counts other
    rw [if_neg (Finset.ne_of_mem_erase member)] at count
    rw [freePlaces, freePlaces, gives.effectiveLimit, count, Nat.add_zero]
  calc
    before.freeCapacity settings queue =
        before.freePlaces settings queue agent +
          ∑ other ∈ (before.onlineAgents settings queue).toFinset.erase agent,
            before.freePlaces settings queue other := (Finset.add_sum_erase _ _ listed).symm
    _ = after.freePlaces settings queue agent + 1 +
          ∑ other ∈ (before.onlineAgents settings queue).toFinset.erase agent,
            after.freePlaces settings queue other := by
      rw [own, Finset.sum_congr rfl others]
    _ = after.freeCapacity settings queue + 1 := by
      rw [Database.freeCapacity, gives.onlineAgents, ← Finset.add_sum_erase _ _ listed]
      omega

theorem aboveLimit (loaded : before.Loaded queue)
    (available : agent ∈ before.availableAgents settings queue (before.limit queue))
    (above : after.AboveLimit settings queue other) : before.AboveLimit settings queue other := by
  have free := ((mem_availableAgents_iff loaded).mp available).2
  rw [AboveLimit, gives.effectiveLimit, gives.activeRoomsCount loaded] at above
  rw [AboveLimit]
  split at above
  · next isAgent =>
      subst isAgent
      omega
  · exact above

theorem assignedRooms (stored : pk ∈ start.rooms.keys) (wasUnassigned : start.userOf pk = none) :
    (Database.assignedRooms start after).card = (Database.assignedRooms start before).card + 1 := by
  have inserted : Database.assignedRooms start after =
      insert pk (Database.assignedRooms start before) := by
    ext room
    rw [Finset.mem_insert, Database.assignedRooms, Database.assignedRooms, Finset.mem_filter,
      Finset.mem_filter, List.mem_toFinset]
    by_cases isRoom : room = pk
    · subst isRoom
      simp [stored, wasUnassigned, gives.userOf_self]
    · simp [isRoom, gives.userOf_other isRoom]
  rw [inserted, Finset.card_insert_of_notMem]
  rw [Database.assignedRooms, Finset.mem_filter, gives.unassigned]
  simp

end Gives

end Database

end ChatsEngine.Queues
