import ChatsEngine.Dashboard.ReportRooms

/-! # Rooms that are listed once

How many rows the query of a report has for a room, and what of it is left when the rows
are written in parts. -/

namespace ChatsEngine.Dashboard

namespace RoomsQuery

variable (query : RoomsQuery) (relations : TagRelations)

def joinedTags (room : ReportRoom) : List (Option Uuid) :=
  if query.tags ≠ [] then (room.tags.filter fun tag => tag ∈ query.tags).map some
  else if query.ListsTags ∨ query.tagPaths ≠ [] then
    match room.tags with
    | [] => [none]
    | tags => tags.map some
  else [none]

def tagLines (room : ReportRoom) : List TagLine :=
  (query.joinedTags room).flatMap (relations.linesOf query.tagPaths)

def rowCount (room : ReportRoom) : Nat :=
  if query.ListsTags then (query.tagLines relations room).dedup.length
  else (query.tagLines relations room).length

/-- The tags do not multiply the room: either no field is a path from the tags, and the tags
are listed in one cell, or not filtered, or one of the room's is asked for; or the tags that
it is joined with have one line, which counts once if they are listed in one cell. -/
def TagsOnce (room : ReportRoom) : Prop :=
  if query.tagPaths = [] then
    query.ListsTags ∨ query.tags = [] ∨
      (room.tags.filter fun tag => tag ∈ query.tags).length = 1
  else if query.ListsTags then (query.tagLines relations room).dedup.length = 1
  else (query.tagLines relations room).length = 1

/-! ## Rows by room -/

theorem joinTags_eq (rooms : List ReportEntry) :
    query.joinTags rooms =
      rooms.flatMap fun room => (query.joinedTags room.2).map fun tag => (room, tag) := by
  rw [joinTags]
  split
  · next filtered =>
      rw [Query.innerJoin, List.filter_flatMap, List.map_flatMap]
      apply List.flatMap_congr
      intro room _
      rw [joinedTags, if_pos filtered, List.filter_map, List.map_map, List.map_map]
      rfl
  · next unfiltered =>
      split
      · next read =>
          rw [Query.leftJoin]
          apply List.flatMap_congr
          intro room _
          rw [joinedTags, if_neg unfiltered, if_pos read]
          cases room.2.tags <;> simp
      · next unread =>
          rw [List.map_eq_flatMap]
          apply List.flatMap_congr
          intro room _
          rw [joinedTags, if_neg unfiltered, if_neg unread]
          rfl

def linesOfRoom (room : ReportEntry) : List ((ReportEntry × TagLine) × Option Uuid) :=
  (query.joinedTags room.2).flatMap fun tag =>
    (relations.linesOf query.tagPaths tag).map fun line => ((room, line), tag)

theorem joinedLines_eq (rooms : List ReportEntry) :
    query.joinedLines relations rooms = rooms.flatMap (query.linesOfRoom relations) := by
  rw [joinedLines, joinTags_eq, List.flatMap_assoc]
  apply List.flatMap_congr
  intro room _
  rw [linesOfRoom, List.flatMap_map]

theorem map_fst_linesOfRoom (room : ReportEntry) :
    (query.linesOfRoom relations room).map Prod.fst =
      (query.tagLines relations room.2).map fun line => (room, line) := by
  rw [linesOfRoom, tagLines, List.map_flatMap, List.map_flatMap]
  apply List.flatMap_congr
  intro tag _
  rw [List.map_map]
  rfl

theorem filter_joinedLines {rooms : List ReportEntry} (distinct : rooms.Nodup)
    (room : ReportEntry) :
    ((query.joinedLines relations rooms).filter fun line => line.1.1 = room) =
      if room ∈ rooms then query.linesOfRoom relations room else [] := by
  rw [joinedLines_eq]
  apply Query.filter_flatMap_of_owner distinct
  intro own line member
  rcases List.mem_flatMap.mp member with ⟨tag, _, member⟩
  rcases List.mem_map.mp member with ⟨tagLine, _, rfl⟩
  rfl

theorem countP_rows (project : Uuid) (rooms : Table Uuid ReportRoom) (room : ReportEntry) :
    ((query.rows relations project rooms).countP fun row => row.room = room) =
      if room ∈ rooms.entries ∧ query.Selects project room then
        query.rowCount relations room.2
      else 0 := by
  have distinct : (rooms.entries.filter fun room => query.Selects project room).Nodup :=
    rooms.nodupKeys.nodup.filter _
  have lines := query.filter_joinedLines relations distinct room
  simp only [List.mem_filter, decide_eq_true_eq] at lines
  rw [rows, rowCount]
  split
  · next listed =>
      rw [List.countP_map, List.countP_eq_length_filter]
      dsimp only [Function.comp_def]
      rw [Query.length_filter_dedup, List.filter_map]
      dsimp only [Function.comp_def]
      rw [lines]
      split
      · rw [map_fst_linesOfRoom, List.dedup_map_of_injective fun _ _ => by simp, List.length_map]
      · rfl
  · next unlisted =>
      rw [List.countP_map, List.countP_eq_length_filter]
      dsimp only [Function.comp_def]
      rw [lines]
      split
      · rw [← List.length_map Prod.fst, map_fst_linesOfRoom, List.length_map]
      · rfl

/-! ## How many rows -/

theorem joinedTags_eq_nil {room : ReportRoom}
    (unmatched : ¬(query.tags = [] ∨ ∃ tag ∈ room.tags, tag ∈ query.tags)) :
    query.joinedTags room = [] := by
  rw [not_or] at unmatched
  rw [joinedTags, if_pos unmatched.1, List.map_eq_nil_iff, List.filter_eq_nil_iff]
  intro tag member asked
  exact unmatched.2 ⟨tag, member, of_decide_eq_true asked⟩

theorem rowCount_eq_zero {room : ReportRoom}
    (unmatched : ¬(query.tags = [] ∨ ∃ tag ∈ room.tags, tag ∈ query.tags)) :
    query.rowCount relations room = 0 := by
  rw [rowCount, tagLines, query.joinedTags_eq_nil unmatched]
  simp

theorem joinedTags_ne_nil {room : ReportRoom}
    (matched : query.tags = [] ∨ ∃ tag ∈ room.tags, tag ∈ query.tags) :
    query.joinedTags room ≠ [] := by
  rw [joinedTags]
  split
  · next filtered =>
      rcases matched.resolve_left filtered with ⟨tag, member, asked⟩
      intro empty
      rw [List.map_eq_nil_iff, List.filter_eq_nil_iff] at empty
      exact empty tag member (decide_eq_true asked)
  · split
    · cases room.tags <;> simp
    · simp

theorem tagLines_eq_replicate {room : ReportRoom} (noPaths : query.tagPaths = []) :
    query.tagLines relations room = List.replicate (query.joinedTags room).length [] := by
  have lines : ∀ tag, relations.linesOf query.tagPaths tag = [[]] := by
    intro tag
    rw [noPaths]
    cases tag <;> rfl
  rw [tagLines, List.flatMap_congr fun tag _ => lines tag]
  simp [List.flatMap_def]

theorem rowCount_eq_one_iff {room : ReportRoom}
    (matched : query.tags = [] ∨ ∃ tag ∈ room.tags, tag ∈ query.tags) :
    query.rowCount relations room = 1 ↔ query.TagsOnce relations room := by
  rw [rowCount, TagsOnce]
  by_cases noPaths : query.tagPaths = []
  · rw [if_pos noPaths, query.tagLines_eq_replicate relations noPaths]
    have some_tag : (query.joinedTags room).length ≠ 0 := by
      simpa using query.joinedTags_ne_nil matched
    by_cases listed : query.ListsTags
    · simp [listed, List.replicate_dedup some_tag]
    · rw [if_neg listed, List.length_replicate, or_iff_right listed, joinedTags]
      by_cases filtered : query.tags = []
      · simp [filtered, listed, noPaths]
      · simp [filtered]
  · rw [if_neg noPaths]
    split <;> rfl

theorem room_mem_entries {project : Uuid} {rooms : Table Uuid ReportRoom} {row : ReportRow}
    (member : row ∈ query.rows relations project rooms) : row.room ∈ rooms.entries := by
  have counted : 0 < (query.rows relations project rooms).countP fun other =>
      other.room = row.room :=
    List.countP_pos_iff.mpr ⟨row, member, decide_eq_true rfl⟩
  rw [countP_rows] at counted
  by_contra absent
  rw [if_neg (fun both => absent both.1)] at counted
  exact Nat.lt_irrefl 0 counted

end RoomsQuery

/-! ## The table -/

variable {query : RoomsQuery} {relations : TagRelations} {project : Uuid}
  {rooms : Table Uuid ReportRoom} {ordered others : List ReportRow}

/-- The order of the rooms is the same, however rows of one room are ordered. -/
theorem map_room_eq (first : OrderedByPk (query.rows relations project rooms) ordered)
    (second : OrderedByPk (query.rows relations project rooms) others) :
    ordered.map ReportRow.room = others.map ReportRow.room := by
  have perm := (first.1.trans second.1.symm).map ReportRow.room
  have sorted : ∀ {rows : List ReportRow},
      (rows.map fun row => row.room.1).Pairwise (· ≤ ·) →
        (rows.map ReportRow.room).Pairwise fun room other => room.1 ≤ other.1 := by
    intro rows pairwise
    rw [List.pairwise_map] at pairwise ⊢
    exact pairwise
  apply List.Perm.eq_of_pairwise _ (sorted first.2) (sorted second.2) perm
  intro room other member otherMember order orderBack
  rcases List.mem_map.mp member with ⟨row, isRow, rfl⟩
  rcases List.mem_map.mp otherMember with ⟨otherRow, isOtherRow, rfl⟩
  have stored := query.room_mem_entries relations (first.1.mem_iff.mp isRow)
  have otherStored := query.room_mem_entries relations (second.1.mem_iff.mp isOtherRow)
  have same : row.room.1 = otherRow.room.1 := Nat.le_antisymm order orderBack
  rw [Table.mem_entries_iff] at stored otherStored
  rw [same, otherStored] at stored
  exact (Sigma.ext same.symm (heq_of_eq (Option.some.inj stored))).symm

theorem countP_roomsTable {slices : Nat → List ReportRow} {chunkSize : Nat}
    (positive : 0 < chunkSize)
    (ordered : ∀ index, OrderedByPk (query.rows relations project rooms) (slices index))
    (room : ReportEntry) :
    ((roomsTable slices (query.rows relations project rooms).length chunkSize).countP fun row =>
        row.room = room) =
      (query.rows relations project rooms).countP fun row => row.room = room := by
  have count : ∀ rows : List ReportRow, (rows.countP fun row => row.room = room) =
      (rows.map ReportRow.room).countP fun own => own = room := by
    intro rows
    rw [List.countP_map]
    rfl
  have table : (roomsTable slices (query.rows relations project rooms).length chunkSize).map
      ReportRow.room = (slices 0).map ReportRow.room := by
    have total : (query.rows relations project rooms).length =
        ((slices 0).map ReportRow.room).length := by
      rw [List.length_map, (ordered 0).1.length_eq]
    rw [roomsTable, List.map_flatMap, total]
    conv => rhs; rw [← flatMap_part ((slices 0).map ReportRow.room) positive]
    apply List.flatMap_congr
    intro index _
    rw [map_part, map_room_eq (ordered index) (ordered 0)]
  rw [count, table, ← count]
  exact (ordered 0).1.countP_eq _

theorem roomsTable_exact_iff {slices : Nat → List ReportRow} {chunkSize : Nat}
    (positive : 0 < chunkSize)
    (ordered : ∀ index, OrderedByPk (query.rows relations project rooms) (slices index)) :
    TableExact query project rooms
        (roomsTable slices (query.rows relations project rooms).length chunkSize) ↔
      ∀ room ∈ rooms.entries, query.Satisfies project room → query.TagsOnce relations room.2 := by
  have counts := fun room => (countP_roomsTable positive ordered room).trans
    (query.countP_rows relations project rooms room)
  constructor
  · intro table room member satisfies
    have one := (counts room).symm.trans (table room)
    rw [if_pos ⟨member, satisfies.1⟩, if_pos ⟨member, satisfies⟩] at one
    exact (query.rowCount_eq_one_iff relations satisfies.2).mp one
  · intro once room
    rw [counts]
    by_cases selected : room ∈ rooms.entries ∧ query.Selects project room
    · rw [if_pos selected]
      by_cases matched : query.tags = [] ∨ ∃ tag ∈ room.2.tags, tag ∈ query.tags
      · rw [if_pos ⟨selected.1, selected.2, matched⟩]
        exact (query.rowCount_eq_one_iff relations matched).mpr
          (once room selected.1 ⟨selected.2, matched⟩)
      · rw [if_neg fun all => matched all.2.2]
        exact query.rowCount_eq_zero relations matched
    · rw [if_neg selected, if_neg fun all => selected ⟨all.1, all.2.1⟩]

theorem nil_exact_iff :
    TableExact query project rooms [] ↔ ∀ room ∈ rooms.entries, ¬query.Satisfies project room := by
  constructor
  · intro table room member satisfies
    have none_listed := table room
    rw [if_pos ⟨member, satisfies⟩] at none_listed
    exact Nat.zero_ne_one none_listed
  · intro unsatisfied room
    rw [if_neg fun both => unsatisfied room both.1 both.2]
    rfl

def tagTexts : ReportTexts where
  uuid text := if text = "4" then some 4 else if text = "5" then some 5 else none
  instant _ := none
  lower := String.toLower

def taggedRooms : RoomsConfig where
  fields := some (.list [["protocol"]])
  startDate := none
  endDate := none
  openChats := false
  closedChats := false
  uuids := none
  sectors := none
  sector := none
  queues := none
  queue := none
  agents := none
  agent := none
  tags := some (.uuids ["4", "5"])
  tag := none

def ownTags : TagRelations where
  name := toString
  lines paths tag := [paths.map fun _ => some (toString tag)]
  lines_ne_nil _ _ := by simp

def roomWithTags (tags : List Uuid) : Table Uuid ReportRoom :=
  (∅ : Table Uuid ReportRoom).insert 1 ⟨some ⟨3, 2, 7, false, false⟩, none, 50, none, true, tags⟩

def taggedQuery : RoomsQuery := ⟨[["protocol"]], [], none, [], [], [], [4, 5]⟩

end ChatsEngine.Dashboard
