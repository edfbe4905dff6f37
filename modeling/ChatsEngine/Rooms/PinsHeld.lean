import ChatsEngine.Rooms.Pins

/-! # Whose rooms are pinned

Every pin is of an active room that is assigned to the user of the pin. An operation that
changes the user of a room has cleared its pins before, because the tracker of its instance
knows the user that is stored for as long as the room has pins. -/

namespace ChatsEngine.Rooms

/-- Every pin is of an active room that is assigned to its user, and no user has more pins in
a project than the limit. -/
structure PinsHeld (limit : Nat) (tables : PinTables) : Prop where
  held : ∀ pin ∈ tables.pins, ∃ row ∈ tables.rooms.lookup pin.room,
    row .isActive = true ∧ row .user = some pin.user
  limited : ∀ user project, (tables.pinsOf user project).length ≤ limit

/-- Without pins of the room there is nothing to clear. With pins, the tracker of the instance
knows the user of the room, and the instance has the activity of the room. -/
def TracksRoom (pk : Uuid) (room : RoomInstance) (tables : PinTables) : Prop :=
  (∀ pin ∈ tables.pins, pin.room ≠ pk) ∨
    ∃ row ∈ tables.rooms.lookup pk, row .user = room.tracked ∧
      row .isActive = room.values .isActive

variable {limit : Nat} {tables : PinTables} {pk : Uuid} {room : RoomInstance}
  {settings : PinSettings}

/-! ## What the statements change -/

theorem PinsHeld.unpinned (rooms : Table Uuid RoomRecord) :
    PinsHeld limit (PinTables.unpinned rooms) where
  held := by simp [PinTables.unpinned]
  limited := by simp [PinTables.unpinned, PinTables.pinsOf]

theorem PinsHeld.deletePins (held : PinsHeld limit tables) (deleted : RoomPin → Bool) :
    PinsHeld limit (tables.deletePins deleted) where
  held := by
    intro pin isPin
    exact held.held pin (List.mem_of_mem_filter isPin)
  limited := by
    intro user project
    have fewer : (tables.deletePins deleted).pins.Sublist tables.pins := List.filter_sublist
    have length := (fewer.filter fun pin => pin.user = user ∧ pin.project = project).length_le
    exact Nat.le_trans length (held.limited user project)

theorem PinsHeld.countP_eq (held : PinsHeld limit tables) (user : UserEmail) (project : Uuid) :
    ((tables.pinsOf user project).countP fun pin => tables.IsActive pin.room) =
      (tables.pinsOf user project).length := by
  rw [List.countP_eq_length]
  intro pin isPin
  rcases held.held pin (List.mem_of_mem_filter isPin) with ⟨row, stored, isActive, _⟩
  exact decide_eq_true ⟨row, stored, isActive⟩

theorem PinsHeld.addPin (held : PinsHeld limit tables) {row : RoomRecord} {user : UserEmail}
    {project : Uuid} (stored : tables.rooms.lookup pk = some row)
    (isActive : row .isActive = true) (isUser : row .user = some user)
    (below : (tables.pinsOf user project).length < limit) :
    PinsHeld limit { tables with pins := ⟨pk, user, project⟩ :: tables.pins } where
  held := by
    intro pin isPin
    rcases List.mem_cons.mp isPin with rfl | old
    · exact ⟨row, stored, isActive, isUser⟩
    · exact held.held pin old
  limited := by
    intro own target
    rw [PinTables.pinsOf, List.filter_cons]
    split
    · next same =>
        rcases of_decide_eq_true same with ⟨rfl, rfl⟩
        exact below
    · exact held.limited own target

theorem PinsHeld.store_of_unpinned (held : PinsHeld limit tables)
    (unpinned : ∀ pin ∈ tables.pins, pin.room ≠ pk)
    (updateFields : Option (List RoomColumn)) :
    PinsHeld limit (tables.store pk room updateFields) where
  held := by
    intro pin isPin
    have spared : (tables.store pk room updateFields).rooms.lookup pin.room =
        tables.rooms.lookup pin.room := AList.lookup_insert_ne (unpinned pin isPin)
    rw [spared]
    exact held.held pin isPin
  limited := held.limited

theorem PinsHeld.store_of_same (held : PinsHeld limit tables) {row : RoomRecord}
    (stored : tables.rooms.lookup pk = some row) (sameUser : room.values .user = row .user)
    (sameActivity : room.values .isActive = row .isActive)
    (updateFields : Option (List RoomColumn)) :
    PinsHeld limit (tables.store pk room updateFields) where
  held := by
    intro pin isPin
    rcases held.held pin isPin with ⟨old, found, isActive, isUser⟩
    by_cases same : pin.room = pk
    · subst same
      rw [stored] at found
      cases found
      refine ⟨row.store room.values updateFields, ?_, ?_, ?_⟩
      · rw [PinTables.store, stored]
        exact AList.lookup_insert _
      · rw [Record.store, sameActivity, ite_self, isActive]
      · rw [Record.store, sameUser, ite_self, isUser]
    · have spared : (tables.store pk room updateFields).rooms.lookup pin.room =
          tables.rooms.lookup pin.room := AList.lookup_insert_ne same
      rw [spared]
      exact ⟨old, found, isActive, isUser⟩
  limited := held.limited

theorem store_keeps (held : PinsHeld limit tables) (tracks : TracksRoom pk room tables)
    (cleared : room.userHasChanged = true → ∀ pin ∈ tables.pins, pin.room ≠ pk)
    {stamped : RoomInstance} (sameUser : stamped.values .user = room.values .user)
    (sameActivity : stamped.values .isActive = room.values .isActive)
    (sameTracker : stamped.tracked = room.tracked) (updateFields : Option (List RoomColumn)) :
    PinsHeld limit (tables.store pk stamped updateFields) ∧
      TracksRoom pk (stamped.afterStore updateFields)
        (tables.store pk stamped updateFields) := by
  have apart : (∀ pin ∈ tables.pins, pin.room ≠ pk) ∨ room.userHasChanged = false ∧
      ∃ row ∈ tables.rooms.lookup pk, row .user = room.tracked ∧
        row .isActive = room.values .isActive := by
    rcases tracks with unpinned | known
    · exact .inl unpinned
    · cases changed : room.userHasChanged with
      | true => exact .inl (cleared changed)
      | false => exact .inr ⟨rfl, known⟩
  rcases apart with unpinned | ⟨same, row, stored, isUser, activity⟩
  · exact ⟨held.store_of_unpinned unpinned updateFields, .inl unpinned⟩
  · have user : room.values .user = room.tracked := by
      simpa [RoomInstance.userHasChanged] using same
    have storedUser : stamped.values .user = row .user := by
      rw [sameUser, user, isUser]
    have storedActivity : stamped.values .isActive = row .isActive := by
      rw [sameActivity, activity]
    refine ⟨held.store_of_same stored storedUser storedActivity updateFields, .inr ?_⟩
    refine ⟨row.store stamped.values updateFields, ?_, ?_, ?_⟩
    · rw [PinTables.store, stored]
      exact AList.lookup_insert _
    · rw [Record.store, storedUser, ite_self, RoomInstance.afterStore, storedUser, sameTracker,
        ← isUser, ite_self]
    · rw [Record.store, storedActivity, ite_self, RoomInstance.afterStore, storedActivity]

/-! ## The operations -/

abbrev PinsHeldAfter (limit : Nat) : PinError → PinTables → Prop := fun _ => PinsHeld limit

theorem clearPins_ensures {raises : PinError → PinTables → Prop} :
    Action.Ensures (PinsHeld limit) (PinAction.clearPins pk)
      (fun _ tables => PinsHeld limit tables ∧ ∀ pin ∈ tables.pins, pin.room ≠ pk) raises := by
  apply Action.Ensures.update
  intro tables held
  refine ⟨held.deletePins _, ?_⟩
  intro pin isPin
  simpa using List.of_mem_filter isPin

theorem save_ensures (call : SaveCall) :
    Action.Ensures (fun tables => PinsHeld limit tables ∧ TracksRoom pk room tables)
      (PinAction.save pk call room)
      (fun next tables => PinsHeld limit tables ∧ TracksRoom pk next tables)
      (PinsHeldAfter limit) := by
  apply Action.Ensures.query_bind
  intro found
  apply Action.Ensures.require_bind
  · exact fun _ _ starts => starts.1.1
  intro _
  apply Action.Ensures.bind fun _ tables => PinsHeld limit tables ∧ TracksRoom pk room tables ∧
    (room.userHasChanged = true → ∀ pin ∈ tables.pins, pin.room ≠ pk)
  · apply Action.Ensures.when
    · intro changed
      apply Action.Ensures.require_bind
      · exact fun _ _ starts => starts.1.1
      intro _
      apply clearPins_ensures.weaken
      · exact fun _ starts => starts.1.1
      · exact fun _ _ cleared => ⟨cleared.1, .inl cleared.2, fun _ => cleared.2⟩
      · exact fun _ _ raised => raised
    · exact fun _ starts same => ⟨starts.1.1, starts.1.2, fun changed => absurd changed same⟩
  intro _
  apply Action.Ensures.require_bind
  · exact fun _ _ starts => starts.1
  intro _
  have spare : ∀ column ∉ RoomInstance.stampedColumns,
      (room.assign (room.saveAssignments call.now call.updateFields)).values column =
        room.values column :=
    fun _ spared => RoomInstance.saveAssignments_spare spared call.now call.updateFields room
  apply Action.Ensures.bind fun _ tables => PinsHeld limit tables ∧ TracksRoom pk
    ((room.assign (room.saveAssignments call.now call.updateFields)).afterStore
      call.updateFields) tables
  · apply Action.Ensures.update
    intro tables given
    rcases given with ⟨held, tracks, cleared⟩
    exact store_keeps held tracks cleared (spare _ (by decide)) (spare _ (by decide)) rfl _
  intro _
  apply Action.Ensures.require_bind
  · exact fun _ _ starts => starts.1
  intro _
  exact Action.Ensures.pure fun _ starts => starts

theorem TracksRoom.assign (tracks : TracksRoom pk room tables) (change : AssignmentChange) :
    TracksRoom pk (room.assign change.assignments) tables := by
  rcases tracks with unpinned | ⟨row, stored, isUser, activity⟩
  · exact .inl unpinned
  · refine .inr ⟨row, stored, isUser, ?_⟩
    rw [activity]
    exact (Record.assign_of_not_mem change.keepsActivity).symm

theorem change_ensures (steps : List (AssignmentChange × SaveCall)) :
    Action.Ensures (fun tables => PinsHeld limit tables ∧ TracksRoom pk room tables)
      (Action.fold (PinAction.changeAndSave pk) room steps)
      (fun next tables => PinsHeld limit tables ∧ TracksRoom pk next tables)
      (PinsHeldAfter limit) := by
  apply Action.Ensures.fold fun _ room tables => PinsHeld limit tables ∧ TracksRoom pk room tables
  intro room step _
  apply (save_ensures step.2).weaken
  · exact fun _ starts => ⟨starts.1, starts.2.assign step.1⟩
  · exact fun _ _ kept => kept
  · exact fun _ _ raised => raised

theorem close_ensures (endedBy : String) (closedBy : Option UserEmail) (now : Instant)
    (saveRaisesAt : Option SavePoint) (raisesAt : Option ClosePoint) :
    Action.Ensures (PinsHeld limit)
      (PinAction.close pk endedBy closedBy now saveRaisesAt raisesAt room)
      (fun _ => PinsHeld limit) (PinsHeldAfter limit) := by
  apply Action.Ensures.bind fun _ => PinsHeld limit
  · apply Action.Ensures.atomic (PinsHeldAfter limit)
    · apply Action.Ensures.require_bind
      · exact fun _ _ starts => starts
      intro _
      apply Action.Ensures.require_bind
      · exact fun _ _ starts => starts
      intro _
      apply Action.Ensures.bind _ clearPins_ensures
      intro _
      apply Action.Ensures.bind _
        ((save_ensures _).weaken (fun _ cleared => ⟨cleared.1, .inl cleared.2⟩)
          (fun _ _ kept => kept) fun _ _ raised => raised)
      intro _
      exact Action.Ensures.pure fun _ kept => kept.1
    · exact fun _ _ _ starts _ => starts
  · intro _
    exact Action.Ensures.require (fun _ starts _ => starts) fun _ starts _ => starts

theorem unpin_ensures (user : UserEmail) :
    Action.Ensures (PinsHeld limit) (PinAction.unpin pk room user) (fun _ => PinsHeld limit)
      (PinsHeldAfter limit) := by
  apply Action.Ensures.require_bind
  · exact fun _ _ starts => starts
  intro _
  exact Action.Ensures.update fun _ held => held.deletePins _

theorem pin_ensures (user : UserEmail) {row : RoomRecord} :
    Action.Ensures (fun tables => PinsHeld settings.maxRoomPinsLimit tables ∧
        tables.rooms.lookup pk = some row)
      (PinAction.pin settings pk (.load row) user)
      (fun _ => PinsHeld settings.maxRoomPinsLimit)
      (PinsHeldAfter settings.maxRoomPinsLimit) := by
  apply Action.Ensures.query_bind
  intro pins
  split
  · exact Action.Ensures.pure fun _ starts => starts.1.1
  apply Action.Ensures.expect_bind
  · exact fun _ _ starts => starts.1.1
  intro queue _
  apply Action.Ensures.query_bind
  intro count
  apply Action.Ensures.require_bind
  · exact fun _ _ starts => starts.1.1.1
  intro below
  apply Action.Ensures.require_bind
  · exact fun _ _ starts => starts.1.1.1
  intro isUser
  apply Action.Ensures.require_bind
  · exact fun _ _ starts => starts.1.1.1
  intro isActive
  apply Action.Ensures.update
  intro tables given
  rcases given with ⟨⟨⟨held, stored⟩, _⟩, counted⟩
  apply held.addPin stored isActive isUser
  rw [← held.countP_eq, counted]
  exact below

theorem operate_ensures (operation : RoomOperation) {row : RoomRecord} :
    Action.Ensures (fun tables => PinsHeld settings.maxRoomPinsLimit tables ∧
        tables.rooms.lookup pk = some row)
      (PinAction.operate settings pk (.load row) operation)
      (fun _ => PinsHeld settings.maxRoomPinsLimit)
      (PinsHeldAfter settings.maxRoomPinsLimit) := by
  cases operation with
  | pin user => exact pin_ensures user
  | unpin user =>
      apply (unpin_ensures user).weaken
      · exact fun _ starts => starts.1
      · exact fun _ _ kept => kept
      · exact fun _ _ raised => raised
  | change steps =>
      apply Action.Ensures.bind fun next tables =>
        PinsHeld settings.maxRoomPinsLimit tables ∧ TracksRoom pk next tables
      · apply (change_ensures steps).weaken
        · exact fun _ starts => ⟨starts.1, .inr ⟨row, starts.2, rfl, rfl⟩⟩
        · exact fun _ _ kept => kept
        · exact fun _ _ raised => raised
      · intro _
        exact Action.Ensures.pure fun _ kept => kept.1
  | close endedBy closedBy now saveRaisesAt raisesAt =>
      apply (close_ensures endedBy closedBy now saveRaisesAt raisesAt).weaken
      · exact fun _ starts => starts.1
      · exact fun _ _ kept => kept
      · exact fun _ _ raised => raised

theorem handle_ensures (call : RoomCall) :
    Action.Ensures (PinsHeld settings.maxRoomPinsLimit) (PinAction.handle settings call)
      (fun _ => PinsHeld settings.maxRoomPinsLimit)
      (PinsHeldAfter settings.maxRoomPinsLimit) := by
  have ensures : Action.Ensures (PinsHeld settings.maxRoomPinsLimit)
      (PinAction.getRoom call.pk >>= fun room =>
        PinAction.operate settings call.pk room call.operation)
      (fun _ => PinsHeld settings.maxRoomPinsLimit)
      (PinsHeldAfter settings.maxRoomPinsLimit) := by
    apply Action.Ensures.bind fun room tables => PinsHeld settings.maxRoomPinsLimit tables ∧
      ∃ row, room = .load row ∧ tables.rooms.lookup call.pk = some row
    · apply Action.Ensures.query_bind
      intro found
      apply Action.Ensures.expect_bind
      · exact fun _ _ starts => starts.1
      intro row isRow
      apply Action.Ensures.pure
      exact fun _ starts => ⟨starts.1, row, rfl, starts.2.trans isRow⟩
    · intro room tables given
      rcases given with ⟨held, row, rfl, stored⟩
      exact operate_ensures call.operation tables ⟨held, stored⟩
  rw [PinAction.handle]
  split
  · exact Action.Ensures.atomic _ ensures fun _ _ _ starts _ => starts
  · exact ensures

/-! ## Runs -/

theorem throughout_of_pinsHeld (settings : PinSettings)
    (held : PinsHeld settings.maxRoomPinsLimit tables) (calls : List RoomCall) :
    (pinMachine settings).Throughout (PinsHeld settings.maxRoomPinsLimit) tables calls := by
  induction calls generalizing tables with
  | nil => exact held
  | cons call calls induction => exact ⟨held, induction ((handle_ensures call).after held)⟩

theorem pins_are_of_held_rooms (settings : PinSettings) (rooms : Table Uuid RoomRecord)
    (calls : List RoomCall) :
    (pinMachine settings).Throughout (PinsHeld settings.maxRoomPinsLimit)
      (.unpinned rooms) calls :=
  throughout_of_pinsHeld settings (PinsHeld.unpinned rooms) calls

def anasRoom : RoomRecord :=
  (RoomRecord.defaults 0).assign [⟨.user, some "ana"⟩, ⟨.queue, some 1⟩]

def giveToBob : AssignmentChange where
  assignments := [⟨.user, some "bob"⟩]
  keepsActivity := by decide

/-- A room that is given to somebody else loses its pin, even if it cannot be stored. -/
example :
    ((pinMachine { maxRoomPinsLimit := 3, projectOf := fun _ => 1 }).run
      (.unpinned (AList.singleton 7 anasRoom))
      [{ pk := 7, operation := .pin "ana", inTransaction := false },
        { pk := 7, operation := .change [(giveToBob, ⟨5, none, some .storing⟩)],
          inTransaction := false }]).map PinTables.pins = some [] := by
  decide

end ChatsEngine.Rooms
