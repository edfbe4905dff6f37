import ChatsEngine.Rooms.Operations

/-! # Closed rooms

`Room.save` reads the stored `is_active` before it writes the row, and refuses
to write a closed room. Reading and writing are separate statements, so the
guard protects a closed room only from the operations that reach it after the
closing write. -/

namespace ChatsEngine.Rooms

theorem isActive_not_mem_update (row : RoomRecord) (now : Instant)
    (update : QuerysetUpdate) :
    RoomColumn.isActive ∉ (update.assignments row now).map Sigma.fst := by
  cases update with
  | updateLastMessage message user updateLastInteraction =>
      cases updateLastInteraction <;> simp [QuerysetUpdate.assignments]
  | onNewMessage message contact incrementUnread =>
      rw [QuerysetUpdate.assignments]
      split <;> simp
  | _ => simp [QuerysetUpdate.assignments]

@[simp] theorem Held.stamped_isActive (held : Held) (now : Instant)
    (updateFields : Option (List RoomColumn)) :
    (held.stamped now updateFields).room.values .isActive = held.room.values .isActive :=
  RoomInstance.saveAssignments_spare (by decide) now updateFields held.room

@[simp] theorem RoomTable.update_isActive (table : RoomTable) (update : QuerysetUpdate) :
    (table.update update).row .isActive = table.row .isActive := by
  rw [RoomTable.update]
  split
  · exact Record.assign_of_not_mem (isActive_not_mem_update table.row table.now update)
  · rfl

namespace Progress

/-- The operation has passed the guard with this value for `is_active` and is
about to store it. -/
def Stores (active : Bool) : Progress → Prop
  | .loading _ => False
  | .holding _ _ => False
  | .saving held updateFields _ =>
      Record.Stores updateFields RoomColumn.isActive ∧ held.room.values .isActive = active

instance (active : Bool) : (progress : Progress) → Decidable (progress.Stores active)
  | .loading _ => inferInstanceAs (Decidable False)
  | .holding _ _ => inferInstanceAs (Decidable False)
  | .saving held updateFields _ =>
      inferInstanceAs (Decidable (Record.Stores updateFields RoomColumn.isActive ∧
        held.room.values .isActive = active))

end Progress

variable {Pid : Type}

/-- The closing write finds no other operation between its guard and a write
that would store the room as active. -/
def ClosesAlone (pool : RoomPool Pid) : RoomEvent Pid → Prop
  | .advance pid _ =>
      (∃ progress ∈ pool.process pid, progress.Stores false) →
        ∀ other, ∀ progress ∈ pool.process other, ¬progress.Stores true
  | _ => True

instance [Fintype Pid] (pool : RoomPool Pid) :
    (event : RoomEvent Pid) → Decidable (ClosesAlone pool event)
  | .start _ _ => inferInstanceAs (Decidable True)
  | .kill _ => inferInstanceAs (Decidable True)
  | .surround _ => inferInstanceAs (Decidable True)
  | .advance pid _ =>
      inferInstanceAs (Decidable ((∃ progress ∈ pool.process pid, progress.Stores false) →
        ∀ other, ∀ progress ∈ pool.process other, ¬progress.Stores true))

theorem advance_isActive {table next : RoomTable} {progress : Progress}
    {rest : Option Progress} (advanced : advance table progress () = some (next, rest)) :
    next.row .isActive = table.row .isActive ∨
      progress.Stores (next.row .isActive) := by
  rcases advance_cases advanced with ⟨rfl, _⟩ | ⟨held, updateFields, commands, rfl, rfl, _⟩
  · exact .inl rfl
  · by_cases stores : Record.Stores updateFields RoomColumn.isActive
    · right
      refine ⟨stores, ?_⟩
      rw [RoomTable.store_row, Record.store_of_stores _ _ stores, Held.stamped_isActive]
    · exact .inl (Record.store_of_not_stores _ _ stores)

theorem advance_stores {table next : RoomTable} {progress remaining : Progress}
    (advanced : advance table progress () = some (next, some remaining))
    {active : Bool} (stores : remaining.Stores active) :
    next.row .isActive = true := by
  rcases advance_cases advanced with ⟨rfl, guarded⟩ | ⟨_, _, _, _, _, after, isHolding⟩
  · cases remaining with
    | saving held updateFields commands => exact guarded held updateFields commands rfl
    | loading commands => exact stores.elim
    | holding held commands => exact stores.elim
  · cases isHolding
    exact stores.elim

/-- Once the room is closed, no operation is about to store it as active. -/
def closedOutline [DecidableEq Pid] :
    InterferenceOutline roomProgram (ClosesAlone : RoomPool Pid → RoomEvent Pid → Prop) where
  Invariant := fun _ => True
  Assertion := fun table progress => table.row .isActive = false → ¬progress.Stores true
  enter := fun _ _ => id
  advance := by
    intro pool pid choice progress next rest meets running _ assertion advanced
    refine ⟨trivial, ?_⟩
    intro remaining isRemaining closed stores
    subst isRemaining
    rw [advance_stores advanced stores] at closed
    cases closed
  advanceOther := by
    intro pool pid choice progress next rest meets running _ assertion advanced other
      otherProgress _ otherRunning otherAssertion closed
    rcases advance_isActive advanced with unchanged | stores
    · exact otherAssertion (unchanged ▸ closed)
    · rw [closed] at stores
      exact meets ⟨progress, running, stores⟩ other otherProgress otherRunning
  surround := by
    intro pool event next meets _ surrounded
    refine ⟨trivial, ?_⟩
    intro pid progress running assertion closed
    apply assertion
    cases event with
    | tick elapsed =>
        cases surrounded
        exact closed
    | update update =>
        cases surrounded
        rwa [RoomTable.update_isActive] at closed

theorem step_isActive [DecidableEq Pid] {pool next : RoomPool Pid} {event : RoomEvent Pid}
    (holds : closedOutline.Holds pool) (closed : pool.shared.row .isActive = false)
    (stepped : roomProgram.machine.step pool event = some next) :
    next.shared.row .isActive = false := by
  cases event with
  | start pid task =>
      rcases Program.step_start stepped with ⟨_, rfl⟩
      exact closed
  | advance pid choice =>
      rcases Program.step_advance stepped with
        ⟨progress, table, rest, running, advanced, rfl⟩
      rcases advance_isActive advanced with unchanged | stores
      · exact unchanged.trans closed
      · cases active : table.row .isActive with
        | false => exact active
        | true =>
            rw [active] at stores
            exact absurd stores (holds.locals pid progress running closed)
  | kill pid =>
      rcases Program.step_kill stepped with ⟨_, rfl⟩
      exact closed
  | surround event =>
      rcases Program.step_surround stepped with ⟨table, surrounded, rfl⟩
      cases event with
      | tick elapsed =>
          cases surrounded
          exact closed
      | update update =>
          cases surrounded
          exact (RoomTable.update_isActive pool.shared update).trans closed

/-- When every closing write is alone, a closed room stays closed. -/
theorem closed_room_stays_closed [DecidableEq Pid] {now : Instant} {row : RoomRecord}
    {middle final : RoomPool Pid}
    (reachesMiddle : roomProgram.machine.Reaches ClosesAlone
      (Pool.idle (.initial now row)) middle)
    (closed : middle.shared.row .isActive = false)
    (reachesFinal : roomProgram.machine.Reaches ClosesAlone middle final) :
    final.shared.row .isActive = false := by
  have initially : closedOutline.Holds (Pool.idle (.initial now row) : RoomPool Pid) :=
    closedOutline.holds_of_isIdle trivial (Pool.idle_isIdle _)
  have middleHolds := closedOutline.holds_of_reaches reachesMiddle initially
  have both : closedOutline.Holds final ∧ final.shared.row .isActive = false := by
    apply reachesFinal.invariant ⟨middleHolds, closed⟩
    intro current event next holds meets stepped
    exact ⟨closedOutline.holds_step holds.1 meets stepped,
      step_isActive holds.1 holds.2 stepped⟩
  exact both.2

/-! ## A room that is routed while it is closed -/

def waitingRoom : RoomRecord := RoomRecord.defaults 0

/-- The router passes the guard, and the close endpoint closes the room. -/
def closeDuringRouting : List (RoomEvent Party) :=
  [.start .router (routeRoom "agent@example.com"), .advance .router (),
    .advance .router (), .advance .router (), .advance .router (),
    .start .request (closeRoom none), .advance .request (), .advance .request (),
    .advance .request (), .advance .request ()]

theorem routing_reopens_closed_room :
    ¬ ∀ (now : Instant) (row : RoomRecord) (middle final : RoomPool Party),
      roomProgram.machine.Reaches Machine.anyStep (Pool.idle (.initial now row)) middle →
      middle.shared.row .isActive = false →
      roomProgram.machine.Reaches Machine.anyStep middle final →
      final.shared.row .isActive = false := by
  intro staysClosed
  have closes : (roomProgram.machine.run (Pool.idle (.initial 0 waitingRoom))
      closeDuringRouting).map (fun pool => (pool.shared.row .isActive : Bool)) =
      some false := by
    decide
  rcases Option.map_eq_some_iff.mp closes with ⟨middle, ran, closed⟩
  have reopens : ((roomProgram.machine.run (Pool.idle (.initial 0 waitingRoom))
      closeDuringRouting).bind fun pool => roomProgram.machine.run pool [.advance .router ()]).map
      (fun pool => (pool.shared.row .isActive : Bool)) = some true := by
    decide
  rw [ran, Option.bind_some] at reopens
  rcases Option.map_eq_some_iff.mp reopens with ⟨final, ranOn, active⟩
  have closedAgain := staysClosed 0 waitingRoom middle final (.of_run ran) closed (.of_run ranOn)
  rw [closedAgain] at active
  cases active

/-- Routing that writes before the room is closed, and finds it closed when it
saves again. -/
def routingBeforeClose : List (RoomEvent Party) :=
  [.start .router (routeRoom "agent@example.com"), .advance .router (),
    .advance .router (), .advance .router (), .advance .router (),
    .start .request (closeRoom none), .advance .request (), .advance .request (),
    .advance .router (), .advance .router (),
    .start .router (routeRoom "agent@example.com"), .advance .router (),
    .advance .request (), .advance .request ()]

theorem closed_room_stays_closed_after_routing :
    ∃ middle final, roomProgram.machine.runMeeting ClosesAlone
        (Pool.idle (.initial 0 waitingRoom)) routingBeforeClose = some middle ∧
      roomProgram.machine.runMeeting ClosesAlone middle
        [.advance .router (), .advance .router (), .advance .router ()] = some final ∧
      final.shared.row .isActive = false := by
  have closes : (roomProgram.machine.runMeeting ClosesAlone
      (Pool.idle (.initial 0 waitingRoom)) routingBeforeClose).map
      (fun pool => (pool.shared.row .isActive : Bool)) = some false := by
    decide
  rcases Option.map_eq_some_iff.mp closes with ⟨middle, ran, closed⟩
  have goesOn : ((roomProgram.machine.runMeeting ClosesAlone
      (Pool.idle (.initial 0 waitingRoom)) routingBeforeClose).bind fun pool =>
        roomProgram.machine.runMeeting ClosesAlone pool
          [.advance .router (), .advance .router (), .advance .router ()]).isSome = true := by
    decide
  rw [ran, Option.bind_some] at goesOn
  rcases Option.isSome_iff_exists.mp goesOn with ⟨final, ranOn⟩
  exact ⟨middle, final, ran, ranOn,
    closed_room_stays_closed (.of_runMeeting ran) closed (.of_runMeeting ranOn)⟩

end ChatsEngine.Rooms
