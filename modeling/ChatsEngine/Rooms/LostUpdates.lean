import ChatsEngine.Rooms.Operations

/-! # Lost updates

A save without `update_fields` writes every column of the instance, also the
columns that the operation did not assign. A queryset update that falls between
load and save is lost, unless the operation loads the row again, assigns the
column itself, or holds the very value that was written. -/

namespace ChatsEngine.Rooms

instance (column : RoomColumn) : DecidableEq column.Value := by
  cases column <;> exact inferInstance

/-- Carrying out the commands stores the column, before the instance is loaded
again and before the column is assigned, by a save that does not name it. -/
def Rewrites (column : RoomColumn) : List Command → Prop
  | [] => False
  | .assign assignments :: commands =>
      column ∉ assignments.map Sigma.fst ∧ Rewrites column commands
  | .refresh :: _ => False
  | .save none :: _ => True
  | .save (some _) :: commands => Rewrites column commands
  | .close _ _ :: _ =>
      column ∉ [RoomColumn.isActive, .endedAt, .endedBy, .closedBy]

instance decidableRewrites (column : RoomColumn) :
    (commands : List Command) → Decidable (Rewrites column commands)
  | [] => inferInstanceAs (Decidable False)
  | .assign assignments :: commands =>
      have := decidableRewrites column commands
      inferInstanceAs
        (Decidable (column ∉ assignments.map Sigma.fst ∧ Rewrites column commands))
  | .refresh :: _ => inferInstanceAs (Decidable False)
  | .save none :: _ => inferInstanceAs (Decidable True)
  | .save (some _) :: commands => decidableRewrites column commands
  | .close _ _ :: _ =>
      inferInstanceAs
        (Decidable (column ∉ [RoomColumn.isActive, .endedAt, .endedBy, .closedBy]))

namespace Progress

/-- The operation holds an instance with another value for the column, which it
did not assign, and is about to store it. -/
def Overwrites (column : RoomColumn) (value : column.Value) : Progress → Prop
  | .loading _ => False
  | .holding held commands =>
      column ∉ held.assigned ∧ held.room.values column ≠ value ∧ Rewrites column commands
  | .saving held updateFields commands =>
      column ∉ held.assigned ∧ held.room.values column ≠ value ∧
        Rewrites column (.save updateFields :: commands)

instance (column : RoomColumn) (value : column.Value) :
    (progress : Progress) → Decidable (progress.Overwrites column value)
  | .loading _ => inferInstanceAs (Decidable False)
  | .holding held commands =>
      inferInstanceAs (Decidable (column ∉ held.assigned ∧
        held.room.values column ≠ value ∧ Rewrites column commands))
  | .saving held updateFields commands =>
      inferInstanceAs (Decidable (column ∉ held.assigned ∧
        held.room.values column ≠ value ∧ Rewrites column (.save updateFields :: commands)))

end Progress

variable {Pid : Type}

/-- A queryset update falls where no operation is about to overwrite it. -/
def UpdatesInTime (pool : RoomPool Pid) : RoomEvent Pid → Prop
  | .surround (.update update) =>
      update.Selects pool.shared.row →
        ∀ assignment ∈ update.assignments pool.shared.row pool.shared.now,
          ∀ pid, ∀ progress ∈ pool.process pid,
            ¬progress.Overwrites assignment.1 assignment.2
  | _ => True

instance [Fintype Pid] (pool : RoomPool Pid) :
    (event : RoomEvent Pid) → Decidable (UpdatesInTime pool event)
  | .start _ _ => inferInstanceAs (Decidable True)
  | .advance _ _ => inferInstanceAs (Decidable True)
  | .kill _ => inferInstanceAs (Decidable True)
  | .surround (.tick _) => inferInstanceAs (Decidable True)
  | .surround (.update update) =>
      inferInstanceAs (Decidable (update.Selects pool.shared.row →
        ∀ assignment ∈ update.assignments pool.shared.row pool.shared.now,
          ∀ pid, ∀ progress ∈ pool.process pid,
            ¬progress.Overwrites assignment.1 assignment.2))

theorem update_distinct (row : RoomRecord) (now : Instant) (update : QuerysetUpdate) :
    ((update.assignments row now).map Sigma.fst).Nodup := by
  cases update with
  | updateLastMessage message user updateLastInteraction =>
      cases updateLastInteraction <;> simp [QuerysetUpdate.assignments]
  | onNewMessage message contact incrementUnread =>
      rw [QuerysetUpdate.assignments]
      split <;> simp
  | _ => simp [QuerysetUpdate.assignments]

def RoomTable.KeepsUpdates (table : RoomTable) : Prop :=
  ∀ column value, table.updated column = some value → table.row column = value

def RoomTable.Spared (table : RoomTable) (progress : Progress) : Prop :=
  ∀ column value, table.updated column = some value → ¬progress.Overwrites column value

namespace RoomTable

variable {table : RoomTable}

theorem update_of_selects {update : QuerysetUpdate} (selects : update.Selects table.row) :
    table.update update =
      { table with
        row := table.row.assign (update.assignments table.row table.now)
        updated := table.updated.assign
          ((update.assignments table.row table.now).map (Sigma.map id fun _ => some)) } := by
  rw [RoomTable.update, if_pos selects]

theorem update_of_mem {update : QuerysetUpdate} (selects : update.Selects table.row)
    {assignment : RoomAssignment}
    (member : assignment ∈ update.assignments table.row table.now) :
    (table.update update).row assignment.1 = assignment.2 ∧
      (table.update update).updated assignment.1 = some assignment.2 := by
  have distinct := update_distinct table.row table.now update
  rw [update_of_selects selects]
  refine ⟨Record.assign_of_mem distinct member, ?_⟩
  rw [← Record.columns_map fun _ => some] at distinct
  exact Record.assign_of_mem distinct (List.mem_map_of_mem member)

theorem update_of_not_mem {update : QuerysetUpdate} {column : RoomColumn}
    (notMember : column ∉ (update.assignments table.row table.now).map Sigma.fst) :
    (table.update update).row column = table.row column ∧
      (table.update update).updated column = table.updated column := by
  rw [RoomTable.update]
  split
  · refine ⟨Record.assign_of_not_mem notMember, Record.assign_of_not_mem ?_⟩
    rwa [Record.columns_map]
  · exact ⟨rfl, rfl⟩

theorem of_store_updated {held : Held} {updateFields : Option (List RoomColumn)}
    {column : RoomColumn} {value : column.Value}
    (updated : (table.store held updateFields).updated column = some value) :
    table.updated column = some value ∧
      (Record.Stores updateFields column → column ∉ held.assigned ∧ updateFields = none) := by
  rw [store_updated] at updated
  split at updated
  · cases updated
  · next spares =>
      refine ⟨updated, ?_⟩
      intro stores
      have unmeant : ¬Means held updateFields column := fun means => spares ⟨stores, means⟩
      rw [Means, not_or, not_not] at unmeant
      exact unmeant

theorem spared_load (keeps : table.KeepsUpdates) (commands : List Command) :
    table.Spared (.holding (.load table.row) commands) := by
  intro column value updated overwrites
  exact overwrites.2.1 (keeps column value updated)

end RoomTable

theorem spared_assign {table : RoomTable} {held : Held} (commands : List Command)
    {rest : List Command} {assignments : List RoomAssignment}
    (rewrites : ∀ column, column ∉ assignments.map Sigma.fst → Rewrites column rest →
      Rewrites column commands)
    (spared : table.Spared (.holding held commands)) :
    table.Spared (.holding (held.assign assignments) rest) := by
  intro column value updated overwrites
  rcases overwrites with ⟨notAssigned, differs, rewritesRest⟩
  rw [Held.assign_value_of_not_mem notAssigned] at differs
  have notMember : column ∉ assignments.map Sigma.fst := fun member =>
    notAssigned (List.mem_append_left _ member)
  exact spared column value updated
    ⟨fun member => notAssigned (held.mem_assign assignments member), differs,
      rewrites column notMember rewritesRest⟩

theorem keepsUpdates_store {table : RoomTable} {held : Held}
    {updateFields : Option (List RoomColumn)} {commands : List Command}
    (keeps : table.KeepsUpdates)
    (spared : table.Spared (.saving held updateFields commands)) :
    (table.store (held.stamped table.now updateFields) updateFields).KeepsUpdates := by
  intro column value updated
  rcases RoomTable.of_store_updated updated with ⟨before, unassigned⟩
  rw [RoomTable.store_row]
  by_cases stores : Record.Stores updateFields column
  · rcases unassigned stores with ⟨notAssigned, rfl⟩
    rw [Record.store_of_stores _ _ stores, Held.stamped,
      Held.assign_value_of_not_mem notAssigned]
    by_contra differs
    exact spared column value before
      ⟨fun member => notAssigned (held.mem_assign _ member), differs, trivial⟩
  · rw [Record.store_of_not_stores _ _ stores]
    exact keeps column value before

theorem spared_store {table : RoomTable} {held : Held}
    {updateFields : Option (List RoomColumn)} {progress : Progress}
    (spared : table.Spared progress) : (table.store held updateFields).Spared progress :=
  fun column value updated => spared column value (RoomTable.of_store_updated updated).1

theorem advance_spared {table next : RoomTable} {progress : Progress}
    {rest : Option Progress} (keeps : table.KeepsUpdates) (spared : table.Spared progress)
    (advanced : advance table progress () = some (next, rest)) :
    next.KeepsUpdates ∧ ∀ remaining, rest = some remaining → next.Spared remaining := by
  cases progress with
  | loading commands =>
      cases advanced
      refine ⟨keeps, ?_⟩
      intro remaining isRemaining
      cases isRemaining
      exact RoomTable.spared_load keeps commands
  | holding held commands =>
      cases commands with
      | nil =>
          cases advanced
          exact ⟨keeps, fun _ ended => by cases ended⟩
      | cons command commands =>
          cases command with
          | assign assignments =>
              cases advanced
              refine ⟨keeps, ?_⟩
              intro remaining isRemaining
              cases isRemaining
              apply spared_assign (.assign assignments :: commands) ?_ spared
              exact fun column notMember rewrites => ⟨notMember, rewrites⟩
          | refresh =>
              cases advanced
              refine ⟨keeps, ?_⟩
              intro remaining isRemaining
              cases isRemaining
              exact RoomTable.spared_load keeps commands
          | save updateFields =>
              rw [advance] at advanced
              split at advanced
              · cases advanced
                refine ⟨keeps, ?_⟩
                intro remaining isRemaining
                cases isRemaining
                exact spared
              · cases advanced
                exact ⟨keeps, fun _ ended => by cases ended⟩
          | close endedBy closedBy =>
              cases advanced
              refine ⟨keeps, ?_⟩
              intro remaining isRemaining
              cases isRemaining
              apply spared_assign (.close endedBy closedBy :: commands) ?_ spared
              exact fun column notMember _ => notMember
  | saving held updateFields commands =>
      cases advanced
      refine ⟨keepsUpdates_store keeps spared, ?_⟩
      intro remaining isRemaining
      cases isRemaining
      apply spared_store
      have saved : table.Spared (.holding (held.stamped table.now updateFields) commands) := by
        apply spared_assign (.save updateFields :: commands) ?_ spared
        intro column _ rewrites
        cases updateFields with
        | none => trivial
        | some columns => exact rewrites
      exact saved

theorem update_spared {table : RoomTable} {update : QuerysetUpdate} {progress : Progress}
    (inTime : update.Selects table.row →
      ∀ assignment ∈ update.assignments table.row table.now,
        ¬progress.Overwrites assignment.1 assignment.2)
    (spared : table.Spared progress) : (table.update update).Spared progress := by
  intro column value updated
  by_cases selects : update.Selects table.row
  · by_cases member : column ∈ (update.assignments table.row table.now).map Sigma.fst
    · rcases List.mem_map.mp member with ⟨assignment, listed, rfl⟩
      rw [(RoomTable.update_of_mem selects listed).2] at updated
      cases updated
      exact inTime selects assignment listed
    · rw [(RoomTable.update_of_not_mem member).2] at updated
      exact spared column value updated
  · rw [RoomTable.update, if_neg selects] at updated
    exact spared column value updated

theorem update_keepsUpdates {table : RoomTable} (update : QuerysetUpdate)
    (keeps : table.KeepsUpdates) : (table.update update).KeepsUpdates := by
  intro column value updated
  by_cases selects : update.Selects table.row
  · by_cases member : column ∈ (update.assignments table.row table.now).map Sigma.fst
    · rcases List.mem_map.mp member with ⟨assignment, listed, rfl⟩
      rcases RoomTable.update_of_mem selects listed with ⟨written, recorded⟩
      rw [recorded] at updated
      cases updated
      exact written
    · rcases RoomTable.update_of_not_mem member with ⟨unwritten, unrecorded⟩
      rw [unrecorded] at updated
      exact unwritten.trans (keeps column value updated)
  · rw [RoomTable.update, if_neg selects] at updated ⊢
    exact keeps column value updated

def updateOutline [DecidableEq Pid] :
    InterferenceOutline roomProgram (UpdatesInTime : RoomPool Pid → RoomEvent Pid → Prop) where
  Invariant := RoomTable.KeepsUpdates
  Assertion := RoomTable.Spared
  enter := fun _ _ _ _ impossible => impossible.elim
  advance := by
    intro pool pid choice progress next rest meets running keeps spared advanced
    exact advance_spared keeps spared advanced
  advanceOther := by
    intro pool pid choice progress next rest meets running keeps spared advanced other
      otherProgress _ _ otherSpared
    rcases advance_cases advanced with ⟨rfl, _⟩ | ⟨held, updateFields, commands, _, rfl, _⟩
    · exact otherSpared
    · exact spared_store otherSpared
  surround := by
    intro pool event next meets keeps surrounded
    cases event with
    | tick elapsed =>
        cases surrounded
        exact ⟨keeps, fun _ _ _ spared => spared⟩
    | update update =>
        cases surrounded
        refine ⟨update_keepsUpdates update keeps, ?_⟩
        intro pid progress running spared
        exact update_spared
          (fun selects assignment listed => meets selects assignment listed pid progress running)
          spared

/-- If the step from `pool` to `next` is the write of a save without
`update_fields`, every column is as a queryset update wrote it, unless the
operation assigned it. -/
def SaveLosesNoUpdate (pool next : RoomPool Pid) (pid : Pid) : Prop :=
  ∀ held commands, pool.process pid = some (.saving held none commands) →
    ∀ column value, pool.shared.updated column = some value →
      column ∉ (held.stamped pool.shared.now none).assigned →
      next.shared.row column = value

/-- When queryset updates fall in time, no save loses one. -/
theorem save_loses_no_update [DecidableEq Pid] {now : Instant} {row : RoomRecord}
    {pool next : RoomPool Pid} {pid : Pid}
    (reaches : roomProgram.machine.Reaches UpdatesInTime (Pool.idle (.initial now row)) pool)
    (stepped : roomProgram.machine.step pool (.advance pid ()) = some next) :
    SaveLosesNoUpdate pool next pid := by
  intro held commands saving column value updated notAssigned
  have initially : updateOutline.Holds (Pool.idle (.initial now row) : RoomPool Pid) :=
    updateOutline.holds_of_isIdle (fun _ _ impossible => by cases impossible)
      (Pool.idle_isIdle _)
  have meets : UpdatesInTime pool (.advance pid ()) := trivial
  have holds := updateOutline.holds_step (updateOutline.holds_of_reaches reaches initially)
    meets stepped
  apply holds.shared column value
  rcases Program.step_advance stepped with ⟨progress, table, rest, running, advanced, rfl⟩
  cases Option.some.inj (running.symm.trans saving)
  cases advanced
  rw [Pool.set_shared, RoomTable.store_updated, if_neg]
  · exact updated
  · intro stores
    rcases stores with ⟨_, assigned | named⟩
    · exact notAssigned assigned
    · exact named rfl

/-! ## A message that arrives while the room is routed -/

def queuedRoom : RoomRecord := RoomRecord.defaults 0

def contactMessage : LastMessage where
  uuid := 5
  text := some "Is anybody there?"
  medias := []
  createdOn := 40

def contactWrites : RoomEvent Party :=
  .surround (.update (.onNewMessage contactMessage (some 9) 1))

/-- The router loads the room, the contact writes, and the router passes the
guard. -/
def messageDuringRouting : List (RoomEvent Party) :=
  [.start .router (routeRoom "agent@example.com"), .advance .router (),
    .advance .router (), contactWrites, .advance .router (), .advance .router ()]

/-- The instance that a save without `update_fields` is about to write. -/
def Progress.writing : Progress → Option Held
  | .loading _ => none
  | .holding _ _ => none
  | .saving held none _ => some held
  | .saving _ (some _) _ => none

theorem Progress.saving_of_writing {progress : Progress} {held : Held}
    (writing : progress.writing = some held) :
    ∃ commands, progress = .saving held none commands := by
  cases progress with
  | loading commands => cases writing
  | holding other commands => cases writing
  | saving other updateFields commands =>
      cases updateFields with
      | none =>
          cases writing
          exact ⟨commands, rfl⟩
      | some columns => cases writing

theorem routing_loses_message :
    ¬ ∀ (now : Instant) (row : RoomRecord) (pool next : RoomPool Party) (pid : Party),
      roomProgram.machine.Reaches Machine.anyStep (Pool.idle (.initial now row)) pool →
      roomProgram.machine.step pool (.advance pid ()) = some next →
      SaveLosesNoUpdate pool next pid := by
  intro keeps
  have ends : ((roomProgram.machine.run (Pool.idle (.initial 50 queuedRoom))
      messageDuringRouting).bind fun pool =>
        (roomProgram.machine.step pool (.advance .router ())).bind fun next =>
          ((pool.process .router).bind Progress.writing).bind fun held =>
            some (decide (RoomColumn.lastMessage ∈
              (held.stamped pool.shared.now none).assigned),
              pool.shared.updated .lastMessage, next.shared.row .lastMessage)) =
      some (false, some (some 5), none) := by
    decide
  rcases Option.bind_eq_some_iff.mp ends with ⟨pool, ran, ends⟩
  rcases Option.bind_eq_some_iff.mp ends with ⟨next, stepped, ends⟩
  rcases Option.bind_eq_some_iff.mp ends with ⟨held, isWriting, ends⟩
  rcases Option.bind_eq_some_iff.mp isWriting with ⟨progress, running, writing⟩
  rcases Progress.saving_of_writing writing with ⟨commands, rfl⟩
  simp only [Option.some.injEq, Prod.mk.injEq, decide_eq_false_iff_not] at ends
  rcases ends with ⟨notAssigned, updated, lost⟩
  have kept := keeps 50 queuedRoom pool next .router (.of_run ran) stepped held commands
    running .lastMessage (some 5) updated notAssigned
  rw [lost] at kept
  cases kept

/-- The contact writes before the router loads the room again, and an update of a
column falls while its value is the one that the router holds. -/
def messageBeforeRefresh : List (RoomEvent Party) :=
  [.start .router (routeRoom "agent@example.com"), .advance .router (), contactWrites,
    .advance .router (), .advance .router (), .surround (.update .resetInactivity),
    .advance .router ()]

theorem save_loses_no_update_after_refresh :
    ∃ pool next, roomProgram.machine.runMeeting UpdatesInTime
        (Pool.idle (.initial 50 queuedRoom)) messageBeforeRefresh = some pool ∧
      roomProgram.machine.step pool (.advance .router ()) = some next ∧
      next.shared.row .lastMessage = some 5 ∧ SaveLosesNoUpdate pool next .router := by
  have ends : ((roomProgram.machine.runMeeting UpdatesInTime
      (Pool.idle (.initial 50 queuedRoom)) messageBeforeRefresh).bind fun pool =>
        (roomProgram.machine.step pool (.advance .router ())).bind fun next =>
          (next.shared.row .lastMessage : Option Uuid)) = some 5 := by
    decide
  rcases Option.bind_eq_some_iff.mp ends with ⟨pool, ran, ends⟩
  rcases Option.bind_eq_some_iff.mp ends with ⟨next, stepped, ends⟩
  exact ⟨pool, next, ran, stepped, ends, save_loses_no_update (.of_runMeeting ran) stepped⟩

end ChatsEngine.Rooms
