import ChatsEngine.Messages.BulkSend
import Mathlib.Data.List.Induction

/-! # The progress of bulk sends

The progress tasks are throttled: the one that takes the lock counts the outcome rows,
the others leave one retry pending between them. Whatever the statements do, the rows
are counted by a task that takes the lock after the last of them has been left. -/

namespace ChatsEngine.Messages

variable {settings : BulkSendSettings} {state after : BulkSendState} {task : BulkSendTask}
  {replacing others : List BulkSendTask}

/-! ## What a statement does to the progress -/

def BulkSendTask.AwaitsLock : BulkSendTask → Prop
  | .notifyingRoom _ => True
  | .creatingFailed _ _ => True
  | .schedulingProgress => True
  | .updateBulkMessageSendProgress _ => True
  | .addingPending => True
  | .schedulingRetry => True
  | _ => False

theorem BulkSendTask.RetriesFrom.awaitsLock {time : Instant} (retries : task.RetriesFrom time) :
    task.AwaitsLock := by
  cases task with
  | schedulingRetry => trivial
  | updateBulkMessageSendProgress due => trivial
  | _ => cases retries

/-- What a statement does to the rows, to the two keys and to the tasks that await the
lock. It may be any statement, and may raise an exception. -/
inductive ProgressEffect (settings : BulkSendSettings) (state : BulkSendState) :
    BulkSendTask → BulkSendState → List BulkSendTask → Prop
  | apart {task : BulkSendTask} {after : BulkSendState} {replacing : List BulkSendTask} :
      ¬task.AwaitsLock → after.bulkMessages = state.bulkMessages →
      after.cache = state.cache → after.now = state.now →
      ProgressEffect settings state task after replacing
  | record {task stage : BulkSendTask} (row : BulkMessageSendMessage) :
      (∀ time, ¬task.RetriesFrom time) → stage.AwaitsLock →
      ProgressEffect settings state task
        { state with bulkMessages := row :: state.bulkMessages } [stage]
  | pass {task stage : BulkSendTask} :
      (∀ time, ¬task.RetriesFrom time) → stage.AwaitsLock →
      ProgressEffect settings state task state [stage]
  | acquire (due : Instant) (cache : TtlCache ProgressKey) : due ≤ state.now →
      state.cache.add state.now .lock settings.progressCooldown = some cache →
      ProgressEffect settings state (.updateBulkMessageSendProgress due)
        { state with cache } [.gettingBulkSend]
  | skip (due : Instant) : due ≤ state.now → state.cache.Alive state.now .lock →
      ProgressEffect settings state (.updateBulkMessageSendProgress due) state [.addingPending]
  | mark (cache : TtlCache ProgressKey) :
      state.cache.add state.now .pending settings.progressRetryDelay = some cache →
      ProgressEffect settings state .addingPending { state with cache } [.schedulingRetry]
  | alreadyPending : state.cache.Alive state.now .pending →
      ProgressEffect settings state .addingPending state []
  | retry :
      ProgressEffect settings state .schedulingRetry state
        [.updateBulkMessageSendProgress (state.now + settings.progressRetryDelay)]

theorem SendStatement.progressEffect (statement : SendStatement) (room : Uuid)
    (user : Option UserEmail) :
    ProgressEffect settings state (.sending statement room user)
      (statement.perform state room user) [statement.next room user] := by
  cases statement with
  | commit => exact .record _ (fun _ => id) trivial
  | _ => exact .apart id rfl rfl rfl

theorem ProgressEffect.of_advance {choice : BulkSendChoice}
    (advanced : state.advance settings task choice = some (after, replacing)) :
    ProgressEffect settings state task after replacing := by
  cases choice with
  | raises errors =>
      cases task with
      | sending statement room user =>
          cases advanced
          exact .apart id rfl rfl rfl
      | notifyingRoom room =>
          cases advanced
          exact .pass (fun _ => id) trivial
      | _ => cases advanced
  | succeeds =>
      cases task with
      | dispatching roomUuids => cases roomUuids <;> cases advanced <;> exact .apart id rfl rfl rfl
      | sending statement room user =>
          cases advanced
          exact statement.progressEffect room user
      | notifyingRoom room =>
          cases advanced
          exact .pass (fun _ => id) trivial
      | creatingFailed room errors =>
          cases advanced
          exact .record _ (fun _ => id) trivial
      | schedulingProgress =>
          cases advanced
          exact .pass (fun _ => id) trivial
      | updateBulkMessageSendProgress due =>
          rcases BulkSendState.cases_of_update advanced with
            ⟨ready, ⟨cache, added, rfl, rfl⟩ | ⟨taken, rfl, rfl⟩⟩
          · exact .acquire due cache ready added
          · exact .skip due ready taken
      | addingPending =>
          rcases BulkSendState.cases_of_addingPending advanced with
            ⟨cache, added, rfl, rfl⟩ | ⟨pending, rfl, rfl⟩
          · exact .mark cache added
          · exact .alreadyPending pending
      | schedulingRetry =>
          cases advanced
          exact .retry
      | _ =>
          cases advanced
          exact .apart id rfl rfl rfl

namespace ProgressEffect

variable (effect : ProgressEffect settings state task after replacing)
include effect

theorem rows : state.bulkMessages <:+ after.bulkMessages := by
  cases effect with
  | apart _ same _ _ => simp [same]
  | record row _ _ => exact List.suffix_cons row state.bulkMessages
  | _ => exact List.suffix_rfl

theorem recorded : after.bulkMessages = state.bulkMessages ∨
    ∃ stage ∈ replacing, stage.AwaitsLock := by
  cases effect with
  | apart _ same _ _ => exact .inl same
  | record row _ awaits => exact .inr ⟨_, List.mem_singleton_self _, awaits⟩
  | _ => exact .inl rfl

theorem awaits (awaits : task.AwaitsLock) :
    (∃ stage ∈ replacing, stage.AwaitsLock) ∨
      (task = .addingPending ∧ after = state ∧ state.cache.Alive state.now .pending) ∨
      ∃ due, task = .updateBulkMessageSendProgress due ∧
        ¬state.cache.Alive state.now .lock ∧ replacing = [.gettingBulkSend] := by
  cases effect with
  | apart apart _ _ _ => exact absurd awaits apart
  | acquire due cache _ added =>
      exact .inr (.inr ⟨due, rfl, TtlCache.not_alive_of_add added, rfl⟩)
  | alreadyPending alive => exact .inr (.inl ⟨rfl, rfl, alive⟩)
  | record _ _ next => exact .inl ⟨_, List.mem_singleton_self _, next⟩
  | pass _ next => exact .inl ⟨_, List.mem_singleton_self _, next⟩
  | _ => exact .inl ⟨_, List.mem_singleton_self _, trivial⟩

theorem pending :
    (after.cache .pending = state.cache .pending ∧ after.now = state.now) ∨
      (after.cache .pending = some (after.now + settings.progressRetryDelay) ∧
        .schedulingRetry ∈ replacing) := by
  cases effect with
  | apart _ _ same time => exact .inl ⟨by rw [same], time⟩
  | acquire due cache _ added => exact .inl ⟨TtlCache.added_other added (by simp), rfl⟩
  | mark cache added => exact .inr ⟨TtlCache.added_self added, List.mem_singleton_self _⟩
  | _ => exact .inl ⟨rfl, rfl⟩

theorem retries {expiry : Instant} (alive : state.now < expiry)
    (bounded : expiry ≤ state.now + settings.progressRetryDelay)
    (retries : task.RetriesFrom expiry) : ∃ stage ∈ replacing, stage.RetriesFrom expiry := by
  cases effect with
  | apart apart _ _ _ => exact absurd retries.awaitsLock apart
  | record _ never _ => exact absurd retries (never expiry)
  | pass never _ => exact absurd retries (never expiry)
  | retry => exact ⟨_, List.mem_singleton_self _, bounded⟩
  | acquire due _ ready _ => exact absurd (Nat.le_trans retries ready) (Nat.not_le_of_lt alive)
  | skip due ready _ => exact absurd (Nat.le_trans retries ready) (Nat.not_le_of_lt alive)
  | _ => cases retries

end ProgressEffect

theorem ProgressEffect.takesLock {due : Instant}
    (effect : ProgressEffect settings state (.updateBulkMessageSendProgress due) after replacing)
    (free : ¬state.cache.Alive state.now .lock) :
    after.bulkMessages = state.bulkMessages ∧ replacing = [.gettingBulkSend] := by
  cases effect with
  | apart apart _ _ _ => exact absurd trivial apart
  | record row never _ => exact absurd (Nat.le_refl due) (never due)
  | pass never _ => exact absurd (Nat.le_refl due) (never due)
  | acquire _ cache _ _ => exact ⟨rfl, rfl⟩
  | skip _ _ taken => exact absurd taken free

theorem replacing_of_gettingBulkSend {choice : BulkSendChoice}
    (advanced : state.advance settings .gettingBulkSend choice = some (after, replacing)) :
    replacing = [.aggregating state.bulkSend] := by
  cases choice with
  | succeeds =>
      cases advanced
      rfl
  | raises errors => cases advanced

/-! ## The invariant -/

/-- As long as the pending key is there, a task is left that tries the lock once the
key has expired. -/
def PendingRetried (settings : BulkSendSettings) (agenda : BulkSendAgenda) : Prop :=
  ∀ expiry ∈ agenda.shared.cache .pending,
    expiry ≤ agenda.shared.now + settings.progressRetryDelay ∧
      (agenda.shared.now < expiry → ∃ task ∈ agenda.tasks, task.RetriesFrom expiry)

def TakesLock (agenda : BulkSendAgenda) (position : Nat) : Prop :=
  (∃ due, agenda.tasks[position]? = some (.updateBulkMessageSendProgress due)) ∧
    ¬agenda.shared.cache.Alive agenda.shared.now .lock

def CountsRows (agenda : BulkSendAgenda) (position : Nat) : Prop :=
  ∃ bulkSend, agenda.tasks[position]? = some (.aggregating bulkSend)

variable {agenda next : BulkSendAgenda} {event : BulkSendEvent}

theorem PendingRetried.step (holds : PendingRetried settings agenda)
    (stepped : (bulkSendProgram settings).machine.step agenda event = some next) :
    PendingRetried settings next := by
  cases event with
  | surround event =>
      rcases TaskProgram.step_surround stepped with ⟨after, surrounded, rfl⟩
      intro expiry stored
      cases event with
      | tick elapsed =>
          cases surrounded
          rcases holds expiry stored with ⟨bounded, retried⟩
          constructor
          · dsimp only
            omega
          · intro alive
            apply retried
            exact Nat.lt_of_le_of_lt (Nat.le_add_right _ _) alive
      | saveRoom room row =>
          cases surrounded
          exact holds expiry stored
      | finishStale cutoff =>
          simp only [bulkSendProgram, BulkSendState.surround] at surrounded
          split at surrounded
          · split at surrounded <;> cases surrounded <;> exact holds expiry stored
          · cases surrounded
  | advance index choice =>
      rcases TaskProgram.step_advance stepped with
        ⟨task, after, replacing, others, _, order, advanced, rfl⟩
      have effect := ProgressEffect.of_advance advanced
      intro expiry stored
      rcases effect.pending with ⟨sameKey, sameTime⟩ | ⟨marked, retry⟩
      · rw [sameKey] at stored
        rw [sameTime]
        rcases holds expiry stored with ⟨bounded, retried⟩
        refine ⟨bounded, fun alive => ?_⟩
        rcases retried alive with ⟨stage, member, retries⟩
        rcases List.mem_cons.mp (order.mem_iff.mp member) with rfl | elsewhere
        · rcases effect.retries alive bounded retries with ⟨rest, listed, still⟩
          exact ⟨rest, List.mem_append_left _ listed, still⟩
        · exact ⟨stage, List.mem_append_right _ elsewhere, retries⟩
      · cases Option.some.inj (marked.symm.trans stored)
        exact ⟨le_refl _, fun _ => ⟨_, List.mem_append_left _ retry, trivial⟩⟩

theorem rows_of_step (stepped : (bulkSendProgram settings).machine.step agenda event = some next) :
    agenda.shared.bulkMessages <:+ next.shared.bulkMessages := by
  cases event with
  | surround event =>
      rcases TaskProgram.step_surround stepped with ⟨after, surrounded, rfl⟩
      cases event with
      | finishStale cutoff =>
          simp only [bulkSendProgram, BulkSendState.surround] at surrounded
          split at surrounded
          · split at surrounded <;> cases surrounded <;> exact List.suffix_rfl
          · cases surrounded
      | _ =>
          cases surrounded
          exact List.suffix_rfl
  | advance index choice =>
      rcases TaskProgram.step_advance stepped with
        ⟨task, after, replacing, others, _, _, advanced, rfl⟩
      exact (ProgressEffect.of_advance advanced).rows

theorem rows_of_run {events : List BulkSendEvent}
    (ran : (bulkSendProgram settings).machine.run agenda events = some next) :
    agenda.shared.bulkMessages <:+ next.shared.bulkMessages := by
  induction events generalizing agenda with
  | nil =>
      cases ran
      exact List.suffix_rfl
  | cons event events induction =>
      rcases Machine.run_cons_eq_some ran with ⟨middle, stepped, rest⟩
      exact (rows_of_step stepped).trans (induction rest)

theorem awaitsLock_step (holds : PendingRetried settings agenda)
    (stepped : (bulkSendProgram settings).machine.step agenda event = some next)
    (owed : (∃ task ∈ agenda.tasks, task.AwaitsLock) ∨
      next.shared.bulkMessages ≠ agenda.shared.bulkMessages) :
    (∃ task ∈ next.tasks, task.AwaitsLock) ∨
      ∃ index choice, event = .advance index choice ∧ TakesLock agenda index := by
  cases event with
  | surround event =>
      rcases TaskProgram.step_surround stepped with ⟨after, surrounded, rfl⟩
      left
      rcases owed with awaits | changed
      · exact awaits
      · exfalso
        apply changed
        cases event with
        | finishStale cutoff =>
            simp only [bulkSendProgram, BulkSendState.surround] at surrounded
            split at surrounded
            · split at surrounded <;> cases surrounded <;> rfl
            · cases surrounded
        | _ =>
            cases surrounded
            rfl
  | advance index choice =>
      rcases TaskProgram.step_advance stepped with
        ⟨task, after, replacing, others, found, order, advanced, rfl⟩
      have effect := ProgressEffect.of_advance advanced
      rcases owed with ⟨stage, member, awaits⟩ | changed
      · rcases List.mem_cons.mp (order.mem_iff.mp member) with rfl | elsewhere
        · rcases effect.awaits awaits with ⟨rest, listed, still⟩ |
            ⟨rfl, rfl, expiry, stored, alive⟩ | ⟨due, rfl, free, _⟩
          · exact .inl ⟨rest, List.mem_append_left _ listed, still⟩
          · -- A retry is pending, and it is another task's.
            rcases (holds expiry stored).2 alive with ⟨rest, listed, retries⟩
            rcases List.mem_cons.mp (order.mem_iff.mp listed) with rfl | elsewhere
            · cases retries
            · exact .inl ⟨rest, List.mem_append_right _ elsewhere, retries.awaitsLock⟩
          · exact .inr ⟨index, choice, rfl, ⟨due, found⟩, free⟩
        · exact .inl ⟨stage, List.mem_append_right _ elsewhere, awaits⟩
      · rcases effect.recorded with same | ⟨stage, listed, awaits⟩
        · exact absurd same changed
        · exact .inl ⟨stage, List.mem_append_left _ listed, awaits⟩

/-! ## The last rows are counted -/

/-- In a run from `initial`, a task takes the lock when the rows are those given. -/
def LockTakenWith (settings : BulkSendSettings) (initial : BulkSendAgenda)
    (rows : List BulkMessageSendMessage) (events : List BulkSendEvent) : Prop :=
  ∃ before index choice after current, events = before ++ .advance index choice :: after ∧
    (bulkSendProgram settings).machine.run initial before = some current ∧
    TakesLock current index ∧ current.shared.bulkMessages = rows

theorem pendingRetried_of_run {initial : BulkSendAgenda} {events : List BulkSendEvent}
    (initially : PendingRetried settings initial)
    (ran : (bulkSendProgram settings).machine.run initial events = some agenda) :
    PendingRetried settings agenda := by
  apply (Machine.Reaches.of_run ran).invariant initially
  intro current event next holds _ stepped
  exact holds.step stepped

theorem lockTaken_or_awaited {initial : BulkSendAgenda} {events : List BulkSendEvent}
    (initially : PendingRetried settings initial) (noRows : initial.shared.bulkMessages = [])
    (ran : (bulkSendProgram settings).machine.run initial events = some agenda)
    (rows : agenda.shared.bulkMessages ≠ []) :
    LockTakenWith settings initial agenda.shared.bulkMessages events ∨
      ∃ task ∈ agenda.tasks, task.AwaitsLock := by
  induction events using List.reverseRecOn generalizing agenda with
  | nil =>
      cases ran
      exact absurd noRows rows
  | append_singleton events event induction =>
      rcases Machine.run_append_eq_some ran with ⟨current, earlier, last⟩
      rcases Machine.run_cons_eq_some last with ⟨next, stepped, same⟩
      cases same
      have pending := pendingRetried_of_run initially earlier
      by_cases changed : agenda.shared.bulkMessages = current.shared.bulkMessages
      · rcases induction earlier (changed ▸ rows) with taken | awaited
        · left
          rcases taken with ⟨before, index, choice, after, locking, rfl, ran, takes, same⟩
          exact ⟨before, index, choice, after ++ [event], locking, by simp, ran, takes,
            same.trans changed.symm⟩
        · rcases awaitsLock_step pending stepped (.inl awaited) with
            awaits | ⟨index, choice, rfl, takes⟩
          · exact .inr awaits
          · exact .inl ⟨events, index, choice, [], current, rfl, earlier, takes, changed.symm⟩
      · rcases awaitsLock_step pending stepped (.inr changed) with
          awaits | ⟨index, choice, rfl, takes⟩
        · exact .inr awaits
        · -- A statement that takes the lock leaves no row.
          exfalso
          rcases takes with ⟨⟨due, found⟩, free⟩
          rcases TaskProgram.step_advance_at stepped with
            ⟨task, after, replacing, there, advanced, rfl, _⟩
          cases Option.some.inj (found.symm.trans there)
          exact changed ((ProgressEffect.of_advance advanced).takesLock free).1

theorem startBulkSend_pendingRetried (settings : BulkSendSettings) (project : Uuid) (text : String)
    (filterSnapshot : FilterSnapshot) (rooms : Table Uuid BulkSendRoom) (now : Instant) :
    PendingRetried settings (startBulkSend project text filterSnapshot rooms now) := by
  intro expiry stored
  cases stored

theorem found_of_replaced {index : Nat} {choice : BulkSendChoice} {stage : BulkSendTask}
    (stepped : (bulkSendProgram settings).machine.step agenda (.advance index choice) = some next)
    (replaced : ∀ after replacing, agenda.tasks[index]? = some task →
      agenda.shared.advance settings task choice = some (after, replacing) → replacing = [stage])
    (found : agenda.tasks[index]? = some task) :
    next.tasks[0]? = some stage ∧ 0 < next.tasks.length + 1 - agenda.tasks.length := by
  rcases TaskProgram.step_advance_at stepped with
    ⟨same, after, replacing, there, advanced, rfl, length⟩
  cases Option.some.inj (found.symm.trans there)
  rw [length, replaced after replacing found advanced]
  exact ⟨rfl, Nat.one_pos⟩

theorem counts_of_takesLock {index : Nat} {choice : BulkSendChoice}
    {after : List BulkSendEvent} {final : BulkSendAgenda} (takes : TakesLock agenda index)
    (ran : (bulkSendProgram settings).machine.run agenda (.advance index choice :: after) =
      some final) (executed : final.tasks = []) :
    ∃ between counted chosen rest counting,
      after = between ++ .advance counted chosen :: rest ∧
      (bulkSendProgram settings).Follows agenda index (.advance index choice :: between)
        counting counted ∧
      CountsRows counting counted ∧
      (bulkSendProgram settings).machine.run counting (.advance counted chosen :: rest) =
        some final := by
  rcases takes with ⟨⟨due, found⟩, free⟩
  rcases Machine.run_cons_eq_some ran with ⟨next, stepped, ranNext⟩
  have getting := found_of_replaced stepped (fun _ _ _ advanced =>
    ((ProgressEffect.of_advance advanced).takesLock free).2) found
  rcases TaskProgram.Follows.advanced getting.1 ranNext executed with
    ⟨first, loaded, loads, later, loading, rfl, followsFirst, there, ranLoading⟩
  rcases Machine.run_cons_eq_some ranLoading with ⟨loadedNext, steppedLoading, ranLoaded⟩
  have aggregating := found_of_replaced steppedLoading (fun _ _ _ advanced =>
    replacing_of_gettingBulkSend advanced) there
  rcases TaskProgram.Follows.advanced aggregating.1 ranLoaded executed with
    ⟨second, counted, chosen, rest, counting, rfl, followsSecond, counts, ranCounting⟩
  refine ⟨first ++ .advance loaded loads :: second, counted, chosen, rest, counting, by simp,
    ?_, ⟨_, counts⟩, ranCounting⟩
  exact .own stepped getting.2
    (followsFirst.trans (.own steppedLoading aggregating.2 followsSecond))

/-- Once all tasks have been executed, one of them has taken the lock after the last
outcome row had been left, and has gone on to count the rows. -/
theorem last_rows_are_counted (settings : BulkSendSettings) (project : Uuid) (text : String)
    (filterSnapshot : FilterSnapshot) (rooms : Table Uuid BulkSendRoom) (now : Instant)
    (events : List BulkSendEvent) (final : BulkSendAgenda)
    (ran : (bulkSendProgram settings).machine.run
      (startBulkSend project text filterSnapshot rooms now) events = some final)
    (executed : final.tasks = []) (rows : final.shared.bulkMessages ≠ []) :
    ∃ before index choice between counted chosen rest locking counting,
      events = before ++ .advance index choice :: between ++ .advance counted chosen :: rest ∧
      (bulkSendProgram settings).machine.run
        (startBulkSend project text filterSnapshot rooms now) before = some locking ∧
      TakesLock locking index ∧
      locking.shared.bulkMessages = final.shared.bulkMessages ∧
      (bulkSendProgram settings).Follows locking index (.advance index choice :: between)
        counting counted ∧
      CountsRows counting counted ∧
      counting.shared.bulkMessages = final.shared.bulkMessages := by
  rcases lockTaken_or_awaited
    (startBulkSend_pendingRetried settings project text filterSnapshot rooms now) rfl ran rows with
    ⟨before, index, choice, after, locking, rfl, ranLocking, takes, same⟩ | ⟨task, member, _⟩
  · rcases Machine.run_append_eq_some ran with ⟨reached, earlier, onward⟩
    cases Option.some.inj (ranLocking.symm.trans earlier)
    rcases counts_of_takesLock takes onward executed with
      ⟨between, counted, chosen, rest, counting, rfl, follows, counts, ranCounting⟩
    have grown := rows_of_run follows.run
    have ends := rows_of_run ranCounting
    have longest : final.shared.bulkMessages.length ≤ counting.shared.bulkMessages.length := by
      rw [← same]
      exact grown.length_le
    exact ⟨before, index, choice, between, counted, chosen, rest, locking, counting, by simp,
      ranLocking, takes, same, follows, counts, ends.eq_of_length_le longest⟩
  · rw [executed] at member
    cases member

/-- The notification of the first room raises an exception, so that it gets two outcome
rows. The progress of the second room meets the cooldown. -/
def greetTwoRoomsUnnotified : List BulkSendEvent :=
  proceedTimes 6 ++ [.advance 1 .succeeds] ++ proceedTimes 6 ++
    [.advance 0 (.raises ⟨"timeout", ""⟩)] ++ proceedTimes 19 ++ [.surround (.tick 1)] ++
    proceedTimes 3

theorem last_rows_are_counted_by_retry :
    ∃ before index locking, (bulkSendProgram everySecond).machine.run
        (startGreeting (oneWaitingRoom.insert 2 waitingRoom)) before = some locking ∧
      TakesLock locking index ∧
      locking.shared.bulkMessages.map BulkMessageSendMessage.room = [2, 1, 1] := by
  have ends : ((bulkSendProgram everySecond).machine.run
      (startGreeting (oneWaitingRoom.insert 2 waitingRoom)) greetTwoRoomsUnnotified).map
        (fun final => (final.tasks,
          final.shared.bulkMessages.map BulkMessageSendMessage.room)) =
      some ([], [2, 1, 1]) := by
    decide
  rcases Option.map_eq_some_iff.mp ends with ⟨final, ran, same⟩
  rcases Prod.mk.inj same with ⟨executed, rooms⟩
  have rows : final.shared.bulkMessages ≠ [] := by
    intro empty
    rw [empty] at rooms
    cases rooms
  rcases last_rows_are_counted everySecond 0 "hello" waitingRooms
    (oneWaitingRoom.insert 2 waitingRoom) 0 greetTwoRoomsUnnotified final ran executed rows with
    ⟨before, index, _, _, _, _, _, locking, _, _, ranLocking, takes, counted, _⟩
  exact ⟨before, index, locking, ranLocking, takes, counted ▸ rooms⟩

end ChatsEngine.Messages
