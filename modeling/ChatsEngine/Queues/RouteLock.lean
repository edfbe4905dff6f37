import ChatsEngine.Queues.RouteTasks

/-! # The routing lock

Two executions with the same lock key exclude each other as long as each of them
deletes the key before it expires. A queue and its sector have different keys. -/

namespace ChatsEngine.Queues

/-- The execution has acquired the lock key, and has not deleted it yet. -/
def RouteStage.Guarded (key : CacheKey) (stage : RouteStage) : Prop :=
  ∃ task ∈ stage.locked, task.lockKey = key

instance (key : CacheKey) (stage : RouteStage) : Decidable (stage.Guarded key) := by
  unfold RouteStage.Guarded
  infer_instance

variable {Pid : Type} {settings : RouteSettings} {state next : RouteState}
  {stage : RouteStage} {rest : Option RouteStage} {choice : RouteChoice} {key : CacheKey}

/-- The clock does not reach the time of expiry of the key while an execution
that has acquired it has not deleted it yet. -/
def ReleasesInTime (key : CacheKey) (pool : RoutePool Pid) : RouteEvent Pid → Prop
  | .start _ _ => True
  | .advance _ _ => True
  | .kill _ => True
  | .surround (.tick elapsed) =>
      ∀ pid, ∀ stage ∈ pool.process pid, stage.Guarded key →
        pool.shared.cache.Alive (pool.shared.now + elapsed) key

instance [Fintype Pid] (key : CacheKey) (pool : RoutePool Pid) :
    (event : RouteEvent Pid) → Decidable (ReleasesInTime key pool event)
  | .start _ _ => inferInstanceAs (Decidable True)
  | .advance _ _ => inferInstanceAs (Decidable True)
  | .kill _ => inferInstanceAs (Decidable True)
  | .surround (.tick elapsed) =>
      inferInstanceAs (Decidable (∀ pid, ∀ stage ∈ pool.process pid, stage.Guarded key →
        pool.shared.cache.Alive (pool.shared.now + elapsed) key))

/-- What a statement does to a lock key and to the guard of its execution. -/
inductive LockEffect (settings : RouteSettings) (key : CacheKey) (state : RouteState)
    (stage : RouteStage) (next : RouteState) (rest : Option RouteStage) : Prop
  | acquired :
      ¬state.cache.Alive state.now key → ¬stage.Guarded key →
      next.cache key = some (state.now + settings.cooldownMaxTime) →
      LockEffect settings key state stage next rest
  | released :
      stage.Guarded key → rest = none → LockEffect settings key state stage next rest
  | kept :
      next.cache key = state.cache key →
      (∀ remaining, rest = some remaining → remaining.Guarded key → stage.Guarded key) →
      LockEffect settings key state stage next rest

theorem RouteStage.not_guarded (unlocked : stage.locked = none) : ¬stage.Guarded key := by
  intro guards
  rcases guards with ⟨_, isTask, _⟩
  rw [unlocked] at isTask
  cases isTask

theorem LockEffect.of_unlocked {remaining : RouteStage}
    (sameKey : next.cache key = state.cache key) (unlocked : remaining.locked = none) :
    LockEffect settings key state stage next (some remaining) := by
  apply LockEffect.kept sameKey
  intro goingOn isRemaining guards
  cases isRemaining
  exact absurd guards (RouteStage.not_guarded unlocked)

theorem LockEffect.of_end (sameKey : next.cache key = state.cache key) :
    LockEffect settings key state stage next none :=
  .kept sameKey fun _ impossible => by cases impossible

theorem RouteStep.lockEffect (lockTask : RouteTask)
    (step : RouteStep settings state stage next rest) :
    next.now = state.now ∧
      LockEffect settings lockTask.lockKey state stage next rest := by
  cases step with
  | fetch waiting due => exact ⟨rfl, .of_unlocked rfl rfl⟩
  | find => exact ⟨rfl, .of_unlocked rfl rfl⟩
  | miss => exact ⟨rfl, .of_end rfl⟩
  | @acquire task cache added =>
      by_cases same : task.lockKey = lockTask.lockKey
      · rw [same] at added
        exact ⟨rfl, .acquired (TtlCache.not_alive_of_add added) (RouteStage.not_guarded rfl)
          (TtlCache.added_self added)⟩
      · have sameKey := TtlCache.added_other added (Ne.symm same)
        refine ⟨rfl, .kept sameKey ?_⟩
        intro remaining isRemaining guards
        cases isRemaining
        rcases guards with ⟨guarded, isTask, isKey⟩
        rw [RouteStage.locked_afterAcquire] at isTask
        cases isTask
        exact absurd isKey same
  | occupied taken => exact ⟨rfl, .of_unlocked rfl rfl⟩
  | @proceed task before after locked stillLocked =>
      refine ⟨rfl, .kept rfl ?_⟩
      intro remaining isRemaining guards
      cases isRemaining
      rcases guards with ⟨guarded, isTask, isKey⟩
      rw [stillLocked] at isTask
      cases isTask
      exact ⟨task, locked, isKey⟩
  | @release task =>
      by_cases same : task.lockKey = lockTask.lockKey
      · exact ⟨rfl, .released ⟨task, rfl, same⟩ rfl⟩
      · exact ⟨rfl, .of_end (TtlCache.delete_other (Ne.symm same))⟩
  | @mark task cache added =>
      have sameKey := TtlCache.added_other added (lockTask.lockKey_ne_pendingKey task)
      exact ⟨rfl, .of_unlocked sameKey rfl⟩
  | alreadyPending taken => exact ⟨rfl, .of_end rfl⟩
  | schedule => exact ⟨rfl, .of_end rfl⟩

/-- Whoever is guarded by the key has it alive in the cache, and is alone. -/
def lockOutline [DecidableEq Pid] (positive : 0 < settings.cooldownMaxTime)
    (lockTask : RouteTask) :
    PairOutline (routeProgram settings)
      (ReleasesInTime lockTask.lockKey : RoutePool Pid → RouteEvent Pid → Prop) where
  Invariant := fun _ => True
  Assertion := fun state stage =>
    stage.Guarded lockTask.lockKey → state.cache.Alive state.now lockTask.lockKey
  Compatible := fun left right =>
    ¬(left.Guarded lockTask.lockKey ∧ right.Guarded lockTask.lockKey)
  symmetric := fun notBoth both => notBoth both.symm
  enter := by
    intro state start _ guarded
    cases start <;> exact absurd guarded (RouteStage.not_guarded rfl)
  enterCompatible := by
    intro start stage both
    cases start <;> exact absurd both.1 (RouteStage.not_guarded rfl)
  advance := by
    intro pool pid choice stage state rest _ _ _ assertion advanced
    refine ⟨trivial, ?_⟩
    intro remaining remains guarded
    rcases (routeStep_of_advance advanced).lockEffect lockTask with
      ⟨sameTime, effect⟩
    cases effect with
    | acquired _ _ added =>
        refine ⟨_, added, ?_⟩
        rw [sameTime]
        omega
    | released _ ended => cases ended.symm.trans remains
    | kept sameKey sameGuard =>
        rw [sameTime, TtlCache.alive_iff_of_eq sameKey]
        exact assertion (sameGuard remaining remains guarded)
  advanceOther := by
    intro pool pid choice stage state rest _ _ _ assertion advanced other otherStage _ _
      otherAssertion notBoth
    rcases (routeStep_of_advance advanced).lockEffect lockTask with
      ⟨sameTime, effect⟩
    cases effect with
    | acquired notAlive _ _ =>
        have otherFree : ¬otherStage.Guarded lockTask.lockKey :=
          fun guarded => notAlive (otherAssertion guarded)
        exact ⟨fun guarded => absurd guarded otherFree,
          fun _ _ both => otherFree both.2⟩
    | released guarded ended =>
        refine ⟨fun otherGuarded => absurd ⟨guarded, otherGuarded⟩ notBoth, ?_⟩
        intro remaining remains
        cases ended.symm.trans remains
    | kept sameKey sameGuard =>
        constructor
        · intro guarded
          rw [sameTime, TtlCache.alive_iff_of_eq sameKey]
          exact otherAssertion guarded
        · intro remaining remains both
          exact notBoth ⟨sameGuard remaining remains both.1, both.2⟩
  surround := by
    intro pool event state meets _ surrounded
    refine ⟨trivial, ?_⟩
    intro pid stage running _ guarded
    cases event with
    | tick elapsed =>
        cases surrounded
        exact meets pid stage running guarded

/-- Executions with one lock key that release it in time are not inside
`route_rooms` at the same time, for whatever queues. -/
theorem route_lock_excludes [DecidableEq Pid] (positive : 0 < settings.cooldownMaxTime)
    {initial : RouteState} {final : RoutePool Pid} {task otherTask : RouteTask}
    (sameKey : task.lockKey = otherTask.lockKey)
    (reaches : (routeProgram settings).machine.Reaches (ReleasesInTime task.lockKey)
      (Pool.idle initial) final)
    {pid other : Pid} {queue otherQueue : Uuid} {queues otherQueues : List Uuid}
    (inside : final.process pid = some (.routing task queue queues))
    (otherInside : final.process other = some (.routing otherTask otherQueue otherQueues)) :
    pid = other := by
  have holds := (lockOutline positive task).holds_of_reaches reaches
    ((lockOutline positive task).holds_of_isIdle trivial (Pool.idle_isIdle initial))
  by_contra different
  exact holds.compatible pid other _ _ different inside otherInside
    ⟨⟨task, rfl, rfl⟩, ⟨otherTask, rfl, sameKey.symm⟩⟩

/-! ## A queue that is routed together with its sector -/

def routeQueue : List (RouteEvent Worker) :=
  [.start .first (.immediate (.routeQueueRooms 1)), .advance .first .done,
    .advance .first .done, .advance .first .done]

def routeItsSector : List (RouteEvent Worker) :=
  [.start .second (.immediate (.routeSectorRooms 2)), .advance .second .done,
    .advance .second .done, .advance .second (.queues [1]), .advance .second .done]

theorem queue_routed_with_its_sector :
    ¬ ∀ (settings : RouteSettings) (initial : RouteState) (final : RoutePool Worker),
      (routeProgram settings).machine.Reaches Machine.anyStep (Pool.idle initial) final →
      ∀ (pid other : Worker) (task otherTask : RouteTask) (queue : Uuid)
        (queues otherQueues : List Uuid),
        final.process pid = some (.routing task queue queues) →
        final.process other = some (.routing otherTask queue otherQueues) → pid = other := by
  intro excludes
  have ends : ((routeProgram defaultSettings).machine.run (Pool.idle (.fresh 0))
      (routeQueue ++ routeItsSector)).map (fun pool =>
        (pool.process .first, pool.process .second)) =
      some (some (.routing (.routeQueueRooms 1) 1 []),
        some (.routing (.routeSectorRooms 2) 1 [])) := by
    decide
  rcases Option.map_eq_some_iff.mp ends with ⟨final, ran, observed⟩
  rcases Prod.mk.inj observed with ⟨inside, otherInside⟩
  cases excludes defaultSettings (.fresh 0) final (.of_run ran) .first .second _ _ 1 [] []
    inside otherInside

/-- An execution that outlives the cooldown loses its lock, and the next one does not wait for it. -/
example : ((routeProgram defaultSettings).machine.run (Pool.idle (.fresh 0))
    (routeQueue ++ [.surround (.tick defaultSettings.cooldownMaxTime),
      .start .second (.immediate (.routeQueueRooms 1)), .advance .second .done,
      .advance .second .done, .advance .second .done])).map (fun pool =>
        (pool.process .first, pool.process .second)) =
    some (some (.routing (.routeQueueRooms 1) 1 []),
      some (.routing (.routeQueueRooms 1) 1 [])) := by
  decide

/-- The second worker asks for the lock that the first one holds. -/
theorem route_lock_excludes_second_worker :
    ∃ final, (routeProgram defaultSettings).machine.runMeeting
        (ReleasesInTime (.routeLock 1)) (Pool.idle (.fresh 0))
        (routeQueue ++ [.surround (.tick 5), .start .second (.immediate (.routeQueueRooms 1)),
          .advance .second .done, .advance .second .done]) = some final ∧
      ∀ other task queue queues, task.lockKey = .routeLock 1 →
        final.process other = some (.routing task queue queues) → other = Worker.first := by
  have ends : ((routeProgram defaultSettings).machine.runMeeting
      (ReleasesInTime (.routeLock 1)) (Pool.idle (.fresh 0))
      (routeQueue ++ [.surround (.tick 5), .start .second (.immediate (.routeQueueRooms 1)),
        .advance .second .done, .advance .second .done])).map
      (fun pool => pool.process .first) =
      some (some (.routing (.routeQueueRooms 1) 1 [])) := by
    decide
  rcases Option.map_eq_some_iff.mp ends with ⟨final, ran, inside⟩
  refine ⟨final, ran, ?_⟩
  intro other task queue queues isLock otherInside
  have positive : 0 < defaultSettings.cooldownMaxTime := by decide
  have reaches := Machine.Reaches.of_runMeeting ran
  rw [← isLock] at reaches
  exact route_lock_excludes positive isLock reaches otherInside inside

end ChatsEngine.Queues
