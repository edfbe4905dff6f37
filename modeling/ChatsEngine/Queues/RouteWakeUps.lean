import ChatsEngine.Queues.RouteTasks

/-! # Wake-ups of the router

An execution that finds the lock taken either schedules a retry, or finds the
pending key of another execution that does. The pending key expires no later than
that retry starts, so whenever an execution is refused, an attempt to acquire the
lock is still to come. -/

namespace ChatsEngine.Queues

variable {Pid : Type} {settings : RouteSettings} {task : RouteTask}

theorem mem_eraseIdx_or_eq {Item : Type} {items : List Item} {position : Nat}
    {item erased : Item} (member : item ∈ items)
    (found : items[position]? = some erased) :
    item = erased ∨ item ∈ items.eraseIdx position := by
  rcases List.mem_iff_getElem?.mp member with ⟨index, isItem⟩
  by_cases same : index = position
  · subst same
    exact .inl (Option.some.inj (isItem.symm.trans found))
  · exact .inr (List.mem_eraseIdx_iff_getElem?.mpr ⟨index, same, isItem⟩)

/-- The executions are not killed, and find the task's queue in the database. -/
def Undisturbed (task : RouteTask) (pool : RoutePool Pid) : RouteEvent Pid → Prop
  | .start _ _ => True
  | .advance pid choice => pool.process pid = some (.finding task) → choice ≠ .missing
  | .kill _ => False
  | .surround _ => True

instance [DecidableEq Pid] (task : RouteTask) (pool : RoutePool Pid) :
    (event : RouteEvent Pid) → Decidable (Undisturbed task pool event)
  | .start _ _ => inferInstanceAs (Decidable True)
  | .advance pid choice =>
      inferInstanceAs (Decidable (pool.process pid = some (.finding task) → choice ≠ .missing))
  | .kill _ => inferInstanceAs (Decidable False)
  | .surround _ => inferInstanceAs (Decidable True)

structure Executed (task : RouteTask) (pool : RoutePool Pid) : Prop where
  returned : pool.IsIdle
  started : ∀ eta, (task, eta) ∉ pool.shared.deferred

/-- The execution will try to acquire the task's lock at `from_` or later, or it
will schedule an execution that does. -/
def RouteStage.Promises (settings : RouteSettings) (task : RouteTask)
    (now from_ : Nat) : RouteStage → Prop
  | .fetching => False
  | .finding own => own = task ∧ from_ ≤ now
  | .acquiring own => own = task ∧ from_ ≤ now
  | .listing _ => False
  | .constructing _ _ => False
  | .routing _ _ _ => False
  | .releasing _ => False
  | .marking own => own = task ∧ from_ ≤ now
  | .scheduling own since =>
      own = task ∧ since ≤ now ∧ from_ ≤ since + settings.cooldownRetryDelay

theorem RouteStage.Promises.mono {now later from_ earlier : Nat} {stage : RouteStage}
    (promises : stage.Promises settings task now from_) (time : now ≤ later)
    (weaker : earlier ≤ from_) : stage.Promises settings task later earlier := by
  cases stage with
  | finding own => exact ⟨promises.1, by have := promises.2; omega⟩
  | acquiring own => exact ⟨promises.1, by have := promises.2; omega⟩
  | marking own => exact ⟨promises.1, by have := promises.2; omega⟩
  | scheduling own since =>
      rcases promises with ⟨isTask, past, promised⟩
      exact ⟨isTask, by omega, by omega⟩
  | _ => exact promises.elim

/-- An attempt to acquire the task's lock at `from_` or later is still to come. -/
def Promised (settings : RouteSettings) (task : RouteTask) (pool : RoutePool Pid)
    (from_ : Nat) : Prop :=
  (∃ eta, (task, eta) ∈ pool.shared.deferred ∧ from_ ≤ eta) ∨
  ∃ pid, ∃ stage ∈ pool.process pid, stage.Promises settings task pool.shared.now from_

theorem Promised.weaken {pool : RoutePool Pid} {from_ earlier : Nat}
    (promised : Promised settings task pool from_) (weaker : earlier ≤ from_) :
    Promised settings task pool earlier := by
  rcases promised with ⟨eta, deferred, late⟩ | ⟨pid, stage, running, promises⟩
  · exact .inl ⟨eta, deferred, weaker.trans late⟩
  · exact .inr ⟨pid, stage, running, promises.mono le_rfl weaker⟩

/-- What holds of the refusals and the pending key throughout a run. -/
structure WakeUpsPromised (settings : RouteSettings) (task : RouteTask)
    (pool : RoutePool Pid) : Prop where
  past : ∀ at_, .refused task at_ ∈ pool.shared.log → at_ ≤ pool.shared.now
  pending : ∀ expiry ∈ pool.shared.cache task.pendingKey, pool.shared.now < expiry →
    Promised settings task pool expiry
  kept : ∀ at_, .refused task at_ ∈ pool.shared.log →
    (∃ later, .acquired task later ∈ pool.shared.log ∧ at_ ≤ later) ∨
      Promised settings task pool at_

theorem wakeUpsPromised_fresh (settings : RouteSettings) (task : RouteTask) (now : Nat) :
    WakeUpsPromised settings task (Pool.idle (.fresh now) : RoutePool Pid) where
  past := fun _ impossible => by cases impossible
  pending := fun _ impossible => by cases impossible
  kept := fun _ impossible => by cases impossible

theorem RouteStep.mem_log {state next : RouteState} {stage : RouteStage}
    {rest : Option RouteStage} {entry : RouteRecord}
    (step : RouteStep settings state stage next rest) (member : entry ∈ state.log) :
    entry ∈ next.log := by
  cases step with
  | schedule => exact List.mem_cons_of_mem _ (List.mem_cons_of_mem _ member)
  | _ => first | exact member | exact List.mem_cons_of_mem _ member

theorem RouteStep.now_eq {state next : RouteState} {stage : RouteStage}
    {rest : Option RouteStage} (step : RouteStep settings state stage next rest) :
    next.now = state.now := by
  cases step <;> rfl

theorem RouteStep.mem_deferred {state next : RouteState} {stage : RouteStage}
    {rest : Option RouteStage} {eta : Nat}
    (step : RouteStep settings state stage next rest)
    (member : (task, eta) ∈ state.deferred) :
    (task, eta) ∈ next.deferred ∨ rest = some (.finding task) ∧ eta ≤ state.now := by
  cases step with
  | fetch waiting due =>
      rcases mem_eraseIdx_or_eq member waiting with same | remains
      · cases same
        exact .inr ⟨rfl, due⟩
      · exact .inl remains
  | schedule => exact .inl (List.mem_append_left _ member)
  | _ => exact .inl member

theorem RouteStep.pendingKey {state next : RouteState} {stage : RouteStage}
    {rest : Option RouteStage} (step : RouteStep settings state stage next rest)
    (task : RouteTask) :
    next.cache task.pendingKey = state.cache task.pendingKey ∨
      ¬state.cache.Alive state.now task.pendingKey ∧ stage = .marking task ∧
        rest = some (.scheduling task state.now) ∧
        next.cache task.pendingKey = some (state.now + settings.cooldownRetryDelay) ∧
        next.log = .marked task state.now :: state.log := by
  cases step with
  | acquire added =>
      exact .inl (TtlCache.added_other added (RouteTask.lockKey_ne_pendingKey _ _).symm)
  | release => exact .inl (TtlCache.delete_other (RouteTask.lockKey_ne_pendingKey _ _).symm)
  | @mark own cache added =>
      by_cases same : task.pendingKey = own.pendingKey
      · cases RouteTask.pendingKey_inj same
        exact .inr ⟨TtlCache.not_alive_of_add added, rfl, rfl, TtlCache.added_self added, rfl⟩
      · exact .inl (TtlCache.added_other added same)
  | _ => exact .inl rfl

theorem RouteStep.refused {state next : RouteState} {stage : RouteStage}
    {rest : Option RouteStage} {at_ : Nat}
    (step : RouteStep settings state stage next rest)
    (member : .refused task at_ ∈ next.log) :
    .refused task at_ ∈ state.log ∨
      at_ = state.now ∧
        (state.cache.Alive state.now task.pendingKey ∧ stage = .marking task ∨
          (task, state.now + settings.cooldownRetryDelay) ∈ next.deferred) := by
  cases step with
  | acquire added =>
      rcases List.mem_cons.mp member with impossible | before
      · cases impossible
      · exact .inl before
  | mark added =>
      rcases List.mem_cons.mp member with impossible | before
      · cases impossible
      · exact .inl before
  | alreadyPending taken =>
      rcases List.mem_cons.mp member with same | before
      · cases same
        exact .inr ⟨rfl, .inl ⟨taken, rfl⟩⟩
      · exact .inl before
  | schedule =>
      rcases List.mem_cons.mp member with same | earlier
      · cases same
        exact .inr ⟨rfl, .inr (List.mem_append_right _ List.mem_cons_self)⟩
      · rcases List.mem_cons.mp earlier with impossible | before
        · cases impossible
        · exact .inl before
  | _ => exact .inl member

section Advance

variable [DecidableEq Pid] {pool : RoutePool Pid} {pid : Pid} {stage : RouteStage}
  {next : RouteState} {rest : Option RouteStage} {from_ : Nat}

theorem promised_other {other : Pid} {otherStage : RouteStage} (different : other ≠ pid)
    (running : pool.process other = some otherStage)
    (promises : otherStage.Promises settings task pool.shared.now from_)
    (time : pool.shared.now ≤ next.now) :
    Promised settings task ({ pool with shared := next }.set pid rest) from_ := by
  refine .inr ⟨other, otherStage, ?_, promises.mono time le_rfl⟩
  rw [Pool.set_process_other _ _ different]
  exact running

theorem RouteStep.promises {state : RouteState}
    (step : RouteStep settings state stage next rest)
    (promises : stage.Promises settings task state.now from_)
    (found : stage = .finding task → rest ≠ none) :
    (∃ remaining, rest = some remaining ∧
      remaining.Promises settings task next.now from_) ∨
    (∃ eta, (task, eta) ∈ next.deferred ∧ from_ ≤ eta) ∨
    (.acquired task state.now ∈ next.log ∧ from_ ≤ state.now) ∨
    (stage = .marking task ∧ state.cache.Alive state.now task.pendingKey ∧
      next.deferred = state.deferred ∧ next.now = state.now ∧ from_ ≤ state.now) := by
  cases step with
  | find => exact .inl ⟨_, rfl, promises⟩
  | miss =>
      rcases promises with ⟨rfl, _⟩
      exact absurd rfl (found rfl)
  | acquire added =>
      rcases promises with ⟨rfl, late⟩
      exact .inr (.inr (.inl ⟨List.mem_cons_self, late⟩))
  | occupied taken => exact .inl ⟨_, rfl, promises⟩
  | @mark own cache added =>
      rcases promises with ⟨rfl, late⟩
      exact .inl ⟨_, rfl, rfl, le_rfl, late.trans (Nat.le_add_right _ _)⟩
  | alreadyPending taken =>
      rcases promises with ⟨rfl, late⟩
      exact .inr (.inr (.inr ⟨rfl, taken, rfl, rfl, late⟩))
  | @schedule own since =>
      rcases promises with ⟨rfl, past, late⟩
      refine .inr (.inl ⟨state.now + settings.cooldownRetryDelay, ?_, by omega⟩)
      exact List.mem_append_right _ List.mem_cons_self
  | @proceed own before after locked stillLocked =>
      cases stage with
      | finding _ => cases locked
      | acquiring _ => cases locked
      | marking _ => cases locked
      | scheduling _ _ => cases locked
      | _ => exact promises.elim
  | fetch waiting due => exact promises.elim
  | release => exact promises.elim

theorem promised_of_alive (wakeUps : WakeUpsPromised settings task pool)
    (alive : pool.shared.cache.Alive pool.shared.now task.pendingKey)
    (marking : pool.process pid = some (.marking task))
    (sameDeferred : next.deferred = pool.shared.deferred)
    (sameTime : next.now = pool.shared.now) :
    Promised settings task ({ pool with shared := next }.set pid rest) pool.shared.now := by
  rcases alive with ⟨expiry, cached, late⟩
  rcases wakeUps.pending expiry cached late with
    ⟨eta, deferred, promised⟩ | ⟨other, stage, running, promises⟩
  · refine .inl ⟨eta, ?_, by omega⟩
    rw [Pool.set_shared, sameDeferred]
    exact deferred
  · have different : other ≠ pid := by
      intro same
      subst same
      cases Option.some.inj (running.symm.trans marking)
      have := promises.2
      omega
    exact promised_other different running (promises.mono le_rfl (Nat.le_of_lt late))
      (Nat.le_of_eq sameTime.symm)

theorem promised_advance (wakeUps : WakeUpsPromised settings task pool)
    (running : pool.process pid = some stage)
    (found : stage = .finding task → rest ≠ none)
    (step : RouteStep settings pool.shared stage next rest)
    (promised : Promised settings task pool from_) :
    Promised settings task ({ pool with shared := next }.set pid rest) from_ ∨
      .acquired task pool.shared.now ∈ next.log ∧ from_ ≤ pool.shared.now := by
  have sameTime := step.now_eq
  rcases promised with ⟨eta, deferred, late⟩ | ⟨other, otherStage, otherRunning, promises⟩
  · rcases step.mem_deferred deferred with remains | ⟨fetched, due⟩
    · exact .inl (.inl ⟨eta, remains, late⟩)
    · left
      refine .inr ⟨pid, .finding task, ?_, rfl, ?_⟩
      · rw [Pool.set_process_self]
        exact fetched
      · rw [Pool.set_shared, sameTime]
        exact late.trans due
  · by_cases same : other = pid
    · subst same
      cases Option.some.inj (running.symm.trans otherRunning)
      rcases step.promises promises found with
        ⟨remaining, remains, still⟩ | deferred | acquired |
        ⟨isMarking, alive, sameDeferred, _, late⟩
      · left
        refine .inr ⟨other, remaining, ?_, still⟩
        rw [Pool.set_process_self]
        exact remains
      · exact .inl (.inl deferred)
      · exact .inr acquired
      · subst isMarking
        exact .inl ((promised_of_alive wakeUps alive running sameDeferred sameTime).weaken late)
    · exact .inl (promised_other same otherRunning promises (Nat.le_of_eq sameTime.symm))

theorem wakeUpsPromised_advance (wakeUps : WakeUpsPromised settings task pool)
    (running : pool.process pid = some stage)
    (found : stage = .finding task → rest ≠ none)
    (step : RouteStep settings pool.shared stage next rest) :
    WakeUpsPromised settings task ({ pool with shared := next }.set pid rest) := by
  have sameTime := step.now_eq
  constructor
  · intro at_ member
    rw [Pool.set_shared, sameTime]
    rcases step.refused member with before | ⟨isNow, _⟩
    · exact wakeUps.past at_ before
    · exact Nat.le_of_eq isNow
  · intro expiry cached late
    rw [Pool.set_shared] at cached late
    rw [sameTime] at late
    rcases step.pendingKey task with same | ⟨_, _, remains, added, _⟩
    · rw [same] at cached
      rcases promised_advance wakeUps running found step
        (wakeUps.pending expiry cached late) with promised | ⟨_, early⟩
      · exact promised
      · omega
    · rw [added, Option.mem_some_iff] at cached
      refine .inr ⟨pid, .scheduling task pool.shared.now, ?_, rfl, ?_, ?_⟩
      · rw [Pool.set_process_self]
        exact remains
      · rw [Pool.set_shared, sameTime]
      · omega
  · intro at_ member
    rcases step.refused member with before | ⟨rfl, ⟨alive, isMarking⟩ | deferred⟩
    · rcases wakeUps.kept at_ before with ⟨later, acquired, late⟩ | promised
      · exact .inl ⟨later, step.mem_log acquired, late⟩
      · rcases promised_advance wakeUps running found step promised with
          still | ⟨acquired, late⟩
        · exact .inr still
        · exact .inl ⟨_, acquired, late⟩
    · subst isMarking
      rcases alive with ⟨expiry, cached, late⟩
      rcases promised_advance wakeUps running found step
        (wakeUps.pending expiry cached late) with promised | ⟨_, early⟩
      · exact .inr (promised.weaken (Nat.le_of_lt late))
      · omega
    · exact .inr (.inl ⟨_, deferred, Nat.le_add_right _ _⟩)

end Advance

theorem missing_of_advance {state next : RouteState} {choice : RouteChoice}
    (advanced : advance settings state (.finding task) choice = some (next, none)) :
    choice = .missing := by
  cases choice with
  | missing => rfl
  | _ => cases advanced

theorem wakeUpsPromised_step [DecidableEq Pid] {pool next : RoutePool Pid}
    {event : RouteEvent Pid} (wakeUps : WakeUpsPromised settings task pool)
    (meets : Undisturbed task pool event)
    (stepped : (routeProgram settings).machine.step pool event = some next) :
    WakeUpsPromised settings task next := by
  cases event with
  | start pid start =>
      rcases Program.step_start stepped with ⟨free, rfl⟩
      have promised : ∀ {from_}, Promised settings task pool from_ →
          Promised settings task (pool.set pid (some start.enter)) from_ := by
        intro from_ before
        rcases before with deferred | ⟨other, stage, running, promises⟩
        · exact .inl deferred
        · have different : other ≠ pid := by
            intro same
            subst same
            cases running.symm.trans free
          exact promised_other different running promises le_rfl
      refine ⟨wakeUps.past, fun expiry cached late =>
        promised (wakeUps.pending expiry cached late), ?_⟩
      intro at_ member
      exact (wakeUps.kept at_ member).imp id promised
  | advance pid choice =>
      rcases Program.step_advance stepped with ⟨stage, state, rest, running, advanced, rfl⟩
      apply wakeUpsPromised_advance wakeUps running ?_ (routeStep_of_advance advanced)
      intro isFinding ended
      subst isFinding ended
      exact meets running (missing_of_advance advanced)
  | kill pid => exact meets.elim
  | surround surrounding =>
      rcases Program.step_surround stepped with ⟨state, surrounded, rfl⟩
      cases surrounding with
      | tick elapsed =>
          cases surrounded
          have promised : ∀ {from_}, Promised settings task pool from_ →
              Promised settings task { pool with
                shared := { pool.shared with now := pool.shared.now + elapsed } } from_ := by
            intro from_ before
            rcases before with deferred | ⟨other, stage, running, promises⟩
            · exact .inl deferred
            · exact .inr ⟨other, stage, running,
                promises.mono (Nat.le_add_right _ _) le_rfl⟩
          constructor
          · intro at_ member
            exact (wakeUps.past at_ member).trans (Nat.le_add_right _ _)
          · intro expiry cached late
            exact promised (wakeUps.pending expiry cached (by
              have : pool.shared.now + elapsed < expiry := late
              omega))
          · intro at_ member
            exact (wakeUps.kept at_ member).imp id promised

/-- Once everything has been executed, each refusal has been followed by an
execution that acquired the lock. -/
theorem acquired_after_refusal {pool : RoutePool Pid}
    (wakeUps : WakeUpsPromised settings task pool) (executed : Executed task pool) {at_ : Nat}
    (refused : .refused task at_ ∈ pool.shared.log) :
    ∃ later, .acquired task later ∈ pool.shared.log ∧ at_ ≤ later := by
  rcases wakeUps.kept at_ refused with acquired | ⟨eta, deferred, _⟩ | ⟨pid, stage, running, _⟩
  · exact acquired
  · exact absurd deferred (executed.started eta)
  · rw [executed.returned pid] at running
    cases running

end ChatsEngine.Queues
