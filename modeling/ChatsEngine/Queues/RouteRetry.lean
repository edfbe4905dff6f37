import ChatsEngine.Queues.RouteWakeUps

/-! # Deferred retries

The pending key admits one deferred retry at a time, as long as executions
schedule their retries before the key that they have set expires. -/

namespace ChatsEngine.Queues

variable {Pid : Type} {settings : RouteSettings} {task : RouteTask}

def RouteRecord.RetriedWithin (task : RouteTask) (from_ until_ : Nat) : RouteRecord → Prop
  | .acquired _ _ => False
  | .marked _ _ => False
  | .retried own _ at_ => own = task ∧ from_ ≤ at_ ∧ at_ < until_
  | .refused _ _ => False

instance (task : RouteTask) (from_ until_ : Nat) :
    (entry : RouteRecord) → Decidable (entry.RetriedWithin task from_ until_)
  | .acquired _ _ => inferInstanceAs (Decidable False)
  | .marked _ _ => inferInstanceAs (Decidable False)
  | .retried own _ at_ => inferInstanceAs (Decidable (own = task ∧ from_ ≤ at_ ∧ at_ < until_))
  | .refused _ _ => inferInstanceAs (Decidable False)

/-- Whether the entry is the retry for which the pending key was set at `since`. -/
def RouteRecord.RetriedFor (task : RouteTask) (since : Nat) : RouteRecord → Prop
  | .acquired _ _ => False
  | .marked _ _ => False
  | .retried own for_ _ => own = task ∧ for_ = since
  | .refused _ _ => False

instance (task : RouteTask) (since : Nat) :
    (entry : RouteRecord) → Decidable (entry.RetriedFor task since)
  | .acquired _ _ => inferInstanceAs (Decidable False)
  | .marked _ _ => inferInstanceAs (Decidable False)
  | .retried own for_ _ => inferInstanceAs (Decidable (own = task ∧ for_ = since))
  | .refused _ _ => inferInstanceAs (Decidable False)

/-- If the execution is about to schedule a retry of the task, its pending key is
still alive at the time. -/
def RouteStage.RetriesBy (settings : RouteSettings) (task : RouteTask) (time : Nat) :
    RouteStage → Prop
  | .fetching => True
  | .finding _ => True
  | .acquiring _ => True
  | .listing _ => True
  | .constructing _ _ => True
  | .routing _ _ _ => True
  | .releasing _ => True
  | .marking _ => True
  | .scheduling own since => own = task → time < since + settings.cooldownRetryDelay

instance (settings : RouteSettings) (task : RouteTask) (time : Nat) :
    (stage : RouteStage) → Decidable (stage.RetriesBy settings task time)
  | .fetching => inferInstanceAs (Decidable True)
  | .finding _ => inferInstanceAs (Decidable True)
  | .acquiring _ => inferInstanceAs (Decidable True)
  | .listing _ => inferInstanceAs (Decidable True)
  | .constructing _ _ => inferInstanceAs (Decidable True)
  | .routing _ _ _ => inferInstanceAs (Decidable True)
  | .releasing _ => inferInstanceAs (Decidable True)
  | .marking _ => inferInstanceAs (Decidable True)
  | .scheduling own since =>
      inferInstanceAs (Decidable (own = task → time < since + settings.cooldownRetryDelay))

/-- The clock does not reach the expiry of a pending key while the execution that
has set it has not scheduled its retry yet. -/
def SchedulesInTime (settings : RouteSettings) (task : RouteTask) (pool : RoutePool Pid) :
    RouteEvent Pid → Prop
  | .start _ _ => True
  | .advance _ _ => True
  | .kill _ => True
  | .surround (.tick elapsed) =>
      ∀ pid, ∀ stage ∈ pool.process pid,
        stage.RetriesBy settings task (pool.shared.now + elapsed)

instance [Fintype Pid] (settings : RouteSettings) (task : RouteTask) (pool : RoutePool Pid) :
    (event : RouteEvent Pid) → Decidable (SchedulesInTime settings task pool event)
  | .start _ _ => inferInstanceAs (Decidable True)
  | .advance _ _ => inferInstanceAs (Decidable True)
  | .kill _ => inferInstanceAs (Decidable True)
  | .surround (.tick elapsed) =>
      inferInstanceAs (Decidable (∀ pid, ∀ stage ∈ pool.process pid,
        stage.RetriesBy settings task (pool.shared.now + elapsed)))

/-- What holds of the log: pending keys that were set are apart by their lifetime,
and each retry was scheduled within the lifetime of its own key. -/
structure RetriesApart (settings : RouteSettings) (task : RouteTask)
    (state : RouteState) : Prop where
  alive : ∀ at_, .marked task at_ ∈ state.log → at_ ≤ state.now ∧
    (state.now < at_ + settings.cooldownRetryDelay →
      state.cache task.pendingKey = some (at_ + settings.cooldownRetryDelay))
  apart : ∀ left right, .marked task left ∈ state.log → .marked task right ∈ state.log →
    left = right ∨ left + settings.cooldownRetryDelay ≤ right ∨
      right + settings.cooldownRetryDelay ≤ left
  within : ∀ since at_, .retried task since at_ ∈ state.log →
    .marked task since ∈ state.log ∧ since ≤ at_ ∧ at_ < since + settings.cooldownRetryDelay
  once : ∀ since, state.log.countP (RouteRecord.RetriedFor task since ·) ≤ 1

/-- An execution that is about to schedule a retry has set the pending key, which
is still alive, and the retry has not been scheduled before. -/
def MayRetry (settings : RouteSettings) (task : RouteTask) (state : RouteState)
    (stage : RouteStage) : Prop :=
  ∀ since, stage = .scheduling task since →
    .marked task since ∈ state.log ∧ since ≤ state.now ∧
      state.now < since + settings.cooldownRetryDelay ∧
      state.log.countP (RouteRecord.RetriedFor task since ·) = 0

def RouteRecord.Concerns (task : RouteTask) : RouteRecord → Prop
  | .acquired _ _ => False
  | .marked own _ => own = task
  | .retried own _ _ => own = task
  | .refused _ _ => False

/-- What a statement does to the pending key and the retries of a task. -/
inductive RetryEffect (settings : RouteSettings) (task : RouteTask) (state : RouteState)
    (stage : RouteStage) (next : RouteState) (rest : Option RouteStage) : Prop
  | quiet (entries : List RouteRecord) :
      next.log = entries ++ state.log → (∀ entry ∈ entries, ¬entry.Concerns task) →
      next.cache task.pendingKey = state.cache task.pendingKey →
      (∀ since, rest ≠ some (.scheduling task since)) →
      RetryEffect settings task state stage next rest
  | mark :
      ¬state.cache.Alive state.now task.pendingKey →
      next.log = .marked task state.now :: state.log →
      next.cache task.pendingKey = some (state.now + settings.cooldownRetryDelay) →
      rest = some (.scheduling task state.now) →
      RetryEffect settings task state stage next rest
  | schedule (since : Nat) :
      stage = .scheduling task since →
      next.log = [.refused task state.now, .retried task since state.now] ++ state.log →
      next.cache task.pendingKey = state.cache task.pendingKey → rest = none →
      RetryEffect settings task state stage next rest

theorem RouteStep.retryEffect {state next : RouteState} {stage : RouteStage}
    {rest : Option RouteStage} (step : RouteStep settings state stage next rest)
    (task : RouteTask) : RetryEffect settings task state stage next rest := by
  cases step with
  | fetch waiting due => exact .quiet [] rfl (by simp) rfl (by simp)
  | find => exact .quiet [] rfl (by simp) rfl (by simp)
  | miss => exact .quiet [] rfl (by simp) rfl (by simp)
  | @acquire own cache added =>
      refine .quiet [.acquired own state.now] rfl (by simp [RouteRecord.Concerns]) ?_ ?_
      · exact TtlCache.added_other added (own.lockKey_ne_pendingKey task).symm
      · cases own <;> simp [RouteStage.afterAcquire]
  | occupied taken => exact .quiet [] rfl (by simp) rfl (by simp)
  | @proceed own before after locked stillLocked =>
      refine .quiet [] rfl (by simp) rfl ?_
      intro since same
      cases Option.some.inj same
      cases stillLocked
  | @release own =>
      exact .quiet [] rfl (by simp)
        (TtlCache.delete_other (own.lockKey_ne_pendingKey task).symm) (by simp)
  | @mark own cache added =>
      by_cases same : own = task
      · subst same
        exact .mark (TtlCache.not_alive_of_add added) rfl (TtlCache.added_self added) rfl
      · refine .quiet [.marked own state.now] rfl ?_ ?_ ?_
        · simpa [RouteRecord.Concerns] using same
        · exact TtlCache.added_other added fun sameKey =>
            same (RouteTask.pendingKey_inj sameKey).symm
        · simpa using same
  | @alreadyPending own taken =>
      exact .quiet [.refused own state.now] rfl (by simp [RouteRecord.Concerns]) rfl (by simp)
  | @schedule own since =>
      by_cases same : own = task
      · subst same
        exact .schedule since rfl rfl rfl rfl
      · refine .quiet [.refused own state.now, .retried own since state.now] rfl ?_ rfl
          (by simp)
        simpa [RouteRecord.Concerns] using same

section Outline

variable {state next : RouteState} {stage other : RouteStage} {rest : Option RouteStage}

theorem countP_retriedFor_append {entries log : List RouteRecord}
    (unconcerned : ∀ entry ∈ entries, ¬entry.Concerns task) (since : Nat) :
    (entries ++ log).countP (RouteRecord.RetriedFor task since ·) =
      log.countP (RouteRecord.RetriedFor task since ·) := by
  have none_ : entries.countP (RouteRecord.RetriedFor task since ·) = 0 := by
    rw [List.countP_eq_zero]
    intro entry member retried
    apply unconcerned entry member
    cases entry with
    | retried own for_ at_ => exact (of_decide_eq_true retried).1
    | _ => cases of_decide_eq_true retried
  rw [List.countP_append, none_, Nat.zero_add]

theorem mem_append_iff_of_concerns {entries log : List RouteRecord} {entry : RouteRecord}
    (unconcerned : ∀ entry ∈ entries, ¬entry.Concerns task) (concerns : entry.Concerns task) :
    entry ∈ entries ++ log ↔ entry ∈ log := by
  rw [List.mem_append]
  exact or_iff_right fun member => unconcerned entry member concerns

theorem RetriesApart.append (entries : List RouteRecord)
    (apart : RetriesApart settings task state)
    (logged : next.log = entries ++ state.log)
    (unconcerned : ∀ entry ∈ entries, ¬entry.Concerns task)
    (sameKey : next.cache task.pendingKey = state.cache task.pendingKey)
    (time : state.now ≤ next.now) : RetriesApart settings task next := by
  have marked : ∀ at_, .marked task at_ ∈ next.log ↔ .marked task at_ ∈ state.log := by
    intro at_
    rw [logged]
    exact mem_append_iff_of_concerns unconcerned rfl
  have retried : ∀ since at_, .retried task since at_ ∈ next.log ↔
      .retried task since at_ ∈ state.log := by
    intro since at_
    rw [logged]
    exact mem_append_iff_of_concerns unconcerned rfl
  constructor
  · intro at_ member
    rcases apart.alive at_ ((marked at_).mp member) with ⟨past, alive⟩
    refine ⟨past.trans time, ?_⟩
    intro late
    rw [sameKey]
    exact alive (by omega)
  · intro left right leftMember rightMember
    exact apart.apart left right ((marked left).mp leftMember) ((marked right).mp rightMember)
  · intro since at_ member
    rw [marked]
    exact apart.within since at_ ((retried since at_).mp member)
  · intro since
    rw [logged, countP_retriedFor_append unconcerned]
    exact apart.once since

theorem RetriesApart.expired (apart : RetriesApart settings task state)
    (notAlive : ¬state.cache.Alive state.now task.pendingKey) {at_ : Nat}
    (marked : .marked task at_ ∈ state.log) :
    at_ + settings.cooldownRetryDelay ≤ state.now := by
  by_contra late
  have cached := (apart.alive at_ marked).2 (by omega)
  exact notAlive ⟨_, cached, by omega⟩

theorem RetriesApart.mark (apart : RetriesApart settings task state)
    (notAlive : ¬state.cache.Alive state.now task.pendingKey)
    (logged : next.log = .marked task state.now :: state.log)
    (added : next.cache task.pendingKey = some (state.now + settings.cooldownRetryDelay))
    (sameTime : next.now = state.now) : RetriesApart settings task next := by
  have marked : ∀ at_, .marked task at_ ∈ next.log →
      at_ = state.now ∨ .marked task at_ ∈ state.log := by
    intro at_ member
    rw [logged] at member
    rcases List.mem_cons.mp member with same | before
    · cases same
      exact .inl rfl
    · exact .inr before
  constructor
  · intro at_ member
    rcases marked at_ member with rfl | before
    · exact ⟨Nat.le_of_eq sameTime.symm, fun _ => added⟩
    · have expired := apart.expired notAlive before
      exact ⟨by omega, fun late => by omega⟩
  · intro left right leftMember rightMember
    rcases marked left leftMember with rfl | leftBefore
    · rcases marked right rightMember with rfl | rightBefore
      · exact .inl rfl
      · exact .inr (.inr (apart.expired notAlive rightBefore))
    · rcases marked right rightMember with rfl | rightBefore
      · exact .inr (.inl (apart.expired notAlive leftBefore))
      · exact apart.apart left right leftBefore rightBefore
  · intro since at_ member
    rw [logged] at member ⊢
    rcases List.mem_cons.mp member with impossible | before
    · cases impossible
    · rcases apart.within since at_ before with ⟨isMarked, bounds⟩
      exact ⟨List.mem_cons_of_mem _ isMarked, bounds⟩
  · intro since
    rw [logged, List.countP_cons_of_neg fun retried => (of_decide_eq_true retried).elim]
    exact apart.once since

theorem RetriesApart.schedule {since : Nat} (apart : RetriesApart settings task state)
    (may : MayRetry settings task state (.scheduling task since))
    (logged : next.log =
      [.refused task state.now, .retried task since state.now] ++ state.log)
    (sameKey : next.cache task.pendingKey = state.cache task.pendingKey)
    (sameTime : next.now = state.now) : RetriesApart settings task next := by
  rcases may since rfl with ⟨isMarked, past, alive, notYet⟩
  have marked : ∀ at_, .marked task at_ ∈ next.log ↔ .marked task at_ ∈ state.log := by
    intro at_
    rw [logged]
    simp
  constructor
  · intro at_ member
    rcases apart.alive at_ ((marked at_).mp member) with ⟨before, cached⟩
    rw [sameTime, sameKey]
    exact ⟨before, cached⟩
  · intro left right leftMember rightMember
    exact apart.apart left right ((marked left).mp leftMember) ((marked right).mp rightMember)
  · intro for_ at_ member
    rw [marked]
    rw [logged] at member
    simp only [List.cons_append, List.nil_append, List.mem_cons, reduceCtorEq, false_or,
      RouteRecord.retried.injEq, true_and] at member
    rcases member with ⟨rfl, rfl⟩ | before
    · exact ⟨isMarked, past, alive⟩
    · exact apart.within for_ at_ before
  · intro for_
    rw [logged, List.cons_append, List.cons_append, List.nil_append,
      List.countP_cons_of_neg fun retried => (of_decide_eq_true retried).elim]
    by_cases same : for_ = since
    · subst same
      rw [List.countP_cons, notYet]
      split <;> omega
    · rw [List.countP_cons_of_neg fun retried => same (of_decide_eq_true retried).2.symm]
      exact apart.once for_

theorem MayRetry.append {entries : List RouteRecord}
    (may : MayRetry settings task state stage)
    (logged : next.log = entries ++ state.log)
    (unconcerned : ∀ entry ∈ entries, ¬entry.Concerns task)
    (sameTime : next.now = state.now) : MayRetry settings task next stage := by
  intro since isScheduling
  rcases may since isScheduling with ⟨isMarked, past, alive, notYet⟩
  rw [logged, sameTime, countP_retriedFor_append unconcerned]
  exact ⟨List.mem_append_right _ isMarked, past, alive, notYet⟩

theorem MayRetry.absurd_of_not_alive {since : Nat}
    (may : MayRetry settings task state (.scheduling task since))
    (apart : RetriesApart settings task state)
    (notAlive : ¬state.cache.Alive state.now task.pendingKey) : False := by
  rcases may since rfl with ⟨isMarked, _, alive, _⟩
  have := apart.expired notAlive isMarked
  omega

end Outline

def retryOutline [DecidableEq Pid] (positive : 0 < settings.cooldownRetryDelay)
    (task : RouteTask) :
    PairOutline (routeProgram settings)
      (SchedulesInTime settings task : RoutePool Pid → RouteEvent Pid → Prop) where
  Invariant := RetriesApart settings task
  Assertion := MayRetry settings task
  Compatible := fun left right =>
    ∀ since, ¬(left = .scheduling task since ∧ right = .scheduling task since)
  symmetric := fun notBoth since both => notBoth since both.symm
  enter := by
    intro state start _ since impossible
    cases start <;> cases impossible
  enterCompatible := by
    intro start stage since both
    cases start <;> cases both.1
  advance := by
    intro pool pid choice stage state rest _ _ apart may advanced
    have step := routeStep_of_advance advanced
    have sameTime := step.now_eq
    cases step.retryEffect task with
    | quiet entries logged unconcerned sameKey remains =>
        refine ⟨apart.append entries logged unconcerned sameKey (Nat.le_of_eq sameTime.symm), ?_⟩
        intro remaining isRemaining since isScheduling
        subst isScheduling
        exact absurd isRemaining (remains since)
    | mark notAlive logged added remains =>
        refine ⟨apart.mark notAlive logged added sameTime, ?_⟩
        intro remaining isRemaining since isScheduling
        subst isScheduling
        cases isRemaining.symm.trans remains
        rw [logged, sameTime, List.countP_cons_of_neg fun retried => (of_decide_eq_true retried).elim]
        refine ⟨List.mem_cons_self, le_rfl, by omega, ?_⟩
        rw [List.countP_eq_zero]
        intro entry member retried
        cases entry with
        | retried own for_ at_ =>
            rcases of_decide_eq_true retried with ⟨rfl, rfl⟩
            have expired := apart.expired notAlive (apart.within _ at_ member).1
            omega
        | _ => cases of_decide_eq_true retried
    | schedule since isScheduling logged sameKey ended =>
        subst isScheduling
        refine ⟨apart.schedule may logged sameKey sameTime, ?_⟩
        intro remaining isRemaining
        cases ended.symm.trans isRemaining
  advanceOther := by
    intro pool pid choice stage state rest _ _ apart may advanced other otherStage _ _
      otherMay notBoth
    have step := routeStep_of_advance advanced
    have sameTime := step.now_eq
    cases step.retryEffect task with
    | quiet entries logged unconcerned sameKey remains =>
        refine ⟨otherMay.append logged unconcerned sameTime, ?_⟩
        intro remaining isRemaining since both
        exact remains since (isRemaining.trans (congrArg some both.1))
    | mark notAlive logged added remains =>
        have idle : ∀ since, otherStage ≠ .scheduling task since := by
          intro since isScheduling
          subst isScheduling
          exact otherMay.absurd_of_not_alive apart notAlive
        exact ⟨fun since isScheduling => absurd isScheduling (idle since),
          fun _ _ since both => idle since both.2⟩
    | schedule since isScheduling logged sameKey ended =>
        subst isScheduling
        refine ⟨?_, fun remaining isRemaining => by cases ended.symm.trans isRemaining⟩
        intro otherSince isOther
        rcases otherMay otherSince isOther with ⟨isMarked, past, alive, notYet⟩
        have different : otherSince ≠ since := by
          intro same
          subst same
          exact notBoth otherSince ⟨rfl, isOther⟩
        rw [logged, sameTime, List.cons_append, List.cons_append, List.nil_append,
          List.countP_cons_of_neg fun retried => (of_decide_eq_true retried).elim,
          List.countP_cons_of_neg fun retried => different (of_decide_eq_true retried).2.symm]
        exact ⟨List.mem_cons_of_mem _ (List.mem_cons_of_mem _ isMarked), past, alive, notYet⟩
  surround := by
    intro pool event state meets apart surrounded
    cases event with
    | tick elapsed =>
        cases surrounded
        refine ⟨apart.append [] rfl (by simp) rfl (Nat.le_add_right _ _), ?_⟩
        intro pid stage running may since isScheduling
        subst isScheduling
        rcases may since rfl with ⟨isMarked, past, _, notYet⟩
        exact ⟨isMarked, past.trans (Nat.le_add_right _ _), meets pid _ running rfl, notYet⟩

theorem RetriesApart.countP_retriedWithin {state : RouteState}
    (apart : RetriesApart settings task state) {at_ : Nat}
    (marked : .marked task at_ ∈ state.log) :
    state.log.countP (RouteRecord.RetriedWithin task at_
      (at_ + settings.cooldownRetryDelay) ·) ≤ 1 := by
  apply le_trans _ (apart.once at_)
  apply List.countP_mono_left
  intro entry member retried
  cases entry with
  | retried own since when_ =>
      rcases of_decide_eq_true retried with ⟨rfl, after, before⟩
      rcases apart.within since when_ member with ⟨isMarked, sinceAfter, sinceBefore⟩
      have same : since = at_ := by
        rcases apart.apart since at_ isMarked marked with same | earlier | later <;> omega
      exact decide_eq_true ⟨rfl, same⟩
  | _ => cases of_decide_eq_true retried

theorem retriesApart_fresh (settings : RouteSettings) (task : RouteTask) (now : Nat) :
    RetriesApart settings task (.fresh now) where
  alive := fun _ impossible => by cases impossible
  apart := fun _ _ impossible => by cases impossible
  within := fun _ _ impossible => by cases impossible
  once := fun _ => Nat.zero_le _

/-- Each refusal has been followed by an acquisition of the lock. -/
def NoWakeUpLost (task : RouteTask) (state : RouteState) : Prop :=
  ∀ at_, .refused task at_ ∈ state.log →
    ∃ later, .acquired task later ∈ state.log ∧ at_ ≤ later

/-- At most one retry was scheduled in the lifetime of each pending key. -/
def OneRetryPerLifetime (settings : RouteSettings) (task : RouteTask)
    (state : RouteState) : Prop :=
  ∀ at_, .marked task at_ ∈ state.log →
    state.log.countP (RouteRecord.RetriedWithin task at_
      (at_ + settings.cooldownRetryDelay) ·) ≤ 1

/-- In a run in which everything has been executed no wake-up is lost; and if the
retries are scheduled in time, there is one at most in each lifetime. -/
theorem routing_wake_ups_kept [DecidableEq Pid] (settings : RouteSettings)
    (task : RouteTask) {now : Nat} {final : RoutePool Pid}
    (reaches : (routeProgram settings).machine.Reaches (Undisturbed task)
      (Pool.idle (.fresh now)) final)
    (executed : Executed task final) :
    NoWakeUpLost task final.shared ∧
      ((routeProgram settings).machine.Reaches (SchedulesInTime settings task)
          (Pool.idle (.fresh now)) final →
        OneRetryPerLifetime settings task final.shared) := by
  constructor
  · intro at_ refused
    have wakeUps := reaches.invariant (wakeUpsPromised_fresh settings task now)
      fun _ _ _ wakeUps meets stepped => wakeUpsPromised_step wakeUps meets stepped
    exact acquired_after_refusal wakeUps executed refused
  · intro scheduled at_ marked
    rcases Nat.eq_zero_or_pos settings.cooldownRetryDelay with noDelay | positive
    · -- the lifetime is empty
      rw [noDelay, Nat.add_zero, List.countP_eq_zero.mpr]
      · exact Nat.zero_le 1
      · intro entry member retried
        cases entry with
        | retried own since when_ =>
            rcases of_decide_eq_true retried with ⟨_, after, before⟩
            omega
        | _ => cases of_decide_eq_true retried
    · have holds := (retryOutline positive task).holds_of_reaches scheduled
        ((retryOutline positive task).holds_of_isIdle (retriesApart_fresh settings task now)
          (Pool.idle_isIdle _))
      exact holds.shared.countP_retriedWithin marked

/-! ## A retry that is scheduled late -/

/-- The statements that end an execution inside `route_rooms`. -/
def finishRouting (worker : Worker) : List (RouteEvent Worker) :=
  [.advance worker .done, .advance worker .done, .advance worker .done]

def routeAgain (worker : Worker) : List (RouteEvent Worker) :=
  [.start worker (.immediate (.routeQueueRooms 1)), .advance worker .done,
    .advance worker .done, .advance worker .done]

def executeDeferred (worker : Worker) : List (RouteEvent Worker) :=
  [.start worker .deferred, .advance worker (.deferred 0), .advance worker .done,
    .advance worker .done, .advance worker .done] ++ finishRouting worker

/-- The first worker routes. The second one sets the pending key, but schedules
its retry only after the third one has set the key again and has scheduled. -/
def lateRetry : List (RouteEvent Worker) :=
  routeAgain .first ++ routeAgain .second ++ [.surround (.tick 2000000)] ++
    routeAgain .third ++ [.advance .third .done, .advance .second .done] ++
    finishRouting .first ++ [.surround (.tick 2000000)] ++ executeDeferred .second ++
    executeDeferred .third

theorem late_retry_shares_lifetime :
    ¬ ∀ (settings : RouteSettings) (task : RouteTask) (now : Nat) (final : RoutePool Worker),
      (routeProgram settings).machine.Reaches (Undisturbed task) (Pool.idle (.fresh now))
        final → Executed task final →
      NoWakeUpLost task final.shared ∧ OneRetryPerLifetime settings task final.shared := by
  intro kept
  have ends : ((routeProgram defaultSettings).machine.runMeeting
      (Undisturbed (.routeQueueRooms 1)) (Pool.idle (.fresh 0)) lateRetry).map
      (fun pool => (decide pool.IsIdle, pool.shared.deferred,
        decide (.marked (.routeQueueRooms 1) 2000000 ∈ pool.shared.log),
        pool.shared.log.countP (RouteRecord.RetriedWithin (.routeQueueRooms 1) 2000000
          (2000000 + defaultSettings.cooldownRetryDelay) ·))) =
      some (true, [], true, 2) := by
    decide
  rcases Option.map_eq_some_iff.mp ends with ⟨final, ran, observed⟩
  simp only [Prod.mk.injEq, decide_eq_true_eq] at observed
  rcases observed with ⟨returned, started, marked, twice⟩
  have executed : Executed (.routeQueueRooms 1) final := ⟨returned, by simp [started]⟩
  have once := (kept defaultSettings (.routeQueueRooms 1) 0 final (.of_runMeeting ran)
    executed).2 2000000 marked
  omega

/-- The second worker schedules a retry, for the third one as well, and executes
it when the first one is done. -/
def sharedRetry : List (RouteEvent Worker) :=
  routeAgain .first ++ routeAgain .second ++ routeAgain .third ++ [.advance .second .done] ++
    finishRouting .first ++ [.surround (.tick 2000000)] ++ executeDeferred .second

theorem routing_wake_ups_kept_by_shared_retry :
    ∃ final : RoutePool Worker,
      (routeProgram defaultSettings).machine.runMeeting
        (fun pool event => Undisturbed (.routeQueueRooms 1) pool event ∧
          SchedulesInTime defaultSettings (.routeQueueRooms 1) pool event)
        (Pool.idle (.fresh 0)) sharedRetry = some final ∧
      .refused (.routeQueueRooms 1) 0 ∈ final.shared.log ∧
      NoWakeUpLost (.routeQueueRooms 1) final.shared ∧
      OneRetryPerLifetime defaultSettings (.routeQueueRooms 1) final.shared := by
  have ends : ((routeProgram defaultSettings).machine.runMeeting
      (fun pool event => Undisturbed (.routeQueueRooms 1) pool event ∧
        SchedulesInTime defaultSettings (.routeQueueRooms 1) pool event)
      (Pool.idle (.fresh 0)) sharedRetry).map
      (fun pool => (decide pool.IsIdle, pool.shared.deferred,
        decide (.refused (.routeQueueRooms 1) 0 ∈ pool.shared.log))) =
      some (true, [], true) := by
    decide
  rcases Option.map_eq_some_iff.mp ends with ⟨final, ran, observed⟩
  simp only [Prod.mk.injEq, decide_eq_true_eq] at observed
  rcases observed with ⟨returned, started, refused⟩
  have executed : Executed (.routeQueueRooms 1) final := ⟨returned, by simp [started]⟩
  have reaches := Machine.Reaches.of_runMeeting ran
  have kept := routing_wake_ups_kept defaultSettings (.routeQueueRooms 1)
    (reaches.mono fun _ _ both => both.1) executed
  exact ⟨final, ran, refused, kept.1, kept.2 (reaches.mono fun _ _ both => both.2)⟩

end ChatsEngine.Queues
