import ChatsEngine.Dashboard.AlertSweeps

/-! # What aborted sweeps leave

A sweep that is aborted leaves keys which the next one has to repair. The violating
keys always are right after a sweep, but an alerting key of a project that no longer
violates its goal is only cleared together with its violating key. -/

namespace ChatsEngine.Dashboard

variable {ttl : Nat} {state next : AlertState} {event : AlertEvent} {metric : Metric}
  {sweep swept : Sweep}

def KeysExact (state : AlertState) (metric : Metric) (sweep : Sweep) : Prop :=
  ∀ project,
    (TtlKeys.Alive state.keys state.now ⟨.violating, project, metric⟩ ↔
      project ∈ sweep.currentlyViolating) ∧
    (TtlKeys.Alive state.keys state.now ⟨.alerting, project, metric⟩ ↔
      project ∈ sweep.currentlyAlerting)

def SweepsExact (state : AlertState) : Prop :=
  ∀ metric sweep, state.running metric = some sweep → sweep.stage = .finished →
    KeysExact state metric sweep

def ExpiresBetweenSweeps (state : AlertState) : AlertEvent → Prop
  | .tick elapsed => ∀ key ∈ state.keys.keys, (state.running key.metric).isSome →
      TtlKeys.Alive state.keys state.now key →
        TtlKeys.Alive state.keys (state.now + elapsed) key
  | .expire key => (state.running key.metric).isNone
  | _ => True

instance (state : AlertState) : DecidablePred (ExpiresBetweenSweeps state)
  | .tick _ => inferInstanceAs (Decidable (∀ key ∈ state.keys.keys, _))
  | .expire key => inferInstanceAs (Decidable ((state.running key.metric).isNone = true))
  | .detect .. => inferInstanceAs (Decidable True)
  | .scan .. => inferInstanceAs (Decidable True)
  | .advance _ => inferInstanceAs (Decidable True)
  | .finish _ => inferInstanceAs (Decidable True)
  | .abort _ => inferInstanceAs (Decidable True)

/-- A sweep that completes has found an alerting key only of projects that are violating
now, or that had a violating key as well. -/
def FinishesClean (state : AlertState) : AlertEvent → Prop
  | .advance metric => ∀ sweep ∈ state.running metric, sweep.stage = .dropping [] →
      ∀ project ∈ sweep.previouslyAlerting,
        project ∈ sweep.currentlyViolating ∨ project ∈ sweep.previouslyViolating
  | _ => True

instance (state : AlertState) : DecidablePred (FinishesClean state)
  | .advance metric => inferInstanceAs (Decidable (∀ sweep ∈ state.running metric,
      sweep.stage = .dropping [] → ∀ project ∈ sweep.previouslyAlerting, _))
  | .tick _ => inferInstanceAs (Decidable True)
  | .expire _ => inferInstanceAs (Decidable True)
  | .detect .. => inferInstanceAs (Decidable True)
  | .scan .. => inferInstanceAs (Decidable True)
  | .finish _ => inferInstanceAs (Decidable True)
  | .abort _ => inferInstanceAs (Decidable True)

abbrev factsNow (state : AlertState) (metric : Metric) : KeyFacts :=
  .of state.keys state.now (some (state.now + 1)) (state.now + 1) metric

theorem keeps_of_alive {after : AlertState} {kind : StateKind} {project : Uuid}
    (same : TtlKeys.Alive after.keys after.now ⟨kind, project, metric⟩ ↔
      TtlKeys.Alive state.keys state.now ⟨kind, project, metric⟩) :
    (factsNow state metric).Keeps (factsNow after metric) kind project where
  fresh := same.mpr
  lasting := by
    intro given
    rcases given with ⟨time, bounded, alive⟩
    cases bounded
    exact ⟨_, rfl, same.mpr alive⟩
  gone := mt same.mp

def RunningSound (state : AlertState) : Prop :=
  ∀ metric sweep, state.running metric = some sweep →
    (sweep.violations.map Violation.project).Nodup ∧
      ∃ violating alerting, sweep.Assertion (factsNow state metric) violating alerting

theorem alive_congr {after : AlertState} {key : StateKey}
    (same : after.keys.lookup key = state.keys.lookup key) (time : after.now = state.now) :
    TtlKeys.Alive after.keys after.now key ↔ TtlKeys.Alive state.keys state.now key := by
  rw [TtlKeys.Alive, TtlKeys.Alive, same, time]

theorem alive_tick_iff {elapsed : Nat} {key : StateKey}
    (domain : ExpiresBetweenSweeps state (.tick elapsed))
    (running : (state.running key.metric).isSome = true) :
    TtlKeys.Alive state.keys (state.now + elapsed) key ↔
      TtlKeys.Alive state.keys state.now key := by
  constructor
  · intro alive
    exact alive.earlier (Nat.le_add_right _ _)
  · intro alive
    rcases alive with ⟨expiry, stored, bound⟩
    exact domain key (AList.lookup_isSome.mp (Option.isSome_of_mem stored)) running
      ⟨expiry, stored, bound⟩

theorem alive_expire_iff {expiring key : StateKey} (time : next.now = state.now)
    (domain : ExpiresBetweenSweeps state (.expire expiring))
    (running : (state.running key.metric).isSome = true)
    (keys : next.keys = state.keys.erase expiring) :
    TtlKeys.Alive next.keys next.now key ↔ TtlKeys.Alive state.keys state.now key := by
  apply alive_congr _ time
  rw [keys]
  apply AList.lookup_erase_ne
  intro same
  subst same
  rw [ExpiresBetweenSweeps] at domain
  simp [Option.isNone_iff_eq_none.mp domain] at running

theorem alive_move_iff (domain : ExpiresBetweenSweeps state event)
    (move : SweepMove ttl state next metric swept event) (apart : event ≠ .advance metric)
    {key : StateKey} (own : key.metric = metric) :
    TtlKeys.Alive next.keys next.now key ↔ TtlKeys.Alive state.keys state.now key := by
  cases move with
  | detected database enabled _ keys time _ => exact alive_congr (by rw [keys]) time
  | scanned sweep projects _ keys time _ => exact alive_congr (by rw [keys]) time
  | advanced sweep _ _ _ => exact absurd rfl apart
  | ticked elapsed running keys time =>
      rw [keys, time]
      exact alive_tick_iff domain (by rw [own, running]; rfl)
  | expired expiring running keys time =>
      exact alive_expire_iff time domain (by rw [own, running]; rfl) keys
  | other event _ time same => exact alive_congr (same key own) time

theorem assertion_congr {violating alerting : List Uuid}
    (same : ∀ key : StateKey, key.metric = metric →
      (TtlKeys.Alive next.keys next.now key ↔ TtlKeys.Alive state.keys state.now key))
    (holds : sweep.Assertion (factsNow state metric) violating alerting) :
    sweep.Assertion (factsNow next metric) violating alerting :=
  holds.mono fun _ _ => keeps_of_alive (same _ rfl)

theorem tracks_alive (kind : StateKind) :
    (factsNow state metric).Tracks kind
      (Sweep.keysForMetric state.keys state.now kind metric) [] where
  fresh := by simp
  lasting project member _ := ⟨_, rfl, Sweep.mem_keysForMetric_iff.mp member⟩
  gone project notListed _ := mt Sweep.mem_keysForMetric_iff.mpr notListed

theorem RunningSound.step (positive : 0 < ttl) (holds : RunningSound state)
    (domain : ExpiresBetweenSweeps state event)
    (stepped : (alertMachine ttl).step state event = some next) : RunningSound next := by
  intro metric swept running
  have move := SweepMove.of_step stepped running
  have ready : ∀ time ∈ some (state.now + 1), state.now < time := by
    intro time given
    rcases given with ⟨⟩
    exact Nat.lt_succ_self _
  have lasts : state.now + 1 ≤ state.now + ttl := Nat.add_le_add_left positive _
  by_cases own : event = .advance metric
  · subst own
    cases move with
    | advanced sweep before time advanced =>
        rcases holds metric sweep before with ⟨distinct, violating, alerting, assertion⟩
        rw [(Sweep.advance_effect advanced).1.1, factsNow, time]
        exact ⟨distinct, violating, alerting, assertion.advance distinct ready lasts advanced⟩
    | other _ before time same =>
        rcases holds metric swept before with ⟨distinct, violating, alerting, assertion⟩
        exact ⟨distinct, violating, alerting,
          assertion_congr (fun key own => alive_congr (same key own) time) assertion⟩
  · have same : ∀ key : StateKey, key.metric = metric →
        (TtlKeys.Alive next.keys next.now key ↔ TtlKeys.Alive state.keys state.now key) :=
      fun key => alive_move_iff domain move own
    cases move with
    | detected database enabled _ _ _ started =>
        subst started
        refine ⟨detectViolations_nodup database enabled metric state.now,
          Sweep.keysForMetric state.keys state.now .violating metric,
          Sweep.keysForMetric state.keys state.now .alerting metric, assertion_congr same ?_⟩
        exact ⟨rfl, tracks_alive .violating, tracks_alive .alerting⟩
    | scanned sweep projects before _ _ scanned =>
        rcases holds metric sweep before with ⟨distinct, violating, alerting, assertion⟩
        rw [(Sweep.scan_violations scanned).1]
        exact ⟨distinct, violating, alerting, assertion_congr same (assertion.scan ready scanned)⟩
    | advanced => exact absurd rfl own
    | ticked elapsed before _ _ =>
        rcases holds metric swept before with ⟨distinct, violating, alerting, assertion⟩
        exact ⟨distinct, violating, alerting, assertion_congr same assertion⟩
    | expired key before _ _ =>
        rcases holds metric swept before with ⟨distinct, violating, alerting, assertion⟩
        exact ⟨distinct, violating, alerting, assertion_congr same assertion⟩
    | other _ before _ _ =>
        rcases holds metric swept before with ⟨distinct, violating, alerting, assertion⟩
        exact ⟨distinct, violating, alerting, assertion_congr same assertion⟩

/-! ## Sweeps that have completed -/

theorem keysExact_iff {violating alerting : List Uuid}
    (holds : sweep.Assertion (factsNow state metric) violating alerting)
    (stage : sweep.stage = .finished) :
    KeysExact state metric sweep ↔ ∀ project ∈ sweep.previouslyAlerting,
      project ∈ sweep.currentlyViolating ∨ project ∈ sweep.previouslyViolating := by
  rw [Sweep.Assertion, stage] at holds
  rcases holds with ⟨_, resolving⟩
  constructor
  · intro exact_keys project previously
    by_contra orphan
    rw [not_or] at orphan
    have member : project ∈ sweep.orphans :=
      List.mem_filter.mpr ⟨previously, decide_eq_true orphan⟩
    have notAlerting := mt Sweep.mem_currentlyViolating_of_alerting orphan.1
    rcases resolving.alerting.lasting project member notAlerting with ⟨time, bounded, alive⟩
    cases bounded
    exact notAlerting ((exact_keys project).2.mp alive)
  · intro clean project
    have notOrphan : project ∉ sweep.orphans := by
      intro member
      rcases List.mem_filter.mp member with ⟨previously, apart⟩
      rw [decide_eq_true_eq] at apart
      exact (clean project previously).elim apart.1 apart.2
    constructor
    · constructor
      · intro alive
        by_contra notViolating
        exact resolving.violating.gone project (List.not_mem_nil) notViolating alive
      · exact fun member => resolving.violating.fresh project member
    · constructor
      · intro alive
        by_contra notAlerting
        exact resolving.alerting.gone project notOrphan notAlerting alive
      · exact fun member => resolving.alerting.fresh project member

theorem KeysExact.congr (same : ∀ key : StateKey, key.metric = metric →
      (TtlKeys.Alive next.keys next.now key ↔ TtlKeys.Alive state.keys state.now key))
    (holds : KeysExact state metric sweep) : KeysExact next metric sweep := by
  intro project
  rw [same ⟨.violating, project, metric⟩ rfl, same ⟨.alerting, project, metric⟩ rfl]
  exact holds project

theorem afterState_ne_finished (violation : Violation) (remaining : List Violation) :
    Sweep.afterState violation remaining ≠ .finished := by
  rw [Sweep.afterState]
  split <;> simp

theorem dropping_of_finished {keys keysAfter : TtlKeys StateKey} {now : Instant}
    (advanced : sweep.advance keys now ttl metric = some (keysAfter, swept))
    (finished : swept.stage = .finished) :
    sweep.stage = .dropping [] ∧ swept = { sweep with stage := .finished } := by
  unfold Sweep.advance at advanced
  split at advanced
  case h_4 =>
      split at advanced <;> cases advanced
      · exact absurd finished (afterState_ne_finished _ _)
      · cases finished
  case h_5 =>
      cases advanced
      exact absurd finished (afterState_ne_finished _ _)
  case h_6 => split at advanced <;> cases advanced <;> cases finished
  case h_11 stage =>
      cases advanced
      exact ⟨stage, rfl⟩
  all_goals
    cases advanced
    try cases finished

theorem scan_ne_finished {keys : TtlKeys StateKey} {now : Instant} {projects : List Uuid}
    (scanned : sweep.scan keys now metric projects = some swept) : swept.stage ≠ .finished := by
  unfold Sweep.scan at scanned
  split at scanned
  · split at scanned <;> cases scanned
    simp
  · split at scanned <;> cases scanned
    simp
  · cases scanned

theorem sweepsExact_step (positive : 0 < ttl) (sound : RunningSound state)
    (holds : SweepsExact state) (domain : ExpiresBetweenSweeps state event)
    (stepped : (alertMachine ttl).step state event = some next) :
    SweepsExact next ↔ FinishesClean state event := by
  have soundNext := sound.step positive domain stepped
  constructor
  · intro exact_next
    cases event with
    | advance metric =>
        intro sweep running stage
        have finished : next.running metric = some { sweep with stage := .finished } := by
          simp only [alertMachine, AlertState.step, Option.mem_def.mp running, Sweep.advance, stage,
            Option.map_some, Option.some.injEq] at stepped
          subst stepped
          simp [AlertState.setRunning]
        rcases soundNext metric _ finished with ⟨_, violating, alerting, assertion⟩
        exact (keysExact_iff assertion rfl).mp (exact_next metric _ finished rfl)
    | _ => trivial
  · intro clean metric swept running finished
    have move := SweepMove.of_step stepped running
    rcases soundNext metric swept running with ⟨_, violating, alerting, assertion⟩
    by_cases own : event = .advance metric
    · subst own
      cases move with
      | advanced sweep before _ advanced =>
          rcases dropping_of_finished advanced finished with ⟨stage, rfl⟩
          exact (keysExact_iff assertion finished).mpr (clean sweep before stage)
      | other _ before time same =>
          exact (holds metric swept before finished).congr fun key own =>
            alive_congr (same key own) time
    · have same : ∀ key : StateKey, key.metric = metric →
          (TtlKeys.Alive next.keys next.now key ↔ TtlKeys.Alive state.keys state.now key) :=
        fun key => alive_move_iff domain move own
      cases move with
      | detected database enabled _ _ _ started =>
          subst started
          cases finished
      | scanned sweep projects before _ _ scanned =>
          exact absurd finished (scan_ne_finished scanned)
      | advanced => exact absurd rfl own
      | ticked elapsed before _ _ => exact (holds metric swept before finished).congr same
      | expired key before _ _ => exact (holds metric swept before finished).congr same
      | other _ before _ _ => exact (holds metric swept before finished).congr same

/-- The keys are exact after each sweep of a run that completes, exactly if each of these
sweeps has found no alerting key without a violating one, except of projects that are
violating. -/
theorem sweeps_exact_iff (ttl : Nat) (positive : 0 < ttl) (keys : TtlKeys StateKey)
    (now : Instant) (events : List AlertEvent)
    (within : (alertMachine ttl).AllSteps ExpiresBetweenSweeps (idleAlerts keys now) events) :
    (alertMachine ttl).Throughout SweepsExact (idleAlerts keys now) events ↔
      (alertMachine ttl).AllSteps FinishesClean (idleAlerts keys now) events := by
  have initially : RunningSound (idleAlerts keys now) := by
    intro metric sweep running
    cases running
  have initiallyExact : SweepsExact (idleAlerts keys now) := by
    intro metric sweep running
    cases running
  apply Machine.throughout_iff_allSteps_within _ _ initially initiallyExact events within
  · intro state event next sound domain stepped
    exact sound.step positive domain stepped
  · intro state event next sound holds domain stepped
    exact sweepsExact_step positive sound holds domain stepped

/-! ## A key that is left behind -/

/-- The next sweep is aborted before the alerting key of the violation, which is repaired
by the one after it. -/
def abortedClaim : List AlertEvent :=
  beginSweep longConversation [] [] ++ advanceTimes 1 ++ [.abort .conversationDuration] ++
    beginSweep longConversation [0] [] ++ advanceTimes 6

/-- The goal is no longer violated. The sweep that clears the keys is aborted between the
two keys of the project. -/
def abortedClear : List AlertEvent :=
  alertOnce ++ beginSweep (conversationGoal ∅) [0] [0] ++ advanceTimes 2 ++
    [.abort .conversationDuration] ++ beginSweep (conversationGoal ∅) [] [0] ++ advanceTimes 3

theorem sweep_repairs_aborted_claim :
    (alertMachine 1800).Throughout SweepsExact (idleAlerts ∅ 61000000) abortedClaim ∧
      ((alertMachine 1800).run (idleAlerts ∅ 61000000) abortedClaim).map (fun final =>
        (final.running .conversationDuration).map Sweep.stage) = some (some .finished) :=
  ⟨(sweeps_exact_iff 1800 (by decide) ∅ 61000000 abortedClaim (by decide)).mpr (by decide),
    by decide⟩

theorem sweep_leaves_alerting_key :
    ¬∀ events, (alertMachine 1800).AllSteps ExpiresBetweenSweeps (idleAlerts ∅ 61000000) events →
      (alertMachine 1800).Throughout SweepsExact (idleAlerts ∅ 61000000) events := by
  intro exact_keys
  have throughout := exact_keys abortedClear (by decide)
  have ends : ((alertMachine 1800).run (idleAlerts ∅ 61000000) abortedClear).map (fun final =>
      ((final.running .conversationDuration).map fun sweep =>
          (sweep.stage, sweep.currentlyAlerting),
        decide (TtlKeys.Alive final.keys final.now ⟨.alerting, 0, .conversationDuration⟩))) =
      some (some (.finished, []), true) := by
    decide
  rcases Option.map_eq_some_iff.mp ends with ⟨final, ran, same⟩
  rcases Prod.mk.inj same with ⟨completed, alive⟩
  rcases Option.map_eq_some_iff.mp completed with ⟨sweep, running, stage⟩
  rcases Prod.mk.inj stage with ⟨finished, nobody⟩
  have alerting := (throughout.of_run ran _ sweep running finished 0).2.mp (of_decide_eq_true alive)
  rw [nobody] at alerting
  cases alerting

end ChatsEngine.Dashboard
