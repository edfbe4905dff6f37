import ChatsEngine.Dashboard.AlertSweeps

/-! # The callbacks of complete sweeps

As long as each sweep completes, and the next one of its metric before the keys have
expired, the keys stand for the violations of the last sweep, and the callbacks for what
has changed since. -/

namespace ChatsEngine.Dashboard

variable {ttl : Nat} {state next : AlertState} {event : AlertEvent} {metric : Metric}
  {sweep swept : Sweep}

/-! ## What a sweep is compared with -/

def lastSweep (returned : List (Metric × Sweep)) (metric : Metric) : Option Sweep :=
  (returned.find? fun entry => entry.1 = metric).map Prod.snd

def violatingBefore (returned : List (Metric × Sweep)) (metric : Metric) : List Uuid :=
  ((lastSweep returned metric).map Sweep.currentlyViolating).getD []

def alertingBefore (returned : List (Metric × Sweep)) (metric : Metric) : List Uuid :=
  ((lastSweep returned metric).map Sweep.currentlyAlerting).getD []

/-- The callbacks of a sweep, each of them once for a project, against the projects that
were violating and alerting before. -/
structure CallbacksExact (violating alerting : List Uuid) (sweep : Sweep) : Prop where
  newAlerts : ∀ project, project ∈ sweep.newAlerts.map Violation.project ↔
    project ∈ sweep.currentlyViolating ∧ project ∉ violating
  updates : ∀ project, project ∈ sweep.updates.map Violation.project ↔
    project ∈ sweep.currentlyViolating ∧ project ∈ violating
  resolved : ∀ project, project ∈ sweep.resolved ↔
    project ∈ violating ∧ project ∉ sweep.currentlyViolating
  toasts : ∀ project, project ∈ sweep.toasts.map Violation.project ↔
    project ∈ sweep.currentlyAlerting ∧ project ∉ alerting
  once : (sweep.newAlerts.map Violation.project).Nodup ∧
    (sweep.updates.map Violation.project).Nodup ∧ sweep.resolved.Nodup ∧
    (sweep.toasts.map Violation.project).Nodup

/-- Sweeps complete, and go on less than the time to live of the keys after the last
sweep of their metric has begun. -/
def CompleteInTime (ttl : Nat) (state : AlertState) : AlertEvent → Prop
  | .abort _ => False
  | .expire _ => False
  | .scan metric _ => ∀ last ∈ lastSweep state.returned metric, state.now < last.detectedAt + ttl
  | .advance metric => ∀ last ∈ lastSweep state.returned metric, state.now < last.detectedAt + ttl
  | _ => True

instance (ttl : Nat) (state : AlertState) : DecidablePred (CompleteInTime ttl state)
  | .abort _ => inferInstanceAs (Decidable False)
  | .expire _ => inferInstanceAs (Decidable False)
  | .scan metric _ => inferInstanceAs (Decidable (∀ last ∈ lastSweep state.returned metric, _))
  | .advance metric => inferInstanceAs (Decidable (∀ last ∈ lastSweep state.returned metric, _))
  | .detect .. => inferInstanceAs (Decidable True)
  | .finish _ => inferInstanceAs (Decidable True)
  | .tick _ => inferInstanceAs (Decidable True)

/-! ## The callbacks of one sweep -/

theorem mem_map_project_filter {violations : List Violation} {project : Uuid}
    (Selects : Uuid → Prop) [DecidablePred Selects] :
    project ∈ (violations.filter fun violation => Selects violation.project).map Violation.project ↔
      project ∈ violations.map Violation.project ∧ Selects project := by
  simp only [List.mem_map, List.mem_filter, decide_eq_true_eq]
  constructor
  · intro given
    rcases given with ⟨violation, ⟨member, selected⟩, rfl⟩
    exact ⟨⟨violation, member, rfl⟩, selected⟩
  · intro given
    rcases given with ⟨⟨violation, member, rfl⟩, selected⟩
    exact ⟨violation, ⟨member, selected⟩, rfl⟩

theorem CallbacksExact.of_assertion {facts : KeyFacts} {violating alerting : List Uuid}
    (holds : sweep.Assertion facts violating alerting) (finished : sweep.stage = .finished)
    (distinct : (sweep.violations.map Violation.project).Nodup) :
    CallbacksExact violating alerting sweep := by
  rw [Sweep.Assertion, finished] at holds
  rcases holds with ⟨scanned, resolving⟩
  have called := resolving.called
  constructor
  · intro project
    rw [called.newAlerts, ← scanned.violating]
    exact mem_map_project_filter fun project => project ∉ sweep.previouslyViolating
  · intro project
    rw [called.updates, ← scanned.violating]
    exact mem_map_project_filter fun project => project ∈ sweep.previouslyViolating
  · intro project
    rw [resolving.resolved, Sweep.resolvedUuids, List.mem_filter, decide_eq_true_eq,
      scanned.violating]
  · intro project
    rw [called.toasts, ← scanned.alerting]
    exact mem_map_project_filter fun project => project ∉ sweep.previouslyAlerting
  · rw [called.newAlerts, called.updates, called.toasts, resolving.resolved]
    exact ⟨distinct.sublist (List.filter_sublist.map _), distinct.sublist (List.filter_sublist.map _),
      scanned.nodup.filter _,
      distinct.sublist ((List.filter_sublist.trans List.filter_sublist).map _)⟩

/-! ## The invariant -/

def keyBound (ttl : Nat) (returned : List (Metric × Sweep)) (metric : Metric) : Option Instant :=
  (lastSweep returned metric).map fun last => last.detectedAt + ttl

/-- The keys of a metric stand for its last sweep, or its sweep meets its assertion. -/
def MetricSound (ttl : Nat) (state : AlertState) (metric : Metric) : Prop :=
  match state.running metric with
  | none =>
      ∀ fresh,
        (KeyFacts.of state.keys state.now (keyBound ttl state.returned metric) fresh metric).Tracks
            .violating (violatingBefore state.returned metric) [] ∧
          (KeyFacts.of state.keys state.now (keyBound ttl state.returned metric) fresh
            metric).Tracks .alerting (alertingBefore state.returned metric) []
  | some sweep =>
      (sweep.violations.map Violation.project).Nodup ∧ sweep.detectedAt ≤ state.now ∧
        sweep.Assertion
          (.of state.keys state.now (keyBound ttl state.returned metric)
            (sweep.detectedAt + ttl) metric)
          (violatingBefore state.returned metric) (alertingBefore state.returned metric)

def ReturnedExact (returned : List (Metric × Sweep)) : Prop :=
  ∀ newer metric sweep older, returned = newer ++ (metric, sweep) :: older →
    CallbacksExact (violatingBefore older metric) (alertingBefore older metric) sweep

theorem alertingBefore_subset (returned : List (Metric × Sweep)) (metric : Metric) :
    alertingBefore returned metric ⊆ violatingBefore returned metric := by
  intro project member
  rw [alertingBefore] at member
  rw [violatingBefore]
  cases last : lastSweep returned metric with
  | none =>
      rw [last] at member
      cases member
  | some sweep =>
      rw [last] at member
      exact Sweep.mem_currentlyViolating_of_alerting member

theorem lastSweep_cons_self (returned : List (Metric × Sweep)) :
    lastSweep ((metric, sweep) :: returned) metric = some sweep := by
  simp [lastSweep]

theorem lastSweep_cons_of_ne {own : Metric} (different : own ≠ metric)
    (returned : List (Metric × Sweep)) :
    lastSweep ((own, sweep) :: returned) metric = lastSweep returned metric := by
  simp [lastSweep, different]

theorem keeps_of_later {keys keysAfter : TtlKeys StateKey} {now later fresh : Instant}
    {bound : Option Instant} {kind : StateKind} {project : Uuid}
    (same : keysAfter.lookup ⟨kind, project, metric⟩ = keys.lookup ⟨kind, project, metric⟩)
    (order : now ≤ later) :
    KeyFacts.Keeps (.of keys now bound fresh metric) (.of keysAfter later bound fresh metric)
      kind project where
  fresh := TtlKeys.Until.congr same
  lasting := by
    intro given
    rcases given with ⟨time, bounded, holds⟩
    exact ⟨time, bounded, holds.congr same⟩
  gone := by
    intro gone alive
    have still : TtlKeys.Alive keys later ⟨kind, project, metric⟩ :=
      TtlKeys.Until.congr same.symm alive
    exact gone (still.earlier order)

theorem not_alive_empty {now : Instant} {key : StateKey} : ¬TtlKeys.Alive ∅ now key := by
  intro given
  rcases given with ⟨expiry, stored, _⟩
  cases stored

theorem tracks_of_finished {facts after : KeyFacts} {violating alerting : List Uuid}
    (holds : sweep.Assertion facts violating alerting) (finished : sweep.stage = .finished)
    (subset : alerting ⊆ violating)
    (lasts : ∀ kind project, facts.fresh kind project → after.lasting kind project)
    (gone : ∀ kind project, facts.gone kind project → after.gone kind project) :
    after.Tracks .violating sweep.currentlyViolating [] ∧
      after.Tracks .alerting sweep.currentlyAlerting [] := by
  rw [Sweep.Assertion, finished] at holds
  rcases holds with ⟨scanned, resolving⟩
  have noOrphan : ∀ project, project ∉ sweep.orphans := by
    intro project member
    rcases List.mem_filter.mp member with ⟨previously, apart⟩
    rw [decide_eq_true_eq] at apart
    exact apart.2 ((scanned.violating project).mpr (subset ((scanned.alerting project).mp previously)))
  constructor
  · constructor
    · simp
    · intro project member _
      exact lasts _ _ (resolving.violating.fresh project member)
    · intro project notViolating _
      exact gone _ _ (resolving.violating.gone project (List.not_mem_nil) notViolating)
  · constructor
    · simp
    · intro project member _
      exact lasts _ _ (resolving.alerting.fresh project member)
    · intro project notAlerting _
      exact gone _ _ (resolving.alerting.gone project (noOrphan project) notAlerting)

/-! ## Steps -/

theorem returned_of_step (stepped : (alertMachine ttl).step state event = some next) :
    next.returned = state.returned ∨
      ∃ own sweep, state.running own = some sweep ∧ sweep.stage = .finished ∧
        next = { state.setRunning own none with returned := (own, sweep) :: state.returned } := by
  cases AlertStep.of_step stepped with
  | finish running finished => exact .inr ⟨_, _, running, finished, rfl⟩
  | _ => exact .inl rfl

theorem lastSweep_of_running (stepped : (alertMachine ttl).step state event = some next)
    (running : next.running metric = some swept) :
    lastSweep next.returned metric = lastSweep state.returned metric := by
  rcases returned_of_step stepped with same | ⟨own, sweep, _, _, rfl⟩
  · rw [same]
  · apply lastSweep_cons_of_ne
    intro equal
    subst equal
    simp [AlertState.setRunning] at running

theorem idle_of_step (domain : CompleteInTime ttl state event)
    (stepped : (alertMachine ttl).step state event = some next)
    (idle : next.running metric = none) :
    (state.running metric = none ∧ state.now ≤ next.now ∧
        lastSweep next.returned metric = lastSweep state.returned metric ∧
        ∀ key : StateKey, key.metric = metric →
          next.keys.lookup key = state.keys.lookup key) ∨
      ∃ sweep, state.running metric = some sweep ∧ sweep.stage = .finished ∧
        next.keys = state.keys ∧ next.now = state.now ∧
        next.returned = (metric, sweep) :: state.returned := by
  cases AlertStep.of_step stepped with
  | @detect own database enabled _ =>
      by_cases same : metric = own
      · subst same
        rw [AlertState.setRunning_self] at idle
        cases idle
      · rw [AlertState.setRunning_other _ _ same] at idle
        exact .inl ⟨idle, le_rfl, rfl, fun _ _ => rfl⟩
  | @scan own projects sweep scanned _ _ =>
      by_cases same : metric = own
      · subst same
        rw [AlertState.setRunning_self] at idle
        cases idle
      · rw [AlertState.setRunning_other _ _ same] at idle
        exact .inl ⟨idle, le_rfl, rfl, fun _ _ => rfl⟩
  | @advance own sweep advanced keys _ found =>
      by_cases same : metric = own
      · subst same
        rw [AlertState.setRunning_self] at idle
        cases idle
      · rw [AlertState.setRunning_other _ _ same] at idle
        refine .inl ⟨idle, le_rfl, rfl, ?_⟩
        intro key equal
        subst equal
        exact Sweep.advance_lookup same found
  | @finish own sweep running finished =>
      by_cases same : metric = own
      · subst same
        exact .inr ⟨sweep, running, finished, rfl, rfl, rfl⟩
      · rw [AlertState.setRunning_other _ _ same] at idle
        exact .inl ⟨idle, le_rfl, lastSweep_cons_of_ne (Ne.symm same) _, fun _ _ => rfl⟩
  | abort _ => cases domain
  | tick elapsed => exact .inl ⟨idle, Nat.le_add_right _ _, rfl, fun _ _ => rfl⟩
  | expire key => cases domain

theorem CompleteInTime.ready
    (intime : ∀ last ∈ lastSweep state.returned metric, state.now < last.detectedAt + ttl) :
    ∀ time ∈ keyBound ttl state.returned metric, state.now < time := by
  intro time bounded
  rcases Option.map_eq_some_iff.mp bounded with ⟨last, found, rfl⟩
  exact intime last found

theorem metricSound_step (sound : ∀ metric, MetricSound ttl state metric)
    (domain : CompleteInTime ttl state event)
    (stepped : (alertMachine ttl).step state event = some next) (metric : Metric) :
    MetricSound ttl next metric := by
  have before := sound metric
  cases running : next.running metric with
  | none =>
      rw [MetricSound, running]
      rcases idle_of_step domain stepped running with
        ⟨idle, order, same, lookups⟩ | ⟨sweep, ran, finished, keys, time, returned⟩
      · rw [MetricSound, idle] at before
        intro fresh
        rw [keyBound, violatingBefore, alertingBefore, same]
        rcases before fresh with ⟨violating, alerting⟩
        exact ⟨violating.mono fun project => keeps_of_later (lookups _ rfl) order,
          alerting.mono fun project => keeps_of_later (lookups _ rfl) order⟩
      · rw [MetricSound, ran] at before
        rcases before with ⟨_, _, assertion⟩
        intro fresh
        rw [keyBound, violatingBefore, alertingBefore, returned, lastSweep_cons_self, keys, time]
        exact tracks_of_finished assertion finished (alertingBefore_subset _ _)
          (fun kind project holds => ⟨_, rfl, holds⟩) fun kind project gone => gone
  | some swept =>
      have same := lastSweep_of_running stepped running
      rw [MetricSound, running, keyBound, violatingBefore, alertingBefore, same]
      dsimp only
      cases SweepMove.of_step stepped running with
      | detected database enabled idle keys time started =>
          rw [MetricSound, idle] at before
          subst started
          rw [keys, time]
          rcases before (state.now + ttl) with ⟨violating, alerting⟩
          exact ⟨detectViolations_nodup database enabled metric state.now, le_rfl, rfl,
            violating, alerting⟩
      | scanned sweep projects ran keys time scanned =>
          rw [MetricSound, ran] at before
          rcases before with ⟨distinct, began, assertion⟩
          rcases Sweep.scan_violations scanned with ⟨violations, detectedAt⟩
          rw [violations, detectedAt, keys, time]
          exact ⟨distinct, began, assertion.scan (CompleteInTime.ready domain) scanned⟩
      | advanced sweep ran time advanced =>
          rw [MetricSound, ran] at before
          rcases before with ⟨distinct, began, assertion⟩
          rcases (Sweep.advance_effect advanced).1 with ⟨violations, detectedAt⟩
          rw [violations, detectedAt, time]
          have lasts : sweep.detectedAt + ttl ≤ state.now + ttl := Nat.add_le_add_right began ttl
          exact ⟨distinct, began,
            assertion.advance distinct (CompleteInTime.ready domain) lasts advanced⟩
      | ticked elapsed ran keys time =>
          rw [MetricSound, ran] at before
          rcases before with ⟨distinct, began, assertion⟩
          rw [keys, time]
          have order : state.now ≤ state.now + elapsed := Nat.le_add_right _ _
          exact ⟨distinct, Nat.le_trans began order,
            assertion.mono fun kind project => keeps_of_later rfl order⟩
      | expired key ran keys time => cases domain
      | other _ ran time lookups =>
          rw [MetricSound, ran] at before
          rcases before with ⟨distinct, began, assertion⟩
          rw [time]
          exact ⟨distinct, began,
            assertion.mono fun kind project => keeps_of_later (lookups _ rfl) le_rfl⟩

theorem returnedExact_step (sound : ∀ metric, MetricSound ttl state metric)
    (holds : ReturnedExact state.returned)
    (stepped : (alertMachine ttl).step state event = some next) :
    ReturnedExact next.returned := by
  rcases returned_of_step stepped with same | ⟨own, sweep, running, finished, rfl⟩
  · rw [same]
    exact holds
  · intro newer metric other older split
    cases newer with
    | nil =>
        cases split
        have running_sound := sound own
        rw [MetricSound, running] at running_sound
        rcases running_sound with ⟨distinct, _, assertion⟩
        exact CallbacksExact.of_assertion assertion finished distinct
    | cons entry newer =>
        rw [List.cons_append] at split
        exact holds newer metric other older (List.cons.inj split).2

/-! ## Runs -/

/-- In a run of sweeps that complete in time, each sweep has called the callback of a new
alert for the projects that violate now and did not at the last sweep of the metric, that
of an update for those that did, that of a resolution for those that did and do not now,
and the toast for those that are above their threshold of rooms now and were not then. -/
theorem callbacks_follow_violations (ttl : Nat) (now : Instant) (final : AlertState)
    (reaches : (alertMachine ttl).Reaches (CompleteInTime ttl) (idleAlerts ∅ now) final) :
    ReturnedExact final.returned := by
  have initially : ∀ metric, MetricSound ttl (idleAlerts ∅ now) metric := by
    intro metric fresh
    constructor
    · exact .of_gone fun project => not_alive_empty
    · exact .of_gone fun project => not_alive_empty
  have invariant : (∀ metric, MetricSound ttl final metric) ∧ ReturnedExact final.returned := by
    apply Machine.Reaches.invariant reaches
    · refine ⟨initially, ?_⟩
      intro newer metric sweep older split
      simp [idleAlerts] at split
    · intro current event next given domain stepped
      rcases given with ⟨sound, holds⟩
      exact ⟨metricSound_step sound domain stepped, returnedExact_step sound holds stepped⟩
  exact invariant.2

def alertThenResolved : List AlertEvent :=
  alertOnce ++ [.tick 1740] ++ beginSweep (conversationGoal ∅) [0] [0] ++ advanceTimes 5 ++
    [.finish .conversationDuration]

theorem callbacks_of_alert_then_resolved :
    ∃ final, (alertMachine 1800).runMeeting (CompleteInTime 1800) (idleAlerts ∅ 61000000)
        alertThenResolved = some final ∧
      ReturnedExact final.returned ∧
      final.returned.map (fun entry =>
        (entry.2.newAlerts.map Violation.project, entry.2.toasts.map Violation.project,
          entry.2.resolved)) = [([], [], [0]), ([0], [0], [])] := by
  have ends : ((alertMachine 1800).runMeeting (CompleteInTime 1800) (idleAlerts ∅ 61000000)
      alertThenResolved).map (fun final => final.returned.map fun entry =>
        (entry.2.newAlerts.map Violation.project, entry.2.toasts.map Violation.project,
          entry.2.resolved)) = some [([], [], [0]), ([0], [0], [])] := by
    decide
  rcases Option.map_eq_some_iff.mp ends with ⟨final, ran, called⟩
  exact ⟨final, ran, callbacks_follow_violations 1800 61000000 final (.of_runMeeting ran), called⟩

end ChatsEngine.Dashboard
