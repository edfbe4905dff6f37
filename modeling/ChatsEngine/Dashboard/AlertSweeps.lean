import ChatsEngine.Dashboard.MetricGoalAlerts

/-! # What a sweep does to the keys

An assertion for each stage of a sweep: which keys are there, and which callbacks have
been called. It is stated over what is known of the keys, so that it does not matter
why they last. -/

namespace ChatsEngine.Dashboard

/-! ## Facts about the keys of a metric -/

/-- What is known of the keys of a metric: the sweep has made them fresh, they last
until the sweep gets to them, or they are gone. -/
structure KeyFacts where
  fresh : StateKind → Uuid → Prop
  lasting : StateKind → Uuid → Prop
  gone : StateKind → Uuid → Prop

/-- Fresh keys do not expire before `fresh`, and lasting ones not before `bound`. -/
def KeyFacts.of (keys : TtlKeys StateKey) (now : Instant) (bound : Option Instant)
    (fresh : Instant) (metric : Metric) : KeyFacts where
  fresh kind project := TtlKeys.Until keys fresh ⟨kind, project, metric⟩
  lasting kind project := ∃ time ∈ bound, TtlKeys.Until keys time ⟨kind, project, metric⟩
  gone kind project := ¬TtlKeys.Alive keys now ⟨kind, project, metric⟩

/-- What was known of a key is still known. -/
structure KeyFacts.Keeps (facts after : KeyFacts) (kind : StateKind) (project : Uuid) : Prop where
  fresh : facts.fresh kind project → after.fresh kind project
  lasting : facts.lasting kind project → after.lasting kind project
  gone : facts.gone kind project → after.gone kind project

/-- The keys of a kind are the fresh ones in `new`, and besides them those in `old`. -/
structure KeyFacts.Tracks (facts : KeyFacts) (kind : StateKind) (old new : List Uuid) : Prop where
  fresh : ∀ project ∈ new, facts.fresh kind project
  lasting : ∀ project ∈ old, project ∉ new → facts.lasting kind project
  gone : ∀ project, project ∉ old → project ∉ new → facts.gone kind project

namespace KeyFacts

variable {facts after : KeyFacts} {kind : StateKind} {old others new : List Uuid}
  {project : Uuid} {keys keysAfter : TtlKeys StateKey} {now fresh : Instant}
  {bound : Option Instant} {metric : Metric}

theorem keeps_of_lookup
    (same : keysAfter.lookup ⟨kind, project, metric⟩ = keys.lookup ⟨kind, project, metric⟩) :
    Keeps (.of keys now bound fresh metric) (.of keysAfter now bound fresh metric) kind project where
  fresh := TtlKeys.Until.congr same
  lasting := by
    intro given
    rcases given with ⟨time, bounded, holds⟩
    exact ⟨time, bounded, holds.congr same⟩
  gone := by
    intro gone alive
    exact gone (TtlKeys.Until.congr same.symm alive)

namespace Tracks

theorem of_gone (gone : ∀ project, facts.gone kind project) : facts.Tracks kind [] [] := by
  constructor
  · simp
  · simp
  · exact fun project _ _ => gone project

theorem mono (tracks : facts.Tracks kind old new) (keeps : ∀ project, facts.Keeps after kind project) :
    after.Tracks kind old new where
  fresh project member := (keeps project).fresh (tracks.fresh project member)
  lasting project member notNew := (keeps project).lasting (tracks.lasting project member notNew)
  gone project notOld notNew := (keeps project).gone (tracks.gone project notOld notNew)

theorem congr (tracks : facts.Tracks kind old new) (same : ∀ project, project ∈ old ↔ project ∈ others) :
    facts.Tracks kind others new where
  fresh := tracks.fresh
  lasting project member := tracks.lasting project ((same project).mpr member)
  gone project notOld := tracks.gone project (mt (same project).mp notOld)

theorem claim (tracks : facts.Tracks kind old new)
    (keeps : ∀ other, other ≠ project → facts.Keeps after kind other)
    (claimed : after.fresh kind project) : after.Tracks kind old (new ++ [project]) where
  fresh other member := by
    by_cases same : other = project
    · subst same
      exact claimed
    · apply (keeps other same).fresh
      apply tracks.fresh
      simpa [same] using member
  lasting other member notNew := by
    simp only [List.mem_append, List.mem_singleton, not_or] at notNew
    exact (keeps other notNew.2).lasting (tracks.lasting other member notNew.1)
  gone other notOld notNew := by
    simp only [List.mem_append, List.mem_singleton, not_or] at notNew
    exact (keeps other notNew.2).gone (tracks.gone other notOld notNew.1)

theorem remove (tracks : facts.Tracks kind old new)
    (keeps : ∀ other, other ≠ project → facts.Keeps after kind other)
    (deleted : after.gone kind project) (notNew : project ∉ new)
    (rest : ∀ other, other ∈ others ↔ other ∈ old ∧ other ≠ project) :
    after.Tracks kind others new where
  fresh other member := by
    have different : other ≠ project := fun same => notNew (same ▸ member)
    exact (keeps other different).fresh (tracks.fresh other member)
  lasting other member otherNotNew := by
    rcases (rest other).mp member with ⟨wasOld, different⟩
    exact (keeps other different).lasting (tracks.lasting other wasOld otherNotNew)
  gone other notOther otherNotNew := by
    by_cases same : other = project
    · subst same
      exact deleted
    · apply (keeps other same).gone
      apply tracks.gone other _ otherNotNew
      intro wasOld
      exact notOther ((rest other).mpr ⟨wasOld, same⟩)

end Tracks

end KeyFacts

/-! ## The assertion -/

namespace Sweep

/-- The loop over the violations has claimed the keys of `handled`, and the alerting
keys of `alerted`. -/
structure Claimed (facts : KeyFacts) (sweep : Sweep) (handled alerted : List Violation) :
    Prop where
  newAlerts : sweep.newAlerts =
    handled.filter fun violation => violation.project ∉ sweep.previouslyViolating
  updates : sweep.updates =
    handled.filter fun violation => violation.project ∈ sweep.previouslyViolating
  toasts : sweep.toasts =
    alerted.filter fun violation => violation.project ∉ sweep.previouslyAlerting
  resolved : sweep.resolved = []
  violating : facts.Tracks .violating sweep.previouslyViolating (handled.map Violation.project)
  alerting : facts.Tracks .alerting sweep.previouslyAlerting (alerted.map Violation.project)

structure Called (sweep : Sweep) : Prop where
  newAlerts : sweep.newAlerts =
    sweep.violations.filter fun violation => violation.project ∉ sweep.previouslyViolating
  updates : sweep.updates =
    sweep.violations.filter fun violation => violation.project ∈ sweep.previouslyViolating
  toasts : sweep.toasts =
    (sweep.violations.filter fun violation => violation.Alerts).filter fun violation =>
      violation.project ∉ sweep.previouslyAlerting

/-- The projects of `cleared` have been resolved, and `remaining` is left to be
cleared. Of the alerting keys, those in `kept` are left besides the fresh ones. -/
structure Resolving (facts : KeyFacts) (sweep : Sweep) (cleared remaining kept : List Uuid) :
    Prop where
  called : sweep.Called
  resolved : sweep.resolved = cleared
  violating : facts.Tracks .violating remaining sweep.currentlyViolating
  alerting : facts.Tracks .alerting kept sweep.currentlyAlerting

/-- The projects whose keys were there when the sweep began. -/
structure Scanned (sweep : Sweep) (violating alerting : List Uuid) : Prop where
  nodup : sweep.previouslyViolating.Nodup
  violating : ∀ project, project ∈ sweep.previouslyViolating ↔ project ∈ violating
  alerting : ∀ project, project ∈ sweep.previouslyAlerting ↔ project ∈ alerting

/-- The alerting keys that neither of the last two loops clears, of projects that are
not violating and have had no violating key. -/
def orphans (sweep : Sweep) : List Uuid :=
  sweep.previouslyAlerting.filter fun project =>
    project ∉ sweep.currentlyViolating ∧ project ∉ sweep.previouslyViolating

/-- What holds before the step of each stage, if the keys of `violating` and of
`alerting` were there when the sweep began. -/
def Assertion (facts : KeyFacts) (violating alerting : List Uuid) (sweep : Sweep) : Prop :=
  match sweep.stage with
  | .scanningViolating =>
      sweep = start sweep.violations sweep.detectedAt ∧
        facts.Tracks .violating violating [] ∧ facts.Tracks .alerting alerting []
  | .scanningAlerting =>
      sweep =
          { start sweep.violations sweep.detectedAt with
            previouslyViolating := sweep.previouslyViolating, stage := .scanningAlerting } ∧
        sweep.previouslyViolating.Nodup ∧
        (∀ project, project ∈ sweep.previouslyViolating ↔ project ∈ violating) ∧
        facts.Tracks .violating violating [] ∧ facts.Tracks .alerting alerting []
  | .claiming remaining =>
      sweep.Scanned violating alerting ∧ ∃ handled, sweep.violations = handled ++ remaining ∧
        sweep.Claimed facts handled (handled.filter fun violation => violation.Alerts)
  | .refreshing violation remaining =>
      sweep.Scanned violating alerting ∧ violation.project ∈ sweep.previouslyViolating ∧
        ∃ handled, sweep.violations = handled ++ violation :: remaining ∧
          sweep.Claimed facts handled (handled.filter fun violation => violation.Alerts)
  | .claimingAlert violation remaining =>
      sweep.Scanned violating alerting ∧ violation.Alerts ∧
        ∃ handled, sweep.violations = handled ++ violation :: remaining ∧
          sweep.Claimed facts (handled ++ [violation])
            (handled.filter fun violation => violation.Alerts)
  | .refreshingAlert violation remaining =>
      sweep.Scanned violating alerting ∧ violation.Alerts ∧
        violation.project ∈ sweep.previouslyAlerting ∧
        ∃ handled, sweep.violations = handled ++ violation :: remaining ∧
          sweep.Claimed facts (handled ++ [violation])
            (handled.filter fun violation => violation.Alerts)
  | .clearing remaining =>
      sweep.Scanned violating alerting ∧ ∃ cleared, sweep.resolvedUuids = cleared ++ remaining ∧
        sweep.Resolving facts cleared remaining
          (sweep.previouslyAlerting.filter fun project => project ∉ cleared)
  | .clearingAlert project remaining =>
      sweep.Scanned violating alerting ∧
        ∃ cleared, sweep.resolvedUuids = cleared ++ project :: remaining ∧
          sweep.Resolving facts cleared remaining
            (sweep.previouslyAlerting.filter fun project => project ∉ cleared)
  | .dropping remaining =>
      sweep.Scanned violating alerting ∧ ∃ dropped, sweep.droppedUuids = dropped ++ remaining ∧
        sweep.Resolving facts sweep.resolvedUuids []
          (sweep.previouslyAlerting.filter fun project =>
            project ∉ sweep.resolvedUuids ∧ project ∉ dropped)
  | .finished =>
      sweep.Scanned violating alerting ∧
        sweep.Resolving facts sweep.resolvedUuids [] sweep.orphans

variable {facts after : KeyFacts} {violating alerting : List Uuid} {sweep swept : Sweep}
  {handled alerted : List Violation} {cleared remaining kept : List Uuid}

theorem Claimed.mono (holds : sweep.Claimed facts handled alerted)
    (keeps : ∀ kind project, facts.Keeps after kind project) :
    sweep.Claimed after handled alerted :=
  { holds with
    violating := holds.violating.mono (keeps .violating)
    alerting := holds.alerting.mono (keeps .alerting) }

theorem Resolving.mono (holds : sweep.Resolving facts cleared remaining kept)
    (keeps : ∀ kind project, facts.Keeps after kind project) :
    sweep.Resolving after cleared remaining kept :=
  { holds with
    violating := holds.violating.mono (keeps .violating)
    alerting := holds.alerting.mono (keeps .alerting) }

theorem Assertion.mono (holds : sweep.Assertion facts violating alerting)
    (keeps : ∀ kind project, facts.Keeps after kind project) :
    sweep.Assertion after violating alerting := by
  unfold Assertion at holds ⊢
  split at holds
  · next stage =>
      rcases holds with ⟨begun, violating, alerting⟩
      exact ⟨begun, violating.mono (keeps _), alerting.mono (keeps _)⟩
  · next stage =>
      rcases holds with ⟨begun, nodup, scanned, violating, alerting⟩
      exact ⟨begun, nodup, scanned, violating.mono (keeps _), alerting.mono (keeps _)⟩
  · next remaining stage =>
      rcases holds with ⟨scanned, handled, split, claimed⟩
      exact ⟨scanned, handled, split, claimed.mono keeps⟩
  · next violation remaining stage =>
      rcases holds with ⟨scanned, previously, handled, split, claimed⟩
      exact ⟨scanned, previously, handled, split, claimed.mono keeps⟩
  · next violation remaining stage =>
      rcases holds with ⟨scanned, alerts, handled, split, claimed⟩
      exact ⟨scanned, alerts, handled, split, claimed.mono keeps⟩
  · next violation remaining stage =>
      rcases holds with ⟨scanned, alerts, previously, handled, split, claimed⟩
      exact ⟨scanned, alerts, previously, handled, split, claimed.mono keeps⟩
  · next remaining stage =>
      rcases holds with ⟨scanned, cleared, split, resolving⟩
      exact ⟨scanned, cleared, split, resolving.mono keeps⟩
  · next project remaining stage =>
      rcases holds with ⟨scanned, cleared, split, resolving⟩
      exact ⟨scanned, cleared, split, resolving.mono keeps⟩
  · next remaining stage =>
      rcases holds with ⟨scanned, dropped, split, resolving⟩
      exact ⟨scanned, dropped, split, resolving.mono keeps⟩
  · next stage =>
      rcases holds with ⟨scanned, resolving⟩
      exact ⟨scanned, resolving.mono keeps⟩

/-! ## What a step keeps -/

section Step

variable {keys keysAfter : TtlKeys StateKey} {now ttl fresh : Nat} {bound : Option Instant}
  {metric : Metric} {violation : Violation} {rest : List Violation} {project : Uuid}
  {kind : StateKind}

theorem keeps_other_project {other : Uuid}
    (same : TtlKeys.SameExcept keys keysAfter ⟨kind, project, metric⟩) (different : other ≠ project) :
    KeyFacts.Keeps (.of keys now bound fresh metric) (.of keysAfter now bound fresh metric)
      kind other := by
  apply KeyFacts.keeps_of_lookup
  apply same
  simpa using different

theorem keeps_other_kind {other : StateKind}
    (same : TtlKeys.SameExcept keys keysAfter ⟨kind, project, metric⟩) (different : other ≠ kind)
    (own : Uuid) :
    KeyFacts.Keeps (.of keys now bound fresh metric) (.of keysAfter now bound fresh metric)
      other own := by
  apply KeyFacts.keeps_of_lookup
  apply same
  simp [different]

theorem alive_of_lasting (ready : ∀ time ∈ bound, now < time)
    (lasting : (KeyFacts.of keys now bound fresh metric).lasting kind project) :
    TtlKeys.Alive keys now ⟨kind, project, metric⟩ := by
  rcases lasting with ⟨time, bounded, holds⟩
  exact holds.alive (ready time bounded)

theorem alive_iff_mem {old new : List Uuid} (ready : ∀ time ∈ bound, now < time)
    (tracks : (KeyFacts.of keys now bound fresh metric).Tracks kind old new)
    (notNew : project ∉ new) :
    TtlKeys.Alive keys now ⟨kind, project, metric⟩ ↔ project ∈ old := by
  constructor
  · intro alive
    by_contra notOld
    exact tracks.gone project notOld notNew alive
  · intro member
    exact alive_of_lasting ready (tracks.lasting project member notNew)

theorem project_notMem_handled {violations : List Violation}
    (distinct : (violations.map Violation.project).Nodup)
    (split : violations = handled ++ violation :: rest) :
    violation.project ∉ handled.map Violation.project := by
  rw [split, List.map_append, List.map_cons] at distinct
  intro member
  exact List.disjoint_of_nodup_append distinct member List.mem_cons_self

theorem project_notMem_alerted {violations : List Violation}
    (distinct : (violations.map Violation.project).Nodup)
    (split : violations = handled ++ violation :: rest) :
    violation.project ∉
      (handled.filter fun violation => violation.Alerts).map Violation.project := by
  intro member
  apply project_notMem_handled distinct split
  exact (List.filter_sublist.map _).subset member

section Insert

variable (lasts : fresh ≤ now + ttl)
include lasts

theorem Claimed.insertViolating
    (holds : sweep.Claimed (.of keys now bound fresh metric) handled alerted)
    (newAlerts : swept.newAlerts = (handled ++ [violation]).filter fun violation =>
      violation.project ∉ swept.previouslyViolating)
    (updates : swept.updates = (handled ++ [violation]).filter fun violation =>
      violation.project ∈ swept.previouslyViolating)
    (toasts : swept.toasts = sweep.toasts) (resolved : swept.resolved = sweep.resolved)
    (previouslyViolating : swept.previouslyViolating = sweep.previouslyViolating)
    (previouslyAlerting : swept.previouslyAlerting = sweep.previouslyAlerting) :
    swept.Claimed
      (.of (keys.insert ⟨.violating, violation.project, metric⟩ (now + ttl)) now bound fresh
        metric)
      (handled ++ [violation]) alerted where
  newAlerts := newAlerts
  updates := updates
  toasts := by rw [toasts, previouslyAlerting, holds.toasts]
  resolved := resolved.trans holds.resolved
  violating := by
    rw [previouslyViolating, List.map_append]
    apply holds.violating.claim
    · intro other different
      exact keeps_other_project (TtlKeys.sameExcept_insert _) different
    · exact TtlKeys.Until.insert lasts
  alerting := by
    rw [previouslyAlerting]
    exact holds.alerting.mono (keeps_other_kind (TtlKeys.sameExcept_insert _) (by simp))

theorem Claimed.insertAlerting
    (holds : sweep.Claimed (.of keys now bound fresh metric) handled alerted)
    (newAlerts : swept.newAlerts = sweep.newAlerts) (updates : swept.updates = sweep.updates)
    (toasts : swept.toasts = (alerted ++ [violation]).filter fun violation =>
      violation.project ∉ swept.previouslyAlerting)
    (resolved : swept.resolved = sweep.resolved)
    (previouslyViolating : swept.previouslyViolating = sweep.previouslyViolating)
    (previouslyAlerting : swept.previouslyAlerting = sweep.previouslyAlerting) :
    swept.Claimed
      (.of (keys.insert ⟨.alerting, violation.project, metric⟩ (now + ttl)) now bound fresh metric)
      handled (alerted ++ [violation]) where
  newAlerts := by rw [newAlerts, previouslyViolating, holds.newAlerts]
  updates := by rw [updates, previouslyViolating, holds.updates]
  toasts := toasts
  resolved := resolved.trans holds.resolved
  violating := by
    rw [previouslyViolating]
    exact holds.violating.mono (keeps_other_kind (TtlKeys.sameExcept_insert _) (by simp))
  alerting := by
    rw [previouslyAlerting, List.map_append]
    apply holds.alerting.claim
    · intro other different
      exact keeps_other_project (TtlKeys.sameExcept_insert _) different
    · exact TtlKeys.Until.insert lasts

end Insert

theorem Resolving.eraseViolating (erased : project ∉ sweep.currentlyViolating)
    (once : (project :: remaining).Nodup)
    (holds : sweep.Resolving (.of keys now bound fresh metric) cleared (project :: remaining) kept) :
    sweep.Resolving (.of (keys.erase ⟨.violating, project, metric⟩) now bound fresh metric)
      cleared remaining kept where
  called := holds.called
  resolved := holds.resolved
  violating := by
    apply holds.violating.remove
    · intro other different
      exact keeps_other_project TtlKeys.sameExcept_erase different
    · exact TtlKeys.not_alive_erase
    · exact erased
    · intro other
      rw [List.nodup_cons] at once
      simp only [List.mem_cons]
      constructor
      · intro member
        exact ⟨.inr member, fun same => once.1 (same ▸ member)⟩
      · rintro ⟨same | member, different⟩
        · exact absurd same different
        · exact member
  alerting := holds.alerting.mono (keeps_other_kind TtlKeys.sameExcept_erase (by simp))

theorem Resolving.eraseAlerting {others : List Uuid}
    (erased : project ∉ sweep.currentlyAlerting)
    (rest : ∀ other, other ∈ others ↔ other ∈ kept ∧ other ≠ project)
    (holds : sweep.Resolving (.of keys now bound fresh metric) cleared remaining kept) :
    sweep.Resolving (.of (keys.erase ⟨.alerting, project, metric⟩) now bound fresh metric)
      cleared remaining others where
  called := holds.called
  resolved := holds.resolved
  violating := holds.violating.mono (keeps_other_kind TtlKeys.sameExcept_erase (by simp))
  alerting := by
    apply holds.alerting.remove
    · intro other different
      exact keeps_other_project TtlKeys.sameExcept_erase different
    · exact TtlKeys.not_alive_erase
    · exact erased
    · exact rest

/-! ### One stage after the other -/

theorem Claimed.atStage (holds : sweep.Claimed facts handled alerted) (stage : SweepStage) :
    Claimed facts { sweep with stage } handled alerted :=
  ⟨holds.newAlerts, holds.updates, holds.toasts, holds.resolved, holds.violating, holds.alerting⟩

theorem Resolving.atStage (holds : sweep.Resolving facts cleared remaining kept)
    (stage : SweepStage) : Resolving facts { sweep with stage } cleared remaining kept :=
  ⟨⟨holds.called.newAlerts, holds.called.updates, holds.called.toasts⟩, holds.resolved,
    holds.violating, holds.alerting⟩

theorem Resolving.callResolved (holds : sweep.Resolving facts cleared remaining kept)
    (stage : SweepStage) :
    Resolving facts { sweep with resolved := sweep.resolved ++ [project], stage }
      (cleared ++ [project]) remaining kept :=
  ⟨⟨holds.called.newAlerts, holds.called.updates, holds.called.toasts⟩,
    congrArg (· ++ [project]) holds.resolved, holds.violating, holds.alerting⟩

theorem Scanned.of_same (holds : sweep.Scanned violating alerting)
    (sameViolating : swept.previouslyViolating = sweep.previouslyViolating)
    (sameAlerting : swept.previouslyAlerting = sweep.previouslyAlerting) :
    swept.Scanned violating alerting where
  nodup := sameViolating ▸ holds.nodup
  violating := sameViolating ▸ holds.violating
  alerting := sameAlerting ▸ holds.alerting

theorem assertion_afterState (scanned : sweep.Scanned violating alerting)
    (stage : sweep.stage = afterState violation rest)
    (split : sweep.violations = handled ++ violation :: rest)
    (claimed : sweep.Claimed facts (handled ++ [violation])
      (handled.filter fun violation => violation.Alerts)) :
    sweep.Assertion facts violating alerting := by
  by_cases alerts : violation.Alerts
  · have next : sweep.stage = .claimingAlert violation rest := by
      rw [stage, afterState, if_pos alerts]
    rw [Assertion, next]
    exact ⟨scanned, alerts, handled, split, claimed⟩
  · have next : sweep.stage = .claiming rest := by rw [stage, afterState, if_neg alerts]
    rw [Assertion, next]
    refine ⟨scanned, handled ++ [violation], by simp [split], ?_⟩
    simpa [List.filter_append, alerts] using claimed

theorem assertion_afterAlert (scanned : sweep.Scanned violating alerting)
    (stage : sweep.stage = .claiming rest) (alerts : violation.Alerts)
    (split : sweep.violations = handled ++ violation :: rest)
    (claimed : sweep.Claimed facts (handled ++ [violation])
      ((handled.filter fun violation => violation.Alerts) ++ [violation])) :
    sweep.Assertion facts violating alerting := by
  rw [Assertion, stage]
  refine ⟨scanned, handled ++ [violation], by simp [split], ?_⟩
  simpa [List.filter_append, alerts] using claimed

theorem Claimed.called (split : sweep.violations = handled)
    (claimed : sweep.Claimed facts handled (handled.filter fun violation => violation.Alerts)) :
    sweep.Resolving facts [] sweep.resolvedUuids
      (sweep.previouslyAlerting.filter fun project => project ∉ ([] : List Uuid)) := by
  subst split
  refine ⟨⟨claimed.newAlerts, claimed.updates, claimed.toasts⟩, claimed.resolved, ?_, ?_⟩
  · -- The projects that are violating still have fresh keys.
    refine ⟨claimed.violating.fresh, ?_, ?_⟩
    · intro project member notNew
      exact claimed.violating.lasting project (List.mem_of_mem_filter member) notNew
    · intro project notOld notNew
      apply claimed.violating.gone project _ notNew
      intro member
      exact notOld (List.mem_filter.mpr ⟨member, decide_eq_true notNew⟩)
  · simpa [currentlyAlerting] using claimed.alerting

theorem mem_currentlyViolating_of_alerting (alerts : project ∈ sweep.currentlyAlerting) :
    project ∈ sweep.currentlyViolating := by
  rcases List.mem_map.mp alerts with ⟨violation, member, rfl⟩
  exact List.mem_map_of_mem (List.mem_of_mem_filter member)

theorem Resolving.finish
    (holds : sweep.Resolving facts sweep.resolvedUuids []
      (sweep.previouslyAlerting.filter fun project =>
        project ∉ sweep.resolvedUuids ∧ project ∉ sweep.droppedUuids)) :
    sweep.Resolving facts sweep.resolvedUuids [] sweep.orphans := by
  refine { holds with alerting := ⟨holds.alerting.fresh, ?_, ?_⟩ }
  · intro project member notAlerting
    apply holds.alerting.lasting project _ notAlerting
    simp only [orphans, resolvedUuids, droppedUuids, List.mem_filter, decide_eq_true_eq] at member ⊢
    tauto
  · intro project notOrphan notAlerting
    apply holds.alerting.gone project _ notAlerting
    intro kept
    apply notOrphan
    simp only [orphans, resolvedUuids, droppedUuids, List.mem_filter, decide_eq_true_eq] at kept ⊢
    tauto

theorem resolvedUuids_disjoint (member : project ∈ sweep.resolvedUuids) :
    project ∉ sweep.currentlyViolating := by
  simpa using (List.mem_filter.mp member).2

section Stages

variable (holds : sweep.Assertion (.of keys now bound fresh metric) violating alerting)
  (advanced : sweep.advance keys now ttl metric = some (keysAfter, swept))
include holds advanced

section Violations

variable (distinct : (sweep.violations.map Violation.project).Nodup)
  (ready : ∀ time ∈ bound, now < time)
include distinct ready

theorem claiming_step (stage : sweep.stage = .claiming (violation :: rest))
    (lasts : fresh ≤ now + ttl) :
    swept.Assertion (.of keysAfter now bound fresh metric) violating alerting := by
  rw [Assertion, stage] at holds
  rw [Sweep.advance, stage] at advanced
  rcases holds with ⟨scanned, handled, split, claimed⟩
  have notHandled := project_notMem_handled distinct split
  dsimp only at advanced
  split at advanced
  · next inserted set =>
      cases advanced
      rcases TtlKeys.setNx_eq_some set with ⟨gone, rfl⟩
      have notPrevious := mt (alive_iff_mem ready claimed.violating notHandled).mpr gone
      refine assertion_afterState (scanned.of_same rfl rfl) rfl split ?_
      refine claimed.insertViolating lasts ?_ ?_ rfl rfl rfl rfl
      · simp [claimed.newAlerts, notPrevious]
      · simp [claimed.updates, notPrevious]
  · next refused =>
      cases advanced
      have alive := TtlKeys.alive_of_setNx_eq_none refused
      have previous := (alive_iff_mem ready claimed.violating notHandled).mp alive
      exact ⟨scanned.of_same rfl rfl, previous, handled, split, claimed.atStage _⟩

theorem refreshing_step (stage : sweep.stage = .refreshing violation rest)
    (lasts : fresh ≤ now + ttl) :
    swept.Assertion (.of keysAfter now bound fresh metric) violating alerting := by
  rw [Assertion, stage] at holds
  rw [Sweep.advance, stage] at advanced
  cases advanced
  rcases holds with ⟨scanned, previous, handled, split, claimed⟩
  have notHandled := project_notMem_handled distinct split
  have alive := (alive_iff_mem ready claimed.violating notHandled).mpr previous
  rw [TtlKeys.expire_eq alive]
  refine assertion_afterState (scanned.of_same rfl rfl) rfl split ?_
  refine claimed.insertViolating lasts ?_ ?_ rfl rfl rfl rfl
  · simp [claimed.newAlerts, previous]
  · simp [claimed.updates, previous]

theorem claimingAlert_step (stage : sweep.stage = .claimingAlert violation rest)
    (lasts : fresh ≤ now + ttl) :
    swept.Assertion (.of keysAfter now bound fresh metric) violating alerting := by
  rw [Assertion, stage] at holds
  rw [Sweep.advance, stage] at advanced
  rcases holds with ⟨scanned, alerts, handled, split, claimed⟩
  have notAlerted := project_notMem_alerted distinct split
  dsimp only at advanced
  split at advanced
  · next inserted set =>
      cases advanced
      rcases TtlKeys.setNx_eq_some set with ⟨gone, rfl⟩
      have notPrevious := mt (alive_iff_mem ready claimed.alerting notAlerted).mpr gone
      refine assertion_afterAlert (scanned.of_same rfl rfl) rfl alerts split ?_
      refine claimed.insertAlerting lasts rfl rfl ?_ rfl rfl rfl
      simp [claimed.toasts, notPrevious]
  · next refused =>
      cases advanced
      have alive := TtlKeys.alive_of_setNx_eq_none refused
      have previous := (alive_iff_mem ready claimed.alerting notAlerted).mp alive
      exact ⟨scanned.of_same rfl rfl, alerts, previous, handled, split, claimed.atStage _⟩

theorem refreshingAlert_step (stage : sweep.stage = .refreshingAlert violation rest)
    (lasts : fresh ≤ now + ttl) :
    swept.Assertion (.of keysAfter now bound fresh metric) violating alerting := by
  rw [Assertion, stage] at holds
  rw [Sweep.advance, stage] at advanced
  cases advanced
  rcases holds with ⟨scanned, alerts, previous, handled, split, claimed⟩
  have notAlerted := project_notMem_alerted distinct split
  have alive := (alive_iff_mem ready claimed.alerting notAlerted).mpr previous
  rw [TtlKeys.expire_eq alive]
  refine assertion_afterAlert (scanned.of_same rfl rfl) rfl alerts split ?_
  refine claimed.insertAlerting lasts rfl rfl ?_ rfl rfl rfl
  simp [claimed.toasts, previous]

end Violations

theorem clearing_step {rest : List Uuid} (stage : sweep.stage = .clearing (project :: rest)) :
    swept.Assertion (.of keysAfter now bound fresh metric) violating alerting := by
  rw [Assertion, stage] at holds
  rw [Sweep.advance, stage] at advanced
  cases advanced
  rcases holds with ⟨scanned, cleared, split, resolving⟩
  have member : project ∈ sweep.resolvedUuids := by simp [split]
  have once : (project :: rest).Nodup := by
    have nodup : sweep.resolvedUuids.Nodup := scanned.nodup.filter _
    rw [split] at nodup
    exact nodup.of_append_right
  refine ⟨scanned.of_same rfl rfl, cleared, split, ?_⟩
  exact (resolving.eraseViolating (resolvedUuids_disjoint member) once).atStage _

theorem clearingAlert_step {rest : List Uuid} (stage : sweep.stage = .clearingAlert project rest) :
    swept.Assertion (.of keysAfter now bound fresh metric) violating alerting := by
  rw [Assertion, stage] at holds
  rw [Sweep.advance, stage] at advanced
  cases advanced
  rcases holds with ⟨scanned, cleared, split, resolving⟩
  have member : project ∈ sweep.resolvedUuids := by simp [split]
  have notAlerting := mt mem_currentlyViolating_of_alerting (resolvedUuids_disjoint member)
  refine ⟨scanned.of_same rfl rfl, cleared ++ [project],
    split.trans (List.append_cons cleared project rest), ?_⟩
  apply Resolving.callResolved
  apply resolving.eraseAlerting notAlerting
  intro other
  simp only [List.mem_filter, List.mem_append, List.mem_singleton, decide_eq_true_eq]
  tauto

theorem cleared_step (stage : sweep.stage = .clearing []) :
    swept.Assertion (.of keysAfter now bound fresh metric) violating alerting := by
  rw [Assertion, stage] at holds
  rw [Sweep.advance, stage] at advanced
  cases advanced
  rcases holds with ⟨scanned, cleared, split, resolving⟩
  rw [List.append_nil] at split
  subst split
  have kept : (sweep.previouslyAlerting.filter fun project =>
        project ∉ sweep.resolvedUuids ∧ project ∉ ([] : List Uuid)) =
      sweep.previouslyAlerting.filter fun project => project ∉ sweep.resolvedUuids := by
    simp
  rw [← kept] at resolving
  exact ⟨scanned.of_same rfl rfl, [], rfl, resolving.atStage _⟩

theorem dropping_step {rest : List Uuid} (stage : sweep.stage = .dropping (project :: rest)) :
    swept.Assertion (.of keysAfter now bound fresh metric) violating alerting := by
  rw [Assertion, stage] at holds
  rw [Sweep.advance, stage] at advanced
  cases advanced
  rcases holds with ⟨scanned, dropped, split, resolving⟩
  have member : project ∈ sweep.droppedUuids := by simp [split]
  have notAlerting : project ∉ sweep.currentlyAlerting := by
    have selected := of_decide_eq_true (List.mem_filter.mp member).2
    exact selected.1
  refine ⟨scanned.of_same rfl rfl, dropped ++ [project],
    split.trans (List.append_cons dropped project rest), ?_⟩
  apply Resolving.atStage
  apply resolving.eraseAlerting notAlerting
  intro other
  simp only [List.mem_filter, List.mem_append, List.mem_singleton, decide_eq_true_eq]
  tauto

end Stages

theorem Assertion.advance
    (holds : sweep.Assertion (.of keys now bound fresh metric) violating alerting)
    (distinct : (sweep.violations.map Violation.project).Nodup)
    (ready : ∀ time ∈ bound, now < time) (lasts : fresh ≤ now + ttl)
    (advanced : sweep.advance keys now ttl metric = some (keysAfter, swept)) :
    swept.Assertion (.of keysAfter now bound fresh metric) violating alerting := by
  cases stage : sweep.stage with
  | scanningViolating | scanningAlerting | finished =>
      rw [Sweep.advance, stage] at advanced
      cases advanced
  | claiming remaining =>
      cases remaining with
      | nil =>
          rw [Assertion, stage] at holds
          rw [Sweep.advance, stage] at advanced
          cases advanced
          rcases holds with ⟨scanned, handled, split, claimed⟩
          rw [List.append_nil] at split
          exact ⟨scanned.of_same rfl rfl, [], rfl, (claimed.called split).atStage _⟩
      | cons violation rest => exact claiming_step holds advanced distinct ready stage lasts
  | refreshing violation rest => exact refreshing_step holds advanced distinct ready stage lasts
  | claimingAlert violation rest =>
      exact claimingAlert_step holds advanced distinct ready stage lasts
  | refreshingAlert violation rest =>
      exact refreshingAlert_step holds advanced distinct ready stage lasts
  | clearing remaining =>
      cases remaining with
      | nil => exact cleared_step holds advanced stage
      | cons project rest => exact clearing_step holds advanced stage
  | clearingAlert project rest => exact clearingAlert_step holds advanced stage
  | dropping remaining =>
      cases remaining with
      | nil =>
          rw [Assertion, stage] at holds
          rw [Sweep.advance, stage] at advanced
          cases advanced
          rcases holds with ⟨scanned, dropped, split, resolving⟩
          rw [List.append_nil] at split
          subst split
          exact ⟨scanned.of_same rfl rfl, resolving.finish.atStage _⟩
      | cons project rest => exact dropping_step holds advanced stage

/-! ### The scans -/

theorem mem_keysForMetric_iff :
    project ∈ keysForMetric keys now kind metric ↔
      TtlKeys.Alive keys now ⟨kind, project, metric⟩ := by
  simp only [keysForMetric, List.mem_map, List.mem_filter, TtlKeys.mem_listed_iff,
    decide_eq_true_eq]
  constructor
  · intro given
    rcases given with ⟨key, ⟨alive, rfl, rfl⟩, rfl⟩
    exact alive
  · intro alive
    exact ⟨⟨kind, project, metric⟩, ⟨alive, rfl, rfl⟩, rfl⟩

theorem nodup_keysForMetric : (keysForMetric keys now kind metric).Nodup := by
  apply List.Nodup.map_on _ (TtlKeys.nodup_listed.filter _)
  intro key member other otherMember same
  have own := of_decide_eq_true (List.mem_filter.mp member).2
  have otherOwn := of_decide_eq_true (List.mem_filter.mp otherMember).2
  cases key
  cases other
  simp_all

theorem Assertion.scan {projects : List Uuid}
    (holds : sweep.Assertion (.of keys now bound fresh metric) violating alerting)
    (ready : ∀ time ∈ bound, now < time)
    (scanned : sweep.scan keys now metric projects = some swept) :
    swept.Assertion (.of keys now bound fresh metric) violating alerting := by
  unfold Assertion at holds
  unfold Sweep.scan at scanned
  split at scanned
  · next stage =>
      rw [stage] at holds
      rcases holds with ⟨begun, tracksViolating, tracksAlerting⟩
      split at scanned
      · next listed =>
          cases scanned
          refine ⟨?_, listed.nodup_iff.mpr nodup_keysForMetric, ?_, tracksViolating, tracksAlerting⟩
          · exact congrArg (fun begun : Sweep =>
              { begun with previouslyViolating := projects, stage := .scanningAlerting }) begun
          · intro project
            rw [listed.mem_iff, mem_keysForMetric_iff]
            exact alive_iff_mem ready tracksViolating (List.not_mem_nil)
      · cases scanned
  · next stage =>
      rw [stage] at holds
      rcases holds with ⟨begun, nodup, same, tracksViolating, tracksAlerting⟩
      split at scanned
      · next listed =>
          cases scanned
          have sameAlerting : ∀ project, project ∈ projects ↔ project ∈ alerting := by
            intro project
            rw [listed.mem_iff, mem_keysForMetric_iff]
            exact alive_iff_mem ready tracksAlerting (List.not_mem_nil)
          refine ⟨⟨nodup, same, sameAlerting⟩, [], rfl, ?_⟩
          constructor
          · exact congrArg Sweep.newAlerts begun
          · exact congrArg Sweep.updates begun
          · exact congrArg Sweep.toasts begun
          · exact congrArg Sweep.resolved begun
          · exact tracksViolating.congr fun project => (same project).symm
          · exact tracksAlerting.congr fun project => (sameAlerting project).symm
      · cases scanned
  · cases scanned

/-! ### What a step leaves alone -/

theorem scan_violations {projects : List Uuid}
    (scanned : sweep.scan keys now metric projects = some swept) :
    swept.violations = sweep.violations ∧ swept.detectedAt = sweep.detectedAt := by
  unfold Sweep.scan at scanned
  split at scanned
  · split at scanned <;> cases scanned
    exact ⟨rfl, rfl⟩
  · split at scanned <;> cases scanned
    exact ⟨rfl, rfl⟩
  · cases scanned

theorem advance_effect (advanced : sweep.advance keys now ttl metric = some (keysAfter, swept)) :
    (swept.violations = sweep.violations ∧ swept.detectedAt = sweep.detectedAt) ∧
      (keysAfter = keys ∨
        ∃ kind project, TtlKeys.SameExcept keys keysAfter ⟨kind, project, metric⟩) := by
  have inserted : ∀ kind project, TtlKeys.SameExcept keys
      (TtlKeys.expire keys now ⟨kind, project, metric⟩ ttl) ⟨kind, project, metric⟩ := by
    intro kind project
    rw [TtlKeys.expire]
    split
    · exact TtlKeys.sameExcept_insert _
    · exact fun key different => rfl
  have set : ∀ kind project after,
      TtlKeys.setNx keys now ⟨kind, project, metric⟩ ttl = some after →
      TtlKeys.SameExcept keys after ⟨kind, project, metric⟩ := by
    intro kind project after set
    rcases TtlKeys.setNx_eq_some set with ⟨_, rfl⟩
    exact TtlKeys.sameExcept_insert _
  unfold Sweep.advance at advanced
  split at advanced
  · cases advanced
  · cases advanced
  · cases advanced
    exact ⟨⟨rfl, rfl⟩, .inl rfl⟩
  · split at advanced
    · next after found =>
        cases advanced
        exact ⟨⟨rfl, rfl⟩, .inr ⟨_, _, set _ _ _ found⟩⟩
    · cases advanced
      exact ⟨⟨rfl, rfl⟩, .inl rfl⟩
  · cases advanced
    exact ⟨⟨rfl, rfl⟩, .inr ⟨_, _, inserted _ _⟩⟩
  · split at advanced
    · next after found =>
        cases advanced
        exact ⟨⟨rfl, rfl⟩, .inr ⟨_, _, set _ _ _ found⟩⟩
    · cases advanced
      exact ⟨⟨rfl, rfl⟩, .inl rfl⟩
  · cases advanced
    exact ⟨⟨rfl, rfl⟩, .inr ⟨_, _, inserted _ _⟩⟩
  · cases advanced
    exact ⟨⟨rfl, rfl⟩, .inl rfl⟩
  · cases advanced
    exact ⟨⟨rfl, rfl⟩, .inr ⟨_, _, TtlKeys.sameExcept_erase⟩⟩
  · cases advanced
    exact ⟨⟨rfl, rfl⟩, .inr ⟨_, _, TtlKeys.sameExcept_erase⟩⟩
  · cases advanced
    exact ⟨⟨rfl, rfl⟩, .inl rfl⟩
  · cases advanced
    exact ⟨⟨rfl, rfl⟩, .inr ⟨_, _, TtlKeys.sameExcept_erase⟩⟩
  · cases advanced

theorem advance_lookup {key : StateKey} (other : key.metric ≠ metric)
    (advanced : sweep.advance keys now ttl metric = some (keysAfter, swept)) :
    keysAfter.lookup key = keys.lookup key := by
  rcases (advance_effect advanced).2 with rfl | ⟨kind, project, same⟩
  · rfl
  · apply same
    intro equal
    subst equal
    exact other rfl

end Step

end Sweep

/-! ## The sweep of a metric in a run -/

variable {ttl : Nat} {state next : AlertState} {event : AlertEvent} {metric : Metric}
  {swept : Sweep}

inductive AlertStep (ttl : Nat) (state : AlertState) : AlertEvent → AlertState → Prop
  | detect {own : Metric} (database : GoalDatabase) (enabled : Uuid → Bool) :
      state.running own = none →
      AlertStep ttl state (.detect own database enabled)
        (state.setRunning own
          (some (.start (detectViolations database enabled own state.now) state.now)))
  | scan {own : Metric} {projects : List Uuid} {sweep scanned : Sweep} :
      state.running own = some sweep →
      sweep.scan state.keys state.now own projects = some scanned →
      AlertStep ttl state (.scan own projects) (state.setRunning own (some scanned))
  | advance {own : Metric} {sweep advanced : Sweep} {keys : TtlKeys StateKey} :
      state.running own = some sweep →
      sweep.advance state.keys state.now ttl own = some (keys, advanced) →
      AlertStep ttl state (.advance own) { state.setRunning own (some advanced) with keys }
  | finish {own : Metric} {sweep : Sweep} :
      state.running own = some sweep → sweep.stage = .finished →
      AlertStep ttl state (.finish own)
        { state.setRunning own none with returned := (own, sweep) :: state.returned }
  | abort {own : Metric} {sweep : Sweep} :
      state.running own = some sweep →
      AlertStep ttl state (.abort own) (state.setRunning own none)
  | tick (elapsed : Nat) :
      AlertStep ttl state (.tick elapsed) { state with now := state.now + elapsed }
  | expire (key : StateKey) :
      AlertStep ttl state (.expire key) { state with keys := state.keys.erase key }

theorem AlertStep.of_step (stepped : (alertMachine ttl).step state event = some next) :
    AlertStep ttl state event next := by
  cases event with
  | detect own database enabled =>
      simp only [alertMachine, AlertState.step] at stepped
      split at stepped
      · cases stepped
      · next idle =>
          cases stepped
          exact .detect database enabled idle
  | scan own projects =>
      simp only [alertMachine, AlertState.step] at stepped
      split at stepped
      · cases stepped
      · next sweep running =>
          rcases Option.map_eq_some_iff.mp stepped with ⟨scanned, found, rfl⟩
          exact .scan running found
  | advance own =>
      simp only [alertMachine, AlertState.step] at stepped
      split at stepped
      · cases stepped
      · next sweep running =>
          rcases Option.map_eq_some_iff.mp stepped with ⟨advanced, found, rfl⟩
          exact .advance running found
  | finish own =>
      simp only [alertMachine, AlertState.step] at stepped
      split at stepped
      · cases stepped
      · next sweep running =>
          split at stepped <;> cases stepped
          next finished => exact .finish running finished
  | abort own =>
      simp only [alertMachine, AlertState.step] at stepped
      split at stepped <;> cases stepped
      next sweep running => exact .abort running
  | tick elapsed =>
      cases stepped
      exact .tick elapsed
  | expire key =>
      cases stepped
      exact .expire key

theorem AlertState.setRunning_self (state : AlertState) (metric : Metric) (sweep : Option Sweep) :
    (state.setRunning metric sweep).running metric = sweep :=
  Function.update_self ..

theorem AlertState.setRunning_other (state : AlertState) {metric own : Metric}
    (sweep : Option Sweep) (different : metric ≠ own) :
    (state.setRunning own sweep).running metric = state.running metric :=
  Function.update_of_ne different ..

/-- How the sweep of a metric that is under way after an event has come to be. -/
inductive SweepMove (ttl : Nat) (state next : AlertState) (metric : Metric) (swept : Sweep) :
    AlertEvent → Prop
  | detected (database : GoalDatabase) (enabled : Uuid → Bool) :
      state.running metric = none → next.keys = state.keys → next.now = state.now →
      swept = .start (detectViolations database enabled metric state.now) state.now →
      SweepMove ttl state next metric swept (.detect metric database enabled)
  | scanned (sweep : Sweep) (projects : List Uuid) :
      state.running metric = some sweep → next.keys = state.keys → next.now = state.now →
      sweep.scan state.keys state.now metric projects = some swept →
      SweepMove ttl state next metric swept (.scan metric projects)
  | advanced (sweep : Sweep) :
      state.running metric = some sweep → next.now = state.now →
      sweep.advance state.keys state.now ttl metric = some (next.keys, swept) →
      SweepMove ttl state next metric swept (.advance metric)
  | ticked (elapsed : Nat) :
      state.running metric = some swept → next.keys = state.keys →
      next.now = state.now + elapsed →
      SweepMove ttl state next metric swept (.tick elapsed)
  | expired (key : StateKey) :
      state.running metric = some swept → next.keys = state.keys.erase key →
      next.now = state.now →
      SweepMove ttl state next metric swept (.expire key)
  | other (event : AlertEvent) :
      state.running metric = some swept → next.now = state.now →
      (∀ key : StateKey, key.metric = metric →
        next.keys.lookup key = state.keys.lookup key) →
      SweepMove ttl state next metric swept event

theorem SweepMove.of_step (stepped : (alertMachine ttl).step state event = some next)
    (running : next.running metric = some swept) :
    SweepMove ttl state next metric swept event := by
  cases AlertStep.of_step stepped with
  | @detect own database enabled idle =>
      by_cases same : metric = own
      · subst same
        rw [AlertState.setRunning_self] at running
        exact .detected database enabled idle rfl rfl (Option.some.inj running).symm
      · rw [AlertState.setRunning_other _ _ same] at running
        exact .other _ running rfl fun _ _ => rfl
  | @scan own projects sweep scanned before found =>
      by_cases same : metric = own
      · subst same
        rw [AlertState.setRunning_self] at running
        cases running
        exact .scanned sweep projects before rfl rfl found
      · rw [AlertState.setRunning_other _ _ same] at running
        exact .other _ running rfl fun _ _ => rfl
  | @advance own sweep advanced keys before found =>
      by_cases same : metric = own
      · subst same
        rw [AlertState.setRunning_self] at running
        cases running
        exact .advanced sweep before rfl found
      · rw [AlertState.setRunning_other _ _ same] at running
        refine .other _ running rfl ?_
        intro key equal
        subst equal
        exact Sweep.advance_lookup same found
  | @finish own sweep before finished =>
      by_cases same : metric = own
      · subst same
        rw [AlertState.setRunning_self] at running
        cases running
      · rw [AlertState.setRunning_other _ _ same] at running
        exact .other _ running rfl fun _ _ => rfl
  | @abort own sweep before =>
      by_cases same : metric = own
      · subst same
        rw [AlertState.setRunning_self] at running
        cases running
      · rw [AlertState.setRunning_other _ _ same] at running
        exact .other _ running rfl fun _ _ => rfl
  | tick elapsed => exact .ticked elapsed running rfl rfl
  | expire key => exact .expired key running rfl rfl

end ChatsEngine.Dashboard
