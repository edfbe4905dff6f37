import ChatsEngine.AiFeatures.HistorySummaries

/-! # What becomes of a history summary

The cancellation saves all columns of a row that may have been delivered since it was loaded,
and a generation that ends while the row is `PROCESSING` leaves it so. -/

namespace ChatsEngine.AiFeatures

namespace SummaryRun

/-- A summary that has been delivered is still there, and once both tasks have ended there is
one or there will be none. -/
structure Safe (run : SummaryRun) : Prop where
  kept : ∀ text ∈ run.delivered, run.row.status = .done ∧ run.row.summary = some text
  settled : run.generator = .ended → run.cancellation = .ended →
    run.row.status = .done ∨ run.row.status = .unavailable

instance : DecidablePred Safe :=
  fun run => decidable_of_iff ((∀ text ∈ run.delivered,
      run.row.status = .done ∧ run.row.summary = some text) ∧
      (run.generator = .ended → run.cancellation = .ended →
        run.row.status = .done ∨ run.row.status = .unavailable))
    ⟨fun both => ⟨both.1, both.2⟩, fun safe => ⟨safe.kept, safe.settled⟩⟩

/-- The other task has ended, and leaves the row in between. -/
def LeftProcessing (run : SummaryRun) : Prop :=
  run.cancellation = .ended ∧ run.row.status = .processing

/-- The generation does not end in `PROCESSING` after the cancellation, the cancellation does not
find `PROCESSING` after the generation, and does not save over a summary. -/
def Harmless (run : SummaryRun) : SummaryEvent → Prop
  | .generate .raises => raise run.generator = .ended → ¬run.LeftProcessing
  | .generate _ => True
  | .killGenerator => ¬run.LeftProcessing
  | .cancel =>
      match run.cancellation with
      | .scheduled => ¬(run.generator = .ended ∧ run.row.status = .processing)
      | .saving _ => ¬run.row.IsDelivered
      | .ended => True

/-! ## What always holds -/

def GeneratorStage.Sound : GeneratorStage → Prop
  | .saving summary _ =>
      summary.status = .done ∨ summary.status = .unavailable ∧ summary.summary = none
  | .loadingRoom summary => summary.summary = none
  | .gettingPrompt summary => summary.summary = none
  | .rejectingPrompt summary => summary.summary = none
  | .startingProcessing summary _ => summary.summary = none
  | .generating summary _ => summary.summary = none
  | .settingUnavailable summary _ => summary.summary = none
  | _ => True

def GeneratorStage.IsEarly : GeneratorStage → Prop
  | .scheduled => True
  | .loadingRoom _ => True
  | .gettingPrompt _ => True
  | .rejectingPrompt _ => True
  | .startingProcessing _ _ => True
  | _ => False

structure Consistent (run : SummaryRun) : Prop where
  sound : GeneratorStage.Sound run.generator
  early : GeneratorStage.IsEarly run.generator → run.row.status ≠ .processing
  undelivered : run.generator ≠ .ended → run.delivered = none ∧ run.row.summary = none
  delivered : ∀ text ∈ run.row.summary, run.row.status = .done ∧ run.delivered = some text
  cancelling : ∀ summary, run.cancellation = .saving summary →
    summary.status = .unavailable ∧ summary.summary = none
  cancelled : run.cancellation = .ended → run.row.status ≠ .pending

variable {run after next : SummaryRun} {stage : GeneratorStage}

theorem consistent_initial (prompts : List FeaturePrompt) : (initial prompts).Consistent where
  sound := trivial
  early := fun _ => nofun
  undelivered := fun _ => ⟨rfl, rfl⟩
  delivered := nofun
  cancelling := nofun
  cancelled := nofun

namespace Consistent

theorem withStage (consistent : run.Consistent) (running : run.generator ≠ .ended)
    (sound : GeneratorStage.Sound stage)
    (early : GeneratorStage.IsEarly stage → GeneratorStage.IsEarly run.generator) :
    Consistent { run with generator := stage } where
  sound := sound
  early := fun isEarly => consistent.early (early isEarly)
  undelivered := fun _ => consistent.undelivered running
  delivered := consistent.delivered
  cancelling := consistent.cancelling
  cancelled := consistent.cancelled

theorem updateStatus (consistent : run.Consistent) (running : run.generator ≠ .ended)
    {status : HistorySummaryStatus} (isLater : status ≠ .pending)
    (sound : GeneratorStage.Sound stage) (late : ¬GeneratorStage.IsEarly stage) :
    Consistent { run.updateStatus status with generator := stage } where
  sound := sound
  early := fun isEarly => absurd isEarly late
  undelivered := by
    intro _
    rcases consistent.undelivered running with ⟨undelivered, noSummary⟩
    refine ⟨?_, noSummary⟩
    simp [SummaryRun.updateStatus, write, undelivered, noSummary]
  delivered := by
    intro text isSummary
    cases (consistent.undelivered running).2.symm.trans isSummary
  cancelling := consistent.cancelling
  cancelled := fun _ => isLater

theorem save (consistent : run.Consistent) (running : run.generator ≠ .ended)
    {summary : HistorySummary}
    (sound : summary.status = .done ∨ summary.status = .unavailable ∧ summary.summary = none)
    (prompt : Option Uuid) :
    Consistent { run.write { summary with featurePrompt := prompt } with generator := .ended } where
  sound := trivial
  early := nofun
  undelivered := fun running => absurd rfl running
  delivered := by
    intro text isSummary
    have isText : summary.summary = some text := isSummary
    rcases sound with isDone | ⟨_, noSummary⟩
    · refine ⟨isDone, ?_⟩
      simp [write, (consistent.undelivered running).1, isDone, isText]
    · cases noSummary.symm.trans isText
  cancelling := consistent.cancelling
  cancelled := by
    intro _ isPending
    have status : summary.status = .pending := isPending
    rcases sound with isDone | ⟨unavailable, _⟩
    · cases isDone.symm.trans status
    · cases unavailable.symm.trans status

theorem scheduled (consistent : run.Consistent) :
    Consistent { run with
      cancellation :=
        if run.row.status = .pending then .saving { run.row with status := .unavailable }
        else .ended } where
  sound := consistent.sound
  early := consistent.early
  undelivered := consistent.undelivered
  delivered := consistent.delivered
  cancelling := by
    intro summary saves
    dsimp only at saves
    split at saves
    · next isPending =>
        cases saves
        refine ⟨rfl, ?_⟩
        cases isSummary : run.row.summary with
        | none => rfl
        | some text =>
            have isDone := (consistent.delivered text isSummary).1
            cases isPending.symm.trans isDone
    · cases saves
  cancelled := by
    intro ended
    dsimp only at ended
    split at ended
    · cases ended
    · next notPending => exact notPending

theorem cancelled_of_saving (consistent : run.Consistent) {summary : HistorySummary}
    (saving : run.cancellation = .saving summary) :
    Consistent { run.write summary with cancellation := .ended } := by
  rcases consistent.cancelling summary saving with ⟨unavailable, noSummary⟩
  constructor
  · exact consistent.sound
  · intro _ isProcessing
    cases unavailable.symm.trans isProcessing
  · intro running
    refine ⟨?_, noSummary⟩
    simp [write, (consistent.undelivered running).1, unavailable]
  · intro text isSummary
    cases noSummary.symm.trans isSummary
  · exact nofun
  · intro _ isPending
    cases unavailable.symm.trans isPending

theorem settled_iff (consistent : run.Consistent) (ended : run.cancellation = .ended) :
    (run.row.status = .done ∨ run.row.status = .unavailable) ↔ run.row.status ≠ .processing := by
  have notPending := consistent.cancelled ended
  cases status : run.row.status <;> simp_all

end Consistent

/-! ## One statement -/

theorem respond_sound (text : String) (prompt : FeaturePrompt) {summary : HistorySummary}
    (noSummary : summary.summary = none) :
    GeneratorStage.Sound (respond text summary prompt) ∧
      ¬GeneratorStage.IsEarly (respond text summary prompt) ∧
        respond text summary prompt ≠ .ended := by
  rw [respond]
  split
  · exact ⟨noSummary, id, nofun⟩
  · split
    · exact ⟨noSummary, id, nofun⟩
    · exact ⟨trivial, id, nofun⟩

theorem raise_sound : GeneratorStage.Sound (raise stage) ∧ ¬GeneratorStage.IsEarly (raise stage) := by
  cases stage <;> exact ⟨trivial, id⟩

theorem safe_updateStatus (consistent : run.Consistent) (running : run.generator ≠ .ended)
    {status : HistorySummaryStatus} (settles : stage = .ended → status = .unavailable) :
    Safe { run.updateStatus status with generator := stage } where
  kept := by
    rcases consistent.undelivered running with ⟨undelivered, noSummary⟩
    simp [updateStatus, write, undelivered, noSummary]
  settled := fun ended _ => .inr (settles ended)

theorem safe_save (consistent : run.Consistent) (running : run.generator ≠ .ended)
    {summary : HistorySummary}
    (sound : summary.status = .done ∨ summary.status = .unavailable ∧ summary.summary = none)
    (prompt : Option Uuid) :
    Safe { run.write { summary with featurePrompt := prompt } with generator := .ended } where
  kept := by
    intro text isDelivered
    have written : (if summary.status = .done then summary.summary else none) = some text := by
      simpa [write, (consistent.undelivered running).1] using isDelivered
    split at written
    · next isDone => exact ⟨isDone, written⟩
    · cases written
  settled := fun _ _ => sound.imp_right And.left

theorem safe_withStage_iff (consistent : run.Consistent) (safe : run.Safe) :
    Safe { run with generator := stage } ↔ (stage = .ended → ¬run.LeftProcessing) := by
  constructor
  · intro safeNext ended left
    have settled := safeNext.settled ended left.1
    exact (consistent.settled_iff left.1).mp settled left.2
  · intro harmless
    refine ⟨safe.kept, ?_⟩
    intro ended cancelled
    exact (consistent.settled_iff cancelled).mpr fun processing =>
      harmless ended ⟨cancelled, processing⟩

theorem keeps_of_read (consistent : run.Consistent)
    (isEarly : GeneratorStage.IsEarly run.generator) (sound : GeneratorStage.Sound stage) :
    Consistent { run with generator := stage } ∧
      (run.Safe → Safe { run with generator := stage }) := by
  have running : run.generator ≠ .ended := by
    intro ended
    rw [ended] at isEarly
    exact isEarly
  refine ⟨consistent.withStage running sound fun _ => isEarly, ?_⟩
  intro safe
  exact (safe_withStage_iff consistent safe).mpr fun _ left => consistent.early isEarly left.2

theorem generate_keeps (consistent : run.Consistent)
    (generated : run.generate run.generator = some (after, stage)) :
    Consistent { after with generator := stage } ∧
      (run.Safe → Safe { after with generator := stage }) := by
  have running : run.generator ≠ .ended := by
    intro ended
    rw [ended] at generated
    cases generated
  have sound := consistent.sound
  have read : ∀ {stage}, GeneratorStage.IsEarly run.generator → GeneratorStage.Sound stage → _ :=
    fun {stage} => @keeps_of_read run stage consistent
  cases isStage : run.generator with
  | scheduled =>
      rw [isStage] at generated read
      cases generated
      exact read trivial (consistent.undelivered running).2
  | loadingRoom summary =>
      rw [isStage] at generated sound read
      cases generated
      exact read trivial sound
  | gettingPrompt summary =>
      rw [isStage] at generated sound read
      cases generated
      apply read trivial
      split
      · trivial
      · split
        · exact sound
        · exact sound
  | rejectingPrompt summary =>
      rw [isStage] at generated
      cases generated
      exact ⟨consistent.updateStatus running nofun trivial id,
        fun _ => safe_updateStatus consistent running fun _ => rfl⟩
  | startingProcessing summary prompt =>
      rw [isStage] at generated sound
      cases generated
      exact ⟨consistent.updateStatus running nofun sound id,
        fun _ => safe_updateStatus consistent running nofun⟩
  | generating summary prompt =>
      rw [isStage] at generated
      cases generated
  | settingUnavailable summary prompt =>
      rw [isStage] at generated sound
      cases generated
      exact ⟨consistent.updateStatus running nofun (.inr ⟨rfl, sound⟩) id,
        fun _ => safe_updateStatus consistent running nofun⟩
  | settingDone summary prompt =>
      rw [isStage] at generated
      cases generated
      exact ⟨consistent.updateStatus running nofun (.inl rfl) id,
        fun _ => safe_updateStatus consistent running nofun⟩
  | saving summary prompt =>
      rw [isStage] at generated sound
      cases generated
      exact ⟨consistent.save running sound _, fun _ => safe_save consistent running sound _⟩
  | handling summary =>
      rw [isStage] at generated
      cases generated
      exact ⟨consistent.updateStatus running nofun trivial id,
        fun _ => safe_updateStatus consistent running fun _ => rfl⟩
  | ended =>
      rw [isStage] at generated
      cases generated

theorem advance_keeps {choice : GeneratorChoice} (consistent : run.Consistent)
    (advanced : run.advance choice = some (after, stage)) :
    Consistent { after with generator := stage } ∧ (run.Safe →
      (Safe { after with generator := stage } ↔ run.Harmless (.generate choice))) := by
  cases choice with
  | returns =>
      rcases generate_keeps consistent advanced with ⟨consistentNext, safeNext⟩
      exact ⟨consistentNext, fun safe => iff_of_true (safeNext safe) trivial⟩
  | responds text =>
      rw [advance] at advanced
      split at advanced
      · next summary prompt isStage =>
          cases advanced
          have sound := consistent.sound
          rw [isStage] at sound
          rcases respond_sound text prompt sound with ⟨soundNext, late, goesOn⟩
          have running : run.generator ≠ .ended := by simp [isStage]
          refine ⟨consistent.withStage running soundNext fun isEarly => absurd isEarly late, ?_⟩
          intro safe
          apply iff_of_true _ trivial
          exact (safe_withStage_iff consistent safe).mpr fun ended => absurd ended goesOn
      · cases advanced
  | raises =>
      rw [advance] at advanced
      split at advanced
      · cases advanced
      · next running =>
          cases advanced
          refine ⟨consistent.withStage running raise_sound.1
            fun isEarly => absurd isEarly raise_sound.2, ?_⟩
          exact safe_withStage_iff consistent

theorem safe_scheduled_iff (consistent : run.Consistent) (safe : run.Safe) :
    Safe { run with
      cancellation :=
        if run.row.status = .pending then .saving { run.row with status := .unavailable }
        else .ended } ↔
      ¬(run.generator = .ended ∧ run.row.status = .processing) := by
  constructor
  · intro safeNext both
    rcases both with ⟨ended, processing⟩
    have notPending : run.row.status ≠ .pending := by simp [processing]
    have settled := safeNext.settled ended (if_neg notPending)
    simp [processing] at settled
  · intro harmless
    refine ⟨safe.kept, ?_⟩
    intro ended cancelled
    refine (consistent.scheduled.settled_iff cancelled).mpr ?_
    intro processing
    exact harmless ⟨ended, processing⟩

theorem safe_cancelled_iff (consistent : run.Consistent) (safe : run.Safe)
    {summary : HistorySummary} (saving : run.cancellation = .saving summary) :
    Safe { run.write summary with cancellation := .ended } ↔ ¬run.row.IsDelivered := by
  rcases consistent.cancelling summary saving with ⟨unavailable, noSummary⟩
  have delivered : (run.write summary).delivered = run.delivered := by
    simp [write, unavailable]
  constructor
  · intro safeNext isDelivered
    rcases Option.isSome_iff_exists.mp isDelivered.2 with ⟨text, isSummary⟩
    have wasDelivered := (consistent.delivered text isSummary).2
    have isDone := (safeNext.kept text (delivered.trans wasDelivered)).1
    cases unavailable.symm.trans isDone
  · intro notDelivered
    refine ⟨?_, fun _ _ => .inr unavailable⟩
    intro text isDelivered
    rcases safe.kept text (delivered.symm.trans isDelivered) with ⟨isDone, isSummary⟩
    exact absurd ⟨isDone, Option.isSome_of_eq_some isSummary⟩ notDelivered

theorem cancel_keeps (consistent : run.Consistent) (cancelled : run.cancel = some next) :
    next.Consistent ∧ (run.Safe → (next.Safe ↔ run.Harmless .cancel)) := by
  rw [cancel.eq_def] at cancelled
  split at cancelled
  · next isScheduled =>
      cases cancelled
      refine ⟨consistent.scheduled, ?_⟩
      simp only [Harmless, isScheduled]
      exact safe_scheduled_iff consistent
  · next summary isSaving =>
      cases cancelled
      refine ⟨consistent.cancelled_of_saving isSaving, ?_⟩
      simp only [Harmless, isSaving]
      exact fun safe => safe_cancelled_iff consistent safe isSaving
  · cases cancelled

theorem step_keeps {event : SummaryEvent} (consistent : run.Consistent)
    (stepped : summaryMachine.step run event = some next) :
    next.Consistent ∧ (run.Safe → (next.Safe ↔ run.Harmless event)) := by
  cases event with
  | generate choice =>
      rcases Option.map_eq_some_iff.mp stepped with ⟨⟨after, stage⟩, advanced, rfl⟩
      exact advance_keeps consistent advanced
  | killGenerator =>
      simp only [summaryMachine, step] at stepped
      split at stepped
      · cases stepped
      · next running =>
          cases stepped
          rw [not_or] at running
          refine ⟨consistent.withStage running.2 trivial nofun, ?_⟩
          intro safe
          rw [safe_withStage_iff consistent safe, forall_prop_of_true rfl]
          rfl
  | cancel => exact cancel_keeps consistent stepped

/-! ## Runs -/

theorem safe_initial (prompts : List FeaturePrompt) : (initial prompts).Safe where
  kept := nofun
  settled := nofun

/-- A run keeps what was delivered, and ends settled, exactly when the cancellation and the end
of the generation are harmless in it. -/
theorem summary_kept_iff (prompts : List FeaturePrompt) (events : List SummaryEvent) :
    summaryMachine.Throughout Safe (initial prompts) events ↔
      summaryMachine.AllSteps Harmless (initial prompts) events :=
  Machine.throughout_iff_allSteps
    (fun _ _ _ consistent stepped => (step_keeps consistent stepped).1)
    (fun _ _ _ consistent safe stepped => (step_keeps consistent stepped).2 safe)
    (consistent_initial prompts) (safe_initial prompts) events

/-- The cancellation has loaded the row before it became `PROCESSING`, and saves it after the
summary. -/
def lostSummary : List SummaryEvent :=
  [.cancel, .generate .returns, .generate .returns, .generate .returns, .generate .returns,
    .generate (.responds "All is well."), .generate .returns, .generate .returns, .cancel]

def conversationPrompt : FeaturePrompt where
  uuid := 1
  feature := "history_summary"
  prompt := "Summarize: {conversation}"
  version := 1

theorem not_summary_kept :
    ¬∀ (prompts : List FeaturePrompt) (events : List SummaryEvent),
      summaryMachine.Throughout Safe (initial prompts) events := by
  intro kept
  have lost : ¬summaryMachine.Throughout Safe (initial [conversationPrompt]) lostSummary := by
    decide
  exact lost (kept _ _)

end SummaryRun

end ChatsEngine.AiFeatures
