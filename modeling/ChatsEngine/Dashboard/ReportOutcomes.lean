import ChatsEngine.Dashboard.ReportStatuses

/-! # Outcomes of reports

The retry count advances with each error that is recorded. Together with the attempts that
were taken over it accounts for all attempts, as long as none of these records anything. -/

namespace ChatsEngine.Dashboard

variable {database before after : ReportDatabase} {uuid other : Uuid}
  {row saved found : ReportStatus} {own : Attempt}

/-! ## Which attempts the retry count leaves out -/

/-- The attempt that the retry count does not count when no one has taken it over. -/
def StatusChoice.uncounted : StatusChoice → Nat
  | .inProgress | .ready => 1
  | _ => 0

theorem StatusChoice.uncounted_of_not_final {status : StatusChoice} (unfinished : ¬status.Final) :
    status.uncounted = if status = .inProgress then 1 else 0 := by
  cases status with
  | pending => rfl
  | failed => rfl
  | inProgress => rfl
  | ready => exact absurd trivial unfinished
  | permanentlyFailed => exact absurd trivial unfinished

theorem ReportStatus.uncounted_handleError (report : ReportStatus) (error : String) :
    (report.handleError error).retryCount + (report.handleError error).status.uncounted =
      report.retryCount + 1 := by
  rw [handleError]
  dsimp only
  split <;> rfl

structure ReportInvariant (database : ReportDatabase) : Prop where
  absent : ∀ uuid, database.rows.lookup uuid = none →
    database.attempts uuid = 0 ∧ database.takenOver uuid = 0
  counted : ∀ uuid, ∀ row ∈ database.rows.lookup uuid,
    database.attempts uuid = row.retryCount + database.takenOver uuid + row.status.uncounted
  bounded : ∀ uuid, database.AttemptsBounded uuid

structure Attempt.Agrees (own : Attempt) (database : ReportDatabase) : Prop where
  started : own.number ≤ database.attempts own.uuid
  latest : database.IsLatest own → ∃ row ∈ database.rows.lookup own.uuid,
    row.status = .inProgress ∧ row.retryCount = own.report.retryCount

/-! ## Rows that are stored -/

namespace ReportDatabase

theorem lookup_put_iff :
    (database.put uuid saved).rows.lookup other = some found ↔
      other = uuid ∧ found = saved ∨ other ≠ uuid ∧ database.rows.lookup other = some found :=
  Table.lookup_insert_iff

theorem lookup_take_iff :
    (database.take uuid row).rows.lookup other = some found ↔
      other = uuid ∧ found = database.taken row ∨
        other ≠ uuid ∧ database.rows.lookup other = some found :=
  Table.lookup_insert_iff

theorem lookup_eq_none_of_put (absent : (database.put uuid saved).rows.lookup other = none) :
    other ≠ uuid ∧ database.rows.lookup other = none := by
  rw [AList.lookup_eq_none, put, AList.mem_insert, not_or] at absent
  exact ⟨absent.1, AList.lookup_eq_none.mpr absent.2⟩

theorem KeepsOutcome.refl (database : ReportDatabase) (uuid : Uuid) :
    database.KeepsOutcome database uuid :=
  fun row stored _ => ⟨row, stored, rfl⟩

theorem KeepsOutcome.trans {middle : ReportDatabase} (first : before.KeepsOutcome middle uuid)
    (second : middle.KeepsOutcome after uuid) : before.KeepsOutcome after uuid := by
  intro row stored final
  rcases first row stored final with ⟨kept, keptStored, same⟩
  rcases second kept keptStored (same ▸ final) with ⟨last, lastStored, lastSame⟩
  exact ⟨last, lastStored, lastSame.trans same⟩

theorem KeepsOutcome.of_insert (uuid : Uuid) (rows : after.rows = database.rows.insert uuid saved)
    (replaces : ∀ row ∈ database.rows.lookup uuid, row.status.Final → saved.status = row.status)
    (other : Uuid) : database.KeepsOutcome after other := by
  intro row stored final
  by_cases same : other = uuid
  · subst same
    refine ⟨saved, ?_, replaces row stored final⟩
    rw [rows]
    exact AList.lookup_insert _
  · refine ⟨row, ?_, rfl⟩
    rw [rows]
    exact (AList.lookup_insert_ne same).trans stored

end ReportDatabase

namespace ReportInvariant

theorem empty (now : Instant) : ReportInvariant (.empty now) where
  absent := fun _ _ => ⟨rfl, rfl⟩
  counted := fun _ _ stored => by cases stored
  bounded := fun _ => Nat.zero_le _

theorem put (invariant : ReportInvariant database)
    (counts : database.attempts uuid =
      saved.retryCount + database.takenOver uuid + saved.status.uncounted) :
    ReportInvariant (database.put uuid saved) where
  absent := fun other none =>
    invariant.absent other (ReportDatabase.lookup_eq_none_of_put none).2
  counted := by
    intro other found stored
    rcases ReportDatabase.lookup_put_iff.mp stored with ⟨rfl, rfl⟩ | ⟨_, stored⟩
    · exact counts
    · exact invariant.counted other found stored
  bounded := invariant.bounded

/-- All attempts at a row without outcome have been counted or taken over, but one. -/
theorem attempts_eq (invariant : ReportInvariant database)
    (stored : database.rows.lookup uuid = some row) (unfinished : ¬row.status.Final) :
    database.attempts uuid =
      row.retryCount + (database.takenOver uuid + if row.status = .inProgress then 1 else 0) := by
  have counted := invariant.counted uuid row stored
  rw [StatusChoice.uncounted_of_not_final unfinished] at counted
  omega

theorem take_bounded_iff (invariant : ReportInvariant database)
    (stored : database.rows.lookup uuid = some row) (unfinished : ¬row.status.Final) :
    (database.take uuid row).AttemptsBounded uuid ↔ database.HasAttemptsLeft uuid row := by
  have attempts := invariant.attempts_eq stored unfinished
  rw [ReportDatabase.AttemptsBounded, ReportDatabase.HasAttemptsLeft, ← attempts]
  simp only [ReportDatabase.take, Function.update_self]
  exact Nat.succ_le_iff

theorem take (invariant : ReportInvariant database)
    (stored : database.rows.lookup uuid = some row) (unfinished : ¬row.status.Final)
    (left : database.HasAttemptsLeft uuid row) : ReportInvariant (database.take uuid row) where
  absent := by
    intro other none
    rcases ReportDatabase.lookup_eq_none_of_put none with ⟨different, absent⟩
    simp only [ReportDatabase.take, Function.update_of_ne different]
    exact invariant.absent other absent
  counted := by
    intro other found isFound
    rcases ReportDatabase.lookup_take_iff.mp isFound with ⟨rfl, rfl⟩ | ⟨different, before⟩
    · have attempts := invariant.attempts_eq stored unfinished
      simp only [ReportDatabase.take, Function.update_self, ReportDatabase.taken,
        StatusChoice.uncounted]
      omega
    · simp only [ReportDatabase.take, Function.update_of_ne different]
      exact invariant.counted other found before
  bounded := by
    intro other
    by_cases same : other = uuid
    · subst same
      exact (invariant.take_bounded_iff stored unfinished).mpr left
    · rw [ReportDatabase.AttemptsBounded]
      simp only [ReportDatabase.take, Function.update_of_ne same]
      exact invariant.bounded other

end ReportInvariant

namespace Attempt.Agrees

theorem put (agrees : own.Agrees database)
    (replaces : own.uuid = uuid → database.IsLatest own →
      saved.status = .inProgress ∧ saved.retryCount = own.report.retryCount) :
    own.Agrees (database.put uuid saved) where
  started := agrees.started
  latest := by
    intro latest
    by_cases same : own.uuid = uuid
    · exact ⟨saved, ReportDatabase.lookup_put_iff.mpr (.inl ⟨same, rfl⟩), replaces same latest⟩
    · rcases agrees.latest latest with ⟨row, stored, inProgress⟩
      exact ⟨row, ReportDatabase.lookup_put_iff.mpr (.inr ⟨same, stored⟩), inProgress⟩

theorem touch (agrees : own.Agrees database) (stored : database.rows.lookup uuid = some row)
    (status : saved.status = row.status) (retryCount : saved.retryCount = row.retryCount) :
    own.Agrees (database.put uuid saved) := by
  apply agrees.put
  intro same latest
  subst same
  rcases agrees.latest latest with ⟨found, isFound, inProgress, agreed⟩
  cases stored.symm.trans isFound
  exact ⟨status.trans inProgress, retryCount.trans agreed⟩

theorem number_lt (agrees : own.Agrees database) :
    own.number < (database.attempt own.uuid row).number :=
  Nat.lt_succ_of_le agrees.started

theorem take (agrees : own.Agrees database) : own.Agrees (database.take uuid row) := by
  by_cases same : own.uuid = uuid
  · subst same
    have attempts : (database.take own.uuid row).attempts own.uuid =
        database.attempts own.uuid + 1 := by
      simp only [ReportDatabase.take, Function.update_self]
    have started := agrees.started
    constructor
    · omega
    · intro latest
      rw [ReportDatabase.IsLatest] at latest
      omega
  · have attempts : (database.take uuid row).attempts own.uuid = database.attempts own.uuid := by
      simp only [ReportDatabase.take, Function.update_of_ne same]
    constructor
    · rw [attempts]
      exact agrees.started
    · intro latest
      rw [ReportDatabase.IsLatest, attempts] at latest
      rcases agrees.latest latest with ⟨row, stored, inProgress⟩
      exact ⟨row, ReportDatabase.lookup_take_iff.mpr (.inr ⟨same, stored⟩), inProgress⟩

theorem of_take : (database.attempt uuid row).Agrees (database.take uuid row) where
  started := by
    simp only [ReportDatabase.attempt, ReportDatabase.take, Function.update_self]
    exact Nat.le_refl _
  latest := fun _ =>
    ⟨database.taken row, ReportDatabase.lookup_take_iff.mpr (.inl ⟨rfl, rfl⟩), rfl, rfl⟩

end Attempt.Agrees

/-! ## Steps -/

namespace ReportStage

def attempt : ReportStage → Option Attempt
  | .processing own | .savingReady own | .savingError own _ => some own
  | _ => none

def Apart (stage : ReportStage) (other : Attempt) : Prop :=
  ∀ own ∈ stage.attempt, own.uuid = other.uuid → own.number ≠ other.number

end ReportStage

inductive ReportEffect (database : ReportDatabase) (stage : ReportStage)
    (after : ReportDatabase) (rest : Option ReportStage) : Prop
  | unchanged :
      after = database →
      (∀ remaining ∈ rest, ∀ own ∈ remaining.attempt, own ∈ stage.attempt) →
      ReportEffect database stage after rest
  | started {uuid : Uuid} {row : ReportStatus} :
      database.rows.lookup uuid = some row → ¬row.status.Final →
      database.HasAttemptsLeft uuid row → after = database.take uuid row →
      rest = some (.processing (database.attempt uuid row)) →
      ReportEffect database stage after rest
  | touched {own : Attempt} {row saved : ReportStatus} :
      stage.attempt = some own → database.rows.lookup own.uuid = some row →
      saved.status = row.status → saved.retryCount = row.retryCount →
      after = database.put own.uuid saved → rest = some (.processing own) →
      ReportEffect database stage after rest
  | recorded {own : Attempt} {row saved : ReportStatus} :
      stage.attempt = some own → database.IsLatest own →
      database.rows.lookup own.uuid = some row → row.status = .inProgress →
      saved.retryCount + saved.status.uncounted = row.retryCount + 1 →
      after = database.put own.uuid saved → rest = none →
      ReportEffect database stage after rest

section Effects

variable {stage next : ReportStage} {choice : ReportChoice} {rest : Option ReportStage}

theorem ReportEffect.ended : ReportEffect database stage database none :=
  .unchanged rfl (fun _ ended => by cases ended)

theorem ReportEffect.moved (busy : next.attempt = stage.attempt) :
    ReportEffect database stage database (some next) := by
  apply ReportEffect.unchanged rfl
  intro remaining isNext own holds
  cases isNext
  exact busy ▸ holds

namespace ReportDatabase

theorem select_effect {reportType : ReportType} {stuckTimeout : Instant} {locked : List Uuid}
    {first : Option Uuid}
    (left : ∀ uuid ∈ first, ∀ row ∈ database.rows.lookup uuid, database.HasAttemptsLeft uuid row)
    (selected : database.select reportType stuckTimeout locked first = some (after, rest)) :
    ReportEffect database (.selecting reportType stuckTimeout) after rest := by
  rcases select_cases selected with
    ⟨_, rfl, rfl⟩ | ⟨uuid, row, isFirst, stored, unfinished, isAfter, isRest⟩
  · exact .ended
  · exact .started stored unfinished (left uuid isFirst row stored) isAfter isRest

theorem lockRoomExport_effect {locked : List Uuid} {first : Option Uuid}
    (inTurn : database.InTurn (.locking uuid) (.statement locked first))
    (ran : database.lockRoomExport uuid locked = (after, rest)) :
    ReportEffect database (.locking uuid) after rest := by
  rcases lockRoomExport_cases ran with ⟨rfl, rfl⟩ | ⟨row, stored, _, status, isAfter, isRest⟩
  · exact .ended
  · have selected : database.selected (.locking uuid) (.statement locked first) = some uuid := by
      rw [ReportDatabase.selected, stored, Option.bind_some, if_pos status]
    have unfinished : ¬row.status.Final := by
      rcases status with status | status <;> simp [status, StatusChoice.Final]
    exact .started stored unfinished (inTurn.attemptsLeft uuid selected row stored) isAfter isRest

theorem saveReady_effect (agrees : own.Agrees database) (latest : database.IsLatest own) :
    ReportEffect database (.savingReady own) (database.saveReady own) none := by
  rcases agrees.latest latest with ⟨row, stored, status, retryCount⟩
  rw [saveReady]
  split
  · refine .recorded rfl latest stored status ?_ rfl rfl
    exact congrArg (· + 1) retryCount.symm
  · rw [saveStatus, stored]
    exact .recorded rfl latest stored status rfl rfl rfl

theorem saveError_effect (agrees : own.Agrees database) (latest : database.IsLatest own)
    (error : String) :
    ReportEffect database (.savingError own error)
      (database.save own.uuid (own.report.handleError error)) none := by
  rcases agrees.latest latest with ⟨row, stored, status, retryCount⟩
  refine .recorded rfl latest stored status ?_ rfl rfl
  rw [retryCount]
  exact own.report.uncounted_handleError error

theorem touch_effect :
    ReportEffect database (.processing own) (database.touch own.uuid) (some (.processing own)) := by
  rw [touch]
  split
  · exact .moved rfl
  · next row stored =>
      refine .touched rfl stored ?_ ?_ rfl rfl
      · rfl
      · rfl

theorem advance_effect (agrees : ∀ own ∈ stage.attempt, own.Agrees database)
    (inTurn : database.InTurn stage choice)
    (advanced : database.advance stage choice = some (after, rest)) :
    ReportEffect database stage after rest := by
  unfold advance at advanced
  split at advanced
  · cases advanced
    exact .moved rfl
  · exact select_effect (fun uuid isFirst => inTurn.attemptsLeft uuid isFirst) advanced
  · exact lockRoomExport_effect inTurn (Option.some.inj advanced)
  · next own =>
      split at advanced
      · cases advanced
        exact touch_effect
      · cases advanced
  · cases advanced
    exact .moved rfl
  · next own _ _ =>
      cases advanced
      exact saveReady_effect (agrees own rfl) (inTurn.latest own rfl)
  · next own error _ _ =>
      cases advanced
      exact saveError_effect (agrees own rfl) (inTurn.latest own rfl) error
  · cases advanced
    exact .moved rfl
  · cases advanced
    exact .moved rfl
  · cases advanced
    exact .ended
  -- The exception after `ready` has been saved.
  · cases inTurn.quiet
  · next own error _ =>
      cases advanced
      exact saveError_effect (agrees own rfl) (inTurn.latest own rfl) error
  · cases advanced

end ReportDatabase

namespace ReportEffect

theorem invariant (invariant : ReportInvariant database)
    (effect : ReportEffect database stage after rest) : ReportInvariant after := by
  cases effect with
  | unchanged same _ => exact same ▸ invariant
  | started stored unfinished left isAfter _ =>
      exact isAfter ▸ invariant.take stored unfinished left
  | touched _ stored status retryCount isAfter _ =>
      subst isAfter
      apply invariant.put
      rw [status, retryCount]
      exact invariant.counted _ _ stored
  | recorded _ _ stored status counts isAfter _ =>
      subst isAfter
      apply invariant.put
      have counted := invariant.counted _ _ stored
      rw [status, StatusChoice.uncounted] at counted
      omega

theorem keepsOutcome (effect : ReportEffect database stage after rest) (uuid : Uuid) :
    database.KeepsOutcome after uuid := by
  cases effect with
  | unchanged same _ => exact same ▸ .refl database uuid
  | @started own row stored unfinished _ isAfter _ =>
      subst isAfter
      apply ReportDatabase.KeepsOutcome.of_insert own rfl
      intro other isOther final
      cases stored.symm.trans isOther
      exact absurd final unfinished
  | touched _ stored status _ isAfter _ =>
      subst isAfter
      apply ReportDatabase.KeepsOutcome.of_insert _ rfl
      intro other isOther _
      cases stored.symm.trans isOther
      exact status
  | recorded _ _ stored status _ isAfter _ =>
      subst isAfter
      apply ReportDatabase.KeepsOutcome.of_insert _ rfl
      intro other isOther final
      cases stored.symm.trans isOther
      rw [status] at final
      exact final.elim

theorem agrees (effect : ReportEffect database stage after rest)
    (agrees : ∀ own ∈ stage.attempt, own.Agrees database) :
    ∀ remaining ∈ rest, ∀ own ∈ remaining.attempt, own.Agrees after := by
  intro remaining isRest own busy
  cases effect with
  | unchanged same kept => exact same ▸ agrees own (kept remaining isRest own busy)
  | started _ _ _ isAfter started =>
      cases started.symm.trans isRest
      cases busy
      exact isAfter ▸ .of_take
  | touched isOwn stored status retryCount isAfter touched =>
      cases touched.symm.trans isRest
      cases busy
      exact isAfter ▸ (agrees own isOwn).touch stored status retryCount
  | recorded _ _ _ _ _ _ ended =>
      cases ended.symm.trans isRest

theorem agrees_other {other : Attempt} (effect : ReportEffect database stage after rest)
    (agrees : other.Agrees database) (apart : stage.Apart other) :
    other.Agrees after ∧ ∀ remaining ∈ rest, remaining.Apart other := by
  cases effect with
  | unchanged same kept =>
      subst same
      exact ⟨agrees, fun remaining isRest own busy => apart own (kept remaining isRest own busy)⟩
  | started _ _ _ isAfter started =>
      subst isAfter started
      refine ⟨agrees.take, ?_⟩
      intro remaining isRest own busy sameRow
      cases isRest
      cases busy
      cases sameRow
      exact (Nat.ne_of_lt agrees.number_lt).symm
  | touched isOwn stored status retryCount isAfter touched =>
      subst isAfter touched
      refine ⟨agrees.touch stored status retryCount, ?_⟩
      intro remaining isRest own busy
      cases isRest
      cases busy
      exact apart _ isOwn
  | recorded isOwn latest _ _ _ isAfter ended =>
      subst isAfter ended
      refine ⟨?_, fun _ ended => by cases ended⟩
      apply agrees.put
      intro sameRow otherLatest
      apply absurd _ (apart _ isOwn sameRow.symm)
      rw [latest, otherLatest, sameRow]

end ReportEffect

end Effects

/-! ## Runs -/

section Run

variable {Pid : Type}

@[reducible] def AllInTurn (pool : ReportPool Pid)
    (event : PoolEvent Pid ReportTask ReportChoice ReportSurrounding) : Prop :=
  pool.OwnStep ReportDatabase.InTurn event

variable {surrounding : ReportSurrounding}

theorem ReportInvariant.surround (invariant : ReportInvariant database)
    (surrounded : database.surround surrounding = some after) : ReportInvariant after := by
  cases surrounding with
  | tick elapsed =>
      cases surrounded
      exact ⟨invariant.absent, invariant.counted, invariant.bounded⟩
  | create uuid reportType =>
      rw [ReportDatabase.surround] at surrounded
      split at surrounded
      · cases surrounded
      · next absent =>
          cases surrounded
          apply invariant.put
          rcases invariant.absent uuid absent with ⟨attempts, takenOver⟩
          rw [attempts, takenOver]
          rfl

theorem Attempt.Agrees.surround (agrees : own.Agrees database)
    (surrounded : database.surround surrounding = some after) : own.Agrees after := by
  cases surrounding with
  | tick elapsed =>
      cases surrounded
      exact ⟨agrees.started, agrees.latest⟩
  | create uuid reportType =>
      rw [ReportDatabase.surround] at surrounded
      split at surrounded
      · cases surrounded
      · next absent =>
          cases surrounded
          apply agrees.put
          intro same latest
          subst same
          rcases agrees.latest latest with ⟨row, stored, _⟩
          cases absent.symm.trans stored

theorem ReportDatabase.KeepsOutcome.surround
    (surrounded : database.surround surrounding = some after) (uuid : Uuid) :
    database.KeepsOutcome after uuid := by
  cases surrounding with
  | tick elapsed =>
      cases surrounded
      exact fun row stored _ => ⟨row, stored, rfl⟩
  | create own reportType =>
      rw [ReportDatabase.surround] at surrounded
      split at surrounded
      · cases surrounded
      · next absent =>
          cases surrounded
          apply ReportDatabase.KeepsOutcome.of_insert own rfl
          intro row stored _
          cases absent.symm.trans stored

variable (Pid)

def reportOutline : PairOutline reportProgram
    (AllInTurn : ReportPool Pid → PoolEvent Pid ReportTask ReportChoice ReportSurrounding → Prop)
    where
  Invariant := ReportInvariant
  Assertion := fun database stage => ∀ own ∈ stage.attempt, own.Agrees database
  Compatible := fun stage other => ∀ own ∈ other.attempt, stage.Apart own
  symmetric := fun compatible own busy other otherBusy same =>
    (compatible other otherBusy own busy same.symm).symm
  enter := by
    intro _ task _ own busy
    cases task <;> cases busy
  enterCompatible := by
    intro task _ _ _ own busy
    cases task <;> cases busy
  advance := by
    intro pool pid choice stage after rest meets running invariant agrees advanced
    have effect := ReportDatabase.advance_effect agrees (meets.allowed running) advanced
    exact ⟨effect.invariant invariant, effect.agrees agrees⟩
  advanceOther := by
    intro pool pid choice stage after rest meets running _ agrees advanced
      _ otherStage _ _ otherAgrees compatible
    have effect := ReportDatabase.advance_effect agrees (meets.allowed running) advanced
    have others := fun own busy =>
      effect.agrees_other (otherAgrees own busy) (compatible own busy)
    exact ⟨fun own busy => (others own busy).1,
      fun remaining isRest own busy => (others own busy).2 remaining isRest⟩
  surround := by
    intro pool event after _ invariant surrounded
    exact ⟨invariant.surround surrounded,
      fun _ _ _ agrees own busy => (agrees own busy).surround surrounded⟩

variable {Pid} [DecidableEq Pid] {pool next current final : ReportPool Pid}

theorem keepsOutcome_step {event : PoolEvent Pid ReportTask ReportChoice ReportSurrounding}
    (holds : (reportOutline Pid).Holds pool) (meets : AllInTurn pool event)
    (stepped : reportProgram.machine.step pool event = some next) (uuid : Uuid) :
    pool.shared.KeepsOutcome next.shared uuid := by
  cases event with
  | start pid task =>
      rcases Program.step_start stepped with ⟨_, rfl⟩
      exact .refl _ uuid
  | advance pid choice =>
      rcases Program.step_advance stepped with ⟨stage, after, rest, running, advanced, rfl⟩
      have effect := ReportDatabase.advance_effect (holds.locals pid stage running)
        (meets.allowed running) advanced
      exact effect.keepsOutcome uuid
  | kill pid =>
      rcases Program.step_kill stepped with ⟨_, rfl⟩
      exact .refl _ uuid
  | surround event =>
      rcases Program.step_surround stepped with ⟨after, surrounded, rfl⟩
      exact .surround surrounded uuid

/-- If each step is in turn, no outcome is left once it is reached, and the attempts are
bounded. -/
theorem outcomes_kept_and_attempts_bounded (start : Instant)
    (reached : reportProgram.machine.Reaches AllInTurn (Pool.idle (.empty start)) current)
    (reaches : reportProgram.machine.Reaches AllInTurn current final) (uuid : Uuid) :
    current.shared.KeepsOutcome final.shared uuid ∧ final.shared.AttemptsBounded uuid := by
  have holds : (reportOutline Pid).Holds current :=
    (reportOutline Pid).holds_of_reaches reached
      ((reportOutline Pid).holds_of_isIdle (.empty start) (Pool.idle_isIdle _))
  have kept : (reportOutline Pid).Holds final ∧ current.shared.KeepsOutcome final.shared uuid := by
    apply Machine.Reaches.invariant reaches ⟨holds, .refl _ uuid⟩
    intro pool event next given meets stepped
    rcases given with ⟨holds, keeps⟩
    exact ⟨(reportOutline Pid).holds_step holds meets stepped,
      keeps.trans (keepsOutcome_step holds meets stepped uuid)⟩
  exact ⟨kept.2, kept.1.shared.bounded uuid⟩

end Run

/-! ## Attempts that are taken over -/

abbrev ReportEvents := List (PoolEvent Nat ReportTask ReportChoice ReportSurrounding)

def takes (pid : Nat) : ReportEvents :=
  [.start pid (.processPending .customDashboard), .advance pid (.statement [] none),
    .advance pid (.statement [] (some 7))]

def succeeds (pid : Nat) : ReportEvents :=
  [.advance pid (.statement [] none), .advance pid (.statement [] none)]

def fails (pid : Nat) : ReportEvents :=
  [.advance pid (.raise "error"), .advance pid (.statement [] none)]

def requested : ReportEvents := [.surround (.create 7 .customDashboard)]

def getsStuck : ReportEvents := [.surround (.tick (stuckAfter + 1))]

/-- An attempt fails, the next one is killed after one part, and is taken over. -/
def takenOverOnce : ReportEvents :=
  requested ++ takes 0 ++ fails 0 ++ takes 1 ++ [.advance 1 .writePart, .kill 1] ++ getsStuck ++
    takes 2 ++ succeeds 2

theorem outcome_kept_after_takeOver :
    ∃ current final : ReportPool Nat,
      reportProgram.machine.runMeeting AllInTurn (Pool.idle (.empty 0)) takenOverOnce =
        some current ∧
      reportProgram.machine.runMeeting AllInTurn current getsStuck = some final ∧
      (current.shared.rows.lookup 7).map (·.status) = some .ready ∧
      current.shared.attempts 7 = 3 ∧
      current.shared.KeepsOutcome final.shared 7 ∧ final.shared.AttemptsBounded 7 := by
  have ends : (reportProgram.machine.runMeeting AllInTurn
      (Pool.idle (.empty 0) : ReportPool Nat) takenOverOnce).map (fun current =>
        ((current.shared.rows.lookup 7).map (·.status), current.shared.attempts 7,
          (reportProgram.machine.runMeeting AllInTurn current getsStuck).isSome)) =
      some (some .ready, 3, true) := by
    decide
  rcases Option.map_eq_some_iff.mp ends with ⟨current, ran, observed⟩
  simp only [Prod.mk.injEq] at observed
  rcases observed with ⟨ready, attempts, ranOn⟩
  rcases Option.isSome_iff_exists.mp ranOn with ⟨final, ranOn⟩
  exact ⟨current, final, ran, ranOn, ready, attempts,
    outcomes_kept_and_attempts_bounded 0 (.of_runMeeting ran) (.of_runMeeting ranOn) 7⟩

/-- An attempt is taken over as stuck while it is still running. -/
def overtaken : ReportEvents := requested ++ takes 0 ++ getsStuck ++ takes 1 ++ succeeds 1

def killedThrice : ReportEvents :=
  requested ++ takes 0 ++ [.kill 0] ++ getsStuck ++ takes 1 ++ [.kill 1] ++ getsStuck ++
    takes 2 ++ [.kill 2] ++ getsStuck ++ takes 3

theorem outcome_left_and_attempts_exceeded :
    (¬∀ current final : ReportPool Nat,
      reportProgram.machine.Reaches Machine.anyStep (Pool.idle (.empty 0)) current →
      reportProgram.machine.Reaches Machine.anyStep current final →
      ∀ uuid, current.shared.KeepsOutcome final.shared uuid) ∧
    ¬∀ final : ReportPool Nat,
      reportProgram.machine.Reaches Machine.anyStep (Pool.idle (.empty 0)) final →
      ∀ uuid, final.shared.AttemptsBounded uuid := by
  constructor
  · intro keeps
    have ends : (reportProgram.machine.run (Pool.idle (.empty 0)) overtaken).map (fun current =>
        ((current.shared.rows.lookup 7).map (·.status),
          (reportProgram.machine.run current (fails 0)).map fun final =>
            (final.shared.rows.lookup 7).map (·.status))) =
        some (some .ready, some (some .failed)) := by
      decide
    rcases Option.map_eq_some_iff.mp ends with ⟨current, ran, observed⟩
    simp only [Prod.mk.injEq, Option.map_eq_some_iff] at observed
    rcases observed with ⟨⟨row, stored, ready⟩, final, ranOn, found, isFound, failed⟩
    rcases keeps current final (.of_run ran) (.of_run ranOn) 7 row stored
      (by rw [ready]; trivial) with ⟨kept, isKept, same⟩
    cases isFound.symm.trans isKept
    rw [ready, failed] at same
    cases same
  · intro bounded
    have ends : (reportProgram.machine.run (Pool.idle (.empty 0)) killedThrice).map
        (fun final => final.shared.attempts 7) = some 4 := by
      decide
    rcases Option.map_eq_some_iff.mp ends with ⟨final, ran, attempts⟩
    have bound := bounded final (.of_run ran) 7
    rw [ReportDatabase.AttemptsBounded, attempts] at bound
    exact absurd bound (by decide)

end ChatsEngine.Dashboard
