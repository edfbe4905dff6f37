import ChatsEngine.Dashboard.ReportStatuses
import Mathlib.Data.Set.Subsingleton

/-! # Requests of reports

A request for a report of a project first looks for a report that is not finished, and then
creates one. The two are statements of their own, between which other requests and the
tasks that process the reports run. A report that is created is the only unfinished one as
long as none becomes unfinished in between. -/

namespace ChatsEngine.Dashboard

def StatusChoice.text : StatusChoice → String
  | .pending => "pending"
  | .ready => "ready"
  | .inProgress => "in_progress"
  | .failed => "failed"
  | .permanentlyFailed => "permanently_failed"

def StatusChoice.Unfinished (status : StatusChoice) : Prop :=
  status = .pending ∨ status = .inProgress

instance : DecidablePred StatusChoice.Unfinished :=
  fun status => inferInstanceAs (Decidable (status = .pending ∨ status = .inProgress))

structure RequestAnswer where
  project : Uuid
  refused : Bool
  unfinished : Bool
  deriving DecidableEq, Repr

structure RequestedReports where
  reports : ReportDatabase
  /-- The column `project` of the rows. -/
  projectOf : Uuid → Uuid
  /-- The answers so far, which nothing in the code reads. -/
  answered : List RequestAnswer

inductive RequestStage
  | checking (project : Uuid)
  /-- With the reports that were unfinished at the check, which nothing in the code reads. -/
  | creating (project : Uuid) (unfinished : List Uuid)
  | working (stage : ReportStage)

inductive RequestTask
  | post (project : Uuid)
  | work (task : ReportTask)

inductive RequestChoice
  /-- The statement succeeds. A row that is created gets a new key. -/
  | statement (uuid : Uuid)
  | raise
  | work (choice : ReportChoice)

inductive RequestSurrounding
  | tick (elapsed : Nat)
  /-- An export of a room is requested. -/
  | createRoomExport (uuid project : Uuid)

namespace RequestedReports

def empty (now : Instant) : RequestedReports where
  reports := .empty now
  projectOf := fun _ => 0
  answered := []

variable (database : RequestedReports)

/-- The queryset of `ReportFieldsValidatorViewSet.post`, before its filter on the status. -/
def IsReportOf (project uuid : Uuid) (row : ReportStatus) : Prop :=
  database.projectOf uuid = project ∧ row.reportType = .customDashboard

instance (project uuid : Uuid) (row : ReportStatus) :
    Decidable (database.IsReportOf project uuid row) :=
  inferInstanceAs (Decidable (_ ∧ _))

def ReportExists (project : Uuid) (Status : StatusChoice → Prop) : Prop :=
  ∃ entry ∈ database.reports.rows.entries,
    database.IsReportOf project entry.1 entry.2 ∧ Status entry.2.status

instance (project : Uuid) (Status : StatusChoice → Prop) [DecidablePred Status] :
    Decidable (database.ReportExists project Status) :=
  inferInstanceAs (Decidable (∃ entry ∈ database.reports.rows.entries,
    database.IsReportOf project entry.1 entry.2 ∧ Status entry.2.status))

def unfinishedReports (project : Uuid) : List Uuid :=
  (database.reports.rows.entries.filter fun entry =>
    database.IsReportOf project entry.1 entry.2 ∧ entry.2.status.Unfinished).map Sigma.fst

def activeExists (project : Uuid) : Bool :=
  database.ReportExists project fun status => status.text ∈ ["pending", "processing"]

def create (uuid project : Uuid) (reportType : ReportType) : Option RequestedReports :=
  match database.reports.rows.lookup uuid with
  | some _ => none
  | none =>
      some { database with
        reports := database.reports.put uuid (.created reportType database.reports.now)
        projectOf := Function.update database.projectOf uuid project }

def advance : RequestStage → RequestChoice → Option (RequestedReports × Option RequestStage)
  | .checking project, .statement _ =>
      let refused := database.activeExists project
      let unfinished := decide (database.ReportExists project StatusChoice.Unfinished)
      let answered :=
        { database with answered := ⟨project, refused, unfinished⟩ :: database.answered }
      some (answered,
        if refused then none else some (.creating project (database.unfinishedReports project)))
  | .creating project _, .statement uuid =>
      (database.create uuid project .customDashboard).map fun created => (created, none)
  | .checking _, .raise => some (database, none)
  | .creating _ _, .raise => some (database, none)
  | .working stage, .work choice =>
      (database.reports.advance stage choice).map fun advanced =>
        ({ database with reports := advanced.1 }, advanced.2.map .working)
  | _, _ => none

def surround : RequestSurrounding → Option RequestedReports
  | .tick elapsed =>
      some { database with
        reports := { database.reports with now := database.reports.now + elapsed } }
  | .createRoomExport uuid project => database.create uuid project .roomExport

end RequestedReports

def requestProgram :
    Program RequestedReports RequestStage RequestTask RequestChoice RequestSurrounding where
  enter
    | .post project => .checking project
    | .work task => .working (reportProgram.enter task)
  advance := RequestedReports.advance
  surround := RequestedReports.surround

/-! ## Unfinished reports -/

theorem StatusChoice.unfinished_of_not_final {status : StatusChoice} (notFinal : ¬status.Final)
    (notFailed : status ≠ .failed) : status.Unfinished := by
  cases status with
  | pending => exact .inl rfl
  | inProgress => exact .inr rfl
  | failed => exact absurd rfl notFailed
  | ready => exact absurd trivial notFinal
  | permanentlyFailed => exact absurd trivial notFinal

def ReportStage.found : ReportStage → ReportChoice → Option Uuid
  | .selecting _ _, .statement _ first => first
  | _, _ => none

namespace RequestedReports

variable {database after : RequestedReports} {project : Uuid}

def unfinished (database : RequestedReports) (project : Uuid) : Set Uuid :=
  { uuid | ∃ row ∈ database.reports.rows.lookup uuid,
    database.IsReportOf project uuid row ∧ row.status.Unfinished }

theorem mem_unfinished_iff {uuid : Uuid} :
    uuid ∈ database.unfinished project ↔ ∃ row ∈ database.reports.rows.lookup uuid,
      database.IsReportOf project uuid row ∧ row.status.Unfinished :=
  Iff.rfl

/-- At most one report of the project is unfinished, and its requests have been refused
exactly when one was. -/
structure OneAtATime (database : RequestedReports) (project : Uuid) : Prop where
  unfinished : (database.unfinished project).Subsingleton
  answered : ∀ answer ∈ database.answered, answer.project = project →
    answer.refused = answer.unfinished

/-- A request is answered while no report is in progress, except next to one that is pending,
and no report becomes unfinished before it has created its own. A report that has failed is
taken up again while none is unfinished. -/
def InTurn (project : Uuid) (database : RequestedReports) : RequestStage → RequestChoice → Prop
  | .checking own, .statement _ =>
      own = project → database.ReportExists project (· = .inProgress) →
        database.ReportExists project (· = .pending)
  | .creating own checked, .statement _ =>
      own = project → ∀ uuid ∈ database.unfinished project, uuid ∈ checked
  | .working stage, .work choice =>
      ∀ uuid ∈ stage.found choice, ∀ row ∈ database.reports.rows.lookup uuid,
        row.status = .failed → database.IsReportOf project uuid row →
          database.unfinished project = ∅
  | _, _ => True

theorem reportExists_unfinished_iff :
    database.ReportExists project StatusChoice.Unfinished ↔
      database.ReportExists project (· = .pending) ∨
        database.ReportExists project (· = .inProgress) := by
  simp only [ReportExists, StatusChoice.Unfinished, and_or_left, exists_or]

theorem unfinishedReports_eq_nil (none : ¬database.ReportExists project StatusChoice.Unfinished) :
    database.unfinishedReports project = [] := by
  rw [unfinishedReports, List.map_eq_nil_iff, List.filter_eq_nil_iff]
  intro entry stored selected
  exact none ⟨entry, stored, of_decide_eq_true selected⟩

/-- The statuses that the guard names, of which only one is ever stored. -/
theorem activeExists_iff :
    database.activeExists project = true ↔ database.ReportExists project (· = .pending) := by
  have named : ∀ status : StatusChoice,
      status.text ∈ ["pending", "processing"] ↔ status = .pending := by
    intro status
    cases status <;> decide
  simp only [activeExists, decide_eq_true_eq, ReportExists, named]

end RequestedReports

/-! ## Steps of the tasks -/

inductive RowEffect (database : ReportDatabase) (found : Option Uuid) (after : ReportDatabase) :
    Prop
  | kept : found = none → after.rows = database.rows → RowEffect database found after
  | taken {uuid : Uuid} {row : ReportStatus} :
      found = some uuid ∨ found = none ∧ row.reportType = .roomExport →
      database.rows.lookup uuid = some row → ¬row.status.Final →
      after.rows = database.rows.insert uuid (database.taken row) →
      RowEffect database found after
  | stored {uuid : Uuid} {saved : ReportStatus} :
      found = none →
      (saved.status.Unfinished → ∃ row ∈ database.rows.lookup uuid,
        row.status = saved.status ∧ row.reportType = saved.reportType) →
      after.rows = database.rows.insert uuid saved → RowEffect database found after

namespace ReportDatabase

variable {database after : ReportDatabase} {stage : ReportStage} {choice : ReportChoice}
  {rest : Option ReportStage}

theorem saveReady_rowEffect (own : Attempt) :
    RowEffect database none (database.saveReady own) := by
  have finished : ¬StatusChoice.ready.Unfinished := by decide
  rw [saveReady]
  split
  · exact .stored rfl (fun unfinished => absurd unfinished finished) rfl
  · rw [saveStatus]
    split
    · exact .kept rfl rfl
    · exact .stored rfl (fun unfinished => absurd unfinished finished) rfl

theorem saveError_rowEffect (own : Attempt) (error : String) :
    RowEffect database none (database.save own.uuid (own.report.handleError error)) := by
  refine .stored rfl (fun unfinished => absurd unfinished ?_) rfl
  rw [ReportStatus.handleError]
  dsimp only
  split <;> decide

theorem touch_rowEffect (own : Attempt) : RowEffect database none (database.touch own.uuid) := by
  rw [touch]
  split
  · exact .kept rfl rfl
  · next row stored =>
      refine .stored rfl ?_ rfl
      exact fun _ => ⟨row, stored, rfl, rfl⟩

theorem advance_rowEffect (advanced : database.advance stage choice = some (after, rest)) :
    RowEffect database (stage.found choice) after := by
  unfold advance at advanced
  split at advanced
  · cases advanced
    exact .kept rfl rfl
  · rcases select_cases advanced with
      ⟨rfl, rfl, _⟩ | ⟨uuid, row, rfl, stored, unfinished, rfl, _⟩
    · exact .kept rfl rfl
    · exact .taken (.inl rfl) stored unfinished rfl
  · rcases lockRoomExport_cases (Option.some.inj advanced) with
      ⟨rfl, _⟩ | ⟨row, stored, reportType, status, rfl, _⟩
    · exact .kept rfl rfl
    · refine .taken (.inr ⟨rfl, reportType⟩) stored ?_ rfl
      rcases status with status | status <;> simp [status, StatusChoice.Final]
  · split at advanced <;> cases advanced
    exact touch_rowEffect _
  · cases advanced
    exact .kept rfl rfl
  · cases advanced
    exact saveReady_rowEffect _
  · cases advanced
    exact saveError_rowEffect _ _
  · cases advanced
    exact .kept rfl rfl
  · cases advanced
    exact .kept rfl rfl
  · next raised =>
      cases advanced
      refine .kept ?_ rfl
      rw [ReportStage.found]
      simp
  · cases advanced
    exact saveReady_rowEffect _
  · cases advanced
    exact saveError_rowEffect _ _
  · cases advanced

end ReportDatabase

namespace RequestedReports

variable {database after : RequestedReports} {project uuid : Uuid} {saved : ReportStatus}

section Insert

variable (rows : after.reports.rows = database.reports.rows.insert uuid saved)
  (projects : ∀ other, other ≠ uuid → after.projectOf other = database.projectOf other)
include rows

theorem self_mem_unfinished_iff (project : Uuid) :
    uuid ∈ after.unfinished project ↔
      after.IsReportOf project uuid saved ∧ saved.status.Unfinished := by
  rw [mem_unfinished_iff, rows, AList.lookup_insert]
  simp

include projects

theorem other_mem_unfinished_iff {other : Uuid} (different : other ≠ uuid) :
    other ∈ after.unfinished project ↔ other ∈ database.unfinished project := by
  simp only [mem_unfinished_iff, rows, AList.lookup_insert_ne different, IsReportOf,
    projects other different]

theorem unfinished_subset_of_insert
    (kept : uuid ∈ after.unfinished project → uuid ∈ database.unfinished project) :
    after.unfinished project ⊆ database.unfinished project := by
  intro other member
  by_cases same : other = uuid
  · subst same
    exact kept member
  · exact (other_mem_unfinished_iff rows projects same).mp member

theorem subsingleton_insert_iff (new : uuid ∉ database.unfinished project)
    (made : uuid ∈ after.unfinished project) :
    (after.unfinished project).Subsingleton ↔ database.unfinished project = ∅ := by
  constructor
  · intro single
    apply Set.eq_empty_of_forall_notMem
    intro other member
    have different : other ≠ uuid := fun same => new (same ▸ member)
    exact different
      (single ((other_mem_unfinished_iff rows projects different).mpr member) made)
  · intro none
    have only : ∀ other ∈ after.unfinished project, other = uuid := by
      intro other member
      by_contra different
      have before := (other_mem_unfinished_iff rows projects different).mp member
      rw [none] at before
      exact before
    intro other member third thirdMember
    exact (only other member).trans (only third thirdMember).symm

end Insert

theorem create_eq_some {own : Uuid} {reportType : ReportType}
    (created : database.create uuid own reportType = some after) :
    database.reports.rows.lookup uuid = none ∧
      after.reports.rows =
        database.reports.rows.insert uuid (.created reportType database.reports.now) ∧
      after.projectOf = Function.update database.projectOf uuid own ∧
      after.answered = database.answered := by
  rw [create] at created
  split at created <;> cases created
  next absent => exact ⟨absent, rfl, rfl, rfl⟩

theorem create_subsingleton_iff {own : Uuid} {reportType : ReportType}
    (single : (database.unfinished project).Subsingleton)
    (created : database.create uuid own reportType = some after) :
    (after.unfinished project).Subsingleton ↔
      (own = project ∧ reportType = .customDashboard → database.unfinished project = ∅) := by
  rcases create_eq_some created with ⟨absent, rows, projects, _⟩
  have projectOf : after.projectOf uuid = own := by rw [projects, Function.update_self]
  have others : ∀ other, other ≠ uuid → after.projectOf other = database.projectOf other := by
    intro other different
    rw [projects, Function.update_of_ne different]
  have made := self_mem_unfinished_iff rows project
  rw [IsReportOf, projectOf] at made
  by_cases ours : own = project ∧ reportType = .customDashboard
  · have new : uuid ∉ database.unfinished project := by
      intro given
      rcases given with ⟨row, stored, _⟩
      cases absent.symm.trans stored
    rw [subsingleton_insert_iff rows others new (made.mpr ⟨ours, .inl rfl⟩)]
    exact ⟨fun none _ => none, fun none => none ours⟩
  · constructor
    · exact fun _ isOurs => absurd isOurs ours
    · intro _
      apply single.anti
      apply unfinished_subset_of_insert rows others
      exact fun member => absurd (made.mp member).1 ours

theorem work_subsingleton_iff {stage : ReportStage} {choice : ReportChoice}
    {rest : Option ReportStage} (single : (database.unfinished project).Subsingleton)
    (projects : after.projectOf = database.projectOf)
    (advanced : database.reports.advance stage choice = some (after.reports, rest)) :
    (after.unfinished project).Subsingleton ↔
      InTurn project database (.working stage) (.work choice) := by
  have others : ∀ uuid other, other ≠ uuid → after.projectOf other = database.projectOf other :=
    fun _ other _ => congrFun projects other
  have effect := ReportDatabase.advance_rowEffect advanced
  rw [InTurn]
  generalize stage.found choice = found at effect
  cases effect with
  | kept none rows =>
      subst none
      have same : after.unfinished project = database.unfinished project := by
        simp only [unfinished, IsReportOf, rows, projects]
      rw [same]
      exact ⟨fun _ _ impossible => (by cases impossible), fun _ => single⟩
  | @taken uuid row isFound stored notFinal rows =>
      have made := self_mem_unfinished_iff rows project
      have before : uuid ∈ database.unfinished project ↔
          database.IsReportOf project uuid row ∧ row.status.Unfinished := by
        rw [mem_unfinished_iff, stored]
        simp
      have same : after.IsReportOf project uuid (database.reports.taken row) ↔
          database.IsReportOf project uuid row := by
        rw [IsReportOf, IsReportOf, projects]
        rfl
      by_cases retried : row.status = .failed ∧ database.IsReportOf project uuid row
      · have new : uuid ∉ database.unfinished project := by
          rw [before, retried.1]
          exact fun member => absurd member.2 (by decide)
        have isMade := made.mpr ⟨same.mpr retried.2, .inr rfl⟩
        rw [subsingleton_insert_iff rows (others uuid) new isMade]
        rcases isFound with rfl | ⟨_, reportType⟩
        · constructor
          · exact fun none _ _ _ _ _ _ => none
          · exact fun turn => turn uuid rfl row stored retried.1 retried.2
        · exact absurd (reportType.symm.trans retried.2.2) (by decide)
      · constructor
        · intro _ own isOwn found isStored failed isReport
          rcases isFound with rfl | ⟨rfl, _⟩
          · cases isOwn
            cases stored.symm.trans isStored
            exact absurd ⟨failed, isReport⟩ retried
          · cases isOwn
        · intro _
          apply single.anti
          apply unfinished_subset_of_insert rows (others uuid)
          intro member
          have isReport := same.mp (made.mp member).1
          have notFailed : row.status ≠ .failed := fun failed => retried ⟨failed, isReport⟩
          exact before.mpr ⟨isReport, StatusChoice.unfinished_of_not_final notFinal notFailed⟩
  | stored none kept rows =>
      subst none
      constructor
      · exact fun _ _ impossible => by cases impossible
      · intro _
        apply single.anti
        apply unfinished_subset_of_insert rows (others _)
        intro member
        rcases (self_mem_unfinished_iff rows project).mp member with ⟨isReport, unfinished⟩
        rcases kept unfinished with ⟨row, stored, status, reportType⟩
        refine ⟨row, stored, ⟨?_, reportType.trans isReport.2⟩, status ▸ unfinished⟩
        exact (congrFun projects _).symm.trans isReport.1

theorem check_answered_iff {own : Uuid} {uuid : Uuid} {rest : Option RequestStage}
    (right : ∀ answer ∈ database.answered, answer.project = project →
      answer.refused = answer.unfinished)
    (advanced : database.advance (.checking own) (.statement uuid) = some (after, rest)) :
    (∀ answer ∈ after.answered, answer.project = project → answer.refused = answer.unfinished) ↔
      InTurn project database (.checking own) (.statement uuid) := by
  cases advanced
  rw [List.forall_mem_cons, InTurn]
  have told : (database.activeExists own =
      decide (database.ReportExists own StatusChoice.Unfinished)) ↔
        (database.ReportExists own (· = .inProgress) →
          database.ReportExists own (· = .pending)) := by
    rw [Bool.eq_iff_iff, activeExists_iff, decide_eq_true_eq, reportExists_unfinished_iff]
    tauto
  constructor
  · intro given same
    rcases given with ⟨answer, _⟩
    subst same
    exact told.mp (answer rfl)
  · intro turn
    refine ⟨?_, right⟩
    intro same
    subst same
    exact told.mpr (turn rfl)

def HasChecked (project : Uuid) (database : RequestedReports) : RequestStage → Prop
  | .creating own checked =>
      own = project → (∀ answer ∈ database.answered, answer.project = project →
        answer.refused = answer.unfinished) → checked = []
  | _ => True

variable {stage remaining : RequestStage} {choice : RequestChoice} {rest : Option RequestStage}

theorem hasChecked_of_advance
    (advanced : database.advance stage choice = some (after, some remaining)) :
    HasChecked project after remaining := by
  cases stage with
  | checking own =>
      cases choice with
      | statement uuid =>
          simp only [advance, Option.some.injEq, Prod.mk.injEq] at advanced
          rcases advanced with ⟨rfl, goesOn⟩
          split at goesOn
          · cases goesOn
          · next accepted =>
              cases goesOn
              intro isOwn right
              have answer := right _ List.mem_cons_self isOwn
              apply unfinishedReports_eq_nil
              intro exists'
              apply accepted
              exact answer.trans (decide_eq_true exists')
      | raise => cases advanced
      | work choice => cases advanced
  | creating own checked =>
      cases choice with
      | statement uuid =>
          rcases Option.map_eq_some_iff.mp advanced with ⟨created, _, impossible⟩
          cases impossible
      | raise => cases advanced
      | work choice => cases advanced
  | working stage =>
      cases choice with
      | statement uuid => cases advanced
      | raise => cases advanced
      | work choice =>
          rcases Option.map_eq_some_iff.mp advanced with ⟨⟨reports, next⟩, _, same⟩
          rcases Prod.mk.inj same with ⟨_, goesOn⟩
          rcases Option.map_eq_some_iff.mp goesOn with ⟨next, _, rfl⟩
          trivial

theorem answered_subset_of_advance
    (advanced : database.advance stage choice = some (after, rest)) :
    database.answered ⊆ after.answered := by
  cases stage with
  | checking own =>
      cases choice with
      | statement uuid =>
          cases advanced
          exact List.subset_cons_self _ _
      | raise =>
          cases advanced
          exact List.Subset.refl _
      | work choice => cases advanced
  | creating own checked =>
      cases choice with
      | statement uuid =>
          rcases Option.map_eq_some_iff.mp advanced with ⟨created, found, same⟩
          cases same
          exact (create_eq_some found).2.2.2 ▸ List.Subset.refl _
      | raise =>
          cases advanced
          exact List.Subset.refl _
      | work choice => cases advanced
  | working stage =>
      cases choice with
      | statement uuid => cases advanced
      | raise => cases advanced
      | work choice =>
          rcases Option.map_eq_some_iff.mp advanced with ⟨_, _, same⟩
          cases same
          exact List.Subset.refl _

theorem answered_subset_of_surround {event : RequestSurrounding}
    (surrounded : database.surround event = some after) :
    database.answered ⊆ after.answered := by
  cases event with
  | tick elapsed =>
      cases surrounded
      exact List.Subset.refl _
  | createRoomExport uuid own => exact (create_eq_some surrounded).2.2.2 ▸ List.Subset.refl _

end RequestedReports

/-! ## Runs -/

section Run

variable {Pid : Type} {database after : RequestedReports} {project : Uuid}

theorem RequestedReports.OneAtATime.surround {event : RequestSurrounding}
    (one : database.OneAtATime project) (surrounded : database.surround event = some after) :
    after.OneAtATime project := by
  cases event with
  | tick elapsed =>
      cases surrounded
      exact ⟨one.unfinished, one.answered⟩
  | createRoomExport uuid own =>
      have single := create_subsingleton_iff one.unfinished surrounded
      have answered := (create_eq_some surrounded).2.2.2
      refine ⟨single.mpr ?_, answered ▸ one.answered⟩
      intro given
      rcases given with ⟨_, impossible⟩
      cases impossible

theorem RequestedReports.OneAtATime.advance_iff {stage : RequestStage} {choice : RequestChoice}
    {rest : Option RequestStage} (one : database.OneAtATime project)
    (checked : HasChecked project database stage)
    (advanced : database.advance stage choice = some (after, rest)) :
    after.OneAtATime project ↔ InTurn project database stage choice := by
  have kept : ∀ {same : RequestedReports}, same = database → (same.OneAtATime project ↔ True) := by
    intro _ equal
    subst equal
    exact ⟨fun _ => trivial, fun _ => one⟩
  cases stage with
  | checking own =>
      cases choice with
      | statement uuid =>
          rw [← check_answered_iff one.answered advanced]
          have unfinished : after.unfinished project = database.unfinished project := by
            cases advanced
            rfl
          exact ⟨OneAtATime.answered, fun answered => ⟨unfinished ▸ one.unfinished, answered⟩⟩
      | raise =>
          cases advanced
          exact kept rfl
      | work choice => cases advanced
  | creating own found =>
      cases choice with
      | statement uuid =>
          rcases Option.map_eq_some_iff.mp advanced with ⟨created, isCreated, same⟩
          cases same
          have answered := (create_eq_some isCreated).2.2.2
          have single := create_subsingleton_iff one.unfinished isCreated
          rw [InTurn]
          constructor
          · intro next isOwn uuid unfinished
            rw [single.mp next.unfinished ⟨isOwn, rfl⟩] at unfinished
            exact absurd unfinished (Set.notMem_empty uuid)
          · intro turn
            refine ⟨single.mpr ?_, answered ▸ one.answered⟩
            intro isOwn
            -- the check has found no unfinished report, and none has been added
            have nothing : found = [] := checked isOwn.1 one.answered
            apply Set.eq_empty_of_forall_notMem
            intro uuid unfinished
            have wasFound := turn isOwn.1 uuid unfinished
            rw [nothing] at wasFound
            cases wasFound
      | raise =>
          cases advanced
          exact kept rfl
      | work choice => cases advanced
  | working stage =>
      cases choice with
      | statement uuid => cases advanced
      | raise => cases advanced
      | work choice =>
          rcases Option.map_eq_some_iff.mp advanced with ⟨⟨reports, next⟩, found, same⟩
          cases same
          have single :
              (RequestedReports.unfinished { database with reports } project).Subsingleton ↔
                InTurn project database (.working stage) (.work choice) :=
            work_subsingleton_iff one.unfinished rfl found
          exact ⟨fun next => single.mp next.unfinished,
            fun turn => ⟨single.mpr turn, one.answered⟩⟩

def requestOutline (Pid : Type) (project : Uuid) :
    Outline requestProgram
      (Machine.anyStep : Pool Pid RequestedReports RequestStage →
        PoolEvent Pid RequestTask RequestChoice RequestSurrounding → Prop) where
  Invariant := fun _ => True
  Assertion := RequestedReports.HasChecked project
  Guarantee := fun before after => before.answered ⊆ after.answered
  enter := by
    intro database task _
    cases task <;> trivial
  advance := by
    intro pool pid choice stage after rest _ _ _ _ advanced
    refine ⟨trivial, RequestedReports.answered_subset_of_advance advanced, ?_⟩
    intro remaining same
    subst same
    exact RequestedReports.hasChecked_of_advance advanced
  surround := fun _ _ surrounded =>
    ⟨trivial, RequestedReports.answered_subset_of_surround surrounded⟩
  stable := by
    intro before after stage subset checked
    cases stage with
    | creating own found =>
        exact fun isOwn right => checked isOwn fun answer member => right answer (subset member)
    | _ => trivial

/-- In a run, at most one report of the project is unfinished at every moment, and its
requests are refused exactly when one is, if and only if the requests and the selections are
in turn. -/
theorem one_report_at_a_time_iff [DecidableEq Pid] (project : Uuid) (now : Instant)
    (events : List (PoolEvent Pid RequestTask RequestChoice RequestSurrounding)) :
    requestProgram.machine.Throughout (fun pool => pool.shared.OneAtATime project)
        (Pool.idle (.empty now)) events ↔
      requestProgram.machine.AllSteps
        (fun pool event => pool.OwnStep (RequestedReports.InTurn project) event)
        (Pool.idle (.empty now)) events := by
  have initially : (RequestedReports.empty now).OneAtATime project := by
    refine ⟨?_, fun _ answered => by cases answered⟩
    intro uuid given
    rcases given with ⟨row, stored, _⟩
    cases stored
  have advance_iff : ∀ database stage choice after rest, True →
      RequestedReports.HasChecked project database stage → database.OneAtATime project →
      requestProgram.advance database stage choice = some (after, rest) →
      (after.OneAtATime project ↔ RequestedReports.InTurn project database stage choice) :=
    fun _ _ _ _ _ _ checked one advanced => one.advance_iff checked advanced
  have surround_keeps : ∀ database event after, True → database.OneAtATime project →
      requestProgram.surround database event = some after → after.OneAtATime project :=
    fun _ _ _ _ one surrounded => one.surround surrounded
  exact (requestOutline Pid project).throughout_iff advance_iff surround_keeps trivial initially
    events

end Run

/-! ## A request while a report is being processed -/

def requestedTwice : List (PoolEvent Nat RequestTask RequestChoice RequestSurrounding) :=
  [.start 0 (.post 5), .advance 0 (.statement 0), .advance 0 (.statement 1),
    .start 1 (.work (.processPending .customDashboard)),
    .advance 1 (.work (.statement [] none)), .advance 1 (.work (.statement [] (some 1))),
    .start 2 (.post 5), .advance 2 (.statement 0), .advance 2 (.statement 2)]

theorem reports_unfinished_of_requestedTwice :
    ¬∀ events, requestProgram.machine.Throughout (fun pool => pool.shared.OneAtATime 5)
      (Pool.idle (.empty 0) :
        Pool Nat RequestedReports RequestStage) events := by
  intro one
  have ends : (requestProgram.machine.run (Pool.idle (.empty 0)) requestedTwice).map (fun final =>
      ((final.shared.projectOf 1, final.shared.projectOf 2),
        (final.shared.reports.rows.lookup 1).map (fun row => (row.reportType, row.status)),
        (final.shared.reports.rows.lookup 2).map fun row => (row.reportType, row.status))) =
      some ((5, 5), some (.customDashboard, .inProgress), some (.customDashboard, .pending)) := by
    decide
  rcases Option.map_eq_some_iff.mp ends with ⟨final, ran, observed⟩
  simp only [Prod.mk.injEq, Option.map_eq_some_iff] at observed
  rcases observed with ⟨⟨firstProject, secondProject⟩, ⟨first, isFirst, firstType, firstStatus⟩,
    second, isSecond, secondType, secondStatus⟩
  have single := ((one requestedTwice).of_run ran).unfinished
  have same := single ⟨first, isFirst, ⟨firstProject, firstType⟩, .inr firstStatus⟩
    ⟨second, isSecond, ⟨secondProject, secondType⟩, .inl secondStatus⟩
  cases same

end ChatsEngine.Dashboard
