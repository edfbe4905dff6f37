import ChatsEngine.AiFeatures.TranscriptionCustody

/-! # Transcriptions that are attended to

A transcription that is queued or being processed has a process that answers for it, or its
message waits for a worker. Nobody looks for one that has been left: requests answer with its
status, and its audio is not transcribed any more. -/

namespace ChatsEngine.AiFeatures

open JsonText

section Attended

variable {Pid Real : Type}

/-- The message of the transcription waits, or a process answers for it. -/
def IsAttended (pool : TranscriptionPool Pid) (uuid : Uuid) : Prop :=
  uuid ∈ pool.shared.messages ∨
    ∃ pid stage, pool.process pid = some stage ∧ stage.custody = some uuid

def AllAttended (pool : TranscriptionPool Pid) : Prop :=
  ∀ uuid, pool.shared.Unfinished uuid → IsAttended pool uuid

/-- No exception leads out of a process while the transcription that it answers for is unfinished:
not where the message is sent, nor before the `try` of the worker, nor where its `except` saves
the failure. -/
def StaysOn (tables : TranscriptionTables) (stage : TranscriptionStage) :
    TranscriptionChoice Real → Prop
  | .raises =>
      match stage with
      | .dispatching uuid | .getting uuid | .starting uuid _ | .handling uuid _ =>
          ¬tables.Unfinished uuid
      | _ => True
  | _ => True

def SparesCustody (pool : TranscriptionPool Pid) : TranscriptionEvent Pid Real → Prop
  | .kill pid =>
      ∀ stage ∈ pool.process pid, ∀ uuid ∈ stage.custody, ¬pool.shared.Unfinished uuid
  | _ => True

def AttendsTo (pool : TranscriptionPool Pid) (event : TranscriptionEvent Pid Real) : Prop :=
  Pool.OwnStep StaysOn pool event ∧ SparesCustody pool event

section Steps

variable {floats : FloatFormat Real} {maxDuration : Nat} {tables after : TranscriptionTables}
  {stage : TranscriptionStage} {rest : Option TranscriptionStage} {uuid : Uuid}
  {choice : TranscriptionChoice Real}

theorem issued_of_proceed (proceeds : proceed maxDuration tables stage = some (after, rest)) :
    after.issued = tables.issued := by
  cases write_of_proceed proceeds with
  | creates media uuid fresh free => cases proceeds
  | _ => rfl

theorem messages_of_proceed (proceeds : proceed maxDuration tables stage = some (after, rest)) :
    tables.messages ⊆ after.messages := by
  cases write_of_proceed proceeds with
  | receives uuid waiting => cases proceeds
  | sends uuid => exact List.subset_cons_self _ _
  | _ => exact fun _ member => member

theorem attended_of_created
    (advanced : advance floats maxDuration tables stage choice = some (after, rest))
    (fresh : uuid ∉ tables.issued) (isIssued : uuid ∈ after.issued) :
    ∃ remaining, rest = some remaining ∧ remaining.custody = some uuid := by
  cases choice with
  | returns =>
      rw [issued_of_proceed advanced] at isIssued
      exact absurd isIssued fresh
  | creates created =>
      cases stage with
      | creating media =>
          simp only [advance] at advanced
          split at advanced
          · cases advanced
          · unfold createRow at advanced
            split at advanced
            · cases advanced
              exact absurd isIssued fresh
            · cases advanced
              rcases List.mem_cons.mp isIssued with rfl | old
              · exact ⟨_, rfl, rfl⟩
              · exact absurd old fresh
      | _ => cases advanced
  | raises =>
      cases advanced
      exact absurd isIssued fresh
  | receives received =>
      cases stage with
      | receiving =>
          simp only [advance] at advanced
          split at advanced
          · cases advanced
            exact absurd isIssued fresh
          · cases advanced
      | _ => cases advanced
  | responds response | skips => cases stage <;> cases advanced <;> exact absurd isIssued fresh

theorem attended_of_message
    (advanced : advance floats maxDuration tables stage choice = some (after, rest))
    (waiting : uuid ∈ tables.messages) :
    uuid ∈ after.messages ∨ ∃ remaining, rest = some remaining ∧ remaining.custody = some uuid := by
  cases choice with
  | returns => exact .inl (messages_of_proceed advanced waiting)
  | raises =>
      cases advanced
      exact .inl waiting
  | creates created =>
      cases stage with
      | creating media =>
          simp only [advance] at advanced
          split at advanced
          · cases advanced
          · unfold createRow at advanced
            split at advanced <;> cases advanced <;> exact .inl waiting
      | _ => cases advanced
  | receives received =>
      cases stage with
      | receiving =>
          simp only [advance] at advanced
          split at advanced
          · cases advanced
            by_cases same : uuid = received
            · subst same
              exact .inr ⟨_, rfl, rfl⟩
            · exact .inl ((List.mem_erase_of_ne same).mpr waiting)
          · cases advanced
      | _ => cases advanced
  | responds response | skips => cases stage <;> cases advanced <;> exact .inl waiting

theorem attended_of_proceed (known : stage.Known tables) (answersFor : stage.custody = some uuid)
    (unfinished : after.Unfinished uuid)
    (proceeds : proceed maxDuration tables stage = some (after, rest)) :
    uuid ∈ after.messages ∨ ∃ remaining, rest = some remaining ∧ remaining.custody = some uuid := by
  cases stage with
  | dispatching uuid =>
      cases answersFor
      cases proceeds
      exact .inl List.mem_cons_self
  | getting uuid =>
      cases answersFor
      cases proceeds
      rcases unfinished with ⟨row, stored, _⟩
      rw [Option.mem_def.mp stored]
      exact .inr ⟨_, rfl, rfl⟩
  | starting uuid transcription =>
      cases answersFor
      rw [proceed] at proceeds
      split at proceeds
      · next gone =>
          cases proceeds
          exact absurd unfinished.mem (TranscriptionTables.save_eq_none gone)
      · cases proceeds
        exact .inr ⟨_, rfl, rfl⟩
  | savingFailed _ _ | savingDone _ _ _ =>
      cases answersFor
      simp only [proceed] at proceeds
      split at proceeds <;> cases proceeds <;> exact .inr ⟨_, rfl, rfl⟩
  | notifying uuid transcription =>
      cases answersFor
      cases proceeds
      exact absurd unfinished known.1.2
  | handling uuid transcription =>
      cases answersFor
      rw [proceed] at proceeds
      split at proceeds
      · next gone =>
          cases proceeds
          exact absurd unfinished.mem (TranscriptionTables.save_eq_none gone)
      · next saved =>
          cases proceeds
          rcases TranscriptionTables.save_eq_some saved with ⟨_, rfl⟩
          exact absurd unfinished
            (not_unfinished_modify (fun row => row.not_isUnfinished_failed) rfl)
  | invoking _ _ => cases proceeds
  | _ => cases answersFor

theorem attended_of_custody (known : stage.Known tables) (answersFor : stage.custody = some uuid)
    (unfinished : after.Unfinished uuid) (staysOn : StaysOn tables stage choice)
    (advanced : advance floats maxDuration tables stage choice = some (after, rest)) :
    uuid ∈ after.messages ∨ ∃ remaining, rest = some remaining ∧ remaining.custody = some uuid := by
  cases choice with
  | returns => exact attended_of_proceed known answersFor unfinished advanced
  | raises =>
      cases stage with
      | dispatching _ | getting _ | starting _ _ | handling _ _ =>
          cases answersFor
          cases advanced
          exact absurd unfinished staysOn
      | invoking _ _ | savingFailed _ _ | savingDone _ _ _ | notifying _ _ =>
          cases answersFor
          cases advanced
          exact .inr ⟨_, rfl, rfl⟩
      | _ => cases answersFor
  | responds response =>
      cases stage with
      | invoking transcription row =>
          cases answersFor
          simp only [advance] at advanced
          cases reading : readResponse floats response <;> rw [reading] at advanced <;>
            cases advanced <;> exact .inr ⟨_, rfl, rfl⟩
      | _ => cases advanced
  | skips =>
      cases stage with
      | notifying _ _ =>
          cases answersFor
          cases advanced
          exact absurd unfinished known.1.2
      | notifyingFailure _ => cases answersFor
      | _ => cases advanced
  | creates _ | receives _ => cases stage <;> first | cases advanced | cases answersFor

variable [DecidableEq Pid] {pool next : TranscriptionPool Pid} {pid : Pid}
  {event : TranscriptionEvent Pid Real}

theorem not_isAttended_of_left (holds : (transcriptionOutline floats maxDuration Pid).Holds pool)
    (running : pool.process pid = some stage) (answersFor : stage.custody = some uuid)
    (leaves : ∀ remaining ∈ rest, remaining.custody ≠ some uuid) :
    ¬IsAttended (pool.set pid rest) uuid := by
  have known : stage.Known pool.shared := holds.locals pid stage running
  rintro (waiting | ⟨other, otherStage, otherRunning, otherAnswersFor⟩)
  · exact (known.held answersFor).2 waiting
  · by_cases same : other = pid
    · subst same
      rw [Pool.set_process_self] at otherRunning
      exact leaves otherStage otherRunning otherAnswersFor
    · rw [Pool.set_process_other _ _ same] at otherRunning
      exact holds.compatible pid other stage otherStage (Ne.symm same) running otherRunning uuid
        answersFor otherAnswersFor

theorem isAttended_set (attended : IsAttended pool uuid)
    (messages : uuid ∈ pool.shared.messages → uuid ∈ after.messages ∨
      ∃ remaining, rest = some remaining ∧ remaining.custody = some uuid)
    (own : ∀ stage, pool.process pid = some stage → stage.custody = some uuid →
      uuid ∈ after.messages ∨ ∃ remaining, rest = some remaining ∧ remaining.custody = some uuid) :
    IsAttended ({ pool with shared := after }.set pid rest) uuid := by
  have goesOn : (uuid ∈ after.messages ∨
      ∃ remaining, rest = some remaining ∧ remaining.custody = some uuid) →
      IsAttended ({ pool with shared := after }.set pid rest) uuid := by
    rintro (waiting | ⟨remaining, isRest, answersFor⟩)
    · exact .inl waiting
    · refine .inr ⟨pid, remaining, ?_, answersFor⟩
      rw [Pool.set_process_self]
      exact isRest
  rcases attended with waiting | ⟨other, stage, running, answersFor⟩
  · exact goesOn (messages waiting)
  · by_cases same : other = pid
    · subst same
      exact goesOn (own stage running answersFor)
    · refine .inr ⟨other, stage, ?_, answersFor⟩
      rw [Pool.set_process_other _ _ same]
      exact running

theorem attended_advance (holds : (transcriptionOutline floats maxDuration Pid).Holds pool)
    (attended : AllAttended pool) (running : pool.process pid = some stage)
    (advanced : advance floats maxDuration pool.shared stage choice = some (after, rest))
    (staysOn : StaysOn pool.shared stage choice) :
    AllAttended ({ pool with shared := after }.set pid rest) := by
  intro uuid unfinished
  have known : stage.Known pool.shared := holds.locals pid stage running
  have answered : ∀ remaining, rest = some remaining → remaining.custody = some uuid →
      IsAttended ({ pool with shared := after }.set pid rest) uuid := by
    intro remaining isRest answersFor
    refine .inr ⟨pid, remaining, ?_, answersFor⟩
    rw [Pool.set_process_self]
    exact isRest
  rcases (evolves_of_write (write_of_advance advanced)).unfinished uuid unfinished with
    before | answersFor | fresh
  · apply isAttended_set (attended uuid before)
    · exact attended_of_message advanced
    · intro own ownRunning answersFor
      cases ownRunning.symm.trans running
      exact attended_of_custody known answersFor unfinished staysOn advanced
  · rcases attended_of_custody known answersFor unfinished staysOn advanced with
      waiting | ⟨remaining, isRest, goesOn⟩
    · exact .inl waiting
    · exact answered remaining isRest goesOn
  · have consistent : after.Consistent :=
      consistent_of_write holds.shared known (write_of_advance advanced)
    rcases attended_of_created advanced fresh (consistent.rows_issued uuid unfinished.mem) with
      ⟨remaining, isRest, answersFor⟩
    exact answered remaining isRest answersFor

theorem attends_advance (holds : (transcriptionOutline floats maxDuration Pid).Holds pool)
    (running : pool.process pid = some stage)
    (advanced : advance floats maxDuration pool.shared stage choice = some (after, rest))
    (attended : AllAttended ({ pool with shared := after }.set pid rest)) :
    StaysOn pool.shared stage choice := by
  cases choice with
  | raises =>
      cases stage with
      | dispatching _ | getting _ | starting _ _ | handling _ _ =>
          intro unfinished
          cases advanced
          exact not_isAttended_of_left holds running rfl (by simp [raised, TranscriptionStage.custody])
            (attended _ unfinished)
      | _ => trivial
  | _ => trivial

theorem attended_step_iff (holds : (transcriptionOutline floats maxDuration Pid).Holds pool)
    (attended : AllAttended pool)
    (stepped : (transcriptionProgram floats maxDuration).machine.step pool event = some next) :
    AllAttended next ↔ AttendsTo pool event := by
  cases event with
  | start pid task =>
      rcases Program.step_start stepped with ⟨free, rfl⟩
      refine ⟨fun _ => ⟨trivial, trivial⟩, fun _ uuid unfinished => ?_⟩
      apply isAttended_set (attended uuid unfinished) .inl
      intro stage running
      rw [free] at running
      cases running
  | advance pid choice =>
      rcases Program.step_advance stepped with ⟨stage, after, rest, running, advanced, rfl⟩
      have own : Pool.OwnStep StaysOn pool
          (.advance pid choice : TranscriptionEvent Pid Real) ↔
            StaysOn pool.shared stage choice := by
        rw [Pool.OwnStep, running]
      constructor
      · exact fun attendedAfter =>
          ⟨own.mpr (attends_advance holds running advanced attendedAfter), trivial⟩
      · exact fun attends => attended_advance holds attended running advanced (own.mp attends.1)
  | kill pid =>
      rcases Program.step_kill stepped with ⟨_, rfl⟩
      constructor
      · intro attendedAfter
        refine ⟨trivial, fun stage running uuid answersFor unfinished => ?_⟩
        have left : ¬IsAttended (pool.set pid none) uuid :=
          not_isAttended_of_left holds running answersFor (fun _ isRest => by cases isRest)
        exact left (attendedAfter uuid unfinished)
      · intro attends uuid unfinished
        apply isAttended_set (attended uuid unfinished) .inl
        intro stage running answersFor
        exact absurd unfinished (attends.2 stage running uuid answersFor)
  | surround media =>
      rcases Program.step_surround stepped with ⟨after, surrounded, rfl⟩
      cases surrounded
      refine ⟨fun _ => ⟨trivial, trivial⟩, fun _ uuid unfinished => ?_⟩
      rcases attended uuid (unfinished_deleteMedia unfinished) with waiting | running
      · left
        rw [messages_deleteMedia]
        exact waiting
      · exact .inr running

end Steps

variable [DecidableEq Pid]

/-- No unfinished transcription is ever left to itself, unless an exception leads out of the
request that sends its message, or out of its worker before the `try` or from the `except`, or one
of them is killed. -/
theorem unfinished_transcriptions_attended_iff (floats : FloatFormat Real) (maxDuration : Nat)
    (events : List (TranscriptionEvent Pid Real)) :
    (transcriptionProgram floats maxDuration).machine.Throughout AllAttended
        (Pool.idle .empty) events ↔
      (transcriptionProgram floats maxDuration).machine.AllSteps AttendsTo
        (Pool.idle .empty) events := by
  have always : (transcriptionOutline floats maxDuration Pid).Holds (Pool.idle .empty) :=
    (transcriptionOutline floats maxDuration Pid).holds_of_isIdle consistent_empty
      (Pool.idle_isIdle _)
  apply Machine.throughout_iff_allSteps ?_ ?_ always
  · rintro uuid ⟨row, stored, _⟩
    cases stored
  · intro pool event next holds stepped
    exact (transcriptionOutline floats maxDuration Pid).holds_step holds trivial stepped
  · intro pool event next holds attended stepped
    exact attended_step_iff holds attended stepped

end Attended

end ChatsEngine.AiFeatures
