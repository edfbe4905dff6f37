import ChatsEngine.Foundation.Machine
import Mathlib.Data.List.Perm.Basic

/-! # Agendas

An agenda holds the tasks that have been scheduled and have not run to their end
yet, over a shared state. A statement of a task replaces the task by what is left
of it and by the tasks that it schedules. Any task of the agenda may be the next
one to execute a statement. -/

namespace ChatsEngine

structure TaskProgram (Shared Task Choice Ambient : Type) where
  /-- The next statement of a task, with the tasks that replace it: what is left of
  the task, and the tasks that the statement schedules. -/
  advance : Shared → Task → Choice → Option (Shared × List Task)
  /-- What happens to the shared state besides the tasks' statements. -/
  surround : Shared → Ambient → Option Shared

structure Agenda (Shared Task : Type) where
  shared : Shared
  tasks : List Task

inductive AgendaEvent (Choice Ambient : Type)
  | advance (index : Nat) (choice : Choice)
  | surround (event : Ambient)

/-- A condition that each statement meets where it is issued, in terms of the
shared state and of its own task. -/
def Agenda.OwnStep {Shared Task Choice Ambient : Type}
    (allowed : Shared → Task → Choice → Prop) (agenda : Agenda Shared Task) :
    AgendaEvent Choice Ambient → Prop
  | .advance index choice =>
      ∀ task ∈ agenda.tasks[index]?, allowed agenda.shared task choice
  | .surround _ => True

instance {Shared Task Choice Ambient : Type} (allowed : Shared → Task → Choice → Prop)
    [∀ shared task choice, Decidable (allowed shared task choice)]
    (agenda : Agenda Shared Task) :
    (event : AgendaEvent Choice Ambient) → Decidable (agenda.OwnStep allowed event)
  | .advance index choice =>
      inferInstanceAs (Decidable (∀ task ∈ agenda.tasks[index]?,
        allowed agenda.shared task choice))
  | .surround _ => inferInstanceAs (Decidable True)

namespace TaskProgram

variable {Shared Task Choice Ambient : Type}

def step (program : TaskProgram Shared Task Choice Ambient) (agenda : Agenda Shared Task) :
    AgendaEvent Choice Ambient → Option (Agenda Shared Task)
  | .advance index choice =>
      match agenda.tasks[index]? with
      | none => none
      | some task =>
          match program.advance agenda.shared task choice with
          | none => none
          | some (shared, replacing) =>
              some { shared, tasks := replacing ++ agenda.tasks.eraseIdx index }
  | .surround event =>
      match program.surround agenda.shared event with
      | none => none
      | some shared => some { agenda with shared }

def machine (program : TaskProgram Shared Task Choice Ambient) :
    Machine (Agenda Shared Task) (AgendaEvent Choice Ambient) where
  step := program.step

variable {program : TaskProgram Shared Task Choice Ambient} {agenda next : Agenda Shared Task}

theorem step_advance {index : Nat} {choice : Choice}
    (stepped : program.machine.step agenda (.advance index choice) = some next) :
    ∃ task shared replacing others, agenda.tasks[index]? = some task ∧
      agenda.tasks.Perm (task :: others) ∧
      program.advance agenda.shared task choice = some (shared, replacing) ∧
      next = { shared, tasks := replacing ++ others } := by
  simp only [machine, step] at stepped
  split at stepped
  · cases stepped
  · next task found =>
      split at stepped
      · cases stepped
      · next shared replacing advanced =>
          rcases List.getElem?_eq_some_iff.mp found with ⟨bound, rfl⟩
          exact ⟨_, shared, replacing, agenda.tasks.eraseIdx index, found,
            (List.getElem_cons_eraseIdx_perm bound).symm, advanced,
            (Option.some.inj stepped).symm⟩

theorem step_surround {event : Ambient}
    (stepped : program.machine.step agenda (.surround event) = some next) :
    ∃ shared, program.surround agenda.shared event = some shared ∧
      next = { agenda with shared } := by
  simp only [machine, step] at stepped
  split at stepped
  · cases stepped
  · next shared surrounded =>
      exact ⟨shared, surrounded, (Option.some.inj stepped).symm⟩

theorem shared_of_reaches {Holds : Shared → Prop} {allowed : Shared → Task → Choice → Prop}
    (advance : ∀ {shared task choice after replacing}, allowed shared task choice →
      Holds shared → program.advance shared task choice = some (after, replacing) →
      Holds after)
    (surround : ∀ {shared event after}, Holds shared →
      program.surround shared event = some after → Holds after)
    {initial final : Agenda Shared Task}
    (reaches : program.machine.Reaches (fun agenda event => agenda.OwnStep allowed event)
      initial final)
    (initially : Holds initial.shared) : Holds final.shared := by
  induction reaches with
  | start => exact initially
  | @step current next event _ meets stepped holds =>
      cases event with
      | advance index choice =>
          rcases step_advance stepped with
            ⟨task, after, replacing, others, found, _, advanced, rfl⟩
          exact advance (meets task found) holds advanced
      | surround event =>
          rcases step_surround stepped with ⟨after, surrounded, rfl⟩
          exact surround holds surrounded

/-! ## Following a task -/

/-- From one agenda to another one, the task at the first position has become one of
the tasks that it has been replaced by, at the second position. -/
inductive Follows (program : TaskProgram Shared Task Choice Ambient) :
    Agenda Shared Task → Nat → List (AgendaEvent Choice Ambient) →
      Agenda Shared Task → Nat → Prop
  | stay (agenda : Agenda Shared Task) (position : Nat) :
      Follows program agenda position [] agenda position
  | surround {agenda next final : Agenda Shared Task} {position last : Nat} {event : Ambient}
      {events : List (AgendaEvent Choice Ambient)} :
      program.machine.step agenda (.surround event) = some next →
      Follows program next position events final last →
      Follows program agenda position (.surround event :: events) final last
  /-- Another task has been replaced by as many tasks as make the new length. -/
  | other {agenda next final : Agenda Shared Task} {index position last : Nat} {choice : Choice}
      {events : List (AgendaEvent Choice Ambient)} : index ≠ position →
      program.machine.step agenda (.advance index choice) = some next →
      Follows program next
        (next.tasks.length + 1 - agenda.tasks.length +
          if index < position then position - 1 else position) events final last →
      Follows program agenda position (.advance index choice :: events) final last
  | own {agenda next final : Agenda Shared Task} {position moved last : Nat} {choice : Choice}
      {events : List (AgendaEvent Choice Ambient)} :
      program.machine.step agenda (.advance position choice) = some next →
      moved < next.tasks.length + 1 - agenda.tasks.length →
      Follows program next moved events final last →
      Follows program agenda position (.advance position choice :: events) final last

theorem step_advance_at {index : Nat} {choice : Choice}
    (stepped : program.machine.step agenda (.advance index choice) = some next) :
    ∃ task shared replacing, agenda.tasks[index]? = some task ∧
      program.advance agenda.shared task choice = some (shared, replacing) ∧
      next = { shared, tasks := replacing ++ agenda.tasks.eraseIdx index } ∧
      next.tasks.length + 1 - agenda.tasks.length = replacing.length := by
  simp only [machine, step] at stepped
  split at stepped
  · cases stepped
  · next task found =>
      split at stepped
      · cases stepped
      · next shared replacing advanced =>
          cases stepped
          refine ⟨task, shared, replacing, found, advanced, rfl, ?_⟩
          rcases List.getElem?_eq_some_iff.mp found with ⟨bound, _⟩
          have erased := List.length_eraseIdx_add_one bound
          simp only [List.length_append]
          omega

theorem Follows.advanced {final : Agenda Shared Task} {position : Nat} {task : Task}
    {events : List (AgendaEvent Choice Ambient)} (found : agenda.tasks[position]? = some task)
    (ran : program.machine.run agenda events = some final) (executed : final.tasks = []) :
    ∃ before moved choice after current, events = before ++ .advance moved choice :: after ∧
      program.Follows agenda position before current moved ∧
      current.tasks[moved]? = some task ∧
      program.machine.run current (.advance moved choice :: after) = some final := by
  induction events generalizing agenda position with
  | nil =>
      cases ran
      simp [executed] at found
  | cons event events induction =>
      rcases Machine.run_cons_eq_some ran with ⟨next, stepped, rest⟩
      cases event with
      | surround event =>
          have kept : next.tasks[position]? = some task := by
            rcases step_surround stepped with ⟨shared, _, rfl⟩
            exact found
          rcases induction kept rest with
            ⟨before, moved, choice, after, current, rfl, follows, there, onward⟩
          exact ⟨_ :: before, moved, choice, after, current, rfl, .surround stepped follows,
            there, onward⟩
      | advance index choice =>
          by_cases own : index = position
          · subst own
            exact ⟨[], index, choice, events, agenda, rfl, .stay agenda index, found, ran⟩
          · have kept : next.tasks[next.tasks.length + 1 - agenda.tasks.length +
                if index < position then position - 1 else position]? = some task := by
              rcases step_advance_at stepped with ⟨_, shared, replacing, _, _, same, length⟩
              rw [length, same, List.getElem?_append_right (Nat.le_add_right _ _),
                Nat.add_sub_cancel_left, List.getElem?_eraseIdx]
              split
              · have shifted : position - 1 + 1 = position := by omega
                have later : ¬position - 1 < index := by omega
                rw [if_neg later, shifted, found]
              · have earlier : position < index := by omega
                rw [if_pos earlier, found]
            rcases induction kept rest with
              ⟨before, moved, choice, after, current, rfl, follows, there, onward⟩
            exact ⟨_ :: before, moved, choice, after, current, rfl, .other own stepped follows,
              there, onward⟩

theorem Follows.trans {middle final : Agenda Shared Task} {position moved last : Nat}
    {events others : List (AgendaEvent Choice Ambient)}
    (first : program.Follows agenda position events middle moved)
    (second : program.Follows middle moved others final last) :
    program.Follows agenda position (events ++ others) final last := by
  induction first with
  | stay => exact second
  | surround stepped _ induction => exact .surround stepped (induction second)
  | other different stepped _ induction => exact .other different stepped (induction second)
  | own stepped replaced _ induction => exact .own stepped replaced (induction second)

theorem Follows.run {final : Agenda Shared Task} {position last : Nat}
    {events : List (AgendaEvent Choice Ambient)}
    (follows : program.Follows agenda position events final last) :
    program.machine.run agenda events = some final := by
  induction follows with
  | stay => rfl
  | surround stepped _ induction => exact (Machine.run_cons stepped _).trans induction
  | other _ stepped _ induction => exact (Machine.run_cons stepped _).trans induction
  | own stepped _ _ induction => exact (Machine.run_cons stepped _).trans induction

end TaskProgram

/-- A proof outline for an agenda: an invariant of the shared state and the tasks,
in which the order of the tasks does not matter. Steps are only asked for where
they are allowed. -/
structure TaskOutline {Shared Task Choice Ambient : Type}
    (program : TaskProgram Shared Task Choice Ambient)
    (allowed : Shared → Task → Choice → Prop) where
  Invariant : Shared → List Task → Prop
  perm : ∀ {shared tasks others}, List.Perm tasks others → Invariant shared tasks →
    Invariant shared others
  advance : ∀ {shared task others choice after replacing}, allowed shared task choice →
    Invariant shared (task :: others) →
    program.advance shared task choice = some (after, replacing) →
    Invariant after (replacing ++ others)
  surround : ∀ {shared tasks event after}, Invariant shared tasks →
    program.surround shared event = some after → Invariant after tasks

namespace TaskOutline

variable {Shared Task Choice Ambient : Type} {program : TaskProgram Shared Task Choice Ambient}
  {allowed : Shared → Task → Choice → Prop} (outline : TaskOutline program allowed)

/-- Since the order does not matter, the task that executes a statement may be
taken to be the first one. -/
theorem holds_of_reaches {initial final : Agenda Shared Task}
    (reaches : program.machine.Reaches (fun agenda event => agenda.OwnStep allowed event)
      initial final)
    (initially : outline.Invariant initial.shared initial.tasks) :
    outline.Invariant final.shared final.tasks := by
  induction reaches with
  | start => exact initially
  | @step current next event _ meets stepped holds =>
      cases event with
      | advance index choice =>
          rcases TaskProgram.step_advance stepped with
            ⟨task, after, replacing, others, found, order, advanced, rfl⟩
          exact outline.advance (meets task found) (outline.perm order holds) advanced
      | surround event =>
          rcases TaskProgram.step_surround stepped with ⟨after, surrounded, rfl⟩
          exact outline.surround holds surrounded

end TaskOutline

end ChatsEngine
