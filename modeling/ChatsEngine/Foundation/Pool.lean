import ChatsEngine.Foundation.Machine
import Mathlib.Data.Fintype.Basic
import Mathlib.Logic.Function.Basic

/-! # Pools of processes over shared state

A program says what one statement of a process does to the shared state and to
the process's own locals. A pool runs any number of processes of one program,
interleaved statement by statement; a process can be killed between two of its
statements, and the surroundings act on the shared state in between. -/

namespace ChatsEngine

structure Program (Shared Local Task Choice Ambient : Type) where
  /-- The locals with which a process starts on a task. -/
  enter : Task → Local
  /-- The next statement of a process; no locals are left once it has ended. -/
  advance : Shared → Local → Choice → Option (Shared × Option Local)
  /-- What happens to the shared state besides the processes' statements. -/
  surround : Shared → Ambient → Option Shared

structure Pool (Pid Shared Local : Type) where
  shared : Shared
  process : Pid → Option Local

inductive PoolEvent (Pid Task Choice Ambient : Type)
  | start (pid : Pid) (task : Task)
  | advance (pid : Pid) (choice : Choice)
  | kill (pid : Pid)
  | surround (event : Ambient)

namespace Pool

variable {Pid Shared Local : Type}

def idle (shared : Shared) : Pool Pid Shared Local where
  shared := shared
  process := fun _ => none

def IsIdle (pool : Pool Pid Shared Local) : Prop :=
  ∀ pid, pool.process pid = none

instance [Fintype Pid] (pool : Pool Pid Shared Local) : Decidable pool.IsIdle := by
  unfold IsIdle
  infer_instance

theorem idle_isIdle (shared : Shared) :
    (idle shared : Pool Pid Shared Local).IsIdle := fun _ => rfl

/-- A condition that each statement meets where it is issued, in terms of the
shared state and of the locals of its own process. -/
def OwnStep {Task Choice Ambient : Type} (allowed : Shared → Local → Choice → Prop)
    (pool : Pool Pid Shared Local) : PoolEvent Pid Task Choice Ambient → Prop
  | .advance pid choice =>
      match pool.process pid with
      | none => True
      | some locals => allowed pool.shared locals choice
  | _ => True

instance {Task Choice Ambient : Type} (allowed : Shared → Local → Choice → Prop)
    [∀ shared locals choice, Decidable (allowed shared locals choice)]
    (pool : Pool Pid Shared Local) (event : PoolEvent Pid Task Choice Ambient) :
    Decidable (pool.OwnStep allowed event) := by
  unfold OwnStep
  split
  · split <;> infer_instance
  · infer_instance

theorem OwnStep.allowed {Task Choice Ambient : Type}
    {allowed : Shared → Local → Choice → Prop} {pool : Pool Pid Shared Local}
    {pid : Pid} {choice : Choice} {locals : Local}
    (own : pool.OwnStep allowed
      (.advance pid choice : PoolEvent Pid Task Choice Ambient))
    (running : pool.process pid = some locals) :
    allowed pool.shared locals choice := by
  simpa only [OwnStep, running] using own

variable [DecidableEq Pid]

def set (pool : Pool Pid Shared Local) (pid : Pid) (locals : Option Local) :
    Pool Pid Shared Local :=
  { pool with process := Function.update pool.process pid locals }

@[simp] theorem set_shared (pool : Pool Pid Shared Local) (pid : Pid)
    (locals : Option Local) : (pool.set pid locals).shared = pool.shared := rfl

@[simp] theorem set_process_self (pool : Pool Pid Shared Local) (pid : Pid)
    (locals : Option Local) : (pool.set pid locals).process pid = locals := by
  simp [set]

theorem set_process_other (pool : Pool Pid Shared Local) {pid other : Pid}
    (locals : Option Local) (different : other ≠ pid) :
    (pool.set pid locals).process other = pool.process other := by
  simp [set, different]

theorem set_set (pool : Pool Pid Shared Local) (pid : Pid) (shared : Shared)
    (locals rest : Option Local) :
    { pool.set pid locals with shared }.set pid rest = { pool with shared }.set pid rest := by
  simp [set]

end Pool

namespace Program

variable {Pid Shared Local Task Choice Ambient : Type} [DecidableEq Pid]

def step (program : Program Shared Local Task Choice Ambient)
    (pool : Pool Pid Shared Local) :
    PoolEvent Pid Task Choice Ambient → Option (Pool Pid Shared Local)
  | .start pid task =>
      match pool.process pid with
      | some _ => none
      | none => some (pool.set pid (some (program.enter task)))
  | .advance pid choice =>
      match pool.process pid with
      | none => none
      | some locals =>
          match program.advance pool.shared locals choice with
          | none => none
          | some (shared, rest) => some ({ pool with shared }.set pid rest)
  | .kill pid =>
      match pool.process pid with
      | none => none
      | some _ => some (pool.set pid none)
  | .surround event =>
      match program.surround pool.shared event with
      | none => none
      | some shared => some { pool with shared }

def machine (program : Program Shared Local Task Choice Ambient) :
    Machine (Pool Pid Shared Local) (PoolEvent Pid Task Choice Ambient) where
  step := program.step

section Inversion

variable {program : Program Shared Local Task Choice Ambient}
  {pool next : Pool Pid Shared Local}

theorem step_start {pid : Pid} {task : Task}
    (stepped : program.machine.step pool (.start pid task) = some next) :
    pool.process pid = none ∧ next = pool.set pid (some (program.enter task)) := by
  simp only [machine, step] at stepped
  split at stepped
  · cases stepped
  · next free => exact ⟨free, (Option.some.inj stepped).symm⟩

theorem step_advance {pid : Pid} {choice : Choice}
    (stepped : program.machine.step pool (.advance pid choice) = some next) :
    ∃ locals shared rest, pool.process pid = some locals ∧
      program.advance pool.shared locals choice = some (shared, rest) ∧
      next = { pool with shared }.set pid rest := by
  simp only [machine, step] at stepped
  split at stepped
  · cases stepped
  · next locals running =>
      split at stepped
      · cases stepped
      · next shared rest advanced =>
          exact ⟨locals, shared, rest, running, advanced,
            (Option.some.inj stepped).symm⟩

theorem step_kill {pid : Pid}
    (stepped : program.machine.step pool (.kill pid) = some next) :
    (∃ locals, pool.process pid = some locals) ∧ next = pool.set pid none := by
  simp only [machine, step] at stepped
  split at stepped
  · cases stepped
  · next locals running => exact ⟨⟨locals, running⟩, (Option.some.inj stepped).symm⟩

theorem step_surround {event : Ambient}
    (stepped : program.machine.step pool (.surround event) = some next) :
    ∃ shared, program.surround pool.shared event = some shared ∧
      next = { pool with shared } := by
  simp only [machine, step] at stepped
  split at stepped
  · cases stepped
  · next shared surrounded =>
      exact ⟨shared, surrounded, (Option.some.inj stepped).symm⟩

theorem run_start {pid : Pid} (task : Task) (free : pool.process pid = none)
    (events : List (PoolEvent Pid Task Choice Ambient)) :
    program.machine.run pool (.start pid task :: events) =
      program.machine.run (pool.set pid (some (program.enter task))) events := by
  apply Machine.run_cons
  simp only [machine, step, free]

theorem run_advance {pid : Pid} {choice : Choice} {locals : Local} {shared : Shared}
    {rest : Option Local} (running : pool.process pid = some locals)
    (advanced : program.advance pool.shared locals choice = some (shared, rest))
    (events : List (PoolEvent Pid Task Choice Ambient)) :
    program.machine.run pool (.advance pid choice :: events) =
      program.machine.run ({ pool with shared }.set pid rest) events := by
  apply Machine.run_cons
  simp only [machine, step, running, advanced]

theorem run_advance_set {pid : Pid} {choice : Choice} {locals : Local} {shared : Shared}
    {rest : Option Local}
    (advanced : program.advance pool.shared locals choice = some (shared, rest))
    (events : List (PoolEvent Pid Task Choice Ambient)) :
    program.machine.run (pool.set pid (some locals)) (.advance pid choice :: events) =
      program.machine.run ({ pool with shared }.set pid rest) events := by
  rw [run_advance (Pool.set_process_self pool pid (some locals)) advanced events, Pool.set_set]

theorem run_advance_unchanged {pid : Pid} {choice : Choice} {locals : Local}
    {rest : Option Local}
    (advanced : program.advance pool.shared locals choice = some (pool.shared, rest))
    (events : List (PoolEvent Pid Task Choice Ambient)) :
    program.machine.run (pool.set pid (some locals)) (.advance pid choice :: events) =
      program.machine.run (pool.set pid rest) events :=
  run_advance_set advanced events

end Inversion

end Program

/-! ## Proof outlines -/

section ProofOutlines

variable {Pid Shared Local Task Choice Ambient : Type}

/-- A proof outline for a pool: an invariant of the shared state, an assertion on
the locals of each process, and a relation between the locals of any two
processes. What a process does, or what happens in the surroundings, must keep
the assertions of the others. Steps are only asked for where they meet
`condition`. -/
structure PairOutline (program : Program Shared Local Task Choice Ambient)
    (condition : Pool Pid Shared Local → PoolEvent Pid Task Choice Ambient → Prop) where
  Invariant : Shared → Prop
  Assertion : Shared → Local → Prop
  Compatible : Local → Local → Prop
  symmetric : ∀ {left right}, Compatible left right → Compatible right left
  enter : ∀ {shared task}, Invariant shared → Assertion shared (program.enter task)
  enterCompatible : ∀ {task locals}, Compatible (program.enter task) locals
  advance : ∀ {pool : Pool Pid Shared Local} {pid choice locals shared rest},
    condition pool (.advance pid choice) → pool.process pid = some locals →
    Invariant pool.shared → Assertion pool.shared locals →
    program.advance pool.shared locals choice = some (shared, rest) →
    Invariant shared ∧ ∀ remaining, rest = some remaining → Assertion shared remaining
  advanceOther : ∀ {pool : Pool Pid Shared Local} {pid choice locals shared rest},
    condition pool (.advance pid choice) → pool.process pid = some locals →
    Invariant pool.shared → Assertion pool.shared locals →
    program.advance pool.shared locals choice = some (shared, rest) →
    ∀ other otherLocals, other ≠ pid → pool.process other = some otherLocals →
      Assertion pool.shared otherLocals → Compatible locals otherLocals →
      Assertion shared otherLocals ∧
        ∀ remaining, rest = some remaining → Compatible remaining otherLocals
  surround : ∀ {pool : Pool Pid Shared Local} {event shared},
    condition pool (.surround event) → Invariant pool.shared →
    program.surround pool.shared event = some shared →
    Invariant shared ∧ ∀ pid locals, pool.process pid = some locals →
      Assertion pool.shared locals → Assertion shared locals

namespace PairOutline

variable {program : Program Shared Local Task Choice Ambient}
  {condition : Pool Pid Shared Local → PoolEvent Pid Task Choice Ambient → Prop}

structure Holds (outline : PairOutline program condition)
    (pool : Pool Pid Shared Local) : Prop where
  shared : outline.Invariant pool.shared
  locals : ∀ pid locals, pool.process pid = some locals →
    outline.Assertion pool.shared locals
  compatible : ∀ pid other locals otherLocals, pid ≠ other →
    pool.process pid = some locals → pool.process other = some otherLocals →
    outline.Compatible locals otherLocals

variable (outline : PairOutline program condition) {pool next : Pool Pid Shared Local}

theorem holds_of_isIdle (invariant : outline.Invariant pool.shared)
    (isIdle : pool.IsIdle) : outline.Holds pool where
  shared := invariant
  locals := fun pid _ running => by simp [isIdle pid] at running
  compatible := fun pid _ _ _ _ running => by simp [isIdle pid] at running

variable [DecidableEq Pid]

/-- Replacing the locals of one process keeps the outline when the assertions of
the others survive the change of the shared state, and the new locals are
compatible with them. -/
theorem holds_set (holds : outline.Holds pool) {shared : Shared} {pid : Pid}
    {rest : Option Local} (invariant : outline.Invariant shared)
    (assertion : ∀ remaining, rest = some remaining →
      outline.Assertion shared remaining)
    (others : ∀ other locals, other ≠ pid → pool.process other = some locals →
      outline.Assertion shared locals ∧
        ∀ remaining, rest = some remaining → outline.Compatible remaining locals) :
    outline.Holds ({ pool with shared }.set pid rest) := by
  refine ⟨invariant, ?_, ?_⟩
  · intro other locals running
    by_cases same : other = pid
    · subst same
      exact assertion locals (by simpa using running)
    · rw [Pool.set_process_other _ _ same] at running
      exact (others other locals same running).1
  · intro left right leftLocals rightLocals different leftRunning rightRunning
    by_cases leftSame : left = pid
    · subst leftSame
      rw [Pool.set_process_other _ _ different.symm] at rightRunning
      exact (others right rightLocals different.symm rightRunning).2 leftLocals
        (by simpa using leftRunning)
    · rw [Pool.set_process_other _ _ leftSame] at leftRunning
      by_cases rightSame : right = pid
      · subst rightSame
        exact outline.symmetric ((others left leftLocals leftSame leftRunning).2 rightLocals
          (by simpa using rightRunning))
      · rw [Pool.set_process_other _ _ rightSame] at rightRunning
        exact holds.compatible left right leftLocals rightLocals different leftRunning
          rightRunning

theorem holds_step {event : PoolEvent Pid Task Choice Ambient}
    (holds : outline.Holds pool) (meets : condition pool event)
    (stepped : program.machine.step pool event = some next) :
    outline.Holds next := by
  cases event with
  | start pid task =>
      rcases Program.step_start stepped with ⟨_, rfl⟩
      refine outline.holds_set holds holds.shared ?_ ?_
      · intro locals entered
        cases entered
        exact outline.enter holds.shared
      · intro other locals _ running
        refine ⟨holds.locals other locals running, ?_⟩
        intro remaining entered
        cases entered
        exact outline.enterCompatible
  | advance pid choice =>
      rcases Program.step_advance stepped with
        ⟨locals, shared, rest, running, advanced, rfl⟩
      have assertion := holds.locals pid locals running
      rcases outline.advance meets running holds.shared assertion advanced with
        ⟨invariant, remains⟩
      refine outline.holds_set holds invariant remains ?_
      intro other otherLocals different otherRunning
      exact outline.advanceOther meets running holds.shared assertion advanced
        other otherLocals different otherRunning
        (holds.locals other otherLocals otherRunning)
        (holds.compatible pid other locals otherLocals different.symm running otherRunning)
  | kill pid =>
      rcases Program.step_kill stepped with ⟨_, rfl⟩
      refine outline.holds_set holds holds.shared (fun _ ended => by cases ended) ?_
      intro other locals _ running
      exact ⟨holds.locals other locals running, fun _ ended => by cases ended⟩
  | surround event =>
      rcases Program.step_surround stepped with ⟨shared, surrounded, rfl⟩
      rcases outline.surround meets holds.shared surrounded with ⟨invariant, kept⟩
      refine ⟨invariant, ?_, holds.compatible⟩
      intro pid locals running
      exact kept pid locals running (holds.locals pid locals running)

/-- An outline that holds initially holds of every pool that a run meeting the
condition reaches. -/
theorem holds_of_reaches {initial final : Pool Pid Shared Local}
    (reaches : program.machine.Reaches condition initial final)
    (initially : outline.Holds initial) : outline.Holds final :=
  reaches.invariant initially fun _ _ _ holds meets stepped =>
    outline.holds_step holds meets stepped

end PairOutline

/-- A proof outline without a relation between two processes: the assertions have
to be free of interference. -/
structure InterferenceOutline (program : Program Shared Local Task Choice Ambient)
    (condition : Pool Pid Shared Local → PoolEvent Pid Task Choice Ambient → Prop) where
  Invariant : Shared → Prop
  Assertion : Shared → Local → Prop
  enter : ∀ {shared task}, Invariant shared → Assertion shared (program.enter task)
  advance : ∀ {pool : Pool Pid Shared Local} {pid choice locals shared rest},
    condition pool (.advance pid choice) → pool.process pid = some locals →
    Invariant pool.shared → Assertion pool.shared locals →
    program.advance pool.shared locals choice = some (shared, rest) →
    Invariant shared ∧ ∀ remaining, rest = some remaining → Assertion shared remaining
  advanceOther : ∀ {pool : Pool Pid Shared Local} {pid choice locals shared rest},
    condition pool (.advance pid choice) → pool.process pid = some locals →
    Invariant pool.shared → Assertion pool.shared locals →
    program.advance pool.shared locals choice = some (shared, rest) →
    ∀ other otherLocals, other ≠ pid → pool.process other = some otherLocals →
      Assertion pool.shared otherLocals → Assertion shared otherLocals
  surround : ∀ {pool : Pool Pid Shared Local} {event shared},
    condition pool (.surround event) → Invariant pool.shared →
    program.surround pool.shared event = some shared →
    Invariant shared ∧ ∀ pid locals, pool.process pid = some locals →
      Assertion pool.shared locals → Assertion shared locals

namespace InterferenceOutline

variable {program : Program Shared Local Task Choice Ambient}
  {condition : Pool Pid Shared Local → PoolEvent Pid Task Choice Ambient → Prop}

def pair (outline : InterferenceOutline program condition) :
    PairOutline program condition where
  Invariant := outline.Invariant
  Assertion := outline.Assertion
  Compatible := fun _ _ => True
  symmetric := fun _ => trivial
  enter := outline.enter
  enterCompatible := trivial
  advance := outline.advance
  advanceOther := fun meets running invariant assertion advanced other otherLocals different
      otherRunning otherAssertion _ =>
    ⟨outline.advanceOther meets running invariant assertion advanced other otherLocals
      different otherRunning otherAssertion, fun _ _ => trivial⟩
  surround := outline.surround

@[reducible] def Holds (outline : InterferenceOutline program condition)
    (pool : Pool Pid Shared Local) : Prop :=
  outline.pair.Holds pool

variable (outline : InterferenceOutline program condition)
  {pool next : Pool Pid Shared Local}

theorem holds_of_isIdle (invariant : outline.Invariant pool.shared)
    (isIdle : pool.IsIdle) : outline.Holds pool :=
  outline.pair.holds_of_isIdle invariant isIdle

variable [DecidableEq Pid]

theorem holds_step {event : PoolEvent Pid Task Choice Ambient}
    (holds : outline.Holds pool) (meets : condition pool event)
    (stepped : program.machine.step pool event = some next) :
    outline.Holds next :=
  outline.pair.holds_step holds meets stepped

theorem holds_of_reaches {initial final : Pool Pid Shared Local}
    (reaches : program.machine.Reaches condition initial final)
    (initially : outline.Holds initial) : outline.Holds final :=
  outline.pair.holds_of_reaches reaches initially

end InterferenceOutline

/-- A rely–guarantee outline: every change of the shared state stays within a
relation under which all assertions are stable. -/
structure Outline (program : Program Shared Local Task Choice Ambient)
    (condition : Pool Pid Shared Local → PoolEvent Pid Task Choice Ambient → Prop) where
  Invariant : Shared → Prop
  Assertion : Shared → Local → Prop
  Guarantee : Shared → Shared → Prop
  enter : ∀ {shared task}, Invariant shared → Assertion shared (program.enter task)
  advance : ∀ {pool : Pool Pid Shared Local} {pid choice locals shared rest},
    condition pool (.advance pid choice) → pool.process pid = some locals →
    Invariant pool.shared → Assertion pool.shared locals →
    program.advance pool.shared locals choice = some (shared, rest) →
    Invariant shared ∧ Guarantee pool.shared shared ∧
      ∀ remaining, rest = some remaining → Assertion shared remaining
  surround : ∀ {pool : Pool Pid Shared Local} {event shared},
    condition pool (.surround event) → Invariant pool.shared →
    program.surround pool.shared event = some shared →
    Invariant shared ∧ Guarantee pool.shared shared
  stable : ∀ {before after locals}, Guarantee before after →
    Assertion before locals → Assertion after locals

namespace Outline

variable {program : Program Shared Local Task Choice Ambient}
  {condition : Pool Pid Shared Local → PoolEvent Pid Task Choice Ambient → Prop}

def interference (outline : Outline program condition) :
    InterferenceOutline program condition where
  Invariant := outline.Invariant
  Assertion := outline.Assertion
  enter := outline.enter
  advance := by
    intro pool pid choice locals shared rest meets running invariant assertion advanced
    rcases outline.advance meets running invariant assertion advanced with
      ⟨after, _, remains⟩
    exact ⟨after, remains⟩
  advanceOther := by
    intro pool pid choice locals shared rest meets running invariant assertion advanced
    rcases outline.advance meets running invariant assertion advanced with
      ⟨_, guarantee, _⟩
    exact fun _ _ _ _ before => outline.stable guarantee before
  surround := by
    intro pool event shared meets invariant surrounded
    rcases outline.surround meets invariant surrounded with ⟨after, guarantee⟩
    exact ⟨after, fun _ _ _ before => outline.stable guarantee before⟩

@[reducible] def Holds (outline : Outline program condition)
    (pool : Pool Pid Shared Local) : Prop :=
  outline.interference.Holds pool

variable (outline : Outline program condition) {pool next : Pool Pid Shared Local}

theorem holds_idle {shared : Shared} (invariant : outline.Invariant shared) :
    outline.Holds (Pool.idle shared) :=
  outline.interference.holds_of_isIdle invariant (Pool.idle_isIdle shared)

/-- The rely–guarantee rule. -/
theorem holds_of_reaches [DecidableEq Pid] {initial final : Pool Pid Shared Local}
    (reaches : program.machine.Reaches condition initial final)
    (initially : outline.Holds initial) : outline.Holds final :=
  outline.interference.holds_of_reaches reaches initially

end Outline

/-- If a statement keeps a property of the shared state exactly when it is allowed,
and the surroundings keep it, then the property holds throughout a run exactly when
all statements of the run are allowed. -/
theorem PairOutline.throughout_iff [DecidableEq Pid]
    {program : Program Shared Local Task Choice Ambient}
    (outline : PairOutline program
      (Machine.anyStep : Pool Pid Shared Local → PoolEvent Pid Task Choice Ambient → Prop))
    {Keeps : Shared → Prop} {allowed : Shared → Local → Choice → Prop}
    (advance_iff : ∀ shared locals choice after rest, outline.Invariant shared →
      outline.Assertion shared locals → Keeps shared →
      program.advance shared locals choice = some (after, rest) →
      (Keeps after ↔ allowed shared locals choice))
    (surround_keeps : ∀ shared event after, outline.Invariant shared → Keeps shared →
      program.surround shared event = some after → Keeps after)
    {shared : Shared} (invariant : outline.Invariant shared) (keeps : Keeps shared)
    (events : List (PoolEvent Pid Task Choice Ambient)) :
    program.machine.Throughout (fun pool => Keeps pool.shared) (Pool.idle shared) events ↔
      program.machine.AllSteps (fun pool event => pool.OwnStep allowed event)
        (Pool.idle shared) events := by
  apply Machine.throughout_iff_allSteps ?_ ?_
    (outline.holds_of_isIdle invariant (Pool.idle_isIdle shared)) keeps
  · intro pool event next holds stepped
    exact outline.holds_step holds trivial stepped
  · intro pool event next holds keeps stepped
    cases event with
    | start pid task =>
        rcases Program.step_start stepped with ⟨_, rfl⟩
        exact ⟨fun _ => trivial, fun _ => keeps⟩
    | advance pid choice =>
        rcases Program.step_advance stepped with
          ⟨locals, after, rest, running, advanced, rfl⟩
        have here := advance_iff _ locals choice after rest holds.shared
          (holds.locals pid locals running) keeps advanced
        simpa only [Pool.OwnStep, running, Pool.set_shared] using here
    | kill pid =>
        rcases Program.step_kill stepped with ⟨_, rfl⟩
        exact ⟨fun _ => trivial, fun _ => keeps⟩
    | surround event =>
        rcases Program.step_surround stepped with ⟨after, surrounded, rfl⟩
        exact ⟨fun _ => trivial, fun _ => surround_keeps _ _ _ holds.shared keeps surrounded⟩

/-- The same, with a rely–guarantee outline. -/
theorem Outline.throughout_iff [DecidableEq Pid]
    {program : Program Shared Local Task Choice Ambient}
    (outline : Outline program
      (Machine.anyStep : Pool Pid Shared Local → PoolEvent Pid Task Choice Ambient → Prop))
    {Keeps : Shared → Prop} {allowed : Shared → Local → Choice → Prop}
    (advance_iff : ∀ shared locals choice after rest, outline.Invariant shared →
      outline.Assertion shared locals → Keeps shared →
      program.advance shared locals choice = some (after, rest) →
      (Keeps after ↔ allowed shared locals choice))
    (surround_keeps : ∀ shared event after, outline.Invariant shared → Keeps shared →
      program.surround shared event = some after → Keeps after)
    {shared : Shared} (invariant : outline.Invariant shared) (keeps : Keeps shared)
    (events : List (PoolEvent Pid Task Choice Ambient)) :
    program.machine.Throughout (fun pool => Keeps pool.shared) (Pool.idle shared) events ↔
      program.machine.AllSteps (fun pool event => pool.OwnStep allowed event)
        (Pool.idle shared) events :=
  outline.interference.pair.throughout_iff advance_iff surround_keeps invariant keeps events

end ProofOutlines

/-! ## Processes that do not overlap -/

section Sequential

variable {Pid Shared Local Task Choice Ambient : Type}

/-- A process starts only when no other process is in flight. -/
def NonOverlapping (pool : Pool Pid Shared Local) :
    PoolEvent Pid Task Choice Ambient → Prop
  | .start _ _ => pool.IsIdle
  | _ => True

instance [Fintype Pid] (pool : Pool Pid Shared Local)
    (event : PoolEvent Pid Task Choice Ambient) : Decidable (NonOverlapping pool event) := by
  unfold NonOverlapping
  split <;> infer_instance

/-- A proof outline for processes that do not overlap: there is nothing the
assertion of a process has to be stable under but the surroundings. -/
structure SequentialOutline (program : Program Shared Local Task Choice Ambient) where
  Invariant : Shared → Prop
  Assertion : Shared → Local → Prop
  enter : ∀ {shared task}, Invariant shared → Assertion shared (program.enter task)
  advance : ∀ {shared after locals choice rest}, Invariant shared →
    Assertion shared locals →
    program.advance shared locals choice = some (after, rest) →
    Invariant after ∧ ∀ remaining, rest = some remaining → Assertion after remaining
  surround : ∀ {shared after event}, Invariant shared →
    program.surround shared event = some after →
    Invariant after ∧ ∀ locals, Assertion shared locals → Assertion after locals

namespace SequentialOutline

variable {program : Program Shared Local Task Choice Ambient}

structure Holds (outline : SequentialOutline program)
    (pool : Pool Pid Shared Local) : Prop where
  shared : outline.Invariant pool.shared
  locals : ∀ pid locals, pool.process pid = some locals →
    outline.Assertion pool.shared locals
  alone : ∀ pid other, pool.process pid ≠ none → pool.process other ≠ none →
    pid = other

variable (outline : SequentialOutline program) {pool next : Pool Pid Shared Local}

theorem holds_of_isIdle (invariant : outline.Invariant pool.shared)
    (isIdle : pool.IsIdle) : outline.Holds pool where
  shared := invariant
  locals := fun pid _ running => by simp [isIdle pid] at running
  alone := fun pid _ running => absurd (isIdle pid) running

variable [DecidableEq Pid]

theorem holds_of_only (pid : Pid) (invariant : outline.Invariant pool.shared)
    (others : ∀ other, other ≠ pid → pool.process other = none)
    (assertion : ∀ locals, pool.process pid = some locals →
      outline.Assertion pool.shared locals) :
    outline.Holds pool := by
  have only : ∀ other, pool.process other ≠ none → other = pid := by
    intro other running
    by_contra different
    exact running (others other different)
  refine ⟨invariant, ?_, ?_⟩
  · intro other locals running
    have same : other = pid := only other (by simp [running])
    subst same
    exact assertion locals running
  · intro left right leftRunning rightRunning
    exact (only left leftRunning).trans (only right rightRunning).symm

theorem holds_set (holds : outline.Holds pool) {shared : Shared} {pid : Pid}
    {rest : Option Local} (running : pool.process pid ≠ none)
    (invariant : outline.Invariant shared)
    (assertion : ∀ remaining, rest = some remaining →
      outline.Assertion shared remaining) :
    outline.Holds ({ pool with shared }.set pid rest) := by
  refine outline.holds_of_only pid invariant ?_ ?_
  · intro other different
    rw [Pool.set_process_other _ _ different]
    by_contra occupied
    exact different (holds.alone other pid occupied running)
  · intro locals found
    exact assertion locals (by simpa using found)

theorem holds_step {event : PoolEvent Pid Task Choice Ambient}
    (holds : outline.Holds pool) (meets : NonOverlapping pool event)
    (stepped : program.machine.step pool event = some next) :
    outline.Holds next := by
  cases event with
  | start pid task =>
      rcases Program.step_start stepped with ⟨_, rfl⟩
      refine outline.holds_of_only pid holds.shared ?_ ?_
      · intro other different
        rw [Pool.set_process_other _ _ different]
        exact meets other
      · intro locals running
        cases Option.some.inj ((Pool.set_process_self _ _ _).symm.trans running)
        exact outline.enter holds.shared
  | advance pid choice =>
      rcases Program.step_advance stepped with
        ⟨locals, shared, rest, running, advanced, rfl⟩
      rcases outline.advance holds.shared (holds.locals pid locals running)
        advanced with ⟨invariant, assertion⟩
      exact outline.holds_set holds (by simp [running]) invariant assertion
  | kill pid =>
      rcases Program.step_kill stepped with ⟨⟨locals, running⟩, rfl⟩
      exact outline.holds_set holds (by simp [running]) holds.shared
        (fun _ ended => by cases ended)
  | surround event =>
      rcases Program.step_surround stepped with ⟨shared, surrounded, rfl⟩
      rcases outline.surround holds.shared surrounded with ⟨invariant, kept⟩
      exact ⟨invariant,
        fun pid locals running => kept locals (holds.locals pid locals running),
        holds.alone⟩

theorem holds_of_reaches {initial final : Pool Pid Shared Local}
    (reaches : program.machine.Reaches NonOverlapping initial final)
    (initially : outline.Holds initial) : outline.Holds final :=
  reaches.invariant initially fun _ _ _ holds meets stepped =>
    outline.holds_step holds meets stepped

end SequentialOutline

end Sequential

end ChatsEngine
