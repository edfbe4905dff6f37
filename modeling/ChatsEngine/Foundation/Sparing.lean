import ChatsEngine.Foundation.Pool

/-! # Steps that spare the other processes

What a process has read stays true as long as nobody else undoes it. Which changes of the
shared state leave a process what it has read is a relation between the state before a step,
the state after it and the locals of the process. Where all steps spare the others in this
sense, each process can be judged by its own statements. -/

namespace ChatsEngine

variable {Pid Shared Local Task Choice Ambient : Type}

/-- A statement spares the processes that have not issued it, and what happens in the
surroundings spares all of them. -/
def Pool.SparesOthers (program : Program Shared Local Task Choice Ambient)
    (Spares : Shared → Shared → Local → Prop) (pool : Pool Pid Shared Local) :
    PoolEvent Pid Task Choice Ambient → Prop
  | .advance pid choice =>
      ∀ locals ∈ pool.process pid, ∀ result ∈ program.advance pool.shared locals choice,
        ∀ other, other ≠ pid → ∀ otherLocals ∈ pool.process other,
          Spares pool.shared result.1 otherLocals
  | .surround event =>
      ∀ shared ∈ program.surround pool.shared event,
        ∀ other, ∀ otherLocals ∈ pool.process other, Spares pool.shared shared otherLocals
  | _ => True

instance [Fintype Pid] [DecidableEq Pid] (program : Program Shared Local Task Choice Ambient)
    (Spares : Shared → Shared → Local → Prop)
    [∀ before after locals, Decidable (Spares before after locals)]
    (pool : Pool Pid Shared Local) :
    (event : PoolEvent Pid Task Choice Ambient) →
      Decidable (pool.SparesOthers program Spares event)
  | .advance pid choice =>
      inferInstanceAs (Decidable (∀ locals ∈ pool.process pid,
        ∀ result ∈ program.advance pool.shared locals choice, ∀ other, other ≠ pid →
          ∀ otherLocals ∈ pool.process other, Spares pool.shared result.1 otherLocals))
  | .surround event =>
      inferInstanceAs (Decidable (∀ shared ∈ program.surround pool.shared event,
        ∀ other, ∀ otherLocals ∈ pool.process other, Spares pool.shared shared otherLocals))
  | .start _ _ | .kill _ => inferInstanceAs (Decidable True)

@[reducible] def Pool.AllowedSparing (program : Program Shared Local Task Choice Ambient)
    (Spares : Shared → Shared → Local → Prop) (allowed : Shared → Local → Choice → Prop)
    (pool : Pool Pid Shared Local) (event : PoolEvent Pid Task Choice Ambient) : Prop :=
  pool.OwnStep allowed event ∧ pool.SparesOthers program Spares event

theorem Pool.SparesOthers.allowed {program : Program Shared Local Task Choice Ambient}
    {Spares : Shared → Shared → Local → Prop} {pool : Pool Pid Shared Local}
    {event : PoolEvent Pid Task Choice Ambient} (spares : pool.SparesOthers program Spares event) :
    pool.AllowedSparing program Spares (fun _ _ _ => True) event := by
  refine ⟨?_, spares⟩
  unfold Pool.OwnStep
  split
  · split <;> trivial
  · trivial

structure SparingOutline (program : Program Shared Local Task Choice Ambient)
    (Spares : Shared → Shared → Local → Prop) (allowed : Shared → Local → Choice → Prop) where
  Invariant : Shared → Prop
  Assertion : Shared → Local → Prop
  Guarantee : Shared → Shared → Prop
  enter : ∀ {shared task}, Invariant shared → Assertion shared (program.enter task)
  advance : ∀ {shared locals choice after rest}, allowed shared locals choice →
    Invariant shared → Assertion shared locals →
    program.advance shared locals choice = some (after, rest) →
    Invariant after ∧ Guarantee shared after ∧
      ∀ remaining, rest = some remaining → Assertion after remaining
  surround : ∀ {shared event after}, Invariant shared →
    program.surround shared event = some after → Invariant after ∧ Guarantee shared after
  stable : ∀ {before after locals}, Guarantee before after → Spares before after locals →
    Assertion before locals → Assertion after locals

namespace SparingOutline

variable {program : Program Shared Local Task Choice Ambient}
  {Spares : Shared → Shared → Local → Prop} {allowed : Shared → Local → Choice → Prop}

def interference (outline : SparingOutline program Spares allowed) :
    InterferenceOutline program
      (Pool.AllowedSparing program Spares allowed :
        Pool Pid Shared Local → PoolEvent Pid Task Choice Ambient → Prop) where
  Invariant := outline.Invariant
  Assertion := outline.Assertion
  enter := outline.enter
  advance := by
    intro pool pid choice locals shared rest meets running invariant assertion advanced
    rcases outline.advance (meets.1.allowed running) invariant assertion advanced with
      ⟨after, _, remains⟩
    exact ⟨after, remains⟩
  advanceOther := by
    intro pool pid choice locals shared rest meets running invariant assertion advanced
      other otherLocals different otherRunning before
    rcases outline.advance (meets.1.allowed running) invariant assertion advanced with
      ⟨_, guarantee, _⟩
    have spares :=
      meets.2 locals running (shared, rest) advanced other different otherLocals otherRunning
    exact outline.stable guarantee spares before
  surround := by
    intro pool event shared meets invariant surrounded
    rcases outline.surround invariant surrounded with ⟨after, guarantee⟩
    refine ⟨after, ?_⟩
    intro pid locals running before
    exact outline.stable guarantee (meets.2 shared surrounded pid locals running) before

variable [DecidableEq Pid] (outline : SparingOutline program Spares allowed)

theorem holds_of_reaches {shared : Shared} {final : Pool Pid Shared Local}
    (reaches : program.machine.Reaches (Pool.AllowedSparing program Spares allowed)
      (Pool.idle shared) final)
    (initially : outline.Invariant shared) : outline.interference.Holds final :=
  outline.interference.holds_of_reaches reaches
    (outline.interference.holds_of_isIdle initially (Pool.idle_isIdle shared))

end SparingOutline

end ChatsEngine
