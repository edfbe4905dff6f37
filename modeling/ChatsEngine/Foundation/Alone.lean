import ChatsEngine.Foundation.Pool

/-! # Processes that run alone

Between the statements of a process that runs alone, the surroundings change what a
relation allows, and no other process does anything. Whatever is chosen on the way,
such a process can come to its end. -/

namespace ChatsEngine.Program

variable {Shared Local Task Choice Ambient : Type}
  {program : Program Shared Local Task Choice Ambient} {Rely : Shared → Shared → Prop}
  {Result Weaker : Shared → Prop} {shared : Shared} {locals : Local}

inductive Ends (program : Program Shared Local Task Choice Ambient)
    (Rely : Shared → Shared → Prop) (Result : Shared → Prop) : Shared → Local → Prop
  | step {shared : Shared} {locals : Local}
      (advances : ∀ here, Rely shared here →
        ∃ choice after rest, program.advance here locals choice = some (after, rest))
      (last : ∀ here choice after, Rely shared here →
        program.advance here locals choice = some (after, none) → Result after)
      (next : ∀ here choice after rest, Rely shared here →
        program.advance here locals choice = some (after, some rest) →
          program.Ends Rely Result after rest) :
      program.Ends Rely Result shared locals

namespace Ends

theorem mono (weaker : ∀ shared, Result shared → Weaker shared)
    (ends : program.Ends Rely Result shared locals) : program.Ends Rely Weaker shared locals := by
  induction ends with
  | step advances last next induction =>
      apply Ends.step advances
      · intro here choice after relied advanced
        exact weaker after (last here choice after relied advanced)
      · intro here choice after rest relied advanced
        exact induction here choice after rest relied advanced

variable [Nonempty Choice]

theorem determined (advances : ∀ here, Rely shared here → ∃ after rest,
      (∀ choice, program.advance here locals choice = some (after, rest)) ∧
        (rest = none → Result after) ∧
          ∀ remaining ∈ rest, program.Ends Rely Result after remaining) :
    program.Ends Rely Result shared locals := by
  apply Ends.step
  · intro here relied
    rcases advances here relied with ⟨after, rest, advance, _⟩
    exact ⟨Classical.arbitrary Choice, after, rest, advance _⟩
  · intro here choice after relied advanced
    rcases advances here relied with ⟨other, rest, advance, last, _⟩
    cases (advance choice).symm.trans advanced
    exact last rfl
  · intro here choice after remaining relied advanced
    rcases advances here relied with ⟨other, rest, advance, _, next⟩
    cases (advance choice).symm.trans advanced
    exact next remaining rfl

theorem goOn (goesOn : ∀ here, Rely shared here → ∃ after rest,
      (∀ choice, program.advance here locals choice = some (after, some rest)) ∧
        program.Ends Rely Result after rest) :
    program.Ends Rely Result shared locals := by
  apply determined
  intro here relied
  rcases goesOn here relied with ⟨after, rest, advance, ends⟩
  refine ⟨after, some rest, advance, nofun, ?_⟩
  intro remaining given
  rcases given with ⟨⟩
  exact ends

theorem stop (stops : ∀ here, Rely shared here → ∃ after,
      (∀ choice, program.advance here locals choice = some (after, none)) ∧ Result after) :
    program.Ends Rely Result shared locals := by
  apply determined
  intro here relied
  rcases stops here relied with ⟨after, advance, result⟩
  exact ⟨after, none, advance, fun _ => result, nofun⟩

end Ends

end ChatsEngine.Program
