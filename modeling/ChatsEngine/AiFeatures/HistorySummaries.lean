import ChatsEngine.Core.Types
import ChatsEngine.Foundation.Keyset
import ChatsEngine.Foundation.Machine
import Mathlib.Data.List.Infix

/-! # History summaries

For each history summary, one task generates the summary and another one cancels it some
time later. Both load the row once, and write it without looking at it again. -/

namespace ChatsEngine.AiFeatures

inductive HistorySummaryStatus
  | pending
  | processing
  | done
  | unavailable
deriving DecidableEq, Repr

structure FeaturePrompt where
  uuid : Uuid
  feature : String
  prompt : String
  version : Int
deriving DecidableEq, Repr

/-- The columns of a row, or of the instance that a task has loaded. -/
structure HistorySummary where
  status : HistorySummaryStatus
  summary : Option String
  featurePrompt : Option Uuid
deriving DecidableEq, Repr

namespace HistorySummary

/-- `HistorySummary.objects.create(room=room)` -/
def created : HistorySummary where
  status := .pending
  summary := none
  featurePrompt := none

def IsDelivered (summary : HistorySummary) : Prop :=
  summary.status = .done ∧ summary.summary.isSome

end HistorySummary

/-! ## Texts -/

/-- `part in text` -/
def Contains (part text : String) : Prop :=
  part.toList <:+: text.toList

instance (part text : String) : Decidable (Contains part text) :=
  inferInstanceAs (Decidable (_ <:+: _))

/-- The characters that `str.strip` takes away. -/
def isSpace (char : Char) : Bool :=
  char.toNat ∈ [9, 10, 11, 12, 13, 28, 29, 30, 31, 32, 0x85, 0xA0, 0x1680, 0x2028, 0x2029, 0x202F,
    0x205F, 0x3000] ∨ 0x2000 ≤ char.toNat ∧ char.toNat ≤ 0x200A

/-- `text.strip() == ""` -/
def IsBlank (text : String) : Prop :=
  ∀ char ∈ text.toList, isSpace char = true

instance : DecidablePred IsBlank :=
  fun text => List.decidableBAll (fun char => isSpace char = true) text.toList

def getPrompt (prompts : List FeaturePrompt) : Option FeaturePrompt :=
  (Keyset.orderBy FeaturePrompt.version
    (prompts.filter fun prompt => prompt.feature = "history_summary")).getLast?

/-! ## The tasks -/

/-- The next statement of `generate_history_summary`, with the instance in memory. The
statements from `generating` on are in the `try`. -/
inductive GeneratorStage
  | scheduled
  | loadingRoom (summary : HistorySummary)
  | gettingPrompt (summary : HistorySummary)
  | rejectingPrompt (summary : HistorySummary)
  | startingProcessing (summary : HistorySummary) (prompt : FeaturePrompt)
  | generating (summary : HistorySummary) (prompt : FeaturePrompt)
  | settingUnavailable (summary : HistorySummary) (prompt : FeaturePrompt)
  | settingDone (summary : HistorySummary) (prompt : FeaturePrompt)
  | saving (summary : HistorySummary) (prompt : FeaturePrompt)
  | handling (summary : HistorySummary)
  | ended
deriving DecidableEq, Repr

/-- The next statement of `cancel_history_summary_generation`. -/
inductive CancellationStage
  | scheduled
  | saving (summary : HistorySummary)
  | ended
deriving DecidableEq, Repr

structure SummaryRun where
  prompts : List FeaturePrompt
  row : HistorySummary
  /-- The summary with which the row was `DONE` for the first time. -/
  delivered : Option String
  generator : GeneratorStage
  cancellation : CancellationStage
deriving DecidableEq, Repr

inductive GeneratorChoice
  | returns
  | responds (text : String)
  | raises
deriving DecidableEq, Repr

inductive SummaryEvent
  | generate (choice : GeneratorChoice)
  | killGenerator
  | cancel
deriving DecidableEq, Repr

namespace SummaryRun

def initial (prompts : List FeaturePrompt) : SummaryRun where
  prompts := prompts
  row := .created
  delivered := none
  generator := .scheduled
  cancellation := .scheduled

def write (run : SummaryRun) (row : HistorySummary) : SummaryRun :=
  { run with
    row := row
    delivered := run.delivered.or (if row.status = .done then row.summary else none) }

/-- `HistorySummary.update_status`, which writes one column. -/
def updateStatus (run : SummaryRun) (status : HistorySummaryStatus) : SummaryRun :=
  run.write { run.row with status := status }

def respond (text : String) (summary : HistorySummary) (prompt : FeaturePrompt) :
    GeneratorStage :=
  if Contains "<no_summary_available>" text then .settingUnavailable summary prompt
  else if IsBlank text then .settingUnavailable summary prompt
  else .settingDone { summary with summary := some text } prompt

/-- Where an exception leads: into the handler, or out of the task. -/
def raise : GeneratorStage → GeneratorStage
  | .generating summary _ => .handling summary
  | .settingUnavailable summary _ => .handling summary
  | .settingDone summary _ => .handling summary
  | .saving summary _ => .handling summary
  | _ => .ended

def generate (run : SummaryRun) : GeneratorStage → Option (SummaryRun × GeneratorStage)
  | .scheduled => some (run, .loadingRoom run.row)
  | .loadingRoom summary => some (run, .gettingPrompt summary)
  | .gettingPrompt summary =>
      some (run,
        match getPrompt run.prompts with
        | none => .ended
        | some prompt =>
            if Contains "\x7bconversation\x7d" prompt.prompt then .startingProcessing summary prompt
            else .rejectingPrompt summary)
  | .rejectingPrompt _ => some (run.updateStatus .unavailable, .ended)
  | .startingProcessing summary prompt =>
      some (run.updateStatus .processing,
        .generating { summary with status := .processing } prompt)
  | .generating _ _ => none
  | .settingUnavailable summary prompt =>
      some (run.updateStatus .unavailable, .saving { summary with status := .unavailable } prompt)
  | .settingDone summary prompt =>
      some (run.updateStatus .done, .saving { summary with status := .done } prompt)
  | .saving summary prompt =>
      some (run.write { summary with featurePrompt := some prompt.uuid }, .ended)
  | .handling _ => some (run.updateStatus .unavailable, .ended)
  | .ended => none

def advance (run : SummaryRun) : GeneratorChoice → Option (SummaryRun × GeneratorStage)
  | .returns => run.generate run.generator
  | .responds text =>
      match run.generator with
      | .generating summary prompt => some (run, respond text summary prompt)
      | _ => none
  | .raises => if run.generator = .ended then none else some (run, raise run.generator)

def cancel (run : SummaryRun) : Option SummaryRun :=
  match run.cancellation with
  | .scheduled =>
      some { run with
        cancellation :=
          if run.row.status = .pending then .saving { run.row with status := .unavailable }
          else .ended }
  | .saving summary => some { run.write summary with cancellation := .ended }
  | .ended => none

def step (run : SummaryRun) : SummaryEvent → Option SummaryRun
  | .generate choice =>
      (run.advance choice).map fun result => { result.1 with generator := result.2 }
  | .killGenerator =>
      if run.generator = .scheduled ∨ run.generator = .ended then none
      else some { run with generator := .ended }
  | .cancel => run.cancel

end SummaryRun

def summaryMachine : Machine SummaryRun SummaryEvent where
  step := SummaryRun.step

end ChatsEngine.AiFeatures
