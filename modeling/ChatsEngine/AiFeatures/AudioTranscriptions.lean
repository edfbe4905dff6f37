import ChatsEngine.Core.Types
import ChatsEngine.Foundation.JsonWriter
import ChatsEngine.Foundation.Pool
import ChatsEngine.Foundation.Table

/-! # Audio transcriptions

A request stores a transcription and sends a message, on which a worker has the audio transcribed
and saves the text. Requests, workers and cancellations run concurrently. A failed transcription
is deleted by the next request, which stores another one. -/

namespace ChatsEngine.AiFeatures

open JsonText

inductive AudioTranscriptionStatus
  | queued
  | processing
  | done
  | failed
deriving DecidableEq, Repr

/-- The columns of a row, or of the instance that a process has in memory. -/
structure AudioTranscription where
  media : Uuid
  status : AudioTranscriptionStatus
  text : Option Text
deriving DecidableEq, Repr

namespace AudioTranscription

/-- `AudioTranscription.objects.create(media=media, status=QUEUED)` -/
def created (media : Uuid) : AudioTranscription where
  media := media
  status := .queued
  text := none

def withStatus (transcription : AudioTranscription) (status : AudioTranscriptionStatus) :
    AudioTranscription :=
  { transcription with status := status }

/-- No worker has said yet how it ends. -/
def IsUnfinished (transcription : AudioTranscription) : Prop :=
  transcription.status = .queued ∨ transcription.status = .processing

instance : DecidablePred IsUnfinished :=
  fun _ => inferInstanceAs (Decidable (_ ∨ _))

end AudioTranscription

/-- What `notify_transcription` sends to the room. -/
structure TranscriptionNotice where
  media : Uuid
  text : Text
  status : AudioTranscriptionStatus
deriving DecidableEq, Repr

/-- `serialized_ws_data` -/
def AudioTranscription.notice (transcription : AudioTranscription) : TranscriptionNotice where
  media := transcription.media
  text := transcription.text.getD []
  status := transcription.status

/-! ## The response of the transcriber -/

section Response

variable {Real : Type} (floats : FloatFormat Real)

/-- `value.get(key, default)`, which raises where the value is not a dict. -/
def getOr (default : Value Real) (key : String) : Value Real → Option (Value Real)
  | .object fields => some ((Fields.get fields (text key)).getD default)
  | _ => none

/-- The body of the response, which is empty where one of the parts around it is not a dict. -/
def responseBody (response : Value Real) : Value Real :=
  let body := do
    let inner ← getOr (.object []) "response" response
    let function ← getOr (.object []) "functionResponse" inner
    let responseBody ← getOr (.object []) "responseBody" function
    let content ← getOr (.object []) "TEXT" responseBody
    getOr (.string []) "body" content
  body.getD (.string [])

inductive ResponseReading
  | rejected
  | raises
  | transcribed (text : Text)
deriving DecidableEq, Repr

/-- What `AudioTranscriptionService.transcribe` makes of the response. -/
def readResponse (response : Value Real) : ResponseReading :=
  match response with
  | .object fields =>
      if (Fields.get fields (text "errorMessage")).any (Value.isTruthy floats) ∨
          (Fields.get fields (text "error")).any (Value.isTruthy floats) then
        .rejected
      else
        match responseBody response with
        | .string body =>
            if text "Error" <+: body then .rejected
            else if body = [] then .rejected
            else .transcribed body
        | _ => .raises
  | _ => .raises

def IsTranscript (body : Text) : Prop :=
  body ≠ [] ∧ ¬text "Error" <+: body

variable {floats} in
theorem isTranscript_of_transcribed {response : Value Real} {body : Text}
    (read : readResponse floats response = .transcribed body) : IsTranscript body := by
  unfold readResponse at read
  split at read
  · split at read
    · cases read
    · split at read
      · split at read
        · cases read
        · next noError =>
            split at read
            · cases read
            · next notEmpty =>
                cases read
                exact ⟨notEmpty, noError⟩
      · cases read
  · cases read

end Response

/-! ## The request -/

structure AudioMedia where
  uuid : Uuid
  canRetrieve : Bool
  roomIsActive : Bool
  /-- In milliseconds, where it can be determined. -/
  duration : Option Nat
deriving DecidableEq, Repr

inductive TranscriptionResponse
  | noAudio
  | permissionDenied
  | closedRoom
  | tooLong (maxDuration duration : Nat)
  | existing (status : AudioTranscriptionStatus)
  | accepted
  | serverError
deriving DecidableEq, Repr

/-- The checks of `AudioTranscriptionView.post`, before it looks at transcriptions. -/
def checkMedia (maxDuration : Nat) : Option AudioMedia → Except TranscriptionResponse Uuid
  | none => .error .noAudio
  | some media =>
      if media.canRetrieve = false then .error .permissionDenied
      else if media.roomIsActive = false then .error .closedRoom
      else
        match media.duration with
        | none => .ok media.uuid
        | some duration =>
            if maxDuration * 1000 < duration then .error (.tooLong maxDuration (duration / 1000))
            else .ok media.uuid

/-! ## Tables and processes -/

structure TranscriptionTables where
  rows : Table Uuid AudioTranscription
  /-- The messages of `transcribe_audio` that no worker has received yet. -/
  messages : List Uuid
  notices : List TranscriptionNotice
  /-- The uuids that rows have been given. -/
  issued : List Uuid
  /-- The transcriptions that have been saved with their text, unless their media is gone. -/
  completed : List (Uuid × Text)

namespace TranscriptionTables

def empty : TranscriptionTables where
  rows := ∅
  messages := []
  notices := []
  issued := []
  completed := []

/-- `AudioTranscription.objects.filter(media=media).first()` -/
def ofMedia (tables : TranscriptionTables) (media : Uuid) :
    Option ((_ : Uuid) × AudioTranscription) :=
  tables.rows.entries.find? fun entry => entry.2.media = media

/-- `save(update_fields=...)`, which raises where the row is gone. -/
def save (tables : TranscriptionTables) (uuid : Uuid)
    (change : AudioTranscription → AudioTranscription) : Option TranscriptionTables :=
  if uuid ∈ tables.rows then some { tables with rows := tables.rows.modify uuid change }
  else none

def notify (tables : TranscriptionTables) (transcription : AudioTranscription) :
    TranscriptionTables :=
  { tables with notices := tables.notices ++ [transcription.notice] }

end TranscriptionTables

/-- The next statement of a process, with the instance it has in memory. -/
inductive TranscriptionStage
  /-- `AudioTranscriptionView.post` -/
  | checking (found : Option AudioMedia)
  | finding (media : Uuid)
  | deleting (media existing : Uuid)
  | creating (media : Uuid)
  | dispatching (uuid : Uuid)
  | answered (response : TranscriptionResponse)
  /-- `transcribe_audio` -/
  | receiving
  | getting (uuid : Uuid)
  | starting (uuid : Uuid) (transcription : AudioTranscription)
  /-- The `try` of `AudioTranscriptionService.transcribe` -/
  | invoking (uuid : Uuid) (transcription : AudioTranscription)
  | savingFailed (uuid : Uuid) (transcription : AudioTranscription)
  | savingDone (uuid : Uuid) (transcription : AudioTranscription) (body : Text)
  | notifying (uuid : Uuid) (transcription : AudioTranscription)
  /-- Its `except` -/
  | handling (uuid : Uuid) (transcription : AudioTranscription)
  /-- The last statement, outside of the `try` -/
  | notifyingFailure (transcription : AudioTranscription)
  /-- `cancel_audio_transcription` -/
  | gettingQueued (uuid : Uuid)
  | cancelling (uuid : Uuid) (transcription : AudioTranscription)
deriving DecidableEq

inductive TranscriptionTask
  | post (found : Option AudioMedia)
  | transcribe
  | cancel (uuid : Uuid)
deriving DecidableEq, Repr

inductive TranscriptionChoice (Real : Type)
  | returns
  | raises
  /-- The uuid that `uuid4` draws, which no row has had. -/
  | creates (uuid : Uuid)
  | receives (uuid : Uuid)
  | responds (response : Value Real)
  /-- The room has a user without a permission, who is told nothing. -/
  | skips

section Program

variable {Real : Type} (floats : FloatFormat Real) (maxDuration : Nat)

def enter : TranscriptionTask → TranscriptionStage
  | .post found => .checking found
  | .transcribe => .receiving
  | .cancel uuid => .gettingQueued uuid

/-- What the request answers to the transcription that is there, or does with it. -/
def afterFinding (media : Uuid) :
    Option ((_ : Uuid) × AudioTranscription) → TranscriptionStage
  | none => .creating media
  | some ⟨uuid, transcription⟩ =>
      if transcription.status = .failed then .deleting media uuid
      else .answered (.existing transcription.status)

/-- A statement that does not raise, where the uuid, the message and the response are not left
open. -/
def proceed (tables : TranscriptionTables) :
    TranscriptionStage → Option (TranscriptionTables × Option TranscriptionStage)
  | .checking found =>
      match checkMedia maxDuration found with
      | .error response => some (tables, some (.answered response))
      | .ok media => some (tables, some (.finding media))
  | .finding media => some (tables, some (afterFinding media (tables.ofMedia media)))
  | .deleting media existing =>
      some ({ tables with rows := tables.rows.erase existing }, some (.creating media))
  | .dispatching uuid =>
      some ({ tables with messages := uuid :: tables.messages }, some (.answered .accepted))
  | .answered _ => some (tables, none)
  | .getting uuid => some (tables, (tables.rows.lookup uuid).map (.starting uuid))
  | .starting uuid transcription =>
      match tables.save uuid (·.withStatus .processing) with
      | none => some (tables, none)
      | some after => some (after, some (.invoking uuid (transcription.withStatus .processing)))
  | .savingFailed uuid transcription =>
      match tables.save uuid (·.withStatus .failed) with
      | none => some (tables, some (.handling uuid (transcription.withStatus .failed)))
      | some after => some (after, some (.notifying uuid (transcription.withStatus .failed)))
  | .savingDone uuid transcription body =>
      let done := { transcription with text := some body, status := .done }
      match tables.save uuid fun row => { row with text := some body, status := .done } with
      | none => some (tables, some (.handling uuid done))
      | some after =>
          some ({ after with completed := (uuid, body) :: after.completed },
            some (.notifying uuid done))
  | .notifying _ transcription => some (tables.notify transcription, none)
  | .handling uuid transcription =>
      match tables.save uuid (·.withStatus .failed) with
      | none => some (tables, none)
      | some after => some (after, some (.notifyingFailure (transcription.withStatus .failed)))
  | .notifyingFailure transcription => some (tables.notify transcription, none)
  | .gettingQueued uuid =>
      some (tables,
        (tables.rows.lookup uuid).bind fun transcription =>
          if transcription.status = .queued then some (.cancelling uuid transcription) else none)
  | .cancelling uuid transcription =>
      match tables.save uuid (·.withStatus .failed) with
      | none => some (tables, none)
      | some after => some (after, some (.notifyingFailure (transcription.withStatus .failed)))
  | .creating _ | .receiving | .invoking _ _ => none

/-- Where an exception leads: to an answer, into the `except`, or out of the task. -/
def raised : TranscriptionStage → Option TranscriptionStage
  | .checking _ | .finding _ | .deleting _ _ | .creating _ | .dispatching _ =>
      some (.answered .serverError)
  | .invoking uuid transcription | .savingFailed uuid transcription
  | .notifying uuid transcription => some (.handling uuid transcription)
  | .savingDone uuid transcription body =>
      some (.handling uuid { transcription with text := some body, status := .done })
  | _ => none

/-- `AudioTranscription.objects.create`, which raises for a media that has a row. -/
def createRow (tables : TranscriptionTables) (media uuid : Uuid) :
    TranscriptionTables × Option TranscriptionStage :=
  if (tables.ofMedia media).isSome then (tables, some (.answered .serverError))
  else
    ({ tables with
      rows := tables.rows.insert uuid (.created media)
      issued := uuid :: tables.issued },
      some (.dispatching uuid))

def afterResponse (uuid : Uuid) (transcription : AudioTranscription) :
    ResponseReading → TranscriptionStage
  | .rejected => .savingFailed uuid transcription
  | .raises => .handling uuid transcription
  | .transcribed body => .savingDone uuid transcription body

def advance (tables : TranscriptionTables) (stage : TranscriptionStage) :
    TranscriptionChoice Real → Option (TranscriptionTables × Option TranscriptionStage)
  | .returns => proceed maxDuration tables stage
  | .raises => some (tables, raised stage)
  | .creates uuid =>
      match stage with
      | .creating media => if uuid ∈ tables.issued then none else some (createRow tables media uuid)
      | _ => none
  | .receives uuid =>
      match stage with
      | .receiving =>
          if uuid ∈ tables.messages then
            some ({ tables with messages := tables.messages.erase uuid }, some (.getting uuid))
          else none
      | _ => none
  | .responds response =>
      match stage with
      | .invoking uuid transcription =>
          some (tables, some (afterResponse uuid transcription (readResponse floats response)))
      | _ => none
  | .skips =>
      match stage with
      | .notifying _ _ | .notifyingFailure _ => some (tables, none)
      | _ => none

/-- The media is deleted, and its transcription with it. -/
def deleteMedia (tables : TranscriptionTables) (media : Uuid) : TranscriptionTables :=
  match tables.ofMedia media with
  | none => tables
  | some ⟨uuid, _⟩ =>
      { tables with
        rows := tables.rows.erase uuid
        completed := tables.completed.filter fun entry => entry.1 ≠ uuid }

def transcriptionProgram :
    Program TranscriptionTables TranscriptionStage TranscriptionTask (TranscriptionChoice Real)
      Uuid where
  enter := enter
  advance := advance floats maxDuration
  surround := fun tables media => some (deleteMedia tables media)

end Program

abbrev TranscriptionPool (Pid : Type) := Pool Pid TranscriptionTables TranscriptionStage

abbrev TranscriptionEvent (Pid Real : Type) :=
  PoolEvent Pid TranscriptionTask (TranscriptionChoice Real) Uuid

end ChatsEngine.AiFeatures
