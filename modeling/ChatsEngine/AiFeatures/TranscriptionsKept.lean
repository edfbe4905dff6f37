import ChatsEngine.AiFeatures.TranscriptionCustody

/-! # Transcriptions that are kept

A transcription is completed when its text is saved. It stays so, except where the notification
of the room raises and the `except` saves a failure, where a cancellation saves one over it, or
where a request deletes it that has found it failed before. -/

namespace ChatsEngine.AiFeatures

open JsonText

namespace TranscriptionTables

/-- Whatever has been completed is stored with the text it has been completed with. -/
def KeepsCompleted (tables : TranscriptionTables) : Prop :=
  ∀ entry ∈ tables.completed,
    ∃ row ∈ tables.rows.lookup entry.1, row.status = .done ∧ row.text = some entry.2

end TranscriptionTables

/-- The transcription that the process is about to delete, or of which it is about to save the
failure, without having it to itself. -/
def TranscriptionStage.spoils : TranscriptionStage → Option Uuid
  | .deleting _ existing => some existing
  | .handling uuid _ | .cancelling uuid _ => some uuid
  | _ => none

def SparesCompleted {Real : Type} (tables : TranscriptionTables) (stage : TranscriptionStage) :
    TranscriptionChoice Real → Prop
  | .returns => ∀ uuid ∈ stage.spoils, ¬tables.Completed uuid
  | _ => True

section Steps

variable {Real : Type} {floats : FloatFormat Real} {maxDuration : Nat}
  {tables after : TranscriptionTables} {stage : TranscriptionStage}
  {rest : Option TranscriptionStage} {choice : TranscriptionChoice Real} {uuid : Uuid}

theorem completed_of_mem {entry : Uuid × Text} (member : entry ∈ tables.completed) :
    tables.Completed entry.1 :=
  List.mem_map_of_mem member

theorem keepsCompleted_of_others (keeps : tables.KeepsCompleted) (spared : ¬tables.Completed uuid)
    (others : ∀ other, other ≠ uuid → after.rows.lookup other = tables.rows.lookup other) :
    ∀ entry ∈ tables.completed,
      ∃ row ∈ after.rows.lookup entry.1, row.status = .done ∧ row.text = some entry.2 := by
  intro entry member
  have different : entry.1 ≠ uuid := by
    intro same
    exact spared (same ▸ completed_of_mem member)
  rw [others entry.1 different]
  exact keeps entry member

theorem keepsCompleted_of_write (consistent : tables.Consistent) (known : stage.Known tables)
    (keeps : tables.KeepsCompleted) (write : TranscriptionWrite tables stage after)
    (spares : ∀ uuid ∈ stage.spoils, ¬tables.Completed uuid) : after.KeepsCompleted := by
  cases write with
  | reads stage => exact keeps
  | deletes media existing =>
      exact @keepsCompleted_of_others tables _ existing keeps (spares existing rfl)
        fun _ different => AList.lookup_erase_ne different
  | creates media uuid fresh free =>
      have spared : ¬tables.Completed uuid :=
        fun completed => fresh (consistent.completed_held uuid completed).1
      exact @keepsCompleted_of_others tables _ uuid keeps spared
        fun _ different => AList.lookup_insert_ne different
  | sends uuid => exact keeps
  | receives uuid waiting => exact keeps
  | starts uuid transcription =>
      exact @keepsCompleted_of_others tables _ uuid keeps known.2 fun _ => Table.lookup_modify_ne
  | completes uuid transcription body stored =>
      intro entry member
      rcases List.mem_cons.mp member with rfl | old
      · rcases Option.isSome_iff_exists.mp (AList.lookup_isSome.mpr stored) with ⟨row, here⟩
        exact ⟨_, Table.lookup_modify_iff.mpr (.inl ⟨rfl, row, here, rfl⟩), rfl, rfl⟩
      · exact @keepsCompleted_of_others tables _ uuid keeps known.1.2
          (fun _ => Table.lookup_modify_ne) entry old
  | fails stage uuid failing =>
      have spared : ¬tables.Completed uuid := by
        cases stage with
        | savingFailed _ _ =>
            cases failing
            exact known.2
        | handling _ _ | cancelling _ _ =>
            cases failing
            exact spares uuid rfl
        | _ => cases failing
      exact @keepsCompleted_of_others tables _ uuid keeps spared fun _ => Table.lookup_modify_ne
  | tells stage transcription telling => exact keeps

theorem spares_of_keepsCompleted (keepsAfter : after.KeepsCompleted)
    (keeps : tables.KeepsCompleted)
    (proceeds : proceed maxDuration tables stage = some (after, rest)) :
    ∀ uuid ∈ stage.spoils, ¬tables.Completed uuid := by
  intro uuid spoils completed
  rcases List.mem_map.mp completed with ⟨entry, member, rfl⟩
  rcases keeps entry member with ⟨row, stored, _⟩
  have present : entry.1 ∈ tables.rows :=
    AList.lookup_isSome.mp (by rw [Option.mem_def.mp stored]; rfl)
  have failed : ¬TranscriptionTables.KeepsCompleted
      { tables with rows := tables.rows.modify entry.1 (·.withStatus .failed) } := by
    intro keepsAfter
    rcases keepsAfter entry member with ⟨row, found, done, _⟩
    rcases Table.lookup_modify_iff.mp found with ⟨_, old, _, rfl⟩ | ⟨different, _⟩
    · cases done
    · exact different rfl
  cases stage with
  | deleting media existing =>
      cases spoils
      cases proceeds
      rcases keepsAfter entry member with ⟨row, found, _⟩
      rw [AList.lookup_erase] at found
      cases found
  | handling uuid transcription | cancelling uuid transcription =>
      cases spoils
      rw [proceed] at proceeds
      split at proceeds
      · next gone => exact TranscriptionTables.save_eq_none gone present
      · next saved =>
          cases proceeds
          rcases TranscriptionTables.save_eq_some saved with ⟨_, rfl⟩
          exact failed keepsAfter
  | _ => cases spoils

theorem keepsCompleted_advance_iff (consistent : tables.Consistent) (known : stage.Known tables)
    (keeps : tables.KeepsCompleted)
    (advanced : advance floats maxDuration tables stage choice = some (after, rest)) :
    after.KeepsCompleted ↔ SparesCompleted tables stage choice := by
  have write := write_of_advance advanced
  cases choice with
  | returns =>
      exact ⟨fun keepsAfter => spares_of_keepsCompleted keepsAfter keeps advanced,
        keepsCompleted_of_write consistent known keeps write⟩
  | raises =>
      cases advanced
      exact ⟨fun _ => trivial, fun _ => keeps⟩
  | creates uuid | receives uuid | responds response | skips =>
      have spares : ∀ uuid ∈ stage.spoils, ¬tables.Completed uuid := by
        cases stage <;> first | (cases advanced; done) | exact nofun
      exact ⟨fun _ => trivial, fun _ => keepsCompleted_of_write consistent known keeps write spares⟩

theorem keepsCompleted_deleteMedia (keeps : tables.KeepsCompleted) (media : Uuid) :
    (deleteMedia tables media).KeepsCompleted := by
  unfold deleteMedia
  split
  · exact keeps
  · next uuid row found =>
      intro entry member
      rcases List.mem_filter.mp member with ⟨completed, different⟩
      rw [AList.lookup_erase_ne (of_decide_eq_true different)]
      exact keeps entry completed

end Steps

/-- A transcription that has been completed stays completed with its text as long as its audio is
there, if and only if no `except` and no cancellation saves a failure over it, and no request
deletes it, after it has been completed. -/
theorem completed_transcriptions_kept_iff {Pid Real : Type} [DecidableEq Pid]
    (floats : FloatFormat Real) (maxDuration : Nat) (events : List (TranscriptionEvent Pid Real)) :
    (transcriptionProgram floats maxDuration).machine.Throughout
        (fun pool => pool.shared.KeepsCompleted) (Pool.idle .empty) events ↔
      (transcriptionProgram floats maxDuration).machine.AllSteps
        (fun pool event => pool.OwnStep SparesCompleted event) (Pool.idle .empty) events := by
  apply (transcriptionOutline floats maxDuration Pid).throughout_iff
  · intro tables stage choice after rest consistent known keeps advanced
    exact keepsCompleted_advance_iff consistent known keeps advanced
  · intro tables media after _ keeps surrounded
    cases surrounded
    exact keepsCompleted_deleteMedia keeps media
  · exact consistent_empty
  · exact fun entry member => nomatch member

/-- In every run each audio has at most one transcription, and whatever says that it is done, a
row or what the room has been told, says it with a text that is neither empty nor an error. -/
theorem done_transcriptions_have_text {Pid Real : Type} [DecidableEq Pid]
    (floats : FloatFormat Real) (maxDuration : Nat) (events : List (TranscriptionEvent Pid Real)) :
    (transcriptionProgram floats maxDuration).machine.Throughout
      (fun pool => (∀ uuid row other otherRow, pool.shared.rows.lookup uuid = some row →
          pool.shared.rows.lookup other = some otherRow → row.media = otherRow.media →
          uuid = other) ∧
        (∀ uuid row, pool.shared.rows.lookup uuid = some row → row.status = .done →
          ∃ body ∈ row.text, IsTranscript body) ∧
        ∀ notice ∈ pool.shared.notices, notice.status = .done → IsTranscript notice.text)
      (Pool.idle .empty) events := by
  have always : (transcriptionOutline floats maxDuration Pid).Holds (Pool.idle .empty) :=
    (transcriptionOutline floats maxDuration Pid).holds_of_isIdle consistent_empty
      (Pool.idle_isIdle _)
  apply Machine.throughout_of_invariant ?_ ?_ always
  · intro pool event next holds stepped
    exact (transcriptionOutline floats maxDuration Pid).holds_step holds trivial stepped
  · intro pool holds
    have consistent : pool.shared.Consistent := holds.shared
    exact ⟨consistent.oneOfMedia, consistent.rows_sound, consistent.notices_sound⟩

/-! The text is in the response of the transcriber; the notification of the room raises. -/

section Example

def bodyResponse (body : String) : Value FloatLiteral :=
  let inside (key : String) (value : Value FloatLiteral) := Value.object [(text key, value)]
  inside "response" (inside "functionResponse" (inside "responseBody"
    (inside "TEXT" (inside "body" (.string (text body))))))

def brokenNotification : List (TranscriptionEvent Unit FloatLiteral) :=
  let returning (statements : Nat) : List (TranscriptionEvent Unit FloatLiteral) :=
    List.replicate statements (.advance () .returns)
  [.start () (.post (some ⟨1, true, true, some 4000⟩))] ++ returning 2 ++
    [.advance () (.creates 7)] ++ returning 2 ++ [.start () .transcribe, .advance () (.receives 7)] ++
    returning 2 ++ [.advance () (.responds (bodyResponse "bom dia"))] ++ returning 1 ++
    [.advance () .raises] ++ returning 2

/-- The transcription has its text, and has failed. -/
example :
    ((transcriptionProgram FloatFormat.literal 60).machine.run (Pool.idle .empty)
      brokenNotification).map (fun pool => pool.shared.rows.lookup 7) =
      some (some ⟨1, .failed, some (text "bom dia")⟩) := by
  decide +kernel

end Example

end ChatsEngine.AiFeatures
