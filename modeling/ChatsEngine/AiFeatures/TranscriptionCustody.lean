import ChatsEngine.AiFeatures.AudioTranscriptions

/-! # Who answers for a transcription

From its creation on, a transcription is answered for by one process at a time: by the request
until the message is sent, and by the worker that has received the message. Only a cancellation
saves a failure of a transcription that it does not answer for. -/

namespace ChatsEngine.AiFeatures

open JsonText

/-- The transcription that the process answers for. -/
def TranscriptionStage.custody : TranscriptionStage → Option Uuid
  | .dispatching uuid | .getting uuid | .starting uuid _ | .invoking uuid _
  | .savingFailed uuid _ | .savingDone uuid _ _ | .notifying uuid _ | .handling uuid _ => some uuid
  | _ => none

/-- The transcription of which the process saves the failure. -/
def TranscriptionStage.failing : TranscriptionStage → Option Uuid
  | .savingFailed uuid _ | .handling uuid _ | .cancelling uuid _ => some uuid
  | _ => none

namespace TranscriptionTables

def Unfinished (tables : TranscriptionTables) (uuid : Uuid) : Prop :=
  ∃ row ∈ tables.rows.lookup uuid, row.IsUnfinished

instance (tables : TranscriptionTables) : DecidablePred tables.Unfinished :=
  fun uuid => decidable_of_iff ((tables.rows.lookup uuid).any (·.IsUnfinished))
    (by simp [Unfinished, Option.any_eq_true])

variable {tables after : TranscriptionTables} {uuid other : Uuid}
  {change : AudioTranscription → AudioTranscription}

theorem Unfinished.mem (unfinished : tables.Unfinished uuid) : uuid ∈ tables.rows := by
  rcases unfinished with ⟨row, stored, _⟩
  exact AList.lookup_isSome.mp (by rw [Option.mem_def.mp stored]; rfl)

theorem save_eq_some (saved : tables.save uuid change = some after) :
    uuid ∈ tables.rows ∧ after = { tables with rows := tables.rows.modify uuid change } := by
  unfold save at saved
  split at saved
  · next stored => exact ⟨stored, (Option.some.inj saved).symm⟩
  · cases saved

theorem save_eq_none (saved : tables.save uuid change = none) : uuid ∉ tables.rows := by
  unfold save at saved
  split at saved
  · cases saved
  · next gone => exact gone

end TranscriptionTables

/-! ## What a statement does -/

inductive TranscriptionWrite (tables : TranscriptionTables) :
    TranscriptionStage → TranscriptionTables → Prop
  | reads (stage : TranscriptionStage) : TranscriptionWrite tables stage tables
  | deletes (media existing : Uuid) :
      TranscriptionWrite tables (.deleting media existing)
        { tables with rows := tables.rows.erase existing }
  | creates (media uuid : Uuid) (fresh : uuid ∉ tables.issued)
      (free : tables.ofMedia media = none) :
      TranscriptionWrite tables (.creating media)
        { tables with
          rows := tables.rows.insert uuid (.created media)
          issued := uuid :: tables.issued }
  | sends (uuid : Uuid) :
      TranscriptionWrite tables (.dispatching uuid)
        { tables with messages := uuid :: tables.messages }
  | receives (uuid : Uuid) (waiting : uuid ∈ tables.messages) :
      TranscriptionWrite tables .receiving
        { tables with messages := tables.messages.erase uuid }
  | starts (uuid : Uuid) (transcription : AudioTranscription) :
      TranscriptionWrite tables (.starting uuid transcription)
        { tables with rows := tables.rows.modify uuid (·.withStatus .processing) }
  | completes (uuid : Uuid) (transcription : AudioTranscription) (body : Text)
      (stored : uuid ∈ tables.rows) :
      TranscriptionWrite tables (.savingDone uuid transcription body)
        { tables with
          rows := tables.rows.modify uuid fun row => { row with text := some body, status := .done }
          completed := (uuid, body) :: tables.completed }
  | fails (stage : TranscriptionStage) (uuid : Uuid) (failing : stage.failing = some uuid) :
      TranscriptionWrite tables stage
        { tables with rows := tables.rows.modify uuid (·.withStatus .failed) }
  | tells (stage : TranscriptionStage) (transcription : AudioTranscription)
      (telling : (∃ uuid, stage = .notifying uuid transcription) ∨
        stage = .notifyingFailure transcription) :
      TranscriptionWrite tables stage (tables.notify transcription)

section Statements

variable {Real : Type} {floats : FloatFormat Real} {maxDuration : Nat}
  {tables after : TranscriptionTables} {stage remaining : TranscriptionStage}
  {choice : TranscriptionChoice Real} {rest : Option TranscriptionStage} {uuid media : Uuid}

theorem write_of_proceed (proceeds : proceed maxDuration tables stage = some (after, rest)) :
    TranscriptionWrite tables stage after := by
  cases stage with
  | checking found =>
      rw [proceed] at proceeds
      split at proceeds <;> cases proceeds <;> exact .reads _
  | finding _ | answered _ | getting _ | gettingQueued _ =>
      cases proceeds
      exact .reads _
  | deleting media existing =>
      cases proceeds
      exact .deletes media existing
  | dispatching uuid =>
      cases proceeds
      exact .sends uuid
  | starting uuid transcription =>
      rw [proceed] at proceeds
      split at proceeds
      · cases proceeds
        exact .reads _
      · next saved =>
          cases proceeds
          rw [(TranscriptionTables.save_eq_some saved).2]
          exact .starts uuid transcription
  | savingDone uuid transcription body =>
      simp only [proceed] at proceeds
      split at proceeds
      · cases proceeds
        exact .reads _
      · next saved =>
          cases proceeds
          rcases TranscriptionTables.save_eq_some saved with ⟨stored, rfl⟩
          exact .completes uuid transcription body stored
  | savingFailed uuid transcription | handling uuid transcription
  | cancelling uuid transcription =>
      rw [proceed] at proceeds
      split at proceeds
      · cases proceeds
        exact .reads _
      · next saved =>
          cases proceeds
          rw [(TranscriptionTables.save_eq_some saved).2]
          exact .fails _ uuid rfl
  | notifying uuid transcription =>
      cases proceeds
      exact .tells _ transcription (.inl ⟨uuid, rfl⟩)
  | notifyingFailure transcription =>
      cases proceeds
      exact .tells _ transcription (.inr rfl)
  | creating _ | receiving | invoking _ _ => cases proceeds

theorem write_of_advance
    (advanced : advance floats maxDuration tables stage choice = some (after, rest)) :
    TranscriptionWrite tables stage after := by
  cases choice with
  | returns => exact write_of_proceed advanced
  | raises =>
      cases advanced
      exact .reads _
  | creates uuid =>
      cases stage with
      | creating media =>
          simp only [advance] at advanced
          split at advanced
          · cases advanced
          · next fresh =>
              unfold createRow at advanced
              split at advanced
              · cases advanced
                exact .reads _
              · next free =>
                  cases advanced
                  exact .creates media uuid fresh (Option.not_isSome_iff_eq_none.mp free)
      | _ => cases advanced
  | receives uuid =>
      cases stage with
      | receiving =>
          simp only [advance] at advanced
          split at advanced
          · next waiting =>
              cases advanced
              exact .receives uuid waiting
          · cases advanced
      | _ => cases advanced
  | responds response =>
      cases stage with
      | invoking uuid transcription =>
          cases advanced
          exact .reads _
      | _ => cases advanced
  | skips =>
      cases stage with
      | notifying uuid transcription | notifyingFailure transcription =>
          cases advanced
          exact .reads _
      | _ => cases advanced

end Statements

/-! ## What is known of each process -/

theorem AudioTranscription.not_isUnfinished_failed (transcription : AudioTranscription) :
    ¬(transcription.withStatus .failed).IsUnfinished := by
  simp [IsUnfinished, withStatus]

/-- Where it says that it is done, it has a text. -/
def AudioTranscription.IsSound (transcription : AudioTranscription) : Prop :=
  transcription.status = .done → ∃ body ∈ transcription.text, IsTranscript body

namespace TranscriptionTables

def Completed (tables : TranscriptionTables) (uuid : Uuid) : Prop :=
  uuid ∈ tables.completed.map Prod.fst

/-- The transcription has been created, and its message does not wait. -/
def Held (tables : TranscriptionTables) (uuid : Uuid) : Prop :=
  uuid ∈ tables.issued ∧ uuid ∉ tables.messages

structure Consistent (tables : TranscriptionTables) : Prop where
  messages_nodup : tables.messages.Nodup
  messages_issued : tables.messages ⊆ tables.issued
  rows_issued : ∀ uuid ∈ tables.rows, uuid ∈ tables.issued
  completed_held : ∀ uuid, tables.Completed uuid → tables.Held uuid
  oneOfMedia : ∀ uuid row other otherRow, tables.rows.lookup uuid = some row →
    tables.rows.lookup other = some otherRow → row.media = otherRow.media → uuid = other
  rows_sound : ∀ uuid row, tables.rows.lookup uuid = some row → row.IsSound
  notices_sound : ∀ notice ∈ tables.notices, notice.status = .done → IsTranscript notice.text

/-- What the statements of others leave of what a process knows, where `custody` is the
transcription that they answer for. -/
structure Evolves (custody : Option Uuid) (before after : TranscriptionTables) : Prop where
  issued : before.issued ⊆ after.issued
  messages : ∀ uuid ∈ after.messages, uuid ∈ before.messages ∨ custody = some uuid
  unfinished : ∀ uuid, after.Unfinished uuid →
    before.Unfinished uuid ∨ custody = some uuid ∨ uuid ∉ before.issued
  completed : ∀ uuid, after.Completed uuid → before.Completed uuid ∨ custody = some uuid

end TranscriptionTables

def TranscriptionStage.Known (tables : TranscriptionTables) : TranscriptionStage → Prop
  | .dispatching uuid | .getting uuid | .starting uuid _ | .invoking uuid _
  | .savingFailed uuid _ => tables.Held uuid ∧ ¬tables.Completed uuid
  | .savingDone uuid _ body => (tables.Held uuid ∧ ¬tables.Completed uuid) ∧ IsTranscript body
  | .notifying uuid transcription =>
      (tables.Held uuid ∧ ¬tables.Unfinished uuid) ∧ transcription.IsSound
  | .handling uuid _ => tables.Held uuid
  | .notifyingFailure transcription => transcription.status = .failed
  | _ => True

section Knowledge

variable {tables after : TranscriptionTables} {stage : TranscriptionStage} {uuid other : Uuid}
  {change : AudioTranscription → AudioTranscription} {custody : Option Uuid}

theorem TranscriptionStage.Known.held (known : stage.Known tables)
    (answersFor : stage.custody = some uuid) : tables.Held uuid := by
  cases stage with
  | dispatching _ | getting _ | starting _ _ | invoking _ _ | savingFailed _ _ =>
      cases answersFor
      exact known.1
  | savingDone _ _ _ | notifying _ _ =>
      cases answersFor
      exact known.1.1
  | handling _ _ =>
      cases answersFor
      exact known
  | _ => cases answersFor

namespace TranscriptionTables

theorem Evolves.refl (custody : Option Uuid) (tables : TranscriptionTables) :
    Evolves custody tables tables where
  issued := fun _ member => member
  messages := fun _ member => .inl member
  unfinished := fun _ unfinished => .inl unfinished
  completed := fun _ completed => .inl completed

theorem unfinished_of_modify (finished : ∀ row, ¬(change row).IsUnfinished)
    (modified : after.rows = tables.rows.modify uuid change) (unfinished : after.Unfinished other) :
    tables.Unfinished other := by
  rcases unfinished with ⟨row, stored, isUnfinished⟩
  rw [modified] at stored
  rcases Table.lookup_modify_iff.mp stored with ⟨rfl, old, _, rfl⟩ | ⟨_, stored⟩
  · exact absurd isUnfinished (finished old)
  · exact ⟨row, stored, isUnfinished⟩

theorem unfinished_of_erase {key : Uuid} (erased : after.rows = tables.rows.erase key)
    (unfinished : after.Unfinished other) : tables.Unfinished other := by
  rcases unfinished with ⟨row, stored, isUnfinished⟩
  rw [erased] at stored
  by_cases same : other = key
  · subst same
    rw [AList.lookup_erase] at stored
    cases stored
  · rw [AList.lookup_erase_ne same] at stored
    exact ⟨row, stored, isUnfinished⟩

end TranscriptionTables

theorem evolves_of_write (write : TranscriptionWrite tables stage after) :
    tables.Evolves stage.custody after := by
  cases write with
  | reads stage => exact .refl _ _
  | tells stage transcription telling =>
      exact ⟨fun _ member => member, fun _ member => .inl member, fun _ unfinished => .inl unfinished,
        fun _ completed => .inl completed⟩
  | deletes media existing =>
      exact ⟨fun _ member => member, fun _ member => .inl member,
        fun uuid unfinished => .inl (TranscriptionTables.unfinished_of_erase rfl unfinished),
        fun _ completed => .inl completed⟩
  | creates media uuid fresh free =>
      refine ⟨List.subset_cons_self _ _, fun _ member => .inl member, fun other unfinished => ?_,
        fun _ completed => .inl completed⟩
      rcases unfinished with ⟨row, stored, isUnfinished⟩
      rcases Table.lookup_insert_iff.mp stored with ⟨rfl, _⟩ | ⟨_, stored⟩
      · exact .inr (.inr fresh)
      · exact .inl ⟨row, stored, isUnfinished⟩
  | sends uuid =>
      refine ⟨fun _ member => member, fun other member => ?_, fun _ unfinished => .inl unfinished,
        fun _ completed => .inl completed⟩
      rcases List.mem_cons.mp member with rfl | member
      · exact .inr rfl
      · exact .inl member
  | receives uuid waiting =>
      exact ⟨fun _ member => member, fun _ member => .inl (List.mem_of_mem_erase member),
        fun _ unfinished => .inl unfinished, fun _ completed => .inl completed⟩
  | starts uuid transcription =>
      refine ⟨fun _ member => member, fun _ member => .inl member, fun other unfinished => ?_,
        fun _ completed => .inl completed⟩
      rcases unfinished with ⟨row, stored, isUnfinished⟩
      rcases Table.lookup_modify_iff.mp stored with ⟨rfl, _⟩ | ⟨_, stored⟩
      · exact .inr (.inl rfl)
      · exact .inl ⟨row, stored, isUnfinished⟩
  | completes uuid transcription body stored =>
      refine ⟨fun _ member => member, fun _ member => .inl member, fun other unfinished => ?_,
        fun other completed => ?_⟩
      · exact .inl (TranscriptionTables.unfinished_of_modify
          (fun _ => by simp [AudioTranscription.IsUnfinished]) rfl unfinished)
      · rcases List.mem_cons.mp completed with rfl | completed
        · exact .inr rfl
        · exact .inl completed
  | fails stage uuid failing =>
      refine ⟨fun _ member => member, fun _ member => .inl member, fun other unfinished => ?_,
        fun _ completed => .inl completed⟩
      exact .inl (TranscriptionTables.unfinished_of_modify (fun row => row.not_isUnfinished_failed)
        rfl unfinished)

theorem TranscriptionStage.Known.stable (known : stage.Known tables)
    (evolves : tables.Evolves custody after)
    (apart : ∀ uuid, stage.custody = some uuid → custody ≠ some uuid) : stage.Known after := by
  have heldAfter : ∀ uuid, stage.custody = some uuid → after.Held uuid := by
    intro uuid answersFor
    have held := known.held answersFor
    refine ⟨evolves.issued held.1, fun waiting => ?_⟩
    rcases evolves.messages uuid waiting with waited | same
    · exact held.2 waited
    · exact apart uuid answersFor same
  have notCompleted : ∀ uuid, stage.custody = some uuid → ¬tables.Completed uuid →
      ¬after.Completed uuid := by
    intro uuid answersFor open' completed
    rcases evolves.completed uuid completed with old | same
    · exact open' old
    · exact apart uuid answersFor same
  cases stage with
  | dispatching uuid | getting uuid | starting uuid _ | invoking uuid _ | savingFailed uuid _ =>
      exact ⟨heldAfter uuid rfl, notCompleted uuid rfl known.2⟩
  | savingDone uuid _ _ =>
      exact ⟨⟨heldAfter uuid rfl, notCompleted uuid rfl known.1.2⟩, known.2⟩
  | notifying uuid _ =>
      refine ⟨⟨heldAfter uuid rfl, fun unfinished => ?_⟩, known.2⟩
      rcases evolves.unfinished uuid unfinished with old | same | fresh
      · exact known.1.2 old
      · exact apart uuid rfl same
      · exact fresh known.1.1.1
  | handling uuid _ => exact heldAfter uuid rfl
  | notifyingFailure _ => exact known
  | _ => trivial

namespace TranscriptionTables

theorem ofMedia_eq_none {media : Uuid} (free : tables.ofMedia media = none) {row}
    (stored : tables.rows.lookup uuid = some row) : row.media ≠ media := by
  have spared := List.find?_eq_none.mp free ⟨uuid, row⟩ (Table.mem_entries_iff.mpr stored)
  simpa using spared

theorem mem_modify (member : other ∈ tables.rows.modify uuid change) : other ∈ tables.rows := by
  rcases Option.isSome_iff_exists.mp (AList.lookup_isSome.mpr member) with ⟨row, stored⟩
  rcases Table.lookup_modify_iff.mp stored with ⟨rfl, old, here, _⟩ | ⟨_, stored⟩
  · exact AList.lookup_isSome.mp (by rw [Option.mem_def.mp here]; rfl)
  · exact AList.lookup_isSome.mp (by rw [stored]; rfl)

theorem oneOfMedia_modify (consistent : tables.Consistent)
    (sameMedia : ∀ row, (change row).media = row.media) {key : Uuid} {row otherRow}
    (stored : (tables.rows.modify key change).lookup uuid = some row)
    (otherStored : (tables.rows.modify key change).lookup other = some otherRow)
    (same : row.media = otherRow.media) : uuid = other := by
  have before : ∀ own found, (tables.rows.modify key change).lookup own = some found →
      ∃ old, tables.rows.lookup own = some old ∧ old.media = found.media := by
    intro own found present
    rcases Table.lookup_modify_iff.mp present with ⟨rfl, old, here, rfl⟩ | ⟨_, present⟩
    · exact ⟨old, here, (sameMedia old).symm⟩
    · exact ⟨found, present, rfl⟩
  rcases before uuid row stored with ⟨old, here, media⟩
  rcases before other otherRow otherStored with ⟨otherOld, otherHere, otherMedia⟩
  exact consistent.oneOfMedia uuid old other otherOld here otherHere
    (media.trans (same.trans otherMedia.symm))

theorem sound_modify (consistent : tables.Consistent) (sound : ∀ row, (change row).IsSound)
    {key : Uuid} {row} (stored : (tables.rows.modify key change).lookup uuid = some row) :
    row.IsSound := by
  rcases Table.lookup_modify_iff.mp stored with ⟨rfl, old, _, rfl⟩ | ⟨_, stored⟩
  · exact sound old
  · exact consistent.rows_sound uuid row stored

theorem Consistent.modify (consistent : tables.Consistent)
    (sameMedia : ∀ row, (change row).media = row.media) (sound : ∀ row, (change row).IsSound)
    (key : Uuid) : Consistent { tables with rows := tables.rows.modify key change } :=
  { consistent with
    rows_issued := fun _ member => consistent.rows_issued _ (mem_modify member)
    oneOfMedia := fun _ _ _ _ stored otherStored same =>
      oneOfMedia_modify consistent sameMedia stored otherStored same
    rows_sound := fun _ _ stored => sound_modify consistent sound stored }

theorem Consistent.withStatus (consistent : tables.Consistent) (status : AudioTranscriptionStatus)
    (notDone : status ≠ .done) (key : Uuid) :
    Consistent { tables with rows := tables.rows.modify key (·.withStatus status) } := by
  apply consistent.modify
  · exact fun _ => rfl
  · exact fun _ done => absurd done notDone

theorem Consistent.erase (consistent : tables.Consistent) (key : Uuid) :
    Consistent { tables with rows := tables.rows.erase key } := by
  have before : ∀ own found, (tables.rows.erase key).lookup own = some found →
      tables.rows.lookup own = some found := by
    intro own found present
    by_cases same : own = key
    · subst same
      rw [AList.lookup_erase] at present
      cases present
    · rwa [AList.lookup_erase_ne same] at present
  exact
    { consistent with
      rows_issued := fun _ member =>
        consistent.rows_issued _ (AList.mem_erase.mp member).2
      oneOfMedia := fun _ _ _ _ stored otherStored same =>
        consistent.oneOfMedia _ _ _ _ (before _ _ stored) (before _ _ otherStored) same
      rows_sound := fun _ _ stored => consistent.rows_sound _ _ (before _ _ stored) }

theorem Consistent.create (consistent : tables.Consistent) {media : Uuid}
    (fresh : uuid ∉ tables.issued) (free : tables.ofMedia media = none) :
    Consistent { tables with
      rows := tables.rows.insert uuid (.created media)
      issued := uuid :: tables.issued } where
  messages_nodup := consistent.messages_nodup
  messages_issued := fun _ member => List.mem_cons_of_mem _ (consistent.messages_issued member)
  rows_issued := fun other member => by
    rcases AList.mem_insert _ |>.mp member with rfl | old
    · exact List.mem_cons_self
    · exact List.mem_cons_of_mem _ (consistent.rows_issued other old)
  completed_held := fun other completed =>
    ⟨List.mem_cons_of_mem _ (consistent.completed_held other completed).1,
      (consistent.completed_held other completed).2⟩
  oneOfMedia := fun left row right otherRow stored otherStored same => by
    rcases Table.lookup_insert_iff.mp stored with ⟨rfl, rfl⟩ | ⟨_, old⟩
    · rcases Table.lookup_insert_iff.mp otherStored with ⟨rfl, _⟩ | ⟨_, otherOld⟩
      · rfl
      · exact absurd same.symm (ofMedia_eq_none free otherOld)
    · rcases Table.lookup_insert_iff.mp otherStored with ⟨rfl, rfl⟩ | ⟨_, otherOld⟩
      · exact absurd same (ofMedia_eq_none free old)
      · exact consistent.oneOfMedia _ _ _ _ old otherOld same
  rows_sound := fun other row stored => by
    rcases Table.lookup_insert_iff.mp stored with ⟨rfl, rfl⟩ | ⟨_, stored⟩
    · exact nofun
    · exact consistent.rows_sound other row stored
  notices_sound := consistent.notices_sound

theorem isTranscript_of_notice {transcription : AudioTranscription}
    (sound : transcription.IsSound) (done : transcription.notice.status = .done) :
    IsTranscript transcription.notice.text := by
  rcases sound done with ⟨body, isText, transcript⟩
  rw [AudioTranscription.notice, Option.mem_def.mp isText]
  exact transcript

theorem Consistent.notify (consistent : tables.Consistent) {transcription : AudioTranscription}
    (sound : transcription.IsSound) : (tables.notify transcription).Consistent :=
  { consistent with
    notices_sound := fun notice member => by
      rcases List.mem_append.mp member with old | new
      · exact consistent.notices_sound notice old
      · rcases List.mem_singleton.mp new with rfl
        exact isTranscript_of_notice sound }

end TranscriptionTables

theorem consistent_of_write (consistent : tables.Consistent) (known : stage.Known tables)
    (write : TranscriptionWrite tables stage after) : after.Consistent := by
  cases write with
  | reads stage => exact consistent
  | deletes media existing => exact consistent.erase existing
  | creates media uuid fresh free => exact consistent.create fresh free
  | sends uuid =>
      have held : tables.Held uuid := known.held rfl
      refine { consistent with
        messages_nodup := List.nodup_cons.mpr ⟨held.2, consistent.messages_nodup⟩
        messages_issued := List.cons_subset.mpr ⟨held.1, consistent.messages_issued⟩
        completed_held := fun other completed => ?_ }
      refine ⟨(consistent.completed_held other completed).1, fun waiting => ?_⟩
      rcases List.mem_cons.mp waiting with rfl | waiting
      · exact known.2 completed
      · exact (consistent.completed_held other completed).2 waiting
  | receives uuid waiting =>
      exact { consistent with
        messages_nodup := consistent.messages_nodup.erase uuid
        messages_issued := fun _ member =>
          consistent.messages_issued (List.mem_of_mem_erase member)
        completed_held := fun other completed =>
          ⟨(consistent.completed_held other completed).1,
            fun member => (consistent.completed_held other completed).2
              (List.mem_of_mem_erase member)⟩ }
  | starts uuid transcription => exact consistent.withStatus .processing nofun uuid
  | completes uuid transcription body stored =>
      have modified : TranscriptionTables.Consistent
          { tables with
            rows := tables.rows.modify uuid fun row =>
              { row with text := some body, status := .done } } := by
        apply consistent.modify
        · exact fun _ => rfl
        · exact fun _ _ => ⟨body, rfl, known.2⟩
      refine { modified with completed_held := fun other completed => ?_ }
      rcases List.mem_cons.mp completed with rfl | completed
      · exact known.1.1
      · exact consistent.completed_held other completed
  | fails stage uuid failing => exact consistent.withStatus .failed nofun uuid
  | tells stage transcription telling =>
      apply consistent.notify
      rcases telling with ⟨uuid, rfl⟩ | rfl
      · exact known.2
      · intro done
        rw [known] at done
        cases done

/-- What a statement hands on: the process knows what it has to, and answers for no
transcription that another one answers for. -/
structure HandsOn (tables : TranscriptionTables) (stage : TranscriptionStage)
    (after : TranscriptionTables) (remaining : TranscriptionStage) : Prop where
  known : remaining.Known after
  custody : ∀ uuid, remaining.custody = some uuid →
    stage.custody = some uuid ∨ uuid ∉ tables.issued ∨ uuid ∈ tables.messages

section Statements

variable {Real : Type} {floats : FloatFormat Real} {maxDuration : Nat}
  {remaining : TranscriptionStage} {choice : TranscriptionChoice Real}

theorem not_unfinished_modify (finished : ∀ row, ¬(change row).IsUnfinished)
    (modified : after.rows = tables.rows.modify uuid change) : ¬after.Unfinished uuid := by
  rintro ⟨row, stored, isUnfinished⟩
  rw [modified] at stored
  rcases Table.lookup_modify_iff.mp stored with ⟨_, old, _, rfl⟩ | ⟨different, _⟩
  · exact finished old isUnfinished
  · exact different rfl

theorem handsOn_of_proceed (known : stage.Known tables)
    (proceeds : proceed maxDuration tables stage = some (after, some remaining)) :
    HandsOn tables stage after remaining := by
  cases stage with
  | checking found =>
      rw [proceed] at proceeds
      split at proceeds <;> cases proceeds <;> exact ⟨trivial, nofun⟩
  | finding media =>
      cases proceeds
      unfold afterFinding
      split
      · exact ⟨trivial, nofun⟩
      · split <;> exact ⟨trivial, nofun⟩
  | deleting _ _ | dispatching _ =>
      cases proceeds
      exact ⟨trivial, nofun⟩
  | getting uuid =>
      rw [proceed] at proceeds
      injection proceeds with proceeds
      injection proceeds with same loaded
      subst same
      rcases Option.map_eq_some_iff.mp loaded with ⟨row, _, rfl⟩
      exact ⟨known, fun _ answersFor => .inl answersFor⟩
  | starting uuid transcription =>
      rw [proceed] at proceeds
      split at proceeds
      · cases proceeds
      · next saved =>
          cases proceeds
          rcases TranscriptionTables.save_eq_some saved with ⟨_, rfl⟩
          exact ⟨known, fun _ answersFor => .inl answersFor⟩
  | savingFailed uuid transcription =>
      rw [proceed] at proceeds
      split at proceeds
      · cases proceeds
        exact ⟨known.1, fun _ answersFor => .inl answersFor⟩
      · next saved =>
          cases proceeds
          rcases TranscriptionTables.save_eq_some saved with ⟨_, rfl⟩
          refine ⟨⟨⟨known.1, ?_⟩, nofun⟩, fun _ answersFor => .inl answersFor⟩
          exact not_unfinished_modify (fun row => row.not_isUnfinished_failed) rfl
  | savingDone uuid transcription body =>
      simp only [proceed] at proceeds
      split at proceeds
      · cases proceeds
        exact ⟨known.1.1, fun _ answersFor => .inl answersFor⟩
      · next saved =>
          cases proceeds
          rcases TranscriptionTables.save_eq_some saved with ⟨_, rfl⟩
          refine ⟨⟨⟨known.1.1, ?_⟩, fun _ => ⟨body, rfl, known.2⟩⟩,
            fun _ answersFor => .inl answersFor⟩
          exact not_unfinished_modify (fun _ => by simp [AudioTranscription.IsUnfinished]) rfl
  | handling uuid transcription | cancelling uuid transcription =>
      rw [proceed] at proceeds
      split at proceeds
      · cases proceeds
      · cases proceeds
        exact ⟨rfl, nofun⟩
  | gettingQueued uuid =>
      rw [proceed] at proceeds
      injection proceeds with proceeds
      injection proceeds with same loaded
      rcases Option.bind_eq_some_iff.mp loaded with ⟨row, _, queued⟩
      split at queued
      · cases queued
        exact ⟨trivial, nofun⟩
      · cases queued
  | answered _ | notifying _ _ | notifyingFailure _ | creating _ | receiving | invoking _ _ =>
      cases proceeds

theorem handsOn_of_advance (consistent : tables.Consistent) (known : stage.Known tables)
    (advanced : advance floats maxDuration tables stage choice = some (after, some remaining)) :
    HandsOn tables stage after remaining := by
  cases choice with
  | returns => exact handsOn_of_proceed known advanced
  | raises =>
      cases stage with
      | checking _ | finding _ | deleting _ _ | creating _ | dispatching _ =>
          cases advanced
          exact ⟨trivial, nofun⟩
      | invoking uuid _ | savingFailed uuid _ =>
          cases advanced
          exact ⟨known.1, fun _ answersFor => .inl answersFor⟩
      | savingDone uuid _ _ | notifying uuid _ =>
          cases advanced
          exact ⟨known.1.1, fun _ answersFor => .inl answersFor⟩
      | _ => cases advanced
  | creates uuid =>
      cases stage with
      | creating media =>
          simp only [advance] at advanced
          split at advanced
          · cases advanced
          · next fresh =>
              unfold createRow at advanced
              split at advanced
              · cases advanced
                exact ⟨trivial, nofun⟩
              · cases advanced
                refine ⟨⟨⟨List.mem_cons_self, ?_⟩, ?_⟩, ?_⟩
                · exact fun waiting => fresh (consistent.messages_issued waiting)
                · exact fun completed => fresh (consistent.completed_held uuid completed).1
                · rintro other ⟨⟩
                  exact .inr (.inl fresh)
      | _ => cases advanced
  | receives uuid =>
      cases stage with
      | receiving =>
          simp only [advance] at advanced
          split at advanced
          · next waiting =>
              cases advanced
              refine ⟨⟨⟨consistent.messages_issued waiting, ?_⟩, ?_⟩, ?_⟩
              · exact consistent.messages_nodup.not_mem_erase
              · exact fun completed => (consistent.completed_held uuid completed).2 waiting
              · rintro other ⟨⟩
                exact .inr (.inr waiting)
          · cases advanced
      | _ => cases advanced
  | responds response =>
      cases stage with
      | invoking uuid transcription =>
          simp only [advance] at advanced
          cases reading : readResponse floats response with
          | rejected =>
              rw [reading] at advanced
              cases advanced
              exact ⟨known, fun _ answersFor => .inl answersFor⟩
          | raises =>
              rw [reading] at advanced
              cases advanced
              exact ⟨known.1, fun _ answersFor => .inl answersFor⟩
          | transcribed body =>
              rw [reading] at advanced
              cases advanced
              exact ⟨⟨known, isTranscript_of_transcribed reading⟩,
                fun _ answersFor => .inl answersFor⟩
      | _ => cases advanced
  | skips =>
      cases stage with
      | notifying _ _ | notifyingFailure _ => cases advanced
      | _ => cases advanced

end Statements

theorem consistent_empty : TranscriptionTables.empty.Consistent where
  messages_nodup := .nil
  messages_issued := fun _ member => member
  rows_issued := fun _ member => absurd member (AList.notMem_empty _)
  completed_held := fun _ completed => nomatch completed
  oneOfMedia := fun _ _ _ _ stored => nomatch stored
  rows_sound := fun _ _ stored => nomatch stored
  notices_sound := fun _ member => nomatch member

theorem consistent_deleteMedia (consistent : tables.Consistent) (media : Uuid) :
    (deleteMedia tables media).Consistent := by
  unfold deleteMedia
  split
  · exact consistent
  · next uuid row found =>
      have erased := consistent.erase uuid
      refine { erased with completed_held := fun other completed => ?_ }
      rcases List.mem_map.mp completed with ⟨entry, member, rfl⟩
      exact consistent.completed_held _ (List.mem_map_of_mem (List.mem_filter.mp member).1)

theorem messages_deleteMedia (tables : TranscriptionTables) (media : Uuid) :
    (deleteMedia tables media).messages = tables.messages := by
  unfold deleteMedia
  split <;> rfl

theorem unfinished_deleteMedia {media : Uuid}
    (unfinished : (deleteMedia tables media).Unfinished uuid) : tables.Unfinished uuid := by
  unfold deleteMedia at unfinished
  split at unfinished
  · exact unfinished
  · exact TranscriptionTables.unfinished_of_erase rfl unfinished

theorem evolves_deleteMedia (tables : TranscriptionTables) (media : Uuid) :
    tables.Evolves none (deleteMedia tables media) where
  issued := by
    unfold deleteMedia
    split <;> exact fun _ member => member
  messages := fun _ member => .inl (messages_deleteMedia tables media ▸ member)
  unfinished := fun _ unfinished => .inl (unfinished_deleteMedia unfinished)
  completed := by
    intro uuid completed
    unfold deleteMedia at completed
    split at completed
    · exact .inl completed
    · rcases List.mem_map.mp completed with ⟨entry, member, rfl⟩
      exact .inl (List.mem_map_of_mem (List.mem_filter.mp member).1)

end Knowledge

/-- Each transcription is answered for by one process at a time, or by its message. -/
def transcriptionOutline {Real : Type} (floats : FloatFormat Real) (maxDuration : Nat)
    (Pid : Type) :
    PairOutline (transcriptionProgram floats maxDuration)
      (Machine.anyStep : TranscriptionPool Pid → TranscriptionEvent Pid Real → Prop) where
  Invariant := TranscriptionTables.Consistent
  Assertion := fun tables stage => stage.Known tables
  Compatible := fun left right => ∀ uuid, left.custody = some uuid → right.custody ≠ some uuid
  symmetric := fun apart uuid right left => apart uuid left right
  enter := by
    intro tables task _
    cases task <;> trivial
  enterCompatible := by
    intro task locals uuid answersFor
    cases task <;> cases answersFor
  advance := by
    intro pool pid choice stage after rest _ _ consistent known advanced
    refine ⟨consistent_of_write consistent known (write_of_advance advanced), ?_⟩
    intro remaining isRest
    subst isRest
    exact (handsOn_of_advance consistent known advanced).known
  advanceOther := by
    intro pool pid choice stage after rest _ _ consistent known advanced other otherStage _ _
      otherKnown apart
    refine ⟨?_, fun remaining isRest uuid answersFor otherAnswersFor => ?_⟩
    · apply otherKnown.stable (evolves_of_write (write_of_advance advanced))
      exact fun uuid otherAnswersFor answersFor => apart uuid answersFor otherAnswersFor
    · subst isRest
      have held := otherKnown.held otherAnswersFor
      rcases (handsOn_of_advance consistent known advanced).custody uuid answersFor with
        same | fresh | waiting
      · exact apart uuid same otherAnswersFor
      · exact fresh held.1
      · exact held.2 waiting
  surround := by
    intro pool media after _ consistent surrounded
    cases surrounded
    refine ⟨consistent_deleteMedia consistent media, fun pid stage _ known => ?_⟩
    exact known.stable (evolves_deleteMedia _ media) nofun

end ChatsEngine.AiFeatures
