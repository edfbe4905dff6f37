import ChatsEngine.Csat.SurveyInvitations

/-! # Completed surveys

The permission refuses requests for a room whose survey is completed. A request that was permitted
before saves its own copy of the row, whatever the row has become: this is excluded where the
requests for a room are apart. -/

namespace ChatsEngine.Csat

section Completed

variable {Token : Type} {library : TokenLibrary Token} {tables after : SurveyTables Token}
  {stage : SurveyStage Token} {rest : Option (SurveyStage Token)} {room uuid : Uuid}
  {survey : CSATSurvey}

/-- The room whose survey the process has found not to be completed. -/
def SurveyStage.permittedRoom : SurveyStage Token → Option Uuid
  | .finding _ room | .validating _ room _ => some room
  | .cleaning _ survey | .validatingUnique _ survey | .saving _ survey => some survey.room
  | _ => none

def SurveyStage.target : SurveyStage Token → Option Uuid
  | .validating _ _ existing => existing.map (·.1)
  | .cleaning target _ | .validatingUnique target _ | .saving target _ => target
  | _ => none

namespace SurveyTables

def IsOpen (tables : SurveyTables Token) (room : Uuid) : Prop :=
  ∀ uuid survey, tables.surveys.lookup uuid = some survey → survey.room = room →
    survey.isCompleted = false

def IsOfRoom (tables : SurveyTables Token) (uuid room : Uuid) : Prop :=
  uuid ∈ tables.issued ∧ ∀ survey, tables.surveys.lookup uuid = some survey → survey.room = room

structure Numbered (tables : SurveyTables Token) : Prop where
  issued : ∀ uuid survey, tables.surveys.lookup uuid = some survey → uuid ∈ tables.issued
  oneOfRoom : ∀ uuid other survey otherSurvey, tables.surveys.lookup uuid = some survey →
    tables.surveys.lookup other = some otherSurvey → survey.room = otherSurvey.room → uuid = other

theorem Numbered.surveyOf_eq (numbered : tables.Numbered)
    (stored : tables.surveys.lookup uuid = some survey) (ofRoom : survey.room = room) :
    tables.surveyOf room = some ⟨uuid, survey⟩ := by
  cases search : tables.surveyOf room with
  | none =>
      have missed := List.find?_eq_none.mp search ⟨uuid, survey⟩ (Table.mem_entries_iff.mpr stored)
      exact absurd (decide_eq_true ofRoom) missed
  | some found =>
      rcases found with ⟨other, row⟩
      rcases surveyOf_eq_some search with ⟨otherStored, otherOfRoom⟩
      cases numbered.oneOfRoom uuid other survey row stored otherStored
        (ofRoom.trans otherOfRoom.symm)
      cases Option.some.inj (stored.symm.trans otherStored)
      rfl

end SurveyTables

/-! ## What a statement writes -/

inductive SurveyWrite (tables : SurveyTables Token) (stage : SurveyStage Token)
    (after : SurveyTables Token) : Prop
  | leaves (same : after.surveys = tables.surveys) (issued : tables.issued ⊆ after.issued)
  | stores (uuid : Uuid) (survey : CSATSurvey)
      (permitted : stage.permittedRoom = some survey.room)
      (own : stage.target = some uuid ∨ stage.target = none ∧ uuid ∉ tables.issued)
      (free : ¬tables.isTaken stage.target survey.room)
      (stored : after.surveys = tables.surveys.insert uuid survey)
      (issued : tables.issued ⊆ after.issued)
      (isIssued : stage.target = none → uuid ∈ after.issued)

theorem write_of_proceed (proceeds : proceed library tables stage = some (after, rest)) :
    SurveyWrite tables stage after := by
  have reads : SurveyWrite tables stage tables := .leaves rfl (List.Subset.refl _)
  cases stage with
  | inviting room project =>
      cases proceeds
      exact .leaves rfl (List.Subset.refl _)
  | authenticating request | permitting request claims authenticatedAt | finding request room =>
      cases proceeds
      exact reads
  | getting room =>
      simp only [proceed] at proceeds
      split at proceeds
      · cases proceeds
        exact reads
      · split at proceeds <;> cases proceeds <;> exact reads
  | checkingSurvey request room row authenticatedAt =>
      simp only [proceed] at proceeds
      split at proceeds <;> cases proceeds <;> exact .leaves rfl (List.Subset.refl _)
  | validating request room existing | cleaning target survey | validatingUnique target survey =>
      simp only [proceed] at proceeds
      split at proceeds <;> cases proceeds <;> exact reads
  | saving target survey =>
      cases target with
      | none => cases proceeds
      | some uuid =>
          cases proceeds
          rw [SurveyTables.store]
          split
          · exact reads
          · next allowed =>
              exact .stores uuid survey rfl (.inl rfl) (fun taken => allowed (.inl taken)) rfl
                (List.Subset.refl _) fun isNone => by cases isNone

theorem write_of_advance {choice : SurveyChoice}
    (advanced : advance library tables stage choice = some (after, rest)) :
    SurveyWrite tables stage after := by
  cases choice with
  | returns => exact write_of_proceed advanced
  | raises =>
      cases advanced
      exact .leaves rfl (List.Subset.refl _)
  | creates uuid =>
      cases stage with
      | saving target survey =>
          cases target with
          | some _ => cases advanced
          | none =>
              simp only [advance] at advanced
              split at advanced
              · cases advanced
              · next fresh =>
                  cases advanced
                  rw [SurveyTables.store]
                  split
                  · exact .leaves rfl (List.subset_cons_self _ _)
                  · next allowed =>
                      exact .stores uuid survey rfl (.inr ⟨rfl, fresh⟩)
                        (fun taken => allowed (.inl taken)) rfl (List.subset_cons_self _ _)
                        fun _ => List.mem_cons_self
      | _ => cases advanced

/-! ## What a process knows of its room -/

/-- The survey of the room is open, and the row that is going to be saved is that of the room. -/
structure SurveyStage.Holds (tables : SurveyTables Token) (stage : SurveyStage Token) : Prop where
  isOpen : ∀ room, stage.permittedRoom = some room → tables.IsOpen room
  isOfRoom : ∀ uuid, stage.target = some uuid →
    ∃ room, stage.permittedRoom = some room ∧ tables.IsOfRoom uuid room

structure SurveyStage.Apart (left right : SurveyStage Token) : Prop where
  room : ∀ room, left.permittedRoom = some room → right.permittedRoom ≠ some room
  target : ∀ uuid, left.target = some uuid → right.target ≠ some uuid

theorem SurveyStage.Apart.symm {left right : SurveyStage Token} (apart : left.Apart right) :
    right.Apart left where
  room := fun room ofRight ofLeft => apart.room room ofLeft ofRight
  target := fun uuid ofRight ofLeft => apart.target uuid ofLeft ofRight

theorem SurveyStage.Holds.of_none (noRoom : stage.permittedRoom = none)
    (noTarget : stage.target = none) : stage.Holds tables where
  isOpen := fun room permitted => by rw [noRoom] at permitted; cases permitted
  isOfRoom := fun uuid targets => by rw [noTarget] at targets; cases targets

theorem SurveyStage.Apart.of_none {other : SurveyStage Token}
    (noRoom : stage.permittedRoom = none) (noTarget : stage.target = none) : stage.Apart other where
  room := fun room permitted => by rw [noRoom] at permitted; cases permitted
  target := fun uuid targets => by rw [noTarget] at targets; cases targets

theorem SurveyStage.Holds.of_same {remaining : SurveyStage Token} (holds : stage.Holds tables)
    (sameRoom : remaining.permittedRoom = stage.permittedRoom)
    (sameTarget : remaining.target = stage.target) : remaining.Holds tables where
  isOpen := fun room permitted => holds.isOpen room (sameRoom ▸ permitted)
  isOfRoom := fun uuid targets => by
    rw [sameRoom]
    exact holds.isOfRoom uuid (sameTarget ▸ targets)

theorem SurveyStage.Holds.of_rows (holds : stage.Holds tables)
    (rows : ∀ uuid survey, after.surveys.lookup uuid = some survey →
      tables.surveys.lookup uuid = some survey)
    (issued : tables.issued ⊆ after.issued) : stage.Holds after where
  isOpen := fun room permitted uuid survey stored =>
    holds.isOpen room permitted uuid survey (rows uuid survey stored)
  isOfRoom := by
    intro uuid targets
    rcases holds.isOfRoom uuid targets with ⟨room, permitted, given, ofRoom⟩
    exact ⟨room, permitted, issued given, fun survey stored => ofRoom survey (rows uuid survey stored)⟩

theorem SurveyTables.Numbered.of_rows (numbered : tables.Numbered)
    (rows : ∀ uuid survey, after.surveys.lookup uuid = some survey →
      tables.surveys.lookup uuid = some survey)
    (issued : tables.issued ⊆ after.issued) : after.Numbered where
  issued := fun uuid survey stored => issued (numbered.issued uuid survey (rows uuid survey stored))
  oneOfRoom := fun left right leftRow rightRow leftStored rightStored =>
    numbered.oneOfRoom left right leftRow rightRow (rows left leftRow leftStored)
      (rows right rightRow rightStored)

/-! ## A write -/

theorem numbered_of_write (numbered : tables.Numbered) (holds : stage.Holds tables)
    (write : SurveyWrite tables stage after) : after.Numbered := by
  cases write with
  | leaves same issued => exact numbered.of_rows (fun _ _ stored => same ▸ stored) issued
  | stores uuid survey permitted own free stored issued isIssued =>
      have ofTarget : ∀ other, some other = stage.target → other = uuid := by
        intro other targets
        rcases own with own | ⟨noTarget, _⟩
        · exact Option.some.inj (targets.trans own)
        · cases targets.trans noTarget
      constructor
      · intro other row isStored
        rw [stored] at isStored
        rcases Table.lookup_insert_iff.mp isStored with ⟨rfl, _⟩ | ⟨_, old⟩
        · rcases own with own | ⟨noTarget, _⟩
          · rcases holds.isOfRoom _ own with ⟨_, _, given, _⟩
            exact issued given
          · exact isIssued noTarget
        · exact issued (numbered.issued other row old)
      · intro left right leftRow rightRow leftStored rightStored same
        rw [stored] at leftStored rightStored
        rcases Table.lookup_insert_iff.mp leftStored with ⟨rfl, rfl⟩ | ⟨_, leftOld⟩ <;>
          rcases Table.lookup_insert_iff.mp rightStored with ⟨rfl, rfl⟩ | ⟨_, rightOld⟩
        · rfl
        · exact (ofTarget right
            (SurveyTables.Consistent.eq_of_not_isTaken free rightOld same.symm)).symm
        · exact ofTarget left (SurveyTables.Consistent.eq_of_not_isTaken free leftOld same)
        · exact numbered.oneOfRoom left right leftRow rightRow leftOld rightOld same

theorem holds_other (write : SurveyWrite tables stage after) {other : SurveyStage Token}
    (apart : stage.Apart other) (holds : other.Holds tables) : other.Holds after := by
  cases write with
  | leaves same issued => exact holds.of_rows (fun _ _ stored => same ▸ stored) issued
  | stores written row writerPermitted own free stored issued isIssued =>
      constructor
      · intro room permitted uuid survey isStored ofRoom
        rw [stored] at isStored
        rcases Table.lookup_insert_iff.mp isStored with ⟨rfl, rfl⟩ | ⟨_, old⟩
        · rw [← ofRoom] at permitted
          exact absurd permitted (apart.room _ writerPermitted)
        · exact holds.isOpen room permitted uuid survey old ofRoom
      · intro uuid targets
        rcases holds.isOfRoom uuid targets with ⟨room, permitted, given, ofRoom⟩
        refine ⟨room, permitted, issued given, fun survey isStored => ?_⟩
        rw [stored] at isStored
        rcases Table.lookup_insert_iff.mp isStored with ⟨rfl, _⟩ | ⟨_, old⟩
        · rcases own with own | ⟨_, fresh⟩
          · exact absurd targets (apart.target _ own)
          · exact absurd given fresh
        · exact ofRoom survey old

theorem completed_of_write (write : SurveyWrite tables stage after) (holds : stage.Holds tables)
    (numbered : tables.Numbered) (stored : tables.surveys.lookup uuid = some survey)
    (completed : survey.isCompleted) : after.surveys.lookup uuid = some survey := by
  cases write with
  | leaves same _ => rwa [same]
  | stores written row permitted own free isWritten issued isIssued =>
      have otherRoom : survey.room ≠ row.room := by
        intro same
        have isOpen := holds.isOpen row.room permitted uuid survey stored same
        rw [completed] at isOpen
        cases isOpen
      have other : uuid ≠ written := by
        rintro rfl
        rcases own with own | ⟨_, fresh⟩
        · rcases holds.isOfRoom uuid own with ⟨room, isRoom, _, ofRoom⟩
          cases Option.some.inj (isRoom.symm.trans permitted)
          exact otherRoom (ofRoom survey stored)
        · exact fresh (numbered.issued uuid survey stored)
      rw [isWritten, AList.lookup_insert_ne other]
      exact stored

/-! ## What a process knows next -/

/-- How a process that goes on relates to what it was. -/
inductive SurveyPass (tables : SurveyTables Token) (stage remaining : SurveyStage Token) : Prop
  | unpermitted (noRoom : remaining.permittedRoom = none) (noTarget : remaining.target = none)
  | permits (request : SurveyRequest Token) (room : Uuid) (row : SurveyedRoom)
      (authenticatedAt : Instant)
      (checks : stage = .checkingSurvey request room row authenticatedAt)
      (passes : row.isActive = false ∧ (tables.surveyOf room).any (·.2.isCompleted) = false)
      (goesOn : remaining = .finding request room)
  | finds (request : SurveyRequest Token) (room : Uuid) (finding : stage = .finding request room)
      (goesOn : remaining = .validating request room (tables.surveyOf room))
  | same (sameRoom : remaining.permittedRoom = stage.permittedRoom)
      (sameTarget : remaining.target = stage.target)

theorem room_of_validated {request : SurveyRequest Token} {now : Instant}
    {existing : Option CSATSurvey} (isValid : validated request room now existing = some survey) :
    survey.room = room := by
  simp only [validated, Option.bind_eq_bind, Option.bind_eq_some_iff, Option.pure_def,
    Option.some.injEq] at isValid
  rcases isValid with ⟨_, _, _, _, _, _, rfl⟩
  rfl

theorem pass_of_advance {choice : SurveyChoice} {remaining : SurveyStage Token}
    (advanced : advance library tables stage choice = some (after, some remaining)) :
    after.surveys = tables.surveys ∧ after.issued = tables.issued ∧
      SurveyPass tables stage remaining := by
  cases choice with
  | raises => cases advanced
  | creates uuid =>
      cases stage with
      | saving target survey =>
          cases target with
          | some _ => cases advanced
          | none =>
              simp only [advance] at advanced
              split at advanced <;> cases advanced
      | _ => cases advanced
  | returns =>
      simp only [advance] at advanced
      cases stage with
      | inviting room project => cases advanced
      | getting room =>
          simp only [proceed] at advanced
          split at advanced
          · cases advanced
          · split at advanced <;> cases advanced
            exact ⟨rfl, rfl, .unpermitted rfl rfl⟩
      | authenticating request =>
          simp only [proceed, Option.some.injEq, Prod.mk.injEq, Option.map_eq_some_iff] at advanced
          rcases advanced with ⟨rfl, claims, _, rfl⟩
          exact ⟨rfl, rfl, .unpermitted rfl rfl⟩
      | permitting request claims authenticatedAt =>
          simp only [proceed, Option.some.injEq, Prod.mk.injEq, Option.map_eq_some_iff] at advanced
          rcases advanced with ⟨rfl, found, _, rfl⟩
          exact ⟨rfl, rfl, .unpermitted rfl rfl⟩
      | checkingSurvey request room row authenticatedAt =>
          simp only [proceed] at advanced
          split at advanced
          · cases advanced
          · next permitted =>
              cases advanced
              rw [Bool.or_eq_true, not_or, Bool.not_eq_true, Bool.not_eq_true] at permitted
              exact ⟨rfl, rfl, .permits request room row authenticatedAt rfl permitted rfl⟩
      | finding request room =>
          cases advanced
          exact ⟨rfl, rfl, .finds request room rfl rfl⟩
      | validating request room existing =>
          simp only [proceed] at advanced
          split at advanced
          · cases advanced
          · simp only [Option.some.injEq, Prod.mk.injEq, Option.map_eq_some_iff] at advanced
            rcases advanced with ⟨rfl, survey, isValid, rfl⟩
            exact ⟨rfl, rfl, .same (congrArg some (room_of_validated isValid)) rfl⟩
      | cleaning target survey | validatingUnique target survey =>
          simp only [proceed] at advanced
          split at advanced <;> cases advanced
          exact ⟨rfl, rfl, .same rfl rfl⟩
      | saving target survey => cases target <;> cases advanced

theorem holds_of_pass {remaining : SurveyStage Token} (numbered : tables.Numbered)
    (holds : stage.Holds tables) (pass : SurveyPass tables stage remaining) :
    remaining.Holds tables := by
  cases pass with
  | unpermitted noRoom noTarget => exact .of_none noRoom noTarget
  | same sameRoom sameTarget => exact holds.of_same sameRoom sameTarget
  | permits request room row authenticatedAt checks passes goesOn =>
      subst goesOn
      refine ⟨?_, fun uuid targets => by cases targets⟩
      rintro _ ⟨⟩ uuid survey stored ofRoom
      have isOpen := passes.2
      rw [numbered.surveyOf_eq stored ofRoom, Option.any_some] at isOpen
      exact isOpen
  | finds request room finding goesOn =>
      subst finding goesOn
      refine ⟨fun other permitted => holds.isOpen other permitted, fun uuid targets => ?_⟩
      rcases Option.map_eq_some_iff.mp targets with ⟨found, isFound, rfl⟩
      rcases surveyOf_eq_some isFound with ⟨stored, ofRoom⟩
      refine ⟨room, rfl, numbered.issued _ _ stored, fun survey isStored => ?_⟩
      cases Option.some.inj (stored.symm.trans isStored)
      exact ofRoom

/-! ## The run -/

section Run

variable {Pid : Type} {pool next : SurveyPool Pid Token}

/-- No other process has been permitted for the room for which a process is permitted. -/
def RequestsApart (pool : SurveyPool Pid Token) : SurveyEvent Pid Token → Prop
  | .advance pid .returns =>
      match pool.process pid with
      | some (.checkingSurvey _ room row _) =>
          row.isActive = false ∧ (pool.shared.surveyOf room).any (·.2.isCompleted) = false →
            ∀ other, ∀ stage ∈ pool.process other, stage.permittedRoom ≠ some room
      | _ => True
  | _ => True

instance [Fintype Pid] (pool : SurveyPool Pid Token) (event : SurveyEvent Pid Token) :
    Decidable (RequestsApart pool event) := by
  unfold RequestsApart
  split
  · split <;> infer_instance
  · infer_instance

theorem returns_of_advance {choice : SurveyChoice} {remaining : SurveyStage Token}
    (advanced : advance library tables stage choice = some (after, some remaining)) :
    choice = .returns := by
  cases choice with
  | returns => rfl
  | raises => cases advanced
  | creates uuid =>
      rw [advance.eq_def] at advanced
      dsimp only at advanced
      split at advanced
      · split at advanced <;> cases advanced
      · cases advanced

theorem apart_of_pass {other remaining : SurveyStage Token} (apart : stage.Apart other)
    (otherHolds : other.Holds tables)
    (permits : ∀ request room row authenticatedAt,
      stage = .checkingSurvey request room row authenticatedAt →
      row.isActive = false ∧ (tables.surveyOf room).any (·.2.isCompleted) = false →
      other.permittedRoom ≠ some room)
    (pass : SurveyPass tables stage remaining) : remaining.Apart other := by
  cases pass with
  | unpermitted noRoom noTarget => exact .of_none noRoom noTarget
  | same sameRoom sameTarget =>
      exact ⟨fun room permitted => apart.room room (sameRoom ▸ permitted),
        fun uuid targets => apart.target uuid (sameTarget ▸ targets)⟩
  | permits request room row authenticatedAt checks passes goesOn =>
      subst goesOn
      refine ⟨?_, fun uuid targets => by cases targets⟩
      rintro _ ⟨⟩
      exact permits request room row authenticatedAt checks passes
  | finds request room finding goesOn =>
      subst finding goesOn
      refine ⟨fun other permitted => apart.room other permitted, fun uuid targets otherTargets => ?_⟩
      rcases Option.map_eq_some_iff.mp targets with ⟨found, isFound, rfl⟩
      rcases surveyOf_eq_some isFound with ⟨stored, ofRoom⟩
      rcases otherHolds.isOfRoom _ otherTargets with ⟨otherRoom, permitted, _, ofOther⟩
      apply apart.room room rfl
      rw [permitted, ← ofOther _ stored, ofRoom]

theorem surveys_of_surround (tables : SurveyTables Token) (event : SurveyAmbient) :
    (surround tables event).issued = tables.issued ∧
      ∀ uuid survey, (surround tables event).surveys.lookup uuid = some survey →
        tables.surveys.lookup uuid = some survey := by
  cases event with
  | tick _ | saveRoom _ _ => exact ⟨rfl, fun _ _ stored => stored⟩
  | deleteRoom room =>
      exact ⟨rfl, fun _ _ stored => SurveyTables.Consistent.lookup_of_deleteRoom stored⟩

variable (library Pid) in
def completedOutline :
    PairOutline (surveyProgram library)
      (RequestsApart : SurveyPool Pid Token → SurveyEvent Pid Token → Prop) where
  Invariant := SurveyTables.Numbered
  Assertion := fun tables stage => stage.Holds tables
  Compatible := SurveyStage.Apart
  symmetric := SurveyStage.Apart.symm
  enter := fun {_ task} _ => by cases task <;> exact .of_none rfl rfl
  enterCompatible := fun {task _} => by cases task <;> exact .of_none rfl rfl
  advance := by
    intro pool pid choice locals shared rest _ running numbered holds advanced
    have write : SurveyWrite pool.shared locals shared := write_of_advance advanced
    refine ⟨numbered_of_write numbered holds write, ?_⟩
    rintro remaining rfl
    rcases pass_of_advance advanced with ⟨sameRows, sameIssued, pass⟩
    have before : remaining.Holds pool.shared := holds_of_pass numbered holds pass
    exact before.of_rows (fun _ _ stored => sameRows ▸ stored) (sameIssued ▸ List.Subset.refl _)
  advanceOther := by
    intro pool pid choice locals shared rest meets running numbered holds advanced other otherLocals
      _ otherRunning otherHolds apart
    refine ⟨holds_other (write_of_advance advanced) apart otherHolds, ?_⟩
    rintro remaining rfl
    rcases pass_of_advance advanced with ⟨_, _, pass⟩
    refine apart_of_pass apart otherHolds ?_ pass
    rintro request room row authenticatedAt rfl passes
    cases returns_of_advance advanced
    simp only [RequestsApart, running] at meets
    exact meets passes other otherLocals otherRunning
  surround := by
    intro pool event shared _ numbered surrounded
    cases surrounded
    rcases surveys_of_surround pool.shared event with ⟨sameIssued, kept⟩
    have issued : pool.shared.issued ⊆ (surround pool.shared event).issued := by
      rw [sameIssued]
      exact List.Subset.refl _
    exact ⟨numbered.of_rows kept issued, fun _ _ _ holds => holds.of_rows kept issued⟩

theorem numbered_start (now : Instant) (rooms : Table Uuid SurveyedRoom) :
    (SurveyTables.start now rooms : SurveyTables Token).Numbered where
  issued := fun _ _ stored => by cases stored
  oneOfRoom := fun _ _ _ _ stored => by cases stored

/-- The room, with which its survey is deleted, stays. -/
def SparesRoom (room : Uuid) : SurveyEvent Pid Token → Prop
  | .surround (.deleteRoom deleted) => deleted ≠ room
  | _ => True

instance (room : Uuid) (event : SurveyEvent Pid Token) : Decidable (SparesRoom room event) := by
  unfold SparesRoom
  split <;> infer_instance

theorem lookup_deleteRoom (stored : tables.surveys.lookup uuid = some survey)
    (other : room ≠ survey.room) : (tables.deleteRoom room).surveys.lookup uuid = some survey := by
  simp only [SurveyTables.deleteRoom]
  split
  · exact stored
  · next deleted row isFound =>
      rcases surveyOf_eq_some isFound with ⟨isStored, ofRoom⟩
      have different : uuid ≠ deleted := by
        rintro rfl
        cases Option.some.inj (stored.symm.trans isStored)
        exact other ofRoom.symm
      rw [AList.lookup_erase_ne different]
      exact stored

variable [DecidableEq Pid]

theorem completed_of_step {event : SurveyEvent Pid Token}
    (holds : (completedOutline library Pid).Holds pool) (spares : SparesRoom survey.room event)
    (stepped : (surveyProgram library).machine.step pool event = some next)
    (stored : pool.shared.surveys.lookup uuid = some survey) (completed : survey.isCompleted) :
    next.shared.surveys.lookup uuid = some survey := by
  cases event with
  | start pid task =>
      rcases Program.step_start stepped with ⟨_, rfl⟩
      exact stored
  | kill pid =>
      rcases Program.step_kill stepped with ⟨_, rfl⟩
      exact stored
  | advance pid choice =>
      rcases Program.step_advance stepped with ⟨stage, after, rest, running, advanced, rfl⟩
      exact completed_of_write (write_of_advance advanced) (holds.locals pid stage running)
        holds.shared stored completed
  | surround ambient =>
      rcases Program.step_surround stepped with ⟨after, surrounded, rfl⟩
      cases surrounded
      cases ambient with
      | tick _ | saveRoom _ _ => exact stored
      | deleteRoom deleted => exact lookup_deleteRoom stored spares

/-- While the requests for a room are apart, a completed survey stays as it is, as long as its
room is there. -/
theorem completed_surveys_stay {now : Instant} {rooms : Table Uuid SurveyedRoom}
    {final : SurveyPool Pid Token}
    (before : (surveyProgram library).machine.Reaches RequestsApart
      (Pool.idle (.start now rooms)) pool)
    (stored : pool.shared.surveys.lookup uuid = some survey) (completed : survey.isCompleted)
    (reaches : (surveyProgram library).machine.Reaches
      (fun pool event => RequestsApart pool event ∧ SparesRoom survey.room event) pool final) :
    final.shared.surveys.lookup uuid = some survey := by
  have holds : (completedOutline library Pid).Holds pool :=
    (completedOutline library Pid).holds_of_reaches before
      ((completedOutline library Pid).holds_of_isIdle (numbered_start now rooms)
        (Pool.idle_isIdle _))
  have both : (completedOutline library Pid).Holds final ∧
      final.shared.surveys.lookup uuid = some survey := by
    apply reaches.invariant ⟨holds, stored⟩
    rintro current event next ⟨holds, stored⟩ ⟨apart, spares⟩ stepped
    exact ⟨(completedOutline library Pid).holds_step holds apart stepped,
      completed_of_step holds spares stepped stored completed⟩
  exact both.2

end Run

end Completed

/-! ## A second answer -/

def oneStarEvents : List (SurveyEvent Bool SurveyClaims) :=
  [.start false (.answer { fourStars with rating := .value 1 }), .advance false .returns,
    .advance false .returns, .advance false .returns]

theorem four_stars_stay :
    ∃ final : SurveyPool Bool SurveyClaims, final.process false = none ∧
      final.shared.admissions.length = 1 ∧
        final.shared.surveys.lookup 30 = some ⟨1, some 4, some [111, 107], 5001000⟩ := by
  have ends : ((surveyProgram plainTokens).machine.runMeeting RequestsApart
      (Pool.idle (.start 0 (AList.singleton 1 ⟨7, true⟩))) fourStarsEvents).bind
        (fun pool => ((surveyProgram plainTokens).machine.runMeeting
          (fun pool event => RequestsApart pool event ∧ SparesRoom 1 event) pool
            oneStarEvents).map fun final =>
          (pool.shared.surveys.lookup 30, final.process false, final.shared.admissions.length)) =
      some (some ⟨1, some 4, some [111, 107], 5001000⟩, none, 1) := by
    decide +kernel
  rcases Option.bind_eq_some_iff.mp ends with ⟨pool, ran, rest⟩
  rcases Option.map_eq_some_iff.mp rest with ⟨final, ranOn, reads⟩
  simp only [Prod.mk.injEq] at reads
  rcases reads with ⟨stored, refused, admitted⟩
  exact ⟨final, refused, admitted,
    completed_surveys_stay (.of_runMeeting ran) stored rfl (.of_runMeeting ranOn)⟩

end ChatsEngine.Csat
