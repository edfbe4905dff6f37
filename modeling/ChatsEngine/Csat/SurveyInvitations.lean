import ChatsEngine.Csat.Surveys

/-! # Surveys of invited contacts

A survey is written by requests whose token was issued for its room after the room had been closed.
Tokens cannot be forged: what decodes has been handed out with an invitation. -/

namespace ChatsEngine.Csat

open JsonText

section Invited

variable {Token : Type} {library : TokenLibrary Token} {tables after : SurveyTables Token}

/-! ## What the past says -/

namespace SurveyTables

def WasClosed (tables : SurveyTables Token) (room project : Uuid) (time : Instant) : Prop :=
  ∃ number row, tables.rooms.InForce number time ∧
    (tables.rooms.state number).lookup room = some row ∧ row.project = project ∧
      row.isActive = false

/-- An invitation for the room is in the hands of the flow since an instant at which the room had
been closed, and its token is accepted at the given instant. -/
def IsInvited (tables : SurveyTables Token) (request : SurveyRequest Token)
    (room project : Uuid) (authenticatedAt : Instant) : Prop :=
  ∃ invitation ∈ tables.invitations,
    invitation.room = room ∧ invitation.project = project ∧
      request.token = some invitation.token ∧ invitation.issuedAt ≤ authenticatedAt ∧
        authenticatedAt < invitation.issuedAt + expiresIn ∧
          ∃ time ≤ invitation.issuedAt, tables.WasClosed room project time

/-- The request was invited, and found its room closed after its authentication. -/
def IsRightful (tables : SurveyTables Token) (admission : Admission Token) : Prop :=
  ∃ project, tables.IsInvited admission.request admission.room project admission.authenticatedAt ∧
    ∃ time, admission.authenticatedAt ≤ time ∧ time ≤ tables.now ∧
      tables.WasClosed admission.room project time

def IsRatedBy (tables : SurveyTables Token) (room : Uuid) (rating : Int) : Prop :=
  IsRating rating ∧ ∃ admission ∈ tables.admissions, admission.room = room ∧
    admission.request.rating = .value rating ∧ tables.IsRightful admission

def IsCommentedBy (tables : SurveyTables Token) (room : Uuid) (comment : Text) : Prop :=
  comment ≠ [] ∧ ∃ admission ∈ tables.admissions, admission.room = room ∧
    (∃ sent, admission.request.comment = .value sent ∧ Rooms.RoomExport.strip sent = comment) ∧
      tables.IsRightful admission

/-- What an instance says was given by rightful requests. -/
structure IsGiven (tables : SurveyTables Token) (survey : CSATSurvey) : Prop where
  rating : ∀ rating, survey.rating = some rating → tables.IsRatedBy survey.room rating
  comment : ∀ comment, survey.comment = some comment → tables.IsCommentedBy survey.room comment

/-- The tables grow, in the sense that what was is not forgotten. -/
structure Grows (before after : SurveyTables Token) : Prop where
  now : before.now ≤ after.now
  rooms : before.rooms.Extends after.rooms before.now
  invitations : before.invitations ⊆ after.invitations
  admissions : before.admissions ⊆ after.admissions

theorem Grows.refl (tables : SurveyTables Token) : tables.Grows tables where
  now := Nat.le_refl _
  rooms := .refl _ _
  invitations := List.Subset.refl _
  admissions := List.Subset.refl _

theorem WasClosed.grows {room project : Uuid} {time : Instant}
    (closed : tables.WasClosed room project time) (past : time ≤ tables.now)
    (grows : tables.Grows after) : after.WasClosed room project time := by
  rcases closed with ⟨number, row, inForce, stored, inProject, isClosed⟩
  refine ⟨number, row, grows.rooms.inForce number time past inForce, ?_, inProject, isClosed⟩
  rw [grows.rooms.state_eq number inForce.1]
  exact stored

theorem IsInvited.grows {request : SurveyRequest Token} {room project : Uuid}
    {authenticatedAt : Instant} (past : authenticatedAt ≤ tables.now)
    (invited : tables.IsInvited request room project authenticatedAt)
    (grows : tables.Grows after) : after.IsInvited request room project authenticatedAt := by
  rcases invited with
    ⟨invitation, member, ofRoom, ofProject, ofToken, issued, accepted, time, before, closed⟩
  have issuedBefore : time ≤ tables.now := before.trans (issued.trans past)
  exact ⟨invitation, grows.invitations member, ofRoom, ofProject, ofToken, issued, accepted, time,
    before, closed.grows issuedBefore grows⟩

theorem IsRightful.grows {admission : Admission Token} (rightful : tables.IsRightful admission)
    (grows : tables.Grows after) : after.IsRightful admission := by
  rcases rightful with ⟨project, invited, time, later, past, closed⟩
  exact ⟨project, invited.grows (later.trans past) grows, time, later, past.trans grows.now,
    closed.grows past grows⟩

theorem IsGiven.grows {survey : CSATSurvey} (given : tables.IsGiven survey)
    (grows : tables.Grows after) : after.IsGiven survey where
  rating := by
    intro rating rated
    rcases given.rating rating rated with ⟨inRange, admission, member, ofRoom, sent, rightful⟩
    exact ⟨inRange, admission, grows.admissions member, ofRoom, sent, rightful.grows grows⟩
  comment := by
    intro comment commented
    rcases given.comment comment commented with ⟨notBlank, admission, member, ofRoom, sent, rightful⟩
    exact ⟨notBlank, admission, grows.admissions member, ofRoom, sent, rightful.grows grows⟩

/-! ## The rooms of today -/

theorem wasClosed_now {room : Uuid} {row : SurveyedRoom} (present : tables.rooms.Until tables.now)
    (stored : tables.room room = some row) (closed : row.isActive = false) :
    tables.WasClosed room row.project tables.now :=
  ⟨tables.rooms.changes, row, present.inForce, stored, rfl, closed⟩

end SurveyTables

/-! ## The invariant -/

structure SurveyTables.Consistent (library : TokenLibrary Token) (tables : SurveyTables Token) :
    Prop where
  present : tables.rooms.Until tables.now
  issued : ∀ invitation ∈ tables.invitations,
    invitation.token =
        library.encode (tokenPayload invitation.issuedAt invitation.project invitation.room) ∧
      invitation.issuedAt ≤ tables.now ∧
        ∃ time ≤ invitation.issuedAt, tables.WasClosed invitation.room invitation.project time
  given : ∀ uuid survey, tables.surveys.lookup uuid = some survey →
    tables.IsGiven survey ∧ survey.rating.isSome
  oneOfRoom : ∀ uuid other survey otherSurvey, tables.surveys.lookup uuid = some survey →
    tables.surveys.lookup other = some otherSurvey → survey.room = otherSurvey.room → uuid = other

def SurveyStage.Known (tables : SurveyTables Token) : SurveyStage Token → Prop
  | .getting _ | .authenticating _ => True
  | .inviting room project => ∃ time ≤ tables.now, tables.WasClosed room project time
  | .permitting request claims authenticatedAt =>
      authenticatedAt ≤ tables.now ∧ ∃ room project, claims.room = some room ∧
        claims.project = some project ∧ tables.IsInvited request room project authenticatedAt
  | .checkingSurvey request room row authenticatedAt =>
      tables.IsInvited request room row.project authenticatedAt ∧
        ∃ time, authenticatedAt ≤ time ∧ time ≤ tables.now ∧
          (row.isActive = false → tables.WasClosed room row.project time)
  | .finding request room =>
      ∃ admission ∈ tables.admissions, admission.request = request ∧ admission.room = room ∧
        tables.IsRightful admission
  | .validating request room existing =>
      (∃ admission ∈ tables.admissions, admission.request = request ∧ admission.room = room ∧
        tables.IsRightful admission) ∧
        ∀ found ∈ existing, found.2.room = room ∧ tables.IsGiven found.2
  | .cleaning _ survey => tables.IsGiven survey
  | .validatingUnique _ survey | .saving _ survey =>
      tables.IsGiven survey ∧ survey.rating.isSome

theorem SurveyStage.Known.grows {stage : SurveyStage Token} (known : stage.Known tables)
    (grows : tables.Grows after) : stage.Known after := by
  have rightfulGrows : ∀ {request : SurveyRequest Token} {room : Uuid},
      (∃ admission ∈ tables.admissions, admission.request = request ∧ admission.room = room ∧
        tables.IsRightful admission) →
      ∃ admission ∈ after.admissions, admission.request = request ∧ admission.room = room ∧
        after.IsRightful admission := by
    rintro request room ⟨admission, member, ofRequest, ofRoom, rightful⟩
    exact ⟨admission, grows.admissions member, ofRequest, ofRoom, rightful.grows grows⟩
  cases stage with
  | getting _ | authenticating _ => trivial
  | inviting room project =>
      rcases known with ⟨time, past, closed⟩
      exact ⟨time, past.trans grows.now, closed.grows past grows⟩
  | permitting request claims authenticatedAt =>
      rcases known with ⟨past, room, project, ofRoom, ofProject, invited⟩
      exact ⟨past.trans grows.now, room, project, ofRoom, ofProject, invited.grows past grows⟩
  | checkingSurvey request room row authenticatedAt =>
      rcases known with ⟨invited, time, later, past, closed⟩
      exact ⟨invited.grows (later.trans past) grows, time, later, past.trans grows.now,
        fun isClosed => (closed isClosed).grows past grows⟩
  | finding request room => exact rightfulGrows known
  | validating request room existing =>
      exact ⟨rightfulGrows known.1, fun found isFound =>
        ⟨(known.2 found isFound).1, (known.2 found isFound).2.grows grows⟩⟩
  | cleaning _ survey => exact SurveyTables.IsGiven.grows known grows
  | validatingUnique _ survey | saving _ survey => exact ⟨known.1.grows grows, known.2⟩

/-! ## What is written -/

namespace SurveyTables.Consistent

theorem grows (consistent : tables.Consistent library) (grows : tables.Grows after)
    (present : after.rooms.Until after.now) (sameInvitations : after.invitations = tables.invitations)
    (kept : ∀ uuid survey, after.surveys.lookup uuid = some survey →
      tables.surveys.lookup uuid = some survey) : after.Consistent library where
  present := present
  issued := by
    intro invitation member
    rw [sameInvitations] at member
    rcases consistent.issued invitation member with ⟨ofToken, past, time, before, closed⟩
    exact ⟨ofToken, past.trans grows.now, time, before, closed.grows (before.trans past) grows⟩
  given := fun uuid survey stored =>
    have before := consistent.given uuid survey (kept uuid survey stored)
    ⟨before.1.grows grows, before.2⟩
  oneOfRoom := fun uuid other survey otherSurvey stored otherStored =>
    consistent.oneOfRoom uuid other survey otherSurvey (kept uuid survey stored)
      (kept other otherSurvey otherStored)

theorem invite (consistent : tables.Consistent library) {room project : Uuid} {time : Instant}
    (past : time ≤ tables.now) (closed : tables.WasClosed room project time) :
    (Csat.invite library tables room project).Consistent library ∧
      tables.Grows (Csat.invite library tables room project) := by
  have grows : tables.Grows (Csat.invite library tables room project) :=
    ⟨Nat.le_refl _, .refl _ _, List.subset_cons_self _ _, List.Subset.refl _⟩
  refine ⟨⟨consistent.present, ?_, ?_, consistent.oneOfRoom⟩, grows⟩
  · intro invitation member
    rcases List.mem_cons.mp member with rfl | old
    · exact ⟨rfl, Nat.le_refl _, time, past, closed.grows past grows⟩
    · rcases consistent.issued invitation old with ⟨ofToken, issued, time, before, closed⟩
      exact ⟨ofToken, issued, time, before, closed.grows (before.trans issued) grows⟩
  · intro uuid survey stored
    exact ⟨(consistent.given uuid survey stored).1.grows grows,
      (consistent.given uuid survey stored).2⟩

theorem addAdmission (consistent : tables.Consistent library) (admission : Admission Token) :
    SurveyTables.Consistent library
        { tables with admissions := admission :: tables.admissions } ∧
      tables.Grows { tables with admissions := admission :: tables.admissions } := by
  have grows : tables.Grows { tables with admissions := admission :: tables.admissions } :=
    ⟨Nat.le_refl _, .refl _ _, List.Subset.refl _, List.subset_cons_self _ _⟩
  exact ⟨consistent.grows grows consistent.present rfl fun _ _ stored => stored, grows⟩

theorem eq_of_not_isTaken {target : Option Uuid} {room uuid : Uuid} {survey : CSATSurvey}
    (free : ¬tables.isTaken target room) (stored : tables.surveys.lookup uuid = some survey)
    (ofRoom : survey.room = room) : some uuid = target := by
  by_contra other
  apply free
  rw [isTaken, List.any_eq_true]
  exact ⟨⟨uuid, survey⟩, Table.mem_entries_iff.mpr stored, by simp [ofRoom, other]⟩

theorem grows_store (tables : SurveyTables Token) (target : Option Uuid) (uuid : Uuid)
    (survey : CSATSurvey) : tables.Grows (tables.store target uuid survey) := by
  rw [store]
  split
  · exact .refl tables
  · exact ⟨Nat.le_refl _, .refl _ _, List.Subset.refl _, List.Subset.refl _⟩

theorem store (consistent : tables.Consistent library) {target : Option Uuid} {uuid : Uuid}
    {survey : CSATSurvey} (given : tables.IsGiven survey) (rated : survey.rating.isSome)
    (ofTarget : ∀ other, some other = target → other = uuid) :
    (tables.store target uuid survey).Consistent library := by
  have grows := grows_store tables target uuid survey
  rw [SurveyTables.store] at grows ⊢
  split
  · exact consistent
  · next allowed =>
      rw [if_neg allowed] at grows
      have free : ¬tables.isTaken target survey.room := fun taken => allowed (.inl taken)
      refine ⟨consistent.present, ?_, ?_, ?_⟩
      · intro invitation member
        rcases consistent.issued invitation member with ⟨ofToken, issued, time, before, closed⟩
        exact ⟨ofToken, issued, time, before, closed.grows (before.trans issued) grows⟩
      · intro other row stored
        rcases Table.lookup_insert_iff.mp stored with ⟨rfl, rfl⟩ | ⟨_, stored⟩
        · exact ⟨given.grows grows, rated⟩
        · exact ⟨(consistent.given other row stored).1.grows grows,
            (consistent.given other row stored).2⟩
      · intro left right leftRow rightRow leftStored rightStored same
        rcases Table.lookup_insert_iff.mp leftStored with ⟨rfl, rfl⟩ | ⟨_, leftOld⟩ <;>
          rcases Table.lookup_insert_iff.mp rightStored with ⟨rfl, rfl⟩ | ⟨_, rightOld⟩
        · rfl
        · exact (ofTarget right (eq_of_not_isTaken free rightOld same.symm)).symm
        · exact ofTarget left (eq_of_not_isTaken free leftOld same)
        · exact consistent.oneOfRoom left right leftRow rightRow leftOld rightOld same

theorem setRooms (consistent : tables.Consistent library) (rooms : Table Uuid SurveyedRoom) :
    (tables.setRooms rooms).Consistent library ∧ tables.Grows (tables.setRooms rooms) := by
  have grows : tables.Grows (tables.setRooms rooms) :=
    ⟨Nat.le_refl _, Timeline.extends_change _ _ _, List.Subset.refl _, List.Subset.refl _⟩
  exact ⟨consistent.grows grows (Timeline.until_change _ _) rfl fun _ _ stored => stored, grows⟩

theorem lookup_of_deleteRoom {room uuid : Uuid} {survey : CSATSurvey}
    (stored : (tables.deleteRoom room).surveys.lookup uuid = some survey) :
    tables.surveys.lookup uuid = some survey := by
  simp only [deleteRoom] at stored
  split at stored
  · exact stored
  · next deleted _ _ =>
      by_cases same : uuid = deleted
      · rw [same, AList.lookup_erase] at stored
        cases stored
      · rwa [AList.lookup_erase_ne same] at stored

theorem surround (consistent : tables.Consistent library) (event : SurveyAmbient) :
    (Csat.surround tables event).Consistent library ∧ tables.Grows (Csat.surround tables event) := by
  cases event with
  | tick passed =>
      have grows : tables.Grows { tables with now := tables.now + passed } :=
        ⟨Nat.le_add_right _ _, .refl _ _, List.Subset.refl _, List.Subset.refl _⟩
      exact ⟨consistent.grows grows (consistent.present.later (Nat.le_add_right _ _)) rfl
        fun _ _ stored => stored, grows⟩
  | saveRoom room row => exact consistent.setRooms _
  | deleteRoom room =>
      have grows : tables.Grows (tables.deleteRoom room) :=
        ⟨Nat.le_refl _, Timeline.extends_change _ _ _, List.Subset.refl _, List.Subset.refl _⟩
      exact ⟨consistent.grows grows (Timeline.until_change _ _) rfl
        fun _ _ stored => lookup_of_deleteRoom stored, grows⟩

end SurveyTables.Consistent

/-! ## What is read -/

theorem isInvited_of_decodes (lawful : library.Lawful) (consistent : tables.Consistent library)
    {request : SurveyRequest Token} {token : Token} {claims : SurveyClaims}
    (supplied : request.token = some token) (decodes : library.decode tables.now token = some claims)
    (handedOut : ∃ invitation ∈ tables.invitations, invitation.token = token) :
    ∃ room project, claims.room = some room ∧ claims.project = some project ∧
      tables.IsInvited request room project tables.now := by
  rcases handedOut with ⟨invitation, member, rfl⟩
  rcases consistent.issued invitation member with ⟨ofToken, issued, closed⟩
  rw [ofToken] at decodes
  have read : claims = tokenPayload invitation.issuedAt invitation.project invitation.room :=
    lawful.decode_encode decodes
  have early := lawful.unexpired decodes
  have accepted : tables.now < invitation.issuedAt + expiresIn :=
    Nat.lt_of_lt_of_le early (timestamp_mul_le (invitation.issuedAt + expiresIn))
  exact ⟨invitation.room, invitation.project, by rw [read, tokenPayload], by rw [read, tokenPayload],
    invitation, member, rfl, rfl, supplied, issued, accepted, closed⟩

theorem permittedRoom_eq_some {request : SurveyRequest Token} {claims : SurveyClaims}
    {found : Uuid × SurveyedRoom} (permitted : permittedRoom tables request claims = some found) :
    claims.room = some found.1 ∧ claims.project = some found.2.project ∧
      tables.room found.1 = some found.2 := by
  simp only [permittedRoom, Option.bind_eq_bind, Option.bind_eq_some_iff, Option.filter_eq_some_iff,
    decide_eq_true_eq, Option.pure_def, Option.some.injEq] at permitted
  rcases permitted with ⟨project, ofProject, room, ⟨_, ofClaims⟩, row, ⟨stored, inProject⟩, rfl⟩
  exact ⟨ofClaims.symm, by rw [ofProject, inProject], stored⟩

theorem surveyOf_eq_some {room : Uuid} {found : (_ : Uuid) × CSATSurvey}
    (isFound : tables.surveyOf room = some found) :
    tables.surveys.lookup found.1 = some found.2 ∧ found.2.room = room :=
  ⟨Table.mem_entries_iff.mp (List.mem_of_find?_eq_some isFound),
    by simpa using List.find?_some isFound⟩

theorem isGiven_validated {request : SurveyRequest Token} {room : Uuid}
    {existing : Option CSATSurvey} {survey : CSATSurvey} {now : Instant}
    (admitted : ∃ admission ∈ tables.admissions, admission.request = request ∧
      admission.room = room ∧ tables.IsRightful admission)
    (before : ∀ found ∈ existing, found.room = room ∧ tables.IsGiven found)
    (isValid : validated request room now existing = some survey) : tables.IsGiven survey := by
  rcases admitted with ⟨admission, member, rfl, ofRoom, rightful⟩
  simp only [validated, Option.bind_eq_bind, Option.bind_eq_some_iff, Option.pure_def,
    Option.some.injEq] at isValid
  rcases isValid with ⟨rating, validRating, comment, validComment, answeredOn, _, rfl⟩
  refine ⟨fun given isGiven => ?_, fun given isGiven => ?_⟩
  · unfold validateRating at validRating
    split at validRating
    · split at validRating
      · cases validRating
        rcases Option.bind_eq_some_iff.mp isGiven with ⟨found, isFound, old⟩
        have old := (before found isFound).2.rating given old
        rwa [(before found isFound).1] at old
      · cases validRating
    · split at validRating
      · cases validRating
        cases isGiven
      · cases validRating
    · split at validRating
      · next sent inRange =>
          cases validRating
          cases isGiven
          exact ⟨inRange, admission, member, ofRoom, sent, rightful⟩
      · cases validRating
    · cases validRating
  · unfold validateComment at validComment
    split at validComment
    · cases validComment
      rcases Option.bind_eq_some_iff.mp isGiven with ⟨found, isFound, old⟩
      have old := (before found isFound).2.comment given old
      rwa [(before found isFound).1] at old
    · cases validComment
      cases isGiven
    · split at validComment
      · cases validComment
      · next sent notBlank =>
          cases validComment
          cases isGiven
          exact ⟨notBlank, admission, member, ofRoom, ⟨_, sent, rfl⟩, rightful⟩
    · cases validComment

/-! ## The run -/

def SurveyStage.IsHandedOut (library : TokenLibrary Token) (tables : SurveyTables Token) :
    SurveyStage Token → Prop
  | .authenticating request =>
      match request.token with
      | none => True
      | some token => (library.decode tables.now token).isSome →
          ∃ invitation ∈ tables.invitations, invitation.token = token
  | _ => True

instance [DecidableEq Token] (tables : SurveyTables Token) (stage : SurveyStage Token) :
    Decidable (stage.IsHandedOut library tables) := by
  unfold SurveyStage.IsHandedOut
  split
  · split <;> infer_instance
  · infer_instance

/-- What a statement that ends with `after` has to leave behind. -/
structure Keeps (library : TokenLibrary Token) (tables after : SurveyTables Token)
    (rest : Option (SurveyStage Token)) : Prop where
  consistent : after.Consistent library
  grows : tables.Grows after
  rest : ∀ remaining, rest = some remaining → remaining.Known after

theorem Keeps.read {rest : Option (SurveyStage Token)} (consistent : tables.Consistent library)
    (known : ∀ remaining, rest = some remaining → remaining.Known tables) :
    Keeps library tables tables rest :=
  ⟨consistent, .refl tables, known⟩

theorem Keeps.stop (consistent : tables.Consistent library) : Keeps library tables tables none :=
  .read consistent fun _ isRest => by cases isRest

theorem keeps_store (consistent : tables.Consistent library) {target : Option Uuid} {uuid : Uuid}
    {survey : CSATSurvey} (given : tables.IsGiven survey) (rated : survey.rating.isSome)
    (ofTarget : ∀ other, some other = target → other = uuid) :
    Keeps library tables (tables.store target uuid survey) none :=
  ⟨consistent.store given rated ofTarget, SurveyTables.Consistent.grows_store _ _ _ _,
    fun _ isRest => by cases isRest⟩

theorem Keeps.issue (keeps : Keeps library tables after none) (issued : List Uuid) :
    Keeps library tables { after with issued } none where
  consistent := keeps.consistent.grows
    ⟨Nat.le_refl _, .refl _ _, List.Subset.refl _, List.Subset.refl _⟩ keeps.consistent.present rfl
    fun _ _ stored => stored
  grows := ⟨keeps.grows.now, keeps.grows.rooms, keeps.grows.invitations, keeps.grows.admissions⟩
  rest := fun _ isRest => by cases isRest

namespace SurveyStage

variable {request : SurveyRequest Token} {claims : SurveyClaims} {room : Uuid}
  {row : SurveyedRoom} {authenticatedAt : Instant}

theorem known_permitting (lawful : library.Lawful) (consistent : tables.Consistent library)
    (handedOut : (SurveyStage.authenticating request).IsHandedOut library tables)
    (decodes : request.token.bind (library.decode tables.now) = some claims) :
    (SurveyStage.permitting request claims tables.now).Known tables := by
  rcases Option.bind_eq_some_iff.mp decodes with ⟨token, supplied, decoded⟩
  simp only [IsHandedOut, supplied, decoded, Option.isSome_some, forall_const] at handedOut
  exact ⟨Nat.le_refl _, isInvited_of_decodes lawful consistent supplied decoded handedOut⟩

theorem known_checkingSurvey (consistent : tables.Consistent library)
    (known : (SurveyStage.permitting request claims authenticatedAt).Known tables)
    (permitted : permittedRoom tables request claims = some (room, row)) :
    (SurveyStage.checkingSurvey request room row authenticatedAt).Known tables := by
  rcases permittedRoom_eq_some permitted with ⟨ofRoom, ofProject, stored⟩
  rcases known with ⟨past, invitedRoom, project, sameRoom, sameProject, invited⟩
  cases Option.some.inj (ofRoom.symm.trans sameRoom)
  cases Option.some.inj (ofProject.symm.trans sameProject)
  exact ⟨invited, tables.now, past, Nat.le_refl _,
    SurveyTables.wasClosed_now consistent.present stored⟩

theorem Known.isRightful
    (known : (SurveyStage.checkingSurvey request room row authenticatedAt).Known tables)
    (isClosed : row.isActive = false) : tables.IsRightful ⟨request, room, authenticatedAt⟩ := by
  rcases known with ⟨invited, time, later, past, closed⟩
  exact ⟨row.project, invited, time, later, past, closed isClosed⟩

end SurveyStage

variable {stage : SurveyStage Token} {rest : Option (SurveyStage Token)}

theorem keeps_of_proceed (lawful : library.Lawful) (consistent : tables.Consistent library)
    (known : stage.Known tables) (handedOut : stage.IsHandedOut library tables)
    (proceeds : proceed library tables stage = some (after, rest)) :
    Keeps library tables after rest := by
  cases stage with
  | getting room =>
      simp only [proceed] at proceeds
      split at proceeds
      · cases proceeds
        exact .stop consistent
      · next row stored =>
          split at proceeds
          · cases proceeds
            exact .stop consistent
          · next closed =>
              cases proceeds
              refine .read consistent ?_
              rintro remaining ⟨⟩
              exact ⟨tables.now, Nat.le_refl _, SurveyTables.wasClosed_now consistent.present stored
                (Bool.eq_false_iff.mpr closed)⟩
  | inviting room project =>
      cases proceeds
      rcases known with ⟨time, past, closed⟩
      rcases consistent.invite past closed with ⟨invited, grows⟩
      exact ⟨invited, grows, fun _ isRest => by cases isRest⟩
  | authenticating request =>
      cases proceeds
      refine .read consistent fun remaining isRest => ?_
      rcases Option.map_eq_some_iff.mp isRest with ⟨claims, decodes, rfl⟩
      exact SurveyStage.known_permitting lawful consistent handedOut decodes
  | permitting request claims authenticatedAt =>
      cases proceeds
      refine .read consistent fun remaining isRest => ?_
      rcases Option.map_eq_some_iff.mp isRest with ⟨found, permitted, rfl⟩
      exact SurveyStage.known_checkingSurvey consistent known permitted
  | checkingSurvey request room row authenticatedAt =>
      simp only [proceed] at proceeds
      split at proceeds
      · cases proceeds
        exact .stop consistent
      · next permitted =>
          cases proceeds
          have isClosed : row.isActive = false := by
            cases isActive : row.isActive with
            | false => rfl
            | true => simp [isActive] at permitted
          have rightful : tables.IsRightful ⟨request, room, authenticatedAt⟩ :=
            known.isRightful isClosed
          rcases consistent.addAdmission ⟨request, room, authenticatedAt⟩ with ⟨admitted, grows⟩
          refine ⟨admitted, grows, ?_⟩
          rintro remaining ⟨⟩
          exact ⟨_, List.mem_cons_self, rfl, rfl, rightful.grows grows⟩
  | finding request room =>
      cases proceeds
      refine .read consistent ?_
      rintro remaining ⟨⟩
      refine ⟨known, fun found isFound => ?_⟩
      rcases surveyOf_eq_some isFound with ⟨stored, ofRoom⟩
      exact ⟨ofRoom, (consistent.given _ _ stored).1⟩
  | validating request room existing =>
      simp only [proceed] at proceeds
      split at proceeds
      · cases proceeds
        exact .stop consistent
      · cases proceeds
        refine .read consistent fun remaining isRest => ?_
        rcases Option.map_eq_some_iff.mp isRest with ⟨survey, isValid, rfl⟩
        refine isGiven_validated known.1 (fun found isFound => ?_) isValid
        rcases Option.map_eq_some_iff.mp isFound with ⟨entry, isEntry, rfl⟩
        exact known.2 entry isEntry
  | cleaning target survey =>
      simp only [proceed] at proceeds
      split at proceeds
      · cases proceeds
        exact .stop consistent
      · next clean =>
          cases proceeds
          refine .read consistent ?_
          rintro remaining ⟨⟩
          refine ⟨known, ?_⟩
          cases rating : survey.rating with
          | none => simp [rating] at clean
          | some _ => rfl
  | validatingUnique target survey =>
      simp only [proceed] at proceeds
      split at proceeds
      · cases proceeds
        exact .stop consistent
      · cases proceeds
        refine .read consistent ?_
        rintro remaining ⟨⟩
        exact known
  | saving target survey =>
      cases target with
      | none => cases proceeds
      | some uuid =>
          cases proceeds
          exact keeps_store consistent known.1 known.2 fun other same => Option.some.inj same

theorem keeps_of_advance (lawful : library.Lawful) (consistent : tables.Consistent library)
    (known : stage.Known tables) (handedOut : stage.IsHandedOut library tables)
    {choice : SurveyChoice} (advanced : advance library tables stage choice = some (after, rest)) :
    Keeps library tables after rest := by
  cases choice with
  | returns => exact keeps_of_proceed lawful consistent known handedOut advanced
  | raises =>
      cases advanced
      exact .stop consistent
  | creates uuid =>
      cases stage with
      | saving target survey =>
          cases target with
          | some _ => cases advanced
          | none =>
              simp only [advance] at advanced
              split at advanced
              · cases advanced
              · cases advanced
                exact (keeps_store consistent known.1 known.2 fun other same => by cases same).issue _
      | _ => cases advanced

variable {Pid : Type}

def Unforgeable (library : TokenLibrary Token) (pool : SurveyPool Pid Token) :
    SurveyEvent Pid Token → Prop :=
  pool.OwnStep fun tables stage _ => stage.IsHandedOut library tables

instance [DecidableEq Token] (pool : SurveyPool Pid Token) (event : SurveyEvent Pid Token) :
    Decidable (Unforgeable library pool event) :=
  inferInstanceAs (Decidable (pool.OwnStep _ event))

def surveyOutline (lawful : library.Lawful) (Pid : Type) :
    Outline (surveyProgram library)
      (Unforgeable library : SurveyPool Pid Token → SurveyEvent Pid Token → Prop) where
  Invariant := SurveyTables.Consistent library
  Assertion := fun tables stage => stage.Known tables
  Guarantee := SurveyTables.Grows
  enter := fun {_ task} _ => by cases task <;> trivial
  advance := by
    intro pool pid choice locals shared rest meets running consistent known advanced
    have keeps : Keeps library pool.shared shared rest :=
      keeps_of_advance lawful consistent known (Pool.OwnStep.allowed meets running) advanced
    exact ⟨keeps.consistent, keeps.grows, keeps.rest⟩
  surround := by
    intro pool event shared _ consistent surrounded
    cases surrounded
    exact consistent.surround event
  stable := fun grows known => SurveyStage.Known.grows known grows

theorem consistent_start (library : TokenLibrary Token) (now : Instant)
    (rooms : Table Uuid SurveyedRoom) :
    (SurveyTables.start now rooms : SurveyTables Token).Consistent library where
  present := Timeline.until_start now rooms
  issued := fun _ member => by cases member
  given := fun _ _ stored => by cases stored
  oneOfRoom := fun _ _ _ _ stored => by cases stored

/-- What is stored was given by rightful requests, and a room has one survey at most. -/
structure SurveysAreInvited (tables : SurveyTables Token) : Prop where
  rated : ∀ uuid survey, tables.surveys.lookup uuid = some survey →
    ∃ rating, survey.rating = some rating ∧ tables.IsRatedBy survey.room rating
  commented : ∀ uuid survey comment, tables.surveys.lookup uuid = some survey →
    survey.comment = some comment → tables.IsCommentedBy survey.room comment
  oneOfRoom : ∀ uuid other survey otherSurvey, tables.surveys.lookup uuid = some survey →
    tables.surveys.lookup other = some otherSurvey → survey.room = otherSurvey.room → uuid = other

/-- Every survey was given by contacts who were invited after their room had been closed, by
requests of the next 24 hours that found it closed. -/
theorem surveys_are_invited [DecidableEq Pid] (lawful : library.Lawful) {now : Instant}
    {rooms : Table Uuid SurveyedRoom} {pool : SurveyPool Pid Token}
    (reaches : (surveyProgram library).machine.Reaches (Unforgeable library)
      (Pool.idle (.start now rooms)) pool) : SurveysAreInvited pool.shared := by
  have consistent : pool.shared.Consistent library :=
    ((surveyOutline lawful Pid).holds_of_reaches reaches
      ((surveyOutline lawful Pid).holds_idle (consistent_start library now rooms))).shared
  refine ⟨fun uuid survey stored => ?_, fun uuid survey comment stored => ?_, consistent.oneOfRoom⟩
  · rcases Option.isSome_iff_exists.mp (consistent.given uuid survey stored).2 with ⟨rating, rated⟩
    exact ⟨rating, rated, (consistent.given uuid survey stored).1.rating rating rated⟩
  · exact (consistent.given uuid survey stored).1.comment comment

end Invited

/-! ## A survey -/

def plainTokens : TokenLibrary SurveyClaims where
  encode := id
  decode := fun now claims =>
    if claims.iat * microsecondsOfSecond ≤ now ∧ claims.nbf * microsecondsOfSecond ≤ now ∧
        now < claims.exp * microsecondsOfSecond then
      some claims
    else none

theorem plainTokens_lawful : plainTokens.Lawful where
  decode_encode := by
    intro now claims read decoded
    simp only [plainTokens, id_eq, Option.ite_none_right_eq_some, Option.some.injEq] at decoded
    exact decoded.2.symm
  unexpired := by
    intro now claims read decoded
    simp only [plainTokens, id_eq, Option.ite_none_right_eq_some] at decoded
    exact decoded.1.2.2

/-- A request with four stars, and `" ok "` as the comment. -/
def fourStars : SurveyRequest SurveyClaims where
  token := some (tokenPayload 5000000 7 1)
  room := some 1
  rating := .value 4
  comment := .value [32, 111, 107, 32]
  answeredOn := .missing

def fourStarsEvents : List (SurveyEvent Bool SurveyClaims) :=
  [.surround (.tick 5000000), .surround (.saveRoom 1 ⟨7, false⟩), .start false (.startFlow 1),
    .advance false .returns, .advance false .returns, .surround (.tick 1000),
    .start true (.answer fourStars), .advance true .returns, .advance true .returns,
    .advance true .returns, .advance true .returns, .advance true .returns,
    .advance true .returns, .advance true .returns, .advance true (.creates 30)]

theorem four_stars_are_invited :
    ∃ pool : SurveyPool Bool SurveyClaims,
      pool.shared.surveys.lookup 30 = some ⟨1, some 4, some [111, 107], 5001000⟩ ∧
        SurveysAreInvited pool.shared := by
  have ends : ((surveyProgram plainTokens).machine.runMeeting (Unforgeable plainTokens)
      (Pool.idle (.start 0 (AList.singleton 1 ⟨7, true⟩))) fourStarsEvents).map
        (fun pool => pool.shared.surveys.lookup 30) =
      some (some ⟨1, some 4, some [111, 107], 5001000⟩) := by
    decide +kernel
  rcases Option.map_eq_some_iff.mp ends with ⟨pool, ran, stored⟩
  exact ⟨pool, stored, surveys_are_invited plainTokens_lawful (.of_runMeeting ran)⟩

end ChatsEngine.Csat
