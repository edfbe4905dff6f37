import ChatsEngine.Core.Types
import ChatsEngine.Foundation.Pool
import ChatsEngine.Foundation.Table
import ChatsEngine.Foundation.Timeline
import ChatsEngine.Rooms.RoomExport

/-! # Satisfaction surveys

When a room is closed, a task signs a token for it and hands the token to the flow that asks the
contact for a rating. The flow answers to a webhook, as often as it likes, with the token. Tasks
and requests run concurrently, and rooms change under them. -/

namespace ChatsEngine.Csat

open JsonText

/-! ## Rows -/

structure SurveyedRoom where
  project : Uuid
  isActive : Bool
deriving DecidableEq, Repr

structure CSATSurvey where
  room : Uuid
  rating : Option Int
  comment : Option Text
  answeredOn : Instant
deriving DecidableEq, Repr

def CSATSurvey.isCompleted (survey : CSATSurvey) : Bool :=
  survey.rating.isSome && survey.comment.isSome

/-- `MinValueValidator(1)` and `MaxValueValidator(5)` -/
def IsRating (rating : Int) : Prop :=
  1 ≤ rating ∧ rating ≤ 5

instance : DecidablePred IsRating :=
  fun _ => inferInstanceAs (Decidable (_ ∧ _))

/-! ## Tokens -/

/-- The payload of a token. The timestamps are in seconds. -/
structure SurveyClaims where
  project : Option Uuid
  room : Option Uuid
  iat : Nat
  exp : Nat
  nbf : Nat
deriving DecidableEq, Repr

def microsecondsOfSecond : Nat := 1000000

/-- `timedelta(hours=24)` -/
def expiresIn : Nat := 24 * 60 * 60 * microsecondsOfSecond

def timestamp (instant : Instant) : Nat := instant / microsecondsOfSecond

theorem timestamp_mul_le (instant : Instant) :
    timestamp instant * microsecondsOfSecond ≤ instant :=
  Nat.div_mul_le_self _ _

/-- The payload that `generate_token` signs. -/
def tokenPayload (issuedAt : Instant) (project room : Uuid) : SurveyClaims where
  project := some project
  room := some room
  iat := timestamp issuedAt
  exp := timestamp (issuedAt + expiresIn)
  nbf := timestamp issuedAt

/-- `jwt.encode` and `jwt.decode` with the secret key. -/
structure TokenLibrary (Token : Type) where
  encode : SurveyClaims → Token
  decode : Instant → Token → Option SurveyClaims

/-- What is read back is what was signed, and it has not expired. -/
structure TokenLibrary.Lawful {Token : Type} (library : TokenLibrary Token) : Prop where
  decode_encode : ∀ {now claims read}, library.decode now (library.encode claims) = some read →
    read = claims
  unexpired : ∀ {now claims read}, library.decode now (library.encode claims) = some read →
    now < claims.exp * microsecondsOfSecond

structure Invitation (Token : Type) where
  project : Uuid
  room : Uuid
  token : Token
  issuedAt : Instant
deriving DecidableEq, Repr

/-! ## The data of a request -/

/-- What a request says about a field: what its field class cannot convert is malformed. -/
inductive Supplied (α : Type)
  | missing
  | null
  | value (value : α)
  | malformed
deriving DecidableEq, Repr

structure SurveyRequest (Token : Type) where
  /-- The token of the `Authorization` header, where this begins with `Token `. -/
  token : Option Token
  room : Option Uuid
  rating : Supplied Int
  comment : Supplied Text
  answeredOn : Supplied Instant
deriving DecidableEq, Repr

/-- A validated attribute: none where the attributes do not have it. -/
abbrev Attribute (α : Type) := Option (Option α)

/-- The `rating` of `CreateCSATWebhookSerializer`, or of `UpdateCSATWebhookSerializer`. -/
def validateRating (isUpdate : Bool) : Supplied Int → Option (Attribute Int)
  | .missing => if isUpdate then some none else none
  | .null => if isUpdate then some (some none) else none
  | .value rating => if IsRating rating then some (some (some rating)) else none
  | .malformed => none

/-- The `comment` of both: `CharField` strips what it is given, and refuses a blank text. -/
def validateComment : Supplied Text → Option (Attribute Text)
  | .missing => some none
  | .null => some (some none)
  | .value comment =>
      if Rooms.RoomExport.strip comment = [] then none
      else some (some (some (Rooms.RoomExport.strip comment)))
  | .malformed => none

/-- The `answered_on` of both, with what `validate` puts in its place. -/
def validateAnsweredOn (now : Instant) : Supplied Instant → Option Instant
  | .missing | .null => some now
  | .value answeredOn => some answeredOn
  | .malformed => none

/-- The instance that the serializer is about to save: a new survey, or the one that was found. -/
def validated {Token : Type} (request : SurveyRequest Token) (room : Uuid) (now : Instant)
    (existing : Option CSATSurvey) : Option CSATSurvey := do
  let rating ← validateRating existing.isSome request.rating
  let comment ← validateComment request.comment
  let answeredOn ← validateAnsweredOn now request.answeredOn
  return {
    room := room
    rating := rating.getD (existing.bind (·.rating))
    comment := comment.getD (existing.bind (·.comment))
    answeredOn := answeredOn }

/-! ## Tables -/

/-- A request that passed the permission for a room, with the instant of its authentication. -/
structure Admission (Token : Type) where
  request : SurveyRequest Token
  room : Uuid
  authenticatedAt : Instant
deriving DecidableEq, Repr

structure SurveyTables (Token : Type) where
  now : Instant
  rooms : Timeline (Table Uuid SurveyedRoom)
  surveys : Table Uuid CSATSurvey
  /-- The uuids that rows have been given. -/
  issued : List Uuid
  invitations : List (Invitation Token)
  admissions : List (Admission Token)

namespace SurveyTables

variable {Token : Type}

def start (now : Instant) (rooms : Table Uuid SurveyedRoom) : SurveyTables Token where
  now := now
  rooms := .start now rooms
  surveys := ∅
  issued := []
  invitations := []
  admissions := []

def room (tables : SurveyTables Token) (uuid : Uuid) : Option SurveyedRoom :=
  tables.rooms.current.lookup uuid

/-- `CSATSurvey.objects.filter(room_id=room).first()` -/
def surveyOf (tables : SurveyTables Token) (room : Uuid) : Option ((_ : Uuid) × CSATSurvey) :=
  tables.surveys.entries.find? fun entry => entry.2.room = room

def isTaken (tables : SurveyTables Token) (target : Option Uuid) (room : Uuid) : Bool :=
  tables.surveys.entries.any fun entry => entry.2.room = room ∧ some entry.1 ≠ target

/-- The row as it is written, unless a constraint of the database refuses it. -/
def store (tables : SurveyTables Token) (target : Option Uuid) (uuid : Uuid)
    (survey : CSATSurvey) : SurveyTables Token :=
  if tables.isTaken target survey.room ∨ tables.room survey.room = none then tables
  else { tables with surveys := tables.surveys.insert uuid survey }

def setRooms (tables : SurveyTables Token) (rooms : Table Uuid SurveyedRoom) :
    SurveyTables Token :=
  { tables with rooms := tables.rooms.change tables.now rooms }

/-- The survey of a room is deleted with it. -/
def deleteRoom (tables : SurveyTables Token) (room : Uuid) : SurveyTables Token :=
  { tables.setRooms (tables.rooms.current.erase room) with
    surveys := match tables.surveyOf room with
      | none => tables.surveys
      | some ⟨uuid, _⟩ => tables.surveys.erase uuid }

end SurveyTables

/-! ## Processes -/

/-- The next statement of a process, with what it has read. -/
inductive SurveyStage (Token : Type)
  /-- `start_csat_flow` -/
  | getting (room : Uuid)
  | inviting (room project : Uuid)
  /-- `CSATJWTAuthentication` -/
  | authenticating (request : SurveyRequest Token)
  /-- `CSATWebhookPermission` -/
  | permitting (request : SurveyRequest Token) (claims : SurveyClaims)
      (authenticatedAt : Instant)
  | checkingSurvey (request : SurveyRequest Token) (room : Uuid) (row : SurveyedRoom)
      (authenticatedAt : Instant)
  /-- `CSATWebhookView.create` -/
  | finding (request : SurveyRequest Token) (room : Uuid)
  | validating (request : SurveyRequest Token) (room : Uuid)
      (existing : Option ((_ : Uuid) × CSATSurvey))
  /-- `full_clean` and `save` of a new instance, or of the one with the uuid. -/
  | cleaning (target : Option Uuid) (survey : CSATSurvey)
  | validatingUnique (target : Option Uuid) (survey : CSATSurvey)
  | saving (target : Option Uuid) (survey : CSATSurvey)
deriving DecidableEq

inductive SurveyTask (Token : Type)
  | startFlow (room : Uuid)
  | answer (request : SurveyRequest Token)
deriving DecidableEq, Repr

inductive SurveyChoice
  | returns
  | raises
  /-- The uuid that `uuid4` draws, which no row has had. -/
  | creates (uuid : Uuid)
deriving DecidableEq, Repr

inductive SurveyAmbient
  | tick (passed : Nat)
  | saveRoom (room : Uuid) (row : SurveyedRoom)
  | deleteRoom (room : Uuid)
deriving DecidableEq, Repr

section Program

variable {Token : Type} (library : TokenLibrary Token)

def enter : SurveyTask Token → SurveyStage Token
  | .startFlow room => .getting room
  | .answer request => .authenticating request

/-- `start_flow` with a token that is generated for it. -/
def invite (tables : SurveyTables Token) (room project : Uuid) : SurveyTables Token :=
  { tables with
    invitations := {
      project := project
      room := room
      token := library.encode (tokenPayload tables.now project room)
      issuedAt := tables.now } :: tables.invitations }

/-- The room of the request, where the token was signed for it and it is in the project of the
token. -/
def permittedRoom (tables : SurveyTables Token) (request : SurveyRequest Token)
    (claims : SurveyClaims) : Option (Uuid × SurveyedRoom) := do
  let project ← claims.project
  let room ← request.room.filter (some · = claims.room)
  let row ← (tables.room room).filter (·.project = project)
  return (room, row)

def proceed (tables : SurveyTables Token) :
    SurveyStage Token → Option (SurveyTables Token × Option (SurveyStage Token))
  | .getting room =>
      match tables.room room with
      | none => some (tables, none)
      | some row =>
          if row.isActive then some (tables, none)
          else some (tables, some (.inviting room row.project))
  | .inviting room project => some (invite library tables room project, none)
  | .authenticating request =>
      some (tables, (request.token.bind (library.decode tables.now)).map
        (.permitting request · tables.now))
  | .permitting request claims authenticatedAt =>
      some (tables, (permittedRoom tables request claims).map fun found =>
        .checkingSurvey request found.1 found.2 authenticatedAt)
  | .checkingSurvey request room row authenticatedAt =>
      if row.isActive || (tables.surveyOf room).any (·.2.isCompleted) then some (tables, none)
      else
        some ({ tables with admissions := ⟨request, room, authenticatedAt⟩ :: tables.admissions },
          some (.finding request room))
  | .finding request room => some (tables, some (.validating request room (tables.surveyOf room)))
  | .validating request room existing =>
      if tables.room room = none then some (tables, none)
      else
        some (tables, (validated request room tables.now (existing.map (·.2))).map
          (.cleaning (existing.map (·.1))))
  | .cleaning target survey =>
      if tables.room survey.room = none ∨ ¬survey.rating.any (IsRating ·) then some (tables, none)
      else some (tables, some (.validatingUnique target survey))
  | .validatingUnique target survey =>
      if tables.isTaken target survey.room then some (tables, none)
      else some (tables, some (.saving target survey))
  | .saving (some uuid) survey => some (tables.store (some uuid) uuid survey, none)
  | .saving none _ => none

def advance (tables : SurveyTables Token) (stage : SurveyStage Token) :
    SurveyChoice → Option (SurveyTables Token × Option (SurveyStage Token))
  | .returns => proceed library tables stage
  | .raises => some (tables, none)
  | .creates uuid =>
      match stage with
      | .saving none survey =>
          if uuid ∈ tables.issued then none
          else some ({ tables.store none uuid survey with issued := uuid :: tables.issued }, none)
      | _ => none

def surround (tables : SurveyTables Token) : SurveyAmbient → SurveyTables Token
  | .tick passed => { tables with now := tables.now + passed }
  | .saveRoom room row => tables.setRooms (tables.rooms.current.insert room row)
  | .deleteRoom room => tables.deleteRoom room

def surveyProgram :
    Program (SurveyTables Token) (SurveyStage Token) (SurveyTask Token) SurveyChoice
      SurveyAmbient where
  enter := enter
  advance := advance library
  surround := fun tables event => some (surround tables event)

end Program

abbrev SurveyPool (Pid Token : Type) := Pool Pid (SurveyTables Token) (SurveyStage Token)

abbrev SurveyEvent (Pid Token : Type) :=
  PoolEvent Pid (SurveyTask Token) SurveyChoice SurveyAmbient

end ChatsEngine.Csat
