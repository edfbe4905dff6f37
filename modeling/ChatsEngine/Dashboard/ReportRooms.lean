import ChatsEngine.Dashboard.MetricGoals
import ChatsEngine.Foundation.NumberedParts

/-! # The rooms of a report

A custom report selects rooms by filters and columns by the names of fields. The query
joins the rooms with their tags if a filter or a field asks for tags, and then lists a room
once for each of them. -/

namespace ChatsEngine.Dashboard

/-! ## Configurations -/

/-- The name of a field, split at its double underscores. -/
abbrev FieldPath := List String

inductive FilterItem
  | text (text : String)
  | object (uuid value : Option String)
  deriving DecidableEq, Repr

/-- The value of a filter, if it is not empty. An object has one of several keys. -/
inductive FilterValue
  | items (items : List FilterItem)
  | emails (emails : List String)
  | uuids (uuids : List String)
  | uuid (uuid : String)
  | value (value : String)
  | otherObject
  | text (text : String)
  deriving DecidableEq, Repr

/-- The value of `fields`, if it is not empty. -/
inductive FieldsValue
  | list (fields : List FieldPath)
  | other
  deriving DecidableEq, Repr

/-- The configuration of the table `rooms`. -/
structure RoomsConfig where
  fields : Option FieldsValue
  startDate : Option String
  endDate : Option String
  openChats : Bool
  closedChats : Bool
  uuids : Option (List String)
  sectors : Option FilterValue
  sector : Option FilterValue
  queues : Option FilterValue
  queue : Option FilterValue
  agents : Option FilterValue
  agent : Option FilterValue
  tags : Option FilterValue
  tag : Option FilterValue
  deriving DecidableEq, Repr

/-- What the libraries make of a text. -/
structure ReportTexts where
  uuid : String → Option Uuid
  /-- The instant of a date in the time zone of the project. -/
  instant : String → Option Int
  lower : String → String

/-! ## Filters -/

def stripLeft (chars : List Char) : List Char := chars.dropWhile Char.isWhitespace

def strip (text : String) : String :=
  String.ofList (stripLeft (stripLeft text.toList).reverse).reverse

def isAllFilter (values : List String) : Bool := values.any fun value => strip value = "__all__"

def orAll (values : List String) : List String := if isAllFilter values then [] else values

/-- `item.get("uuid") or item.get("value", "")`. -/
def FilterItem.str : FilterItem → String
  | .text own => own
  | .object uuid value =>
      match uuid.filter (· ≠ "") with
      | some own => own
      | none => value.getD ""

def normalizeFilterValue (texts : ReportTexts) : Option FilterValue → List String
  | none => []
  | some (.items items) => orAll (items.map FilterItem.str)
  | some (.emails emails) =>
      orAll ((emails.filter (· ≠ "")).map fun email => texts.lower (strip email))
  | some (.uuids uuids) => orAll uuids
  | some (.uuid uuid) => orAll [uuid]
  | some (.value value) => orAll [value]
  | some .otherObject => []
  | some (.text text) => orAll [text]

/-- The period of a report, and what of a room has to be within it. -/
inductive Period
  | openedOrClosed (first last : Int)
  | opened (first last : Int)
  | closed (first last : Int)
  deriving DecidableEq, Repr

/-- A query with the filters that have been read. An empty list does not filter. -/
structure RoomsQuery where
  fields : List FieldPath
  uuids : List Uuid
  period : Option Period
  sectors : List Uuid
  queues : List Uuid
  agents : List UserEmail
  tags : List Uuid
  deriving DecidableEq, Repr

/-- The fields of rooms that `ModelFieldsPresenter` knows. -/
def roomsFields : List FieldPath :=
  [["user", "first_name"], ["user", "last_name"], ["user", "email"], ["queue", "sector", "name"],
    ["queue", "name"], ["is_active"], ["protocol"], ["tags"], ["created_on"], ["ended_at"],
    ["full_transfer_history"], ["contact", "name"], ["contact", "uuid"], ["urn"],
    ["custom_fields"], ["metric", "waiting_time"], ["metric", "first_response_time"],
    ["metric", "message_response_time"], ["metric", "interaction_time"]]

/-- A field, or a path that begins with one. -/
def IsValidField (field : FieldPath) : Prop :=
  field ∈ roomsFields ∨ 1 < field.length ∧ field.take 1 ∈ roomsFields

instance : DecidablePred IsValidField :=
  fun field => inferInstanceAs (Decidable (_ ∨ 1 < field.length ∧ _))

/-- `_validate_and_process_fields`, up to the order of the columns. -/
def processFields : Option FieldsValue → Option (List FieldPath)
  | none => some []
  | some .other => some []
  | some (.list fields) => if ∀ field ∈ fields, IsValidField field then some fields else none

/-- `_apply_date_filters`. The state of the chats only counts together with dates. -/
def readPeriod (texts : ReportTexts) (config : RoomsConfig) : Option (Option Period) :=
  match config.startDate.filter (· ≠ ""), config.endDate.filter (· ≠ "") with
  | some startDate, some endDate =>
      (texts.instant startDate).bind fun first =>
        (texts.instant (endDate ++ " 23:59:59")).map fun last =>
          if config.openChats then some (.opened first last)
          else if config.closedChats then some (.closed first last)
          else some (.openedOrClosed first last)
  | _, _ => some none

def readUuids (texts : ReportTexts) (values : List String) : Option (List Uuid) :=
  values.mapM texts.uuid

def normalizeEither (texts : ReportTexts) (plural singular : Option FilterValue) : List String :=
  normalizeFilterValue texts (plural.or singular)

/-- The checks and the filters of `_process_model_fields`. It fails with an exception. -/
def processModelFields (texts : ReportTexts) (config : RoomsConfig) : Option RoomsQuery :=
  (processFields config.fields).bind fun fields =>
    let listed := config.uuids.getD []
    (readUuids texts (if "__all__" ∈ listed then [] else listed)).bind fun uuids =>
      if config.openChats ∧ config.closedChats then none
      else
        (readPeriod texts config).bind fun period =>
          (readUuids texts (normalizeEither texts config.sectors config.sector)).bind fun sectors =>
            (readUuids texts (normalizeEither texts config.queues config.queue)).bind fun queues =>
              (readUuids texts (normalizeEither texts config.tags config.tag)).map fun tags =>
                { fields, uuids, period, sectors, queues, tags
                  agents := normalizeEither texts config.agents config.agent }

/-! ## The database -/

structure ReportRoom where
  queue : Option MeasuredQueue
  user : Option UserEmail
  createdOn : Instant
  endedAt : Option Instant
  isActive : Bool
  tags : List Uuid
  deriving DecidableEq, Repr

abbrev ReportEntry := (_ : Uuid) × ReportRoom

/-- The cells of the fields that begin with `tags__`. -/
abbrev TagLine := List (Option String)

/-- The names of tags, and the lines that a tag is joined with by the paths of fields. -/
structure TagRelations where
  name : Uuid → String
  lines : List FieldPath → Uuid → List TagLine
  lines_ne_nil : ∀ paths tag, lines paths tag ≠ []

def Period.Admits (room : ReportRoom) : Period → Prop
  | .openedOrClosed first last =>
      (first ≤ (room.createdOn : Nat) ∧ (room.createdOn : Nat) ≤ last) ∨
        ∃ ended ∈ room.endedAt, first ≤ (ended : Nat) ∧ (ended : Nat) ≤ last
  | .opened first last => first ≤ (room.createdOn : Nat) ∧ (room.createdOn : Nat) ≤ last
  | .closed first last =>
      room.isActive = false ∧
        ∃ ended ∈ room.endedAt, first ≤ (ended : Nat) ∧ (ended : Nat) ≤ last

instance (room : ReportRoom) (period : Period) : Decidable (period.Admits room) := by
  cases period <;> dsimp only [Period.Admits] <;> infer_instance

namespace RoomsQuery

/-- A room of the project that meets all filters but that of the tags. -/
def Selects (query : RoomsQuery) (project : Uuid) (room : ReportEntry) : Prop :=
  (∃ queue ∈ room.2.queue, queue.project = project ∧ queue.isDeleted = false ∧
      queue.sectorIsDeleted = false ∧ (query.sectors = [] ∨ queue.sector ∈ query.sectors) ∧
      (query.queues = [] ∨ queue.uuid ∈ query.queues)) ∧
    (query.uuids = [] ∨ room.1 ∈ query.uuids) ∧
    (∀ period ∈ query.period, period.Admits room.2) ∧
    (query.agents = [] ∨ ∃ user ∈ room.2.user, user ∈ query.agents)

instance (query : RoomsQuery) (project : Uuid) (room : ReportEntry) :
    Decidable (query.Selects project room) :=
  inferInstanceAs (Decidable ((∃ queue ∈ room.2.queue, _) ∧ _ ∧
    (∀ period ∈ query.period, _) ∧ (_ ∨ ∃ user ∈ room.2.user, _)))

/-- A room that satisfies the filters: one of its tags is asked for, if any are. -/
def Satisfies (query : RoomsQuery) (project : Uuid) (room : ReportEntry) : Prop :=
  query.Selects project room ∧ (query.tags = [] ∨ ∃ tag ∈ room.2.tags, tag ∈ query.tags)

instance (query : RoomsQuery) (project : Uuid) (room : ReportEntry) :
    Decidable (query.Satisfies project room) :=
  inferInstanceAs (Decidable (_ ∧ (_ ∨ ∃ tag ∈ room.2.tags, _)))

/-- The fields that begin with `tags__`. -/
def tagPaths (query : RoomsQuery) : List FieldPath :=
  query.fields.filter fun field => 1 < field.length ∧ field.take 1 = ["tags"]

def ListsTags (query : RoomsQuery) : Prop := ["tags"] ∈ query.fields

instance (query : RoomsQuery) : Decidable query.ListsTags :=
  inferInstanceAs (Decidable (_ ∈ _))

end RoomsQuery

/-! ## The rows -/

/-- A row, with the room that its other cells are taken from. -/
structure ReportRow where
  room : ReportEntry
  tagsList : Option (List (Option String))
  tagLine : TagLine
  deriving DecidableEq, Repr

def TagRelations.linesOf (relations : TagRelations) (paths : List FieldPath) :
    Option Uuid → List TagLine
  | none => [paths.map fun _ => none]
  | some tag => if paths = [] then [[]] else relations.lines paths tag

namespace RoomsQuery

variable (query : RoomsQuery) (relations : TagRelations)

/-- The filter joins the rooms with the tags that it asks for, and a field with all tags. -/
def joinTags (rooms : List ReportEntry) : List (ReportEntry × Option Uuid) :=
  if query.tags ≠ [] then
    ((Query.innerJoin rooms fun room => room.2.tags).filter fun joined =>
      joined.2 ∈ query.tags).map fun joined => (joined.1, some joined.2)
  else if query.ListsTags ∨ query.tagPaths ≠ [] then Query.leftJoin rooms fun room => room.2.tags
  else rooms.map fun room => (room, none)

def joinedLines (rooms : List ReportEntry) : List ((ReportEntry × TagLine) × Option Uuid) :=
  (query.joinTags rooms).flatMap fun joined =>
    (relations.linesOf query.tagPaths joined.2).map fun line => ((joined.1, line), joined.2)

/-- The rows of the query. Tags in one cell are aggregated, grouped by everything else. -/
def rows (project : Uuid) (rooms : Table Uuid ReportRoom) : List ReportRow :=
  let lines := query.joinedLines relations
    (rooms.entries.filter fun room => query.Selects project room)
  if query.ListsTags then
    (lines.map Prod.fst).dedup.map fun group =>
      ⟨group.1,
        some ((lines.filter fun line => line.1 = group).map fun line =>
          line.2.map relations.name).dedup,
        group.2⟩
  else lines.map fun line => ⟨line.1.1, none, line.1.2⟩

end RoomsQuery

/-- The rows of a query in an order by primary key, which leaves open how rows with the same
key are ordered. -/
def OrderedByPk (rows ordered : List ReportRow) : Prop :=
  ordered.Perm rows ∧ (ordered.map fun row => row.room.1).Pairwise (· ≤ ·)

/-- The table that is written in parts. Each of them is a query of its own. -/
def roomsTable (slices : Nat → List ReportRow) (totalRows chunkSize : Nat) : List ReportRow :=
  (List.range ((totalRows + chunkSize - 1) / chunkSize)).flatMap fun index =>
    part (slices index) chunkSize index

/-- The rooms of `_process_report_with_resume`: without `fields`, which the endpoint does not
ask for, no query is built and no part is written. -/
def reportRoomsTable (config : RoomsConfig) (slices : Nat → List ReportRow)
    (totalRows chunkSize : Nat) : List ReportRow :=
  if config.fields.isSome then roomsTable slices totalRows chunkSize else []

/-- There is one row for each room that satisfies the filters, and no other one. -/
def TableExact (query : RoomsQuery) (project : Uuid) (rooms : Table Uuid ReportRoom)
    (table : List ReportRow) : Prop :=
  ∀ room, (table.countP fun row => row.room = room) =
    if room ∈ rooms.entries ∧ query.Satisfies project room then 1 else 0

end ChatsEngine.Dashboard
