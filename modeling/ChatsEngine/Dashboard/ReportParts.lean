import ChatsEngine.Foundation.Machine
import ChatsEngine.Foundation.NumberedParts
import ChatsEngine.Foundation.Table

/-! # Reports in parts

A report is written in parts to a storage, so that an attempt which is interrupted can be
resumed by the next one. How many parts are found tells where to resume. -/

namespace ChatsEngine.Dashboard

abbrev Line := List String

inductive ReportTable
  | rooms
  | agentStatusLogs
  deriving DecidableEq, Repr

/-- What a queryset selects, in its order. -/
structure QuerySet where
  columns : Line
  rows : List Line
  deriving DecidableEq, Repr

/-- The part of `fields_config` for a table, with the queryset that it leads to, if the
table is available. -/
structure TableConfig where
  fields : List String
  queryset : Option QuerySet
  deriving DecidableEq, Repr

inductive FileType
  | csv
  | xlsx
  deriving DecidableEq, Repr

structure ReportConfig where
  table : ReportTable → Option TableConfig
  fileType : FileType
  chunkSize : Nat
  /-- `AWS_S3_FILE_OVERWRITE`. -/
  overwrite : Bool

def ReportConfig.processed (config : ReportConfig) (table : ReportTable) : Option QuerySet :=
  (config.table table).bind fun tableConfig =>
    if tableConfig.fields = [] then none else tableConfig.queryset

/-! ## Parts -/

/-- The name of a part, after its prefix. -/
abbrev PartName := List Char

abbrev Parts := Table PartName (List Line)

/-- `f"{part_idx:06d}.csv"`. -/
def partName (partIdx : Nat) : PartName := zeroFilled 6 partIdx ++ ['.', 'c', 's', 'v']

def listExistingParts (parts : Parts) : List PartName := parts.keys.insertionSort (· ≤ ·)

/-- The name under which the storage saves a part. If it is taken, a random suffix is
added, which has to be another one if that name is taken as well. -/
def availableName (overwrite : Bool) (parts : Parts) (partIdx : Nat) (suffix : List Char) :
    Option PartName :=
  let alternative := zeroFilled 6 partIdx ++ '_' :: suffix ++ ['.', 'c', 's', 'v']
  if overwrite = true ∨ partName partIdx ∉ parts then some (partName partIdx)
  else if alternative ∈ parts then none
  else some alternative

/-- `_write_chunk_to_part`. -/
def chunkLines (columns : Line) (rows : List Line) (includeHeader : Bool) : List Line :=
  if includeHeader then columns :: rows else rows

/-! ## Tables from parts -/

def emptyTable (fields : List String) : List Line := if fields = [] then [] else [fields]

def streamPartsToCsvFile (fields : List String) (contents : List (List Line)) : List Line :=
  if contents = [] then emptyTable fields else contents.flatten

/-- The column names of the first part, and the lines that have been written. -/
structure Sheet where
  columnNames : Line
  written : List Line

/-- One turn of the loop of `_combine_parts_to_sheet`. Only the part with index 0 is read
with a header. -/
def Sheet.append (sheet : Sheet) (content : List Line) (index : Nat) : Sheet :=
  match content with
  | [] => sheet
  | line :: lines =>
      let columnNames := if index = 0 then line else sheet.columnNames
      let data := if index = 0 then lines else line :: lines
      if data = [] then { sheet with columnNames }
      else if sheet.written = [] then ⟨columnNames, columnNames :: data⟩
      else ⟨columnNames, sheet.written ++ data⟩

def combinePartsToSheet (fields : List String) (contents : List (List Line)) : List Line :=
  if contents = [] then emptyTable fields
  else (contents.zipIdx.foldl (fun (sheet : Sheet) part => sheet.append part.1 part.2) ⟨[], []⟩).written

/-- `_finalize_from_all_parts`, for one table. -/
def finalizeTable (fileType : FileType) (fields : List String) (parts : Parts) : List Line :=
  let contents := (listExistingParts parts).filterMap parts.lookup
  match fileType with
  | .csv => streamPartsToCsvFile fields contents
  | .xlsx => combinePartsToSheet fields contents

/-! ## Attempts -/

abbrev Tables := ReportTable → Option (List Line)

/-- What an attempt executes next. -/
inductive AttemptStage
  | idle
  | resuming (table : ReportTable)
  | writing (table : ReportTable) (start partIndex : Nat) (headerWritten : Bool)
  | finalizing
  | listingForCleanup (table : ReportTable) (tables : Tables)
  | cleaning (table : ReportTable) (remaining : List PartName) (tables : Tables)
  | returned (tables : Tables)

structure ReportRun where
  parts : ReportTable → Parts
  stage : AttemptStage

inductive AttemptEvent
  | begin
  /-- The next step, with the suffix of a name that is taken, and whether a deletion
  raises an exception. -/
  | advance (suffix : List Char) (fails : Bool)
  /-- The attempt is killed, raises an exception, or has returned. -/
  | stop
  deriving DecidableEq, Repr

def ReportConfig.finalize (config : ReportConfig) (parts : ReportTable → Parts) : Tables :=
  fun table => (config.table table).map fun tableConfig =>
    finalizeTable config.fileType tableConfig.fields (parts table)

def afterWriting : ReportTable → AttemptStage
  | .rooms => .resuming .agentStatusLogs
  | .agentStatusLogs => .finalizing

def afterCleaning (tables : Tables) : ReportTable → AttemptStage
  | .rooms => .listingForCleanup .agentStatusLogs tables
  | .agentStatusLogs => .returned tables

/-- A step of `_process_report_with_resume`. -/
def ReportRun.advance (config : ReportConfig) (run : ReportRun) (suffix : List Char)
    (fails : Bool) : Option ReportRun :=
  match run.stage with
  | .idle => none
  | .resuming table =>
      match config.processed table with
      | none => some { run with stage := afterWriting table }
      | some _ =>
          let completed := (listExistingParts (run.parts table)).length
          some { run with
            stage := .writing table (completed * config.chunkSize) completed (0 < completed) }
  | .writing table start partIndex headerWritten =>
      match config.processed table with
      | none => none
      | some queryset =>
          if queryset.rows.length ≤ start then some { run with stage := afterWriting table }
          else
            let rows := (queryset.rows.drop start).take config.chunkSize
            if rows = [] then
              some { run with
                stage := .writing table (start + config.chunkSize) partIndex headerWritten }
            else
              let lines := chunkLines queryset.columns rows !headerWritten
              (availableName config.overwrite (run.parts table) partIndex suffix).map fun name =>
                { parts := Function.update run.parts table ((run.parts table).insert name lines)
                  stage := .writing table (start + config.chunkSize) (partIndex + 1) true }
  | .finalizing =>
      some { run with stage := .listingForCleanup .rooms (config.finalize run.parts) }
  | .listingForCleanup table tables =>
      some { run with stage := .cleaning table (listExistingParts (run.parts table)) tables }
  | .cleaning table [] tables => some { run with stage := afterCleaning tables table }
  | .cleaning table (name :: remaining) tables =>
      let kept := if fails then run.parts table else (run.parts table).erase name
      some
        { parts := Function.update run.parts table kept
          stage := .cleaning table remaining tables }
  | .returned _ => none

def ReportRun.step (config : ReportConfig) (run : ReportRun) : AttemptEvent → Option ReportRun
  | .begin =>
      match run.stage with
      | .idle => some { run with stage := .resuming .rooms }
      | _ => none
  | .advance suffix fails => run.advance config suffix fails
  | .stop => some { run with stage := .idle }

def attemptMachine (config : ReportConfig) : Machine ReportRun AttemptEvent where
  step := ReportRun.step config

def noAttempt : ReportRun := ⟨fun _ => ∅, .idle⟩

def ReportRun.tables (run : ReportRun) : Option Tables :=
  match run.stage with
  | .returned tables => some tables
  | _ => none

/-- The table of a run without interruptions: every row once, in order, after one
header. -/
def TableConfig.complete (config : TableConfig) : List Line :=
  match config.queryset with
  | none => emptyTable config.fields
  | some queryset =>
      if config.fields = [] ∨ queryset.rows = [] then emptyTable config.fields
      else queryset.columns :: queryset.rows

def ReportConfig.complete (config : ReportConfig) : Tables :=
  fun table => (config.table table).map TableConfig.complete

end ChatsEngine.Dashboard
