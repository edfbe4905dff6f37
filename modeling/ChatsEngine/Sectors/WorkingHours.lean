import ChatsEngine.Core.Types
import ChatsEngine.Foundation.NumberedParts

/-! # Working hours

Whether a contact can be made with a sector at some time. The holidays of the sector come
before the static holidays and the schedules of its working hours. -/

namespace ChatsEngine.Sectors

/-! ## Dates and times -/

/-- The number of a day, counted from the first day of the year 1 on. -/
abbrev Date := Nat

/-- Microseconds since midnight. -/
abbrev TimeOfDay := Nat

namespace Date

/-- From 1 for Monday to 7 for Sunday. -/
def isoweekday (date : Date) : Nat := (date + 6) % 7 + 1

structure Parts where
  year : Nat
  month : Nat
  day : Nat
deriving DecidableEq, Repr

/-- The year, month and day. Years are counted from March on in between, so that a leap day
is the last day of its year. -/
def parts (date : Date) : Parts :=
  let days := date + 305
  let era := days / 146097
  let dayOfEra := days % 146097
  let yearOfEra := (dayOfEra - dayOfEra / 1460 + dayOfEra / 36524 - dayOfEra / 146096) / 365
  let dayOfYear := dayOfEra - (365 * yearOfEra + yearOfEra / 4 - yearOfEra / 100)
  let monthFromMarch := (5 * dayOfYear + 2) / 153
  let month := if monthFromMarch < 10 then monthFromMarch + 3 else monthFromMarch - 9
  { year := yearOfEra + era * 400 + if month ≤ 2 then 1 else 0
    month := month
    day := dayOfYear - (153 * monthFromMarch + 2) / 5 + 1 }

/-- `strftime("%m-%d")` -/
def monthDay (date : Date) : String :=
  String.ofList (zeroFilled 2 date.parts.month ++ '-' :: zeroFilled 2 date.parts.day)

/-- `strftime("%Y-%m-%d")` -/
def isoFormat (date : Date) : String :=
  String.ofList (zeroFilled 4 date.parts.year ++ ['-']) ++ date.monthDay

example : isoFormat 739245 = "2024-12-25" := by decide

end Date

/-- `strftime("%H:%M")` -/
def TimeOfDay.hourMinute (time : TimeOfDay) : String :=
  let minutes := time / 60000000
  String.ofList (zeroFilled 2 (minutes / 60) ++ ':' :: zeroFilled 2 (minutes % 60))

structure DateTime where
  date : Date
  time : TimeOfDay

/-! ## The settings of a sector -/

/-- A field that is set, and not empty. -/
def filled (field : Option String) : Option String := field.filter (· ≠ "")

structure StaticHoliday where
  closed : Option Bool
  start : Option String
  «end» : Option String
deriving DecidableEq

/-- An empty object counts as no holiday. -/
def StaticHoliday.empty : StaticHoliday := ⟨none, none, none⟩

structure Interval where
  start : Option String
  «end» : Option String

inductive DaySchedule where
  | one (interval : Interval)
  | many (intervals : List Interval)
  /-- Neither an object nor a list. -/
  | other

/-- `working_day["working_hours"]`, where it is not empty. -/
structure WorkingHours where
  closedWeekdays : List Nat
  staticHolidays : List (String × StaticHoliday)
  schedules : List (String × DaySchedule)

inductive DayType where
  | closed
  | customHours
deriving DecidableEq, Repr

/-- The holiday of a sector as it is cached. -/
structure HolidayData where
  dayType : DayType
  startTime : Option String
  endTime : Option String
  description : String
deriving DecidableEq, Repr

/-! ## The validation -/

inductive ValidationFailure where
  | validationError (detail : String)
  /-- A text that is no time. -/
  | parserError
deriving DecidableEq, Repr

abbrev Validated := Except ValidationFailure Unit

def outsideWorkingHours : Validated :=
  .error (.validationError "Contact can't be done outside working hours")

def outsideHolidayHours : Validated :=
  .error (.validationError "Contact can't be done outside holiday working hours")

def todayIsHoliday : Validated :=
  .error (.validationError "Contact can't be done because today is a holiday")

section Validate

variable (parseTime : String → Option TimeOfDay)

/-- `_parse_time_cached`, whose cache keeps what the parser returns. -/
def parseTimeCached (text : String) : Except ValidationFailure TimeOfDay :=
  match parseTime text with
  | some time => .ok time
  | none => .error .parserError

def withinTimes (refusal : Validated) (startText endText : String) (time : TimeOfDay) :
    Validated := do
  let startTime ← parseTimeCached parseTime startText
  let endTime ← parseTimeCached parseTime endText
  if startTime ≤ time ∧ time ≤ endTime then .ok () else refusal

/-- `_validate_static_holiday_fast` -/
def validateStaticHoliday (holiday : StaticHoliday) (time : TimeOfDay) : Validated :=
  if holiday.closed.getD true then outsideWorkingHours
  else
    match filled holiday.start, filled holiday.end with
    | some startText, some endText =>
        withinTimes parseTime outsideHolidayHours startText endText time
    | _, _ => .ok ()

/-- `_check_static_holidays_fast` -/
def checkStaticHolidays (workingHours : WorkingHours) (createdOn : DateTime) : Validated :=
  let configured (key : String) : Option StaticHoliday :=
    (workingHours.staticHolidays.lookup key).filter (· ≠ .empty)
  match (configured createdOn.date.isoFormat).or (configured createdOn.date.monthDay) with
  | some holiday => validateStaticHoliday parseTime holiday createdOn.time
  | none => .ok ()

def validateHoliday (holiday : HolidayData) (time : TimeOfDay) : Validated :=
  match holiday.dayType with
  | .closed => todayIsHoliday
  | .customHours =>
      match filled holiday.startTime, filled holiday.endTime with
      | some startText, some endText =>
          withinTimes parseTime outsideWorkingHours startText endText time
      | _, _ => .ok ()

/-- Whether an interval of a list contains the time. An interval that cannot be read does
not. -/
def contains (time : TimeOfDay) (interval : Interval) : Bool :=
  match filled interval.start, filled interval.end with
  | some startText, some endText =>
      (withinTimes parseTime outsideWorkingHours startText endText time).isOk
  | _, _ => false

/-- `_validate_day_schedules_generic` -/
def validateDaySchedules (time : TimeOfDay) : DaySchedule → Validated
  | .one interval =>
      match filled interval.start, filled interval.end with
      | some startText, some endText =>
          withinTimes parseTime outsideWorkingHours startText endText time
      | _, _ => outsideWorkingHours
  | .many intervals =>
      if intervals.any (contains parseTime time) then .ok () else outsideWorkingHours
  | .other => outsideWorkingHours

def dayKey : Nat → String
  | 1 => "monday"
  | 2 => "tuesday"
  | 3 => "wednesday"
  | 4 => "thursday"
  | 5 => "friday"
  | 6 => "saturday"
  | _ => "sunday"

/-- What is left of the validation once the holiday of the date is known. `_full_validation`
does the same on weekends. -/
def validateDay (workingHours : WorkingHours) (createdOn : DateTime) :
    Option HolidayData → Validated
  | some holiday => validateHoliday parseTime holiday createdOn.time
  | none => do
      checkStaticHolidays parseTime workingHours createdOn
      match workingHours.schedules.lookup (dayKey createdOn.date.isoweekday) with
      | some schedule => validateDaySchedules parseTime createdOn.time schedule
      | none => outsideWorkingHours

/-- How a validation begins: it ends at once, or it looks for the holiday of the date. -/
def beginValidation (workingHours : Option WorkingHours) (createdOn : DateTime) :
    Validated ⊕ WorkingHours :=
  match workingHours with
  | none => .inl (.ok ())
  | some workingHours =>
      if createdOn.date.isoweekday ∈ workingHours.closedWeekdays then .inl outsideWorkingHours
      else .inr workingHours

theorem beginValidation_of_inr {workingHours : Option WorkingHours} {createdOn : DateTime}
    {found : WorkingHours} (begins : beginValidation workingHours createdOn = .inr found) :
    workingHours = some found := by
  rw [beginValidation.eq_def] at begins
  split at begins
  · cases begins
  · split at begins
    · cases begins
    · exact congrArg some (Sum.inr.inj begins)

/-- `validate_working_hours`, for the holiday that is found. -/
def validateWorkingHours (workingHours : Option WorkingHours) (createdOn : DateTime)
    (holiday : Option HolidayData) : Validated :=
  match beginValidation workingHours createdOn with
  | .inl result => result
  | .inr workingHours => validateDay parseTime workingHours createdOn holiday

end Validate

end ChatsEngine.Sectors
