import ChatsEngine.Sectors.HolidayCache

/-! # Within hours

When a contact is accepted, by the holidays of the sector themselves instead of their cached
texts. The texts leave out the seconds of a time. -/

namespace ChatsEngine.Sectors

def minute : Nat := 60 * 1000000

def dayLength : Nat := 24 * 60 * minute

/-! ## The two paths of the validation -/

namespace WorkingHoursValidator

section Validate

variable (parseTime : String → Option TimeOfDay)

def weekdayMap : List (Nat × String) :=
  [(1, "monday"), (2, "tuesday"), (3, "wednesday"), (4, "thursday"), (5, "friday")]

def validateSchedule (workingHours : WorkingHours) (dayKey : Option String) (time : TimeOfDay) :
    Validated :=
  match dayKey.bind fun key => workingHours.schedules.lookup key with
  | some schedule => validateDaySchedules parseTime time schedule
  | none => outsideWorkingHours

/-- From Monday to Friday. -/
def validateWeekday (workingHours : WorkingHours) (createdOn : DateTime) :
    Option HolidayData → Validated
  | some holiday => validateHoliday parseTime holiday createdOn.time
  | none => do
      checkStaticHolidays parseTime workingHours createdOn
      validateSchedule parseTime workingHours (weekdayMap.lookup createdOn.date.isoweekday)
        createdOn.time

/-- Weekends. -/
def fullValidation (workingHours : WorkingHours) (createdOn : DateTime) :
    Option HolidayData → Validated
  | some holiday => validateHoliday parseTime holiday createdOn.time
  | none => do
      checkStaticHolidays parseTime workingHours createdOn
      if createdOn.date.isoweekday ∈ [6, 7] then
        validateSchedule parseTime workingHours
          (if createdOn.date.isoweekday = 6 then some "saturday" else some "sunday")
          createdOn.time
      else .ok ()

/-- With an empty cache. -/
def validateWorkingHours (workingHours : Option WorkingHours) (sector : Uuid)
    (createdOn : DateTime) (rows : Table Uuid SectorHoliday) : Validated :=
  match workingHours with
  | none => .ok ()
  | some workingHours =>
      if createdOn.date.isoweekday ∈ workingHours.closedWeekdays then outsideWorkingHours
      else if 1 ≤ createdOn.date.isoweekday ∧ createdOn.date.isoweekday ≤ 5 then
        validateWeekday parseTime workingHours createdOn (holidayOf (sector, createdOn.date) rows)
      else
        fullValidation parseTime workingHours createdOn (holidayOf (sector, createdOn.date) rows)

end Validate

end WorkingHoursValidator

/-! ## What a contact is accepted for -/

namespace SectorHoliday

def isClosed (row : SectorHoliday) : Bool := row.dayType = .closed

/-- Only a closed day has no times. -/
def isWithinHours (row : SectorHoliday) (time : TimeOfDay) : Bool :=
  if row.isClosed then false
  else
    match row.startTime, row.endTime with
    | some startTime, some endTime => startTime ≤ time ∧ time ≤ endTime
    | _, _ => false

/-- The check constraints, and that the times are times of a day. -/
structure IsStored (row : SectorHoliday) : Prop where
  isValid : row.IsValid
  startTime : ∀ startTime ∈ row.startTime, startTime < dayLength
  endTime : ∀ endTime ∈ row.endTime, endTime < dayLength

/-- The time is in the part of the first or of the last minute that the texts of the times
mistake. -/
def InCutMinute (row : SectorHoliday) (time : TimeOfDay) : Prop :=
  ∃ startTime ∈ row.startTime, ∃ endTime ∈ row.endTime,
    (startTime / minute * minute ≤ time ∧ time < startTime ∧ time ≤ endTime / minute * minute) ∨
      (startTime ≤ time ∧ endTime / minute * minute < time ∧ time ≤ endTime)

instance (row : SectorHoliday) (time : TimeOfDay) : Decidable (row.InCutMinute time) :=
  inferInstanceAs (Decidable (∃ startTime ∈ row.startTime, ∃ endTime ∈ row.endTime, _))

end SectorHoliday

/-- At most one holiday of a sector covers a date. -/
def NonOverlapping (rows : Table Uuid SectorHoliday) : Prop :=
  ∀ key, ∀ entry ∈ rows.entries, entry.2.Selected key →
    ∀ other ∈ rows.entries, other.2.Selected key → entry = other

section Accepts

variable (parseTime : String → Option TimeOfDay)

def TimesContain (startText endText : String) (time : TimeOfDay) : Prop :=
  ∃ startTime ∈ parseTime startText, ∃ endTime ∈ parseTime endText,
    startTime ≤ time ∧ time ≤ endTime

/-- A static holiday is closed unless it says otherwise, and open all day without times. -/
def StaticHoliday.OpenAt (holiday : StaticHoliday) (time : TimeOfDay) : Prop :=
  holiday.closed = some false ∧
    ∀ startText ∈ filled holiday.start, ∀ endText ∈ filled holiday.end,
      TimesContain parseTime startText endText time

def Interval.Contains (interval : Interval) (time : TimeOfDay) : Prop :=
  ∃ startText ∈ filled interval.start, ∃ endText ∈ filled interval.end,
    TimesContain parseTime startText endText time

def DaySchedule.Contains (time : TimeOfDay) : DaySchedule → Prop
  | .one interval => interval.Contains parseTime time
  | .many intervals => ∃ interval ∈ intervals, interval.Contains parseTime time
  | .other => False

/-- The static holiday of a date, by the whole date or else by its month and day. -/
def WorkingHours.staticHoliday (workingHours : WorkingHours) (date : Date) :
    Option StaticHoliday :=
  ((workingHours.staticHolidays.lookup date.isoFormat).filter (· ≠ .empty)).or
    ((workingHours.staticHolidays.lookup date.monthDay).filter (· ≠ .empty))

/-- The decision table. -/
def Accepts (workingHours : Option WorkingHours) (sector : Uuid) (createdOn : DateTime)
    (rows : Table Uuid SectorHoliday) : Prop :=
  ∀ config ∈ workingHours, createdOn.date.isoweekday ∉ config.closedWeekdays ∧
    (∀ entry ∈ rows.entries, entry.2.Selected (sector, createdOn.date) →
      entry.2.isWithinHours createdOn.time = true) ∧
    ((∀ entry ∈ rows.entries, ¬entry.2.Selected (sector, createdOn.date)) →
      (∀ holiday ∈ config.staticHoliday createdOn.date,
        holiday.OpenAt parseTime createdOn.time) ∧
      ∃ schedule ∈ config.schedules.lookup (dayKey createdOn.date.isoweekday),
        schedule.Contains parseTime createdOn.time)

/-- No holiday by which the contact is decided has the time in one of its cut minutes. -/
def NoCutMinute (workingHours : Option WorkingHours) (sector : Uuid) (createdOn : DateTime)
    (rows : Table Uuid SectorHoliday) : Prop :=
  ∀ config ∈ workingHours, createdOn.date.isoweekday ∉ config.closedWeekdays →
    ∀ entry ∈ rows.entries, entry.2.Selected (sector, createdOn.date) →
      ¬entry.2.InCutMinute createdOn.time

end Accepts

/-! ## Both paths decide in the same way -/

section Decide

variable {parseTime : String → Option TimeOfDay} {time : TimeOfDay} {createdOn : DateTime}
  {config : WorkingHours}

theorem lookup_weekdayMap {weekday : Nat} (first : 1 ≤ weekday) (last : weekday ≤ 5) :
    WorkingHoursValidator.weekdayMap.lookup weekday = some (dayKey weekday) := by
  have oneOf : weekday = 1 ∨ weekday = 2 ∨ weekday = 3 ∨ weekday = 4 ∨ weekday = 5 := by omega
  rcases oneOf with rfl | rfl | rfl | rfl | rfl <;> rfl

theorem validateWeekday_eq (first : 1 ≤ createdOn.date.isoweekday)
    (last : createdOn.date.isoweekday ≤ 5) (holiday : Option HolidayData) :
    WorkingHoursValidator.validateWeekday parseTime config createdOn holiday =
      validateDay parseTime config createdOn holiday := by
  cases holiday with
  | some holiday => rfl
  | none =>
      rw [WorkingHoursValidator.validateWeekday, lookup_weekdayMap first last]
      rfl

theorem fullValidation_eq (weekend : createdOn.date.isoweekday ∈ [6, 7])
    (holiday : Option HolidayData) :
    WorkingHoursValidator.fullValidation parseTime config createdOn holiday =
      validateDay parseTime config createdOn holiday := by
  cases holiday with
  | some holiday => rfl
  | none =>
      have key : (if createdOn.date.isoweekday = 6 then some "saturday" else some "sunday") =
          some (dayKey createdOn.date.isoweekday) := by
        rcases List.mem_cons.mp weekend with isSaturday | isSunday
        · rw [isSaturday]
          rfl
        · rw [List.mem_singleton.mp isSunday]
          rfl
      rw [WorkingHoursValidator.fullValidation, if_pos weekend, key]
      rfl

theorem validateWorkingHours_some (sector : Uuid) (rows : Table Uuid SectorHoliday)
    (open_ : createdOn.date.isoweekday ∉ config.closedWeekdays) :
    WorkingHoursValidator.validateWorkingHours parseTime (some config) sector createdOn rows =
      validateDay parseTime config createdOn (holidayOf (sector, createdOn.date) rows) := by
  simp only [WorkingHoursValidator.validateWorkingHours, if_neg open_]
  split
  · next weekday => exact validateWeekday_eq weekday.1 weekday.2 _
  · next weekend =>
      apply fullValidation_eq
      have bound : createdOn.date.isoweekday = (createdOn.date + 6) % 7 + 1 := rfl
      rw [List.mem_cons, List.mem_singleton]
      omega

/-! ## When each part accepts -/

theorem outsideWorkingHours_ne : outsideWorkingHours ≠ .ok () := nofun

theorem outsideHolidayHours_ne : outsideHolidayHours ≠ .ok () := nofun

theorem andThen_eq_ok_iff {first second : Validated} :
    (do first; second) = .ok () ↔ first = .ok () ∧ second = .ok () := by
  cases first with
  | error failure => simp [bind, Except.bind]
  | ok accepted => simp [bind, Except.bind]

theorem withinTimes_eq_ok_iff {refusal : Validated} (refuses : refusal ≠ .ok ())
    (startText endText : String) :
    withinTimes parseTime refusal startText endText time = .ok () ↔
      TimesContain parseTime startText endText time := by
  cases isStart : parseTime startText with
  | none =>
      simp [withinTimes, parseTimeCached, TimesContain, isStart, bind, Except.bind]
  | some startTime =>
      cases isEnd : parseTime endText with
      | none =>
          simp [withinTimes, parseTimeCached, TimesContain, isStart, isEnd, bind, Except.bind]
      | some endTime =>
          by_cases within : startTime ≤ time ∧ time ≤ endTime
          · simp [withinTimes, parseTimeCached, TimesContain, isStart, isEnd, within, bind,
              Except.bind]
          · simp [withinTimes, parseTimeCached, TimesContain, isStart, isEnd, within, refuses,
              bind, Except.bind]

theorem validateStaticHoliday_eq_ok_iff (holiday : StaticHoliday) :
    validateStaticHoliday parseTime holiday time = .ok () ↔ holiday.OpenAt parseTime time := by
  rw [validateStaticHoliday, StaticHoliday.OpenAt]
  by_cases isOpen : holiday.closed = some false
  · rw [isOpen, if_neg (by decide)]
    cases filled holiday.start with
    | none => simp
    | some startText =>
        cases filled holiday.end with
        | none => simp
        | some endText =>
            simp only [Option.mem_some, forall_eq', true_and]
            exact withinTimes_eq_ok_iff outsideHolidayHours_ne startText endText
  · have closed : holiday.closed.getD true = true := by
      cases isClosed : holiday.closed with
      | none => rfl
      | some closed =>
          cases closed with
          | false => exact absurd isClosed isOpen
          | true => rfl
    rw [if_pos closed]
    simp [isOpen, outsideWorkingHours_ne]

theorem checkStaticHolidays_eq_ok_iff :
    checkStaticHolidays parseTime config createdOn = .ok () ↔
      ∀ holiday ∈ config.staticHoliday createdOn.date,
        holiday.OpenAt parseTime createdOn.time := by
  rw [checkStaticHolidays, WorkingHours.staticHoliday]
  split
  · next holiday isHoliday =>
      rw [isHoliday]
      simp only [Option.mem_some, forall_eq']
      exact validateStaticHoliday_eq_ok_iff holiday
  · next isNone =>
      rw [isNone]
      simp

theorem contains_eq_true_iff (interval : Interval) :
    contains parseTime time interval = true ↔ interval.Contains parseTime time := by
  rw [contains, Interval.Contains]
  cases filled interval.start with
  | none => simp
  | some startText =>
      cases filled interval.end with
      | none => simp
      | some endText =>
          simp only [Option.mem_some, exists_eq_left']
          rw [← withinTimes_eq_ok_iff outsideWorkingHours_ne startText endText]
          cases withinTimes parseTime outsideWorkingHours startText endText time with
          | error failure => simp [Except.isOk, Except.toBool]
          | ok accepted => simp [Except.isOk, Except.toBool]

theorem validateDaySchedules_eq_ok_iff (schedule : DaySchedule) :
    validateDaySchedules parseTime time schedule = .ok () ↔ schedule.Contains parseTime time := by
  cases schedule with
  | one interval =>
      rw [validateDaySchedules, DaySchedule.Contains, Interval.Contains]
      cases filled interval.start with
      | none => simp [outsideWorkingHours_ne]
      | some startText =>
          cases filled interval.end with
          | none => simp [outsideWorkingHours_ne]
          | some endText =>
              simp only [Option.mem_some, exists_eq_left']
              exact withinTimes_eq_ok_iff outsideWorkingHours_ne startText endText
  | many intervals =>
      rw [validateDaySchedules, DaySchedule.Contains]
      simp only [← contains_eq_true_iff, ← List.any_eq_true]
      split
      · next some => simp [some]
      · next none => simp [none, outsideWorkingHours_ne]
  | other => simp [validateDaySchedules, DaySchedule.Contains, outsideWorkingHours_ne]

theorem validateDay_none_iff :
    validateDay parseTime config createdOn none = .ok () ↔
      (∀ holiday ∈ config.staticHoliday createdOn.date,
        holiday.OpenAt parseTime createdOn.time) ∧
      ∃ schedule ∈ config.schedules.lookup (dayKey createdOn.date.isoweekday),
        schedule.Contains parseTime createdOn.time := by
  rw [validateDay, andThen_eq_ok_iff, checkStaticHolidays_eq_ok_iff]
  apply and_congr_right
  intro _
  cases config.schedules.lookup (dayKey createdOn.date.isoweekday) with
  | none => simp [outsideWorkingHours_ne]
  | some schedule =>
      simp only [Option.mem_some, exists_eq_left']
      exact validateDaySchedules_eq_ok_iff schedule

end Decide

/-! ## Times as texts -/

def ReadsMinutes (parseTime : String → Option TimeOfDay) : Prop :=
  ∀ time < dayLength, parseTime (TimeOfDay.hourMinute time) = some (time / minute * minute)

section Holidays

variable {parseTime : String → Option TimeOfDay} {time : TimeOfDay} {row : SectorHoliday}
  {rows : Table Uuid SectorHoliday} {key : HolidayKey}

theorem filled_hourMinute (time : TimeOfDay) :
    filled (some time.hourMinute) = some time.hourMinute := by
  have notEmpty : time.hourMinute ≠ "" := by
    intro isEmpty
    have chars := congrArg String.toList isEmpty
    simp [TimeOfDay.hourMinute] at chars
  simp [filled, notEmpty]

theorem earlier_bounds_agree_iff {first last textFirst textLast time : Nat}
    (firstBefore : textFirst ≤ first) (lastBefore : textLast ≤ last) :
    (textFirst ≤ time ∧ time ≤ textLast ↔ first ≤ time ∧ time ≤ last) ↔
      ¬((textFirst ≤ time ∧ time < first ∧ time ≤ textLast) ∨
        (first ≤ time ∧ textLast < time ∧ time ≤ last)) := by
  omega

theorem IsStored.cases (stored : row.IsStored) :
    (row.dayType = .closed ∧ row.startTime = none) ∨
      row.dayType = .customHours ∧ ∃ startTime endTime, row.startTime = some startTime ∧
        row.endTime = some endTime ∧ startTime < endTime ∧ endTime < dayLength := by
  have isValid := stored.isValid
  rw [SectorHoliday.IsValid] at isValid
  split at isValid
  · next isClosed noStart _ => exact .inl ⟨isClosed, noStart⟩
  · next startTime endTime isCustom isStart isEnd =>
      exact .inr ⟨isCustom, startTime, endTime, isStart, isEnd, isValid,
        stored.endTime endTime isEnd⟩
  · exact isValid.elim

theorem validateHoliday_data_iff (reads : ReadsMinutes parseTime) (stored : row.IsStored) :
    (validateHoliday parseTime row.data time = .ok () ↔ row.isWithinHours time = true) ↔
      ¬row.InCutMinute time := by
  rcases IsStored.cases stored with ⟨isClosed, noStart⟩ |
    ⟨isCustom, startTime, endTime, isStart, isEnd, ordered, bound⟩
  · have refused : validateHoliday parseTime row.data time = todayIsHoliday := by
      rw [validateHoliday, SectorHoliday.data, isClosed]
    simp [refused, todayIsHoliday, SectorHoliday.isWithinHours, SectorHoliday.isClosed, isClosed,
      SectorHoliday.InCutMinute, noStart]
  · have accepts : validateHoliday parseTime row.data time = .ok () ↔
        startTime / minute * minute ≤ time ∧ time ≤ endTime / minute * minute := by
      simp only [validateHoliday, SectorHoliday.data, isCustom, isStart, isEnd, Option.map_some,
        filled_hourMinute]
      rw [withinTimes_eq_ok_iff outsideWorkingHours_ne, TimesContain,
        reads startTime (ordered.trans bound), reads endTime bound]
      simp
    have within : row.isWithinHours time = true ↔ startTime ≤ time ∧ time ≤ endTime := by
      simp [SectorHoliday.isWithinHours, SectorHoliday.isClosed, isCustom, isStart, isEnd]
    have cut : row.InCutMinute time ↔
        (startTime / minute * minute ≤ time ∧ time < startTime ∧
            time ≤ endTime / minute * minute) ∨
          (startTime ≤ time ∧ endTime / minute * minute < time ∧ time ≤ endTime) := by
      simp [SectorHoliday.InCutMinute, isStart, isEnd]
    have startBefore := Nat.div_mul_le_self startTime minute
    have endBefore := Nat.div_mul_le_self endTime minute
    rw [accepts, within, cut]
    exact earlier_bounds_agree_iff startBefore endBefore

theorem holidayOf_of_selected (disjoint : NonOverlapping rows)
    {entry : (_ : Uuid) × SectorHoliday} (listed : entry ∈ rows.entries)
    (selected : entry.2.Selected key) : holidayOf key rows = some entry.2.data := by
  have found : entry ∈ rows.entries.filter fun entry => entry.2.Selected key :=
    List.mem_filter.mpr ⟨listed, decide_eq_true selected⟩
  rw [holidayOf]
  cases isFirst : (rows.entries.filter fun entry => entry.2.Selected key).argmin fun entry =>
      entry.2.date with
  | none =>
      rw [List.argmin_eq_none.mp isFirst] at found
      exact absurd found List.not_mem_nil
  | some first =>
      have isFound := List.mem_filter.mp (List.argmin_mem isFirst)
      rw [disjoint key entry listed selected first isFound.1 (of_decide_eq_true isFound.2)]
      rfl

theorem holidayOf_eq_none (uncovered : ∀ entry ∈ rows.entries, ¬entry.2.Selected key) :
    holidayOf key rows = none := by
  have noRows : (rows.entries.filter fun entry => entry.2.Selected key) = [] := by
    rw [List.filter_eq_nil_iff]
    intro entry listed
    simpa using uncovered entry listed
  rw [holidayOf, noRows]
  rfl

theorem forall_selected_iff (disjoint : NonOverlapping rows)
    {entry : (_ : Uuid) × SectorHoliday} (listed : entry ∈ rows.entries)
    (selected : entry.2.Selected key) (Holds : SectorHoliday → Prop) :
    (∀ other ∈ rows.entries, other.2.Selected key → Holds other.2) ↔ Holds entry.2 := by
  constructor
  · exact fun all => all entry listed selected
  · intro holds other isOther otherSelected
    rw [← disjoint key entry listed selected other isOther otherSelected]
    exact holds

/-- A contact is accepted by the decision table of the models exactly when no holiday that
decides has the time in one of its cut minutes. -/
theorem accepts_iff (parseTime : String → Option TimeOfDay) (reads : ReadsMinutes parseTime)
    (workingHours : Option WorkingHours) (sector : Uuid) (createdOn : DateTime)
    (rows : Table Uuid SectorHoliday) (disjoint : NonOverlapping rows)
    (stored : ∀ entry ∈ rows.entries, entry.2.IsStored) :
    (WorkingHoursValidator.validateWorkingHours parseTime workingHours sector createdOn rows =
        .ok () ↔ Accepts parseTime workingHours sector createdOn rows) ↔
      NoCutMinute workingHours sector createdOn rows := by
  cases workingHours with
  | none => simp [WorkingHoursValidator.validateWorkingHours, Accepts, NoCutMinute]
  | some config =>
      simp only [Accepts, NoCutMinute, Option.mem_some, forall_eq']
      by_cases closed : createdOn.date.isoweekday ∈ config.closedWeekdays
      · simp [WorkingHoursValidator.validateWorkingHours, closed, outsideWorkingHours_ne]
      · rw [validateWorkingHours_some sector rows closed]
        by_cases covered : ∃ entry ∈ rows.entries, entry.2.Selected (sector, createdOn.date)
        · rcases covered with ⟨entry, listed, selected⟩
          have decides := @validateHoliday_data_iff parseTime createdOn.time entry.2 reads
            (stored entry listed)
          have within := forall_selected_iff disjoint listed selected fun holiday =>
            holiday.isWithinHours createdOn.time = true
          have cut := forall_selected_iff disjoint listed selected fun holiday =>
            ¬holiday.InCutMinute createdOn.time
          have covers : ¬∀ other ∈ rows.entries, ¬other.2.Selected (sector, createdOn.date) :=
            fun none => none entry listed selected
          rw [holidayOf_of_selected disjoint listed selected, validateDay, within]
          simp only [closed, not_false_eq_true, true_and, covers, false_implies, and_true,
            true_implies, cut]
          exact decides
        · have uncovered : ∀ entry ∈ rows.entries,
              ¬entry.2.Selected (sector, createdOn.date) :=
            fun entry listed selected => covered ⟨entry, listed, selected⟩
          rw [holidayOf_eq_none uncovered, validateDay_none_iff]
          have allWithin : ∀ entry ∈ rows.entries, entry.2.Selected (sector, createdOn.date) →
              entry.2.isWithinHours createdOn.time = true :=
            fun entry listed selected => absurd selected (uncovered entry listed)
          have noneCut : ∀ entry ∈ rows.entries, entry.2.Selected (sector, createdOn.date) →
              ¬entry.2.InCutMinute createdOn.time :=
            fun entry listed selected => absurd selected (uncovered entry listed)
          simp only [closed, not_false_eq_true, true_and, true_implies]
          constructor
          · exact fun _ => noneCut
          · intro _
            constructor
            · exact fun accepts => ⟨allWithin, fun _ => accepts⟩
            · exact fun accepts => accepts.2 uncovered

end Holidays

/-! ## A holiday until the last second of the day -/

def twoDigits (first second : Char) : Option Nat :=
  if first.isDigit ∧ second.isDigit then
    some ((first.toNat - '0'.toNat) * 10 + (second.toNat - '0'.toNat))
  else none

def parseHourMinute (text : String) : Option TimeOfDay :=
  match text.toList with
  | [hour, hour', ':', minute, minute'] => do
      let hours ← twoDigits hour hour'
      let minutes ← twoDigits minute minute'
      if hours < 24 ∧ minutes < 60 then some ((hours * 60 + minutes) * ChatsEngine.Sectors.minute)
      else none
  | _ => none

theorem twoDigits_zeroFilled : ∀ number < 60,
    zeroFilled 2 number = [Nat.digitChar (number / 10), Nat.digitChar (number % 10)] ∧
      twoDigits (Nat.digitChar (number / 10)) (Nat.digitChar (number % 10)) = some number := by
  decide

theorem parseHourMinute_readsMinutes : ReadsMinutes parseHourMinute := by
  intro time inDay
  rw [dayLength] at inDay
  have minutesBound : time / minute < 24 * 60 :=
    Nat.div_lt_of_lt_mul ((Nat.mul_comm _ _).trans_gt inDay)
  have hours := twoDigits_zeroFilled (time / minute / 60) (by omega)
  have minutes := twoDigits_zeroFilled (time / minute % 60) (by omega)
  have text : (TimeOfDay.hourMinute time).toList =
      zeroFilled 2 (time / minute / 60) ++ ':' :: zeroFilled 2 (time / minute % 60) :=
    String.toList_ofList
  have whole : time / minute / 60 * 60 + time / minute % 60 = time / minute := by omega
  have inBounds : time / minute / 60 < 24 ∧ time / minute % 60 < 60 := by omega
  rw [parseHourMinute, text, hours.1, minutes.1]
  simp only [List.cons_append, List.nil_append, hours.2, minutes.2, Option.bind_eq_bind,
    Option.bind_some, if_pos inBounds, whole]

def customHours (startTime endTime : TimeOfDay) : SectorHoliday where
  sector := 1
  date := 739245
  dateEnd := none
  dayType := .customHours
  startTime := some startTime
  endTime := some endTime
  description := ""
  isDeleted := false

def oneRow (row : SectorHoliday) : Table Uuid SectorHoliday :=
  (∅ : Table Uuid SectorHoliday).insert 1 row

theorem nonOverlapping_oneRow (row : SectorHoliday) : NonOverlapping (oneRow row) := by
  intro key entry listed _ other isOther _
  have only : (oneRow row).entries = [⟨1, row⟩] := rfl
  rw [only, List.mem_singleton] at listed isOther
  rw [listed, isOther]

theorem isStored_customHours {startTime endTime : TimeOfDay} (ordered : startTime < endTime)
    (bound : endTime < dayLength) :
    ∀ entry ∈ (oneRow (customHours startTime endTime)).entries, entry.2.IsStored := by
  intro entry listed
  have only : (oneRow (customHours startTime endTime)).entries =
    [⟨1, customHours startTime endTime⟩] := rfl
  rw [only, List.mem_singleton] at listed
  rw [listed]
  refine ⟨ordered, ?_, ?_⟩
  · intro start isStart
    cases isStart
    exact ordered.trans bound
  · intro last isLast
    cases isLast
    exact bound

/-- From eight to six, and a contact at noon. -/
theorem whole_minutes_accept :
    WorkingHoursValidator.validateWorkingHours parseHourMinute openWednesday 1
        ⟨739245, 43200000000⟩ (oneRow (customHours 28800000000 64800000000)) = .ok () ↔
      Accepts parseHourMinute openWednesday 1 ⟨739245, 43200000000⟩
        (oneRow (customHours 28800000000 64800000000)) := by
  apply (accepts_iff parseHourMinute parseHourMinute_readsMinutes openWednesday 1
    ⟨739245, 43200000000⟩ (oneRow (customHours 28800000000 64800000000))
    (nonOverlapping_oneRow _) (isStored_customHours (by decide) (by decide))).mpr
  intro config isConfig _ entry listed _
  have only : (oneRow (customHours 28800000000 64800000000)).entries =
    [⟨1, customHours 28800000000 64800000000⟩] := rfl
  rw [only, List.mem_singleton] at listed
  rw [listed]
  decide

/-- Until the last second of the day, and a contact half a minute before midnight. -/
theorem last_minute_is_refused :
    ¬∀ (parseTime : String → Option TimeOfDay) (workingHours : Option WorkingHours)
      (sector : Uuid) (createdOn : DateTime) (rows : Table Uuid SectorHoliday),
      ReadsMinutes parseTime → NonOverlapping rows →
      (∀ entry ∈ rows.entries, entry.2.IsStored) →
      (WorkingHoursValidator.validateWorkingHours parseTime workingHours sector createdOn rows =
        .ok () ↔ Accepts parseTime workingHours sector createdOn rows) := by
  intro agrees
  have accepts := agrees parseHourMinute openWednesday 1 ⟨739245, 86370000000⟩
    (oneRow (customHours 28800000000 86399000000)) parseHourMinute_readsMinutes
    (nonOverlapping_oneRow _) (isStored_customHours (by decide) (by decide))
  have refused : WorkingHoursValidator.validateWorkingHours parseHourMinute openWednesday 1
      ⟨739245, 86370000000⟩ (oneRow (customHours 28800000000 86399000000)) ≠ .ok () := by
    decide
  apply refused
  apply accepts.mpr
  have only : (oneRow (customHours 28800000000 86399000000)).entries =
    [⟨1, customHours 28800000000 86399000000⟩] := rfl
  intro config isConfig
  refine ⟨?_, ?_, ?_⟩
  · cases isConfig
    decide
  · intro entry listed _
    rw [only, List.mem_singleton] at listed
    rw [listed]
    decide
  · intro uncovered
    exact absurd (uncovered _ (only ▸ List.mem_cons_self)) (by decide)

end ChatsEngine.Sectors
