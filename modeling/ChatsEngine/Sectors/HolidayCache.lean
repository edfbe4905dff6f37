import ChatsEngine.Foundation.Pool
import ChatsEngine.Foundation.Table
import ChatsEngine.Foundation.TtlStore
import ChatsEngine.Foundation.Versions
import ChatsEngine.Sectors.WorkingHours
import Mathlib.Data.List.MinMax

/-! # The cache of the holidays

A validation takes the holiday of its date from a cache, where it stays for five minutes. A
holiday that is saved or deleted removes the entries of its dates from the cache, after it has
been stored. -/

namespace ChatsEngine.Sectors

structure SectorHoliday where
  sector : Uuid
  date : Date
  dateEnd : Option Date
  dayType : DayType
  startTime : Option TimeOfDay
  endTime : Option TimeOfDay
  description : String
  isDeleted : Bool

abbrev HolidayKey := Uuid × Date

namespace SectorHoliday

def Selected (row : SectorHoliday) (key : HolidayKey) : Prop :=
  row.sector = key.1 ∧ row.isDeleted = false ∧
    (row.date = key.2 ∨ row.date ≤ key.2 ∧ ∃ last ∈ row.dateEnd, key.2 ≤ last)

instance (row : SectorHoliday) : DecidablePred row.Selected :=
  fun key => inferInstanceAs (Decidable (_ ∧ _ ∧ (_ ∨ _ ∧ ∃ last ∈ row.dateEnd, key.2 ≤ last)))

def data (row : SectorHoliday) : HolidayData where
  dayType := row.dayType
  startTime := row.startTime.map TimeOfDay.hourMinute
  endTime := row.endTime.map TimeOfDay.hourMinute
  description := row.description

def iterDates (row : SectorHoliday) : List Date :=
  List.range' row.date (row.dateEnd.getD row.date + 1 - row.date)

/-- The keys that `_invalidate_cache` deletes. -/
def cacheKeys (row : SectorHoliday) : List HolidayKey :=
  row.iterDates.map fun date => (row.sector, date)

/-- The keys for which the row may be selected. -/
def ownKeys (row : SectorHoliday) : List HolidayKey := (row.sector, row.date) :: row.cacheKeys

theorem mem_ownKeys_of_selected {row : SectorHoliday} {key : HolidayKey}
    (selected : row.Selected key) : key ∈ row.ownKeys := by
  rcases key with ⟨sector, date⟩
  rcases selected with ⟨isSector, _, isDate | ⟨after, last, isLast, before⟩⟩
  · exact List.mem_cons.mpr (.inl (Prod.ext isSector.symm isDate.symm))
  · refine List.mem_cons_of_mem _ (List.mem_map.mpr ⟨date, ?_, Prod.ext isSector rfl⟩)
    rw [iterDates, isLast, Option.getD_some, List.mem_range'_1]
    refine ⟨after, ?_⟩
    rw [Nat.add_sub_cancel' (Nat.le_succ_of_le (Nat.le_trans after before))]
    exact Nat.lt_succ_of_le before

def IsValid (row : SectorHoliday) : Prop :=
  match row.dayType, row.startTime, row.endTime with
  | .closed, none, none => True
  | .customHours, some startTime, some endTime => startTime < endTime
  | _, _, _ => False

instance : DecidablePred IsValid := by
  intro row
  unfold IsValid
  split <;> infer_instance

end SectorHoliday

/-- The holiday of a sector on a date: the first one of the query, which is ordered by date. -/
def holidayOf (key : HolidayKey) (rows : Table Uuid SectorHoliday) : Option HolidayData :=
  (((rows.entries.filter fun entry => entry.2.Selected key).argmin fun entry =>
    entry.2.date).map fun entry => entry.2.data)

/-- No other holiday of the sector begins on the same date, `unique_sector_holiday`. -/
def DateIsFree (rows : Table Uuid SectorHoliday) (pk : Uuid) (row : SectorHoliday) : Prop :=
  row.isDeleted = false → ∀ entry ∈ rows.entries, entry.1 ≠ pk → entry.2.isDeleted = false →
    ¬(entry.2.sector = row.sector ∧ entry.2.date = row.date)

instance (rows : Table Uuid SectorHoliday) (pk : Uuid) (row : SectorHoliday) :
    Decidable (DateIsFree rows pk row) := by
  unfold DateIsFree
  infer_instance

/-- What a change stores under a key, unless a constraint refuses it. -/
def storeHoliday (rows : Table Uuid SectorHoliday) (pk : Uuid) (row : SectorHoliday) :
    Option (Table Uuid SectorHoliday) :=
  if row.IsValid ∧ DateIsFree rows pk row then some (rows.insert pk row) else none

/-- An entry of the cache. No statement reads `seen`, the number of changes that had been made
when the entry was stored. -/
structure CachedHoliday where
  holiday : Option HolidayData
  seen : Nat

structure HolidayTables where
  now : Instant
  holidays : Versions (Table Uuid SectorHoliday)
  cache : TtlStore HolidayKey CachedHoliday

def holidayTtl : Nat := 300 * 1000000

structure Validation where
  sector : Uuid
  workingHours : WorkingHours
  createdOn : DateTime
  begins : beginValidation (some workingHours) createdOn = .inr workingHours
  /-- The changes that had returned when the validation started. -/
  since : List Nat

def Validation.key (validation : Validation) : HolidayKey :=
  (validation.sector, validation.createdOn.date)

inductive HolidayTask where
  | validate (sector : Uuid) (workingHours : Option WorkingHours) (createdOn : DateTime)
  /-- Create a holiday, or save an edited one. -/
  | save (pk : Uuid) (row : SectorHoliday)
  /-- Delete a holiday that has been loaded before. -/
  | delete (pk : Uuid) (row : SectorHoliday)

inductive HolidayProgress where
  | starting (task : HolidayTask)
  | reading (validation : Validation)
  | querying (validation : Validation)
  | storing (validation : Validation) (holiday : Option HolidayData)
  | decided (sector : Uuid) (workingHours : Option WorkingHours) (createdOn : DateTime)
      (since : List Nat) (result : Validated)
  | invalidating (number : Nat) (keys : List HolidayKey)

inductive HolidayChoice where
  | proceed
  /-- The cache cannot be reached while a key is to be deleted. -/
  | fails

inductive HolidaySurrounding where
  | tick (elapsed : Nat)
  | evict (key : HolidayKey)

/-- The rows that a change leaves, and the keys that it deletes from the cache. -/
def HolidayTask.write (rows : Table Uuid SectorHoliday) :
    HolidayTask → Option (Table Uuid SectorHoliday × List HolidayKey)
  | .validate _ _ _ => none
  | .save pk row => (storeHoliday rows pk row).map fun after => (after, row.cacheKeys)
  | .delete pk row =>
      -- only the flag is written, to the row as it is stored now
      (rows.lookup pk).bind fun stored =>
        (storeHoliday rows pk { stored with isDeleted := true }).map fun after =>
          (after, row.cacheKeys)

namespace HolidayProgress

section Statements

variable (parseTime : String → Option TimeOfDay)

def decide (validation : Validation) (holiday : Option HolidayData) : HolidayProgress :=
  .decided validation.sector (some validation.workingHours) validation.createdOn
    validation.since (validateDay parseTime validation.workingHours validation.createdOn holiday)

def advance (tables : HolidayTables) :
    HolidayProgress → HolidayChoice → Option (HolidayTables × Option HolidayProgress)
  | .starting (.validate sector workingHours createdOn), .proceed =>
      let since := tables.holidays.returned
      some (tables, some (
        match begins : beginValidation workingHours createdOn with
        | .inl result => .decided sector workingHours createdOn since result
        | .inr found =>
            .reading
              { sector
                workingHours := found
                createdOn
                begins := beginValidation_of_inr begins ▸ begins
                since }))
  | .starting task, .proceed =>
      match task.write tables.holidays.current with
      -- a constraint refuses the row
      | none => some (tables, none)
      | some (rows, keys) =>
          let holidays := tables.holidays.change rows
          some ({ tables with holidays }, some (.invalidating holidays.changes keys))
  | .reading validation, .proceed =>
      some (tables, some (
        match tables.cache.get tables.now validation.key with
        | some entry => decide parseTime validation entry.holiday
        | none => .querying validation))
  | .querying validation, .proceed =>
      some (tables,
        some (.storing validation (holidayOf validation.key tables.holidays.current)))
  | .storing validation holiday, .proceed =>
      some
        ({ tables with
            cache := tables.cache.set tables.now validation.key
              { holiday, seen := tables.holidays.changes } holidayTtl },
          some (decide parseTime validation holiday))
  | .decided _ _ _ _ _, .proceed => some (tables, none)
  | .invalidating number (key :: keys), .proceed =>
      some ({ tables with cache := tables.cache.delete key }, some (.invalidating number keys))
  | .invalidating number [], .proceed =>
      some ({ tables with holidays := tables.holidays.settle number }, none)
  -- the exception is passed over, with the keys that are left
  | .invalidating number (_ :: _), .fails =>
      some ({ tables with holidays := tables.holidays.settle number }, none)
  | .starting _, .fails | .reading _, .fails | .querying _, .fails | .storing _ _, .fails
  | .decided _ _ _ _ _, .fails | .invalidating _ [], .fails => none

end Statements

end HolidayProgress

def HolidayTables.surround (tables : HolidayTables) : HolidaySurrounding → Option HolidayTables
  | .tick elapsed => some { tables with now := tables.now + elapsed }
  | .evict key => some { tables with cache := tables.cache.delete key }

def holidayProgram (parseTime : String → Option TimeOfDay) :
    Program HolidayTables HolidayProgress HolidayTask HolidayChoice HolidaySurrounding where
  enter := .starting
  advance := HolidayProgress.advance parseTime
  surround := HolidayTables.surround

abbrev HolidayPool (Pid : Type) := Pool Pid HolidayTables HolidayProgress

abbrev HolidayEvent (Pid : Type) := PoolEvent Pid HolidayTask HolidayChoice HolidaySurrounding

/-- A validation decides as if it had read the holiday of its date from the table, at a moment
after which no change has altered the decision that had returned when it started. -/
def HolidayProgress.DecidesAsStored (parseTime : String → Option TimeOfDay)
    (tables : HolidayTables) : HolidayProgress → Prop
  | .decided sector workingHours createdOn since result =>
      tables.holidays.Answers since
        (fun rows => validateWorkingHours parseTime workingHours createdOn
          (holidayOf (sector, createdOn.date) rows)) result
  | _ => True

instance (parseTime : String → Option TimeOfDay) (tables : HolidayTables) :
    DecidablePred (HolidayProgress.DecidesAsStored parseTime tables) := by
  intro progress
  unfold HolidayProgress.DecidesAsStored
  split <;> infer_instance

def DecidesAsStored {Pid : Type} (parseTime : String → Option TimeOfDay)
    (pool : HolidayPool Pid) : Prop :=
  ∀ pid progress, pool.process pid = some progress →
    progress.DecidesAsStored parseTime pool.shared

namespace HolidayProgress

def touchedKeys (rows : Table Uuid SectorHoliday) : HolidayTask → List HolidayKey
  | .validate _ _ _ => []
  | .save pk row =>
      row.ownKeys ++ ((rows.lookup pk).map SectorHoliday.ownKeys).getD []
  | .delete pk _ => ((rows.lookup pk).map SectorHoliday.ownKeys).getD []

/-- A change that alters the holiday of a date is to delete it from the cache, unless it is not
there; a deletion fails only if what is left in the cache was stored after the change, or is of
a date whose holiday the change has not altered; and a holiday is stored in the cache only
while it is still the one of its date. -/
def KeepsCacheFresh (tables : HolidayTables) : HolidayProgress → HolidayChoice → Prop
  | .starting task, _ =>
      ∀ written ∈ task.write tables.holidays.current,
        ∀ key ∈ touchedKeys tables.holidays.current task,
          holidayOf key tables.holidays.current ≠ holidayOf key written.1 →
            key ∈ written.2 ∨ tables.cache.get tables.now key = none
  | .storing validation holiday, _ =>
      holidayOf validation.key tables.holidays.current = holiday
  | .invalidating number keys, .fails =>
      ∀ key ∈ keys, ∀ entry ∈ tables.cache.get tables.now key,
        number ≤ entry.seen ∨ ¬tables.holidays.Alters (holidayOf key) number
  | _, _ => True

instance (tables : HolidayTables) (progress : HolidayProgress)
    (choice : HolidayChoice) :
    Decidable (progress.KeepsCacheFresh tables choice) := by
  unfold KeepsCacheFresh
  split <;> infer_instance

end HolidayProgress

/-! ## Which holidays a change alters -/

theorem holidayOf_insert {rows : Table Uuid SectorHoliday} {pk : Uuid} {row : SectorHoliday}
    {key : HolidayKey} (spared : key ∉ row.ownKeys)
    (old : ∀ stored ∈ rows.lookup pk, key ∉ stored.ownKeys) :
    holidayOf key (rows.insert pk row) = holidayOf key rows := by
  have same : (rows.insert pk row).entries.filter (fun entry => entry.2.Selected key) =
      rows.entries.filter (fun entry => entry.2.Selected key) := by
    apply Table.filter_entries_insert fun entry : (_ : Uuid) × SectorHoliday =>
      entry.2.Selected key
    · intro selected
      exact spared (SectorHoliday.mem_ownKeys_of_selected selected)
    · intro stored isStored selected
      exact old stored isStored (SectorHoliday.mem_ownKeys_of_selected selected)
  rw [holidayOf, holidayOf, same]

theorem storeHoliday_eq_some {rows after : Table Uuid SectorHoliday} {pk : Uuid}
    {row : SectorHoliday} (stores : storeHoliday rows pk row = some after) :
    after = rows.insert pk row := by
  rw [storeHoliday] at stores
  split at stores
  · exact (Option.some.inj stores).symm
  · cases stores

theorem mem_touchedKeys {rows after : Table Uuid SectorHoliday} {task : HolidayTask}
    {keys : List HolidayKey} {key : HolidayKey} (writes : task.write rows = some (after, keys))
    (altered : holidayOf key rows ≠ holidayOf key after) :
    key ∈ HolidayProgress.touchedKeys rows task := by
  by_contra untouched
  apply altered
  cases task with
  | validate sector workingHours createdOn => cases writes
  | save pk row =>
      rcases Option.map_eq_some_iff.mp writes with ⟨stored, stores, same⟩
      cases same
      rw [storeHoliday_eq_some stores]
      rw [HolidayProgress.touchedKeys, List.mem_append, not_or] at untouched
      refine (holidayOf_insert untouched.1 ?_).symm
      intro old isStored
      rw [isStored] at untouched
      exact untouched.2
  | delete pk row =>
      rcases Option.bind_eq_some_iff.mp writes with ⟨old, isStored, writes⟩
      rcases Option.map_eq_some_iff.mp writes with ⟨stored, stores, same⟩
      cases same
      rw [storeHoliday_eq_some stores]
      rw [HolidayProgress.touchedKeys, isStored] at untouched
      have spared : key ∉ { old with isDeleted := true }.ownKeys := untouched
      refine (holidayOf_insert spared ?_).symm
      intro again isAgain
      cases Option.mem_unique isStored isAgain
      exact untouched

/-! ## The outline of the processes -/

section Outline

variable {tables after : HolidayTables} {task : HolidayTask} {number : Nat}
  {keys : List HolidayKey} {key : HolidayKey} {entry : CachedHoliday}

def HolidayTables.Cached (tables : HolidayTables) (key : HolidayKey) (entry : CachedHoliday) :
    Prop :=
  tables.cache.get tables.now key = some entry

/-- An entry is a holiday as it once was in the table, and reflects all changes that have
returned. -/
structure HolidayTables.Coherent (tables : HolidayTables) : Prop where
  made : tables.holidays.MadeBefore tables.holidays.returned
  read : ∀ key entry, tables.Cached key entry →
    holidayOf key (tables.holidays.version entry.seen) = entry.holiday
  reflects : ∀ key entry, tables.Cached key entry →
    tables.holidays.Reflects tables.holidays.returned (holidayOf key) entry.seen

def HolidayProgress.Assertion (parseTime : String → Option TimeOfDay) (tables : HolidayTables) :
    HolidayProgress → Prop
  | .starting _ => True
  | .reading validation => ∀ number ∈ validation.since, number ∈ tables.holidays.returned
  | .querying validation => tables.holidays.MadeBefore validation.since
  | .storing validation holiday =>
      tables.holidays.MadeBefore validation.since ∧
        tables.holidays.Answers validation.since (holidayOf validation.key) holiday
  | .decided sector workingHours createdOn since result =>
      tables.holidays.MadeBefore since ∧
        HolidayProgress.DecidesAsStored parseTime tables
          (.decided sector workingHours createdOn since result)
  | .invalidating number keys =>
      number ≤ tables.holidays.changes ∧
        ∀ key entry, tables.Cached key entry → entry.seen < number →
          key ∈ keys ∨ ¬tables.holidays.Alters (holidayOf key) number

/-- No change is undone, and an entry that is new has seen all of them. -/
structure HolidayTables.Proceeds (tables after : HolidayTables) : Prop where
  extended : tables.holidays.Extends after.holidays
  returned : ∀ number ∈ tables.holidays.returned, number ∈ after.holidays.returned
  cached : ∀ key entry, after.Cached key entry →
    tables.Cached key entry ∨ tables.holidays.changes ≤ entry.seen

theorem HolidayTables.Proceeds.refl (tables : HolidayTables) : tables.Proceeds tables where
  extended := .refl _
  returned := fun _ returned => returned
  cached := fun _ _ cached => .inl cached

theorem HolidayProgress.Assertion.decidesAsStored {parseTime : String → Option TimeOfDay}
    {progress : HolidayProgress} (holds : progress.Assertion parseTime tables) :
    progress.DecidesAsStored parseTime tables := by
  cases progress with
  | decided sector workingHours createdOn since result => exact holds.2
  | _ => trivial

theorem HolidayProgress.Assertion.stable {parseTime : String → Option TimeOfDay}
    {progress : HolidayProgress} (proceeds : tables.Proceeds after)
    (holds : progress.Assertion parseTime tables) : progress.Assertion parseTime after := by
  cases progress with
  | starting task => trivial
  | reading validation =>
      intro number listed
      exact proceeds.returned number (holds number listed)
  | querying validation => exact holds.extended proceeds.extended
  | storing validation holiday =>
      exact ⟨holds.1.extended proceeds.extended, holds.2.extended holds.1 proceeds.extended⟩
  | decided sector workingHours createdOn since result =>
      rcases holds with ⟨made, decided⟩
      refine ⟨made.extended proceeds.extended, ?_⟩
      unfold HolidayProgress.DecidesAsStored at decided ⊢
      exact decided.extended made proceeds.extended
  | invalidating number keys =>
      rcases holds with ⟨made, pending⟩
      refine ⟨Nat.le_trans made proceeds.extended.changes_le, ?_⟩
      intro key entry cached before
      rw [proceeds.extended.alters_iff made]
      rcases proceeds.cached key entry cached with old | new
      · exact pending key entry old before
      · omega

/-! What the statements do to the entries. -/

theorem HolidayTables.cached_of_delete {deleted : HolidayKey}
    (cached : HolidayTables.Cached { tables with cache := tables.cache.delete deleted } key entry) :
    tables.Cached key entry ∧ key ≠ deleted := by
  have different : key ≠ deleted := by
    intro same
    subst same
    rw [HolidayTables.Cached, TtlStore.get_delete_self] at cached
    cases cached
  rw [HolidayTables.Cached, TtlStore.get_delete_other different] at cached
  exact ⟨cached, different⟩

theorem HolidayTables.cached_of_set {stored : HolidayKey} {newest : CachedHoliday} {ttl : Nat}
    (positive : 0 < ttl)
    (cached : HolidayTables.Cached
      { tables with cache := tables.cache.set tables.now stored newest ttl } key entry) :
    key = stored ∧ entry = newest ∨ tables.Cached key entry := by
  by_cases same : key = stored
  · subst same
    rw [HolidayTables.Cached, TtlStore.get_set_self positive] at cached
    exact .inl ⟨rfl, (Option.some.inj cached).symm⟩
  · rw [HolidayTables.Cached, TtlStore.get_set_other same] at cached
    exact .inr cached

theorem HolidayTables.Coherent.of_fewer (coherent : tables.Coherent) (now : Instant)
    (cache : TtlStore HolidayKey CachedHoliday)
    (fewer : ∀ key entry, HolidayTables.Cached { tables with now, cache } key entry →
      tables.Cached key entry) :
    HolidayTables.Coherent { tables with now, cache } ∧
      tables.Proceeds { tables with now, cache } := by
  refine ⟨⟨coherent.made, ?_, ?_⟩, ⟨.refl _, fun _ returned => returned, ?_⟩⟩
  · intro key entry cached
    exact coherent.read key entry (fewer key entry cached)
  · intro key entry cached
    exact coherent.reflects key entry (fewer key entry cached)
  · intro key entry cached
    exact .inl (fewer key entry cached)

theorem HolidayTables.Coherent.store (coherent : tables.Coherent) {holiday : Option HolidayData}
    (isCurrent : holidayOf key tables.holidays.current = holiday) {ttl : Nat} (positive : 0 < ttl) :
    HolidayTables.Coherent
      { tables with
        cache := tables.cache.set tables.now key
          { holiday, seen := tables.holidays.changes } ttl } := by
  refine ⟨coherent.made, ?_, ?_⟩
  · intro own entry cached
    rcases HolidayTables.cached_of_set positive cached with ⟨rfl, rfl⟩ | before
    · exact isCurrent
    · exact coherent.read own entry before
  · intro own entry cached
    rcases HolidayTables.cached_of_set positive cached with ⟨rfl, rfl⟩ | before
    · exact Versions.reflects_current coherent.made
    · exact coherent.reflects own entry before

theorem HolidayTables.Coherent.change (coherent : tables.Coherent)
    (rows : Table Uuid SectorHoliday) :
    HolidayTables.Coherent { tables with holidays := tables.holidays.change rows } := by
  have extended := Versions.extends_change tables.holidays rows
  refine ⟨coherent.made.extended extended, ?_, ?_⟩
  · intro key entry cached
    have seen := (coherent.reflects key entry cached).1
    exact (congrArg (holidayOf key) (extended.version_eq _ seen)).trans
      (coherent.read key entry cached)
  · intro key entry cached
    exact (coherent.reflects key entry cached).extended coherent.made extended

theorem HolidayTables.Coherent.settle (coherent : tables.Coherent)
    (made : number ≤ tables.holidays.changes)
    (deleted : ∀ key entry, tables.Cached key entry → entry.seen < number →
      ¬tables.holidays.Alters (holidayOf key) number) :
    HolidayTables.Coherent { tables with holidays := tables.holidays.settle number } := by
  refine ⟨?_, coherent.read, ?_⟩
  · intro other returned
    rcases List.mem_cons.mp returned with rfl | before
    · exact made
    · exact coherent.made other before
  · intro key entry cached
    have reflects := coherent.reflects key entry cached
    refine ⟨reflects.1, ?_⟩
    intro other returned later
    rcases List.mem_cons.mp returned with rfl | before
    · exact deleted key entry cached later
    · exact reflects.2 other before later

theorem starting_change {rest : Option HolidayProgress} (coherent : tables.Coherent)
    (fresh : HolidayProgress.KeepsCacheFresh tables (.starting task) .proceed)
    (advanced :
      (match task.write tables.holidays.current with
        | none => some (tables, none)
        | some (rows, keys) =>
            some ({ tables with holidays := tables.holidays.change rows },
              some (HolidayProgress.invalidating (tables.holidays.changes + 1) keys))) =
        some (after, rest)) (parseTime : String → Option TimeOfDay) :
    after.Coherent ∧ tables.Proceeds after ∧
      ∀ remaining, rest = some remaining → remaining.Assertion parseTime after := by
  split at advanced
  · cases advanced
    exact ⟨coherent, .refl tables, fun _ ended => by cases ended⟩
  · next rows keys writes =>
      cases advanced
      refine ⟨coherent.change rows, ⟨Versions.extends_change _ rows, ?_, ?_⟩, ?_⟩
      · exact fun _ returned => returned
      · exact fun _ _ cached => .inl cached
      · intro remaining goesOn
        cases goesOn
        refine ⟨Nat.le_refl _, ?_⟩
        intro key entry cached _
        rw [Versions.alters_change_iff, or_iff_not_imp_right, not_not]
        intro altered
        have touched := mem_touchedKeys writes altered
        rcases fresh (rows, keys) writes key touched altered with deleted | absent
        · exact deleted
        · rw [HolidayTables.Cached, absent] at cached
          cases cached

theorem HolidayProgress.decide_assertion {parseTime : String → Option TimeOfDay}
    {validation : Validation} {holiday : Option HolidayData}
    (made : tables.holidays.MadeBefore validation.since)
    (answers : tables.holidays.Answers validation.since (holidayOf validation.key) holiday) :
    (HolidayProgress.decide parseTime validation holiday).Assertion parseTime tables := by
  have decided := answers.map fun found =>
    validateWorkingHours parseTime (some validation.workingHours) validation.createdOn found
  rw [validateWorkingHours, validation.begins] at decided
  exact ⟨made, decided⟩

theorem advance_read {parseTime : String → Option TimeOfDay} {next : HolidayProgress}
    (coherent : tables.Coherent) (holds : next.Assertion parseTime tables) :
    tables.Coherent ∧ tables.Proceeds tables ∧
      ∀ remaining, some next = some remaining → remaining.Assertion parseTime tables := by
  refine ⟨coherent, .refl tables, ?_⟩
  intro remaining goesOn
  cases goesOn
  exact holds

theorem advance_invalidating {parseTime : String → Option TimeOfDay} {keys : List HolidayKey}
    {rest : Option HolidayProgress} (coherent : tables.Coherent)
    (holds : HolidayProgress.Assertion parseTime tables (.invalidating number keys))
    (advanced : HolidayProgress.advance parseTime tables (.invalidating number keys) .proceed =
      some (after, rest)) :
    after.Coherent ∧ tables.Proceeds after ∧
      ∀ remaining, rest = some remaining → remaining.Assertion parseTime after := by
  rcases holds with ⟨made, pending⟩
  cases keys with
  | nil =>
      cases advanced
      refine ⟨coherent.settle made ?_, ?_, fun _ ended => by cases ended⟩
      · intro key entry cached before
        rcases pending key entry cached before with listed | unaltered
        · cases listed
        · exact unaltered
      · refine ⟨Versions.extends_settle _ number, ?_, fun _ _ cached => .inl cached⟩
        exact fun _ returned => List.mem_cons_of_mem number returned
  | cons deleted keys =>
      cases advanced
      rcases coherent.of_fewer tables.now (tables.cache.delete deleted) fun _ _ cached =>
        (HolidayTables.cached_of_delete cached).1 with ⟨stillCoherent, proceeds⟩
      refine ⟨stillCoherent, proceeds, ?_⟩
      intro remaining goesOn
      cases goesOn
      refine ⟨made, ?_⟩
      intro key entry cached before
      rcases HolidayTables.cached_of_delete cached with ⟨wasCached, different⟩
      rcases pending key entry wasCached before with listed | unaltered
      · rcases List.mem_cons.mp listed with same | later
        · exact absurd same different
        · exact .inl later
      · exact .inr unaltered

theorem advance_fails {parseTime : String → Option TimeOfDay} {progress : HolidayProgress}
    {rest : Option HolidayProgress}
    (advanced : progress.advance parseTime tables .fails = some (after, rest)) :
    ∃ number keys, progress = .invalidating number keys ∧ rest = none ∧
      after = { tables with holidays := tables.holidays.settle number } := by
  cases progress with
  | starting task => cases task <;> cases advanced
  | invalidating number keys =>
      cases keys with
      | nil => cases advanced
      | cons key keys =>
          cases advanced
          exact ⟨number, key :: keys, rfl, rfl, rfl⟩
  | _ => cases advanced

/-- The change returns, and leaves keys that do no harm. -/
theorem fail_invalidating {parseTime : String → Option TimeOfDay} {keys : List HolidayKey}
    (coherent : tables.Coherent)
    (holds : HolidayProgress.Assertion parseTime tables (.invalidating number keys))
    (fresh : HolidayProgress.KeepsCacheFresh tables (.invalidating number keys) .fails) :
    HolidayTables.Coherent { tables with holidays := tables.holidays.settle number } ∧
      tables.Proceeds { tables with holidays := tables.holidays.settle number } := by
  rcases holds with ⟨made, pending⟩
  constructor
  · apply coherent.settle made
    intro key entry cached before
    rcases pending key entry cached before with listed | unaltered
    · exact (fresh key listed entry cached).resolve_left (Nat.not_le_of_lt before)
    · exact unaltered
  · refine ⟨Versions.extends_settle _ number, ?_, fun _ _ cached => .inl cached⟩
    exact fun _ returned => List.mem_cons_of_mem number returned

theorem HolidayProgress.Assertion.advance {parseTime : String → Option TimeOfDay}
    {progress : HolidayProgress} {choice : HolidayChoice} {rest : Option HolidayProgress}
    (coherent : tables.Coherent) (holds : progress.Assertion parseTime tables)
    (fresh : progress.KeepsCacheFresh tables choice)
    (advanced : progress.advance parseTime tables choice = some (after, rest)) :
    after.Coherent ∧ tables.Proceeds after ∧
      ∀ remaining, rest = some remaining → remaining.Assertion parseTime after := by
  cases choice with
  | fails =>
      rcases advance_fails advanced with ⟨number, keys, rfl, rfl, rfl⟩
      rcases fail_invalidating coherent holds fresh with ⟨stillCoherent, proceeds⟩
      exact ⟨stillCoherent, proceeds, fun _ ended => by cases ended⟩
  | proceed =>
      cases progress with
      | starting task =>
          cases task with
          | validate sector workingHours createdOn =>
              cases advanced
              apply advance_read coherent
              split
              · next result begins =>
                  refine ⟨coherent.made, tables.holidays.changes, ?_,
                    Versions.reflects_current coherent.made⟩
                  dsimp only
                  rw [validateWorkingHours, begins]
              · exact fun _ returned => returned
          | save pk row => exact starting_change coherent fresh advanced parseTime
          | delete pk row => exact starting_change coherent fresh advanced parseTime
      | reading validation =>
          cases advanced
          apply advance_read coherent
          have made : tables.holidays.MadeBefore validation.since :=
            fun number listed => coherent.made number (holds number listed)
          split
          · next entry cached =>
              refine HolidayProgress.decide_assertion made ⟨entry.seen, coherent.read _ _ cached, ?_⟩
              have reflects := coherent.reflects _ _ cached
              exact ⟨reflects.1, fun number listed => reflects.2 number (holds number listed)⟩
          · exact made
      | querying validation =>
          cases advanced
          exact advance_read coherent ⟨holds, Versions.answers_current holds⟩
      | storing validation holiday =>
          cases advanced
          refine ⟨coherent.store fresh (by decide), ?_, ?_⟩
          · refine ⟨.refl _, fun _ returned => returned, ?_⟩
            intro key entry cached
            rcases HolidayTables.cached_of_set (by decide) cached with ⟨_, rfl⟩ | before
            · exact .inr (Nat.le_refl _)
            · exact .inl before
          · intro remaining goesOn
            cases goesOn
            exact HolidayProgress.decide_assertion holds.1 holds.2
      | decided sector workingHours createdOn since result =>
          cases advanced
          exact ⟨coherent, .refl tables, fun _ ended => by cases ended⟩
      | invalidating number keys => exact advance_invalidating coherent holds advanced

theorem HolidayTables.Coherent.surround {event : HolidaySurrounding} (coherent : tables.Coherent)
    (surrounded : tables.surround event = some after) :
    after.Coherent ∧ tables.Proceeds after := by
  cases event with
  | tick elapsed =>
      cases surrounded
      exact coherent.of_fewer (tables.now + elapsed) tables.cache
        fun _ _ cached => TtlStore.get_earlier cached (Nat.le_add_right _ _)
  | evict key =>
      cases surrounded
      exact coherent.of_fewer tables.now (tables.cache.delete key)
        fun _ _ cached => (HolidayTables.cached_of_delete cached).1

end Outline

section Run

variable (Pid : Type) (parseTime : String → Option TimeOfDay)

@[reducible] def AllKeepCacheFresh (pool : HolidayPool Pid) (event : HolidayEvent Pid) : Prop :=
  pool.OwnStep HolidayProgress.KeepsCacheFresh event

def holidayOutline : Outline (holidayProgram parseTime) (AllKeepCacheFresh Pid) where
  Invariant := HolidayTables.Coherent
  Assertion := fun tables progress => progress.Assertion parseTime tables
  Guarantee := HolidayTables.Proceeds
  enter := fun _ => trivial
  advance := fun meets running coherent holds advanced =>
    HolidayProgress.Assertion.advance coherent holds (meets.allowed running) advanced
  surround := fun _ coherent surrounded => coherent.surround surrounded
  stable := fun proceeds holds => holds.stable proceeds

def HolidayTables.fresh (now : Instant) (rows : Table Uuid SectorHoliday) : HolidayTables where
  now := now
  holidays := .unchanged rows
  cache := fun _ => none

theorem HolidayTables.fresh_coherent (now : Instant) (rows : Table Uuid SectorHoliday) :
    (HolidayTables.fresh now rows).Coherent where
  made := fun _ returned => by cases returned
  read := fun _ _ cached => by cases cached
  reflects := fun _ _ cached => by cases cached

variable {Pid} [DecidableEq Pid]

/-- If each change deletes the entries that it makes wrong, and no validation stores a holiday
that has been changed since it was read, then no validation decides by a holiday that a change
had altered that had returned when the validation started. -/
theorem validations_decide_as_stored (now : Instant) (rows : Table Uuid SectorHoliday)
    (final : HolidayPool Pid)
    (reaches : (holidayProgram parseTime).machine.Reaches (AllKeepCacheFresh Pid)
      (Pool.idle (.fresh now rows)) final) : DecidesAsStored parseTime final := by
  intro pid progress running
  have holds := (holidayOutline Pid parseTime).holds_of_reaches reaches
    ((holidayOutline Pid parseTime).holds_idle (HolidayTables.fresh_coherent now rows))
  exact (holds.locals pid progress running).decidesAsStored

end Run

/-! ## A holiday that is moved -/

def openWednesday : Option WorkingHours :=
  some
    { closedWeekdays := []
      staticHolidays := []
      schedules := [("wednesday", .one { start := some "08:00", «end» := some "18:00" })] }

def parseHour (text : String) : Option TimeOfDay :=
  if text = "08:00" then some 28800000000
  else if text = "18:00" then some 64800000000
  else none

def closedDays (date : Date) (dateEnd : Option Date) : SectorHoliday where
  sector := 1
  date := date
  dateEnd := dateEnd
  dayType := .closed
  startTime := none
  endTime := none
  description := ""
  isDeleted := false

def oneHoliday : HolidayTables :=
  .fresh 0 ((∅ : Table Uuid SectorHoliday).insert 1 (closedDays 739245 none))

/-- A contact at noon is validated, and puts the holiday into the cache. Then the holiday is
changed, and another contact is validated. -/
def validateAround (changed : SectorHoliday) (statements : Nat) (date : Date)
    (decides : Nat) : List (HolidayEvent Unit) :=
  .start () (.validate 1 openWednesday { date := 739245, time := 43200000000 }) ::
  List.replicate 5 (.advance () .proceed) ++ .start () (.save 1 changed) ::
  List.replicate statements (.advance () .proceed) ++
  .start () (.validate 1 openWednesday { date, time := 43200000000 }) ::
  List.replicate decides (.advance () .proceed)

/-- The holiday is moved to the next day, and contacts of its first day are still refused. -/
theorem moved_holiday_refuses_contacts :
    ¬ ∀ (parseTime : String → Option TimeOfDay) (now : Instant)
      (rows : Table Uuid SectorHoliday) (final : HolidayPool Unit),
      (holidayProgram parseTime).machine.Reaches Machine.anyStep (Pool.idle (.fresh now rows))
        final → DecidesAsStored parseTime final := by
  intro stored
  have decides : ((holidayProgram parseHour).machine.run (Pool.idle oneHoliday)
      (validateAround (closedDays 739246 none) 3 739245 2)).map (fun pool =>
        (pool.process ()).map fun progress =>
          decide (progress.DecidesAsStored parseHour pool.shared)) = some (some false) := by
    decide
  rcases Option.map_eq_some_iff.mp decides with ⟨final, ran, observed⟩
  rcases Option.map_eq_some_iff.mp observed with ⟨progress, running, otherwise⟩
  exact of_decide_eq_false otherwise (stored parseHour 0 _ final (.of_run ran) () progress running)

def HolidayProgress.decision : HolidayProgress → Option Validated
  | .decided _ _ _ _ result => some result
  | _ => none

/-- The holiday is prolonged by a day, on which contacts are refused as well. -/
theorem prolonged_holiday_refuses_contacts :
    ∃ final, (holidayProgram parseHour).machine.runMeeting (AllKeepCacheFresh Unit)
        (Pool.idle oneHoliday) (validateAround (closedDays 739245 (some 739246)) 4 739246 4) =
        some final ∧ DecidesAsStored parseHour final := by
  have decides : ((holidayProgram parseHour).machine.runMeeting (AllKeepCacheFresh Unit)
      (Pool.idle oneHoliday) (validateAround (closedDays 739245 (some 739246)) 4 739246 4)).map
        (fun pool => (pool.process ()).bind HolidayProgress.decision) =
      some (some todayIsHoliday) := by
    decide
  rcases Option.map_eq_some_iff.mp decides with ⟨final, ran, _⟩
  exact ⟨final, ran, validations_decide_as_stored parseHour 0 _ final (.of_runMeeting ran)⟩

end ChatsEngine.Sectors
