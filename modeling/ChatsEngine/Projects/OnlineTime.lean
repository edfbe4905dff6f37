import ChatsEngine.Foundation.Switches
import ChatsEngine.Projects.StatusLog
import Mathlib.Data.List.Sort
import Mathlib.Data.Prod.Lex

/-! # How long an agent has been online

`build_agent_log_maps` joins the daily logs of an agent, sorts the changes by the texts of their
timestamps and sums up the intervals at which the agent was online. The logs leave out changes
that repeat the one before them. What is reported is how long the latest status that a task has
executed was online, as long as the executions are in the order of their timestamps and the
project's clock is not set back between them. -/

namespace ChatsEngine.Projects.OnlineTime

open StatusLog

/-! ## The calculator -/

def onlineStates : List String := ["ONLINE", "In-Service"]

def isOnline (event : StatusEntry) : Bool := event.status ∈ onlineStates

/-- The body of the loop. -/
def countEvent (tally : Tally) (event : StatusEntry) : Tally :=
  if isOnline event = true ∧ tally.since = none then
    { tally with since := some event.timestamp }
  else if isOnline event = false then
    match tally.since with
    | none => tally
    | some onlineStart => ⟨tally.total + ((event.timestamp : Int) - onlineStart), none⟩
  else tally

/-- `calculate_online_time`. The last interval is closed with the present, if it is given. -/
def calculateOnlineTime (allStatusChanges : List StatusEntry) (now : Option Instant) : Int :=
  let tally := allStatusChanges.foldl countEvent ⟨0, none⟩
  match now with
  | none => tally.total
  | some now => tally.closed now

section Texts

variable (timezone : Timezone)

/-- What the clock on the wall shows, in microseconds. -/
def localTime (instant : Instant) : Int := (instant : Nat) + timezone instant

/-- The order of the texts that `isoformat` writes: they begin with the local time, and end with
the offset, whose sign is a plus or, which is the greater character, a minus. -/
def textKey (instant : Instant) : Int ×ₗ Bool ×ₗ Nat :=
  toLex (localTime timezone instant,
    toLex (decide (timezone instant < 0), (timezone instant).natAbs))

def sortByTimestamp (events : List StatusEntry) : List StatusEntry :=
  events.insertionSort fun left right =>
    textKey timezone left.timestamp ≤ textKey timezone right.timestamp

end Texts

section Logs

variable (store : StatusStore) (project : Uuid) (startDate endDate : Int) (agent : UserEmail)

def agentLogs : List ((_ : LogKey) × List StatusEntry) :=
  (store.logs.entries.filter fun log => log.1.project = project ∧ log.1.agent = agent ∧
    startDate ≤ log.1.logDate ∧ log.1.logDate ≤ endDate).insertionSort fun left right =>
      left.1.logDate ≤ right.1.logDate

def agentEvents : List StatusEntry :=
  (agentLogs store project startDate endDate agent).flatMap (·.2)

/-- The date in UTC. -/
def today : Int := (store.now : Int) / microsecondsOfDay

/-- `online_time_map`, in seconds. An agent without changes is not in the map. -/
def onlineTime (timezone : Timezone) : Option Int :=
  let events := agentEvents store project startDate endDate agent
  if events.isEmpty then none
  else some ((calculateOnlineTime (sortByTimestamp timezone events)
    (if today store ≤ endDate then some store.now else none)).tdiv 1000000)

end Logs

theorem countEvent_eq : countEvent = Tally.add StatusEntry.timestamp isOnline := by
  funext tally event
  rw [countEvent, Tally.add]
  rcases tally with ⟨total, since⟩
  cases isOnline event <;> cases since <;> rfl

/-! ## Days -/

section Days

def days (startDate endDate : Int) : List Int :=
  (List.range (endDate - startDate + 1).toNat).map fun (number : Nat) => startDate + number

theorem mem_days {startDate endDate date : Int} :
    date ∈ days startDate endDate ↔ startDate ≤ date ∧ date ≤ endDate := by
  unfold days
  rw [List.mem_map]
  constructor
  · intro listed
    rcases listed with ⟨number, within, rfl⟩
    have bound := List.mem_range.mp within
    omega
  · intro within
    exact ⟨(date - startDate).toNat, List.mem_range.mpr (by omega), by omega⟩

theorem pairwise_days (startDate endDate : Int) : (days startDate endDate).Pairwise (· < ·) := by
  unfold days
  rw [List.pairwise_map]
  exact List.pairwise_lt_range.imp fun order => by omega

variable {Change : Type} {before after : Int → List Change} {date : Int} {change : Change}

theorem flatMap_append_last {dates : List Int} (sorted : dates.Pairwise (· < ·))
    (member : date ∈ dates) (others : ∀ other, other ≠ date → after other = before other)
    (here : after date = before date ++ [change])
    (later : ∀ other, date < other → before other = []) :
    dates.flatMap after = dates.flatMap before ++ [change] := by
  induction dates with
  | nil => cases member
  | cons first dates induction =>
      rcases List.pairwise_cons.mp sorted with ⟨least, rest⟩
      rw [List.flatMap_cons, List.flatMap_cons]
      by_cases same : first = date
      · have none : ∀ other ∈ dates, before other = [] ∧ after other = [] := by
          intro other listed
          have order := least other listed
          rw [same] at order
          rw [others other (by omega)]
          exact ⟨later other order, later other order⟩
        have empty : dates.flatMap before = [] :=
          List.flatMap_eq_nil_iff.mpr fun other listed => (none other listed).1
        have emptyAfter : dates.flatMap after = [] :=
          List.flatMap_eq_nil_iff.mpr fun other listed => (none other listed).2
        rw [same, here, empty, emptyAfter, List.append_nil, List.append_nil]
      · have further : date ∈ dates := by
          rcases List.mem_cons.mp member with isFirst | further
          · exact absurd isFirst.symm same
          · exact further
        rw [others first same, induction rest further, List.append_assoc]

end Days

section Rows

variable {store : StatusStore} {project : Uuid} {startDate endDate : Int} {agent : UserEmail}

def dayLog (store : StatusStore) (project : Uuid) (agent : UserEmail) (date : Int) :
    Option ((_ : LogKey) × List StatusEntry) :=
  (store.logs.lookup ⟨agent, project, date⟩).map fun changes => ⟨⟨agent, project, date⟩, changes⟩

theorem dayLog_eq_some_iff {date : Int} {log : (_ : LogKey) × List StatusEntry} :
    dayLog store project agent date = some log ↔
      log.1 = ⟨agent, project, date⟩ ∧ store.logs.lookup log.1 = some log.2 := by
  rcases log with ⟨key, changes⟩
  unfold dayLog
  rw [Option.map_eq_some_iff]
  constructor
  · intro isRow
    rcases isRow with ⟨stored, found, same⟩
    cases same
    exact ⟨rfl, found⟩
  · intro isRow
    rcases isRow with ⟨rfl, found⟩
    exact ⟨changes, found, rfl⟩

theorem mem_dayLogs (log : (_ : LogKey) × List StatusEntry) :
    log ∈ (days startDate endDate).filterMap (dayLog store project agent) ↔
      log ∈ store.logs.entries.filter fun log => log.1.project = project ∧
        log.1.agent = agent ∧ startDate ≤ log.1.logDate ∧ log.1.logDate ≤ endDate := by
  rw [List.mem_filterMap, List.mem_filter, Table.mem_entries_iff, decide_eq_true_iff]
  constructor
  · intro listed
    rcases listed with ⟨date, within, isRow⟩
    rcases dayLog_eq_some_iff.mp isRow with ⟨isKey, found⟩
    refine ⟨found, ?_⟩
    rw [isKey]
    exact ⟨rfl, rfl, mem_days.mp within⟩
  · intro selected
    rcases log with ⟨⟨own, ownProject, date⟩, changes⟩
    rcases selected with ⟨found, rfl, rfl, within⟩
    exact ⟨date, mem_days.mpr within, dayLog_eq_some_iff.mpr ⟨rfl, found⟩⟩

theorem pairwise_dayLogs :
    ((days startDate endDate).filterMap (dayLog store project agent)).Pairwise
      fun left right => left.1.logDate < right.1.logDate := by
  apply List.Pairwise.filterMap _ _ (pairwise_days startDate endDate)
  intro date other order log isRow otherLog isOther
  rw [(dayLog_eq_some_iff.mp isRow).1, (dayLog_eq_some_iff.mp isOther).1]
  exact order

theorem agentLogs_eq :
    agentLogs store project startDate endDate agent =
      (days startDate endDate).filterMap (dayLog store project agent) := by
  have nodup : ((days startDate endDate).filterMap (dayLog store project agent)).Nodup := by
    apply pairwise_dayLogs.imp
    intro left right order same
    rw [same] at order
    exact Int.lt_irrefl _ order
  have perm : ((days startDate endDate).filterMap (dayLog store project agent)).Perm
      (store.logs.entries.filter fun log => log.1.project = project ∧ log.1.agent = agent ∧
        startDate ≤ log.1.logDate ∧ log.1.logDate ≤ endDate) :=
    (List.perm_ext_iff_of_nodup nodup
      ((List.Nodup.of_map _ store.logs.keys_nodup).filter _)).mpr mem_dayLogs
  have ordered : (agentLogs store project startDate endDate agent).Pairwise
      fun left right => left.1.logDate ≤ right.1.logDate := by
    have sorted := List.pairwise_insertionSort
      (fun left right : (_ : LogKey) × List StatusEntry => left.1.logDate ≤ right.1.logDate)
    exact sorted _
  have sameRows : (agentLogs store project startDate endDate agent).Perm
      ((days startDate endDate).filterMap (dayLog store project agent)) :=
    (List.perm_insertionSort _ _).trans perm.symm
  apply List.Perm.eq_of_pairwise _ ordered (pairwise_dayLogs.imp le_of_lt) sameRows
  intro left right member listed order back
  rcases List.mem_filterMap.mp (sameRows.subset member) with ⟨date, _, isLeft⟩
  rcases List.mem_filterMap.mp listed with ⟨other, _, isRight⟩
  have sameDate : date = other := by
    rw [(dayLog_eq_some_iff.mp isLeft).1, (dayLog_eq_some_iff.mp isRight).1] at order back
    exact Int.le_antisymm order back
  rw [sameDate] at isLeft
  exact Option.some.inj (isLeft.symm.trans isRight)

theorem agentEvents_eq :
    agentEvents store project startDate endDate agent =
      (days startDate endDate).flatMap fun date =>
        store.statusChanges ⟨agent, project, date⟩ := by
  rw [agentEvents, agentLogs_eq]
  induction days startDate endDate with
  | nil => rfl
  | cons date dates induction =>
      rw [List.filterMap_cons, List.flatMap_cons, ← induction, dayLog, StatusStore.statusChanges]
      cases store.logs.lookup ⟨agent, project, date⟩ with
      | none => rfl
      | some changes => rfl

end Rows

/-! ## Statuses in order -/

section Order

variable {zone : Timezone}

/-- The second instant is not earlier, and the clock on the wall has not been set back. -/
def Before (zone : Timezone) (first second : Instant) : Prop :=
  first ≤ second ∧ (first < second → localTime zone first < localTime zone second)

instance (zone : Timezone) (first second : Instant) : Decidable (Before zone first second) :=
  inferInstanceAs (Decidable (_ ∧ (_ → _)))

theorem Before.localTime_le {first second : Instant} (before : Before zone first second) :
    localTime zone first ≤ localTime zone second := by
  rcases Nat.lt_or_eq_of_le before.1 with earlier | same
  · exact Int.le_of_lt (before.2 earlier)
  · rw [same]

theorem Before.localDate_le {first second : Instant} (before : Before zone first second) :
    localDate zone first ≤ localDate zone second :=
  Int.ediv_le_ediv (by decide) before.localTime_le

theorem Before.textKey_le {first second : Instant} (before : Before zone first second) :
    textKey zone first ≤ textKey zone second := by
  rcases Nat.lt_or_eq_of_le before.1 with earlier | same
  · exact Prod.Lex.toLex_le_toLex.mpr (.inl (before.2 earlier))
  · rw [same]

theorem sortByTimestamp_eq {events : List StatusEntry}
    (ordered : events.Pairwise fun left right => Before zone left.timestamp right.timestamp) :
    sortByTimestamp zone events = events := by
  have sorted : events.Pairwise fun left right =>
      textKey zone left.timestamp ≤ textKey zone right.timestamp :=
    ordered.imp fun before => before.textKey_le
  exact sorted.insertionSort_eq

end Order

/-! ## What is executed -/

section Invariant

variable (zone : Timezone) (project : Uuid) (agent : UserEmail)

def Execution.IsOf (execution : Execution) : Prop :=
  execution.key.agent = agent ∧ execution.key.project = project

instance (execution : Execution) : Decidable (Execution.IsOf project agent execution) :=
  inferInstanceAs (Decidable (_ ∧ _))

/-- The statuses that have been executed for the agent on the days of a range. -/
def history (store : StatusStore) (startDate endDate : Int) : List StatusEntry :=
  ((store.executed.filter fun execution => Execution.IsOf project agent execution ∧
    startDate ≤ execution.key.logDate ∧ execution.key.logDate ≤ endDate).map
      Execution.statusEntry).reverse

/-- An execution commits in the order of its timestamp, with the clock on the wall going on. -/
def InOrder (store : StatusStore) (session : Session LogWrite LogLocal) (choice : LogChoice) :
    Prop :=
  match session.locals.stage, choice with
  | .committing execution, .returns => Execution.IsOf project agent execution →
      ∀ other ∈ store.executed, Execution.IsOf project agent other →
        Before zone other.statusEntry.timestamp execution.statusEntry.timestamp
  | _, _ => True

def InZone (projects : List ProjectRow) : Prop :=
  ∀ row, (projects.find? fun row => row.uuid = project) = some row → row.timezone = zone

def KeepsZone {Pid : Type} : LogEvent Pid → Prop
  | .surround (.changeProjects projects) => InZone zone project projects
  | _ => True

def Meets {Pid : Type} [DecidableEq Pid] (sessions : LogSessions Pid) (event : LogEvent Pid) :
    Prop :=
  logProgram.OwnStep (InOrder zone project agent) sessions event ∧ KeepsZone zone project event

/-- An entry has been made, for the day that it had been in the project. -/
structure Stamped (now : Instant) (key : LogKey) (statusEntry : StatusEntry) : Prop where
  made : statusEntry.timestamp ≤ now
  dated : key.project = project → key.logDate = localDate zone statusEntry.timestamp

def Dated (now : Instant) (task : LogTask) : LogStage → Prop
  | .gettingCustomStatus timezone | .readingClock timezone _ =>
      task.projectUuid = project → timezone = zone
  | .gettingLog key statusEntry | .creatingLog key statusEntry
  | .gettingLogAgain key statusEntry | .saving key statusEntry _ =>
      Stamped zone project now key statusEntry
  | .committing execution => Stamped zone project now execution.key execution.statusEntry
  | _ => True

/-- The logs against what has been executed. -/
structure Kept (store : StatusStore) : Prop where
  inZone : InZone zone project store.projects
  stamped : ∀ execution ∈ store.executed,
    Stamped zone project store.now execution.key execution.statusEntry
  ordered : (store.executed.filter fun execution =>
    Execution.IsOf project agent execution).Pairwise fun later earlier =>
      Before zone earlier.statusEntry.timestamp later.statusEntry.timestamp
  logged : ∀ key, ∀ statusEntry ∈ store.statusChanges key, ∃ execution ∈ store.executed,
    execution.key = key ∧ execution.statusEntry = statusEntry
  events_ordered : ∀ startDate endDate,
    (agentEvents store project startDate endDate agent).Pairwise fun left right =>
      Before zone left.timestamp right.timestamp
  tally_eq : ∀ startDate endDate,
    (agentEvents store project startDate endDate agent).foldl countEvent ⟨0, none⟩ =
      (history project agent store startDate endDate).foldl countEvent ⟨0, none⟩
  nil_iff : ∀ startDate endDate,
    agentEvents store project startDate endDate agent = [] ↔
      history project agent store startDate endDate = []

end Invariant

section Commit

variable {zone : Timezone} {project : Uuid} {agent : UserEmail} {store after : StatusStore}
  {execution : Execution} {startDate endDate : Int}

def Selected (project : Uuid) (agent : UserEmail) (startDate endDate : Int)
    (execution : Execution) : Prop :=
  Execution.IsOf project agent execution ∧ startDate ≤ execution.key.logDate ∧
    execution.key.logDate ≤ endDate

instance (execution : Execution) :
    Decidable (Selected project agent startDate endDate execution) :=
  inferInstanceAs (Decidable (_ ∧ _ ∧ _))

theorem key_eq (isOf : Execution.IsOf project agent execution) :
    (⟨agent, project, execution.key.logDate⟩ : LogKey) = execution.key := by
  rcases execution with ⟨⟨own, ownProject, date⟩, statusEntry, lastChange⟩
  rcases isOf with ⟨rfl, rfl⟩
  rfl

theorem history_commit (commits : Commits store after execution) :
    history project agent after startDate endDate =
      if Selected project agent startDate endDate execution then
        history project agent store startDate endDate ++ [execution.statusEntry]
      else history project agent store startDate endDate := by
  unfold history
  rw [commits.executed]
  split
  · next selected =>
    rw [List.filter_cons_of_pos (by simpa [Selected] using selected), List.map_cons,
      List.reverse_cons]
  · next notSelected =>
    rw [List.filter_cons_of_neg (by simpa [Selected] using notSelected)]

theorem statusChanges_later (kept : Kept zone project agent store)
    (isOf : Execution.IsOf project agent execution)
    (stamped : Stamped zone project store.now execution.key execution.statusEntry)
    (inOrder : ∀ other ∈ store.executed, Execution.IsOf project agent other →
      Before zone other.statusEntry.timestamp execution.statusEntry.timestamp)
    {date : Int} (later : execution.key.logDate < date) :
    store.statusChanges ⟨agent, project, date⟩ = [] := by
  apply List.eq_nil_iff_forall_not_mem.mpr
  intro statusEntry listed
  rcases kept.logged _ statusEntry listed with ⟨other, executed, isKey, rfl⟩
  have otherIsOf : Execution.IsOf project agent other := by
    rw [Execution.IsOf, isKey]
    exact ⟨rfl, rfl⟩
  have otherDated := (kept.stamped other executed).dated otherIsOf.2
  have dated := stamped.dated isOf.2
  have order := (inOrder other executed otherIsOf).localDate_le
  rw [isKey] at otherDated
  rw [← otherDated, ← dated] at order
  exact absurd later (Int.not_lt.mpr order)

theorem agentEvents_other (commits : Commits store after execution)
    (notSelected : ¬Selected project agent startDate endDate execution) :
    agentEvents after project startDate endDate agent =
      agentEvents store project startDate endDate agent := by
  rw [agentEvents_eq, agentEvents_eq]
  apply List.flatMap_congr
  intro date within
  unfold StatusStore.statusChanges
  rw [commits.others]
  intro same
  apply notSelected
  rw [Selected, Execution.IsOf, ← same]
  exact ⟨⟨rfl, rfl⟩, mem_days.mp within⟩

theorem agentEvents_repeated (commits : Commits store after execution)
    (repeated : ¬execution.Changes) :
    agentEvents after project startDate endDate agent =
      agentEvents store project startDate endDate agent := by
  rw [agentEvents_eq, agentEvents_eq]
  apply List.flatMap_congr
  intro date _
  unfold StatusStore.statusChanges
  by_cases same : (⟨agent, project, date⟩ : LogKey) = execution.key
  · rw [same, commits.repeated repeated]
  · rw [commits.others _ same]

theorem agentEvents_changed (kept : Kept zone project agent store)
    (commits : Commits store after execution)
    (selected : Selected project agent startDate endDate execution)
    (stamped : Stamped zone project store.now execution.key execution.statusEntry)
    (inOrder : ∀ other ∈ store.executed, Execution.IsOf project agent other →
      Before zone other.statusEntry.timestamp execution.statusEntry.timestamp)
    (changes : execution.Changes) :
    agentEvents after project startDate endDate agent =
      agentEvents store project startDate endDate agent ++ [execution.statusEntry] := by
  rw [agentEvents_eq, agentEvents_eq]
  have isKey := key_eq selected.1
  apply flatMap_append_last (pairwise_days startDate endDate) (mem_days.mpr selected.2)
  · intro date different
    unfold StatusStore.statusChanges
    rw [commits.others]
    intro same
    rw [← same] at different
    exact different rfl
  · rw [isKey]
    have changed := commits.changed changes
    rw [StatusStore.statusChanges, changed]
    rfl
  · intro date later
    exact statusChanges_later kept selected.1 stamped inOrder later

theorem getLast_of_repeated (kept : Kept zone project agent store)
    (commits : Commits store after execution)
    (selected : Selected project agent startDate endDate execution)
    (stamped : Stamped zone project store.now execution.key execution.statusEntry)
    (inOrder : ∀ other ∈ store.executed, Execution.IsOf project agent other →
      Before zone other.statusEntry.timestamp execution.statusEntry.timestamp)
    (repeated : ¬execution.Changes) :
    ∃ first last, agentEvents store project startDate endDate agent = first ++ [last] ∧
      last.Repeats execution.statusEntry := by
  simp only [Execution.Changes, not_forall, not_not] at repeated
  rcases repeated with ⟨last, isLast, repeats⟩
  have found : (store.statusChanges execution.key).getLast? = some last :=
    commits.lastChange.trans isLast
  rcases List.getLast?_eq_some_iff.mp found with ⟨first, split⟩
  let earlier : Int → List StatusEntry := Function.update
    (fun date => store.statusChanges ⟨agent, project, date⟩) execution.key.logDate first
  refine ⟨(days startDate endDate).flatMap earlier, last, ?_, repeats⟩
  rw [agentEvents_eq]
  apply flatMap_append_last (pairwise_days startDate endDate) (mem_days.mpr selected.2)
  · intro date different
    simp only [earlier, Function.update_of_ne different]
  · simp only [earlier, Function.update_self]
    rw [key_eq selected.1]
    exact split
  · intro date later
    simp only [earlier, Function.update_of_ne (Int.ne_of_gt later)]
    exact statusChanges_later kept selected.1 stamped inOrder later

theorem isOnline_of_repeats {left right : StatusEntry} (repeats : left.Repeats right) :
    isOnline left = isOnline right := by
  unfold isOnline
  rw [repeats.1]

/-- What a commit adds to the history it adds to the logs, unless it repeats the last change
there. -/
theorem agentEvents_commit (kept : Kept zone project agent store)
    (commits : Commits store after execution)
    (stamped : Stamped zone project store.now execution.key execution.statusEntry)
    (inOrder : Execution.IsOf project agent execution →
      ∀ other ∈ store.executed, Execution.IsOf project agent other →
        Before zone other.statusEntry.timestamp execution.statusEntry.timestamp)
    (startDate endDate : Int) :
    (history project agent after startDate endDate =
        history project agent store startDate endDate ∧
      agentEvents after project startDate endDate agent =
        agentEvents store project startDate endDate agent) ∨
    (Execution.IsOf project agent execution ∧
      history project agent after startDate endDate =
        history project agent store startDate endDate ++ [execution.statusEntry] ∧
      (agentEvents after project startDate endDate agent =
          agentEvents store project startDate endDate agent ++ [execution.statusEntry] ∨
        agentEvents after project startDate endDate agent =
          agentEvents store project startDate endDate agent ∧
        ∃ first last, agentEvents store project startDate endDate agent = first ++ [last] ∧
          last.Repeats execution.statusEntry)) := by
  rw [history_commit commits]
  by_cases selected : Selected project agent startDate endDate execution
  · rw [if_pos selected]
    refine .inr ⟨selected.1, rfl, ?_⟩
    by_cases changes : execution.Changes
    · exact .inl (agentEvents_changed kept commits selected stamped (inOrder selected.1) changes)
    · exact .inr ⟨agentEvents_repeated commits changes,
        getLast_of_repeated kept commits selected stamped (inOrder selected.1) changes⟩
  · rw [if_neg selected]
    exact .inl ⟨rfl, agentEvents_other commits selected⟩

theorem ordered_of_commit (kept : Kept zone project agent store)
    (commits : Commits store after execution)
    (inOrder : Execution.IsOf project agent execution →
      ∀ other ∈ store.executed, Execution.IsOf project agent other →
        Before zone other.statusEntry.timestamp execution.statusEntry.timestamp) :
    (after.executed.filter fun execution => Execution.IsOf project agent execution).Pairwise
      fun later earlier => Before zone earlier.statusEntry.timestamp
        later.statusEntry.timestamp := by
  rw [commits.executed]
  by_cases isOf : Execution.IsOf project agent execution
  · rw [List.filter_cons_of_pos (by simpa using isOf)]
    refine List.pairwise_cons.mpr ⟨?_, kept.ordered⟩
    intro other listed
    have selected := List.mem_filter.mp listed
    exact inOrder isOf other selected.1 (of_decide_eq_true selected.2)
  · rw [List.filter_cons_of_neg (by simpa using isOf)]
    exact kept.ordered

theorem logged_of_commit (kept : Kept zone project agent store)
    (commits : Commits store after execution) (key : LogKey) :
    ∀ statusEntry ∈ after.statusChanges key, ∃ other ∈ after.executed,
      other.key = key ∧ other.statusEntry = statusEntry := by
  intro statusEntry listed
  rw [commits.executed]
  have before : statusEntry ∈ store.statusChanges key →
      ∃ other ∈ execution :: store.executed, other.key = key ∧
        other.statusEntry = statusEntry := by
    intro listed
    rcases kept.logged key statusEntry listed with ⟨other, executed, same⟩
    exact ⟨other, List.mem_cons_of_mem _ executed, same⟩
  by_cases same : key = execution.key
  · subst same
    by_cases changes : execution.Changes
    · rw [StatusStore.statusChanges, commits.changed changes] at listed
      rcases List.mem_append.mp listed with old | new
      · exact before old
      · exact ⟨execution, List.mem_cons_self, rfl, (List.mem_singleton.mp new).symm⟩
    · rw [StatusStore.statusChanges, commits.repeated changes] at listed
      exact before listed
  · rw [StatusStore.statusChanges, commits.others key same] at listed
    exact before listed

theorem Kept.of_mem_agentEvents (kept : Kept zone project agent store)
    {statusEntry : StatusEntry}
    (listed : statusEntry ∈ agentEvents store project startDate endDate agent) :
    ∃ other ∈ store.executed, Execution.IsOf project agent other ∧
      other.statusEntry = statusEntry := by
  rw [agentEvents_eq] at listed
  rcases List.mem_flatMap.mp listed with ⟨date, _, logged⟩
  rcases kept.logged _ statusEntry logged with ⟨other, executed, isKey, same⟩
  refine ⟨other, executed, ?_, same⟩
  rw [Execution.IsOf, isKey]
  exact ⟨rfl, rfl⟩

theorem Kept.commit (kept : Kept zone project agent store)
    (commits : Commits store after execution) (sameNow : after.now = store.now)
    (sameProjects : after.projects = store.projects)
    (stamped : Stamped zone project store.now execution.key execution.statusEntry)
    (inOrder : Execution.IsOf project agent execution →
      ∀ other ∈ store.executed, Execution.IsOf project agent other →
        Before zone other.statusEntry.timestamp execution.statusEntry.timestamp) :
    Kept zone project agent after where
  inZone := by
    rw [sameProjects]
    exact kept.inZone
  stamped := by
    intro other executed
    rw [sameNow]
    rw [commits.executed] at executed
    rcases List.mem_cons.mp executed with rfl | before
    · exact stamped
    · exact kept.stamped other before
  ordered := ordered_of_commit kept commits inOrder
  logged := logged_of_commit kept commits
  events_ordered := by
    intro startDate endDate
    rcases agentEvents_commit kept commits stamped inOrder startDate endDate with
      ⟨_, same⟩ | ⟨isOf, _, added | ⟨same, _⟩⟩
    · rw [same]
      exact kept.events_ordered startDate endDate
    · rw [added, List.pairwise_append]
      refine ⟨kept.events_ordered startDate endDate, List.pairwise_singleton _ _, ?_⟩
      intro statusEntry listed last isLast
      rw [List.mem_singleton.mp isLast]
      rcases kept.of_mem_agentEvents listed with ⟨other, executed, otherIsOf, rfl⟩
      exact inOrder isOf other executed otherIsOf
    · rw [same]
      exact kept.events_ordered startDate endDate
  tally_eq := by
    intro startDate endDate
    rcases agentEvents_commit kept commits stamped inOrder startDate endDate with
      ⟨sameHistory, same⟩ | ⟨_, longer, added | ⟨same, first, last, events, repeats⟩⟩
    · rw [sameHistory, same]
      exact kept.tally_eq startDate endDate
    · rw [longer, added, List.foldl_append, List.foldl_append, kept.tally_eq]
    · rw [longer, same, List.foldl_append, ← kept.tally_eq, List.foldl_cons, List.foldl_nil,
        events, countEvent_eq]
      symm
      apply Tally.add_of_repeats
      rw [Tally.since_foldl_concat]
      exact isOnline_of_repeats repeats
  nil_iff := by
    intro startDate endDate
    rcases agentEvents_commit kept commits stamped inOrder startDate endDate with
      ⟨sameHistory, same⟩ | ⟨_, longer, added | ⟨same, first, last, events, _⟩⟩
    · rw [sameHistory, same]
      exact kept.nil_iff startDate endDate
    · rw [longer, added]
      simp
    · rw [longer, same, events]
      simp

end Commit

/-! ## The tasks -/

section Steps

variable {zone : Timezone} {project : Uuid} {agent : UserEmail} {store view : StatusStore}
  {task : LogTask} {stage : LogStage}

theorem Stamped.later {now later : Instant} {key : LogKey} {statusEntry : StatusEntry}
    (stamped : Stamped zone project now key statusEntry) (order : now ≤ later) :
    Stamped zone project later key statusEntry :=
  ⟨stamped.made.trans order, stamped.dated⟩

theorem Dated.later {now later : Instant} (dated : Dated zone project now task stage)
    (order : now ≤ later) : Dated zone project later task stage := by
  cases stage with
  | gettingLog _ _ | creatingLog _ _ | gettingLogAgain _ _ | saving _ _ _ | committing _ =>
      exact Stamped.later dated order
  | _ => exact dated

@[simp] theorem newEntry_timestamp (status : String) (customStatusName : Option String)
    (timestamp : Instant) :
    (newEntry status customStatusName timestamp).timestamp = timestamp := by
  unfold newEntry
  split
  · rfl
  · split <;> rfl

theorem write_keeps (store : StatusStore) (write : LogWrite) :
    (store.write write).now = store.now ∧ (store.write write).projects = store.projects := by
  cases write <;> exact ⟨rfl, rfl⟩

theorem writeAll_keeps (store : StatusStore) (writes : List LogWrite) :
    (logProgram.writeAll store writes).now = store.now ∧
      (logProgram.writeAll store writes).projects = store.projects := by
  induction writes generalizing store with
  | nil => exact ⟨rfl, rfl⟩
  | cons write writes induction =>
      have kept := write_keeps store write
      have rest := induction (store.write write)
      exact ⟨rest.1.trans kept.1, rest.2.trans kept.2⟩

theorem executed_of_prepared {pending : List LogWrite} {execution : Execution}
    (prepared : Prepared store pending execution) :
    (logProgram.writeAll store pending).executed = store.executed := by
  cases prepared <;> rfl

theorem dated_afterComparison {now : Instant} {key : LogKey} {statusEntry : StatusEntry}
    {statusChanges : List StatusEntry} (stamped : Stamped zone project now key statusEntry) :
    Dated zone project now task (afterComparison key statusEntry statusChanges) := by
  unfold afterComparison
  split
  · split
    · exact stamped
    · exact stamped
  · exact stamped

theorem dated_advance (inZone : InZone zone project view.projects)
    (dated : Dated zone project view.now task stage) {locals : LogLocal}
    (isNext : (advance view task stage).next = .proceed locals) :
    Dated zone project view.now locals.task locals.stage := by
  cases stage with
  | gettingAgent =>
      rw [advance] at isNext
      split at isNext
      · cases isNext
        trivial
      · cases isNext
  | gettingProject =>
      rw [advance] at isNext
      split at isNext
      · cases isNext
      · next row found =>
        have ofRow : task.projectUuid = project → row.timezone = zone := by
          intro same
          rw [same] at found
          exact inZone row found
        split at isNext
        · cases isNext
          exact ofRow
        · cases isNext
          exact ofRow
  | gettingCustomStatus timezone =>
      cases isNext
      exact dated
  | readingClock timezone customStatusName =>
      cases isNext
      refine ⟨?_, ?_⟩
      · rw [newEntry_timestamp]
      · intro same
        rw [newEntry_timestamp, ← show timezone = zone from dated same]
  | gettingLog key statusEntry =>
      rw [advance] at isNext
      split at isNext
      · cases isNext
        exact dated
      · cases isNext
        exact dated_afterComparison dated
  | creatingLog key statusEntry =>
      rw [advance] at isNext
      split at isNext
      · cases isNext
        exact dated
      · cases isNext
        exact dated
  | gettingLogAgain key statusEntry =>
      rw [advance] at isNext
      split at isNext
      · cases isNext
      · cases isNext
        exact dated_afterComparison dated
  | saving key statusEntry statusChanges =>
      cases isNext
      exact dated
  | committing execution => cases isNext

theorem Kept.surround (kept : Kept zone project agent store) {after : StatusStore}
    (logs : after.logs = store.logs) (executed : after.executed = store.executed)
    (order : store.now ≤ after.now) (inZone : InZone zone project after.projects) :
    Kept zone project agent after := by
  rcases store with ⟨now, agents, projects, customStatuses, storeLogs, storeExecuted⟩
  rcases after with ⟨afterNow, afterAgents, afterProjects, afterStatuses, afterLogs,
    afterExecuted⟩
  cases logs
  cases executed
  exact {
    inZone := inZone
    stamped := fun execution listed => (kept.stamped execution listed).later order
    ordered := kept.ordered
    logged := kept.logged
    events_ordered := kept.events_ordered
    tally_eq := kept.tally_eq
    nil_iff := kept.nil_iff }

end Steps

section Outline

variable (zone : Timezone) (project : Uuid) (agent : UserEmail)

def onlineOutline (Pid : Type) [DecidableEq Pid] :
    SessionOutline logProgram
      (Meets zone project agent : LogSessions Pid → LogEvent Pid → Prop) where
  Invariant store := Recorded store ∧ Kept zone project agent store
  Assertion owns store session := session.locals.stage.Knows owns store session.pending ∧
    Dated zone project store.now session.locals.task session.locals.stage
  enter := fun _ _ => ⟨rfl, trivial⟩
  proceed := by
    intro sessions pid choice session statement locals _ running invariant holds advanced isNext
    refine ⟨(logOutline Pid).proceed trivial running invariant.1 holds.1 advanced isNext, ?_⟩
    rcases program_advance advanced with ⟨_, rfl⟩ | ⟨_, rfl⟩
    · cases isNext
    · have view := writeAll_keeps sessions.store session.pending
      have inZone := invariant.2.inZone
      have dated := holds.2
      rw [← view.2] at inZone
      rw [← view.1] at dated ⊢
      exact dated_advance inZone dated isNext
  commit := by
    intro sessions pid choice session statement rest meets running invariant holds advanced isNext
    rcases commitStep_of_commit holds.1 advanced isNext with ⟨ended, execution, committed⟩
    have recorded :=
      ((logOutline Pid).commit trivial running invariant.1 holds.1 advanced isNext).1
    have stamped := holds.2
    rw [committed.stage] at stamped
    have knows := holds.1
    rw [committed.stage] at knows
    have inOrder := meets.1.allowed running
    simp only [InOrder, committed.stage, committed.returns] at inOrder
    rw [SessionProgram.view, executed_of_prepared knows.2.2] at inOrder
    have keeps := writeAll_keeps sessions.store (session.pending ++ statement.writes)
    refine ⟨⟨recorded, invariant.2.commit committed.commits keeps.1 keeps.2 stamped inOrder⟩, ?_⟩
    intro locals isRest
    cases ended.symm.trans isRest
  commitOther := by
    intro sessions pid choice session statement rest _ running invariant holds advanced isNext
      owns other apart otherHolds
    have keeps := writeAll_keeps sessions.store (session.pending ++ statement.writes)
    refine ⟨(logOutline Pid).commitOther trivial running invariant.1 holds.1 advanced isNext owns
      other apart otherHolds.1, ?_⟩
    rw [keeps.1]
    exact otherHolds.2
  rollback := by
    intro sessions pid choice session statement rest locals _ running invariant holds advanced
      isNext isRest
    rcases program_advance advanced with ⟨_, rfl⟩ | ⟨_, rfl⟩
    · cases isNext
      cases isRest
    · cases (rest_of_rollback isNext).symm.trans isRest
  surround := by
    intro sessions event store meets invariant surrounded
    have any : Machine.anyStep sessions (PoolEvent.surround event : LogEvent Pid) := trivial
    have base := (logOutline Pid).surround any invariant.1 surrounded
    have later : sessions.store.now ≤ store.now ∧ store.logs = sessions.store.logs ∧
        store.executed = sessions.store.executed ∧ InZone zone project store.projects := by
      cases event with
      | tick elapsed =>
          cases surrounded
          exact ⟨Nat.le_add_right _ _, rfl, rfl, invariant.2.inZone⟩
      | changeAgents agents =>
          cases surrounded
          exact ⟨le_refl _, rfl, rfl, invariant.2.inZone⟩
      | changeProjects projects =>
          cases surrounded
          exact ⟨le_refl _, rfl, rfl, meets.2⟩
      | changeCustomStatuses customStatuses =>
          cases surrounded
          exact ⟨le_refl _, rfl, rfl, invariant.2.inZone⟩
    refine ⟨⟨base.1, invariant.2.surround later.2.1 later.2.2.1 later.1 later.2.2.2⟩, ?_⟩
    intro owns session holds
    exact ⟨base.2 owns session holds.1, holds.2.later later.1⟩

theorem agentEvents_initial (now : Instant) (agents : List UserEmail)
    (projects : List ProjectRow) (customStatuses : List CustomStatusRow)
    (startDate endDate : Int) :
    agentEvents (.initial now agents projects customStatuses) project startDate endDate agent =
      [] := by
  rw [agentEvents_eq]
  exact List.flatMap_eq_nil_iff.mpr fun _ _ => rfl

theorem initial_kept {zone : Timezone} {project : Uuid} (now : Instant) (agents : List UserEmail)
    {projects : List ProjectRow} (customStatuses : List CustomStatusRow)
    (inZone : InZone zone project projects) :
    Kept zone project agent (.initial now agents projects customStatuses) where
  inZone := inZone
  stamped := nofun
  ordered := List.Pairwise.nil
  logged := nofun
  events_ordered := by
    intro startDate endDate
    rw [agentEvents_initial]
    exact List.Pairwise.nil
  tally_eq := by
    intro startDate endDate
    rw [agentEvents_initial]
    rfl
  nil_iff := by
    intro startDate endDate
    rw [agentEvents_initial]
    exact ⟨fun _ => rfl, fun _ => rfl⟩

end Outline

/-! ## What is reported -/

section Report

variable {zone : Timezone} {project : Uuid} {agent : UserEmail} {store : StatusStore}

theorem Kept.chronological (kept : Kept zone project agent store) (startDate endDate : Int) :
    Chronological StatusEntry.timestamp (history project agent store startDate endDate) := by
  unfold Chronological history
  rw [List.pairwise_reverse, List.pairwise_map]
  have sublist : (store.executed.filter fun execution => Execution.IsOf project agent execution ∧
      startDate ≤ execution.key.logDate ∧ execution.key.logDate ≤ endDate).Sublist
        (store.executed.filter fun execution => Execution.IsOf project agent execution) := by
    apply List.monotone_filter_right
    intro execution selected
    exact decide_eq_true (of_decide_eq_true selected).1
  exact (kept.ordered.sublist sublist).imp fun before => before.1

theorem Kept.made (kept : Kept zone project agent store) (startDate endDate : Int) :
    ∀ statusEntry ∈ history project agent store startDate endDate,
      statusEntry.timestamp ≤ store.now := by
  intro statusEntry listed
  rw [history, List.mem_reverse] at listed
  rcases List.mem_map.mp listed with ⟨execution, selected, rfl⟩
  exact (kept.stamped execution (List.mem_filter.mp selected).1).made

/-- How long the agent was online according to the executed statuses: until the present or, if
the range ends before today, until the last status that is not online. -/
def timeOnline (project : Uuid) (agent : UserEmail) (store : StatusStore)
    (startDate endDate : Int) : Nat :=
  onTime StatusEntry.timestamp isOnline (history project agent store startDate endDate)
    (if today store ≤ endDate then store.now
      else lastOff StatusEntry.timestamp isOnline (history project agent store startDate endDate))

theorem Kept.onlineTime_eq (kept : Kept zone project agent store) (startDate endDate : Int) :
    onlineTime store project startDate endDate agent zone =
      if history project agent store startDate endDate = [] then none
      else some ((timeOnline project agent store startDate endDate / 1000000 : Nat) : Int) := by
  have counts : Tally.Counts StatusEntry.timestamp isOnline _ _ :=
    Tally.counts_foldl (kept.chronological startDate endDate)
  rw [← countEvent_eq, ← kept.tally_eq startDate endDate] at counts
  have total : calculateOnlineTime (agentEvents store project startDate endDate agent)
      (if today store ≤ endDate then some store.now else none) =
        (timeOnline project agent store startDate endDate : Int) := by
    unfold timeOnline calculateOnlineTime
    by_cases ongoing : today store ≤ endDate
    · rw [if_pos ongoing, if_pos ongoing]
      exact counts.closed_eq (kept.made startDate endDate)
    · rw [if_neg ongoing, if_neg ongoing]
      exact counts.total_eq
  unfold onlineTime
  simp only [List.isEmpty_iff, kept.nil_iff startDate endDate,
    sortByTimestamp_eq (kept.events_ordered startDate endDate), total]
  rfl

end Report

/-- However the tasks interleave, the reported seconds are those at which the latest status
that has been executed for the agent was online, in every run in which the executions commit in
the order of their timestamps and the project's clock is not set back between them. -/
theorem online_time_is_reported {Pid : Type} [DecidableEq Pid] {zone : Timezone}
    {project : Uuid} {agent : UserEmail} {now : Instant} {agents : List UserEmail}
    {projects : List ProjectRow} {customStatuses : List CustomStatusRow}
    (inZone : InZone zone project projects) {current : LogSessions Pid}
    (reaches : logProgram.machine.Reaches (Meets zone project agent)
      (Sessions.idle (.initial now agents projects customStatuses)) current)
    (startDate endDate : Int) :
    onlineTime current.store project startDate endDate agent zone =
      if history project agent current.store startDate endDate = [] then none
      else some ((timeOnline project agent current.store startDate endDate / 1000000 : Nat) :
        Int) := by
  have holds := (onlineOutline zone project agent Pid).holds_of_reaches reaches
    ((onlineOutline zone project agent Pid).holds_idle
      ⟨initial_recorded now agents projects customStatuses,
        initial_kept agent now agents customStatuses inZone⟩)
  exact holds.store.2.onlineTime_eq startDate endDate

/-! An agent who is online for eight seconds, which are reported twice, and again for one. -/

section Witness

instance (zone : Timezone) (project : Uuid) (agent : UserEmail) (store : StatusStore)
    (session : Session LogWrite LogLocal) (choice : LogChoice) :
    Decidable (InOrder zone project agent store session choice) := by
  unfold InOrder
  split <;> infer_instance

def utc : Timezone := fun _ => 0

def OnlyTicks : LogEvent Worker → Prop
  | .surround (.tick _) | .start _ _ | .advance _ _ | .kill _ => True
  | _ => False

instance : (event : LogEvent Worker) → Decidable (OnlyTicks event)
  | .surround (.tick _) | .start _ _ | .advance _ _ | .kill _ => inferInstanceAs (Decidable True)
  | .surround (.changeAgents _) | .surround (.changeProjects _)
  | .surround (.changeCustomStatuses _) => inferInstanceAs (Decidable False)

theorem OnlyTicks.keepsZone {zone : Timezone} {project : Uuid} {event : LogEvent Worker}
    (only : OnlyTicks event) : KeepsZone zone project event := by
  cases event with
  | surround event =>
      cases event with
      | changeProjects projects => cases only
      | _ => trivial
  | _ => trivial

def ticks (seconds : Nat) : List (LogEvent Worker) := [.surround (.tick (seconds * 1000000))]

def nineSeconds : List (LogEvent Worker) :=
  [.start .first (changeTo "ONLINE")] ++ advances .first 7 ++ ticks 5 ++
    [.start .second (changeTo "ONLINE")] ++ advances .second 6 ++ ticks 3 ++
    [.start .first (changeTo "OFFLINE")] ++ advances .first 7 ++ ticks 2 ++
    [.start .second (changeTo "ONLINE")] ++ advances .second 7 ++ ticks 1

theorem nine_seconds_are_reported :
    ∃ current : LogSessions Worker,
      onlineTime current.store 1 0 0 "agent@weni.ai" utc = some 9 ∧
      onlineTime current.store 1 0 0 "agent@weni.ai" utc =
        if history 1 "agent@weni.ai" current.store 0 0 = [] then none
        else some ((timeOnline 1 "agent@weni.ai" current.store 0 0 / 1000000 : Nat) : Int) := by
  have ends : (logProgram.machine.runMeeting
      (fun (sessions : LogSessions Worker) event =>
        logProgram.OwnStep (InOrder utc 1 "agent@weni.ai") sessions event ∧ OnlyTicks event)
      (Sessions.idle (.initial 0 ["agent@weni.ai"] [⟨1, utc⟩] [])) nineSeconds).map
        (fun current => onlineTime current.store 1 0 0 "agent@weni.ai" utc) = some (some 9) := by
    decide +kernel
  rcases Option.map_eq_some_iff.mp ends with ⟨current, ran, reported⟩
  have inZone : InZone utc 1 [⟨1, utc⟩] := by
    intro row found
    cases found
    rfl
  exact ⟨current, reported, online_time_is_reported inZone
    ((Machine.Reaches.of_runMeeting ran).mono fun _ _ meets =>
      ⟨meets.1, meets.2.keepsZone⟩) 0 0⟩

end Witness

end ChatsEngine.Projects.OnlineTime
