import ChatsEngine.Dashboard.ReportParts

/-! # Attempts that are resumed

As long as every attempt finds the first parts of each table, it goes on with the next one,
and leads to complete tables. -/

namespace ChatsEngine.Dashboard

/-! ## The parts of a queryset -/

/-- The queryset of a table, which is empty if no parts are written. -/
def ReportConfig.source (config : ReportConfig) (table : ReportTable) : QuerySet :=
  (config.processed table).getD ⟨[], []⟩

/-- The lines of a part. Only the first one has a header. -/
def QuerySet.partLines (queryset : QuerySet) (size index : Nat) : List Line :=
  chunkLines queryset.columns (part queryset.rows size index) (index = 0)

/-- How many parts the names can tell in order. -/
def nameLimit : Nat := 10 ^ 6

theorem partName_lt {index later : Nat} (less : index < later) (bound : later < nameLimit) :
    partName index < partName later :=
  zeroFilled_append_lt less bound _

theorem partName_inj {index other : Nat} (bound : index < nameLimit)
    (otherBound : other < nameLimit) (same : partName index = partName other) : index = other := by
  rcases Nat.lt_trichotomy index other with less | equal | greater
  · exact absurd same (partName_lt less otherBound).ne
  · exact equal
  · exact absurd same.symm (partName_lt greater bound).ne

variable {queryset : QuerySet} {size count index : Nat} {parts : Parts} {table : ReportTable}
  {config : ReportConfig} {fields : List String}

def QuerySet.Sound (queryset : QuerySet) (size : Nat) (parts : Parts) : Prop :=
  ∀ name ∈ parts, ∃ index < partCount queryset.rows size, name = partName index ∧
    parts.lookup name = some (queryset.partLines size index)

/-- Exactly the first parts of the queryset are stored. -/
structure QuerySet.Stored (queryset : QuerySet) (size : Nat) (parts : Parts) (count : Nat) :
    Prop where
  bound : count ≤ partCount queryset.rows size
  names : parts.keys.Perm ((List.range count).map partName)
  lines : ∀ index < count, parts.lookup (partName index) = some (queryset.partLines size index)

def FirstParts (parts : Parts) : Prop := ∀ index < parts.keys.length, partName index ∈ parts

instance (parts : Parts) : Decidable (FirstParts parts) :=
  inferInstanceAs (Decidable (∀ index < parts.keys.length, _))

section Stored

variable (few : partCount queryset.rows size ≤ nameLimit)
include few

theorem nodup_map_partName (bound : count ≤ partCount queryset.rows size) :
    ((List.range count).map partName).Nodup := by
  apply List.Nodup.map_on _ List.nodup_range
  intro index member other otherMember same
  rw [List.mem_range] at member otherMember
  exact partName_inj (by omega) (by omega) same

theorem QuerySet.Sound.stored (sound : queryset.Sound size parts) (first : FirstParts parts) :
    queryset.Stored size parts parts.keys.length := by
  have within : parts.keys ⊆ (List.range (partCount queryset.rows size)).map partName := by
    intro name member
    rcases sound name (AList.mem_keys.mpr member) with ⟨index, early, rfl, _⟩
    exact List.mem_map_of_mem (List.mem_range.mpr early)
  have bound : parts.keys.length ≤ partCount queryset.rows size := by
    simpa using (List.subperm_of_subset parts.keys_nodup within).length_le
  refine ⟨bound, ?_, ?_⟩
  · have firstNames : (List.range parts.keys.length).map partName ⊆ parts.keys := by
      intro name member
      rcases List.mem_map.mp member with ⟨index, early, rfl⟩
      exact AList.mem_keys.mp (first index (List.mem_range.mp early))
    have all := List.subperm_of_subset (nodup_map_partName few bound) firstNames
    exact (all.perm_of_length_le (by simp)).symm
  · intro index early
    rcases sound (partName index) (first index early) with ⟨other, otherEarly, same, stored⟩
    have equal := partName_inj (by omega) (by omega) same
    rw [stored, equal]

namespace QuerySet.Stored

omit few in
theorem mem_iff (stored : queryset.Stored size parts count) (name : PartName) :
    name ∈ parts ↔ ∃ index < count, partName index = name := by
  rw [AList.mem_keys, stored.names.mem_iff, List.mem_map]
  simp only [List.mem_range]

omit few in
theorem sound (stored : queryset.Stored size parts count) : queryset.Sound size parts := by
  intro name member
  rcases (stored.mem_iff name).mp member with ⟨index, early, rfl⟩
  exact ⟨index, Nat.lt_of_lt_of_le early stored.bound, rfl, stored.lines index early⟩

theorem listExistingParts_eq (stored : queryset.Stored size parts count) :
    listExistingParts parts = (List.range count).map partName := by
  apply insertionSort_eq_of_perm _ stored.names
  intro index later less early
  have bound := stored.bound
  exact partName_lt less (by omega)

theorem notMem (stored : queryset.Stored size parts count)
    (more : count < partCount queryset.rows size) : partName count ∉ parts := by
  intro taken
  rcases (stored.mem_iff _).mp taken with ⟨index, early, same⟩
  have equal := partName_inj (by omega) (by omega) same
  omega

theorem save (stored : queryset.Stored size parts count)
    (more : count < partCount queryset.rows size) :
    queryset.Stored size (parts.insert (partName count) (queryset.partLines size count))
      (count + 1) := by
  have free := stored.notMem few more
  refine ⟨more, ?_, ?_⟩
  · rw [Table.keys_insert_of_notMem free, List.range_succ, List.map_append]
    exact (stored.names.cons _).trans (List.perm_append_singleton _ _).symm
  · intro index early
    rcases Nat.lt_succ_iff_lt_or_eq.mp early with before | rfl
    · have apart : partName index ≠ partName count := (partName_lt before (by omega)).ne
      rw [AList.lookup_insert_ne apart]
      exact stored.lines index before
    · exact AList.lookup_insert _

theorem contents_eq (stored : queryset.Stored size parts count) :
    (listExistingParts parts).filterMap parts.lookup =
      (List.range count).map (queryset.partLines size) := by
  rw [stored.listExistingParts_eq few, List.filterMap_map]
  rw [← List.filterMap_eq_map]
  apply List.filterMap_congr
  intro index member
  exact stored.lines index (List.mem_range.mp member)

end QuerySet.Stored

end Stored

/-! ## Tables from all parts -/

theorem partLines_ne_nil (positive : 0 < size) (early : index < partCount queryset.rows size) :
    queryset.partLines size index ≠ [] := by
  rw [QuerySet.partLines, chunkLines]
  split
  · simp
  · exact part_ne_nil positive early

theorem flatten_partLines (positive : 0 < size) (some_rows : queryset.rows ≠ []) :
    ((List.range (partCount queryset.rows size)).map (queryset.partLines size)).flatten =
      queryset.columns :: queryset.rows := by
  have all := flatMap_part queryset.rows positive
  cases parts : partCount queryset.rows size with
  | zero => exact absurd ((partCount_eq_zero_iff positive).mp parts) some_rows
  | succ others =>
      rw [parts, List.range_succ_eq_map, List.flatMap_cons, List.flatMap_map] at all
      have later : ∀ index, (queryset.partLines size ∘ Nat.succ) index =
          part queryset.rows size (index + 1) := by
        intro index
        simp [QuerySet.partLines, chunkLines]
      have first : queryset.partLines size 0 = queryset.columns :: part queryset.rows size 0 := rfl
      rw [List.range_succ_eq_map, List.map_cons, List.map_map, List.flatten_cons, first,
        List.map_congr_left fun index _ => later index, List.cons_append, ← List.flatMap_def]
      exact congrArg _ all

theorem foldl_append (contents : List (List Line)) (columns : Line) (written : List Line)
    (start : Nat) (some_rows : written ≠ []) (later : 0 < start)
    (nonempty : ∀ content ∈ contents, content ≠ []) :
    (contents.zipIdx start).foldl (fun (sheet : Sheet) part => sheet.append part.1 part.2)
        ⟨columns, written⟩ = ⟨columns, written ++ contents.flatten⟩ := by
  induction contents generalizing written start with
  | nil => simp
  | cons content contents induction =>
      have more := nonempty content List.mem_cons_self
      rw [List.zipIdx_cons, List.foldl_cons]
      have appended : Sheet.append ⟨columns, written⟩ content start =
          ⟨columns, written ++ content⟩ := by
        cases content with
        | nil => exact absurd rfl more
        | cons line lines => simp [Sheet.append, some_rows, later.ne']
      rw [appended, induction (written ++ content) (start + 1) (by simp [some_rows]) (by omega)
        fun other member => nonempty other (List.mem_cons_of_mem _ member)]
      simp

theorem combinePartsToSheet_partLines (positive : 0 < size) {others : Nat}
    (parts : partCount queryset.rows size = others + 1) :
    combinePartsToSheet fields ((List.range (others + 1)).map (queryset.partLines size)) =
      ((List.range (others + 1)).map (queryset.partLines size)).flatten := by
  have first : queryset.partLines size 0 = queryset.columns :: part queryset.rows size 0 := rfl
  have data : part queryset.rows size 0 ≠ [] := part_ne_nil positive (by omega)
  have begun : Sheet.append ⟨[], []⟩ (queryset.columns :: part queryset.rows size 0) 0 =
      ⟨queryset.columns, queryset.columns :: part queryset.rows size 0⟩ := by
    simp [Sheet.append, data]
  have nonempty : ∀ content ∈ (List.range others).map (queryset.partLines size ∘ Nat.succ),
      content ≠ [] := by
    intro content member
    rcases List.mem_map.mp member with ⟨index, early, rfl⟩
    rw [List.mem_range] at early
    exact partLines_ne_nil positive (by omega)
  rw [combinePartsToSheet, if_neg (by simp), List.range_succ_eq_map, List.map_cons, List.map_map,
    first, List.zipIdx_cons, List.foldl_cons]
  dsimp only
  rw [begun, foldl_append _ _ _ _ (by simp) (by omega) nonempty, List.flatten_cons]

theorem QuerySet.Stored.finalizeTable_eq (few : partCount queryset.rows size ≤ nameLimit)
    (positive : 0 < size)
    (stored : queryset.Stored size parts (partCount queryset.rows size)) (fileType : FileType) :
    finalizeTable fileType fields parts =
      if queryset.rows = [] then emptyTable fields else queryset.columns :: queryset.rows := by
  unfold finalizeTable
  rw [stored.contents_eq few]
  by_cases empty : queryset.rows = []
  · rw [if_pos empty, (partCount_eq_zero_iff positive).mpr empty]
    cases fileType <;> rfl
  · have flat := flatten_partLines positive empty
    rw [if_neg empty]
    cases parts : partCount queryset.rows size with
    | zero => exact absurd ((partCount_eq_zero_iff positive).mp parts) empty
    | succ others =>
        rw [parts] at flat
        rw [← flat]
        cases fileType with
        | csv => exact if_neg (by simp)
        | xlsx => exact combinePartsToSheet_partLines positive parts

/-! ## Runs -/

section Run

variable {run next : ReportRun} {event : AttemptEvent}

/-- The parts of a table that are stored are its first ones, as many as are counted. -/
abbrev Stores (config : ReportConfig) (run : ReportRun) (table : ReportTable) (count : Nat) :
    Prop :=
  (config.source table).Stored config.chunkSize (run.parts table) count

abbrev ReportConfig.partsOf (config : ReportConfig) (table : ReportTable) : Nat :=
  partCount (config.source table).rows config.chunkSize

def OtherReady (config : ReportConfig) (run : ReportRun) : ReportTable → Prop
  | .rooms => ∃ count, Stores config run .agentStatusLogs count
  | .agentStatusLogs => Stores config run .rooms (config.partsOf .rooms)

def ReportRun.Assertion (config : ReportConfig) (run : ReportRun) : Prop :=
  match run.stage with
  | .idle => True
  | .resuming table => (∃ count, Stores config run table count) ∧ OtherReady config run table
  | .writing table start partIndex headerWritten =>
      start = partIndex * config.chunkSize ∧ headerWritten = decide (0 < partIndex) ∧
        Stores config run table partIndex ∧ OtherReady config run table
  | .finalizing => ∀ table, Stores config run table (config.partsOf table)
  | .listingForCleanup _ tables => tables = config.complete
  | .cleaning _ _ tables => tables = config.complete
  | .returned tables => tables = config.complete

def PartsSound (config : ReportConfig) (run : ReportRun) : Prop :=
  ∀ table, (config.source table).Sound config.chunkSize (run.parts table)

/-- An attempt begins with the first parts of each table, however many there are. -/
def ResumesInOrder (run : ReportRun) : AttemptEvent → Prop
  | .begin => FirstParts (run.parts .rooms) ∧ FirstParts (run.parts .agentStatusLogs)
  | .advance _ _ => True
  | .stop => True

instance (run : ReportRun) : DecidablePred (ResumesInOrder run)
  | .begin => inferInstanceAs (Decidable (_ ∧ _))
  | .advance _ _ => inferInstanceAs (Decidable True)
  | .stop => inferInstanceAs (Decidable True)

theorem source_of_none (absent : config.processed table = none) :
    config.source table = ⟨[], []⟩ := by
  rw [ReportConfig.source, absent, Option.getD_none]

theorem source_of_some (present : config.processed table = some queryset) :
    config.source table = queryset := by
  rw [ReportConfig.source, present, Option.getD_some]

section Limits

variable (positive : 0 < config.chunkSize) (few : ∀ table, config.partsOf table ≤ nameLimit)
include positive few

theorem finalize_eq_complete
    (stored : ∀ table, Stores config run table (config.partsOf table)) :
    config.finalize run.parts = config.complete := by
  funext table
  rw [ReportConfig.finalize, ReportConfig.complete]
  cases present : config.table table with
  | none => rfl
  | some tableConfig =>
      rw [Option.map_some, Option.map_some, (stored table).finalizeTable_eq (few table) positive]
      have processed : config.processed table =
          if tableConfig.fields = [] then none else tableConfig.queryset := by
        rw [ReportConfig.processed, present, Option.bind_some]
      congr 1
      rw [TableConfig.complete]
      by_cases noFields : tableConfig.fields = []
      · rw [if_pos noFields] at processed
        rw [source_of_none processed]
        cases tableConfig.queryset <;> simp [noFields]
      · rw [if_neg noFields] at processed
        cases selected : tableConfig.queryset with
        | none =>
            rw [source_of_none (processed.trans selected)]
            rfl
        | some queryset =>
            rw [source_of_some (processed.trans selected)]
            simp [noFields]

theorem write_step {start partIndex : Nat} {headerWritten : Bool} {suffix : List Char}
    {fails : Bool} (stage : run.stage = .writing table start partIndex headerWritten)
    (holds : run.Assertion config) (stepped : run.advance config suffix fails = some next) :
    (next = { run with stage := afterWriting table } ∧
        Stores config run table (config.partsOf table)) ∨
      next =
        { parts := Function.update run.parts table ((run.parts table).insert (partName partIndex)
            ((config.source table).partLines config.chunkSize partIndex))
          stage := .writing table ((partIndex + 1) * config.chunkSize) (partIndex + 1) true } ∧
        partIndex < config.partsOf table := by
  rw [ReportRun.Assertion, stage] at holds
  rcases holds with ⟨rfl, rfl, stored, _⟩
  rw [ReportRun.advance, stage] at stepped
  dsimp only at stepped
  cases present : config.processed table with
  | none =>
      rw [present] at stepped
      cases stepped
  | some queryset =>
      have source := source_of_some present
      rw [present] at stepped
      dsimp only at stepped
      have limit := few table
      rw [ReportConfig.partsOf, source] at limit ⊢
      rw [Stores, source] at stored ⊢
      split at stepped
      · next done =>
          left
          cases stepped
          have last : ¬partIndex < partCount queryset.rows config.chunkSize := by
            rw [lt_partCount_iff positive]
            omega
          have all : partIndex = partCount queryset.rows config.chunkSize :=
            Nat.le_antisymm stored.bound (by omega)
          exact ⟨rfl, all ▸ stored⟩
      · next unfinished =>
          right
          have more : partIndex < partCount queryset.rows config.chunkSize := by
            rw [lt_partCount_iff positive]
            omega
          have rows := part_ne_nil positive more
          rw [part] at rows
          have name : availableName config.overwrite (run.parts table) partIndex suffix =
              some (partName partIndex) := if_pos (.inr (stored.notMem limit more))
          rw [if_neg rows, name, Option.map_some] at stepped
          cases stepped
          have header : (!decide (0 < partIndex)) = decide (partIndex = 0) := by
            simp [Nat.pos_iff_ne_zero]
          refine ⟨?_, more⟩
          rw [Nat.add_mul, Nat.one_mul, QuerySet.partLines, part, ← header]

omit positive few in
theorem Assertion.afterWriting (complete : Stores config run table (config.partsOf table))
    (other : OtherReady config run table) :
    ReportRun.Assertion config { run with stage := afterWriting table } := by
  cases table with
  | rooms => exact ⟨other, complete⟩
  | agentStatusLogs =>
      intro table
      cases table with
      | rooms => exact other
      | agentStatusLogs => exact complete

omit positive few in
theorem PartsSound.update (sound : PartsSound config run)
    (here : (config.source table).Sound config.chunkSize parts) (stage : AttemptStage) :
    PartsSound config ⟨Function.update run.parts table parts, stage⟩ := by
  intro other
  dsimp only
  by_cases same : other = table
  · subst same
    rw [Function.update_self]
    exact here
  · rw [Function.update_of_ne same]
    exact sound other

omit positive few in
theorem OtherReady.update (ready : OtherReady config run table) (parts : Parts)
    (stage : AttemptStage) :
    OtherReady config ⟨Function.update run.parts table parts, stage⟩ table := by
  cases table with
  | rooms =>
      rcases ready with ⟨count, stored⟩
      refine ⟨count, ?_⟩
      have kept : Function.update run.parts .rooms parts .agentStatusLogs =
          run.parts .agentStatusLogs := Function.update_of_ne (by simp) _ _
      rw [Stores]
      exact kept.symm ▸ stored
  | agentStatusLogs =>
      have kept : Function.update run.parts .agentStatusLogs parts .rooms =
          run.parts .rooms := Function.update_of_ne (by simp) _ _
      rw [OtherReady, Stores]
      exact kept.symm ▸ ready

omit positive few in
theorem QuerySet.Sound.erase (sound : queryset.Sound size parts) (deleted : PartName) :
    queryset.Sound size (parts.erase deleted) := by
  intro name member
  rcases AList.mem_erase.mp member with ⟨apart, kept⟩
  rcases sound name kept with ⟨index, early, same, stored⟩
  exact ⟨index, early, same, (AList.lookup_erase_ne apart).trans stored⟩

theorem partsSound_step (sound : PartsSound config run) (holds : run.Assertion config)
    (stepped : (attemptMachine config).step run event = some next) : PartsSound config next := by
  cases event with
  | begin =>
      simp only [attemptMachine, ReportRun.step] at stepped
      split at stepped <;> cases stepped
      exact sound
  | stop =>
      cases stepped
      exact sound
  | advance suffix fails =>
      change run.advance config suffix fails = some next at stepped
      cases stage : run.stage with
      | writing table start partIndex headerWritten =>
          have stored : Stores config run table partIndex := by
            rw [ReportRun.Assertion, stage] at holds
            exact holds.2.2.1
          rcases write_step positive few stage holds stepped with ⟨rfl, _⟩ | ⟨rfl, more⟩
          · exact sound
          · exact sound.update (stored.save (few _) more).sound _
      | cleaning table remaining tables =>
          rw [ReportRun.advance, stage] at stepped
          cases remaining with
          | nil =>
              cases stepped
              exact sound
          | cons name remaining =>
              cases stepped
              apply sound.update
              cases fails with
              | true => exact sound table
              | false => exact (sound table).erase name
      | idle =>
          rw [ReportRun.advance, stage] at stepped
          cases stepped
      | resuming table =>
          rw [ReportRun.advance, stage] at stepped
          dsimp only at stepped
          split at stepped <;> cases stepped <;> exact sound
      | finalizing =>
          rw [ReportRun.advance, stage] at stepped
          cases stepped
          exact sound
      | listingForCleanup table tables =>
          rw [ReportRun.advance, stage] at stepped
          cases stepped
          exact sound
      | returned tables =>
          rw [ReportRun.advance, stage] at stepped
          cases stepped

theorem resume_step {suffix : List Char} {fails : Bool} (stage : run.stage = .resuming table)
    (holds : run.Assertion config) (stepped : run.advance config suffix fails = some next) :
    next.Assertion config := by
  rw [ReportRun.Assertion, stage] at holds
  rcases holds with ⟨⟨count, stored⟩, other⟩
  rw [ReportRun.advance, stage] at stepped
  dsimp only at stepped
  split at stepped
  · next absent =>
      cases stepped
      apply Assertion.afterWriting _ other
      have none : config.partsOf table = 0 := by
        rw [ReportConfig.partsOf, source_of_none absent]
        exact (partCount_eq_zero_iff positive).mpr rfl
      have all : count = config.partsOf table := by
        have bound : count ≤ config.partsOf table := stored.bound
        omega
      exact all ▸ stored
  · next queryset present =>
      cases stepped
      have found : (listExistingParts (run.parts table)).length = count := by
        rw [stored.listExistingParts_eq (few table), List.length_map, List.length_range]
      rw [found]
      exact ⟨rfl, rfl, stored, other⟩

theorem assertion_step (sound : PartsSound config run) (holds : run.Assertion config)
    (domain : ResumesInOrder run event)
    (stepped : (attemptMachine config).step run event = some next) : next.Assertion config := by
  cases event with
  | begin =>
      simp only [attemptMachine, ReportRun.step] at stepped
      split at stepped <;> cases stepped
      exact ⟨⟨_, (sound _).stored (few _) domain.1⟩, _, (sound _).stored (few _) domain.2⟩
  | stop =>
      cases stepped
      trivial
  | advance suffix fails =>
      change run.advance config suffix fails = some next at stepped
      cases stage : run.stage with
      | resuming table => exact resume_step positive few stage holds stepped
      | writing table start partIndex headerWritten =>
          rcases write_step positive few stage holds stepped with ⟨rfl, all⟩ | ⟨rfl, more⟩
          · rw [ReportRun.Assertion, stage] at holds
            exact Assertion.afterWriting all holds.2.2.2
          · rw [ReportRun.Assertion, stage] at holds
            rcases holds with ⟨_, _, stored, other⟩
            refine ⟨rfl, by simp, ?_, other.update _ _⟩
            rw [Stores]
            dsimp only
            rw [Function.update_self]
            exact stored.save (few table) more
      | finalizing =>
          rw [ReportRun.Assertion, stage] at holds
          rw [ReportRun.advance, stage] at stepped
          cases stepped
          exact finalize_eq_complete positive few holds
      | listingForCleanup table tables =>
          rw [ReportRun.Assertion, stage] at holds
          rw [ReportRun.advance, stage] at stepped
          cases stepped
          exact holds
      | cleaning table remaining tables =>
          rw [ReportRun.Assertion, stage] at holds
          rw [ReportRun.advance, stage] at stepped
          cases remaining with
          | nil =>
              cases stepped
              cases table <;> exact holds
          | cons name remaining =>
              cases stepped
              exact holds
      | idle =>
          rw [ReportRun.advance, stage] at stepped
          cases stepped
      | returned tables =>
          rw [ReportRun.advance, stage] at stepped
          cases stepped

end Limits

/-- An attempt that returns has made complete tables, if each attempt before it began with
the first parts of each table. -/
theorem returned_tables_complete (config : ReportConfig) (positive : 0 < config.chunkSize)
    (few : ∀ table, config.partsOf table ≤ nameLimit) (final : ReportRun)
    (reaches : (attemptMachine config).Reaches ResumesInOrder noAttempt final) :
    ∀ tables ∈ final.tables, tables = config.complete := by
  have invariant : PartsSound config final ∧ final.Assertion config := by
    apply Machine.Reaches.invariant reaches
    · refine ⟨?_, trivial⟩
      intro table name member
      cases member
    · intro current event next given domain stepped
      rcases given with ⟨sound, holds⟩
      exact ⟨partsSound_step positive few sound holds stepped,
        assertion_step positive few sound holds domain stepped⟩
  intro tables returned
  have holds := invariant.2
  rw [ReportRun.tables] at returned
  split at returned
  · next stage =>
      cases returned
      rw [ReportRun.Assertion, stage] at holds
      exact holds
  · cases returned

end Run

/-! ## An attempt that was stopped while it deleted its parts -/

def twoRooms : ReportConfig where
  table
    | .rooms => some ⟨["uuid"], some ⟨["uuid"], [["a"], ["b"]]⟩⟩
    | .agentStatusLogs => none
  fileType := .csv
  chunkSize := 1
  overwrite := false

def advanceReport (steps : Nat) : List AttemptEvent :=
  List.replicate steps (.advance ['x'] false)

def stoppedWhileWriting : List AttemptEvent :=
  .begin :: advanceReport 2 ++ .stop :: .begin :: advanceReport 11

/-- The first attempt is stopped when it has deleted one of the two parts. -/
def stoppedWhileCleaning : List AttemptEvent :=
  .begin :: advanceReport 8 ++ .stop :: .begin :: advanceReport 11

theorem tables_complete_of_stoppedWhileWriting :
    ∃ final, (attemptMachine twoRooms).runMeeting ResumesInOrder noAttempt
        stoppedWhileWriting = some final ∧
      (∀ tables ∈ final.tables, tables = twoRooms.complete) ∧
      final.tables.map (· .rooms) = some (some [["uuid"], ["a"], ["b"]]) := by
  have ends : ((attemptMachine twoRooms).runMeeting ResumesInOrder noAttempt
      stoppedWhileWriting).map (fun final => final.tables.map (· .rooms)) =
        some (some (some [["uuid"], ["a"], ["b"]])) := by
    decide
  rcases Option.map_eq_some_iff.mp ends with ⟨final, ran, returned⟩
  refine ⟨final, ran, ?_, returned⟩
  apply returned_tables_complete twoRooms (by decide) _ final (.of_runMeeting ran)
  intro table
  cases table <;> decide

theorem tables_incomplete_of_stoppedWhileCleaning :
    ¬∀ events final, (attemptMachine twoRooms).run noAttempt events = some final →
      ∀ tables ∈ final.tables, tables = twoRooms.complete := by
  intro complete
  have ends : ((attemptMachine twoRooms).run noAttempt stoppedWhileCleaning).map
      (fun final => final.tables.map (· .rooms)) = some (some (some [["b"], ["b"]])) := by
    decide
  rcases Option.map_eq_some_iff.mp ends with ⟨final, ran, returned⟩
  rcases Option.map_eq_some_iff.mp returned with ⟨tables, isReturned, rooms⟩
  rw [complete _ final ran tables isReturned] at rooms
  simp [ReportConfig.complete, twoRooms, TableConfig.complete] at rooms

end ChatsEngine.Dashboard
