import ChatsEngine.QuickMessages.Lists

/-! # Pages that reflect the changes of messages

A page is never read again once the version of its list has been raised. So it does not matter
when a page of old rows is stored, as long as the versions of the lists that a change alters are
raised after the change, and are never set to less than they are. -/

namespace ChatsEngine.QuickMessages

variable {Page : Type} {settings : ListSettings Page} {tables after : QuickMessageTables Page}
  {list : MessageList} {key : PageKey} {found : CachedPage Page} {number : Nat}

/-! ## Which lists a change alters -/

theorem rowsOf_insert {messages : Messages} {pk : Uuid} {message : QuickMessage}
    {projectOf : Uuid → Uuid} (spared : list ∉ message.lists projectOf)
    (old : ∀ stored ∈ messages.lookup pk, list ∉ stored.lists projectOf) :
    rowsOf projectOf list (messages.insert pk message) = rowsOf projectOf list messages := by
  apply Table.filter_entries_insert fun entry : (_ : Uuid) × QuickMessage =>
    entry.2.Selected projectOf list
  · rwa [QuickMessage.selected_iff]
  · intro stored isStored
    rw [QuickMessage.selected_iff]
    exact old stored isStored

theorem rowsOf_erase {messages : Messages} {pk : Uuid} {projectOf : Uuid → Uuid}
    (old : ∀ stored ∈ messages.lookup pk, list ∉ stored.lists projectOf) :
    rowsOf projectOf list (messages.erase pk) = rowsOf projectOf list messages := by
  apply Table.filter_entries_erase fun entry : (_ : Uuid) × QuickMessage =>
    entry.2.Selected projectOf list
  intro stored isStored
  rw [QuickMessage.selected_iff]
  exact old stored isStored

/-! ## The condition -/

def StaysInLists (projectOf : Uuid → Uuid) (messages : Messages) (pk : Uuid)
    (message : QuickMessage) : Prop :=
  ∀ stored ∈ messages.lookup pk, ∀ list ∈ stored.lists projectOf, list ∈ message.lists projectOf

instance (projectOf : Uuid → Uuid) (messages : Messages) (pk : Uuid) (message : QuickMessage) :
    Decidable (StaysInLists projectOf messages pk message) :=
  inferInstanceAs (Decidable (∀ stored ∈ messages.lookup pk, ∀ list ∈ _, _))

def NoCurrentPage (tables : QuickMessageTables Page) (lists : List MessageList) : Prop :=
  ∀ entry ∈ tables.pages.entries, entry.1.list ∈ lists →
    entry.1.version = tables.version entry.1.list → entry.2.expiry ≤ tables.now

instance (tables : QuickMessageTables Page) (lists : List MessageList) :
    Decidable (NoCurrentPage tables lists) :=
  inferInstanceAs (Decidable (∀ entry ∈ tables.pages.entries, _))

def AltersRows (settings : ListSettings Page) (tables : QuickMessageTables Page) (number : Nat)
    (list : MessageList) : Prop :=
  tables.messages.Alters (rowsOf settings.projectOf list) number

instance (tables : QuickMessageTables Page) (number : Nat) :
    DecidablePred (AltersRows settings tables number) :=
  fun _ => inferInstanceAs (Decidable (tables.messages.Alters _ number))

/-- A message stays in the lists whose versions its signal raises. When its deletion is
committed, none of their pages is cached under the raised versions, and none is stored later
that had been read before. No version is set to less than it is. -/
def ListProgress.KeepsListsFresh (settings : ListSettings Page)
    (tables : QuickMessageTables Page) : ListProgress Page → Unit → Prop
  | .starting (.save pk message), _ =>
      StaysInLists settings.projectOf tables.messages.current pk message
  | .settingVersions [] (.commit pk message), _ =>
      StaysInLists settings.projectOf tables.messages.current pk message ∧
        NoCurrentPage tables (message.lists settings.projectOf)
  | .settingVersions ((list, version) :: _) _, _ => tables.version list ≤ version
  | .initializing request, _ => tables.version request.list ≤ 1
  | .storing request version _ seen, _ =>
      ∀ number ∈ tables.deletions, seen < number →
        AltersRows settings tables number request.list →
          version ≤ tables.outdated number request.list
  | _, _ => True

instance (tables : QuickMessageTables Page) : (progress : ListProgress Page) → (choice : Unit) →
    Decidable (progress.KeepsListsFresh settings tables choice)
  | .starting (.save pk message), _ =>
      inferInstanceAs (Decidable (StaysInLists _ tables.messages.current pk message))
  | .settingVersions [] (.commit pk message), _ =>
      inferInstanceAs (Decidable (StaysInLists _ tables.messages.current pk message ∧
        NoCurrentPage tables _))
  | .settingVersions ((list, version) :: _) _, _ =>
      inferInstanceAs (Decidable (tables.version list ≤ version))
  | .initializing request, _ => inferInstanceAs (Decidable (tables.version request.list ≤ 1))
  | .storing _ _ _ seen, _ =>
      inferInstanceAs (Decidable (∀ number ∈ tables.deletions, seen < number → _ → _ ≤ _))
  | .starting (.delete _ _), _ | .starting (.list _ _ _), _ | .settingVersions [] (.settle _), _
  | .reading _ _, _ | .querying _ _, _ | .answered _ _, _ | .readingVersions _ _ _, _ =>
      inferInstanceAs (Decidable True)

/-! ## The outline of the processes -/

/-- What the requests keep among each other. -/
structure Coherent (settings : ListSettings Page) (tables : QuickMessageTables Page) : Prop where
  made : tables.messages.MadeBefore tables.messages.returned
  deletionsMade : tables.messages.MadeBefore tables.deletions
  /-- A change that has returned has left older versions behind. -/
  raised : ∀ number ∈ tables.messages.returned, ∀ list, AltersRows settings tables number list →
    tables.outdated number list < tables.version list
  /-- A page is what its rows were when it was read. -/
  page_eq : ∀ key found, tables.cached key = some found →
    settings.paginate (rowsOf settings.projectOf key.list (tables.messages.version found.seen))
      key.cursor key.limit = found.page
  seen_le : ∀ key found, tables.cached key = some found → found.seen ≤ tables.messages.changes
  version_le : ∀ key found, tables.cached key = some found →
    key.version ≤ tables.version key.list
  /-- Pages without a change are under outdated versions. -/
  outdated : ∀ key found, tables.cached key = some found → ∀ number ≤ tables.messages.changes,
    found.seen < number → AltersRows settings tables number key.list →
      key.version ≤ tables.outdated number key.list

/-- The lists that a change has to raise, and the versions from which it raises them. -/
def AfterRaising.Needs (settings : ListSettings Page) (tables : QuickMessageTables Page) :
    AfterRaising → MessageList → Nat → Prop
  | .settle number, list, version =>
      AltersRows settings tables number list ∧ version = tables.outdated number list
  | .commit _ message, list, version => list ∈ message.lists settings.projectOf ∧ version = 0

/-- The change has been made, if it is to be settled, and versions have not been lowered since. -/
def AfterRaising.Made (tables : QuickMessageTables Page) : AfterRaising → Prop
  | .settle number =>
      number ≤ tables.messages.changes ∧
        ∀ list, tables.outdated number list ≤ tables.version list
  | .commit _ _ => True

/-- The version that a request has read is not outdated by a change that had returned. -/
structure ReadsVersion (settings : ListSettings Page) (tables : QuickMessageTables Page)
    (request : ListRequest) (version : Nat) : Prop where
  made : tables.messages.MadeBefore request.since
  version_le : version ≤ tables.version request.list
  newer : ∀ number ∈ request.since, AltersRows settings tables number request.list →
    tables.outdated number request.list < version

def ListProgress.Assertion (settings : ListSettings Page) (tables : QuickMessageTables Page) :
    ListProgress Page → Prop
  | .starting _ => True
  | .initializing request => ∀ number ∈ request.since, number ∈ tables.messages.returned
  | .reading request version | .querying request version =>
      ReadsVersion settings tables request version
  | .storing request version page seen =>
      ReadsVersion settings tables request version ∧
        tables.messages.Reflects request.since (rowsOf settings.projectOf request.list) seen ∧
        settings.paginate (rowsOf settings.projectOf request.list (tables.messages.version seen))
          request.cursor request.limit = page ∧
        ∀ number ≤ tables.messages.changes, seen < number → number ∉ tables.deletions →
          AltersRows settings tables number request.list →
            version ≤ tables.outdated number request.list
  | .answered request page =>
      tables.messages.MadeBefore request.since ∧
        ListProgress.AnswersAsStored settings tables (.answered request page)
  | .readingVersions lists raised last =>
      last.Made tables ∧ ∀ list version, last.Needs settings tables list version →
        list ∈ lists ∨ ∃ other, (list, other) ∈ raised ∧ version < other
  | .settingVersions raised last =>
      last.Made tables ∧ ∀ list version, last.Needs settings tables list version →
        (∃ other, (list, other) ∈ raised ∧ version < other) ∨ version < tables.version list

theorem ListProgress.Assertion.answersAsStored {progress : ListProgress Page}
    (holds : progress.Assertion settings tables) : progress.AnswersAsStored settings tables := by
  cases progress with
  | answered request page => exact holds.2
  | _ => trivial

/-- No change is undone, and no version is lowered. A change that is new outdates at least the
versions that there were, unless it is a deletion. -/
structure Proceeds (tables after : QuickMessageTables Page) : Prop where
  extended : tables.messages.Extends after.messages
  returned : ∀ number ∈ tables.messages.returned, number ∈ after.messages.returned
  version_le : ∀ list, tables.version list ≤ after.version list
  outdated_eq : ∀ number ≤ tables.messages.changes, after.outdated number = tables.outdated number
  deletions : ∀ number ≤ tables.messages.changes,
    number ∈ tables.deletions → number ∈ after.deletions
  outdates : ∀ number, tables.messages.changes < number → number ≤ after.messages.changes →
    number ∉ after.deletions → ∀ list, tables.version list ≤ after.outdated number list

section Stable

variable {request : ListRequest} {version : Nat} {last : AfterRaising}

theorem Proceeds.altersRows_iff (proceeds : Proceeds tables after)
    (made : number ≤ tables.messages.changes) :
    AltersRows settings after number list ↔ AltersRows settings tables number list :=
  proceeds.extended.alters_iff made

theorem ReadsVersion.stable (proceeds : Proceeds tables after)
    (reads : ReadsVersion settings tables request version) :
    ReadsVersion settings after request version := by
  refine ⟨reads.made.extended proceeds.extended,
    Nat.le_trans reads.version_le (proceeds.version_le _), ?_⟩
  intro number listed altered
  have made := reads.made number listed
  rw [proceeds.outdated_eq number made]
  exact reads.newer number listed ((proceeds.altersRows_iff made).mp altered)

theorem AfterRaising.Made.stable (proceeds : Proceeds tables after) (made : last.Made tables) :
    last.Made after := by
  cases last with
  | settle number =>
      refine ⟨Nat.le_trans made.1 proceeds.extended.changes_le, ?_⟩
      intro list
      rw [proceeds.outdated_eq number made.1]
      exact Nat.le_trans (made.2 list) (proceeds.version_le list)
  | commit pk message => trivial

theorem AfterRaising.Needs.le_version (needs : last.Needs settings tables list version)
    (made : last.Made tables) : version ≤ tables.version list := by
  cases last with
  | settle number =>
      rw [needs.2]
      exact made.2 list
  | commit pk message =>
      rw [needs.2]
      exact Nat.zero_le _

theorem AfterRaising.Needs.before (proceeds : Proceeds tables after) (made : last.Made tables)
    (needs : last.Needs settings after list version) :
    last.Needs settings tables list version := by
  cases last with
  | settle number =>
      rcases needs with ⟨altered, isVersion⟩
      rw [proceeds.outdated_eq number made.1] at isVersion
      exact ⟨(proceeds.altersRows_iff made.1).mp altered, isVersion⟩
  | commit pk message => exact needs

theorem ListProgress.Assertion.stable {progress : ListProgress Page}
    (proceeds : Proceeds tables after) (holds : progress.Assertion settings tables) :
    progress.Assertion settings after := by
  cases progress with
  | starting task => trivial
  | initializing request =>
      intro number listed
      exact proceeds.returned number (holds number listed)
  | reading request version => exact ReadsVersion.stable proceeds holds
  | querying request version => exact ReadsVersion.stable proceeds holds
  | storing request version page seen =>
      rcases holds with ⟨reads, reflects, isPage, current⟩
      refine ⟨reads.stable proceeds, reflects.extended reads.made proceeds.extended, ?_, ?_⟩
      · rw [proceeds.extended.version_eq seen reflects.1]
        exact isPage
      · intro number made later notDeletion altered
        by_cases before : number ≤ tables.messages.changes
        · rw [proceeds.outdated_eq number before]
          apply current number before later
          · exact fun deletion => notDeletion (proceeds.deletions number before deletion)
          · exact (proceeds.altersRows_iff before).mp altered
        · have outdates := proceeds.outdates number (by omega) made notDeletion request.list
          exact Nat.le_trans reads.version_le outdates
  | answered request page =>
      rcases holds with ⟨made, answers⟩
      refine ⟨made.extended proceeds.extended, ?_⟩
      unfold ListProgress.AnswersAsStored at answers ⊢
      exact answers.extended made proceeds.extended
  | readingVersions lists raised last =>
      refine ⟨holds.1.stable proceeds, ?_⟩
      intro list version needs
      exact holds.2 list version (needs.before proceeds holds.1)
  | settingVersions raised last =>
      refine ⟨holds.1.stable proceeds, ?_⟩
      intro list version needs
      rcases holds.2 list version (needs.before proceeds holds.1) with pending | raised
      · exact .inl pending
      · exact .inr (Nat.lt_of_lt_of_le raised (proceeds.version_le list))

end Stable

section Statements

variable {pk : Uuid} {message : QuickMessage} {version : Nat}

theorem Proceeds.of_pages (tables : QuickMessageTables Page) (now : Instant)
    (pages : Table PageKey (CachedPage Page)) : Proceeds tables { tables with now, pages } where
  extended := .refl _
  returned := fun _ returned => returned
  version_le := fun _ => Nat.le_refl _
  outdated_eq := fun _ _ => rfl
  deletions := fun _ _ deletion => deletion
  outdates := by
    intro number later made
    exact absurd made (Nat.not_le_of_lt later)

theorem Coherent.of_fewer (coherent : Coherent settings tables) (now : Instant)
    (pages : Table PageKey (CachedPage Page))
    (fewer : ∀ key found,
      QuickMessageTables.cached { tables with now, pages } key = some found →
        tables.cached key = some found) :
    Coherent settings { tables with now, pages } where
  made := coherent.made
  deletionsMade := coherent.deletionsMade
  raised := coherent.raised
  page_eq := fun key found cached => coherent.page_eq key found (fewer key found cached)
  seen_le := fun key found cached => coherent.seen_le key found (fewer key found cached)
  version_le := fun key found cached => coherent.version_le key found (fewer key found cached)
  outdated := fun key found cached => coherent.outdated key found (fewer key found cached)

theorem cached_eq_some_iff : tables.cached key = some found ↔
    tables.pages.lookup key = some found ∧ tables.now < found.expiry := by
  rw [QuickMessageTables.cached, Option.filter_eq_some_iff, decide_eq_true_iff]

theorem Coherent.surround {event : ListSurrounding} (coherent : Coherent settings tables)
    (surrounded : tables.surround event = some after) :
    Coherent settings after ∧ Proceeds tables after := by
  cases event with
  | tick elapsed =>
      cases surrounded
      refine ⟨coherent.of_fewer _ _ ?_, .of_pages tables _ _⟩
      intro key found cached
      rw [cached_eq_some_iff] at cached ⊢
      exact ⟨cached.1, Nat.lt_of_le_of_lt (Nat.le_add_right _ _) cached.2⟩
  | evict evicted =>
      cases surrounded
      refine ⟨coherent.of_fewer _ _ ?_, .of_pages tables _ _⟩
      intro key found cached
      rw [cached_eq_some_iff] at cached ⊢
      refine ⟨?_, cached.2⟩
      by_cases same : key = evicted
      · subst same
        rw [AList.lookup_erase] at cached
        cases cached.1
      · rw [AList.lookup_erase_ne same] at cached
        exact cached.1

theorem version_setVersion {other : MessageList} :
    (tables.setVersion other version).version list =
      if list = other then version else tables.version list := by
  by_cases same : list = other
  · subst same
    simp [QuickMessageTables.setVersion, QuickMessageTables.version]
  · simp [QuickMessageTables.setVersion, QuickMessageTables.version, same]

theorem version_le_setVersion {other : MessageList} (raises : tables.version other ≤ version) :
    tables.version list ≤ (tables.setVersion other version).version list := by
  rw [version_setVersion]
  split
  · next same => exact same ▸ raises
  · exact Nat.le_refl _

theorem Coherent.setVersion (coherent : Coherent settings tables) {other : MessageList}
    (raises : tables.version other ≤ version) :
    Coherent settings (tables.setVersion other version) ∧
      Proceeds tables (tables.setVersion other version) := by
  constructor
  · refine ⟨coherent.made, coherent.deletionsMade, ?_, coherent.page_eq, coherent.seen_le, ?_,
      coherent.outdated⟩
    · intro number returned list altered
      exact Nat.lt_of_lt_of_le (coherent.raised number returned list altered)
        (version_le_setVersion raises)
    · intro key found cached
      exact Nat.le_trans (coherent.version_le key found cached) (version_le_setVersion raises)
  · refine ⟨.refl _, fun _ returned => returned, fun _ => version_le_setVersion raises,
      fun _ _ => rfl, fun _ _ deletion => deletion, ?_⟩
    intro number later made
    exact absurd made (Nat.not_le_of_lt later)

theorem cached_of_insert {stored : PageKey} {newest : CachedPage Page}
    (cached : QuickMessageTables.cached
      { tables with pages := tables.pages.insert stored newest } key = some found) :
    key = stored ∧ found = newest ∨ tables.cached key = some found := by
  rw [cached_eq_some_iff] at cached ⊢
  rcases Table.lookup_insert_iff.mp cached.1 with same | ⟨_, before⟩
  · exact .inl same
  · exact .inr ⟨before, cached.2⟩

theorem Coherent.store (coherent : Coherent settings tables) {request : ListRequest} {page : Page}
    {seen : Nat} (expiry : Instant)
    (holds : ListProgress.Assertion settings tables (.storing request version page seen))
    (fresh : ListProgress.KeepsListsFresh settings tables
      (.storing request version page seen) ()) :
    Coherent settings
      { tables with pages := tables.pages.insert (request.key version) { page, seen, expiry } } := by
  rcases holds with ⟨reads, reflects, isPage, current⟩
  refine ⟨coherent.made, coherent.deletionsMade, coherent.raised, ?_, ?_, ?_, ?_⟩
  · intro key found cached
    rcases cached_of_insert cached with ⟨rfl, rfl⟩ | before
    · exact isPage
    · exact coherent.page_eq key found before
  · intro key found cached
    rcases cached_of_insert cached with ⟨rfl, rfl⟩ | before
    · exact reflects.1
    · exact coherent.seen_le key found before
  · intro key found cached
    rcases cached_of_insert cached with ⟨rfl, rfl⟩ | before
    · exact reads.version_le
    · exact coherent.version_le key found before
  · intro key found cached number made later altered
    rcases cached_of_insert cached with ⟨rfl, rfl⟩ | before
    · by_cases deletion : number ∈ tables.deletions
      · exact fresh number deletion later altered
      · exact current number made later deletion altered
    · exact coherent.outdated key found before number made later altered

theorem Coherent.settle (coherent : Coherent settings tables)
    (made : number ≤ tables.messages.changes)
    (raised : ∀ list, AltersRows settings tables number list →
      tables.outdated number list < tables.version list) :
    Coherent settings { tables with messages := tables.messages.settle number } ∧
      Proceeds tables { tables with messages := tables.messages.settle number } := by
  constructor
  · refine ⟨?_, coherent.deletionsMade, ?_, coherent.page_eq, coherent.seen_le,
      coherent.version_le, coherent.outdated⟩
    · intro other returned
      rcases List.mem_cons.mp returned with rfl | before
      · exact made
      · exact coherent.made other before
    · intro other returned list altered
      rcases List.mem_cons.mp returned with rfl | before
      · exact raised list altered
      · exact coherent.raised other before list altered
  · refine ⟨Versions.extends_settle _ number, fun _ returned => List.mem_cons_of_mem _ returned,
      fun _ => Nat.le_refl _, fun _ _ => rfl, fun _ _ deletion => deletion, ?_⟩
    intro other later isMade
    exact absurd isMade (Nat.not_le_of_lt later)

theorem Coherent.change (coherent : Coherent settings tables) (messages : Messages)
    (bound : MessageList → Nat) (deletions : List Nat)
    (deletionsMade : ∀ number ∈ deletions, number ≤ tables.messages.changes + 1)
    (old : ∀ key found, tables.cached key = some found →
      rowsOf settings.projectOf key.list tables.messages.current ≠
        rowsOf settings.projectOf key.list messages → key.version ≤ bound key.list) :
    Coherent settings
      { tables with
        messages := tables.messages.change messages
        outdated := Function.update tables.outdated (tables.messages.changes + 1) bound
        deletions := deletions } := by
  have extended := Versions.extends_change tables.messages messages
  have kept : ∀ number ≤ tables.messages.changes,
      Function.update tables.outdated (tables.messages.changes + 1) bound number =
        tables.outdated number := by
    intro number made
    apply Function.update_of_ne
    omega
  refine ⟨coherent.made.extended extended, deletionsMade, ?_, ?_, ?_, coherent.version_le, ?_⟩
  · intro number returned list altered
    have made := coherent.made number returned
    dsimp only
    rw [kept number made]
    exact coherent.raised number returned list ((extended.alters_iff made).mp altered)
  · intro key found cached
    dsimp only
    rw [extended.version_eq _ (coherent.seen_le key found cached)]
    exact coherent.page_eq key found cached
  · intro key found cached
    exact Nat.le_succ_of_le (coherent.seen_le key found cached)
  · intro key found cached number made later altered
    rcases Nat.le_or_eq_of_le_succ made with before | rfl
    · dsimp only
      rw [kept number before]
      exact coherent.outdated key found cached number before later
        ((extended.alters_iff before).mp altered)
    · dsimp only
      rw [Function.update_self]
      exact old key found cached ((Versions.alters_change_iff _ _).mp altered)

theorem Coherent.save (coherent : Coherent settings tables) (pk : Uuid)
    (message : QuickMessage) :
    Coherent settings (tables.saveMessage pk message) ∧
      Proceeds tables (tables.saveMessage pk message) := by
  constructor
  · apply coherent.change _ tables.version tables.deletions
    · intro number deletion
      exact Nat.le_succ_of_le (coherent.deletionsMade number deletion)
    · intro key found cached _
      exact coherent.version_le key found cached
  · refine ⟨Versions.extends_change _ _, fun _ returned => returned, fun _ => Nat.le_refl _, ?_,
      fun _ _ deletion => deletion, ?_⟩
    · intro number made
      apply Function.update_of_ne
      exact Nat.ne_of_lt (Nat.lt_succ_of_le made)
    · intro number later made _ list
      have isChange : number = tables.messages.changes + 1 := Nat.le_antisymm made later
      subst isChange
      rw [QuickMessageTables.saveMessage]
      dsimp only [Versions.change]
      rw [Function.update_self]

theorem Coherent.commit (coherent : Coherent settings tables)
    (stays : StaysInLists settings.projectOf tables.messages.current pk message)
    (noPage : NoCurrentPage tables (message.lists settings.projectOf))
    (raised : ∀ list ∈ message.lists settings.projectOf, 0 < tables.version list) :
    Coherent settings (tables.commitDeletion pk) ∧
      Proceeds tables (tables.commitDeletion pk) := by
  have inLists : ∀ list, rowsOf settings.projectOf list tables.messages.current ≠
      rowsOf settings.projectOf list (tables.messages.current.erase pk) →
        list ∈ message.lists settings.projectOf := by
    intro list altered
    by_contra spared
    apply altered
    apply (rowsOf_erase _).symm
    intro stored isStored listed
    exact spared (stays stored isStored list listed)
  constructor
  · have changed := coherent.change (tables.messages.current.erase pk)
      (fun list => tables.version list - 1)
      ((tables.messages.changes + 1) :: tables.deletions) ?_ ?_
    · refine (changed.settle (Nat.le_refl _) ?_).1
      intro list altered
      have altered := (Versions.alters_change_iff _ _).mp altered
      have positive := raised list (inLists list altered)
      dsimp only [Versions.change]
      rw [Function.update_self]
      exact Nat.sub_lt positive (Nat.zero_lt_one)
    · intro number deletion
      rcases List.mem_cons.mp deletion with rfl | before
      · exact Nat.le_refl _
      · exact Nat.le_succ_of_le (coherent.deletionsMade number before)
    · intro key found cached altered
      apply Nat.le_sub_one_of_lt
      apply Nat.lt_of_le_of_ne (coherent.version_le key found cached)
      intro isCurrent
      rcases cached_eq_some_iff.mp cached with ⟨stored, alive⟩
      have entry : (⟨key, found⟩ : (_ : PageKey) × CachedPage Page) ∈ tables.pages.entries :=
        Table.mem_entries_iff.mpr stored
      have expired := noPage _ entry (inLists key.list altered) isCurrent
      exact absurd alive (Nat.not_lt_of_le expired)
  · refine ⟨?_, fun _ returned => List.mem_cons_of_mem _ returned, fun _ => Nat.le_refl _, ?_,
      fun _ _ deletion => List.mem_cons_of_mem _ deletion, ?_⟩
    · have first := Versions.extends_change tables.messages (tables.messages.current.erase pk)
      exact ⟨first.changes_le, first.version_eq⟩
    · intro number made
      apply Function.update_of_ne
      exact Nat.ne_of_lt (Nat.lt_succ_of_le made)
    · intro number later made notDeletion
      have isChange : number = tables.messages.changes + 1 := Nat.le_antisymm made later
      exact absurd (isChange ▸ List.mem_cons_self) notDeletion

end Statements

section Advance

variable {request : ListRequest} {version : Nat} {lists : List MessageList}
  {raised : List (MessageList × Nat)} {last : AfterRaising}

theorem Coherent.readsVersion (coherent : Coherent settings tables)
    (returned : ∀ number ∈ request.since, number ∈ tables.messages.returned) :
    ReadsVersion settings tables request (tables.version request.list) where
  made := fun number listed => coherent.made number (returned number listed)
  version_le := Nat.le_refl _
  newer := fun number listed altered =>
    coherent.raised number (returned number listed) request.list altered

theorem ReadsVersion.reflects (reads : ReadsVersion settings tables request version)
    (coherent : Coherent settings tables)
    (cached : tables.cached (request.key version) = some found) :
    tables.messages.Reflects request.since (rowsOf settings.projectOf request.list)
      found.seen := by
  refine ⟨coherent.seen_le _ _ cached, ?_⟩
  intro number listed later altered
  have outdated := coherent.outdated _ _ cached number (reads.made number listed) later altered
  exact absurd (reads.newer number listed altered) (Nat.not_lt_of_le outdated)

theorem answered_assertion {page : Page} {seen : Nat}
    (made : tables.messages.MadeBefore request.since)
    (reflects : tables.messages.Reflects request.since (rowsOf settings.projectOf request.list) seen)
    (isPage : settings.paginate
      (rowsOf settings.projectOf request.list (tables.messages.version seen))
      request.cursor request.limit = page) :
    ListProgress.Assertion settings tables (.answered request page) := by
  have answers : tables.messages.Answers request.since
      (rowsOf settings.projectOf request.list) _ := ⟨seen, rfl, reflects⟩
  have mapped := answers.map fun rows => settings.paginate rows request.cursor request.limit
  rw [isPage] at mapped
  exact ⟨made, mapped⟩

theorem saved_assertion (tables : QuickMessageTables Page) {pk : Uuid} {message : QuickMessage}
    (stays : StaysInLists settings.projectOf tables.messages.current pk message) :
    ListProgress.Assertion settings (tables.saveMessage pk message)
      (.readingVersions (message.lists settings.projectOf) []
        (.settle (tables.messages.changes + 1))) := by
  refine ⟨⟨Nat.le_refl _, ?_⟩, ?_⟩
  · intro list
    dsimp only [QuickMessageTables.saveMessage, Versions.change]
    rw [Function.update_self]
    exact Nat.le_refl _
  · intro list version given
    rcases given with ⟨altered, _⟩
    left
    by_contra spared
    apply (Versions.alters_change_iff _ _).mp altered
    apply (rowsOf_insert spared _).symm
    intro stored isStored listed
    exact spared (stays stored isStored list listed)

theorem readingVersions_next
    (holds : ListProgress.Assertion settings tables
      (.readingVersions (list :: lists) raised last)) :
    ListProgress.Assertion settings tables
      (.readingVersions lists (raised ++ [(list, tables.version list + 1)]) last) := by
  refine ⟨holds.1, ?_⟩
  intro own version needs
  rcases holds.2 own version needs with listed | ⟨other, isRaised, more⟩
  · rcases List.mem_cons.mp listed with rfl | later
    · right
      refine ⟨_, List.mem_append_right _ List.mem_cons_self, ?_⟩
      exact Nat.lt_succ_of_le (needs.le_version holds.1)
    · exact .inl later
  · exact .inr ⟨other, List.mem_append_left _ isRaised, more⟩

theorem settingVersions_next
    (holds : ListProgress.Assertion settings tables
      (.settingVersions ((list, version) :: raised) last))
    (proceeds : Proceeds tables (tables.setVersion list version)) :
    ListProgress.Assertion settings (tables.setVersion list version)
      (.settingVersions raised last) := by
  have stable := ListProgress.Assertion.stable proceeds holds
  refine ⟨stable.1, ?_⟩
  intro own bound needs
  rcases stable.2 own bound needs with ⟨other, isRaised, more⟩ | enough
  · rcases List.mem_cons.mp isRaised with same | later
    · cases same
      right
      rw [version_setVersion, if_pos rfl]
      exact more
    · exact .inl ⟨other, later, more⟩
  · exact .inr enough

theorem advance_read {next : ListProgress Page} (coherent : Coherent settings tables)
    (holds : next.Assertion settings tables) :
    Coherent settings tables ∧ Proceeds tables tables ∧
      ∀ remaining, some next = some remaining → remaining.Assertion settings tables := by
  refine ⟨coherent, .of_pages tables _ _, ?_⟩
  intro remaining goesOn
  cases goesOn
  exact holds

theorem advance_setVersion {next : ListProgress Page} (coherent : Coherent settings tables)
    (raises : tables.version list ≤ version)
    (holds : Coherent settings (tables.setVersion list version) →
      Proceeds tables (tables.setVersion list version) →
        next.Assertion settings (tables.setVersion list version)) :
    Coherent settings (tables.setVersion list version) ∧
      Proceeds tables (tables.setVersion list version) ∧
        ∀ remaining, some next = some remaining →
          remaining.Assertion settings (tables.setVersion list version) := by
  rcases coherent.setVersion raises with ⟨set, proceeds⟩
  refine ⟨set, proceeds, ?_⟩
  intro remaining goesOn
  cases goesOn
  exact holds set proceeds

theorem advance_settled {rest : Option (ListProgress Page)} (coherent : Coherent settings tables)
    (holds : ListProgress.Assertion settings tables (.settingVersions [] last))
    (fresh : ListProgress.KeepsListsFresh settings tables (.settingVersions [] last) ())
    (advanced : ListProgress.advance settings tables (.settingVersions [] last) () =
      some (after, rest)) :
    Coherent settings after ∧ Proceeds tables after ∧
      ∀ remaining, rest = some remaining → remaining.Assertion settings after := by
  have enough : ∀ list version, last.Needs settings tables list version →
      version < tables.version list := by
    intro list version needs
    rcases holds.2 list version needs with ⟨_, impossible, _⟩ | enough
    · cases impossible
    · exact enough
  cases last with
  | settle number =>
      cases advanced
      rcases coherent.settle holds.1.1 fun list altered => enough list _ ⟨altered, rfl⟩ with
        ⟨settled, proceeds⟩
      exact ⟨settled, proceeds, fun _ ended => by cases ended⟩
  | commit pk message =>
      cases advanced
      rcases coherent.commit fresh.1 fresh.2 fun list listed => enough list 0 ⟨listed, rfl⟩ with
        ⟨committed, proceeds⟩
      exact ⟨committed, proceeds, fun _ ended => by cases ended⟩

theorem ListProgress.Assertion.advance {progress : ListProgress Page} {choice : Unit}
    {rest : Option (ListProgress Page)} (coherent : Coherent settings tables)
    (holds : progress.Assertion settings tables)
    (fresh : progress.KeepsListsFresh settings tables choice)
    (advanced : progress.advance settings tables choice = some (after, rest)) :
    Coherent settings after ∧ Proceeds tables after ∧
      ∀ remaining, rest = some remaining → remaining.Assertion settings after := by
  cases progress with
  | starting task =>
      cases task with
      | list list cursor limit =>
          cases advanced
          apply advance_read coherent
          split
          · exact fun _ returned => returned
          · next version isVersion =>
              have reads : ReadsVersion settings tables
                  { list, cursor, limit, since := tables.messages.returned }
                  (tables.version list) :=
                coherent.readsVersion fun _ returned => returned
              rw [QuickMessageTables.version, isVersion] at reads
              exact reads
      | save pk message =>
          cases advanced
          rcases coherent.save pk message with ⟨saved, proceeds⟩
          refine ⟨saved, proceeds, ?_⟩
          intro remaining goesOn
          cases goesOn
          exact saved_assertion tables fresh
      | delete pk message =>
          cases advanced
          exact advance_read coherent ⟨trivial, fun list version needs => .inl needs.1⟩
  | initializing request =>
      cases advanced
      apply advance_setVersion coherent fresh
      intro set _
      have reads := set.readsVersion holds
      rw [version_setVersion, if_pos rfl] at reads
      exact reads
  | reading request version =>
      cases advanced
      apply advance_read coherent
      split
      · next found cached =>
          exact answered_assertion holds.made (ReadsVersion.reflects holds coherent cached)
            (coherent.page_eq _ _ cached)
      · exact holds
  | querying request version =>
      cases advanced
      apply advance_read coherent
      refine ⟨holds, Versions.reflects_current holds.made, rfl, ?_⟩
      intro number made later
      exact absurd made (Nat.not_le_of_lt later)
  | storing request version page seen =>
      cases advanced
      refine ⟨coherent.store _ holds fresh, .of_pages tables _ _, ?_⟩
      intro remaining goesOn
      cases goesOn
      rcases holds with ⟨reads, reflects, isPage, _⟩
      exact answered_assertion reads.made reflects isPage
  | answered request page =>
      cases advanced
      exact ⟨coherent, .of_pages tables _ _, fun _ ended => by cases ended⟩
  | readingVersions lists raised last =>
      cases lists with
      | nil =>
          cases advanced
          apply advance_read coherent
          refine ⟨holds.1, ?_⟩
          intro list version needs
          rcases holds.2 list version needs with impossible | pending
          · cases impossible
          · exact .inl pending
      | cons list lists =>
          cases advanced
          exact advance_read coherent (readingVersions_next holds)
  | settingVersions raised last =>
      cases raised with
      | nil => exact advance_settled coherent holds fresh advanced
      | cons first raised =>
          cases advanced
          exact advance_setVersion coherent fresh fun _ => settingVersions_next holds

end Advance

section Run

variable (Pid : Type) (settings : ListSettings Page)

@[reducible] def AllKeepListsFresh (pool : ListPool Pid Page) (event : ListEvent Pid) : Prop :=
  pool.OwnStep (ListProgress.KeepsListsFresh settings) event

def listOutline : Outline (listProgram settings) (AllKeepListsFresh Pid settings) where
  Invariant := Coherent settings
  Assertion := fun tables progress => progress.Assertion settings tables
  Guarantee := Proceeds
  enter := fun _ => trivial
  advance := fun meets running coherent holds advanced =>
    holds.advance coherent (meets.allowed running) advanced
  surround := fun _ coherent surrounded => coherent.surround surrounded
  stable := fun proceeds holds => holds.stable proceeds

def QuickMessageTables.fresh (now : Instant) (messages : Messages) : QuickMessageTables Page where
  now := now
  messages := .unchanged messages
  versions := fun _ => none
  pages := ∅
  outdated := fun _ _ => 0
  deletions := []

theorem fresh_coherent (now : Instant) (messages : Messages) :
    Coherent settings (.fresh now messages) := by
  have none : ∀ key found, (QuickMessageTables.fresh now messages).cached key ≠
      some (found : CachedPage Page) := by
    intro key found cached
    cases (cached_eq_some_iff.mp cached).1
  exact
    { made := fun _ returned => by cases returned
      deletionsMade := fun _ deletion => by cases deletion
      raised := fun _ returned => by cases returned
      page_eq := fun key found cached => absurd cached (none key found)
      seen_le := fun key found cached => absurd cached (none key found)
      version_le := fun key found cached => absurd cached (none key found)
      outdated := fun key found cached => absurd cached (none key found) }

variable {Pid} [DecidableEq Pid]

/-- Lists reflect the changes that have returned, as long as messages stay in their lists,
versions are never lowered, and no page from before the commit of a deletion is kept under the
version that the deletion has raised before. -/
theorem lists_reflect_returned_changes (now : Instant) (messages : Messages)
    (final : ListPool Pid Page)
    (reaches : (listProgram settings).machine.Reaches (AllKeepListsFresh Pid settings)
      (Pool.idle (.fresh now messages)) final) : AnswersAsStored settings final := by
  intro pid progress running
  have holds := (listOutline Pid settings).holds_of_reaches reaches
    ((listOutline Pid settings).holds_idle (fresh_coherent settings now messages))
  exact (holds.locals pid progress running).answersAsStored

end Run

/-! ## A message that is moved to another sector -/

def exampleSettings : ListSettings (List Uuid) where
  paginate := fun rows _ _ => rows.map Sigma.fst
  projectOf := fun _ => 1
  cacheTtl := fun _ => 300 * 1000000

def greeting (sector : Uuid) : QuickMessage where
  user := "ana@example.com"
  shortcut := "hi"
  title := none
  text := "Hello"
  sector := some sector
  createdOn := 0

def oneMessage : Messages := (∅ : Messages).insert 1 (greeting 1)

def listAround (changes : List (ListEvent Unit)) (statements : Nat) : List (ListEvent Unit) :=
  .start () (.list (.sector 1) "" "") :: List.replicate 6 (.advance () ()) ++ changes ++
  .start () (.list (.sector 1) "" "") :: List.replicate statements (.advance () ())

/-- The message is stored in another sector. Its page is found in the cache. -/
theorem moved_message_stays_listed :
    ¬ ∀ (settings : ListSettings (List Uuid)) (now : Instant) (messages : Messages)
      (final : ListPool Unit (List Uuid)),
      (listProgram settings).machine.Reaches Machine.anyStep (Pool.idle (.fresh now messages))
        final → AnswersAsStored settings final := by
  intro reflects
  have answers : ((listProgram exampleSettings).machine.run (Pool.idle (.fresh 0 oneMessage))
      (listAround (.start () (.save 1 (greeting 2)) :: List.replicate 7 (.advance () ())) 2)).map
        (fun pool => (pool.process ()).map fun progress =>
          decide (progress.AnswersAsStored exampleSettings pool.shared)) = some (some false) := by
    decide
  rcases Option.map_eq_some_iff.mp answers with ⟨final, ran, observed⟩
  rcases Option.map_eq_some_iff.mp observed with ⟨progress, running, otherwise⟩
  exact of_decide_eq_false otherwise
    (reflects exampleSettings 0 oneMessage final (.of_run ran) () progress running)

def ListProgress.page : ListProgress (List Uuid) → Option (List Uuid)
  | .answered _ page => some page
  | _ => none

/-- The message is deleted, and is listed no more. -/
theorem deleted_message_is_not_listed :
    ∃ final, (listProgram exampleSettings).machine.runMeeting
        (AllKeepListsFresh Unit exampleSettings) (Pool.idle (.fresh 0 oneMessage))
        (listAround (.start () (.delete 1 (greeting 1)) :: List.replicate 7 (.advance () ())) 4) =
          some final ∧ AnswersAsStored exampleSettings final := by
  have answers : ((listProgram exampleSettings).machine.runMeeting
      (AllKeepListsFresh Unit exampleSettings) (Pool.idle (.fresh 0 oneMessage))
      (listAround (.start () (.delete 1 (greeting 1)) :: List.replicate 7 (.advance () ())) 4)).map
        (fun pool => (pool.process ()).bind ListProgress.page) = some (some []) := by
    decide
  rcases Option.map_eq_some_iff.mp answers with ⟨final, ran, _⟩
  exact ⟨final, ran,
    lists_reflect_returned_changes exampleSettings 0 oneMessage final (.of_runMeeting ran)⟩

end ChatsEngine.QuickMessages
