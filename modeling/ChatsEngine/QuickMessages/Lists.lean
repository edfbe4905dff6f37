import ChatsEngine.Core.Types
import ChatsEngine.Foundation.Pool
import ChatsEngine.Foundation.Table
import ChatsEngine.Foundation.Versions

/-! # Lists of quick messages

The lists of a sector, of a project and of a user are cached page by page. The keys of the pages
contain a version of their list. A message that is saved or deleted raises the versions of the
lists that it is in. -/

namespace ChatsEngine.QuickMessages

structure QuickMessage where
  user : UserEmail
  shortcut : String
  title : Option String
  text : String
  sector : Option Uuid
  createdOn : Instant
deriving DecidableEq, Repr

inductive MessageList where
  | sector (sector : Uuid)
  | project (project : Uuid)
  | personal (user : UserEmail)
deriving DecidableEq, Repr

/-- A page of a list under one of its versions. -/
structure PageKey where
  list : MessageList
  version : Nat
  cursor : String
  limit : String
deriving DecidableEq, Repr

abbrev Messages := Table Uuid QuickMessage

/-- The messages of a list, which the pages are made of. -/
abbrev Rows := List ((_ : Uuid) × QuickMessage)

section Lists

variable (projectOf : Uuid → Uuid)

def QuickMessage.Selected (message : QuickMessage) : MessageList → Prop
  | .sector sector => message.sector = some sector
  | .project project => ∃ sector ∈ message.sector, projectOf sector = project
  | .personal user => message.sector = none ∧ message.user = user

instance (message : QuickMessage) : DecidablePred (message.Selected projectOf) := by
  intro list
  unfold QuickMessage.Selected
  split <;> infer_instance

def rowsOf (list : MessageList) (messages : Messages) : Rows :=
  messages.entries.filter fun entry => entry.2.Selected projectOf list

/-- The lists whose versions the signals raise, `invalidate_cache_on_save`. -/
def QuickMessage.lists (message : QuickMessage) : List MessageList :=
  match message.sector with
  | none => [.personal message.user]
  | some sector => [.sector sector, .project (projectOf sector)]

theorem QuickMessage.selected_iff {message : QuickMessage} {list : MessageList} :
    message.Selected projectOf list ↔ list ∈ message.lists projectOf := by
  cases list <;> cases isSector : message.sector <;>
    simp [QuickMessage.Selected, QuickMessage.lists, isSector, eq_comm]

end Lists

/-- A page in the cache. No statement reads `seen`, the number of the changes that had been made
when its rows were read. -/
structure CachedPage (Page : Type) where
  page : Page
  seen : Nat
  expiry : Instant

/-- What the requests share. No statement reads `outdated`: a page under the version that it
gives for a change and a list, or under an older one, may be without the change; nor
`deletions`, the changes that were deletions. -/
structure QuickMessageTables (Page : Type) where
  now : Instant
  messages : Versions Messages
  versions : MessageList → Option Nat
  pages : Table PageKey (CachedPage Page)
  outdated : Nat → MessageList → Nat
  deletions : List Nat

namespace QuickMessageTables

variable {Page : Type} (tables : QuickMessageTables Page)

/-- The version of a list, and nothing before its first use. -/
def version (list : MessageList) : Nat := (tables.versions list).getD 0

def setVersion (list : MessageList) (version : Nat) : QuickMessageTables Page :=
  { tables with versions := Function.update tables.versions list (some version) }

def cached (key : PageKey) : Option (CachedPage Page) :=
  (tables.pages.lookup key).filter fun cached => tables.now < cached.expiry

end QuickMessageTables

structure ListSettings (Page : Type) where
  /-- The page of the rows for a cursor and a limit. -/
  paginate : Rows → String → String → Page
  projectOf : Uuid → Uuid
  cacheTtl : MessageList → Nat

structure ListRequest where
  list : MessageList
  cursor : String
  limit : String
  /-- The changes that had returned when the request started. -/
  since : List Nat

def ListRequest.key (request : ListRequest) (version : Nat) : PageKey :=
  { list := request.list, version, cursor := request.cursor, limit := request.limit }

inductive ListTask where
  | list (list : MessageList) (cursor limit : String)
  /-- Create a message, or save an edited one. -/
  | save (pk : Uuid) (message : QuickMessage)
  /-- Delete a message that has been loaded before. -/
  | delete (pk : Uuid) (message : QuickMessage)

/-- What is done once the versions have been raised. -/
inductive AfterRaising where
  /-- The change that has been made returns. -/
  | settle (number : Nat)
  /-- The signal is sent within the transaction that deletes the message. -/
  | commit (pk : Uuid) (message : QuickMessage)

inductive ListProgress (Page : Type) where
  | starting (task : ListTask)
  | initializing (request : ListRequest)
  | reading (request : ListRequest) (version : Nat)
  | querying (request : ListRequest) (version : Nat)
  | storing (request : ListRequest) (version : Nat) (page : Page) (seen : Nat)
  | answered (request : ListRequest) (page : Page)
  /-- The versions of the lists are read one after the other. -/
  | readingVersions (lists : List MessageList) (raised : List (MessageList × Nat))
      (last : AfterRaising)
  /-- The raised versions are set one after the other. -/
  | settingVersions (raised : List (MessageList × Nat)) (last : AfterRaising)

inductive ListSurrounding where
  | tick (elapsed : Nat)
  | evict (key : PageKey)

namespace QuickMessageTables

variable {Page : Type} (tables : QuickMessageTables Page)

/-- A message is stored. Pages of the versions that the lists have now may be without it. -/
def saveMessage (pk : Uuid) (message : QuickMessage) : QuickMessageTables Page :=
  let messages := tables.messages.change (tables.messages.current.insert pk message)
  { tables with
    messages := messages
    outdated := Function.update tables.outdated messages.changes tables.version }

/-- The deletion of a message is committed, after the versions of its lists have been raised. -/
def commitDeletion (pk : Uuid) : QuickMessageTables Page :=
  let messages := tables.messages.change (tables.messages.current.erase pk)
  { tables with
    messages := messages.settle messages.changes
    outdated :=
      Function.update tables.outdated messages.changes fun list => tables.version list - 1
    deletions := messages.changes :: tables.deletions }

end QuickMessageTables

namespace ListProgress

variable {Page : Type} (settings : ListSettings Page)

def advance (tables : QuickMessageTables Page) :
    ListProgress Page → Unit → Option (QuickMessageTables Page × Option (ListProgress Page))
  | .starting (.list list cursor limit), _ =>
      let request := { list, cursor, limit, since := tables.messages.returned }
      some (tables, some (
        match tables.versions list with
        | none => .initializing request
        | some version => .reading request version))
  | .starting (.save pk message), _ =>
      let saved := tables.saveMessage pk message
      some (saved, some (
        .readingVersions (message.lists settings.projectOf) [] (.settle saved.messages.changes)))
  | .starting (.delete pk message), _ =>
      some (tables, some (
        .readingVersions (message.lists settings.projectOf) [] (.commit pk message)))
  | .initializing request, _ =>
      some (tables.setVersion request.list 1, some (.reading request 1))
  | .reading request version, _ =>
      some (tables, some (
        match tables.cached (request.key version) with
        | some cached => .answered request cached.page
        | none => .querying request version))
  | .querying request version, _ =>
      let rows := rowsOf settings.projectOf request.list tables.messages.current
      some (tables, some (
        .storing request version (settings.paginate rows request.cursor request.limit)
          tables.messages.changes))
  | .storing request version page seen, _ =>
      let expiry := tables.now + settings.cacheTtl request.list
      some
        ({ tables with
            pages := tables.pages.insert (request.key version) { page, seen, expiry } },
          some (.answered request page))
  | .answered _ _, _ => some (tables, none)
  | .readingVersions (list :: lists) raised last, _ =>
      some (tables, some (
        .readingVersions lists (raised ++ [(list, (tables.versions list).getD 0 + 1)]) last))
  | .readingVersions [] raised last, _ => some (tables, some (.settingVersions raised last))
  | .settingVersions ((list, version) :: raised) last, _ =>
      some (tables.setVersion list version, some (.settingVersions raised last))
  | .settingVersions [] (.settle number), _ =>
      some ({ tables with messages := tables.messages.settle number }, none)
  | .settingVersions [] (.commit pk _), _ => some (tables.commitDeletion pk, none)

end ListProgress

def QuickMessageTables.surround {Page : Type} (tables : QuickMessageTables Page) :
    ListSurrounding → Option (QuickMessageTables Page)
  | .tick elapsed => some { tables with now := tables.now + elapsed }
  | .evict key => some { tables with pages := tables.pages.erase key }

def listProgram {Page : Type} (settings : ListSettings Page) :
    Program (QuickMessageTables Page) (ListProgress Page) ListTask Unit ListSurrounding where
  enter := .starting
  advance := ListProgress.advance settings
  surround := QuickMessageTables.surround

abbrev ListPool (Pid Page : Type) := Pool Pid (QuickMessageTables Page) (ListProgress Page)

abbrev ListEvent (Pid : Type) := PoolEvent Pid ListTask Unit ListSurrounding

/-- A request is answered with a page of the list as it was at a moment after which no change
has altered the page that had returned when the request started. -/
def ListProgress.AnswersAsStored {Page : Type} (settings : ListSettings Page)
    (tables : QuickMessageTables Page) : ListProgress Page → Prop
  | .answered request page =>
      tables.messages.Answers request.since
        (fun messages => settings.paginate (rowsOf settings.projectOf request.list messages)
          request.cursor request.limit) page
  | _ => True

instance {Page : Type} [DecidableEq Page] (settings : ListSettings Page)
    (tables : QuickMessageTables Page) :
    DecidablePred (ListProgress.AnswersAsStored settings tables) := by
  intro progress
  unfold ListProgress.AnswersAsStored
  split <;> infer_instance

def AnswersAsStored {Pid Page : Type} (settings : ListSettings Page) (pool : ListPool Pid Page) :
    Prop :=
  ∀ pid progress, pool.process pid = some progress →
    progress.AnswersAsStored settings pool.shared

end ChatsEngine.QuickMessages
