import ChatsEngine.Core.Types
import ChatsEngine.Foundation.Action
import ChatsEngine.Foundation.Keyset

/-! # The report on the rooms of a project

A flag says that a report is being generated. It is set before the rooms are read, and cleared
after everything else, outside of the `finally`. -/

namespace ChatsEngine.Rooms.RoomsReport

/-! ## Rooms and reports -/

structure ReportMetric where
  waitingTime : Int
  firstResponseTime : Option Int
  messageResponseTime : Int
  interactionTime : Int
deriving DecidableEq, Repr

structure ReportContact where
  name : Option String
deriving DecidableEq, Repr

structure ReportRoom where
  uuid : Uuid
  project : Uuid
  queueName : String
  queueIsDeleted : Bool
  sectorIsDeleted : Bool
  urn : Option String
  contact : Option ReportContact
  createdOn : Instant
  endedAt : Option Instant
  /-- The name of the user, if there is a user. -/
  userName : Option String
  messages : Nat
  metric : Option ReportMetric
  tags : List String
deriving DecidableEq, Repr

structure ReportRow where
  uuid : Uuid
  contactName : Option String
  phoneNumber : String
  createdOn : Instant
  endedAt : Option Instant
  queueName : String
  userName : Option String
  messages : Nat
  metric : ReportMetric
  tags : String
deriving DecidableEq, Repr

structure Csv where
  header : List String
  rows : List ReportRow
deriving DecidableEq, Repr

def header : List String :=
  ["Identificador da sala", "Cliente", "Número do cliente", "Data da entrada", "Data de fim",
    "Fila", "Agente", "Quantidade de mensagens", "Tempo de espera",
    "Tempo para primeira resposta", "Tempo de resposta", "Duração", "Tags"]

inductive ReportEmail
  | ready (recipient : String) (totalRooms : Nat) (csv : Csv)
  | failed (recipient : String) (errorMessage : String)
deriving DecidableEq, Repr

/-! ## The service -/

inductive ReportPoint
  | settingFlag
  | checkingRooms
  | countingRooms
  | loadingRooms
  | countingMessages (room : Uuid)
  | countingForEmail
  | renderingReport
  | sendingReport
  -- the handler
  | capturing
  | renderingFailure
  | sendingFailure
  | clearingFlag
deriving DecidableEq, Repr

/-- What the database and the services do at each statement, and `SEND_EMAILS`. -/
structure ReportEnvironment where
  raisesAt : ReportPoint → Option String
  sendEmails : Bool

structure ReportStore where
  rooms : List ReportRoom
  /-- The flag of the project is in the cache. -/
  generating : Bool
  /-- The content of the report, once it is complete. -/
  csvContent : Option Csv
  outbox : List ReportEmail

abbrev ReportAction (Result : Type) := Action ReportStore String Result

/-- How the body of the `try` ends if it does not raise. -/
inductive Exit
  | noRooms
  | finished
deriving DecidableEq, Repr

def isGeneratingReport (store : ReportStore) : Bool := store.generating

section Service

variable (environment : ReportEnvironment)

def reach (point : ReportPoint) : ReportAction PUnit :=
  Action.require (environment.raisesAt point = none) ((environment.raisesAt point).getD "")

def matchingRooms (project : Uuid) (filters : ReportRoom → Bool) (rooms : List ReportRoom) :
    List ReportRoom :=
  Keyset.orderBy ReportRoom.createdOn (rooms.filter fun room =>
    room.project = project ∧ ¬room.queueIsDeleted ∧ ¬room.sectorIsDeleted ∧ filters room)

/-- `urn.split(":")[1]` -/
def phoneNumberOf (urn : String) : Option String :=
  ((urn.toList.splitOn ':')[1]?).map String.ofList

def dataRow (room : ReportRoom) : ReportAction ReportRow := do
  let urn ← Action.expect room.urn "'NoneType' object has no attribute 'split'"
  let phoneNumber ← Action.expect (phoneNumberOf urn) "list index out of range"
  let contact ← Action.expect room.contact "'NoneType' object has no attribute 'name'"
  reach environment (.countingMessages room.uuid)
  let metric ← Action.expect room.metric "Room has no metric."
  return {
    uuid := room.uuid
    contactName := contact.name
    phoneNumber
    createdOn := room.createdOn
    endedAt := room.endedAt
    queueName := room.queueName
    userName := room.userName
    messages := room.messages
    metric
    tags := String.intercalate ", " room.tags }

def dataRows (rooms : List ReportRoom) : ReportAction (List ReportRow) :=
  Action.fold (fun rows room => do
    let row ← dataRow environment room
    return rows ++ [row]) [] rooms

variable (project : Uuid) (filters : ReportRoom → Bool) (recipientEmail : String)

def sendReport (rooms : List ReportRoom) (csv : Csv) : ReportAction PUnit := do
  reach environment .countingForEmail
  reach environment .renderingReport
  reach environment .sendingReport
  Action.update fun store =>
    { store with outbox := .ready recipientEmail rooms.length csv :: store.outbox }

/-- The body of the `try`. -/
def tryGenerate : ReportAction Exit := do
  let rooms ← Action.query fun store => matchingRooms project filters store.rooms
  reach environment .checkingRooms
  if rooms = [] then return .noRooms
  else do
    reach environment .countingRooms
    reach environment .loadingRooms
    let rows ← dataRows environment rooms
    let csv : Csv := { header, rows }
    Action.update fun store => { store with csvContent := some csv }
    Action.when (environment.sendEmails = true) (sendReport environment recipientEmail rooms csv)
    return .finished

def sendFailure (errorMessage : String) : ReportAction PUnit := do
  reach environment .sendingFailure
  Action.update fun store =>
    { store with outbox := .failed recipientEmail errorMessage :: store.outbox }

def handle (error : String) : ReportAction PUnit := do
  reach environment .capturing
  Action.when (environment.sendEmails = true) do
    reach environment .renderingFailure
    let _ ← (Action.attempt (sendFailure environment recipientEmail error) :
      ReportAction (Except String PUnit))

def clearFlag : ReportAction PUnit := do
  reach environment .clearingFlag
  Action.update fun store => { store with generating := false }

def generateReport : ReportAction PUnit := do
  reach environment .settingFlag
  Action.update fun store => { store with generating := true, csvContent := none }
  let outcome ← (Action.attempt (tryGenerate environment project filters recipientEmail) :
    ReportAction (Except String Exit))
  match outcome with
  | .ok .noRooms => return
  | .ok .finished => clearFlag environment
  | .error error => do
      handle environment recipientEmail error
      clearFlag environment

end Service

/-! ## What a report is to do -/

structure ReportRoom.IsComplete (room : ReportRoom) : Prop where
  urn : ∃ urn ∈ room.urn, ':' ∈ urn.toList
  contact : room.contact.isSome
  metric : room.metric.isSome

section Conditions

variable (environment : ReportEnvironment) (rooms : List ReportRoom)

/-- The points of the `try` before the rows. -/
def readingPoints : List ReportPoint := [.checkingRooms, .countingRooms, .loadingRooms]

structure ReportEnvironment.Reads : Prop where
  setting : environment.raisesAt .settingFlag = none
  points : ∀ point ∈ readingPoints, environment.raisesAt point = none
  counts : ∀ room ∈ rooms, environment.raisesAt (.countingMessages room.uuid) = none

/-- The content has one row for each room that matches, if the statements return, and the flag
is cleared. -/
structure Fulfils (after : ReportStore) : Prop where
  csv : environment.Reads rooms → rooms ≠ [] →
    ∃ csv ∈ after.csvContent, csv.rows.map ReportRow.uuid = rooms.map ReportRoom.uuid
  flag : isGeneratingReport after = false

structure ReportEnvironment.Completes : Prop where
  points : ∀ point ∈ readingPoints, environment.raisesAt point = none
  rows : ∀ room ∈ rooms,
    room.IsComplete ∧ environment.raisesAt (.countingMessages room.uuid) = none

def ReportEnvironment.Sends : Prop :=
  environment.sendEmails = true →
    ∀ point ∈ [ReportPoint.countingForEmail, .renderingReport, .sendingReport],
      environment.raisesAt point = none

structure ReportEnvironment.Handles : Prop where
  capturing : environment.raisesAt .capturing = none
  rendering : environment.sendEmails = true → environment.raisesAt .renderingFailure = none

/-- The flag is cleared if there is a room, or if looking for one raises, as long as the handler
returns where it is needed, and clearing does. -/
def ReportEnvironment.Clears (wasGenerating : Bool) : Prop :=
  if environment.raisesAt .settingFlag = none then
    environment.raisesAt .clearingFlag = none ∧
      (environment.raisesAt .checkingRooms ≠ none ∨ rooms ≠ []) ∧
        (environment.Completes rooms ∧ environment.Sends ∨ environment.Handles)
  else wasGenerating = false

end Conditions

/-! ## The rows -/

section Rows

open ChatsEngine.Action

variable {environment : ReportEnvironment} {room : ReportRoom} {rooms : List ReportRoom}
  {store : ReportStore} {Result : Type} {before : ReportStore → Prop}
  {returns : Result → ReportStore → Prop} {raises : ReportStore → Prop}

theorem length_splitOnP {Item : Type} (splits : Item → Bool) (items : List Item) :
    (items.splitOnP splits).length = items.countP splits + 1 := by
  induction items with
  | nil => rfl
  | cons item items induction =>
      rw [List.splitOnP_cons_eq_if_modifyHead, List.countP_cons]
      split
      · rw [List.length_cons, induction]
      · rw [List.length_modifyHead, induction, Nat.add_zero]

theorem phoneNumberOf_isSome_iff (urn : String) :
    (phoneNumberOf urn).isSome ↔ ':' ∈ urn.toList := by
  rw [phoneNumberOf, Option.isSome_map, Option.isSome_iff_ne_none, Ne, List.getElem?_eq_none_iff,
    Nat.not_le, List.splitOn, length_splitOnP]
  constructor
  · intro two
    have positive : 0 < urn.toList.countP (· == ':') := by omega
    rcases List.countP_pos_iff.mp positive with ⟨char, listed, isColon⟩
    rw [← eq_of_beq isColon]
    exact listed
  · intro listed
    have positive : 0 < urn.toList.countP (· == ':') :=
      List.countP_pos_iff.mpr ⟨':', listed, beq_self_eq_true ':'⟩
    omega

theorem reach_bind {point : ReportPoint} {next : PUnit → ReportAction Result}
    (fails : environment.raisesAt point ≠ none → ∀ store, before store → raises store)
    (rest : environment.raisesAt point = none →
      Ensures before (next ⟨⟩) returns fun _ => raises) :
    Ensures before (reach environment point >>= next) returns fun _ => raises :=
  Ensures.require_bind fails rest

theorem dataRow_ensures (environment : ReportEnvironment) (room : ReportRoom)
    (before : ReportStore → Prop) :
    Ensures before (dataRow environment room)
      (fun row store => (row.uuid = room.uuid ∧ room.IsComplete ∧
        environment.raisesAt (.countingMessages room.uuid) = none) ∧ before store)
      fun _ store => ¬(room.IsComplete ∧
        environment.raisesAt (.countingMessages room.uuid) = none) ∧ before store := by
  apply Ensures.expect_bind
  · intro noUrn store starts
    refine ⟨fun complete => ?_, starts⟩
    rcases complete.1.urn with ⟨urn, isUrn, _⟩
    cases noUrn.symm.trans isUrn
  · intro urn isUrn
    apply Ensures.expect_bind
    · intro noNumber store starts
      refine ⟨fun complete => ?_, starts⟩
      rcases complete.1.urn with ⟨same, isSame, hasColon⟩
      cases isUrn.symm.trans isSame
      have isNumber := (phoneNumberOf_isSome_iff urn).mpr hasColon
      rw [noNumber] at isNumber
      cases isNumber
    · intro phoneNumber isNumber
      have hasColon := (phoneNumberOf_isSome_iff urn).mp (Option.isSome_of_eq_some isNumber)
      apply Ensures.expect_bind
      · intro noContact store starts
        refine ⟨fun complete => ?_, starts⟩
        have isContact := complete.1.contact
        rw [noContact] at isContact
        cases isContact
      · intro contact isContact
        apply reach_bind fun raises store starts => ⟨fun complete => raises complete.2, starts⟩
        intro counted
        apply Ensures.expect_bind
        · intro noMetric store starts
          refine ⟨fun complete => ?_, starts⟩
          have isMetric := complete.1.metric
          rw [noMetric] at isMetric
          cases isMetric
        · intro metric isMetric
          apply Ensures.pure
          intro store starts
          exact ⟨⟨rfl, ⟨⟨urn, isUrn, hasColon⟩, Option.isSome_of_eq_some isContact,
            Option.isSome_of_eq_some isMetric⟩, counted⟩, starts⟩

theorem dataRows_ensures (environment : ReportEnvironment) (rooms : List ReportRoom)
    (before : ReportStore → Prop) :
    Ensures before (dataRows environment rooms)
      (fun rows store => (rows.map ReportRow.uuid = rooms.map ReportRoom.uuid ∧
        ∀ room ∈ rooms, room.IsComplete ∧
          environment.raisesAt (.countingMessages room.uuid) = none) ∧ before store)
      fun _ store => ¬(∀ room ∈ rooms, room.IsComplete ∧
        environment.raisesAt (.countingMessages room.uuid) = none) ∧ before store := by
  let holds (rest : List ReportRoom) (rows : List ReportRow) (store : ReportStore) : Prop :=
    (∃ done, done ++ rest = rooms ∧ rows.map ReportRow.uuid = done.map ReportRoom.uuid ∧
      ∀ room ∈ done, room.IsComplete ∧
        environment.raisesAt (.countingMessages room.uuid) = none) ∧ before store
  apply Ensures.weaken (Ensures.fold holds ?_ [] rooms)
  · exact fun store starts =>
      ⟨⟨[], rfl, rfl, fun _ none => absurd none List.not_mem_nil⟩, starts⟩
  · intro rows store given
    rcases given with ⟨⟨done, all, sameRows, complete⟩, starts⟩
    rw [List.append_nil] at all
    rw [← all]
    exact ⟨⟨sameRows, complete⟩, starts⟩
  · exact fun _ _ raised => raised
  · intro rows room rest
    apply Ensures.bind _ ((dataRow_ensures environment room (holds (room :: rest) rows)).weaken
      (fun _ starts => starts) (fun _ _ returned => returned) ?_)
    · intro row
      apply Ensures.pure
      intro store given
      rcases given with ⟨⟨isUuid, isComplete, counted⟩, ⟨done, all, sameRows, complete⟩, starts⟩
      refine ⟨⟨done ++ [room], by rw [List.append_assoc]; exact all, ?_, ?_⟩, starts⟩
      · rw [List.map_append, List.map_append, sameRows, List.map_singleton, isUuid]
        rfl
      · intro other listed
        rcases List.mem_append.mp listed with earlier | last
        · exact complete other earlier
        · rw [List.mem_singleton.mp last]
          exact ⟨isComplete, counted⟩
    · intro _ store given
      rcases given with ⟨incomplete, ⟨done, all, _, _⟩, starts⟩
      refine ⟨fun complete => incomplete (complete room ?_), starts⟩
      rw [← all]
      exact List.mem_append_right _ List.mem_cons_self

end Rows

/-! ## The body and the handler -/

section Body

open ChatsEngine.Action

variable {environment : ReportEnvironment} {rooms : List ReportRoom}

def HasContent (rooms : List ReportRoom) (store : ReportStore) : Prop :=
  ∃ csv ∈ store.csvContent, csv.rows.map ReportRow.uuid = rooms.map ReportRoom.uuid

/-- The content is there exactly if there is a room and all rows could be made. -/
def ContentIsRight (environment : ReportEnvironment) (rooms : List ReportRoom)
    (store : ReportStore) : Prop :=
  HasContent rooms store ↔ environment.Completes rooms ∧ rooms ≠ []

theorem not_hasContent {store : ReportStore} (noContent : store.csvContent = none) :
    ¬HasContent rooms store := by
  intro given
  rcases given with ⟨csv, isCsv, _⟩
  cases noContent.symm.trans isCsv

theorem sendReport_ensures (recipientEmail : String) (csv : Csv) (before : ReportStore → Prop)
    (keeps : ∀ store outbox, before store → before { store with outbox }) :
    Ensures before (Action.when (environment.sendEmails = true)
        (sendReport environment recipientEmail rooms csv))
      (fun _ store => environment.Sends ∧ before store)
      fun _ store => ¬environment.Sends ∧ before store := by
  apply Ensures.when
  · intro sends
    have fails : ∀ point ∈ [ReportPoint.countingForEmail, .renderingReport, .sendingReport],
        environment.raisesAt point ≠ none → ¬environment.Sends :=
      fun point listed raises sent => raises (sent sends point listed)
    apply reach_bind fun raises store starts => ⟨fails _ (by simp) raises, starts⟩
    intro counted
    apply reach_bind fun raises store starts => ⟨fails _ (by simp) raises, starts⟩
    intro rendered
    apply reach_bind fun raises store starts => ⟨fails _ (by simp) raises, starts⟩
    intro sent
    apply Ensures.update
    intro store starts
    refine ⟨fun _ => ?_, keeps store _ starts⟩
    simp [counted, rendered, sent]
  · exact fun store starts notSent => ⟨fun sends => absurd sends notSent, starts⟩

def Kept (environment : ReportEnvironment) (rooms : List ReportRoom) (store : ReportStore) :
    Prop :=
  store.generating = true ∧ ContentIsRight environment rooms store

def Exit.Reached (environment : ReportEnvironment) (rooms : List ReportRoom) : Exit → Prop
  | .noRooms => environment.raisesAt .checkingRooms = none ∧ rooms = []
  | .finished => rooms ≠ [] ∧ environment.Completes rooms ∧ environment.Sends

def Interrupted (environment : ReportEnvironment) (rooms : List ReportRoom) : Prop :=
  (environment.raisesAt .checkingRooms ≠ none ∨ rooms ≠ []) ∧
    ¬(environment.Completes rooms ∧ environment.Sends)

def Starts (store : ReportStore) : Prop :=
  store.generating = true ∧ store.csvContent = none

theorem Starts.kept {store : ReportStore} (starts : Starts store)
    (incomplete : ¬(environment.Completes rooms ∧ rooms ≠ [])) : Kept environment rooms store :=
  ⟨starts.1, iff_of_false (not_hasContent starts.2) incomplete⟩

theorem Starts.interrupted {store : ReportStore} (starts : Starts store)
    (looked : environment.raisesAt .checkingRooms ≠ none ∨ rooms ≠ [])
    (incomplete : ¬environment.Completes rooms) :
    Interrupted environment rooms ∧ Kept environment rooms store :=
  ⟨⟨looked, fun both => incomplete both.1⟩, starts.kept fun both => incomplete both.1⟩

theorem reading_bind {Result : Type} {returns : Result → ReportStore → Prop}
    {point : ReportPoint} {next : PUnit → ReportAction Result} (listed : point ∈ readingPoints)
    (looked : environment.raisesAt point ≠ none →
      environment.raisesAt .checkingRooms ≠ none ∨ rooms ≠ [])
    (rest : environment.raisesAt point = none → Ensures Starts (next ⟨⟩) returns
      fun _ store => Interrupted environment rooms ∧ Kept environment rooms store) :
    Ensures Starts (reach environment point >>= next) returns
      fun _ store => Interrupted environment rooms ∧ Kept environment rooms store := by
  apply reach_bind _ rest
  exact fun raises store starts => starts.interrupted (looked raises)
    fun completes => raises (completes.points point listed)

theorem tryGenerate_ensures (environment : ReportEnvironment) (project : Uuid)
    (filters : ReportRoom → Bool) (recipientEmail : String) (stored : List ReportRoom)
    (isRooms : matchingRooms project filters stored = rooms) :
    Ensures (fun store => store.rooms = stored ∧ Starts store)
      (tryGenerate environment project filters recipientEmail)
      (fun exit store => exit.Reached environment rooms ∧ Kept environment rooms store)
      fun _ store => Interrupted environment rooms ∧ Kept environment rooms store := by
  apply Ensures.query_bind
  intro value
  apply Ensures.of_each
  intro store given
  rcases given with ⟨⟨isStored, starts⟩, isValue⟩
  rw [isStored, isRooms] at isValue
  cases isValue
  have weaker : ∀ own, own = store → Starts own := by
    intro _ same
    subst same
    exact starts
  refine Ensures.weaken ?_ weaker (fun _ _ returned => returned) fun _ _ raised => raised
  apply reading_bind (by simp [readingPoints]) .inl
  intro checked
  split
  · next empty =>
      apply Ensures.pure
      exact fun own starts => ⟨⟨checked, empty⟩, starts.kept fun both => both.2 empty⟩
  · next nonempty =>
      apply reading_bind (by simp [readingPoints]) fun _ => .inr nonempty
      intro counted
      apply reading_bind (by simp [readingPoints]) fun _ => .inr nonempty
      intro loaded
      apply Ensures.bind _ ((dataRows_ensures environment rooms _).weaken
        (fun _ starts => starts) (fun _ _ returned => returned) ?_)
      · intro rows
        apply Ensures.of_fact
        intro given
        rcases given with ⟨sameRows, complete⟩
        have completes : environment.Completes rooms :=
          ⟨by simp [readingPoints, checked, counted, loaded], complete⟩
        apply Ensures.bind fun _ own => Kept environment rooms own
        · apply Ensures.update
          intro own starts
          exact ⟨starts.1, iff_of_true ⟨_, rfl, sameRows⟩ ⟨completes, nonempty⟩⟩
        · intro _
          apply Ensures.bind _ ((sendReport_ensures recipientEmail _ _
            fun _ _ kept => kept).weaken (fun _ starts => starts)
              (fun _ _ returned => returned) ?_)
          · intro _
            apply Ensures.of_fact
            intro sends
            exact Ensures.pure fun own kept => ⟨⟨nonempty, completes, sends⟩, kept⟩
          · intro _ own given
            rcases given with ⟨notSent, kept⟩
            exact ⟨⟨.inr nonempty, fun both => notSent both.2⟩, kept⟩
      · intro _ own given
        rcases given with ⟨incomplete, starts⟩
        exact starts.interrupted (.inr nonempty) fun completes => incomplete completes.rows

theorem handle_ensures (recipientEmail error : String) (before : ReportStore → Prop)
    (keeps : ∀ store outbox, before store → before { store with outbox }) :
    Ensures before (handle environment recipientEmail error)
      (fun _ store => environment.Handles ∧ before store)
      fun _ store => ¬environment.Handles ∧ before store := by
  apply reach_bind fun raises store starts => ⟨fun handles => raises handles.capturing, starts⟩
  intro captured
  apply Ensures.when
  · intro sends
    apply reach_bind
      fun raises store starts => ⟨fun handles => raises (handles.rendering sends), starts⟩
    intro rendered
    have handles : environment.Handles := ⟨captured, fun _ => rendered⟩
    have tried : Ensures before (sendFailure environment recipientEmail error) (fun _ => before)
        fun _ => before := by
      apply reach_bind fun _ _ starts => starts
      intro _
      exact Ensures.update fun store starts => keeps store _ starts
    apply tried.attempt_bind
    · exact fun _ => Ensures.pure fun store starts => ⟨handles, starts⟩
    · exact fun _ => Ensures.pure fun store starts => ⟨handles, starts⟩
  · exact fun store starts notSent =>
      ⟨⟨captured, fun sends => absurd sends notSent⟩, starts⟩

def Leaves (environment : ReportEnvironment) (rooms : List ReportRoom) (wasGenerating : Bool)
    (after : ReportStore) : Prop :=
  (environment.raisesAt .settingFlag = none → ContentIsRight environment rooms after) ∧
    (after.generating = false ↔ environment.Clears rooms wasGenerating)

theorem Leaves.of_generating {wasGenerating : Bool} {after : ReportStore}
    (set : environment.raisesAt .settingFlag = none)
    (isRight : ContentIsRight environment rooms after) (generates : after.generating = true)
    (stays : ¬(environment.raisesAt .clearingFlag = none ∧
      (environment.raisesAt .checkingRooms ≠ none ∨ rooms ≠ []) ∧
        (environment.Completes rooms ∧ environment.Sends ∨ environment.Handles))) :
    Leaves environment rooms wasGenerating after := by
  refine ⟨fun _ => isRight, ?_⟩
  rw [ReportEnvironment.Clears, if_pos set, generates]
  exact iff_of_false Bool.noConfusion stays

theorem clearFlag_ensures {wasGenerating : Bool}
    (set : environment.raisesAt .settingFlag = none)
    (looked : environment.raisesAt .checkingRooms ≠ none ∨ rooms ≠ [])
    (proceeds : environment.Completes rooms ∧ environment.Sends ∨ environment.Handles) :
    Ensures (Kept environment rooms) (clearFlag environment)
      (fun _ => Leaves environment rooms wasGenerating)
      fun _ => Leaves environment rooms wasGenerating := by
  apply reach_bind
  · intro raises after given
    rcases given with ⟨generates, isRight⟩
    exact .of_generating set isRight generates fun clears => raises clears.1
  · intro cleared
    apply Ensures.update
    intro after given
    rcases given with ⟨_, isRight⟩
    refine ⟨fun _ => isRight, ?_⟩
    rw [ReportEnvironment.Clears, if_pos set]
    exact iff_of_true rfl ⟨cleared, looked, proceeds⟩

theorem generateReport_ensures (environment : ReportEnvironment) (project : Uuid)
    (filters : ReportRoom → Bool) (recipientEmail : String) (store : ReportStore)
    (isRooms : matchingRooms project filters store.rooms = rooms) :
    Ensures (fun own => own = store)
      (generateReport environment project filters recipientEmail)
      (fun _ => Leaves environment rooms store.generating)
      fun _ => Leaves environment rooms store.generating := by
  apply reach_bind
  · intro raises _ same
    subst same
    refine ⟨fun set => absurd set raises, ?_⟩
    rw [ReportEnvironment.Clears, if_neg raises]
  · intro set
    apply Ensures.bind fun _ after => after.rooms = store.rooms ∧ Starts after
    · apply Ensures.update
      intro _ same
      subst same
      exact ⟨rfl, rfl, rfl⟩
    · intro _
      apply (tryGenerate_ensures environment project filters recipientEmail store.rooms
        isRooms).attempt_bind
      · intro exit
        apply Ensures.of_fact
        intro reached
        cases exit with
        | noRooms =>
            apply Ensures.pure
            intro after given
            rcases given with ⟨generates, isRight⟩
            apply Leaves.of_generating set isRight generates
            rintro ⟨_, raises | nonempty, _⟩
            · exact raises reached.1
            · exact nonempty reached.2
        | finished => exact clearFlag_ensures set (.inr reached.1) (.inl reached.2)
      · intro error
        apply Ensures.of_fact
        intro given
        rcases given with ⟨looked, notReturned⟩
        apply Ensures.bind _ ((handle_ensures recipientEmail error (Kept environment rooms)
          fun _ _ kept => kept).weaken (fun _ kept => kept) (fun _ _ handled => handled) ?_)
        · intro _
          apply Ensures.of_fact
          exact fun handles => clearFlag_ensures set looked (.inr handles)
        · intro _ after given
          rcases given with ⟨unhandled, generates, isRight⟩
          apply Leaves.of_generating set isRight generates
          rintro ⟨_, _, returns | handles⟩
          · exact notReturned returns
          · exact unhandled handles

end Body

def quiet : ReportEnvironment where
  raisesAt _ := none
  sendEmails := true

end ChatsEngine.Rooms.RoomsReport
