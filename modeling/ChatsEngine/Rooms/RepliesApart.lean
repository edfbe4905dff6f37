import ChatsEngine.Rooms.InactivityReplies

/-! # Replies apart from the sweeps

A sweep goes by the rows that it has selected until it is done with them. As long as the rows
show the contact's messages where it selects, no other message of the contact comes in
meanwhile, and nobody goes by an outdated copy of the flag, no reply is lost. -/

namespace ChatsEngine.Rooms

section Due

variable {Due : InactivityConfig → Nat → RoomRecord → Prop}
  [∀ config now, DecidablePred (Due config now)]

def Pass.due (pass : Pass) (Due : InactivityConfig → Nat → RoomRecord → Prop)
    [∀ config now, DecidablePred (Due config now)] : List Uuid :=
  (pass.rooms.filter fun room => Due room.config pass.now room.columns).map SelectedRoom.pk

def InactivityTable.due (table : InactivityTable)
    (Eligible : InactivityConfig → RoomRecord → Prop) [∀ config, DecidablePred (Eligible config)]
    (Due : InactivityConfig → Nat → RoomRecord → Prop)
    [∀ config now, DecidablePred (Due config now)] : List Uuid :=
  ((table.select Eligible).filter fun room => Due room.config table.now room.columns).map
    SelectedRoom.pk

variable {pass : Pass} {room : SelectedRoom} {rooms : List SelectedRoom} {pk : Uuid}

theorem Pass.due_cons (isRooms : pass.rooms = room :: rooms) :
    pass.due Due =
      if Due room.config pass.now room.columns then
        room.pk :: ({ pass with rooms } : Pass).due Due
      else ({ pass with rooms } : Pass).due Due := by
  rw [Pass.due, isRooms, List.filter_cons]
  simp only [decide_eq_true_eq]
  split <;> rfl

end Due

namespace InactivityProgress

/-- The rooms that a sweep is about to warn or to close. -/
def targets : InactivityProgress → List Uuid
  | .warning pass => pass.due InactivityConfig.WarnDue
  | .sendingWarning pass room => room.pk :: pass.due InactivityConfig.WarnDue
  | .flagging pass room => room.pk :: pass.due InactivityConfig.WarnDue
  | .closing pass => pass.due InactivityConfig.CloseDue
  | .sendingClosure pass room => room.pk :: pass.due InactivityConfig.CloseDue
  | .refreshing pass room => room.pk :: pass.due InactivityConfig.CloseDue
  | .guarding pass room _ => room.pk :: pass.due InactivityConfig.CloseDue
  | .storing pass room _ => room.pk :: pass.due InactivityConfig.CloseDue
  | _ => []

def queried (table : InactivityTable) : InactivityProgress → Outcome → List Uuid
  | .beforeWarnings _, .done _ =>
      table.due InactivityConfig.EligibleForWarning InactivityConfig.WarnDue
  | .beforeClosures _, .done _ =>
      table.due InactivityConfig.EligibleForClosing InactivityConfig.CloseDue
  | _, _ => []

variable {table : InactivityTable} {pass : Pass} {pk : Uuid} {outcome : Outcome}
  {progress remaining : InactivityProgress}

theorem mem_due_of_warnRound (target : pk ∈ (warnRound pass).targets) :
    pk ∈ pass.due InactivityConfig.WarnDue := by
  rw [warnRound] at target
  split at target
  · cases target
  · next room rooms isRooms =>
      split at target
      · cases target
      · split at target
        · next isDue =>
            rw [Pass.due_cons isRooms, if_pos isDue]
            exact target
        · next notDue =>
            rw [Pass.due_cons isRooms, if_neg notDue]
            exact target

theorem mem_due_of_closeRound (target : pk ∈ (closeRound pass).targets) :
    pk ∈ pass.due InactivityConfig.CloseDue := by
  rw [closeRound] at target
  split at target
  · cases target
  · next room rooms isRooms =>
      split at target
      · cases target
      · split at target
        · next isDue =>
            rw [Pass.due_cons isRooms, if_pos isDue]
            exact target
        · next notDue =>
            rw [Pass.due_cons isRooms, if_neg notDue]
            exact target

theorem mem_targets_of_advance (isNext : (progress.advance table outcome).2 = some remaining)
    (target : pk ∈ remaining.targets) :
    pk ∈ progress.targets ∨ pk ∈ progress.queried table outcome := by
  cases progress with
  | acquiring settings =>
      rw [advance, acquire] at isNext
      split at isNext <;> cases isNext
      cases target
  | beforeWarnings settings =>
      cases outcome with
      | done uuid =>
          cases isNext
          exact .inr target
      | failed =>
          cases isNext
          cases target
  | warning pass =>
      cases outcome with
      | done uuid =>
          cases isNext
          exact .inl (mem_due_of_warnRound target)
      | failed =>
          cases isNext
          cases target
  | sendingWarning pass room =>
      left
      rw [advance, sendWarning.eq_def] at isNext
      dsimp only at isNext
      split at isNext
      · cases isNext
        exact target
      · cases outcome with
        | done uuid =>
            cases isNext
            exact target
        | failed =>
            cases isNext
            exact List.mem_cons_of_mem _ target
  | flagging pass room =>
      cases outcome with
      | done uuid =>
          cases isNext
          exact .inl (List.mem_cons_of_mem _ target)
      | failed =>
          cases isNext
          cases target
  | beforeClosures settings =>
      cases outcome with
      | done uuid =>
          cases isNext
          exact .inr target
      | failed =>
          cases isNext
          cases target
  | closing pass =>
      cases outcome with
      | done uuid =>
          cases isNext
          exact .inl (mem_due_of_closeRound target)
      | failed =>
          cases isNext
          cases target
  | sendingClosure pass room =>
      cases outcome <;>
        · cases isNext
          exact .inl target
  | refreshing pass room =>
      rw [advance, refresh] at isNext
      split at isNext
      · cases isNext
        cases target
      · cases isNext
        exact .inl target
  | guarding pass room held =>
      left
      cases isNext
      split at target
      · exact List.mem_cons_of_mem _ target
      · exact target
  | storing pass room held =>
      cases outcome <;>
        · cases isNext
          exact .inl (List.mem_cons_of_mem _ target)
  | releasing settings => cases isNext
  | receiving pk message contact incrementUnread =>
      rcases Option.map_eq_some_iff.mp isNext with ⟨columns, _, rfl⟩
      cases target
  | received pk room message contact incrementUnread =>
      rw [advance] at isNext
      split at isNext <;> cases isNext
      cases target
  | resetting pk => cases isNext
  | loading pk writes =>
      rcases Option.map_eq_some_iff.mp isNext with ⟨columns, _, rfl⟩
      cases target
  | assigned pk room =>
      rw [advance] at isNext
      split at isNext <;> cases isNext
      cases target
  | saving pk room => cases isNext

end InactivityProgress

namespace RepliesTable

variable {replies : RepliesTable} {pk other message : Uuid}

theorem contactSpokeLast_of_speak {latest : LatestMessage}
    (spoke : (replies.speak pk latest).ContactSpokeLast other) :
    replies.ContactSpokeLast other ∨ other = pk ∧ latest.fromContact = true := by
  rw [speak] at spoke
  split at spoke
  · rcases spoke with ⟨last, isLast, fromContact⟩
    dsimp only at isLast
    by_cases same : other = pk
    · subst same
      rw [Function.update_self] at isLast
      cases isLast
      exact .inr ⟨rfl, fromContact⟩
    · rw [Function.update_of_ne same] at isLast
      exact .inl ⟨last, isLast, fromContact⟩
  · exact .inl spoke

theorem contactSpokeLast_of_handle
    (spoke : (replies.handle pk message).ContactSpokeLast other) :
    replies.ContactSpokeLast other := by
  rcases spoke with ⟨last, isLast, fromContact⟩
  rw [handle] at isLast
  dsimp only at isLast
  by_cases same : other = pk
  · subst same
    rw [Function.update_self] at isLast
    rcases Option.map_eq_some_iff.mp isLast with ⟨before, isBefore, isHandled⟩
    refine ⟨before, isBefore, ?_⟩
    split at isHandled
    · rw [← isHandled] at fromContact
      exact fromContact
    · rw [isHandled]
      exact fromContact
  · rw [Function.update_of_ne same] at isLast
    exact ⟨last, isLast, fromContact⟩

theorem record_latest (progress : InactivityProgress) (outcome : Outcome) :
    (replies.record progress outcome).latest = replies.latest := by
  rw [record.eq_def]
  split
  · split <;> rfl
  · rfl

/-- The open rooms that are due show in `last_message_user` that the contact has spoken last. -/
def ShowsContacts (replies : RepliesTable) (Due : InactivityConfig → Nat → RoomRecord → Prop) :
    Prop :=
  ∀ room ∈ replies.table.rooms.entries, ∀ config ∈ replies.table.configOf room.2,
    room.2 .isActive = true ∧ Due config replies.table.now room.2 →
      replies.ContactSpokeLast room.1 → room.2 .lastMessageUser = none

instance (replies : RepliesTable) (Due : InactivityConfig → Nat → RoomRecord → Prop)
    [∀ config now, DecidablePred (Due config now)] : Decidable (replies.ShowsContacts Due) :=
  inferInstanceAs (Decidable (∀ room ∈ replies.table.rooms.entries,
    ∀ config ∈ replies.table.configOf room.2, _))

theorem silent_of_showsContacts {Due : InactivityConfig → Nat → RoomRecord → Prop}
    [∀ config now, DecidablePred (Due config now)]
    {Eligible : InactivityConfig → RoomRecord → Prop} [∀ config, DecidablePred (Eligible config)]
    (eligible : ∀ config columns, Eligible config columns →
      columns .isActive = true ∧ (columns .lastMessageUser).isSome)
    (shows : replies.ShowsContacts Due) :
    ∀ pk ∈ replies.table.due Eligible Due, ¬replies.ContactSpokeLast pk := by
  intro pk isDue spoke
  rcases List.mem_map.mp isDue with ⟨room, selected, rfl⟩
  rcases List.mem_filter.mp selected with ⟨member, due⟩
  rcases InactivityTable.mem_select member with ⟨meets, stored, isConfig⟩
  rcases eligible _ _ meets with ⟨isActive, agentSpoke⟩
  have contactShown : room.columns .lastMessageUser = none :=
    shows ⟨room.pk, room.columns⟩ (Table.mem_entries_iff.mpr stored) room.config isConfig
      ⟨isActive, of_decide_eq_true due⟩ spoke
  rw [contactShown] at agentSpoke
  cases agentSpoke

theorem contactSpokeLast_of_surround {after : RepliesTable} {event : InactivitySurrounding}
    (surrounded : replies.surround event = some after) (spoke : after.ContactSpokeLast pk) :
    replies.ContactSpokeLast pk := by
  rcases Option.map_eq_some_iff.mp surrounded with ⟨table, _, rfl⟩
  cases event with
  | agentMessage own message user =>
      rcases contactSpokeLast_of_speak spoke with before | ⟨_, impossible⟩
      · exact before
      · cases impossible
  | _ => exact spoke

end RepliesTable

namespace RepliesProgress

def targets : RepliesProgress → List Uuid
  | .running progress => progress.targets
  | _ => []

def speaksIn : RepliesProgress → Option Uuid
  | .storingMessage pk room _ contact _ =>
      if contact.isSome = true ∧ room .isActive = true then some pk else none
  | _ => none

/-- The statement goes by what is still stored. Where a sweep selects its rooms, the rows show the
messages of their contacts. A reply that finds its room flagged was loaded with the flag,
and the room is still open. A copy that carries the flag is saved to a flagged room. -/
def ReadsCurrent (replies : RepliesTable) : RepliesProgress → Outcome → Prop
  | .received pk room message contact _, _ =>
      replies.IsLatest pk message.uuid ∧ replies.table.Flagged pk →
        room .isInactive = true ∧ contact.isSome = true ∧ room .isActive = true
  | .resetting pk message, _ =>
      replies.IsLatest pk message ∧ replies.table.Flagged pk → replies.table.Open pk
  | .running (.saving pk room), _ =>
      room.values .isInactive = true → replies.table.Flagged pk
  | .running (.beforeWarnings _), .done _ => replies.ShowsContacts InactivityConfig.WarnDue
  | .running (.beforeClosures _), .done _ => replies.ShowsContacts InactivityConfig.CloseDue
  | _, _ => True

instance (replies : RepliesTable) : (progress : RepliesProgress) → (outcome : Outcome) →
    Decidable (progress.ReadsCurrent replies outcome)
  | .received .., _ | .resetting .., _ | .running (.saving ..), _ =>
      inferInstanceAs (Decidable (_ → _))
  | .running (.beforeWarnings _), .done _ =>
      inferInstanceAs (Decidable (replies.ShowsContacts InactivityConfig.WarnDue))
  | .running (.beforeClosures _), .done _ =>
      inferInstanceAs (Decidable (replies.ShowsContacts InactivityConfig.CloseDue))
  | .running (.beforeWarnings _), .failed | .running (.beforeClosures _), .failed
  | .storingMessage .., _ | .running (.acquiring _), _ | .running (.warning _), _
  | .running (.sendingWarning ..), _ | .running (.flagging ..), _ | .running (.closing _), _
  | .running (.sendingClosure ..), _ | .running (.refreshing ..), _ | .running (.guarding ..), _
  | .running (.storing ..), _ | .running (.releasing _), _ | .running (.receiving ..), _
  | .running (.received ..), _ | .running (.resetting _), _ | .running (.loading ..), _
  | .running (.assigned ..), _ => inferInstanceAs (Decidable True)

variable {replies after : RepliesTable} {progress : RepliesProgress} {outcome : Outcome}
  {pk : Uuid} {rest : Option RepliesProgress}

theorem keepsReply_of_readsCurrent (keeps : replies.KeepsReplies)
    (silent : ∀ pk ∈ progress.targets, ¬replies.ContactSpokeLast pk)
    (current : progress.ReadsCurrent replies outcome) : progress.KeepsReply replies outcome := by
  cases progress with
  | storingMessage pk room message contact incrementUnread => trivial
  | received pk room message contact incrementUnread =>
      by_cases flagged : replies.IsLatest pk message.uuid ∧ replies.table.Flagged pk
      · exact .inl (current flagged)
      · exact .inr flagged
  | resetting pk message =>
      intro closed
      exact closed.2.2 (current ⟨closed.1, closed.2.1⟩)
  | running progress =>
      cases progress with
      | flagging pass room =>
          cases outcome with
          | done uuid =>
              intro replied
              rcases replied.1 with ⟨last, isLast, fromContact, _⟩
              exact silent room.pk List.mem_cons_self ⟨last, isLast, fromContact⟩
          | failed => trivial
      | storing pass room held =>
          cases outcome with
          | done uuid => exact silent room.pk List.mem_cons_self
          | failed => trivial
      | saving pk room =>
          intro stale
          exact (RepliesTable.keepsReplies_iff.mp keeps).1 pk stale.1 (current stale.2.2)
      | _ => cases outcome <;> trivial

theorem contactSpokeLast_of_advance
    (spoke : (progress.advance replies outcome).1.ContactSpokeLast pk) :
    replies.ContactSpokeLast pk ∨ progress.speaksIn = some pk := by
  cases progress with
  | storingMessage own room message contact incrementUnread =>
      rw [advance, storeMessage] at spoke
      by_cases closed : room .isActive = false
      · rw [if_pos closed] at spoke
        exact .inl spoke
      · rw [if_neg closed] at spoke
        dsimp only at spoke
        split at spoke
        · next given =>
            rcases RepliesTable.contactSpokeLast_of_speak spoke with before | ⟨rfl, _⟩
            · exact .inl before
            · exact .inr (if_pos ⟨given, by simpa using closed⟩)
        · exact .inl spoke
  | received own room message contact incrementUnread =>
      left
      rw [advance, receive] at spoke
      split at spoke
      · exact spoke
      · exact RepliesTable.contactSpokeLast_of_handle spoke
  | resetting own message => exact .inl (RepliesTable.contactSpokeLast_of_handle spoke)
  | running progress =>
      left
      cases progress with
      | receiving own message contact incrementUnread => exact spoke
      | _ =>
          rcases spoke with ⟨last, isLast, fromContact⟩
          exact ⟨last, (RepliesTable.record_latest _ _) ▸ isLast, fromContact⟩

theorem queried_silent {progress : InactivityProgress}
    (current : (running progress).ReadsCurrent replies outcome) :
    ∀ pk ∈ progress.queried replies.table outcome, ¬replies.ContactSpokeLast pk := by
  cases outcome with
  | failed => cases progress <;> exact fun _ member => by cases member
  | done uuid =>
      cases progress with
      | beforeWarnings settings =>
          exact RepliesTable.silent_of_showsContacts
            (fun _ _ eligible => ⟨eligible.1, eligible.2.2.2.2.1⟩) current
      | beforeClosures settings =>
          exact RepliesTable.silent_of_showsContacts
            (fun _ _ eligible => ⟨eligible.1, eligible.2.2.2.2.1⟩) current
      | _ => exact fun _ member => by cases member

theorem runs_of_running {progress : InactivityProgress} {remaining : RepliesProgress}
    (goesOn : (advance replies (running progress) outcome).2 = some remaining) :
    remaining.targets = [] ∨
      ∃ inner, (progress.advance replies.table outcome).2 = some inner ∧
        remaining = running inner := by
  rw [advance.eq_def] at goesOn
  split at goesOn
  · next impossible => cases impossible
  · next impossible => cases impossible
  · next impossible => cases impossible
  · rcases Option.map_eq_some_iff.mp goesOn with ⟨columns, _, rfl⟩
    exact .inl rfl
  · next same =>
      cases same
      rcases Option.map_eq_some_iff.mp goesOn with ⟨inner, isInner, rfl⟩
      exact .inr ⟨inner, isInner, rfl⟩

theorem targets_silent (silent : ∀ pk ∈ progress.targets, ¬replies.ContactSpokeLast pk)
    (current : progress.ReadsCurrent replies outcome)
    (advanced : progress.advance replies outcome = (after, rest)) {remaining : RepliesProgress}
    (isNext : rest = some remaining) :
    ∀ pk ∈ remaining.targets, ¬after.ContactSpokeLast pk := by
  have effect : (progress.advance replies outcome).1 = after := by rw [advanced]
  have goesOn : (progress.advance replies outcome).2 = some remaining := by rw [advanced, isNext]
  intro pk target spoke
  rw [← effect] at spoke
  cases progress with
  | storingMessage own room message contact incrementUnread =>
      rw [advance, storeMessage] at goesOn
      split at goesOn
      · cases goesOn
      · cases goesOn
        cases target
  | received own room message contact incrementUnread =>
      rw [advance, receive] at goesOn
      split at goesOn
      · cases goesOn
        cases target
      · cases goesOn
  | resetting own message => cases goesOn
  | running progress =>
      have before : replies.ContactSpokeLast pk :=
        (contactSpokeLast_of_advance spoke).resolve_right fun impossible => by cases impossible
      rcases runs_of_running goesOn with noTargets | ⟨inner, isInner, rfl⟩
      · rw [noTargets] at target
        cases target
      · rcases InactivityProgress.mem_targets_of_advance isInner target with kept | queried
        · exact silent pk kept before
        · exact queried_silent current pk queried before

end RepliesProgress

section Runs

variable {Pid : Type}

/-- No message of the contact is stored in a room that a sweep is about to warn or to
close. -/
def SpeaksApart (pool : RepliesPool Pid) : RepliesEvent Pid → Prop
  | .advance pid _ =>
      ∀ progress ∈ pool.process pid, ∀ pk ∈ progress.speaksIn,
        ∀ other, ∀ sweep ∈ pool.process other, pk ∉ sweep.targets
  | _ => True

instance [Fintype Pid] (pool : RepliesPool Pid) :
    (event : RepliesEvent Pid) → Decidable (SpeaksApart pool event)
  | .advance pid _ =>
      inferInstanceAs (Decidable (∀ progress ∈ pool.process pid, ∀ pk ∈ progress.speaksIn,
        ∀ other, ∀ sweep ∈ pool.process other, pk ∉ sweep.targets))
  | .start _ _ => inferInstanceAs (Decidable True)
  | .kill _ => inferInstanceAs (Decidable True)
  | .surround _ => inferInstanceAs (Decidable True)

def RepliesApart (pool : RepliesPool Pid) (event : RepliesEvent Pid) : Prop :=
  pool.OwnStep (fun replies progress outcome => progress.ReadsCurrent replies outcome) event ∧
    SpeaksApart pool event

instance [Fintype Pid] (pool : RepliesPool Pid) (event : RepliesEvent Pid) :
    Decidable (RepliesApart pool event) :=
  inferInstanceAs (Decidable (_ ∧ _))

def repliesApartOutline (Pid : Type) :
    InterferenceOutline repliesProgram (RepliesApart : RepliesPool Pid → _) where
  Invariant := RepliesTable.KeepsReplies
  Assertion := fun replies progress => ∀ pk ∈ progress.targets, ¬replies.ContactSpokeLast pk
  enter := by
    intro replies task _ pk target
    cases task <;> cases target
  advance := by
    intro pool pid outcome progress after rest meets running keeps silent advanced
    have current := meets.1.allowed running
    have effect : progress.advance pool.shared outcome = (after, rest) :=
      Option.some.inj advanced
    have stays : (progress.advance pool.shared outcome).1.KeepsReplies :=
      (RepliesProgress.advance_keeps_iff keeps).mpr
        (RepliesProgress.keepsReply_of_readsCurrent keeps silent current)
    rw [effect] at stays
    exact ⟨stays, fun _ => RepliesProgress.targets_silent silent current effect⟩
  advanceOther := by
    intro pool pid outcome progress after rest meets running _ _ advanced other sweep _
      otherRunning silent pk target spoke
    have effect : (progress.advance pool.shared outcome).1 = after := by
      rw [Option.some.inj advanced]
    rw [← effect] at spoke
    rcases RepliesProgress.contactSpokeLast_of_advance spoke with before | speaks
    · exact silent pk target before
    · exact meets.2 progress running pk speaks other sweep otherRunning target
  surround := by
    intro pool event after _ keeps surrounded
    refine ⟨RepliesTable.surround_keeps keeps surrounded, ?_⟩
    intro _ sweep _ silent pk target spoke
    exact silent pk target (RepliesTable.contactSpokeLast_of_surround surrounded spoke)

end Runs

/-- In every run in which the replies and the sweeps keep apart, no room is left inactive
or closed by a sweep after its contact has replied. In any run this goes well exactly as
long as each statement respects the replies before it. -/
theorem replied_rooms_stay_active {Pid : Type} [DecidableEq Pid] (now : Nat)
    (sectorOf : Uuid → Option Uuid) (config : Uuid → InactivityConfig) :
    (∀ final : RepliesPool Pid,
      repliesProgram.machine.Reaches RepliesApart
        (Pool.idle (.initial now sectorOf config)) final → final.shared.KeepsReplies) ∧
    ∀ events : List (RepliesEvent Pid),
      repliesProgram.machine.Throughout (fun pool => pool.shared.KeepsReplies)
          (Pool.idle (.initial now sectorOf config)) events ↔
        repliesProgram.machine.AllSteps
          (fun pool event => pool.OwnStep
            (fun replies progress outcome => progress.KeepsReply replies outcome) event)
          (Pool.idle (.initial now sectorOf config)) events := by
  constructor
  · intro final reaches
    apply ((repliesApartOutline Pid).holds_of_reaches reaches _).shared
    apply (repliesApartOutline Pid).holds_of_isIdle _ (Pool.idle_isIdle _)
    exact RepliesTable.initial_keepsReplies now sectorOf config
  · exact replies_kept_iff now sectorOf config

def replyAfterSweep : List (RepliesEvent Party) :=
  [.surround (.createRoom 3 assignedRoom),
    .surround (.agentMessage 3 agentGreets (some "agent@example.com")),
    .surround (.tick 650000000),
    .start .router (.checkInactivityRooms oneSweep)] ++
  List.replicate 10 (.advance .router (.done 11)) ++
  [.start .request (.contactMessage 3 contactReplies (some 5) 1)] ++
  List.replicate 4 (.advance .request (.done 12))

theorem replied_rooms_stay_active_after_sweep :
    ∃ final : RepliesPool Party,
      repliesProgram.machine.runMeeting RepliesApart
        (Pool.idle (.initial 0 (fun _ => some 1) fun _ => tenMinutesAndOne))
        replyAfterSweep = some final ∧
      final.shared.Replied 3 ∧ final.shared.KeepsReplies := by
  have replies : (repliesProgram.machine.runMeeting RepliesApart
      (Pool.idle (.initial 0 (fun _ => some 1) fun _ => tenMinutesAndOne))
      replyAfterSweep).map (fun pool : RepliesPool Party => decide (pool.shared.Replied 3)) =
        some true := by
    decide
  rcases Option.map_eq_some_iff.mp replies with ⟨final, ran, replied⟩
  exact ⟨final, ran, of_decide_eq_true replied,
    (replied_rooms_stay_active 0 _ _).1 final (.of_runMeeting ran)⟩

end ChatsEngine.Rooms
