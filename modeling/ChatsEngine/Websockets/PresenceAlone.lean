import ChatsEngine.Websockets.Presence

/-! # Who sets an agent offline

Whoever stays in the group while another connection asks has the question or the answer in the
inbox until the answer is stored. The task that monitors the pings does not ask. -/

namespace ChatsEngine.Websockets

namespace AgentConnection

variable {Pid : Type}

/-- The check of a connection, or the answer to it, is on its way to this one. -/
def Pending (pid : Pid) (connection : AgentConnection Pid) : Prop :=
  .connectionCheck pid ∈ connection.inbox ∨ .connectionCheckResponse pid ∈ connection.inbox

instance [DecidableEq Pid] (pid : Pid) : DecidablePred (Pending pid) :=
  fun _ => inferInstanceAs (Decidable (_ ∨ _))

def began (connection : AgentConnection Pid) : Option Nat :=
  match connection.stage with
  | .leaving began => some began
  | .waiting began _ => some began
  | .settingOffline began => some began
  | _ => none

/-- When the check was sent that the connection waits for. -/
def sentAt (connection : AgentConnection Pid) : Option Instant :=
  match connection.stage with
  | .waiting _ sentAt => some sentAt
  | _ => none

/-- When the handling began in which the action sets the agent offline. -/
def offlineSince (connection : AgentConnection Pid) : ConnectionAction → Option Nat
  | .setOffline =>
      match connection.stage with
      | .settingOffline began => some began
      | _ => none
  | .pingOffline =>
      match connection.pingTask with
      | .settingOffline began => some began
      | _ => none
  | _ => none

end AgentConnection

namespace Presence

variable {Pid : Type}

def NoneThroughout (presence : Presence Pid) (pid : Pid) (began : Nat) : Prop :=
  ∀ other, other ≠ pid → ∀ connection ∈ presence.connections other, connection.IsOpen →
    began ≤ connection.openedAt

instance [Fintype Pid] [DecidableEq Pid] (presence : Presence Pid) (pid : Pid) (began : Nat) :
    Decidable (presence.NoneThroughout pid began) :=
  inferInstanceAs (Decidable (∀ other, other ≠ pid → ∀ connection ∈ presence.connections other,
    connection.IsOpen → began ≤ connection.openedAt))

def SetsOfflineAlone (presence : Presence Pid) : PresenceEvent Pid → Prop
  | .act pid action => ∀ connection ∈ presence.connections pid,
      ∀ began ∈ connection.offlineSince action, presence.NoneThroughout pid began
  | _ => True

/-- Every reply has arrived by the time a connection stops waiting, which is before an answer
expires. -/
def RepliesArrive (presence : Presence Pid) : PresenceEvent Pid → Prop
  | .act pid .wake => ∀ connection ∈ presence.connections pid, ∀ sentAt ∈ connection.sentAt,
      presence.now < sentAt + connectionCheckCacheTtl ∧
        ∀ other, ∀ member ∈ presence.connections other, member.stage = .joined →
          ¬member.Pending pid
  | _ => True

/-- A check finds the connections in the group that have been open since before, and pings only
time out in the last connection. -/
def AsksEverybody (presence : Presence Pid) : PresenceEvent Pid → Prop
  | .act pid .sendCheck => ∀ connection ∈ presence.connections pid, ∀ began ∈ connection.began,
      ∀ other, other ≠ pid → ∀ member ∈ presence.connections other, member.openedAt < began →
        member.stage ≠ .accepted
  | .act pid .pingTimeout => ∀ other, other ≠ pid → ∀ member ∈ presence.connections other,
      ¬member.IsOpen
  | _ => True

instance [Fintype Pid] [DecidableEq Pid] (presence : Presence Pid) :
    DecidablePred presence.SetsOfflineAlone
  | .act _ _ => inferInstanceAs (Decidable (∀ connection ∈ _, ∀ began ∈ _, _))
  | .connect _ => inferInstanceAs (Decidable True)
  | .tick _ => inferInstanceAs (Decidable True)
  | .setStatus _ => inferInstanceAs (Decidable True)

instance [Fintype Pid] [DecidableEq Pid] (presence : Presence Pid) :
    DecidablePred presence.RepliesArrive := by
  intro event
  unfold RepliesArrive
  split <;> infer_instance

instance [Fintype Pid] [DecidableEq Pid] (presence : Presence Pid) :
    DecidablePred presence.AsksEverybody := by
  intro event
  unfold AsksEverybody
  split <;> infer_instance

/-! ## What a handling knows -/

def AnsweredSince (presence : Presence Pid) (pid : Pid) (time : Instant) : Prop :=
  ∃ entry ∈ presence.cache pid, time + connectionCheckCacheTtl ≤ entry.2

/-- Every other connection that has been open throughout is in the group, and has answered or
is about to. -/
def Asked (presence : Presence Pid) (pid : Pid) (began : Nat) (sentAt : Instant) : Prop :=
  ∀ other, other ≠ pid → ∀ member ∈ presence.connections other, member.IsOpen →
    member.openedAt < began →
      member.stage = .joined ∧ (presence.AnsweredSince pid sentAt ∨ member.Pending pid)

def StageHolds (presence : Presence Pid) (pid : Pid) : PresenceStage → Prop
  | .leaving began => began ≤ presence.opened
  | .waiting began sentAt => began ≤ presence.opened ∧ sentAt ≤ presence.now ∧
      presence.Asked pid began sentAt
  | .settingOffline began => began ≤ presence.opened ∧ presence.NoneThroughout pid began
  | _ => True

def TaskHolds (presence : Presence Pid) (pid : Pid) : PingTask → Prop
  | .settingOffline began => began ≤ presence.opened ∧ presence.NoneThroughout pid began
  | _ => True

def Consistent (presence : Presence Pid) : Prop :=
  ∀ pid, ∀ connection ∈ presence.connections pid,
    presence.StageHolds pid connection.stage ∧ presence.TaskHolds pid connection.pingTask

variable {presence middle next : Presence Pid} {pid actor : Pid}

/-! ## What the others may do meanwhile -/

/-- What a handling of one connection is not disturbed by. -/
structure Evolves (presence next : Presence Pid) (pid : Pid) : Prop where
  now : presence.now ≤ next.now
  opened : presence.opened ≤ next.opened
  answered : ∀ time ≤ presence.now, presence.AnsweredSince pid time →
    next.AnsweredSince pid time
  others : ∀ other, other ≠ pid → ∀ after ∈ next.connections other, after.IsOpen →
    presence.opened ≤ after.openedAt ∨ ∃ before ∈ presence.connections other,
      before.IsOpen ∧ before.openedAt = after.openedAt ∧
        (before.stage = .joined → after.stage = .joined ∧ (before.Pending pid →
          after.Pending pid ∨ ∀ time ≤ presence.now, next.AnsweredSince pid time))

theorem Evolves.trans (first : Evolves presence middle pid) (second : Evolves middle next pid) :
    Evolves presence next pid where
  now := Nat.le_trans first.now second.now
  opened := Nat.le_trans first.opened second.opened
  answered := fun time isPast answered =>
    second.answered time (Nat.le_trans isPast first.now) (first.answered time isPast answered)
  others := by
    intro other different after isAfter isOpen
    rcases second.others other different after isAfter isOpen with
      isNew | ⟨between, isBetween, wasOpen, sameOpened, continues⟩
    · exact .inl (Nat.le_trans first.opened isNew)
    · rcases first.others other different between isBetween wasOpen with
        isNew | ⟨before, isBefore, openBefore, openedBefore, continued⟩
      · exact .inl (sameOpened ▸ isNew)
      · refine .inr ⟨before, isBefore, openBefore, openedBefore.trans sameOpened, ?_⟩
        intro joined
        rcases continued joined with ⟨joinedBetween, pendingBetween⟩
        rcases continues joinedBetween with ⟨joinedAfter, pendingAfter⟩
        refine ⟨joinedAfter, ?_⟩
        intro pending
        rcases pendingBetween pending with pending | answered
        · refine (pendingAfter pending).imp_right ?_
          intro answered time isPast
          exact answered time (Nat.le_trans isPast first.now)
        · refine .inr ?_
          intro time isPast
          exact second.answered time (Nat.le_trans isPast first.now) (answered time isPast)

theorem NoneThroughout.evolves {began : Nat} (none : presence.NoneThroughout pid began)
    (bound : began ≤ presence.opened) (evolves : Evolves presence next pid) :
    next.NoneThroughout pid began := by
  intro other different after isAfter isOpen
  rcases evolves.others other different after isAfter isOpen with
    isNew | ⟨before, isBefore, openBefore, sameOpened, _⟩
  · exact Nat.le_trans bound isNew
  · exact sameOpened ▸ none other different before isBefore openBefore

theorem Asked.evolves {began : Nat} {sentAt : Instant} (asked : presence.Asked pid began sentAt)
    (bound : began ≤ presence.opened) (isPast : sentAt ≤ presence.now)
    (evolves : Evolves presence next pid) : next.Asked pid began sentAt := by
  intro other different after isAfter isOpen isEarlier
  rcases evolves.others other different after isAfter isOpen with
    isNew | ⟨before, isBefore, openBefore, sameOpened, continues⟩
  · omega
  · rcases asked other different before isBefore openBefore (sameOpened ▸ isEarlier) with
      ⟨joined, reached⟩
    rcases continues joined with ⟨joinedAfter, pendingAfter⟩
    refine ⟨joinedAfter, ?_⟩
    rcases reached with answered | pending
    · exact .inl (evolves.answered sentAt isPast answered)
    · rcases pendingAfter pending with pending | answered
      · exact .inr pending
      · exact .inl (answered sentAt isPast)

theorem StageHolds.evolves {stage : PresenceStage} (holds : presence.StageHolds pid stage)
    (evolves : Evolves presence next pid) : next.StageHolds pid stage := by
  cases stage with
  | leaving began => exact Nat.le_trans holds evolves.opened
  | waiting began sentAt =>
      rcases holds with ⟨bound, isPast, asked⟩
      exact ⟨Nat.le_trans bound evolves.opened, Nat.le_trans isPast evolves.now,
        asked.evolves bound isPast evolves⟩
  | settingOffline began =>
      exact ⟨Nat.le_trans holds.1 evolves.opened, holds.2.evolves holds.1 evolves⟩
  | _ => trivial

theorem TaskHolds.evolves {task : PingTask} (holds : presence.TaskHolds pid task)
    (evolves : Evolves presence next pid) : next.TaskHolds pid task := by
  cases task with
  | settingOffline began =>
      exact ⟨Nat.le_trans holds.1 evolves.opened, holds.2.evolves holds.1 evolves⟩
  | _ => trivial

def Resumes (presence next : Presence Pid) (pid : Pid) : Prop :=
  ∀ after ∈ next.connections pid, ∃ before ∈ presence.connections pid,
    after.stage = before.stage ∧ after.pingTask = before.pingTask

theorem Consistent.resumed (consistent : presence.Consistent) (evolves : Evolves presence next pid)
    (resumes : Resumes presence next pid) : ∀ after ∈ next.connections pid,
      next.StageHolds pid after.stage ∧ next.TaskHolds pid after.pingTask := by
  intro after isAfter
  rcases resumes after isAfter with ⟨before, isBefore, sameStage, sameTask⟩
  rcases consistent pid before isBefore with ⟨stageHolds, taskHolds⟩
  rw [sameStage, sameTask]
  exact ⟨stageHolds.evolves evolves, taskHolds.evolves evolves⟩

theorem consistent_of_resumes (consistent : presence.Consistent)
    (evolves : ∀ pid, Evolves presence next pid) (resumes : ∀ pid, Resumes presence next pid) :
    next.Consistent :=
  fun pid => consistent.resumed (evolves pid) (resumes pid)

theorem noneThroughout_of_unanswered {began : Nat} {sentAt : Instant}
    (asked : presence.Asked actor began sentAt)
    (unanswered : presence.cache.get presence.now actor = none)
    (inTime : presence.now < sentAt + connectionCheckCacheTtl)
    (arrived : ∀ other, ∀ member ∈ presence.connections other, member.stage = .joined →
      ¬member.Pending actor) : presence.NoneThroughout actor began := by
  intro other different member isMember isOpen
  by_contra isEarlier
  rw [Nat.not_le] at isEarlier
  rcases asked other different member isMember isOpen isEarlier with ⟨joined, answered | pending⟩
  · rcases answered with ⟨⟨_, expiry⟩, isEntry, isLater⟩
    have found : presence.cache.get presence.now actor = some () :=
      TtlStore.get_eq_some_iff.mpr ⟨expiry, isEntry, Nat.lt_of_lt_of_le inTime isLater⟩
    cases unanswered.symm.trans found
  · exact arrived other member isMember joined pending

theorem setsOfflineAlone_of_consistent (consistent : presence.Consistent)
    (event : PresenceEvent Pid) : presence.SetsOfflineAlone event := by
  cases event with
  | act pid action =>
      intro connection found began isOffline
      rcases consistent pid connection found with ⟨stageHolds, taskHolds⟩
      cases action with
      | setOffline =>
          simp only [AgentConnection.offlineSince] at isOffline
          split at isOffline
          · next setting =>
              cases isOffline
              rw [setting] at stageHolds
              exact stageHolds.2
          · cases isOffline
      | pingOffline =>
          simp only [AgentConnection.offlineSince] at isOffline
          split at isOffline
          · next setting =>
              cases isOffline
              rw [setting] at taskHolds
              exact taskHolds.2
          · cases isOffline
      | _ => cases isOffline
  | _ => trivial

theorem consistent_initial (now : Instant) (isOnline : Bool) :
    (initial now isOnline : Presence Pid).Consistent := nofun

/-! ## Changes -/

theorem evolves_refl_of_connections (now : presence.now ≤ next.now)
    (opened : presence.opened ≤ next.opened) (cache : next.cache pid = presence.cache pid)
    (connections : next.connections = presence.connections) : Evolves presence next pid where
  now := now
  opened := opened
  answered := by
    intro time _ answered
    rw [AnsweredSince, cache]
    exact answered
  others := by
    intro other _ after isAfter isOpen
    rw [connections] at isAfter
    exact .inr ⟨after, isAfter, isOpen, rfl, fun joined => ⟨joined, .inl⟩⟩

@[simp] theorem groupSend_connections (message : CheckMessage Pid) :
    (presence.groupSend message).connections pid =
      (presence.connections pid).map (AgentConnection.receive message) := rfl

theorem evolves_groupSend (message : CheckMessage Pid) :
    Evolves presence (presence.groupSend message) pid where
  now := Nat.le_refl _
  opened := Nat.le_refl _
  answered := fun _ _ => id
  others := by
    intro other _ after isAfter isOpen
    rcases Option.map_eq_some_iff.mp isAfter with ⟨before, isBefore, rfl⟩
    rw [AgentConnection.receive] at isOpen ⊢
    split at isOpen
    · next joined =>
        rw [if_pos joined]
        exact .inr ⟨before, isBefore, isOpen, rfl, fun _ => ⟨joined, fun pending =>
          .inl (pending.imp (List.mem_append_left _) (List.mem_append_left _))⟩⟩
    · next notJoined =>
        rw [if_neg notJoined]
        exact .inr ⟨before, isBefore, isOpen, rfl, fun joined => absurd joined notJoined⟩

theorem resumes_groupSend (message : CheckMessage Pid) :
    Resumes presence (presence.groupSend message) pid := by
  intro after isAfter
  rcases Option.map_eq_some_iff.mp isAfter with ⟨before, isBefore, rfl⟩
  refine ⟨before, isBefore, ?_⟩
  rw [AgentConnection.receive]
  split
  · exact ⟨rfl, rfl⟩
  · exact ⟨rfl, rfl⟩

/-- The check reaches every other connection that was open when the handling began. -/
theorem asked_groupSend {began : Nat}
    (everybody : ∀ other, other ≠ actor → ∀ member ∈ presence.connections other,
      member.openedAt < began → member.stage ≠ .accepted) :
    (presence.groupSend (.connectionCheck actor)).Asked actor began presence.now := by
  intro other different later isLater isOpen isEarlier
  rcases Option.map_eq_some_iff.mp isLater with ⟨member, isMember, rfl⟩
  by_cases joined : member.stage = .joined
  · rw [AgentConnection.receive, if_pos joined]
    exact ⟨joined, .inr (.inl (List.mem_append_right _ List.mem_cons_self))⟩
  · rw [AgentConnection.receive, if_neg joined] at isOpen isEarlier
    rcases isOpen with accepted | isJoined
    · exact absurd accepted (everybody other different member isMember isEarlier)
    · exact absurd isJoined joined

variable {before after : AgentConnection Pid}

/-- What the other connections may rely on when one acts. -/
structure Continues (before after : AgentConnection Pid) : Prop where
  isOpen : after.IsOpen → before.IsOpen
  openedAt : before.openedAt = after.openedAt
  joined : after.IsOpen → before.stage = .joined → after.stage = .joined
  pending : before.inbox ⊆ after.inbox

variable [DecidableEq Pid]

@[simp] theorem set_connections_self :
    (presence.set actor after).connections actor = some after := Function.update_self ..

theorem set_connections_other (different : pid ≠ actor) :
    (presence.set actor after).connections pid = presence.connections pid :=
  Function.update_of_ne different ..

theorem evolves_set (found : presence.connections actor = some before)
    (continues : Continues before after) : Evolves presence (presence.set actor after) pid where
  now := Nat.le_refl _
  opened := Nat.le_refl _
  answered := fun _ _ => id
  others := by
    intro other _ later isLater isOpen
    by_cases acts : other = actor
    · subst acts
      rw [set_connections_self] at isLater
      cases isLater
      exact .inr ⟨before, found, continues.isOpen isOpen, continues.openedAt, fun joined =>
        ⟨continues.joined isOpen joined, fun pending => .inl (pending.imp
          (fun isCheck => continues.pending isCheck)
          (fun isResponse => continues.pending isResponse))⟩⟩
    · rw [set_connections_other acts] at isLater
      exact .inr ⟨later, isLater, isOpen, rfl, fun joined => ⟨joined, .inl⟩⟩

theorem resumes_set (different : pid ≠ actor) : Resumes presence (presence.set actor after) pid := by
  intro later isLater
  rw [set_connections_other different] at isLater
  exact ⟨later, isLater, rfl, rfl⟩

theorem evolves_respond (connectionId : Pid) :
    Evolves presence { presence with
      cache := presence.cache.set presence.now connectionId () connectionCheckCacheTtl } pid where
  now := Nat.le_refl _
  opened := Nat.le_refl _
  answered := by
    intro time isPast answered
    by_cases isAnswered : pid = connectionId
    · subst isAnswered
      exact ⟨_, Function.update_self .., Nat.add_le_add_right isPast _⟩
    · rcases answered with ⟨entry, isEntry, isLater⟩
      exact ⟨entry, (Function.update_of_ne isAnswered ..).trans isEntry, isLater⟩
  others := fun _ _ after isAfter isOpen =>
    .inr ⟨after, isAfter, isOpen, rfl, fun joined => ⟨joined, .inl⟩⟩

theorem answeredSince_respond {time : Instant} (isPast : time ≤ presence.now) :
    AnsweredSince { presence with
      cache := presence.cache.set presence.now pid () connectionCheckCacheTtl } pid time :=
  ⟨_, Function.update_self .., Nat.add_le_add_right isPast _⟩

theorem evolves_notify (message : CheckMessage Pid) :
    Evolves presence (presence.notify actor message) pid := by
  cases message with
  | connectionCheck connectionId =>
      rw [notify]
      split
      · exact evolves_refl_of_connections (Nat.le_refl _) (Nat.le_refl _) rfl rfl
      · exact evolves_groupSend _
  | connectionCheckResponse connectionId => exact evolves_respond connectionId

theorem resumes_notify (message : CheckMessage Pid) :
    Resumes presence (presence.notify actor message) pid := by
  cases message with
  | connectionCheck connectionId =>
      rw [notify]
      split
      · exact fun after isAfter => ⟨after, isAfter, rfl, rfl⟩
      · exact resumes_groupSend _
  | connectionCheckResponse connectionId => exact fun after isAfter => ⟨after, isAfter, rfl, rfl⟩

/-- A message may be discarded when it was a check that is being answered, or an answer that has
been stored. -/
def HandledBy (presence : Presence Pid) (pid : Pid) (connection : AgentConnection Pid) :
    CheckMessage Pid → Prop
  | .connectionCheck connectionId =>
      pid = connectionId → .connectionCheckResponse pid ∈ connection.inbox
  | .connectionCheckResponse connectionId =>
      pid = connectionId → ∀ time ≤ presence.now, presence.AnsweredSince pid time

theorem evolves_discard {index : Nat} {message : CheckMessage Pid}
    (found : presence.connections actor = some before)
    (isMessage : before.inbox[index]? = some message)
    (handled : actor ≠ pid → HandledBy presence pid before message) :
    Evolves presence (presence.discard actor index) pid := by
  have discards : presence.discard actor index =
      presence.set actor { before with inbox := before.inbox.eraseIdx index } := by
    rw [discard, found]
  rcases List.getElem?_eq_some_iff.mp isMessage with ⟨bound, rfl⟩
  have order := List.getElem_cons_eraseIdx_perm bound
  have remains : ∀ other ∈ before.inbox, other = before.inbox[index] ∨
      other ∈ before.inbox.eraseIdx index := fun other isOther =>
    List.mem_cons.mp (order.mem_iff.mpr isOther)
  rw [discards]
  refine ⟨Nat.le_refl _, Nat.le_refl _, fun _ _ => id, ?_⟩
  intro other different later isLater isOpen
  by_cases acts : other = actor
  · subst acts
    rw [set_connections_self] at isLater
    cases isLater
    refine .inr ⟨before, found, isOpen, rfl, ?_⟩
    intro joined
    refine ⟨joined, ?_⟩
    have handled := handled different
    intro pending
    rcases pending with isCheck | isResponse
    · rcases remains _ isCheck with same | stays
      · rw [← same] at handled
        rcases remains _ (handled rfl) with isAlso | stays
        · cases same.trans isAlso.symm
        · exact .inl (.inr stays)
      · exact .inl (.inl stays)
    · rcases remains _ isResponse with same | stays
      · rw [← same] at handled
        exact .inr (handled rfl)
      · exact .inl (.inr stays)
  · rw [set_connections_other acts] at isLater
    exact .inr ⟨later, isLater, isOpen, rfl, fun joined => ⟨joined, .inl⟩⟩

theorem resumes_discard {index : Nat} (different : pid ≠ actor) :
    Resumes presence (presence.discard actor index) pid := by
  rw [discard]
  split
  · exact fun after isAfter => ⟨after, isAfter, rfl, rfl⟩
  · exact resumes_set different

theorem handledBy_notify {index : Nat} {message : CheckMessage Pid}
    (found : presence.connections actor = some before) (joined : before.stage = .joined)
    (isMessage : before.inbox[index]? = some message) :
    ∃ handling, (presence.notify actor message).connections actor = some handling ∧
      handling.stage = before.stage ∧ handling.pingTask = before.pingTask ∧
        handling.inbox[index]? = some message ∧
          ∀ pid, actor ≠ pid → HandledBy (presence.notify actor message) pid handling message := by
  cases message with
  | connectionCheck connectionId =>
      rw [notify]
      split
      · next isOwn =>
          refine ⟨before, found, rfl, rfl, isMessage, ?_⟩
          intro pid different asks
          exact absurd (asks.trans isOwn).symm different
      · refine ⟨{ before with
          inbox := before.inbox ++ [.connectionCheckResponse connectionId] }, ?_, rfl, rfl, ?_, ?_⟩
        · rw [groupSend_connections, found, Option.map_some, AgentConnection.receive,
            if_pos joined]
        · rcases List.getElem?_eq_some_iff.mp isMessage with ⟨bound, _⟩
          exact (List.getElem?_append_left bound).trans isMessage
        · intro pid _ asks
          rw [asks]
          exact List.mem_append_right _ List.mem_cons_self
  | connectionCheckResponse connectionId =>
      refine ⟨before, found, rfl, rfl, isMessage, ?_⟩
      intro pid _ asks time isPast
      rw [← asks]
      exact answeredSince_respond isPast

/-! ## One step -/

theorem noneThroughout_set {began : Nat} (none : presence.NoneThroughout actor began) :
    (presence.set actor after).NoneThroughout actor began := by
  intro other different connection isConnection
  rw [set_connections_other different] at isConnection
  exact none other different connection isConnection

theorem taskHolds_set {task : PingTask} (holds : presence.TaskHolds actor task) :
    (presence.set actor after).TaskHolds actor task := by
  cases task with
  | settingOffline began => exact ⟨holds.1, noneThroughout_set holds.2⟩
  | _ => trivial

theorem consistent_set (consistent : presence.Consistent)
    (found : presence.connections actor = some before) (continues : Continues before after)
    (stageHolds : (presence.set actor after).StageHolds actor after.stage)
    (taskHolds : (presence.set actor after).TaskHolds actor after.pingTask) :
    (presence.set actor after).Consistent := by
  intro pid connection isConnection
  by_cases acts : pid = actor
  · subst acts
    rw [set_connections_self] at isConnection
    cases isConnection
    exact ⟨stageHolds, taskHolds⟩
  · exact consistent.resumed (evolves_set found continues) (resumes_set acts) connection isConnection

theorem consistent_leave {stage : PresenceStage} {pingTask : PingTask}
    (consistent : presence.Consistent) (found : presence.connections actor = some before)
    (left : stage ≠ .accepted ∧ stage ≠ .joined)
    (stageHolds : (presence.set actor
      { before with stage := stage, pingTask := pingTask }).StageHolds actor stage)
    (taskHolds : presence.TaskHolds actor pingTask) :
    (presence.set actor { before with stage := stage, pingTask := pingTask }).Consistent := by
  have closed : ¬AgentConnection.IsOpen { before with stage := stage, pingTask := pingTask } :=
    not_or.mpr left
  refine consistent_set consistent found ?_ stageHolds (taskHolds_set taskHolds)
  exact ⟨fun isOpen => absurd isOpen closed, rfl, fun isOpen => absurd isOpen closed,
    List.Subset.refl _⟩

theorem consistent_discard {index : Nat} {message : CheckMessage Pid}
    (consistent : presence.Consistent) (found : presence.connections actor = some before)
    (joined : before.stage = .joined) (isMessage : before.inbox[index]? = some message) :
    ((presence.notify actor message).discard actor index).Consistent := by
  rcases handledBy_notify found joined isMessage with
    ⟨handling, isHandling, sameStage, sameTask, stillMessage, handled⟩
  have notified : (presence.notify actor message).Consistent :=
    consistent_of_resumes consistent (fun _ => evolves_notify message)
      fun _ => resumes_notify message
  refine consistent_of_resumes notified
    (fun pid => evolves_discard isHandling stillMessage (handled pid)) ?_
  intro pid
  by_cases acts : pid = actor
  · subst acts
    rw [Resumes, discard, isHandling]
    intro after isAfter
    rw [set_connections_self] at isAfter
    cases isAfter
    exact ⟨handling, rfl, rfl, rfl⟩
  · exact resumes_discard acts

theorem asked_set {began : Nat} {sentAt : Instant} (asked : presence.Asked actor began sentAt) :
    (presence.set actor after).Asked actor began sentAt := by
  intro other different member isMember
  rw [set_connections_other different] at isMember
  exact asked other different member isMember

theorem set_groupSend (message : CheckMessage Pid) (left : after.stage ≠ .joined) :
    (presence.set actor after).groupSend message =
      (presence.groupSend message).set actor after := by
  rw [groupSend, set, groupSend, set]
  congr
  funext pid
  by_cases acts : pid = actor
  · subst acts
    simp [AgentConnection.receive, left]
  · simp [acts]

theorem consistent_delete (consistent : presence.Consistent)
    (found : presence.connections actor = some before) (ended : before.stage = .ended) :
    Consistent { presence with cache := presence.cache.delete actor } := by
  intro pid connection isConnection
  by_cases acts : pid = actor
  · subst acts
    cases found.symm.trans isConnection
    refine ⟨?_, (consistent pid before found).2⟩
    rw [ended]
    trivial
  · have evolves : Evolves presence { presence with cache := presence.cache.delete actor } pid :=
      evolves_refl_of_connections (Nat.le_refl _) (Nat.le_refl _)
        (Function.update_of_ne acts ..) rfl
    exact consistent.resumed evolves (fun after isAfter => ⟨after, isAfter, rfl, rfl⟩) connection
      isConnection

theorem evolves_connect : Evolves presence (presence.connect actor) pid where
  now := Nat.le_refl _
  opened := Nat.le_succ _
  answered := fun _ _ => id
  others := by
    intro other _ later isLater isOpen
    by_cases connects : other = actor
    · subst connects
      rw [connect, set_connections_self] at isLater
      cases isLater
      exact .inl (Nat.le_refl _)
    · rw [connect, set_connections_other connects] at isLater
      exact .inr ⟨later, isLater, isOpen, rfl, fun joined => ⟨joined, .inl⟩⟩

theorem consistent_connect (consistent : presence.Consistent) :
    (presence.connect actor).Consistent := by
  intro pid connection isConnection
  by_cases connects : pid = actor
  · subst connects
    rw [connect, set_connections_self] at isConnection
    cases isConnection
    exact ⟨trivial, trivial⟩
  · have resumes : Resumes presence (presence.connect actor) pid := resumes_set connects
    exact consistent.resumed evolves_connect resumes connection isConnection

theorem consistent_sendCheck {began : Nat} (consistent : presence.Consistent)
    (found : presence.connections actor = some before) (leaving : before.stage = .leaving began)
    (everybody : ∀ other, other ≠ actor → ∀ member ∈ presence.connections other,
      member.openedAt < began → member.stage ≠ .accepted) :
    ((presence.set actor { before with stage := .waiting began presence.now }).groupSend
      (.connectionCheck actor)).Consistent := by
  rcases consistent actor before found with ⟨bound, taskHolds⟩
  rw [leaving] at bound
  rw [set_groupSend _ (by simp)]
  have sent : (presence.groupSend (.connectionCheck actor)).Consistent :=
    consistent_of_resumes consistent (fun _ => evolves_groupSend _) fun _ => resumes_groupSend _
  have stillFound : (presence.groupSend (.connectionCheck actor)).connections actor =
      some before := by
    rw [groupSend_connections, found, Option.map_some, AgentConnection.receive, if_neg]
    simp [leaving]
  apply consistent_leave sent stillFound (by simp)
  · exact ⟨bound, Nat.le_refl _, asked_set (asked_groupSend everybody)⟩
  · exact taskHolds.evolves (evolves_groupSend _)

theorem consistent_wake_answered (consistent : presence.Consistent)
    (found : presence.connections actor = some before) :
    Consistent { presence.set actor { before with stage := .ended } with
      cache := presence.cache.delete actor } := by
  have ended : (presence.set actor { before with stage := .ended }).Consistent :=
    consistent_leave consistent found (by simp) trivial (consistent actor before found).2
  exact consistent_delete ended set_connections_self rfl

theorem consistent_wake_unanswered {began : Nat} {sentAt : Instant}
    (consistent : presence.Consistent) (found : presence.connections actor = some before)
    (waiting : before.stage = .waiting began sentAt)
    (arrive : presence.RepliesArrive (.act actor .wake))
    (unanswered : presence.cache.get presence.now actor = none) :
    (presence.set actor { before with stage := .settingOffline began }).Consistent := by
  rcases consistent actor before found with ⟨stageHolds, taskHolds⟩
  rw [waiting] at stageHolds
  rcases stageHolds with ⟨bound, isPast, asked⟩
  rcases arrive before found sentAt (by simp [AgentConnection.sentAt, waiting]) with
    ⟨inTime, arrived⟩
  have none := noneThroughout_of_unanswered asked unanswered inTime arrived
  exact consistent_leave consistent found (by simp) ⟨bound, noneThroughout_set none⟩ taskHolds

theorem act_consistent {pingTimeoutSeconds : Nat} {action : ConnectionAction}
    (consistent : presence.Consistent) (found : presence.connections actor = some before)
    (arrive : presence.RepliesArrive (.act actor action))
    (asks : presence.AsksEverybody (.act actor action))
    (acted : presence.act pingTimeoutSeconds actor before action = some next) :
    next.Consistent := by
  rcases consistent actor before found with ⟨stageHolds, taskHolds⟩
  cases action with
  | loadUser isMonitored =>
      simp only [act] at acted
      split at acted
      · next accepted =>
          cases acted
          refine consistent_set consistent found ?_ trivial ?_
          · exact ⟨fun _ => .inl accepted, rfl, fun _ _ => rfl, List.Subset.refl _⟩
          · dsimp only
            split <;> trivial
      · cases acted
  | ping =>
      simp only [act] at acted
      split at acted
      · next joined =>
          cases acted
          refine consistent_set consistent found ?_ ?_ (taskHolds_set taskHolds)
          · exact ⟨id, rfl, fun _ => id, List.Subset.refl _⟩
          · rw [joined]
            trivial
      · cases acted
  | pingTimeout =>
      simp only [act] at acted
      split at acted
      · next times =>
          cases acted
          have none : presence.NoneThroughout actor presence.opened := by
            intro other different member isMember isOpen
            exact absurd isOpen (asks other different member isMember)
          refine consistent_set consistent found ?_ ?_ ⟨Nat.le_refl _, noneThroughout_set none⟩
          · exact ⟨id, rfl, fun _ => id, List.Subset.refl _⟩
          · rw [times.1]
            trivial
      · cases acted
  | pingOffline =>
      simp only [act] at acted
      split at acted
      · cases acted
        have continues : Continues before { before with pingTask := .stopped } :=
          ⟨id, rfl, fun _ => id, List.Subset.refl _⟩
        exact consistent_set consistent found continues
          (stageHolds.evolves (evolves_set found continues)) trivial
      · cases acted
  | disconnect writeGoesOn =>
      simp only [act] at acted
      split at acted
      · cases acted
        apply consistent_leave consistent found (by simp) (Nat.le_refl _)
        split
        · exact taskHolds
        · trivial
      · cases acted
  | sendCheck =>
      simp only [act] at acted
      split at acted
      · next began leaving =>
          cases acted
          have isBegan : began ∈ before.began := by simp [AgentConnection.began, leaving]
          exact consistent_sendCheck consistent found leaving (asks before found began isBegan)
      · cases acted
  | wake =>
      simp only [act] at acted
      split at acted
      · next began sentAt waiting =>
          split at acted
          · split at acted
            · cases acted
              exact consistent_wake_answered consistent found
            · next unanswered =>
                cases acted
                exact consistent_wake_unanswered consistent found waiting arrive unanswered
          · cases acted
      · cases acted
  | setOffline =>
      simp only [act] at acted
      split at acted
      · cases acted
        exact consistent_leave consistent found (by simp) trivial taskHolds
      · cases acted
  | deliver index =>
      simp only [act] at acted
      split at acted
      · next joined =>
          rcases Option.map_eq_some_iff.mp acted with ⟨message, isMessage, rfl⟩
          exact consistent_discard consistent found joined isMessage
      · cases acted
  | fail =>
      cases acted
      exact consistent_leave consistent found (by simp) trivial trivial

theorem step_consistent {pingTimeoutSeconds : Nat} {event : PresenceEvent Pid}
    (consistent : presence.Consistent) (arrive : presence.RepliesArrive event)
    (asks : presence.AsksEverybody event)
    (stepped : (agentPresence Pid pingTimeoutSeconds).step presence event = some next) :
    next.Consistent := by
  cases event with
  | connect pid =>
      simp only [agentPresence, step] at stepped
      split at stepped
      · cases stepped
        exact consistent_connect consistent
      · cases stepped
  | act pid action =>
      rcases Option.bind_eq_some_iff.mp stepped with ⟨connection, found, acted⟩
      exact act_consistent consistent found arrive asks acted
  | tick duration =>
      cases stepped
      refine consistent_of_resumes consistent ?_ fun _ after isAfter => ⟨after, isAfter, rfl, rfl⟩
      intro pid
      exact evolves_refl_of_connections (Nat.le_add_right _ _) (Nat.le_refl _) rfl rfl
  | setStatus isOnline =>
      cases stepped
      exact consistent

/-- As long as the replies arrive in time, every check finds everybody in the group, and pings
only time out in the last connection, an agent is set offline only by the last connection. -/
theorem sets_offline_alone (pingTimeoutSeconds : Nat) (now : Instant) (isOnline : Bool)
    (events : List (PresenceEvent Pid))
    (meets : (agentPresence Pid pingTimeoutSeconds).AllSteps
      (fun presence event => presence.RepliesArrive event ∧ presence.AsksEverybody event)
      (initial now isOnline) events) :
    (agentPresence Pid pingTimeoutSeconds).AllSteps SetsOfflineAlone (initial now isOnline)
      events :=
  Machine.AllSteps.of_invariant
    (fun _ _ _ consistent both stepped => step_consistent consistent both.1 both.2 stepped)
    (fun _ event consistent _ => setsOfflineAlone_of_consistent consistent event)
    (consistent_initial now isOnline) meets

/-! ## Runs of two connections -/

def leavesInTurn : List (PresenceEvent Bool) :=
  [.connect false, .act false (.loadUser true), .connect true, .act true (.loadUser true),
    .act false (.disconnect false), .act false .sendCheck, .act true (.deliver 0),
    .act true (.deliver 0), .tick 1000000, .act false .wake, .act true (.disconnect false),
    .act true .sendCheck, .tick 1000000, .act true .wake, .act true .setOffline]

theorem sets_offline_alone_in_turn :
    (agentPresence Bool 60).AllSteps SetsOfflineAlone (initial 0 true) leavesInTurn :=
  sets_offline_alone 60 0 true leavesInTurn (by decide)

def timesOut : List (PresenceEvent Bool) :=
  [.connect false, .act false (.loadUser true), .connect true, .act true (.loadUser true),
    .tick 61000000, .act true .ping, .act false .pingTimeout, .act false .pingOffline]

theorem not_sets_offline_alone :
    ¬∀ (pingTimeoutSeconds : Nat) (now : Instant) (isOnline : Bool)
      (events : List (PresenceEvent Bool)),
      (agentPresence Bool pingTimeoutSeconds).AllSteps RepliesArrive (initial now isOnline) events →
        (agentPresence Bool pingTimeoutSeconds).AllSteps SetsOfflineAlone (initial now isOnline)
          events := by
  intro alone
  have arrive : (agentPresence Bool 60).AllSteps RepliesArrive (initial 0 true) timesOut := by
    decide
  have beside : ¬(agentPresence Bool 60).AllSteps SetsOfflineAlone (initial 0 true) timesOut := by
    decide
  exact beside (alone _ _ _ _ arrive)

end Presence

end ChatsEngine.Websockets
