import ChatsEngine.Core.Types
import ChatsEngine.Foundation.Machine
import ChatsEngine.Foundation.TtlStore
import Mathlib.Data.Fintype.Basic

/-! # The presence of an agent

The connections of one agent in one project, with the connection check enabled. A connection
that is lost leaves the group of the permission, asks there whether anybody else is connected,
and waits for the cache key that an answer sets. Next to it, a task of each connection sets the
agent offline when the client has not pinged for long. -/

namespace ChatsEngine.Websockets

def connectionCheckWaitTime : Nat := 1000000

def connectionCheckCacheTtl : Nat := 10000000

inductive CheckMessage (Pid : Type)
  | connectionCheck (connectionId : Pid)
  | connectionCheckResponse (connectionId : Pid)
deriving DecidableEq, Repr

/-- Where the handlers of a connection are. The number is how many connections had been accepted
when the handling of the disconnect began. -/
inductive PresenceStage
  /-- `connect` has accepted the connection, and not joined the group of the permission. -/
  | accepted
  | joined
  | leaving (began : Nat)
  | waiting (began : Nat) (sentAt : Instant)
  | settingOffline (began : Nat)
  | ended
deriving DecidableEq, Repr

/-- `ping_timeout_checker` -/
inductive PingTask
  | stopped
  | watching
  | settingOffline (began : Nat)
deriving DecidableEq, Repr

structure AgentConnection (Pid : Type) where
  /-- How many connections had been accepted before this one. -/
  openedAt : Nat
  stage : PresenceStage
  /-- What the channel layer has not delivered yet. -/
  inbox : List (CheckMessage Pid)
  lastPing : Instant
  pingTask : PingTask
deriving DecidableEq, Repr

structure Presence (Pid : Type) where
  now : Instant
  /-- How many connections have been accepted. -/
  opened : Nat
  connections : Pid → Option (AgentConnection Pid)
  cache : TtlStore Pid Unit
  isOnline : Bool

inductive ConnectionAction
  /-- The rest of `connect`. The feature flag says whether pings are monitored. -/
  | loadUser (isMonitored : Bool)
  | ping
  | pingTimeout
  | pingOffline
  /-- The task is cancelled, but a write that it has started may go on. -/
  | disconnect (writeGoesOn : Bool)
  | sendCheck
  | wake
  | setOffline
  | deliver (index : Nat)
  /-- A handler raises, or the process is killed. -/
  | fail
deriving DecidableEq, Repr

inductive PresenceEvent (Pid : Type)
  | connect (pid : Pid)
  | act (pid : Pid) (action : ConnectionAction)
  | tick (duration : Nat)
  | setStatus (isOnline : Bool)
deriving DecidableEq, Repr

namespace AgentConnection

variable {Pid : Type}

def IsOpen (connection : AgentConnection Pid) : Prop :=
  connection.stage = .accepted ∨ connection.stage = .joined

instance : DecidablePred (IsOpen : AgentConnection Pid → Prop) :=
  fun connection => inferInstanceAs (Decidable (connection.stage = .accepted ∨ _))

/-- What the channel layer does for the members of a group. -/
def receive (message : CheckMessage Pid) (connection : AgentConnection Pid) :
    AgentConnection Pid :=
  if connection.stage = .joined then
    { connection with inbox := connection.inbox ++ [message] }
  else connection

end AgentConnection

namespace Presence

variable {Pid : Type}

def initial (now : Instant) (isOnline : Bool) : Presence Pid where
  now := now
  opened := 0
  connections := fun _ => none
  cache := fun _ => none
  isOnline := isOnline

def groupSend (presence : Presence Pid) (message : CheckMessage Pid) : Presence Pid :=
  { presence with
    connections := fun pid => (presence.connections pid).map (AgentConnection.receive message) }

variable [DecidableEq Pid]

def set (presence : Presence Pid) (pid : Pid) (connection : AgentConnection Pid) : Presence Pid :=
  { presence with connections := Function.update presence.connections pid (some connection) }

/-- `notify` for the two messages of the check. -/
def notify (presence : Presence Pid) (pid : Pid) : CheckMessage Pid → Presence Pid
  | .connectionCheck connectionId =>
      if connectionId = pid then presence
      else presence.groupSend (.connectionCheckResponse connectionId)
  | .connectionCheckResponse connectionId =>
      { presence with
        cache := presence.cache.set presence.now connectionId () connectionCheckCacheTtl }

def discard (presence : Presence Pid) (pid : Pid) (index : Nat) : Presence Pid :=
  match presence.connections pid with
  | none => presence
  | some connection =>
      presence.set pid { connection with inbox := connection.inbox.eraseIdx index }

def act (pingTimeoutSeconds : Nat) (presence : Presence Pid) (pid : Pid)
    (connection : AgentConnection Pid) : ConnectionAction → Option (Presence Pid)
  | .loadUser isMonitored =>
      if connection.stage = .accepted then
        some (presence.set pid { connection with
          stage := .joined
          lastPing := presence.now
          pingTask := if isMonitored then .watching else .stopped })
      else none
  | .ping =>
      if connection.stage = .joined then
        some (presence.set pid { connection with lastPing := presence.now })
      else none
  | .pingTimeout =>
      if connection.stage = .joined ∧ connection.pingTask = .watching ∧
          connection.lastPing + pingTimeoutSeconds * 1000000 < presence.now then
        some (presence.set pid { connection with pingTask := .settingOffline presence.opened })
      else none
  | .pingOffline =>
      match connection.pingTask with
      | .settingOffline _ =>
          some { presence.set pid { connection with pingTask := .stopped } with isOnline := false }
      | _ => none
  | .disconnect writeGoesOn =>
      if connection.stage = .joined then
        some (presence.set pid { connection with
          stage := .leaving presence.opened
          pingTask := if writeGoesOn ∧ connection.pingTask ≠ .watching then connection.pingTask
            else .stopped })
      else none
  | .sendCheck =>
      match connection.stage with
      | .leaving began =>
          some ((presence.set pid { connection with stage := .waiting began presence.now }).groupSend
            (.connectionCheck pid))
      | _ => none
  | .wake =>
      match connection.stage with
      | .waiting began sentAt =>
          if sentAt + connectionCheckWaitTime ≤ presence.now then
            match presence.cache.get presence.now pid with
            | some _ =>
                some { presence.set pid { connection with stage := .ended } with
                  cache := presence.cache.delete pid }
            | none => some (presence.set pid { connection with stage := .settingOffline began })
          else none
      | _ => none
  | .setOffline =>
      match connection.stage with
      | .settingOffline _ =>
          some { presence.set pid { connection with stage := .ended } with isOnline := false }
      | _ => none
  | .deliver index =>
      if connection.stage = .joined then
        (connection.inbox[index]?).map fun message =>
          (presence.notify pid message).discard pid index
      else none
  | .fail => some (presence.set pid { connection with stage := .ended, pingTask := .stopped })

def connect (presence : Presence Pid) (pid : Pid) : Presence Pid :=
  { presence.set pid
      { openedAt := presence.opened, stage := .accepted, inbox := [], lastPing := presence.now,
        pingTask := .stopped } with
    opened := presence.opened + 1 }

def step (pingTimeoutSeconds : Nat) (presence : Presence Pid) :
    PresenceEvent Pid → Option (Presence Pid)
  | .connect pid => if presence.connections pid = none then some (presence.connect pid) else none
  | .act pid action =>
      (presence.connections pid).bind fun connection =>
        presence.act pingTimeoutSeconds pid connection action
  | .tick duration => some { presence with now := presence.now + duration }
  | .setStatus isOnline => some { presence with isOnline := isOnline }

end Presence

/-- `pingTimeoutSeconds` is `WS_PING_TIMEOUT_SECONDS`. -/
def agentPresence (Pid : Type) [DecidableEq Pid] (pingTimeoutSeconds : Nat) :
    Machine (Presence Pid) (PresenceEvent Pid) where
  step := Presence.step pingTimeoutSeconds

end ChatsEngine.Websockets
