import ChatsEngine.Core.Types
import ChatsEngine.Foundation.Cascade
import ChatsEngine.Foundation.JsonReader
import ChatsEngine.Foundation.JsonWriter

/-! # Consumers of events and their dead letters

A consumer acknowledges the event that it has consumed. Where it raises, the wrapper
`pyamqp_call_dlx_when_error` rejects the event and publishes a report of the error, with a header
that counts the errors. A report may reach a queue of events again, so errors can make further
errors. The consumer of dead letters is there to put a dead event back, which it never does. -/

namespace ChatsEngine.EventDriven

open JsonText

/-- The header `x-error-count`. -/
inductive ErrorCount
  | absent
  | number (count : Int)
  /-- Not a number. -/
  | malformed
  deriving DecidableEq, Repr

/-- An entry of the header `x-death`. -/
structure Death where
  reason : Option String
  count : Option Int
  deriving DecidableEq, Repr

/-- The headers that are read, and the others, which are copied. -/
structure Headers where
  errorCount : ErrorCount := .absent
  callbackExchange : Option String := none
  firstDeathQueue : Option String := none
  deaths : Option (List Death) := none
  others : Json := ""
  deriving DecidableEq, Repr

structure Message where
  body : Option Text
  headers : Option Headers
  deriving DecidableEq, Repr

structure RaisedError where
  errorType : Text
  message : Text
  deriving DecidableEq, Repr

/-! ## The wrapper of the consumers -/

/-- How a consumer ends. Where it raises, the rejection and the publication of the report may
raise as well. -/
inductive Outcome
  | acknowledges
  | raises (error : RaisedError) (rejects publishes : Bool)
  deriving DecidableEq, Repr

/-- What happens to the event, and what is published with it. -/
inductive Handled
  | acknowledged
  | rejected
  /-- Rejected, and reported to an exchange. -/
  | reported (exchange : String) (report : Message)
  /-- Acknowledged, and published to a queue again. -/
  | putBack (queue : Option String) (message : Message)
  deriving DecidableEq, Repr

section Wrapper

variable {Real : Type} (floats : FloatFormat Real)

def callbackBody (original : Text) (error : RaisedError) : Text :=
  dumps floats none false (.object [(text "original_message", .string original),
    (text "error_type", .string error.errorType), (text "error_message", .string error.message)])

/-- `getattr(message, "headers", {}) or {}` -/
def Message.givenHeaders (message : Message) : Headers := message.headers.getD {}

/-- `headers.get("callback_exchange") or default_exchange` -/
def exchangeOf (defaultExchange : String) (headers : Headers) : String :=
  match headers.callbackExchange with
  | none => defaultExchange
  | some exchange => if exchange = "" then defaultExchange else exchange

/-- `headers.get("x-error-count", 0)` -/
def ErrorCount.value : ErrorCount → Option Int
  | .absent => some 0
  | .number count => some count
  | .malformed => none

/-- `consumer_wrapper`. Without a result the event has been neither acknowledged nor rejected, and
is delivered again. -/
def consumerWrapper (defaultExchange : String) (message : Message) : Outcome → Option Handled
  | .acknowledges => some .acknowledged
  | .raises error rejects publishes =>
      if rejects then
        match message.givenHeaders.errorCount.value with
        -- The comparison with 3 raises.
        | none => some .rejected
        | some count =>
            if 3 ≤ count then
              some .rejected
            else
              match message.body with
              | none => some .rejected
              | some original =>
                  if publishes then
                    some (.reported (exchangeOf defaultExchange message.givenHeaders)
                      { body := callbackBody floats original error
                        headers := some { message.givenHeaders with
                          errorCount := .number (count + 1) } })
                  else
                    some .rejected
      else
        none

theorem consumerWrapper_reported {defaultExchange exchange : String} {message report : Message}
    {outcome : Outcome}
    (reported : consumerWrapper floats defaultExchange message outcome =
      some (.reported exchange report)) :
    ∃ count < 3, message.givenHeaders.errorCount.value = some count ∧
      report.givenHeaders.errorCount.value = some (count + 1) := by
  cases outcome with
  | acknowledges => cases reported
  | raises error rejects publishes =>
      rw [consumerWrapper] at reported
      split at reported
      · split at reported
        · cases reported
        · next count counted =>
          split at reported
          · cases reported
          · next few =>
            split at reported
            · cases reported
            · split at reported
              · cases reported
                exact ⟨count, by omega, counted, rfl⟩
              · cases reported
      · cases reported

theorem consumerWrapper_putBack {defaultExchange : String} {message again : Message}
    {outcome : Outcome} {queue : Option String} :
    consumerWrapper floats defaultExchange message outcome ≠ some (.putBack queue again) := by
  intro putBack
  cases outcome with
  | acknowledges => cases putBack
  | raises error rejects publishes =>
      rw [consumerWrapper] at putBack
      split at putBack
      · split at putBack
        · cases putBack
        · split at putBack
          · cases putBack
          · split at putBack
            · cases putBack
            · split at putBack <;> cases putBack
      · cases putBack

end Wrapper

/-! ## The consumer of dead letters -/

section DeadLetters

variable {Real : Type} (floats : FloatFormat Real)

/-- `JSONParser.parse`, which raises for a stream that is empty, no UTF-8 or no JSON. -/
def parse : Option Text → Option (Value Real)
  | none => none
  | some [] => none
  | some stream => loads floats stream

def rejectReasons : List String := ["rejected", "delivery_limit"]

/-- `DeadLetterHandler.execute`. Whether it returns; the limit of requeues is none where the
settings do not have it. -/
def DeadLetterHandler.execute (requeueLimit : Option Int) (message : Message)
    (content : Value Real) : Bool :=
  match content with
  | .object fields =>
      if (Fields.get fields (text "error_type")).any (Value.isTruthy floats) then
        false
      else
        match message.headers with
        | none => false
        | some headers =>
            match headers.deaths with
            | none | some [] => false
            | some (death :: _) =>
                if death.reason.any (· ∈ rejectReasons) then
                  false
                else
                  match death.count, requeueLimit with
                  | some count, some limit => !decide (limit ≤ count)
                  | _, _ => false
  | _ => false

/-- The parameters of `basic_publish`. -/
def basicPublishParameters : List String :=
  ["channel", "content", "exchange", "content_type", "properties", "headers", "content_encoding"]

def putBackKeywords : List String :=
  ["channel", "content", "exchange", "routing_key", "headers"]

/-- `DeadLetterConsumer.consume` -/
def consumeDeadLetter (requeueLimit : Option Int) (message : Message) (rejects : Bool) :
    Option Handled :=
  let rejected := if rejects then some Handled.rejected else none
  match parse floats message.body with
  | none => rejected
  | some notification =>
      if DeadLetterHandler.execute floats requeueLimit message notification then
        -- A keyword without a parameter raises.
        if putBackKeywords.all (· ∈ basicPublishParameters) then
          some (.putBack message.givenHeaders.firstDeathQueue
            { body := dumps floats none false notification, headers := message.headers })
        else
          rejected
      else
        rejected

theorem consumeDeadLetter_eq (requeueLimit : Option Int) (message : Message) (rejects : Bool) :
    consumeDeadLetter floats requeueLimit message rejects =
      if rejects then some .rejected else none := by
  have refused : putBackKeywords.all (· ∈ basicPublishParameters) = false := by decide
  unfold consumeDeadLetter
  simp only [refused, Bool.false_eq_true, if_false, ite_self]
  split <;> rfl

end DeadLetters

/-! ## The broker -/

inductive Queue
  /-- A queue whose consumer is under the wrapper. -/
  | events
  | deadLetters
  deriving DecidableEq, Repr

structure Topology where
  defaultExchange : String
  route : String → List Queue
  named : String → List Queue
  /-- No exchange has more queues. -/
  fan : Nat
  route_le : ∀ exchange, (route exchange).length ≤ fan

inductive Choice
  | event (outcome : Outcome)
  | deadLetter (rejects : Bool)
  deriving DecidableEq, Repr

section Broker

variable {Real : Type} (floats : FloatFormat Real) (requeueLimit : Option Int)
  (topology : Topology)

def handle : Queue × Message → Choice → Option Handled
  | (.events, message), .event outcome =>
      consumerWrapper floats topology.defaultExchange message outcome
  | (.deadLetters, message), .deadLetter rejects =>
      consumeDeadLetter floats requeueLimit message rejects
  | _, _ => none

def makes : Handled → List (Queue × Message)
  | .acknowledged | .rejected => []
  | .reported exchange report => (topology.route exchange).map (·, report)
  | .putBack queue message => ((queue.map topology.named).getD []).map (·, message)

def consumers : Cascade (Queue × Message) Choice Handled where
  handle := handle floats requeueLimit topology
  makes := makes topology

inductive Settles : Queue × Message → Handled → Prop
  | acknowledged (message : Message) : Settles (.events, message) .acknowledged
  | rejected (item : Queue × Message) : Settles item .rejected
  | reported {message report : Message} {exchange : String} {count : Int} :
      message.givenHeaders.errorCount.value = some count → count < 3 →
      report.givenHeaders.errorCount.value = some (count + 1) →
      Settles (.events, message) (.reported exchange report)

theorem settles_of_handle {item : Queue × Message} {choice : Choice} {result : Handled}
    (handled : handle floats requeueLimit topology item choice = some result) :
    Settles item result := by
  rcases item with ⟨queue, message⟩
  cases queue with
  | events =>
      cases choice with
      | event outcome =>
          change consumerWrapper floats topology.defaultExchange message outcome = _ at handled
          cases result with
          | acknowledged => exact .acknowledged message
          | rejected => exact .rejected _
          | reported exchange report =>
              rcases consumerWrapper_reported floats handled with ⟨count, few, counted, counts⟩
              exact .reported counted few counts
          | putBack again other => exact absurd handled (consumerWrapper_putBack floats)
      | deadLetter rejects => cases handled
  | deadLetters =>
      cases choice with
      | event outcome => cases handled
      | deadLetter rejects =>
          change consumeDeadLetter floats requeueLimit message rejects = _ at handled
          rw [consumeDeadLetter_eq] at handled
          split at handled
          · cases handled
            exact .rejected _
          · cases handled

/-- How often the wrapper still reports an error of the event or of its reports. -/
def Message.reportsLeft (message : Message) : Nat :=
  match message.givenHeaders.errorCount.value with
  | none => 0
  | some count => (3 - count).toNat

/-- How many events may come of one whose errors are still reported so often. -/
def growth (fan : Nat) : Nat → Nat
  | 0 => 1
  | left + 1 => 1 + fan * growth fan left

theorem growth_pos (fan left : Nat) : 0 < growth fan left := by
  cases left with
  | zero => exact Nat.one_pos
  | succ left =>
      rw [growth]
      omega

theorem growth_mono (fan : Nat) {left more : Nat} (fewer : left ≤ more) :
    growth fan left ≤ growth fan more := by
  induction left generalizing more with
  | zero => exact growth_pos fan more
  | succ left induction =>
      cases more with
      | zero => omega
      | succ more =>
          have within := Nat.mul_le_mul_left fan (induction (Nat.le_of_succ_le_succ fewer))
          rw [growth, growth]
          omega

def weight : Queue × Message → Nat
  | (.events, message) => growth topology.fan message.reportsLeft
  | (.deadLetters, _) => 1

theorem weight_pos (item : Queue × Message) : 0 < weight topology item := by
  rcases item with ⟨queue, message⟩
  cases queue with
  | events => exact growth_pos _ _
  | deadLetters => exact Nat.one_pos

theorem weight_le (queue : Queue) (message : Message) :
    weight topology (queue, message) ≤ growth topology.fan message.reportsLeft := by
  cases queue with
  | events => exact le_refl _
  | deadLetters => exact growth_pos _ _

/-- The copies of a report are lighter than the event that it reports. -/
theorem weigh_makes_reported_lt {exchange : String} {message report : Message} {count : Int}
    (counted : message.givenHeaders.errorCount.value = some count) (few : count < 3)
    (counts : report.givenHeaders.errorCount.value = some (count + 1)) :
    Cascade.weigh (weight topology) (makes topology (.reported exchange report)) <
      weight topology (.events, message) := by
  have left : message.reportsLeft = report.reportsLeft + 1 := by
    unfold Message.reportsLeft
    rw [counted, counts]
    simp only
    omega
  have copies : Cascade.weigh (weight topology) (makes topology (.reported exchange report)) ≤
      topology.fan * growth topology.fan report.reportsLeft :=
    calc Cascade.weigh (weight topology) (makes topology (.reported exchange report))
      _ ≤ (makes topology (.reported exchange report)).length *
          growth topology.fan report.reportsLeft := by
        apply Cascade.weigh_le
        intro copy member
        rcases List.mem_map.mp member with ⟨queue, -, same⟩
        rw [← same]
        exact weight_le topology queue report
      _ ≤ topology.fan * growth topology.fan report.reportsLeft := by
        rw [makes, List.length_map]
        exact Nat.mul_le_mul_right _ (topology.route_le exchange)
  change _ < growth topology.fan message.reportsLeft
  rw [left, growth]
  omega

theorem lightens : Cascade.Lightens (weight topology) (consumers floats requeueLimit topology) := by
  intro item choice result handled
  cases settles_of_handle floats requeueLimit topology handled with
  | acknowledged message => exact weight_pos topology _
  | rejected item => exact weight_pos topology _
  | reported counted few counts =>
      exact weigh_makes_reported_lt topology counted few counts

def Message.CountsUp (message : Message) : Prop :=
  ∀ count, message.givenHeaders.errorCount.value = some count → 0 ≤ count

theorem reportsLeft_le {message : Message} (countsUp : message.CountsUp) :
    message.reportsLeft ≤ 3 := by
  unfold Message.reportsLeft
  cases counted : message.givenHeaders.errorCount.value with
  | none => exact Nat.zero_le 3
  | some count =>
      have positive := countsUp count counted
      simp only
      omega

/-- Every event that has come to the consumers waits or has been acknowledged or rejected once, and
nothing is put back. An event that does not count below zero and all the reports that come of it
are at most as many as three rounds of reports can make. -/
theorem events_are_settled {final : CascadeState (Queue × Message) Handled}
    (reaches : (consumers floats requeueLimit topology).machine.Reaches Machine.anyStep .empty
      final) :
    (final.given ++ final.made (consumers floats requeueLimit topology)).Perm
        (final.waiting ++ final.handled.map (·.1)) ∧
      (∀ entry ∈ final.handled, Settles entry.1 entry.2) ∧
      ((∀ item ∈ final.given, item.2.CountsUp) → final.handled.length ≤ final.given.length *
        (1 + topology.fan + topology.fan ^ 2 + topology.fan ^ 3)) := by
  refine ⟨Cascade.conserved_of_reaches reaches, ?_, ?_⟩
  · intro entry member
    rcases Cascade.handled_of_reaches reaches entry member with ⟨choice, handled⟩
    exact settles_of_handle floats requeueLimit topology handled
  · intro countsUp
    have bounded := Cascade.length_handled_of_reaches
      (lightens floats requeueLimit topology) reaches
    have rounds : growth topology.fan 3 =
        1 + topology.fan + topology.fan ^ 2 + topology.fan ^ 3 := by
      simp only [growth]
      ring
    calc final.handled.length
      _ ≤ Cascade.weigh (weight topology) final.given := by omega
      _ ≤ final.given.length * growth topology.fan 3 := by
        apply Cascade.weigh_le
        intro item member
        exact (weight_le topology item.1 item.2).trans
          (growth_mono topology.fan (reportsLeft_le (countsUp item member)))
      _ = _ := by rw [rounds]

end Broker

/-! A consumer that always raises on one event, whose reports reach the consumer again. -/

section Witness

def looping : Topology where
  defaultExchange := "errors"
  route := fun exchange => if exchange = "errors" then [.events, .deadLetters] else []
  named := fun _ => []
  fan := 2
  route_le := by
    intro exchange
    split
    · decide
    · decide

def broken : Message where
  body := some (text "\x7b\x7d")
  headers := none

def raising : CascadeEvent (Queue × Message) Choice :=
  .handle 0 (.event (.raises ⟨text "KeyError", text "uuid"⟩ true true))

def rejecting : CascadeEvent (Queue × Message) Choice := .handle 0 (.deadLetter true)

def brokenRun : List (CascadeEvent (Queue × Message) Choice) :=
  [.give (.events, broken), raising, raising, rejecting, raising, rejecting, raising, rejecting]

theorem broken_event_is_settled :
    ∃ final, (consumers FloatFormat.literal none looping).machine.run .empty brokenRun =
        some final ∧
      final.waiting = [] ∧ final.handled.length = 7 ∧
      (final.given ++ final.made (consumers FloatFormat.literal none looping)).Perm
        (final.waiting ++ final.handled.map (·.1)) ∧
      (∀ entry ∈ final.handled, Settles entry.1 entry.2) ∧
      final.handled.length ≤ final.given.length *
        (1 + looping.fan + looping.fan ^ 2 + looping.fan ^ 3) := by
  have ends : ((consumers FloatFormat.literal none looping).machine.run .empty brokenRun).map
      (fun final => (final.waiting, final.handled.length, final.given)) =
        some ([], 7, [(.events, broken)]) := by decide +kernel
  rcases Option.map_eq_some_iff.mp ends with ⟨final, ran, same⟩
  rw [Prod.mk.injEq, Prod.mk.injEq] at same
  rcases events_are_settled FloatFormat.literal none looping (.of_run ran) with
    ⟨conserved, settled, bounded⟩
  refine ⟨final, ran, same.1, same.2.1, conserved, settled, bounded ?_⟩
  intro item member
  rw [same.2.2, List.mem_singleton] at member
  rw [member]
  intro count counted
  cases counted
  decide

end Witness

end ChatsEngine.EventDriven
