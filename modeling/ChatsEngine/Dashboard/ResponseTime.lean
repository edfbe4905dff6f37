import ChatsEngine.Core.Types
import ChatsEngine.Foundation.Keyset
import ChatsEngine.Foundation.Segments
import Mathlib.Algebra.BigOperators.Group.List.Basic
import Mathlib.Algebra.Order.Floor.Ring
import Mathlib.Data.Rat.Floor
import Mathlib.Tactic.Ring

/-! # The response time of a room

The average time that agents take to reply, as one pass over the messages computes it, and as
the mean over the runs of agent messages between the messages of the contact. -/

namespace ChatsEngine.Dashboard

open Keyset

structure TimedMessage where
  user : Option UserEmail
  contact : Option Uuid
  createdOn : Instant
deriving DecidableEq, Repr

namespace TimedMessage

/-- A message of a contact, also if it has a user. -/
def isContact (message : TimedMessage) : Bool := message.contact.isSome

def isSystem (message : TimedMessage) : Bool := message.contact.isNone && message.user.isNone

def isSelected (roomCreatedOn : Instant) (message : TimedMessage) : Bool :=
  (message.user.isSome ∨ message.contact.isSome) ∧ roomCreatedOn ≤ message.createdOn

end TimedMessage

/-! ## One pass over the messages -/

/-- The variables of the loop. Durations are counted in microseconds. -/
structure ResponseLoop where
  totalResponseTimeSum : Int
  agentResponsesCount : Nat
  lastTime : Instant
  lastMessageWasFromAgent : Bool
deriving DecidableEq, Repr

def ResponseLoop.step (loop : ResponseLoop) (message : TimedMessage) : ResponseLoop :=
  if message.contact.isSome then
    { loop with lastTime := message.createdOn, lastMessageWasFromAgent := false }
  else if message.user.isSome then
    if loop.lastMessageWasFromAgent then loop
    else
      { loop with
        lastMessageWasFromAgent := true
        totalResponseTimeSum :=
          loop.totalResponseTimeSum + ((message.createdOn : Int) - loop.lastTime)
        agentResponsesCount := loop.agentResponsesCount + 1 }
  else loop

/-- `int` -/
def truncate (value : Rat) : Int := value.num.tdiv value.den

def calculateResponseTime (roomCreatedOn : Instant) (stored : List TimedMessage) : Int :=
  let messages := orderBy TimedMessage.createdOn
    (stored.filter (TimedMessage.isSelected roomCreatedOn))
  if messages = [] then 0
  else
    let loop := messages.foldl ResponseLoop.step
      { totalResponseTimeSum := 0
        agentResponsesCount := 0
        lastTime := roomCreatedOn
        lastMessageWasFromAgent := false }
    if loop.agentResponsesCount = 0 then 0
    else truncate ((loop.totalResponseTimeSum : Rat) / 1000000 / loop.agentResponsesCount)

/-! ## The runs of agent messages -/

/-- The runs of agent messages that no contact message interrupts, each with the time of the
contact message before it, or the first time if there is none. -/
def agentRuns (first : Instant) (messages : List TimedMessage) :
    List (Instant × List TimedMessage) :=
  (segments TimedMessage.isContact TimedMessage.createdOn first messages).filter
    fun run => run.2 ≠ []

/-- The microseconds from the message before a run to the first message of the run. -/
def replyTime (run : Instant × List TimedMessage) : Int :=
  match run.2.head? with
  | some message => (message.createdOn : Int) - run.1
  | none => 0

/-- The mean over no runs is zero. -/
def meanReplySeconds (runs : List (Instant × List TimedMessage)) : Rat :=
  ((runs.map replyTime).sum : Rat) / 1000000 / runs.length

def exchanged (roomCreatedOn : Instant) (messages : List TimedMessage) : List TimedMessage :=
  messages.filter fun message => roomCreatedOn ≤ message.createdOn ∧ ¬message.isSystem

/-! ## The loop meets one run after the other -/

/-- The runs that the loop has yet to count, which are not the one under way. -/
def ResponseLoop.runsAhead (loop : ResponseLoop) (messages : List TimedMessage) :
    List (Instant × List TimedMessage) :=
  let all := segments TimedMessage.isContact TimedMessage.createdOn loop.lastTime messages
  (if loop.lastMessageWasFromAgent then all.tail else all).filter fun run => run.2 ≠ []

variable {loop : ResponseLoop} {message : TimedMessage} {messages : List TimedMessage}

theorem step_of_contact (isContact : message.isContact = true) :
    loop.step message =
      { loop with lastTime := message.createdOn, lastMessageWasFromAgent := false } :=
  if_pos isContact

theorem runsAhead_of_contact (isContact : message.isContact = true) :
    loop.runsAhead (message :: messages) = (loop.step message).runsAhead messages := by
  rw [step_of_contact isContact, ResponseLoop.runsAhead, ResponseLoop.runsAhead,
    Segments.segments_cons_of_interrupts isContact]
  cases loop.lastMessageWasFromAgent with
  | true => rfl
  | false => rfl

section Agents

variable (isAgent : message.isContact = false)

include isAgent

theorem runsAhead_of_under_way (underWay : loop.lastMessageWasFromAgent = true) :
    loop.runsAhead (message :: messages) = loop.runsAhead messages := by
  rcases Segments.exists_segments_eq_cons TimedMessage.isContact
      TimedMessage.createdOn messages with
    ⟨segment, later, split⟩
  rw [ResponseLoop.runsAhead, ResponseLoop.runsAhead, if_pos underWay, if_pos underWay,
    Segments.segments_cons_of_not_interrupts isAgent (split _), split]
  rfl

theorem step_of_first (hasUser : message.user.isSome = true)
    (first : loop.lastMessageWasFromAgent = false) :
    loop.step message =
      { loop with
        lastMessageWasFromAgent := true
        totalResponseTimeSum :=
          loop.totalResponseTimeSum + ((message.createdOn : Int) - loop.lastTime)
        agentResponsesCount := loop.agentResponsesCount + 1 } := by
  rw [TimedMessage.isContact] at isAgent
  simp [ResponseLoop.step, isAgent, hasUser, first]

theorem exists_runsAhead_of_first (messages : List TimedMessage)
    (hasUser : message.user.isSome = true) (first : loop.lastMessageWasFromAgent = false) :
    ∃ segment, loop.runsAhead (message :: messages) =
      (loop.lastTime, message :: segment) :: (loop.step message).runsAhead messages := by
  rcases Segments.exists_segments_eq_cons TimedMessage.isContact
      TimedMessage.createdOn messages with
    ⟨segment, later, split⟩
  refine ⟨segment, ?_⟩
  rw [ResponseLoop.runsAhead, ResponseLoop.runsAhead, step_of_first isAgent hasUser first, first,
    Segments.segments_cons_of_not_interrupts isAgent (split _), split]
  rfl

end Agents

/-- What has been counted, together with what is yet to be counted. -/
structure ResponseLoop.CountsAs (loop : ResponseLoop) (messages : List TimedMessage)
    (count : Nat) (total : Int) : Prop where
  count : loop.agentResponsesCount + (loop.runsAhead messages).length = count
  total : loop.totalResponseTimeSum + ((loop.runsAhead messages).map replyTime).sum = total

theorem ResponseLoop.CountsAs.step {count : Nat} {total : Int}
    (isExchanged : message.isSystem = false)
    (counts : loop.CountsAs (message :: messages) count total) :
    (loop.step message).CountsAs messages count total := by
  rcases counts with ⟨isCount, isTotal⟩
  cases isContact : message.isContact with
  | true =>
      rw [runsAhead_of_contact isContact] at isCount isTotal
      rw [step_of_contact isContact] at isCount isTotal ⊢
      exact ⟨isCount, isTotal⟩
  | false =>
      have hasUser : message.user.isSome = true := by
        rw [TimedMessage.isContact] at isContact
        rw [TimedMessage.isSystem] at isExchanged
        cases hasUser : message.user <;> simp_all
      cases underWay : loop.lastMessageWasFromAgent with
      | true =>
          have same : loop.step message = loop := by
            rw [TimedMessage.isContact] at isContact
            simp [ResponseLoop.step, isContact, hasUser, underWay]
          rw [runsAhead_of_under_way isContact underWay] at isCount isTotal
          rw [same]
          exact ⟨isCount, isTotal⟩
      | false =>
          rcases exists_runsAhead_of_first isContact messages hasUser underWay with
            ⟨segment, ahead⟩
          rw [ahead] at isCount isTotal
          have step := step_of_first isContact hasUser underWay
          constructor
          · rw [← isCount, List.length_cons, step]
            dsimp only
            omega
          · rw [← isTotal, List.map_cons, List.sum_cons, step, ← Int.add_assoc]
            rfl

theorem ResponseLoop.CountsAs.fold {count : Nat} {total : Int}
    (areExchanged : ∀ message ∈ messages, message.isSystem = false)
    (counts : loop.CountsAs messages count total) :
    (messages.foldl ResponseLoop.step loop).agentResponsesCount = count ∧
      (messages.foldl ResponseLoop.step loop).totalResponseTimeSum = total := by
  induction messages generalizing loop with
  | nil =>
      have none : loop.runsAhead [] = [] := by
        cases underWay : loop.lastMessageWasFromAgent <;>
          simp [ResponseLoop.runsAhead, underWay]
      rcases counts with ⟨isCount, isTotal⟩
      rw [none] at isCount isTotal
      exact ⟨isCount, (Int.add_zero _).symm.trans isTotal⟩
  | cons message messages induction =>
      rw [List.foldl_cons]
      exact induction (fun other listed => areExchanged other (List.mem_cons_of_mem _ listed))
        (counts.step (areExchanged message List.mem_cons_self))

/-! ## The average is the mean over the runs -/

theorem totalResponseTimeSum_nonneg
    (chronological : messages.Pairwise fun earlier later => earlier.createdOn < later.createdOn)
    (after : ∀ message ∈ messages, loop.lastTime ≤ message.createdOn)
    (nonneg : 0 ≤ loop.totalResponseTimeSum) :
    0 ≤ (messages.foldl ResponseLoop.step loop).totalResponseTimeSum := by
  induction messages generalizing loop with
  | nil => exact nonneg
  | cons message messages induction =>
      rw [List.pairwise_cons] at chronological
      have waited : (loop.lastTime : Int) ≤ message.createdOn :=
        Int.ofNat_le.mpr (after message List.mem_cons_self)
      have stays : ∀ other ∈ messages, loop.lastTime ≤ other.createdOn :=
        fun other listed => after other (List.mem_cons_of_mem _ listed)
      rw [List.foldl_cons]
      apply induction chronological.2
      · intro other listed
        rw [ResponseLoop.step]
        split
        · exact Nat.le_of_lt (chronological.1 other listed)
        · split
          · split
            · exact stays other listed
            · exact stays other listed
          · exact stays other listed
      · rw [ResponseLoop.step]
        split
        · exact nonneg
        · split
          · split
            · exact nonneg
            · dsimp only
              omega
          · exact nonneg

theorem orderBy_selected {roomCreatedOn : Instant} {stored : List TimedMessage}
    (chronological : messages.Pairwise fun earlier later => earlier.createdOn < later.createdOn)
    (sameMessages : stored.Perm messages) :
    orderBy TimedMessage.createdOn (stored.filter (TimedMessage.isSelected roomCreatedOn)) =
      exchanged roomCreatedOn messages := by
  have distinct : (stored.map TimedMessage.createdOn).Nodup := by
    rw [(sameMessages.map _).nodup_iff]
    exact (List.pairwise_map.mpr chronological).imp fun before => Nat.ne_of_lt before
  apply eq_of_strict TimedMessage.createdOn
    (orderBy_strict _ (distinct.sublist (List.filter_sublist.map _)))
    (chronological.sublist List.filter_sublist)
  intro message
  simp only [mem_orderBy, List.mem_filter, sameMessages.mem_iff]
  apply and_congr_right
  intro _
  cases isUser : message.user <;> cases isContact : message.contact <;>
    simp [TimedMessage.isSelected, TimedMessage.isSystem, isUser, isContact]

theorem meanReplySeconds_nil : meanReplySeconds [] = 0 := by simp [meanReplySeconds]

theorem truncate_of_nonneg {value : Rat} (nonneg : 0 ≤ value) : truncate value = ⌊value⌋ := by
  rw [truncate, Int.tdiv_eq_ediv_of_nonneg (Rat.num_nonneg.mpr nonneg)]
  exact Rat.floor_def'.symm

/-- The response time is the whole number of seconds of the mean over the runs. -/
theorem response_time_is_mean (roomCreatedOn : Instant) (stored messages : List TimedMessage)
    (chronological : messages.Pairwise fun earlier later => earlier.createdOn < later.createdOn)
    (sameMessages : stored.Perm messages) :
    calculateResponseTime roomCreatedOn stored =
      ⌊meanReplySeconds (agentRuns roomCreatedOn (exchanged roomCreatedOn messages))⌋ := by
  rw [calculateResponseTime, orderBy_selected chronological sameMessages]
  generalize isExchanged : exchanged roomCreatedOn messages = selected
  have areExchanged : ∀ message ∈ selected, message.isSystem = false ∧
      roomCreatedOn ≤ message.createdOn := by
    intro message listed
    rw [← isExchanged, exchanged, List.mem_filter] at listed
    have both := of_decide_eq_true listed.2
    exact ⟨Bool.eq_false_of_not_eq_true both.2, both.1⟩
  have inOrder : selected.Pairwise fun earlier later => earlier.createdOn < later.createdOn :=
    isExchanged ▸ chronological.sublist List.filter_sublist
  let start : ResponseLoop := ⟨0, 0, roomCreatedOn, false⟩
  have counts : start.CountsAs selected (agentRuns roomCreatedOn selected).length
      ((agentRuns roomCreatedOn selected).map replyTime).sum := by
    constructor
    · exact Nat.zero_add _
    · exact Int.zero_add _
  have counted := counts.fold fun message listed => (areExchanged message listed).1
  have nonneg : 0 ≤ (selected.foldl ResponseLoop.step start).totalResponseTimeSum :=
    totalResponseTimeSum_nonneg inOrder (fun message listed => (areExchanged message listed).2)
      (Int.le_refl 0)
  rw [counted.2] at nonneg
  by_cases empty : selected = []
  · have noRuns : agentRuns roomCreatedOn [] = [] := by simp [agentRuns]
    rw [if_pos empty, empty, noRuns, meanReplySeconds_nil, Int.floor_zero]
  rw [if_neg empty]
  show (if (selected.foldl ResponseLoop.step start).agentResponsesCount = 0 then 0
    else truncate (((selected.foldl ResponseLoop.step start).totalResponseTimeSum : Rat) /
      1000000 / (selected.foldl ResponseLoop.step start).agentResponsesCount)) = _
  rw [counted.1, counted.2]
  by_cases noRuns : (agentRuns roomCreatedOn selected).length = 0
  · rw [if_pos noRuns, List.eq_nil_of_length_eq_zero noRuns, meanReplySeconds_nil,
      Int.floor_zero]
  · rw [if_neg noRuns]
    apply truncate_of_nonneg
    apply div_nonneg
    · apply div_nonneg
      · exact_mod_cast nonneg
      · norm_num
    · exact_mod_cast Nat.zero_le _

/-- Two replies, after four and after one second, with a system message in between. -/
theorem two_replies_take_two_seconds :
    ⌊meanReplySeconds (agentRuns 0 (exchanged 0
      [⟨some "a", none, 4000000⟩, ⟨some "a", none, 5000000⟩, ⟨none, some 1, 6000000⟩,
        ⟨none, none, 6500000⟩, ⟨some "b", none, 7000000⟩]))⌋ = 2 := by
  rw [← response_time_is_mean 0
    [⟨none, none, 6500000⟩, ⟨some "a", none, 4000000⟩, ⟨some "a", none, 5000000⟩,
      ⟨none, some 1, 6000000⟩, ⟨some "b", none, 7000000⟩] _ (by decide) (by decide)]
  decide +kernel

end ChatsEngine.Dashboard
