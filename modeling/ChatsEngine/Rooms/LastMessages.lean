import ChatsEngine.Rooms.Operations
import Mathlib.Data.Finset.Max
import Mathlib.Data.List.Nodup
import Mathlib.Data.List.Perm.Basic
import Mathlib.Data.Set.Basic

/-! # The last message of a room

Messages of agents and of the contact write the same columns of the room. The update for a
contact message is guarded by the time of the last interaction, the one for an agent message is
not, so what is stored depends on the order in which the messages are applied. -/

namespace ChatsEngine.Rooms

inductive AppliedMessage
  | ofAgent (message : LastMessage) (user : Option UserEmail)
  /-- The instance that receives the message may be flagged as inactive. -/
  | ofContact (message : LastMessage) (contact : Option Uuid) (isInactive : Bool)
deriving DecidableEq, Repr

namespace AppliedMessage

def message : AppliedMessage → LastMessage
  | .ofAgent message _ => message
  | .ofContact message _ _ => message

def createdOn (applied : AppliedMessage) : Instant := applied.message.createdOn

def uuid (applied : AppliedMessage) : Uuid := applied.message.uuid

def isOfContact : AppliedMessage → Bool
  | .ofAgent _ _ => false
  | .ofContact _ _ _ => true

def contact : AppliedMessage → Option Uuid
  | .ofAgent _ _ => none
  | .ofContact _ contact _ => contact

def updates : AppliedMessage → List QuerysetUpdate
  | .ofAgent message user => [.updateLastMessage message user true]
  | .ofContact message contact isInactive =>
      .onNewMessage message contact 1 ::
        if isInactive ∧ contact.isSome then [.resetInactivity] else []

end AppliedMessage

namespace RoomTable

def apply (table : RoomTable) (applied : AppliedMessage) : RoomTable :=
  applied.updates.foldl RoomTable.update table

def applyAll (table : RoomTable) (order : List AppliedMessage) : RoomTable :=
  order.foldl RoomTable.apply table

def processMessageHistory (table : RoomTable) (created : List AppliedMessage) : RoomTable :=
  match created.getLast? with
  | none => table
  | some last => table.update (.onNewMessage last.message last.contact created.length)

end RoomTable

structure Conversation where
  lastMessage : Option Uuid
  lastInteraction : Option Instant
  unreadMessagesCount : Int
deriving DecidableEq, Repr

def RoomTable.conversation (table : RoomTable) : Conversation where
  lastMessage := table.row .lastMessage
  lastInteraction := table.row .lastInteraction
  unreadMessagesCount := table.row .unreadMessagesCount

/-! ## Any order -/

/-- Whatever the order, the room shows its newest message and counts those of the contact. -/
structure RoomTable.AgreesOn (table : RoomTable) (messages : List AppliedMessage)
    (orders : Set (List AppliedMessage)) : Prop where
  independent : ∀ order ∈ orders, ∀ other ∈ orders,
    (table.applyAll order).conversation = (table.applyAll other).conversation
  newest : ∀ order ∈ orders, ∀ newest ∈ messages,
    (∀ other ∈ messages, other.createdOn ≤ newest.createdOn) →
      (table.applyAll order).row .lastMessage = some newest.uuid
  counted : ∀ order ∈ orders, (table.applyAll order).row .unreadMessagesCount =
    table.row .unreadMessagesCount + messages.countP AppliedMessage.isOfContact

def AppliedMessage.Follows (applied : AppliedMessage) (lastInteraction : Option Instant) : Prop :=
  applied.isOfContact = true → ∀ instant ∈ lastInteraction, instant < applied.createdOn

instance (applied : AppliedMessage) (lastInteraction : Option Instant) :
    Decidable (applied.Follows lastInteraction) :=
  inferInstanceAs (Decidable (applied.isOfContact = true → _))

def EachFollows : Option Instant → List AppliedMessage → Prop
  | _, [] => True
  | lastInteraction, applied :: order =>
      applied.Follows lastInteraction ∧ EachFollows (some applied.createdOn) order

instance decidableEachFollows : (lastInteraction : Option Instant) →
    (order : List AppliedMessage) → Decidable (EachFollows lastInteraction order)
  | _, [] => inferInstanceAs (Decidable True)
  | lastInteraction, applied :: order =>
      have := decidableEachFollows (some applied.createdOn) order
      inferInstanceAs (Decidable (applied.Follows lastInteraction ∧ _))

def EndsWithNewest (order : List AppliedMessage) : Prop :=
  ∀ last ∈ order.getLast?, ∀ applied ∈ order, applied.createdOn ≤ last.createdOn

instance (order : List AppliedMessage) : Decidable (EndsWithNewest order) :=
  inferInstanceAs (Decidable (∀ last ∈ order.getLast?, ∀ applied ∈ order, _))

def RoomTable.AppliesInTime (table : RoomTable) (order : List AppliedMessage) : Prop :=
  EachFollows (table.row .lastInteraction) order ∧ EndsWithNewest order

/-! ## One message -/

def AppliedMessage.unread (applied : AppliedMessage) : Nat :=
  if applied.isOfContact then 1 else 0

def Conversation.receive (conversation : Conversation) (applied : AppliedMessage) :
    Conversation :=
  if applied.Follows conversation.lastInteraction then
    { lastMessage := some applied.uuid
      lastInteraction := some applied.createdOn
      unreadMessagesCount := conversation.unreadMessagesCount + applied.unread }
  else conversation

variable {table : RoomTable} {conversation : Conversation} {applied : AppliedMessage}
  {lastInteraction : Option Instant} {messages order : List AppliedMessage}

theorem conversation_resetInactivity (table : RoomTable) :
    (table.update .resetInactivity).conversation = table.conversation := by
  rw [RoomTable.update]
  split
  · rfl
  · rfl

theorem conversation_apply (table : RoomTable) (applied : AppliedMessage) :
    (table.apply applied).conversation = table.conversation.receive applied := by
  cases applied with
  | ofAgent message user =>
      have follows : (AppliedMessage.ofAgent message user).Follows
          table.conversation.lastInteraction := fun impossible => Bool.noConfusion impossible
      rw [Conversation.receive, if_pos follows]
      exact congrArg (Conversation.mk _ _) (Int.add_zero _).symm
  | ofContact message contact isInactive =>
      have received : (table.update (.onNewMessage message contact 1)).conversation =
          table.conversation.receive (.ofContact message contact isInactive) := by
        rw [Conversation.receive, RoomTable.update]
        by_cases newer : QuerysetUpdate.Selects table.row (.onNewMessage message contact 1)
        · have follows : (AppliedMessage.ofContact message contact isInactive).Follows
              table.conversation.lastInteraction := fun _ => newer
          rw [if_pos newer, if_pos follows]
          rfl
        · rw [if_neg newer, if_neg fun follows => newer (follows rfl)]
      rw [RoomTable.apply, AppliedMessage.updates]
      split
      · rw [List.foldl_cons, List.foldl_cons, List.foldl_nil, conversation_resetInactivity,
          received]
      · exact received

theorem conversation_applyAll (table : RoomTable) (order : List AppliedMessage) :
    (table.applyAll order).conversation = order.foldl Conversation.receive table.conversation := by
  induction order generalizing table with
  | nil => rfl
  | cons applied order induction =>
      rw [List.foldl_cons, ← conversation_apply]
      exact induction (table.apply applied)

theorem countP_cons (applied : AppliedMessage) (order : List AppliedMessage) :
    (applied :: order).countP AppliedMessage.isOfContact =
      applied.unread + order.countP AppliedMessage.isOfContact := by
  rw [List.countP_cons, AppliedMessage.unread, Nat.add_comm]

/-! ## One order -/

theorem fold_of_eachFollows (follows : EachFollows conversation.lastInteraction order) :
    order.foldl Conversation.receive conversation =
      { lastMessage := (order.getLast?.map fun last => some last.uuid).getD
          conversation.lastMessage
        lastInteraction := (order.getLast?.map fun last => some last.createdOn).getD
          conversation.lastInteraction
        unreadMessagesCount := conversation.unreadMessagesCount +
          order.countP AppliedMessage.isOfContact } := by
  induction order generalizing conversation with
  | nil => exact congrArg (Conversation.mk _ _) (Int.add_zero _).symm
  | cons applied order induction =>
      have received : conversation.receive applied = ⟨some applied.uuid, some applied.createdOn,
          conversation.unreadMessagesCount + applied.unread⟩ := if_pos follows.1
      rw [List.foldl_cons, received, induction follows.2, countP_cons]
      cases order with
      | nil => simp
      | cons next order =>
          rw [List.getLast?_cons_cons, List.getLast?_cons, Int.natCast_add, ← Int.add_assoc]
          rfl

theorem fold_unread_le (conversation : Conversation) (order : List AppliedMessage) :
    (order.foldl Conversation.receive conversation).unreadMessagesCount ≤
      conversation.unreadMessagesCount + order.countP AppliedMessage.isOfContact := by
  induction order generalizing conversation with
  | nil => exact Int.le_of_eq (Int.add_zero _).symm
  | cons applied order induction =>
      have rest := induction (conversation.receive applied)
      rw [List.foldl_cons, countP_cons]
      have received : (conversation.receive applied).unreadMessagesCount ≤
          conversation.unreadMessagesCount + applied.unread := by
        rw [Conversation.receive]
        split
        · exact Int.le_refl _
        · omega
      omega

theorem eachFollows_of_counted
    (counted : (order.foldl Conversation.receive conversation).unreadMessagesCount =
      conversation.unreadMessagesCount + order.countP AppliedMessage.isOfContact) :
    EachFollows conversation.lastInteraction order := by
  induction order generalizing conversation with
  | nil => trivial
  | cons applied order induction =>
      rw [List.foldl_cons, countP_cons] at counted
      by_cases follows : applied.Follows conversation.lastInteraction
      · have received : conversation.receive applied = ⟨some applied.uuid,
            some applied.createdOn, conversation.unreadMessagesCount + applied.unread⟩ :=
          if_pos follows
        rw [received] at counted
        have rest := induction (counted.trans (by simp [Int.add_assoc]))
        exact ⟨follows, rest⟩
      · have dropped : conversation.receive applied = conversation := if_neg follows
        have isOfContact : applied.isOfContact = true := by
          by_contra isOfAgent
          exact follows fun ofContact => absurd ofContact isOfAgent
        have unread : applied.unread = 1 := if_pos isOfContact
        have most := fold_unread_le conversation order
        rw [dropped] at counted
        omega

/-! ## A batch -/

theorem follows_of_eachFollows (areOfContact : ∀ applied ∈ order, applied.isOfContact = true)
    (follows : EachFollows lastInteraction order) :
    ∀ applied ∈ order, applied.Follows lastInteraction := by
  induction order generalizing lastInteraction with
  | nil => exact fun _ impossible => absurd impossible List.not_mem_nil
  | cons first order induction =>
      intro applied listed
      rcases List.mem_cons.mp listed with rfl | later
      · exact follows.1
      · intro isOfContact instant isLast
        have before : instant < first.createdOn :=
          follows.1 (areOfContact first List.mem_cons_self) instant isLast
        have after := induction (fun other listed =>
          areOfContact other (List.mem_cons_of_mem _ listed)) follows.2 applied later
        exact before.trans (after isOfContact first.createdOn rfl)

/-- A batch of contact messages in the order of their times is imported as if they had come one
by one. -/
theorem conversation_processMessageHistory
    (areOfContact : ∀ applied ∈ order, applied.isOfContact = true)
    (follows : EachFollows (table.row .lastInteraction) order) :
    (table.processMessageHistory order).conversation = (table.applyAll order).conversation := by
  rw [conversation_applyAll, fold_of_eachFollows follows,
    List.countP_eq_length.mpr areOfContact, RoomTable.processMessageHistory]
  cases isLast : order.getLast? with
  | none =>
      rw [List.getLast?_eq_none_iff.mp isLast]
      exact congrArg (Conversation.mk _ _) (Int.add_zero _).symm
  | some last =>
      have listed : last ∈ order := List.mem_of_getLast? isLast
      have newer : QuerysetUpdate.Selects table.row
          (.onNewMessage last.message last.contact order.length) :=
        follows_of_eachFollows areOfContact follows last listed (areOfContact last listed)
      have some : (order.length : Int) > 0 := by
        exact_mod_cast List.length_pos_of_mem listed
      simp only [RoomTable.update, if_pos newer, QuerysetUpdate.assignments, if_pos some]
      rfl

/-! ## The newest message -/

theorem exists_newest (applied : AppliedMessage) (listed : applied ∈ messages) :
    ∃ newest ∈ messages, ∀ other ∈ messages, other.createdOn ≤ newest.createdOn := by
  have nonempty : messages.toFinset.Nonempty := ⟨applied, List.mem_toFinset.mpr listed⟩
  rcases Finset.exists_max_image messages.toFinset AppliedMessage.createdOn nonempty with
    ⟨newest, isListed, isNewest⟩
  exact ⟨newest, List.mem_toFinset.mp isListed, fun other isOther =>
    isNewest other (List.mem_toFinset.mpr isOther)⟩

theorem lastMessage_applyAll (follows : EachFollows (table.row .lastInteraction) order)
    {last : AppliedMessage} (isLast : order.getLast? = some last) :
    (table.applyAll order).row .lastMessage = some last.uuid := by
  have result := conversation_applyAll table order
  rw [fold_of_eachFollows follows, isLast] at result
  exact congrArg Conversation.lastMessage result

theorem shows_newest_iff (distinct : (messages.map AppliedMessage.createdOn).Nodup)
    (stored : (messages.map AppliedMessage.uuid).Nodup) (isOrder : order.Perm messages)
    (follows : EachFollows (table.row .lastInteraction) order) :
    (∀ newest ∈ messages, (∀ other ∈ messages, other.createdOn ≤ newest.createdOn) →
        (table.applyAll order).row .lastMessage = some newest.uuid) ↔ EndsWithNewest order := by
  constructor
  · intro shows last isLast applied listed
    have isMessage : last ∈ messages := isOrder.mem_iff.mp (List.mem_of_getLast? isLast)
    rcases exists_newest last isMessage with ⟨newest, isListed, isNewest⟩
    have shown := shows newest isListed isNewest
    rw [lastMessage_applyAll follows isLast] at shown
    have same : last = newest :=
      List.inj_on_of_nodup_map stored isMessage isListed (Option.some.inj shown)
    rw [same]
    exact isNewest applied (isOrder.mem_iff.mp listed)
  · intro ends newest isListed isNewest
    have listed : newest ∈ order := isOrder.mem_iff.mpr isListed
    have isLast := List.getLast?_eq_some_getLast (List.ne_nil_of_mem listed)
    have isMessage := isOrder.mem_iff.mp (List.mem_of_getLast? isLast)
    have same : order.getLast (List.ne_nil_of_mem listed) = newest := by
      apply List.inj_on_of_nodup_map distinct isMessage isListed
      exact Nat.le_antisymm (isNewest _ isMessage) (ends _ isLast newest listed)
    rw [lastMessage_applyAll follows isLast, same]

theorem counted_iff (isOrder : order.Perm messages) :
    (table.applyAll order).row .unreadMessagesCount =
        table.row .unreadMessagesCount + messages.countP AppliedMessage.isOfContact ↔
      EachFollows (table.row .lastInteraction) order := by
  have result := conversation_applyAll table order
  rw [← isOrder.countP_eq]
  constructor
  · intro counted
    apply @eachFollows_of_counted table.conversation
    rw [← result]
    exact counted
  · intro follows
    rw [fold_of_eachFollows follows] at result
    exact congrArg Conversation.unreadMessagesCount result

theorem conversation_eq_of_appliesInTime {other : List AppliedMessage}
    (distinct : (messages.map AppliedMessage.createdOn).Nodup) (isOrder : order.Perm messages)
    (isOther : other.Perm messages) (inTime : table.AppliesInTime order)
    (otherInTime : table.AppliesInTime other) :
    (table.applyAll order).conversation = (table.applyAll other).conversation := by
  have same : order.getLast? = other.getLast? := by
    cases isLast : order.getLast? with
    | none =>
        rw [List.getLast?_eq_none_iff.mp isLast] at isOrder
        rw [(isOther.trans isOrder.symm).eq_nil]
        rfl
    | some last =>
        have listed := List.mem_of_getLast? isLast
        have listedToo : last ∈ other := (isOrder.trans isOther.symm).mem_iff.mp listed
        have isOtherLast := List.getLast?_eq_some_getLast (List.ne_nil_of_mem listedToo)
        have otherListed := List.mem_of_getLast? isOtherLast
        have otherMessage := isOther.mem_iff.mp otherListed
        rw [isOtherLast]
        apply congrArg some
        apply List.inj_on_of_nodup_map distinct (isOrder.mem_iff.mp listed) otherMessage
        exact Nat.le_antisymm (otherInTime.2 _ isOtherLast last listedToo)
          (inTime.2 last isLast _ (isOrder.mem_iff.mpr otherMessage))
  rw [conversation_applyAll, conversation_applyAll, fold_of_eachFollows inTime.1,
    fold_of_eachFollows otherInTime.1, same, (isOrder.trans isOther.symm).countP_eq]

theorem every_order_in_time_iff (distinct : (messages.map AppliedMessage.createdOn).Nodup) :
    (∀ order : List AppliedMessage, order.Perm messages → table.AppliesInTime order) ↔
      messages.length ≤ 1 ∧
        ∀ applied ∈ messages, applied.Follows (table.row .lastInteraction) := by
  constructor
  · intro inTime
    cases messages with
    | nil => exact ⟨Nat.zero_le _, fun _ impossible => absurd impossible List.not_mem_nil⟩
    | cons first rest =>
        have own := inTime _ (List.Perm.refl _)
        have isEmpty : rest = [] := by
          cases rest with
          | nil => rfl
          | cons second rest =>
              exfalso
              have reversed := (inTime _ (List.reverse_perm _)).2
              have isLast := List.getLast?_eq_some_getLast (List.cons_ne_nil second rest)
              have listed := List.mem_of_getLast? isLast
              have after := own.2 _ ((List.getLast?_cons_cons).trans isLast) first
                List.mem_cons_self
              have before := reversed first (by rw [List.getLast?_reverse]; rfl) _
                (List.mem_reverse.mpr (List.mem_cons_of_mem _ listed))
              rw [List.map_cons, List.nodup_cons] at distinct
              apply distinct.1
              rw [Nat.le_antisymm after before]
              exact List.mem_map_of_mem listed
        rw [isEmpty]
        refine ⟨Nat.le_refl _, ?_⟩
        intro applied listed
        rw [List.mem_singleton] at listed
        rw [listed]
        exact own.1.1
  · intro given order isOrder
    rcases given with ⟨few, follows⟩
    rcases messages with _ | ⟨only, _ | ⟨second, rest⟩⟩
    · rw [isOrder.eq_nil]
      exact ⟨trivial, fun _ impossible => absurd impossible (Option.not_mem_none _)⟩
    · rw [List.perm_singleton.mp isOrder]
      refine ⟨⟨follows only List.mem_cons_self, trivial⟩, ?_⟩
      intro last isLast applied listed
      cases isLast
      rw [List.mem_singleton.mp listed]
      exact Nat.le_refl _
    · rw [List.length_cons, List.length_cons] at few
      omega

/-- Whatever messages are applied in whatever orders, the room agrees on them exactly when
each order keeps the messages of the contact after what precedes them and the newest message
last, which no two messages do in every order. -/
theorem last_messages_agree_iff (table : RoomTable) (messages : List AppliedMessage)
    (orders : Set (List AppliedMessage))
    (distinct : (messages.map AppliedMessage.createdOn).Nodup)
    (stored : (messages.map AppliedMessage.uuid).Nodup)
    (areOrders : ∀ order ∈ orders, order.Perm messages) :
    (table.AgreesOn messages orders ↔ ∀ order ∈ orders, table.AppliesInTime order) ∧
      (table.AgreesOn messages { order | order.Perm messages } ↔ messages.length ≤ 1 ∧
        ∀ applied ∈ messages, applied.Follows (table.row .lastInteraction)) := by
  have agrees : ∀ orders : Set (List AppliedMessage), (∀ order ∈ orders, order.Perm messages) →
      (table.AgreesOn messages orders ↔ ∀ order ∈ orders, table.AppliesInTime order) := by
    intro orders areOrders
    constructor
    · intro agrees order isOrder
      have follows := (counted_iff (areOrders order isOrder)).mp (agrees.counted order isOrder)
      exact ⟨follows, (shows_newest_iff distinct stored (areOrders order isOrder) follows).mp
        (agrees.newest order isOrder)⟩
    · intro inTime
      constructor
      · intro order isOrder other isOther
        exact conversation_eq_of_appliesInTime distinct (areOrders order isOrder)
          (areOrders other isOther) (inTime order isOrder) (inTime other isOther)
      · intro order isOrder
        exact (shows_newest_iff distinct stored (areOrders order isOrder)
          (inTime order isOrder).1).mpr (inTime order isOrder).2
      · intro order isOrder
        exact (counted_iff (areOrders order isOrder)).mpr (inTime order isOrder).1
  refine ⟨agrees orders areOrders, (agrees _ fun order isOrder => isOrder).trans ?_⟩
  exact every_order_in_time_iff distinct

def question : AppliedMessage := .ofContact ⟨1, some "Hello?", [], 2⟩ (some 7) false

def answer : AppliedMessage := .ofAgent ⟨2, some "Hello!", [], 3⟩ (some "agent@weni.ai")

def newTable : RoomTable := .initial 1 (.defaults 1)

theorem question_then_answer_agree :
    newTable.AgreesOn [question, answer] { [question, answer] } := by
  apply (last_messages_agree_iff newTable [question, answer] { [question, answer] } (by decide)
    (by decide) (fun _ isOrder => List.Perm.of_eq isOrder)).1.mpr
  intro order isOrder
  rw [Set.mem_singleton_iff.mp isOrder]
  exact ⟨by decide, by decide⟩

/-- Applied after the answer, the question is not counted. -/
theorem late_question_is_dropped :
    ¬∀ (table : RoomTable) (messages : List AppliedMessage),
      (messages.map AppliedMessage.createdOn).Nodup →
      (messages.map AppliedMessage.uuid).Nodup →
      table.AgreesOn messages { order | order.Perm messages } := by
  intro agrees
  have agreed := agrees newTable [question, answer] (by decide) (by decide)
  have counted := agreed.counted [answer, question] (List.Perm.swap question answer [])
  exact absurd counted (by decide)

end ChatsEngine.Rooms
