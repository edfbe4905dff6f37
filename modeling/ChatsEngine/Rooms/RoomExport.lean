import ChatsEngine.Core.Types
import ChatsEngine.Foundation.JsonRoundTrip
import ChatsEngine.Foundation.Keyset
import Mathlib.Data.List.DropRight

/-! # The timeline of an exported room

`BuildRoomExportData` merges the messages, the notes and the transfers of a room. Transfers have
no timestamps of their own, and the messages that tell of them are recognised by the beginning of
their text. -/

namespace ChatsEngine.Rooms.RoomExport

open JsonText

/-! ## Rows -/

structure ExportUser where
  email : UserEmail
  firstName : String
deriving DecidableEq, Repr

structure ExportContact where
  name : String
  externalId : Option String
deriving DecidableEq, Repr

structure ExportMedia where
  contentType : String
  mediaUrl : Option String
  /-- The url of the file, of which the storage may not know one. -/
  mediaFile : Option (Option String)
deriving DecidableEq, Repr

/-- The text of a message: the feedback of a transfer, or what anyone else has written. -/
inductive MessageText (Real : Type)
  | feedback (method : Text) (content : Fields Real)
  | written (text : Option Text)

structure RoomMessage (Real : Type) where
  userId : Option UserEmail
  user : Option ExportUser
  contactId : Option Uuid
  contact : Option ExportContact
  createdOn : Instant
  body : MessageText Real
  medias : List ExportMedia

structure RoomNote where
  user : Option ExportUser
  createdOn : Instant
  text : String
  messageId : Option Uuid
deriving DecidableEq, Repr

structure ExportedRoom (Real : Type) where
  createdOn : Instant
  endedAt : Option Instant
  fullTransferHistory : Option (List (Fields Real))
  messages : List (RoomMessage Real)
  notes : List RoomNote

section Feedback

variable {Real : Type} (floats : FloatFormat Real)

/-- The text that `create_room_feedback_message` writes. -/
def feedbackText (method : Text) (content : Fields Real) : Text :=
  dumps floats none false
    (.object [(text "method", .string method), (text "content", .object content)])

def RoomMessage.text (message : RoomMessage Real) : Option Text :=
  match message.body with
  | .feedback method content => some (feedbackText floats method content)
  | .written text => text

/-- `str.isspace` of a character. -/
def isWhitespace (unit : CodeUnit) : Bool :=
  (9 ≤ unit && unit ≤ 13) || (28 ≤ unit && unit ≤ 32) || unit = 0x85 || unit = 0xA0 ||
    unit = 0x1680 || (0x2000 ≤ unit && unit ≤ 0x200A) || unit = 0x2028 || unit = 0x2029 ||
    unit = 0x202F || unit = 0x205F || unit = 0x3000

def strip (value : Text) : Text := (value.dropWhile isWhitespace).rdropWhile isWhitespace

def isFeedbackText (value : Text) : Bool :=
  (text "\x7b\"method\"").isPrefixOf (strip value) ||
    (text "\x7b\"content\"").isPrefixOf (strip value)

def isFeedbackMessage (message : RoomMessage Real) : Bool :=
  isFeedbackText ((message.text floats).getD [])

end Feedback

/-! ## The items of the timeline -/

inductive SenderType
  | agent
  | contact
  | bot
deriving DecidableEq, Repr

structure MediaEntry where
  contentType : String
  url : Option String
  dataUri : Option String
deriving DecidableEq, Repr

structure MessageItem where
  senderType : SenderType
  senderName : Option String
  createdOn : Instant
  text : Option Text
  medias : List MediaEntry
deriving DecidableEq

structure NoteItem where
  senderName : Option String
  createdOn : Instant
  text : String
  anchoredMessageUuid : Option Uuid
deriving DecidableEq, Repr

/-- What a transfer chip shows of the entry of the history. -/
structure TransferChip (Real : Type) where
  kind : Option (Value Real)
  fromParty : Option (Value Real)
  toParty : Option (Value Real)
  byParty : Option (Value Real)

inductive TimelineItem (Real : Type)
  | message (item : MessageItem)
  | internalNote (item : NoteItem)
  | transferChip (chip : TransferChip Real) (createdOn : Instant)

namespace TimelineItem

variable {Real : Type}

def createdOn : TimelineItem Real → Instant
  | message item => item.createdOn
  | internalNote item => item.createdOn
  | transferChip _ createdOn => createdOn

def message? : TimelineItem Real → Option MessageItem
  | message item => some item
  | _ => none

def note? : TimelineItem Real → Option NoteItem
  | internalNote item => some item
  | _ => none

def chip? : TimelineItem Real → Option (TransferChip Real)
  | transferChip chip _ => some chip
  | _ => none

end TimelineItem

/-! ## Messages and notes -/

/-- `value or other` -/
def orElse (value : String) (other : Option String) : Option String :=
  if value = "" then other else some value

section Items

variable {Real : Type} (floats : FloatFormat Real)

def detectSenderType (message : RoomMessage Real) : SenderType :=
  if message.userId.isSome && message.contactId.isNone then .agent
  else if message.contactId.isSome && message.userId.isNone then .contact
  else .bot

def resolveSenderName (message : RoomMessage Real) : Option String :=
  match message.userId, message.contactId with
  | some userId, _ =>
      match message.user with
      | some user => orElse user.firstName (some user.email)
      | none => some userId
  | none, some _ => message.contact.bind fun contact => orElse contact.name contact.externalId
  | none, none => some "bot"

def buildMediaEntry (media : ExportMedia) : MediaEntry where
  contentType := media.contentType
  url := orElse (media.mediaUrl.getD "") (media.mediaFile.getD none)
  dataUri := none

def messageItem (message : RoomMessage Real) : MessageItem where
  senderType := detectSenderType message
  senderName := resolveSenderName message
  createdOn := message.createdOn
  text := message.text floats
  medias := message.medias.map buildMediaEntry

def buildMessageItems (room : ExportedRoom Real) : List (TimelineItem Real) :=
  (room.messages.filter fun message => !isFeedbackMessage floats message).map fun message =>
    .message (messageItem floats message)

def noteItem (note : RoomNote) : NoteItem where
  senderName := note.user.bind fun user => orElse user.firstName (some user.email)
  createdOn := note.createdOn
  text := note.text
  anchoredMessageUuid := note.messageId

def buildNoteItems (room : ExportedRoom Real) : List (TimelineItem Real) :=
  room.notes.map fun note => .internalNote (noteItem note)

/-! ## Transfers -/

/-- The nearest integer to a quotient, the even one of two. -/
def divideAndRound (dividend divisor : Nat) : Nat :=
  if divisor < 2 * (dividend % divisor) ∨
      2 * (dividend % divisor) = divisor ∧ dividend / divisor % 2 = 1 then
    dividend / divisor + 1
  else dividend / divisor

/-- Microseconds. -/
def second : Nat := 1000000

def distributeChipTimestamps (room : ExportedRoom Real) (count : Nat) : List Instant :=
  match room.endedAt.filter (room.createdOn < ·) with
  | some endedAt =>
      (List.range count).map fun index =>
        room.createdOn + divideAndRound ((endedAt - room.createdOn) * (index + 1)) (count + 1)
  | none => (List.range count).map fun index => room.createdOn + second * index

def transferChip (entry : Fields Real) : TransferChip Real where
  kind := Fields.get entry (text "action")
  fromParty := Fields.get entry (text "from")
  toParty := Fields.get entry (text "to")
  byParty := Fields.get entry (text "requested_by")

def buildTransferChipItems (room : ExportedRoom Real) : List (TimelineItem Real) :=
  let history := room.fullTransferHistory.getD []
  (history.zip (distributeChipTimestamps room history.length)).map fun (entry, createdOn) =>
    .transferChip (transferChip entry) createdOn

/-- `_build_timeline`, which ends with a stable sort. -/
def buildTimeline (room : ExportedRoom Real) : List (TimelineItem Real) :=
  Keyset.orderBy TimelineItem.createdOn
    (buildMessageItems floats room ++ buildNoteItems room ++ buildTransferChipItems room)

end Items

/-! ## What the timeline shows -/

/-- Whether `create_room_feedback_message` has written the message. -/
def RoomMessage.isFeedback {Real : Type} (message : RoomMessage Real) : Bool :=
  match message.body with
  | .feedback _ _ => true
  | .written _ => false

section Timeline

variable {Real : Type} (floats : FloatFormat Real)

/-- A timeline in order, with each note, each transfer in the order of the history, and each
message that is not the feedback of a transfer. -/
structure Faithful (room : ExportedRoom Real) (timeline : List (TimelineItem Real)) : Prop where
  ordered : timeline.Pairwise fun earlier later => earlier.createdOn ≤ later.createdOn
  notes : (timeline.filterMap TimelineItem.note?).Perm (room.notes.map noteItem)
  transfers : timeline.filterMap TimelineItem.chip? =
    (room.fullTransferHistory.getD []).map transferChip
  messages : (timeline.filterMap TimelineItem.message?).Perm
    ((room.messages.filter fun message => !message.isFeedback).map (messageItem floats))

theorem divideAndRound_mono {left right : Nat} (atMost : left ≤ right) (divisor : Nat) :
    divideAndRound left divisor ≤ divideAndRound right divisor := by
  rcases Nat.eq_zero_or_pos divisor with rfl | positive
  · simp only [divideAndRound, Nat.div_zero, Nat.mod_zero]
    split <;> split <;> omega
  · have quotients : left / divisor ≤ right / divisor := Nat.div_le_div_right atMost
    rcases Nat.lt_or_eq_of_le quotients with smaller | same
    · rw [divideAndRound, divideAndRound]
      split <;> split <;> omega
    · have leftParts := Nat.div_add_mod left divisor
      have rightParts := Nat.div_add_mod right divisor
      rw [same] at leftParts
      have remainders : left % divisor ≤ right % divisor := by omega
      rw [divideAndRound, divideAndRound, same]
      split <;> split <;> omega

theorem pairwise_map_range {value : Nat → Nat} (mono : ∀ left right, left ≤ right →
    value left ≤ value right) (count : Nat) :
    ((List.range count).map value).Pairwise (· ≤ ·) := by
  rw [List.pairwise_map]
  exact List.pairwise_lt_range.imp fun before => mono _ _ (Nat.le_of_lt before)

theorem pairwise_distributeChipTimestamps (room : ExportedRoom Real) (count : Nat) :
    (distributeChipTimestamps room count).Pairwise (· ≤ ·) := by
  rw [distributeChipTimestamps]
  split
  · next endedAt _ =>
      apply pairwise_map_range
      intro left right atMost
      apply Nat.add_le_add_left
      apply divideAndRound_mono
      exact Nat.mul_le_mul_left _ (Nat.succ_le_succ atMost)
  · apply pairwise_map_range
    exact fun left right atMost => Nat.add_le_add_left (Nat.mul_le_mul_left second atMost) _

theorem length_distributeChipTimestamps (room : ExportedRoom Real) (count : Nat) :
    (distributeChipTimestamps room count).length = count := by
  rw [distributeChipTimestamps]
  split <;> simp

theorem pairwise_buildTransferChipItems (room : ExportedRoom Real) :
    (buildTransferChipItems room).Pairwise fun earlier later =>
      earlier.createdOn ≤ later.createdOn := by
  have length := length_distributeChipTimestamps room (room.fullTransferHistory.getD []).length
  have timestamps := pairwise_distributeChipTimestamps room
    (room.fullTransferHistory.getD []).length
  have seconds := List.map_snd_zip (Nat.le_of_eq length)
  rw [← seconds, List.pairwise_map] at timestamps
  rw [buildTransferChipItems, List.pairwise_map]
  exact timestamps

theorem chips_buildTransferChipItems (room : ExportedRoom Real) :
    (buildTransferChipItems room).filterMap TimelineItem.chip? =
      (room.fullTransferHistory.getD []).map transferChip := by
  have length := length_distributeChipTimestamps room (room.fullTransferHistory.getD []).length
  have entries := List.map_fst_zip (Nat.le_of_eq length.symm)
  calc
    _ = (((room.fullTransferHistory.getD []).zip
        (distributeChipTimestamps room (room.fullTransferHistory.getD []).length)).map
          Prod.fst).map transferChip := by
      rw [buildTransferChipItems, List.filterMap_map, List.map_map, ← List.filterMap_eq_map]
      rfl
    _ = _ := by rw [entries]

theorem chips_other (room : ExportedRoom Real) :
    (buildMessageItems floats room ++ buildNoteItems room).filter (fun item => item.chip?.isSome) =
      [] := by
  rw [List.filter_eq_nil_iff]
  intro item member
  rcases List.mem_append.mp member with isMessage | isNote
  · rcases List.mem_map.mp isMessage with ⟨_, _, rfl⟩
    exact Bool.false_ne_true
  · rcases List.mem_map.mp isNote with ⟨_, _, rfl⟩
    exact Bool.false_ne_true

theorem chips_all (room : ExportedRoom Real) :
    (buildTransferChipItems room).filter (fun item => item.chip?.isSome) =
      buildTransferChipItems room := by
  rw [List.filter_eq_self]
  intro item member
  rcases List.mem_map.mp member with ⟨_, _, rfl⟩
  rfl

theorem filterMap_filter_isSome {Item : Type u} {Part : Type v} (part : Item → Option Part)
    (items : List Item) :
    (items.filter fun item => (part item).isSome).filterMap part = items.filterMap part := by
  rw [List.filterMap_filter]
  congr 1
  funext item
  cases part item <;> rfl

theorem chips_buildTimeline (room : ExportedRoom Real) :
    (buildTimeline floats room).filterMap TimelineItem.chip? =
      (room.fullTransferHistory.getD []).map transferChip := by
  have chips : (buildMessageItems floats room ++ buildNoteItems room ++
      buildTransferChipItems room).filter (fun item => item.chip?.isSome) =
        buildTransferChipItems room := by
    rw [List.filter_append, chips_other, chips_all, List.nil_append]
  rw [← filterMap_filter_isSome, buildTimeline, Keyset.filter_orderBy_of_ordered, chips,
    chips_buildTransferChipItems]
  rw [chips]
  exact pairwise_buildTransferChipItems room

theorem notes_buildTimeline (room : ExportedRoom Real) :
    ((buildTimeline floats room).filterMap TimelineItem.note?).Perm
      (room.notes.map noteItem) := by
  have parts : (buildMessageItems floats room ++ buildNoteItems room ++
      buildTransferChipItems room).filterMap TimelineItem.note? = room.notes.map noteItem := by
    simp [buildMessageItems, buildNoteItems, buildTransferChipItems, List.filterMap_append,
      List.filterMap_map, Function.comp_def, TimelineItem.note?]
  exact parts ▸ (Keyset.orderBy_perm _ _).filterMap _

theorem messages_buildTimeline (room : ExportedRoom Real) :
    ((buildTimeline floats room).filterMap TimelineItem.message?).Perm
      ((room.messages.filter fun message => !isFeedbackMessage floats message).map
        (messageItem floats)) := by
  have parts : (buildMessageItems floats room ++ buildNoteItems room ++
      buildTransferChipItems room).filterMap TimelineItem.message? =
        (room.messages.filter fun message => !isFeedbackMessage floats message).map
          (messageItem floats) := by
    simp [buildMessageItems, buildNoteItems, buildTransferChipItems, List.filterMap_append,
      List.filterMap_map, Function.comp_def, TimelineItem.message?]
  exact parts ▸ (Keyset.orderBy_perm _ _).filterMap _

theorem prefix_rdropWhile {front value : Text} (begins : front <+: value)
    (noSpace : ∀ unit ∈ front, isWhitespace unit = false) :
    front <+: value.rdropWhile isWhitespace := by
  rcases begins with ⟨rest, rfl⟩
  induction rest using List.reverseRecOn with
  | nil =>
      rw [List.append_nil, List.rdropWhile_eq_self_iff.mpr]
      intro nonempty
      simp [noSpace _ (List.getLast_mem nonempty)]
  | append_singleton rest unit induction =>
      rw [← List.append_assoc]
      by_cases space : isWhitespace unit = true
      · rw [List.rdropWhile_concat_pos _ _ _ space]
        exact induction
      · rw [List.rdropWhile_concat_neg _ _ _ space, List.append_assoc]
        exact List.prefix_append front _

theorem prefix_strip {first : CodeUnit} {others value : Text}
    (begins : first :: others <+: value)
    (noSpace : ∀ unit ∈ first :: others, isWhitespace unit = false) :
    first :: others <+: strip value := by
  rw [strip]
  apply prefix_rdropWhile _ noSpace
  rcases begins with ⟨rest, rfl⟩
  rw [List.cons_append, List.dropWhile_cons_of_neg (by simp [noSpace])]
  exact List.prefix_append (first :: others) rest

theorem isFeedbackText_feedbackText (method : Text) (content : Fields Real) :
    isFeedbackText (feedbackText floats method content) = true := by
  have begins : text "\x7b\"method\"" <+: feedbackText floats method content := by
    have key : 123 :: quote (text "method") = text "\x7b\"method\"" := by decide
    rw [feedbackText, dumps, if_neg (by decide), write, ← key]
    exact ⟨58 :: 32 :: (write floats none 1 (.string method) ++
      writeFields floats none 1 [(text "content", .object content)]), rfl⟩
  have spelled : text "\x7b\"method\"" = [123, 34, 109, 101, 116, 104, 111, 100, 34] := by
    decide
  rw [isFeedbackText, Bool.or_eq_true, List.isPrefixOf_iff_prefix]
  rw [spelled] at begins ⊢
  exact .inl (prefix_strip begins (by simp [isWhitespace]))

theorem isFeedbackMessage_of_isFeedback {message : RoomMessage Real}
    (feedback : message.isFeedback = true) : isFeedbackMessage floats message = true := by
  rw [RoomMessage.isFeedback] at feedback
  rw [isFeedbackMessage, RoomMessage.text]
  split at feedback
  · next method content _ => exact isFeedbackText_feedbackText floats method content
  · cases feedback

/-- The timeline shows what it should exactly when no other message looks like the feedback of a
transfer. -/
theorem faithful_buildTimeline_iff (room : ExportedRoom Real) :
    Faithful floats room (buildTimeline floats room) ↔
      ∀ message ∈ room.messages, message.isFeedback = false →
        isFeedbackText ((message.text floats).getD []) = false := by
  have shown := messages_buildTimeline floats room
  have kept : (room.messages.filter fun message => !isFeedbackMessage floats message) =
      (room.messages.filter fun message => !message.isFeedback).filter
        fun message => !isFeedbackMessage floats message := by
    rw [List.filter_filter]
    apply List.filter_congr
    intro message _
    by_cases feedback : message.isFeedback = true
    · simp [feedback, isFeedbackMessage_of_isFeedback floats feedback]
    · simp [feedback]
  constructor
  · intro faithful message member notFeedback
    have lengths := (shown.symm.trans faithful.messages).length_eq
    rw [List.length_map, List.length_map, kept, List.length_filter_eq_length_iff] at lengths
    simpa [isFeedbackMessage] using
      lengths message (List.mem_filter.mpr ⟨member, by simp [notFeedback]⟩)
  · intro others
    refine ⟨Keyset.orderBy_ordered _ _, notes_buildTimeline floats room,
      chips_buildTimeline floats room, ?_⟩
    rwa [kept, List.filter_eq_self.mpr] at shown
    intro message member
    rcases List.mem_filter.mp member with ⟨listed, notFeedback⟩
    simpa [isFeedbackMessage] using others message listed (by simpa using notFeedback)

end Timeline

def roomAboutJson : ExportedRoom FloatLiteral where
  createdOn := 0
  endedAt := none
  fullTransferHistory := none
  messages := [⟨none, none, some 5, some ⟨"Ana", none⟩, 1,
    .written (some (text " \x7b\"method\" is what I have to send?")), []⟩]
  notes := []

theorem contact_message_is_not_exported :
    ¬Faithful .literal roomAboutJson (buildTimeline .literal roomAboutJson) := by
  intro faithful
  have shown : (buildTimeline .literal roomAboutJson).filterMap TimelineItem.message? = [] := by
    decide +kernel
  have lengths := faithful.messages.length_eq
  rw [shown] at lengths
  cases lengths

end ChatsEngine.Rooms.RoomExport
