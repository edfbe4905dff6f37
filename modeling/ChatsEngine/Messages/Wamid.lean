import ChatsEngine.Foundation.Base64
import ChatsEngine.Foundation.Search

/-! # The core of a WhatsApp message id

The bytes that a marker announces at the end of the payload of an id. The markers are looked for
in a fixed order, each one in the whole payload. -/

namespace ChatsEngine.Messages.Wamid

open Search

/-! ## Extraction -/

def wamidPrefix : List Char := "wamid.".toList

def messageMarker : List UInt8 := [0x12, 0x18, 0x16]

def shortMarker : List UInt8 := [0x11, 0x18, 0x12]

def replyMarker : List UInt8 := [0x12, 0x18, 0x20]

def wamidTrailerMarkers : List (List UInt8) := [messageMarker, shortMarker, replyMarker]

def hexDigit (value : Nat) : Char :=
  if value < 10 then Char.ofNat ('0'.toNat + value) else Char.ofNat ('A'.toNat + (value - 10))

/-- `hex().upper()` -/
def hexUpper : List UInt8 → List Char
  | [] => []
  | byte :: bytes => hexDigit (byte.toNat / 16) :: hexDigit (byte.toNat % 16) :: hexUpper bytes

/-- The loop over the markers. -/
def coreAfter (raw : List UInt8) : List (List UInt8) → Option (List Char)
  | [] => none
  | marker :: markers =>
      match rfind marker raw with
      | some index =>
          let coreBytes := raw.drop (index + marker.length)
          if coreBytes ≠ [] then some (hexUpper coreBytes) else coreAfter raw markers
      | none => coreAfter raw markers

/-- Nothing stands for any value that is not a string. -/
def extractWamidCore (wamid : Option (List Char)) : Option (List Char) :=
  match wamid with
  | none => none
  | some wamid =>
      if wamidPrefix <+: wamid then
        let encoded := wamid.drop wamidPrefix.length
        match Base64.decode (encoded ++ Base64.padding encoded) with
        | none => none
        | some raw => coreAfter raw wamidTrailerMarkers
      else none

/-! ## Ids of messages -/

def texts (payload : List UInt8) : List (List Char) :=
  [wamidPrefix ++ Base64.encode payload,
    wamidPrefix ++ (Base64.encode payload ++ Base64.padding (Base64.encode payload))]

/-- Nothing in the payload is taken for a marker that is looked for earlier. -/
def TellsMarker (envelope marker core : List UInt8) : Prop :=
  marker = messageMarker ∨
    marker = shortMarker ∧
      (core = [0x18, 0x16] ∨ ¬messageMarker <:+: envelope ∧ ¬[0x18, 0x16] <+: core) ∨
    marker = replyMarker ∧ ¬messageMarker <:+: envelope ∧ ¬shortMarker <:+: envelope ++ [0x12]

instance (envelope marker core : List UInt8) : Decidable (TellsMarker envelope marker core) :=
  inferInstanceAs (Decidable (_ ∨ _ ∧ (_ ∨ ¬_ <:+: _ ∧ ¬_ <+: _) ∨ _ ∧ ¬_ <:+: _ ∧ ¬_ <:+: _))

variable {envelope marker core raw : List UInt8}
  {wamid : List Char}

theorem length_hexUpper (bytes : List UInt8) : (hexUpper bytes).length = 2 * bytes.length := by
  induction bytes with
  | nil => rfl
  | cons byte bytes induction =>
      rw [hexUpper, List.length_cons, List.length_cons, List.length_cons, induction]
      omega

theorem extractWamidCore_of_mem_texts (listed : wamid ∈ texts raw) :
    extractWamidCore (some wamid) = coreAfter raw wamidTrailerMarkers := by
  rw [texts, List.mem_cons, List.mem_singleton] at listed
  rcases listed with rfl | rfl
  · simp only [extractWamidCore, List.prefix_append, if_true, List.drop_left,
      Base64.decode_encode]
  · simp only [extractWamidCore, List.prefix_append, if_true, List.drop_left,
      Base64.padding_append_padding, List.append_nil, Base64.decode_encode]

/-! ## The order of the markers -/

/-- What a marker announces has the length of the core only if the marker is where the core's
own one is. -/
theorem hexUpper_ne_of_other {other : List UInt8} {index : Nat}
    (sameLength : other.length = marker.length) (different : other ≠ marker)
    (nonempty : core ≠ []) (found : rfind other (envelope ++ (marker ++ core)) = some index) :
    hexUpper ((envelope ++ (marker ++ core)).drop (index + other.length)) ≠ hexUpper core := by
  intro same
  have begins := isPrefix_of_rfind found
  have lengths := congrArg List.length same
  have positive := List.length_pos_of_ne_nil nonempty
  simp only [length_hexUpper, List.length_drop, List.length_append] at lengths
  have isIndex : index = envelope.length := by omega
  rw [isIndex, List.drop_left] at begins
  apply different
  exact (List.prefix_of_prefix_length_le begins (List.prefix_append _ _)
    (Nat.le_of_eq sameLength)).eq_of_length sameLength

theorem coreAfter_eq_iff (envelope : List UInt8) (earlier markers : List (List UInt8))
    (nonempty : core ≠ []) (hasMarker : marker ≠ [])
    (last : ¬marker <:+: (marker ++ core).tail)
    (others : ∀ other ∈ earlier, other.length = marker.length ∧ other ≠ marker) :
    coreAfter (envelope ++ (marker ++ core)) (earlier ++ marker :: markers) =
        some (hexUpper core) ↔
      ∀ other ∈ earlier, other <:+: envelope ++ (marker ++ core) →
        other <:+ envelope ++ (marker ++ core) := by
  induction earlier with
  | nil =>
      have found : rfind marker (envelope ++ (marker ++ core)) = some envelope.length :=
        rfind_append envelope (List.prefix_append _ _) (by simp [hasMarker]) last
      have isCore : (envelope ++ (marker ++ core)).drop (envelope.length + marker.length) =
          core := by
        rw [← List.append_assoc, ← List.length_append, List.drop_left]
      simp [coreAfter, found, isCore, nonempty]
  | cons other earlier induction =>
      rw [List.forall_mem_cons] at others
      have rest := induction others.2
      have otherNonempty : other ≠ [] := by
        intro isNil
        rw [isNil] at others
        exact hasMarker (List.eq_nil_of_length_eq_zero others.1.1.symm)
      rw [List.forall_mem_cons, ← rest, List.cons_append, coreAfter]
      cases found : rfind other (envelope ++ (marker ++ core)) with
      | none =>
          have absent := rfind_eq_none_iff.mp found
          simp only [absent, false_implies, true_and]
      | some index =>
          have occurs : other <:+: envelope ++ (marker ++ core) := by
            by_contra absent
            rw [rfind_eq_none_iff.mpr absent] at found
            cases found
          by_cases ends : (envelope ++ (marker ++ core)).drop (index + other.length) = []
          · have isEnd : other <:+ envelope ++ (marker ++ core) := by
              rcases isPrefix_of_rfind found with ⟨after, isAfter⟩
              have isDrop : ((envelope ++ (marker ++ core)).drop index).drop other.length =
                  after := by rw [← isAfter, List.drop_left]
              rw [List.drop_drop, ends] at isDrop
              rw [← isDrop, List.append_nil] at isAfter
              rw [isAfter]
              exact List.drop_suffix _ _
            simp only [ends, ne_eq, not_true_eq_false, if_false, isEnd, implies_true, true_and]
          · have notEnd : ¬other <:+ envelope ++ (marker ++ core) := by
              intro isEnd
              have isIndex := rfind_of_isSuffix otherNonempty isEnd
              cases found.symm.trans isIndex
              apply ends
              rw [Nat.sub_add_cancel isEnd.length_le, List.drop_length]
            have wrong := hexUpper_ne_of_other others.1.1 others.1.2 nonempty found
            simp only [ends, ne_eq, not_false_eq_true, if_true, Option.some.injEq, wrong, occurs,
              notEnd, imp_false, not_true_eq_false, false_and]

/-! ## Where the markers occur -/

section Core

variable (clean : 0x11 ∉ core ∧ 0x12 ∉ core)

include clean

theorem not_messageMarker_infix_core : ¬messageMarker <:+: core :=
  fun occurs => clean.2 (occurs.subset (by decide))

theorem not_shortMarker_infix_core : ¬shortMarker <:+: core :=
  fun occurs => clean.1 (occurs.subset (by decide))

theorem messageMarker_infix_short_iff :
    messageMarker <:+: envelope ++ (shortMarker ++ core) ↔
      messageMarker <:+: envelope ∨ [0x18, 0x16] <+: core := by
  have absent := not_messageMarker_infix_core clean
  rw [messageMarker] at absent
  simp [messageMarker, shortMarker, three_infix_append_iff, List.infix_cons_iff,
    List.cons_prefix_cons, absent]

theorem messageMarker_infix_reply_iff :
    messageMarker <:+: envelope ++ (replyMarker ++ core) ↔ messageMarker <:+: envelope := by
  have absent := not_messageMarker_infix_core clean
  rw [messageMarker] at absent
  simp [messageMarker, replyMarker, three_infix_append_iff, List.infix_cons_iff,
    List.cons_prefix_cons, absent]

/-- The envelope and the first byte of the marker may form another marker. -/
theorem shortMarker_infix_reply_iff :
    shortMarker <:+: envelope ++ (replyMarker ++ core) ↔
      shortMarker <:+: envelope ++ [0x12] := by
  have absent := not_shortMarker_infix_core clean
  rw [shortMarker] at absent
  simp [shortMarker, replyMarker, three_infix_append_iff, List.infix_cons_iff,
    List.cons_prefix_cons, absent]

end Core

theorem isSuffix_iff {other : List UInt8} {first second third : UInt8} (nonempty : core ≠ [])
    (three : other.length = 3) (absent : ¬other <:+: core)
    (notSecond : other.head? ≠ some second) :
    other <:+ envelope ++ ([first, second, third] ++ core) ↔ other = third :: core := by
  have positive := List.length_pos_of_ne_nil nonempty
  constructor
  · intro ends
    have short : other.length ≤ ([first, second, third] ++ core).length := by
      rw [three, List.length_append]
      exact Nat.le_add_right _ _
    have inTail := List.suffix_of_suffix_length_le ends (List.suffix_append _ _) short
    simp only [List.cons_append, List.nil_append, List.suffix_cons_iff] at inTail
    rcases inTail with whole | isSecond | isThird | inCore
    · have lengths := congrArg List.length whole
      simp only [List.length_cons] at lengths
      omega
    · exact absurd (congrArg List.head? isSecond) notSecond
    · exact isThird
    · exact absurd inCore.isInfix absent
  · intro same
    subst same
    exact ⟨envelope ++ [first, second], by simp⟩

theorem not_infix_tail {marker core : List UInt8} (isMarker : marker ∈ wamidTrailerMarkers)
    (absent : ¬marker <:+: core) : ¬marker <:+: (marker ++ core).tail := by
  simp only [wamidTrailerMarkers, List.mem_cons, List.not_mem_nil, or_false] at isMarker
  rcases isMarker with rfl | rfl | rfl
  · rw [messageMarker] at absent ⊢
    simp [List.infix_cons_iff, List.cons_prefix_cons, absent]
  · rw [shortMarker] at absent ⊢
    simp [List.infix_cons_iff, List.cons_prefix_cons, absent]
  · rw [replyMarker] at absent ⊢
    simp [List.infix_cons_iff, List.cons_prefix_cons, absent]

/-- The core of an id is extracted, whatever its envelope and with or without padding, exactly
when nothing else in the payload is taken for a marker that is looked for earlier. -/
theorem wamid_core_iff (envelope marker core : List UInt8) (wamid : List Char)
    (isMarker : marker ∈ wamidTrailerMarkers) (nonempty : core ≠ [])
    (clean : 0x11 ∉ core ∧ 0x12 ∉ core) (isText : wamid ∈ texts (envelope ++ (marker ++ core))) :
    extractWamidCore (some wamid) = some (hexUpper core) ↔
      TellsMarker envelope marker core := by
  have noMessage := not_messageMarker_infix_core clean
  have noShort := not_shortMarker_infix_core clean
  rw [extractWamidCore_of_mem_texts isText]
  simp only [wamidTrailerMarkers, List.mem_cons, List.not_mem_nil, or_false] at isMarker
  rcases isMarker with rfl | rfl | rfl
  · have extracted := coreAfter_eq_iff envelope [] [shortMarker, replyMarker] nonempty
      (by decide) (not_infix_tail (by decide) noMessage) (by simp)
    simp only [List.nil_append] at extracted
    rw [wamidTrailerMarkers, extracted]
    simp [TellsMarker]
  · have extracted := coreAfter_eq_iff envelope [messageMarker] [replyMarker] nonempty (by decide)
      (not_infix_tail (by decide) noShort) (by decide)
    have ends : messageMarker <:+ envelope ++ (shortMarker ++ core) ↔ core = [0x18, 0x16] := by
      rw [shortMarker, isSuffix_iff nonempty rfl noMessage (by decide)]
      simp [messageMarker, eq_comm]
    simp only [List.cons_append, List.nil_append] at extracted
    rw [wamidTrailerMarkers, extracted, List.forall_mem_singleton,
      messageMarker_infix_short_iff clean, ends, TellsMarker]
    have different : shortMarker ≠ messageMarker ∧ shortMarker ≠ replyMarker := by decide
    simp only [different.1, different.2]
    tauto
  · have noReply : ¬replyMarker <:+: core := fun occurs => clean.2 (occurs.subset (by decide))
    have extracted := coreAfter_eq_iff envelope [messageMarker, shortMarker] [] nonempty
      (by decide) (not_infix_tail (by decide) noReply) (by decide)
    have messageEnds : ¬messageMarker <:+ envelope ++ (replyMarker ++ core) := by
      rw [replyMarker, isSuffix_iff nonempty rfl noMessage (by decide)]
      simp [messageMarker]
    have shortEnds : ¬shortMarker <:+ envelope ++ (replyMarker ++ core) := by
      rw [replyMarker, isSuffix_iff nonempty rfl noShort (by decide)]
      simp [shortMarker]
    simp only [List.cons_append, List.nil_append] at extracted
    rw [wamidTrailerMarkers, extracted, List.forall_mem_cons, List.forall_mem_singleton,
      messageMarker_infix_reply_iff clean, shortMarker_infix_reply_iff clean, TellsMarker]
    have different : replyMarker ≠ messageMarker ∧ replyMarker ≠ shortMarker := by decide
    simp only [different.1, different.2, messageEnds, shortEnds]
    tauto

theorem unpadded_core_is_extracted :
    extractWamidCore (some "wamid.HBIYFjM".toList) = some "33".toList :=
  (wamid_core_iff [0x1c] messageMarker [0x33] "wamid.HBIYFjM".toList (by decide) (by decide)
    (by decide) (by decide)).mpr (by decide)

/-- The envelope has the bytes of the marker that is looked for first. -/
theorem envelope_is_taken_for_marker :
    ¬∀ (envelope marker core : List UInt8) (wamid : List Char), marker ∈ wamidTrailerMarkers →
      core ≠ [] → 0x11 ∉ core ∧ 0x12 ∉ core → wamid ∈ texts (envelope ++ (marker ++ core)) →
      extractWamidCore (some wamid) = some (hexUpper core) := by
  intro extracts
  have extracted := extracts messageMarker shortMarker [0x33]
    (wamidPrefix ++ Base64.encode (messageMarker ++ (shortMarker ++ [0x33]))) (by decide)
    (by decide) (by decide) List.mem_cons_self
  rw [extractWamidCore_of_mem_texts List.mem_cons_self] at extracted
  revert extracted
  decide

end ChatsEngine.Messages.Wamid
