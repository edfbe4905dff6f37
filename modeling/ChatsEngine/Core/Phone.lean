import Mathlib.Data.List.Infix
import Mathlib.Tactic.Common

/-! # Phone numbers in URNs

The search for Brazilian mobile numbers, which are written with or without the country code and
with or without the ninth digit. -/

namespace ChatsEngine.Phone

/-! ## The digits of a term -/

/-- The zeros of the scripts that have decimal digits. -/
def decimalZeros : List Nat :=
  [0x30, 0x660, 0x6f0, 0x7c0, 0x966, 0x9e6, 0xa66, 0xae6, 0xb66, 0xbe6, 0xc66, 0xce6, 0xd66,
    0xde6, 0xe50, 0xed0, 0xf20, 0x1040, 0x1090, 0x17e0, 0x1810, 0x1946, 0x19d0, 0x1a80, 0x1a90,
    0x1b50, 0x1bb0, 0x1c40, 0x1c50, 0xa620, 0xa8d0, 0xa900, 0xa9d0, 0xa9f0, 0xaa50, 0xabf0,
    0xff10, 0x104a0, 0x10d30, 0x11066, 0x110f0, 0x11136, 0x111d0, 0x112f0, 0x11450, 0x114d0,
    0x11650, 0x116c0, 0x11730, 0x118e0, 0x11950, 0x11c50, 0x11d50, 0x11da0, 0x16a60, 0x16ac0,
    0x16b50, 0x1d7ce, 0x1d7d8, 0x1d7e2, 0x1d7ec, 0x1d7f6, 0x1e140, 0x1e2f0, 0x1e950, 0x1fbf0]

/-- What `\d` matches. -/
def isDecimal (char : Char) : Bool :=
  decimalZeros.any fun first => first ≤ char.toNat ∧ char.toNat < first + 10

def brPhoneMinDigits : Nat := 8

def brPhoneMaxDigits : Nat := 13

def brCountryCode : List Char := ['5', '5']

def whatsappScheme : List Char := ['w', 'h', 'a', 't', 's', 'a', 'p', 'p', ':']

/-- The area code, or nothing, and the last eight digits. -/
def cutDigits (digits : List Char) : Option (List Char × List Char) :=
  if digits.length ∉ [8, 9, 10, 11] then none
  else
    let base8 := digits.drop (digits.length - 8)
    let rest := digits.take (digits.length - 8)
    some (if 2 ≤ rest.length then rest.take 2 else [], base8)

def parseBrPhoneDigits (term : List Char) : Option (List Char × List Char) :=
  let digits := term.filter isDecimal
  if digits.length < brPhoneMinDigits ∨ brPhoneMaxDigits < digits.length then none
  else if brCountryCode.isPrefixOf digits ∧ digits.length ∈ [12, 13] then
    cutDigits (digits.drop 2)
  else if digits.length ∈ [12, 13] then none
  else cutDigits digits

/-! ## The filter -/

inductive Q
  | startswith (field : String) (value : List Char)
  | endswith (field : String) (value : List Char)
  | or (left right : Q)
  | and (left right : Q)

/-- Whether a row is selected. Nothing holds of a null. -/
def Q.Accepts (values : String → Option (List Char)) : Q → Prop
  | .startswith field value => ∃ text ∈ values field, value <+: text
  | .endswith field value => ∃ text ∈ values field, value <:+ text
  | .or left right => left.Accepts values ∨ right.Accepts values
  | .and left right => left.Accepts values ∧ right.Accepts values

def withoutNine (ddd base8 : List Char) : List Char :=
  whatsappScheme ++ brCountryCode ++ ddd ++ base8

def withNine (ddd base8 : List Char) : List Char :=
  whatsappScheme ++ brCountryCode ++ ddd ++ '9' :: base8

def phoneUrnQ (term : List Char) (field : String) : Option Q :=
  match parseBrPhoneDigits term with
  | none => none
  | some (ddd, base8) =>
      if ddd ≠ [] then
        some (.or (.startswith field (withoutNine ddd base8))
          (.startswith field (withNine ddd base8)))
      else
        some (.and (.startswith field (whatsappScheme ++ brCountryCode))
          (.endswith field base8))

/-! ## What a term denotes -/

def writings (ddd base8 : List Char) : List (List Char) :=
  [ddd ++ base8, ddd ++ '9' :: base8, brCountryCode ++ ddd ++ base8,
    brCountryCode ++ ddd ++ '9' :: base8]

/-- The digits of the term, whatever separates them, are those of the number. -/
structure Denotes (term ddd base8 : List Char) : Prop where
  isDdd : ddd.length = 2
  isBase8 : base8.length = 8
  written : term.filter isDecimal ∈ writings ddd base8

instance (term ddd base8 : List Char) : Decidable (Denotes term ddd base8) :=
  decidable_of_iff (ddd.length = 2 ∧ base8.length = 8 ∧
      term.filter isDecimal ∈ writings ddd base8)
    ⟨fun ⟨isDdd, isBase8, written⟩ => ⟨isDdd, isBase8, written⟩,
      fun ⟨isDdd, isBase8, written⟩ => ⟨isDdd, isBase8, written⟩⟩

/-- The URN goes on where a spelling of the number has ended. Only the number of nines goes on
from one of its spellings to the other one. -/
def GoesOn (urn ddd base8 : List Char) : Prop :=
  (withoutNine ddd base8 <+: urn ∧ urn.length ≠ 21 ∧
      ¬(base8 = List.replicate 8 '9' ∧ urn = withNine ddd base8)) ∨
    withNine ddd base8 <+: urn ∧ urn.length ≠ 22

instance (urn ddd base8 : List Char) : Decidable (GoesOn urn ddd base8) :=
  inferInstanceAs (Decidable (_ ∨ _))

variable {term ddd base8 urn : List Char}

/-! ## The cut by length -/

theorem cutDigits_append (isDdd : ddd.length = 2) (isBase8 : base8.length = 8) :
    cutDigits (ddd ++ base8) = some (ddd, base8) := by
  simp [cutDigits, isDdd, isBase8]

theorem cutDigits_append_nine (isDdd : ddd.length = 2) (isBase8 : base8.length = 8) :
    cutDigits (ddd ++ '9' :: base8) = some (ddd, base8) := by
  rcases List.length_eq_two.mp isDdd with ⟨first, second, rfl⟩
  simp [cutDigits, isBase8]

theorem parseBrPhoneDigits_of_denotes (denotes : Denotes term ddd base8) :
    parseBrPhoneDigits term = some (ddd, base8) := by
  rcases denotes with ⟨isDdd, isBase8, written⟩
  simp only [writings, List.mem_cons, List.not_mem_nil, or_false] at written
  rcases written with isDigits | isDigits | isDigits | isDigits
  · simp [parseBrPhoneDigits, isDigits, brPhoneMinDigits, brPhoneMaxDigits, isDdd, isBase8,
      cutDigits_append]
  · simp [parseBrPhoneDigits, isDigits, brPhoneMinDigits, brPhoneMaxDigits, isDdd, isBase8,
      cutDigits_append_nine]
  · simp [parseBrPhoneDigits, isDigits, brPhoneMinDigits, brPhoneMaxDigits, brCountryCode, isDdd,
      isBase8, cutDigits_append]
  · simp [parseBrPhoneDigits, isDigits, brPhoneMinDigits, brPhoneMaxDigits, brCountryCode, isDdd,
      isBase8, cutDigits_append_nine]

theorem phoneUrnQ_of_denotes (field : String) (denotes : Denotes term ddd base8) :
    phoneUrnQ term field = some (.or (.startswith field (withoutNine ddd base8))
      (.startswith field (withNine ddd base8))) := by
  have hasDdd : ddd ≠ [] := List.ne_nil_of_length_pos (by rw [denotes.isDdd]; decide)
  rw [phoneUrnQ, parseBrPhoneDigits_of_denotes denotes]
  exact if_pos hasDdd

/-! ## The two spellings -/

theorem eq_replicate_of_isPrefix_cons {char : Char} {text : List Char}
    (begins : text <+: char :: text) : text = List.replicate text.length char := by
  induction text with
  | nil => rfl
  | cons first text induction =>
      rw [List.cons_prefix_cons] at begins
      rcases begins with ⟨rfl, begins⟩
      rw [List.length_cons, List.replicate_succ, ← induction begins]

section Spellings

variable (isDdd : ddd.length = 2) (isBase8 : base8.length = 8)

include isDdd isBase8

theorem length_withoutNine : (withoutNine ddd base8).length = 21 := by
  simp [withoutNine, whatsappScheme, brCountryCode, isDdd, isBase8]

theorem length_withNine : (withNine ddd base8).length = 22 := by
  simp [withNine, whatsappScheme, brCountryCode, isDdd, isBase8]

omit isDdd in
theorem base8_of_isPrefix (begins : withoutNine ddd base8 <+: withNine ddd base8) :
    base8 = List.replicate 8 '9' := by
  rw [withoutNine, withNine, List.prefix_append_right_inj] at begins
  rw [← isBase8]
  exact eq_replicate_of_isPrefix_cons begins

theorem begins_iff_spelled_iff :
    (withoutNine ddd base8 <+: urn ∨ withNine ddd base8 <+: urn ↔
        urn = withoutNine ddd base8 ∨ urn = withNine ddd base8) ↔ ¬GoesOn urn ddd base8 := by
  have without := length_withoutNine isDdd isBase8
  have withN := length_withNine isDdd isBase8
  constructor
  · intro same goesOn
    rcases goesOn with ⟨begins, goesOn, other⟩ | ⟨begins, goesOn⟩
    · rcases same.mp (.inl begins) with rfl | rfl
      · exact goesOn without
      · exact other ⟨base8_of_isPrefix isBase8 begins, rfl⟩
    · rcases same.mp (.inr begins) with rfl | rfl
      · have longer := begins.length_le
        omega
      · exact goesOn withN
  · intro ends
    constructor
    · rintro (begins | begins)
      · by_cases length : urn.length = 21
        · exact .inl (begins.eq_of_length (without.trans length.symm)).symm
        · by_contra notSpelled
          exact ends (.inl ⟨begins, length, fun other => notSpelled (.inr other.2)⟩)
      · by_cases length : urn.length = 22
        · exact .inr (begins.eq_of_length (withN.trans length.symm)).symm
        · exact absurd (.inr ⟨begins, length⟩) ends
    · rintro (rfl | rfl)
      · exact .inl (List.prefix_refl _)
      · exact .inr (List.prefix_refl _)

end Spellings

/-- The filter for a number selects a URN exactly when it is one of the two spellings, as long
as the URN does not go on where a spelling has ended. -/
theorem phone_urn_q_iff (term ddd base8 urn : List Char) (field : String)
    (values : String → Option (List Char)) (denotes : Denotes term ddd base8)
    (isUrn : values field = some urn) :
    ∃ filter, phoneUrnQ term field = some filter ∧
      ((filter.Accepts values ↔ urn = withoutNine ddd base8 ∨ urn = withNine ddd base8) ↔
        ¬GoesOn urn ddd base8) := by
  refine ⟨_, phoneUrnQ_of_denotes field denotes, ?_⟩
  simp only [Q.Accepts, isUrn, Option.mem_some, exists_eq_left']
  exact begins_iff_spelled_iff denotes.isDdd denotes.isBase8

/-- The term leaves out the ninth digit, the URN has it. -/
theorem ninth_digit_is_found :
    ∃ filter, phoneUrnQ "+55 (84) 9921-2605".toList "urn" = some filter ∧
      (filter.Accepts (fun _ => some "whatsapp:5584999212605".toList) ↔
        "whatsapp:5584999212605".toList = withoutNine "84".toList "99212605".toList ∨
          "whatsapp:5584999212605".toList = withNine "84".toList "99212605".toList) := by
  rcases phone_urn_q_iff "+55 (84) 9921-2605".toList "84".toList "99212605".toList
      "whatsapp:5584999212605".toList "urn" (fun _ => some "whatsapp:5584999212605".toList)
      (by decide) rfl with
    ⟨filter, isFilter, accepts⟩
  exact ⟨filter, isFilter, accepts.mpr (by decide)⟩

/-- A number of the same area begins like the one that is looked for. -/
theorem longer_number_is_found :
    ¬∀ (term ddd base8 urn : List Char) (field : String)
      (values : String → Option (List Char)), Denotes term ddd base8 →
      values field = some urn → whatsappScheme <+: urn →
      ∃ filter, phoneUrnQ term field = some filter ∧
        (filter.Accepts values ↔ urn = withoutNine ddd base8 ∨ urn = withNine ddd base8) := by
  intro exactly
  have denotes : Denotes "84 9921-2605".toList "84".toList "99212605".toList := by decide
  rcases exactly "84 9921-2605".toList "84".toList "99212605".toList
      "whatsapp:5584992126050".toList "urn" (fun _ => some "whatsapp:5584992126050".toList)
      denotes rfl (by decide) with
    ⟨filter, isFilter, accepts⟩
  cases isFilter.symm.trans (phoneUrnQ_of_denotes "urn" denotes)
  have spelled := accepts.mp (.inl ⟨_, rfl, by decide⟩)
  revert spelled
  decide

end ChatsEngine.Phone
