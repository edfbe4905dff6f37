import ChatsEngine.Foundation.JsonReader
import Mathlib.Data.Nat.Digits.Lemmas

/-! # Reading what has been written

A value without keys that occur twice is read back from its text, whatever the layout. -/

namespace ChatsEngine.JsonText

variable {Real : Type} {floats : FloatFormat Real} {indent : Option Nat} {rest : Text}

/-! ## Numbers -/

def Ends (rest : Text) : Prop :=
  ∀ unit ∈ rest.head?, digitOf unit = none ∧ unit ≠ 46 ∧ unit ≠ 101 ∧ unit ≠ 69

def NoDigit (rest : Text) : Prop := ∀ unit ∈ rest.head?, digitOf unit = none

theorem Ends.noDigit (ends : Ends rest) : NoDigit rest := fun unit first => (ends unit first).1

theorem digitOf_digitUnit : ∀ digit : Digit, digitOf (digitUnit digit) = some digit := by
  decide

theorem takeDigits_digitsText (digits : List Digit) (noDigit : NoDigit rest) :
    takeDigits (digitsText digits ++ rest) = (digits, rest) := by
  induction digits with
  | nil =>
      rcases rest with _ | ⟨unit, rest⟩
      · rfl
      · rw [digitsText, List.map_nil, List.nil_append, takeDigits, noDigit unit rfl]
  | cons digit digits induction =>
      rw [digitsText, List.map_cons, List.cons_append, takeDigits, digitOf_digitUnit]
      rw [digitsText] at induction
      simp only [induction]

theorem readDigits_digitsText (digits : Digits) (noDigit : NoDigit rest) :
    readDigits (digitsText digits.toList ++ rest) = some (digits, rest) := by
  rw [readDigits, takeDigits_digitsText _ noDigit]
  rfl

theorem toList_wholeDigits {whole : Nat} (positive : whole ≠ 0) :
    (wholeDigits whole).toList.map Fin.val = (Nat.digits 10 whole).reverse := by
  have small : ∀ digit ∈ (Nat.digits 10 whole).reverse, digit % 10 = digit := by
    intro digit member
    exact Nat.mod_eq_of_lt (Nat.digits_lt_base (by decide) (List.mem_reverse.mp member))
  have nonempty : (Nat.digits 10 whole).reverse ≠ [] := by
    simpa using Nat.digits_ne_nil_iff_ne_zero.mpr positive
  rw [wholeDigits]
  split
  · next empty => exact absurd empty nonempty
  · next first others same =>
      rw [same] at small ⊢
      rw [Digits.toList, List.map_cons, List.map_map]
      congr 1
      · exact small first List.mem_cons_self
      · exact (List.map_congr_left fun digit member =>
          small digit (List.mem_cons_of_mem _ member)).trans (List.map_id _)

theorem value_wholeDigits (whole : Nat) : (wholeDigits whole).value = whole := by
  by_cases zero : whole = 0
  · subst zero
    rfl
  · rw [Digits.value, toList_wholeDigits zero, List.reverse_reverse, Nat.ofDigits_digits]

theorem first_wholeDigits_ne_zero {whole : Nat} (positive : whole ≠ 0) :
    (wholeDigits whole).first ≠ 0 := by
  have nonempty : Nat.digits 10 whole ≠ [] := Nat.digits_ne_nil_iff_ne_zero.mpr positive
  have last := Nat.getLast_digit_ne_zero 10 positive
  have heads := congrArg List.head? (toList_wholeDigits positive)
  rw [Digits.toList, List.map_cons, List.head?_cons, List.head?_reverse,
    List.getLast?_eq_getLast_of_ne_nil nonempty] at heads
  intro zero
  rw [zero] at heads
  exact last (Option.some.inj heads).symm

theorem readWhole_wholeText (whole : Nat) (noDigit : NoDigit rest) :
    readWhole (wholeText whole ++ rest) = some (whole, rest) := by
  by_cases zero : whole = 0
  · subst zero
    rfl
  · have first := first_wholeDigits_ne_zero zero
    have digits := readDigits_digitsText (wholeDigits whole) noDigit
    unfold readWhole
    split
    · next after same =>
        exfalso
        apply first
        have unit : digitUnit (wholeDigits whole).first = 48 := (List.cons.inj same).1
        have digit := digitOf_digitUnit (wholeDigits whole).first
        rw [unit] at digit
        exact (Option.some.inj digit).symm
    · rw [wholeText, digits, Option.map_some, value_wholeDigits]

theorem wholeText_eq_cons (whole : Nat) :
    ∃ digit others, wholeText whole = digitUnit digit :: others :=
  ⟨(wholeDigits whole).first, _, rfl⟩

theorem digitUnit_ne {digit : Digit} {unit : CodeUnit} (noDigit : digitOf unit = none) :
    digitUnit digit ≠ unit := by
  intro same
  have digitOf := digitOf_digitUnit digit
  rw [same, noDigit] at digitOf
  cases digitOf

theorem readSign_signText (negative : Bool) (whole : Nat) (rest : Text) :
    readSign (signText negative ++ (wholeText whole ++ rest)) =
      (negative, wholeText whole ++ rest) := by
  cases negative with
  | true => rfl
  | false =>
      rcases wholeText_eq_cons whole with ⟨digit, others, same⟩
      rw [same]
      unfold readSign
      split
      · next minus => exact absurd (List.cons.inj minus).1 (digitUnit_ne rfl)
      · rfl

theorem readFraction_fractionText (fraction : Option Digits) (noDigit : NoDigit rest)
    (noPoint : ∀ unit ∈ rest.head?, unit ≠ 46) :
    readFraction (fractionText fraction ++ rest) = (fraction, rest) := by
  cases fraction with
  | none =>
      change readFraction rest = _
      unfold readFraction
      split
      · exact absurd rfl (noPoint 46 rfl)
      · rfl
  | some digits =>
      rw [fractionText, List.cons_append, readFraction, readDigits_digitsText _ noDigit]

theorem readExponent_exponentText (exponent : Option (Option Sign × Digits))
    (ends : Ends rest) :
    readExponent (exponentText exponent ++ rest) = (exponent, rest) := by
  have digits := fun digits => readDigits_digitsText digits ends.noDigit
  rcases exponent with _ | ⟨_ | _ | _, exponent⟩
  · change readExponent rest = _
    unfold readExponent
    split
    · rfl
    · next unit after =>
        have first := ends unit rfl
        rw [if_neg (not_or.mpr first.2.2)]
  · have unsigned : readExponentSign (digitsText exponent.toList ++ rest) =
        (none, digitsText exponent.toList ++ rest) := by
      rw [Digits.toList, digitsText, List.map_cons, List.cons_append]
      unfold readExponentSign
      split
      · next plus => exact absurd (List.cons.inj plus).1 (digitUnit_ne rfl)
      · next minus => exact absurd (List.cons.inj minus).1 (digitUnit_ne rfl)
      · rfl
    rw [exponentText, List.cons_append, readExponent, if_pos (.inl rfl), unsigned]
    simp only [digits]
  · rw [exponentText, List.cons_append, readExponent, if_pos (.inl rfl), List.cons_append,
      readExponentSign]
    simp only [digits]
  · rw [exponentText, List.cons_append, readExponent, if_pos (.inl rfl), List.cons_append,
      readExponentSign]
    simp only [digits]

theorem constants_eq : constants floats =
    [([110, 117, 108, 108], .null), ([116, 114, 117, 101], .bool true),
      ([102, 97, 108, 115, 101], .bool false), ([78, 97, 78], .float (floats.parse .nan)),
      ([73, 110, 102, 105, 110, 105, 116, 121], .float (floats.parse .infinity)),
      ([45, 73, 110, 102, 105, 110, 105, 116, 121],
        .float (floats.parse .negativeInfinity))] := by
  rw [constants,
    show text "null" = [110, 117, 108, 108] by decide,
    show text "true" = [116, 114, 117, 101] by decide,
    show text "false" = [102, 97, 108, 115, 101] by decide,
    show text "NaN" = [78, 97, 78] by decide,
    show text "Infinity" = [73, 110, 102, 105, 110, 105, 116, 121] by decide,
    show text "-Infinity" = [45, 73, 110, 102, 105, 110, 105, 116, 121] by decide]

theorem readScalar_constant {word : Text} {value : Value Real}
    (member : (word, value) ∈ constants floats) :
    readScalar floats (word ++ rest) = some (value, rest) := by
  have constant : readConstant floats (word ++ rest) = some (value, rest) := by
    rw [constants_eq] at member
    rw [readConstant, constants_eq]
    simp only [List.mem_cons, List.not_mem_nil, or_false, Prod.mk.injEq] at member
    rcases member with ⟨rfl, rfl⟩ | ⟨rfl, rfl⟩ | ⟨rfl, rfl⟩ | ⟨rfl, rfl⟩ | ⟨rfl, rfl⟩ |
      ⟨rfl, rfl⟩ <;>
      simp [List.dropPrefix?]
  rw [readScalar, constant]

theorem readConstant_eq_none (negative : Bool) (whole : Nat) (rest : Text) :
    readConstant floats (signText negative ++ (wholeText whole ++ rest)) = none := by
  rcases wholeText_eq_cons whole with ⟨digit, others, same⟩
  have words : ∀ entry ∈ constants floats, ∃ first second tail,
      entry.1 = first :: second :: tail ∧ digitOf first = none ∧ digitOf second = none := by
    intro entry member
    simp only [constants, List.mem_cons, List.not_mem_nil, or_false] at member
    rcases member with rfl | rfl | rfl | rfl | rfl | rfl <;>
      exact ⟨_, _, _, rfl, by decide, by decide⟩
  rw [readConstant, List.findSome?_eq_none_iff]
  intro entry member
  rcases words entry member with ⟨first, second, tail, word, firstOther, secondOther⟩
  rw [Option.map_eq_none_iff, word, same]
  have other : (digitUnit digit == first) = false := by
    simpa using digitUnit_ne firstOther
  have laterOther : (digitUnit digit == second) = false := by
    simpa using digitUnit_ne secondOther
  cases negative with
  | true => simp [signText, List.dropPrefix?, laterOther]
  | false => simp [signText, List.dropPrefix?, other]

theorem readScalar_number (negative : Bool) (whole : Nat) (fraction : Option Digits)
    (exponent : Option (Option Sign × Digits)) (ends : Ends rest) :
    readScalar floats (signText negative ++ (wholeText whole ++
        (fractionText fraction ++ (exponentText exponent ++ rest)))) =
      some (numberValue floats negative whole fraction exponent, rest) := by
  have afterFraction : NoDigit (exponentText exponent ++ rest) ∧
      ∀ unit ∈ (exponentText exponent ++ rest).head?, unit ≠ 46 := by
    rcases exponent with _ | ⟨_ | _ | _, exponent⟩
    · exact ⟨ends.noDigit, fun unit first => (ends unit first).2.1⟩
    all_goals
      constructor <;>
      · intro unit first
        cases first
        decide
  have afterWhole : NoDigit (fractionText fraction ++ (exponentText exponent ++ rest)) := by
    cases fraction with
    | none => exact afterFraction.1
    | some digits =>
        intro unit first
        cases first
        decide
  rw [readScalar, readConstant_eq_none]
  simp only [readNumber, readSign_signText, readWhole_wholeText whole afterWhole,
    Option.map_some, readFraction_fractionText fraction afterFraction.1 afterFraction.2,
    readExponent_exponentText exponent ends]

theorem readScalar_intText (value : Int) (ends : Ends rest) :
    readScalar floats (intText value ++ rest) = some (.int value, rest) := by
  have read := @readScalar_number Real floats rest (value < 0) value.natAbs none none ends
  rw [intText, List.append_assoc]
  rw [show fractionText none = [] from rfl, show exponentText none = [] from rfl] at read
  rw [List.nil_append, List.nil_append] at read
  rw [read, numberValue, dif_neg (by decide)]
  have signed : (if decide (value < 0) = true then -(value.natAbs : Int) else value.natAbs) =
      value := by
    simp only [decide_eq_true_eq]
    split <;> omega
  rw [signed]

theorem readScalar_floatText (literal : FloatLiteral) (ends : Ends rest) :
    readScalar floats (floatText literal ++ rest) = some (.float (floats.parse literal), rest) := by
  cases literal with
  | nan => exact readScalar_constant (by simp [constants, floatText])
  | infinity => exact readScalar_constant (by simp [constants, floatText])
  | negativeInfinity => exact readScalar_constant (by simp [constants, floatText])
  | decimal decimal =>
      rw [floatText, decimalText, List.append_assoc, List.append_assoc, List.append_assoc,
        readScalar_number _ _ _ _ ends, numberValue, dif_pos decimal.isFloat]

/-! ## Strings -/

theorem hexDigit_hexUnit : ∀ value < 16, hexDigit (hexUnit value) = some value := by
  decide

theorem hexValue_hexText (unit : CodeUnit) :
    hexValue (hexUnit (unit.toNat / 4096 % 16)) (hexUnit (unit.toNat / 256 % 16))
      (hexUnit (unit.toNat / 16 % 16)) (hexUnit (unit.toNat % 16)) = some unit := by
  have bound : unit.toNat < 65536 := unit.toNat_lt
  have value : 4096 * (unit.toNat / 4096 % 16) + 256 * (unit.toNat / 256 % 16) +
      16 * (unit.toNat / 16 % 16) + unit.toNat % 16 = unit.toNat := by
    omega
  have digits := fun value => hexDigit_hexUnit (value % 16) (Nat.mod_lt value (by decide))
  simp only [hexValue, digits, Option.bind_eq_bind, Option.bind_some, Option.pure_def, value,
    UInt16.ofNat_toNat]

theorem readString_escape (unit : CodeUnit) (rest : Text) :
    readString (escape unit ++ rest) =
      (readString rest).map fun read => (unit :: read.1, read.2) := by
  unfold escape
  split
  case h_8 =>
    next notQuote notBackslash _ _ _ _ _ =>
      split
      · next printable =>
          rw [List.cons_append, List.nil_append, readString]
          · rw [if_neg]
            simp only [not_or]
            exact ⟨by omega, notBackslash⟩
          · exact notQuote
          · intro _ _ _ _ _ same
            exact absurd same notBackslash
          · intro _ _ same
            exact absurd same notBackslash
      · rw [List.cons_append, List.cons_append, hexText, List.cons_append, List.cons_append,
          List.cons_append, List.cons_append, List.nil_append, readString, hexValue_hexText]
        cases readString rest <;> rfl
  all_goals
    rw [List.cons_append, List.cons_append, List.nil_append, readString]
    · cases readString rest <;> rfl
    · intro _ _ _ _ _ impossible
      cases impossible

theorem readString_quote (string rest : Text) :
    readString (string.flatMap escape ++ 34 :: rest) = some (string, rest) := by
  induction string with
  | nil =>
      rw [List.flatMap_nil, List.nil_append, readString]
  | cons unit string induction =>
      rw [List.flatMap_cons, List.append_assoc, readString_escape, induction]
      rfl

/-! ## Whitespace -/

theorem skip_cons {unit : CodeUnit} (notSpace : isSpace unit = false) (rest : Text) :
    skip (unit :: rest) = unit :: rest := by
  rw [skip, List.dropWhile_cons_of_neg (by simp [notSpace])]

theorem skip_append {spaces : Text} (areSpaces : ∀ unit ∈ spaces, isSpace unit = true)
    (rest : Text) : skip (spaces ++ rest) = skip rest :=
  List.dropWhile_append_of_pos areSpaces

theorem isSpace_of_mem_newline {level : Nat} :
    ∀ unit ∈ newline indent level, isSpace unit = true := by
  intro unit member
  unfold newline at member
  split at member
  · cases member
  · rcases List.mem_cons.mp member with rfl | space
    · rfl
    · rw [List.eq_of_mem_replicate space]
      rfl

theorem isSpace_of_mem_gap {level : Nat} : ∀ unit ∈ gap indent level, isSpace unit = true := by
  intro unit member
  unfold gap at member
  split at member
  · rw [List.mem_singleton.mp member]
    rfl
  · exact isSpace_of_mem_newline unit member

theorem expect_newline (indent : Option Nat) {unit : CodeUnit}
    (notSpace : isSpace unit = false) (level : Nat) (rest : Text) :
    expect unit (newline indent level ++ unit :: rest) = some rest := by
  rw [expect, skip_append isSpace_of_mem_newline, skip_cons notSpace]
  simp

theorem expect_cons_of_ne {unit head : CodeUnit} (notSpace : isSpace head = false)
    (different : head ≠ unit) (rest : Text) : expect unit (head :: rest) = none := by
  rw [expect, skip_cons notSpace]
  simp [different]

theorem expect_newline_of_ne {unit head : CodeUnit} (notSpace : isSpace head = false)
    (different : head ≠ unit) (level : Nat) (rest : Text) :
    expect unit (newline indent level ++ head :: rest) = none := by
  rw [expect, skip_append isSpace_of_mem_newline, skip_cons notSpace]
  simp [different]

theorem ends_newline {unit : CodeUnit} (level : Nat) (ends : Ends (unit :: rest)) :
    Ends (newline indent level ++ unit :: rest) := by
  unfold newline
  split
  · exact ends
  · intro first same
    cases same
    decide

/-! ## Values -/

/-- How a value that is not a string, an array or an object starts. -/
structure ScalarStart (unit : CodeUnit) : Prop where
  notSpace : isSpace unit = false
  notString : unit ≠ 34
  notArray : unit ≠ 91
  notEnd : unit ≠ 93
  notObject : unit ≠ 123

theorem scalarStart_digitUnit (digit : Digit) : ScalarStart (digitUnit digit) where
  notSpace := by revert digit; decide
  notString := digitUnit_ne rfl
  notArray := digitUnit_ne rfl
  notEnd := digitUnit_ne rfl
  notObject := digitUnit_ne rfl

theorem scalarStart_of_letter {unit : CodeUnit}
    (letter : unit ∈ ([45, 110, 116, 102, 78, 73] : Text)) : ScalarStart unit := by
  simp only [List.mem_cons, List.not_mem_nil, or_false] at letter
  rcases letter with rfl | rfl | rfl | rfl | rfl | rfl <;> constructor <;> decide

theorem scalarStart_signText (negative : Bool) (whole : Nat) (others : Text) :
    ∃ unit tail, signText negative ++ (wholeText whole ++ others) = unit :: tail ∧
      ScalarStart unit := by
  cases negative with
  | true => exact ⟨45, _, rfl, scalarStart_of_letter (by decide)⟩
  | false =>
      rcases wholeText_eq_cons whole with ⟨digit, tail, same⟩
      exact ⟨digitUnit digit, tail ++ others, by rw [same]; rfl, scalarStart_digitUnit digit⟩

theorem reads_scalar {written : Text} {value : Value Real}
    (start : ∃ unit tail, written = unit :: tail ∧ ScalarStart unit)
    (read : readScalar floats (written ++ rest) = some (value, rest)) :
    Reads floats (written ++ rest) value rest := by
  rcases start with ⟨unit, tail, rfl, start⟩
  refine .scalar ?_ read
  intro first same
  cases same
  exact ⟨start.notString, start.notArray, start.notObject⟩

theorem constant_start {word : Text} {value : Value Real}
    (member : (word, value) ∈ constants floats) :
    ∃ unit tail, word = unit :: tail ∧ ScalarStart unit := by
  rw [constants_eq] at member
  simp only [List.mem_cons, List.not_mem_nil, or_false, Prod.mk.injEq] at member
  rcases member with ⟨rfl, rfl⟩ | ⟨rfl, rfl⟩ | ⟨rfl, rfl⟩ | ⟨rfl, rfl⟩ | ⟨rfl, rfl⟩ | ⟨rfl, rfl⟩ <;>
    exact ⟨_, _, rfl, scalarStart_of_letter (by decide)⟩

theorem reads_constant {word : Text} {value : Value Real}
    (member : (word, value) ∈ constants floats) : Reads floats (word ++ rest) value rest :=
  reads_scalar (constant_start member) (readScalar_constant member)

theorem floatText_start (floats : FloatFormat Real) (literal : FloatLiteral) :
    ∃ unit tail, floatText literal = unit :: tail ∧ ScalarStart unit := by
  have ofConstant : ∀ {word : Text}, (word, .float (floats.parse literal)) ∈ constants floats →
      ∃ unit tail, word = unit :: tail ∧ ScalarStart unit := fun member => constant_start member
  cases literal with
  | nan => exact ofConstant (by simp [constants, floatText])
  | infinity => exact ofConstant (by simp [constants, floatText])
  | negativeInfinity => exact ofConstant (by simp [constants, floatText])
  | decimal decimal => exact scalarStart_signText _ _ _

section Written

variable (floats indent)

theorem write_start (level : Nat) (value : Value Real) :
    ∃ unit tail, write floats indent level value = unit :: tail ∧ isSpace unit = false ∧
      unit ≠ 93 := by
  have ofScalar : ∀ {written : Text}, (∃ unit tail, written = unit :: tail ∧ ScalarStart unit) →
      ∃ unit tail, written = unit :: tail ∧ isSpace unit = false ∧ unit ≠ 93 := by
    intro _ given
    rcases given with ⟨unit, tail, same, start⟩
    exact ⟨unit, tail, same, start.notSpace, start.notEnd⟩
  have ofConstant : ∀ {word : Text} {value : Value Real}, (word, value) ∈ constants floats →
      ∃ unit tail, word = unit :: tail ∧ isSpace unit = false ∧ unit ≠ 93 :=
    fun member => ofScalar (constant_start member)
  cases value with
  | null =>
      rw [write]
      exact @ofConstant _ .null (by simp [constants])
  | bool value =>
      cases value with
      | true =>
          rw [write]
          exact @ofConstant _ (.bool true) (by simp [constants])
      | false =>
          rw [write]
          exact @ofConstant _ (.bool false) (by simp [constants])
  | int value =>
      rw [write, intText]
      exact ofScalar (by simpa using scalarStart_signText (value < 0) value.natAbs [])
  | float value =>
      rw [write]
      exact ofScalar (floatText_start floats _)
  | string value =>
      rw [write]
      exact ⟨34, _, rfl, by decide, by decide⟩
  | array values =>
      cases values <;> rw [write] <;> exact ⟨91, _, rfl, by decide, by decide⟩
  | object fields =>
      rcases fields with _ | ⟨⟨key, value⟩, fields⟩ <;> rw [write] <;>
        exact ⟨123, _, rfl, by decide, by decide⟩

theorem skip_write (level : Nat) (value : Value Real) (rest : Text) :
    skip (write floats indent level value ++ rest) = write floats indent level value ++ rest := by
  rcases write_start floats indent level value with ⟨unit, tail, same, notSpace, _⟩
  rw [same, List.cons_append, skip_cons notSpace]

/-- What has been written is read back, whatever follows it. -/
def ReadsBack (value : Value Real) : Prop :=
  ∀ level rest, Ends rest → Reads floats (write floats indent level value ++ rest) value rest

theorem ends_writeItems (level : Nat) (values : List (Value Real)) (rest : Text) :
    Ends (writeItems floats indent level values ++ rest) := by
  cases values with
  | nil =>
      rw [writeItems, List.append_assoc]
      exact ends_newline _ (by
        intro unit same
        cases same
        decide)
  | cons value values =>
      intro unit same
      rw [writeItems] at same
      cases same
      decide

theorem ends_writeFields (level : Nat) (fields : Fields Real) (rest : Text) :
    Ends (writeFields floats indent level fields ++ rest) := by
  rcases fields with _ | ⟨⟨key, value⟩, fields⟩
  · rw [writeFields, List.append_assoc]
    exact ends_newline _ (by
      intro unit same
      cases same
      decide)
  · intro unit same
    rw [writeFields] at same
    cases same
    decide

theorem readsItems_write (level : Nat) (value : Value Real) (values : List (Value Real))
    (readsBack : ∀ item ∈ value :: values, ReadsBack floats indent item) (rest : Text) :
    ReadsItems floats
      (write floats indent level value ++ (writeItems floats indent level values ++ rest))
      (value :: values) rest := by
  induction values generalizing value with
  | nil =>
      have first := readsBack value List.mem_cons_self level _
        (ends_writeItems floats indent level [] rest)
      apply ReadsItems.last first
      rw [writeItems, List.append_assoc]
      exact expect_newline indent (by decide) _ rest
  | cons next values induction =>
      have first := readsBack value List.mem_cons_self level _
        (ends_writeItems floats indent level (next :: values) rest)
      have others := induction next fun item member =>
        readsBack item (List.mem_cons_of_mem _ member)
      rw [writeItems, List.cons_append] at first ⊢
      refine .next first ?_ (expect_newline none (by decide) 0 _) ?_
      · exact expect_cons_of_ne (by decide) (by decide) _
      · rw [List.append_assoc, skip_append isSpace_of_mem_gap, List.append_assoc, skip_write]
        exact others

theorem readKey_quote (key : Text) (level : Nat) (value : Value Real) (rest : Text) :
    readKey (quote key ++ (58 :: 32 :: (write floats indent level value ++ rest))) =
      some (key, write floats indent level value ++ rest) := by
  rw [quote, List.cons_append, List.append_assoc, List.cons_append, List.nil_append, readKey,
    readString_quote]
  simp only [Option.bind_eq_bind, Option.bind_some, Option.pure_def]
  rw [expect, skip_cons (by decide)]
  simp only [if_true, Option.bind_some]
  rw [show (32 :: (write floats indent level value ++ rest) : Text) =
    [32] ++ (write floats indent level value ++ rest) from rfl]
  rw [skip_append (by simp [isSpace]), skip_write]

theorem readsFields_write (level : Nat) (key : Text) (value : Value Real) (fields : Fields Real)
    (readsBack : ∀ field ∈ (key, value) :: fields, ReadsBack floats indent field.2)
    (rest : Text) :
    ReadsFields floats
      (quote key ++ (58 :: 32 ::
        (write floats indent level value ++ (writeFields floats indent level fields ++ rest))))
      ((key, value) :: fields) rest := by
  induction fields generalizing key value with
  | nil =>
      have first := readsBack _ List.mem_cons_self level _
        (ends_writeFields floats indent level [] rest)
      apply ReadsFields.last (readKey_quote floats indent key level value _) first
      rw [writeFields, List.append_assoc]
      exact expect_newline indent (by decide) _ rest
  | cons field fields induction =>
      rcases field with ⟨nextKey, next⟩
      have first := readsBack _ List.mem_cons_self level _
        (ends_writeFields floats indent level ((nextKey, next) :: fields) rest)
      have others := induction nextKey next fun field member =>
        readsBack field (List.mem_cons_of_mem _ member)
      have keyRead := readKey_quote floats indent key level value
        (writeFields floats indent level ((nextKey, next) :: fields) ++ rest)
      rw [writeFields, List.cons_append] at first keyRead ⊢
      refine .next keyRead first ?_ (expect_newline none (by decide) 0 _) ?_
      · exact expect_cons_of_ne (by decide) (by decide) _
      · simp only [List.append_assoc, List.cons_append]
        rw [skip_append isSpace_of_mem_gap, quote, List.cons_append, skip_cons (by decide)]
        rw [quote, List.cons_append] at others
        exact others

theorem readsBack_array (values : List (Value Real))
    (readsBack : ∀ item ∈ values, ReadsBack floats indent item) :
    ReadsBack floats indent (.array values) := by
  intro level rest _
  cases values with
  | nil =>
      rw [write]
      exact .emptyArray (expect_newline none (by decide) 0 rest)
  | cons value values =>
      have items := readsItems_write floats indent (level + 1) value values readsBack rest
      rcases write_start floats indent (level + 1) value with
        ⟨unit, tail, same, notSpace, notEnd⟩
      rw [write, List.cons_append, List.append_assoc, List.append_assoc]
      apply Reads.array
      · rw [same, List.cons_append]
        exact expect_newline_of_ne notSpace notEnd _ _
      · rw [skip_append isSpace_of_mem_newline, skip_write]
        exact items

theorem readsBack_object (fields : Fields Real) (distinct : Fields.Distinct fields)
    (readsBack : ∀ field ∈ fields, ReadsBack floats indent field.2) :
    ReadsBack floats indent (.object fields) := by
  intro level rest _
  rcases fields with _ | ⟨⟨key, value⟩, fields⟩
  · rw [write]
    exact .emptyObject (expect_newline none (by decide) 0 rest)
  · have read := readsFields_write floats indent (level + 1) key value fields readsBack rest
    rw [write]
    simp only [List.append_assoc, List.cons_append]
    rw [quote, List.cons_append] at read ⊢
    rw [← Fields.ofPairs_of_distinct distinct]
    apply Reads.object
    · exact expect_newline_of_ne (by decide) (by decide) _ _
    · rw [skip_append isSpace_of_mem_newline, skip_cons (by decide)]
      exact read

theorem readsBack_of_wellFormed (value : Value Real) (wellFormed : value.WellFormed) :
    ReadsBack floats indent value := by
  induction value using Value.induct with
  | null =>
      intro level rest _
      rw [write]
      exact reads_constant (by simp [constants])
  | bool value =>
      intro level rest _
      cases value <;> rw [write] <;> exact reads_constant (by simp [constants])
  | int value =>
      intro level rest ends
      rw [write]
      apply reads_scalar _ (readScalar_intText value ends)
      simpa [intText] using scalarStart_signText (value < 0) value.natAbs []
  | float value =>
      intro level rest ends
      have read := @readScalar_floatText Real floats rest (floats.repr value) ends
      rw [floats.parse_repr] at read
      rw [write]
      exact reads_scalar (floatText_start floats _) read
  | string value =>
      intro level rest _
      rw [write, quote, List.cons_append, List.append_assoc]
      exact .string (readString_quote value rest)
  | array values induction =>
      rw [Value.WellFormed, allWellFormed_iff] at wellFormed
      apply readsBack_array
      intro item member
      exact induction item member (wellFormed item member)
  | object fields induction =>
      rw [wellFormed_object_iff] at wellFormed
      apply readsBack_object floats indent fields wellFormed.1
      intro field member
      exact induction field member (wellFormed.2 field member)

end Written

/-- `json.loads(json.dumps(value))` is the value, with its keys in order if they have been
sorted. -/
theorem loads_dumps (floats : FloatFormat Real) (indent : Option Nat) (sortKeys : Bool)
    {value : Value Real} (wellFormed : value.WellFormed) :
    loads floats (dumps floats indent sortKeys value) =
      some (if sortKeys then value.sorted else value) := by
  have written : (if sortKeys then value.sorted else value).WellFormed := by
    split
    · exact wellFormed_sorted wellFormed
    · exact wellFormed
  have reads := readsBack_of_wellFormed floats indent _ written 0 []
    (fun _ impossible => by cases impossible)
  rw [loads_eq_some_iff]
  refine ⟨[], ?_, rfl⟩
  rw [List.append_nil] at reads
  have start := skip_write floats indent 0
    (if sortKeys then value.sorted else value) []
  rw [List.append_nil] at start
  rw [dumps, start]
  exact reads

end ChatsEngine.JsonText
