import ChatsEngine.Foundation.JsonWriter

/-! # Reading JSON

`json.loads`, of which every error is `none`. Each reader answers what it has read and the rest
of the text. The depth to which values are nested is bounded by an amount of fuel, of which
twice the length of the text is enough. -/

namespace ChatsEngine.JsonText

/-! ## Whitespace -/

def isSpace (unit : CodeUnit) : Bool := unit = 32 || unit = 9 || unit = 10 || unit = 13

def skip (text : Text) : Text := text.dropWhile isSpace

/-! ## Numbers -/

def digitOf (unit : CodeUnit) : Option Digit :=
  if isDigit : 48 ≤ unit.toNat ∧ unit.toNat < 58 then some ⟨unit.toNat - 48, by omega⟩ else none

def takeDigits : Text → List Digit × Text
  | [] => ([], [])
  | unit :: rest =>
      match digitOf unit with
      | none => ([], unit :: rest)
      | some digit => (digit :: (takeDigits rest).1, (takeDigits rest).2)

def readDigits (text : Text) : Option (Digits × Text) :=
  match takeDigits text with
  | ([], _) => none
  | (first :: others, rest) => some (⟨first, others⟩, rest)

def Digits.value (digits : Digits) : Nat :=
  Nat.ofDigits 10 (digits.toList.map Fin.val).reverse

/-- `0|[1-9][0-9]*` -/
def readWhole (text : Text) : Option (Nat × Text) :=
  match text with
  | 48 :: rest => some (0, rest)
  | text => (readDigits text).map fun read => (read.1.value, read.2)

def readSign (text : Text) : Bool × Text :=
  match text with
  | 45 :: rest => (true, rest)
  | text => (false, text)

/-- `(\.[0-9]+)?` -/
def readFraction (text : Text) : Option Digits × Text :=
  match text with
  | 46 :: rest =>
      match readDigits rest with
      | none => (none, text)
      | some (digits, after) => (some digits, after)
  | text => (none, text)

def readExponentSign (text : Text) : Option Sign × Text :=
  match text with
  | 43 :: rest => (some .plus, rest)
  | 45 :: rest => (some .minus, rest)
  | text => (none, text)

/-- `([eE][-+]?[0-9]+)?` -/
def readExponent (text : Text) : Option (Option Sign × Digits) × Text :=
  match text with
  | [] => (none, [])
  | unit :: rest =>
      if unit = 101 ∨ unit = 69 then
        match readDigits (readExponentSign rest).2 with
        | none => (none, text)
        | some (digits, after) => (some ((readExponentSign rest).1, digits), after)
      else (none, text)

section Reading

variable {Real : Type} (floats : FloatFormat Real)

/-- The value of a number, which is an integer without a fraction and an exponent. -/
def numberValue (negative : Bool) (whole : Nat) (fraction : Option Digits)
    (exponent : Option (Option Sign × Digits)) : Value Real :=
  if isFloat : fraction.isSome ∨ exponent.isSome then
    .float (floats.parse (.decimal ⟨negative, whole, fraction, exponent, isFloat⟩))
  else .int (if negative then -whole else whole)

def readNumber (text : Text) : Option (Value Real × Text) :=
  (readWhole (readSign text).2).map fun (whole, rest) =>
    (numberValue floats (readSign text).1 whole (readFraction rest).1
        (readExponent (readFraction rest).2).1,
      (readExponent (readFraction rest).2).2)

def constants : List (Text × Value Real) :=
  [(text "null", .null), (text "true", .bool true), (text "false", .bool false),
    (text "NaN", .float (floats.parse .nan)), (text "Infinity", .float (floats.parse .infinity)),
    (text "-Infinity", .float (floats.parse .negativeInfinity))]

def readConstant (text : Text) : Option (Value Real × Text) :=
  (constants floats).findSome? fun (word, value) =>
    (text.dropPrefix? word).map fun rest => (value, rest)

def readScalar (text : Text) : Option (Value Real × Text) :=
  match readConstant floats text with
  | some read => some read
  | none => readNumber floats text

/-! ## Strings -/

def hexDigit (unit : CodeUnit) : Option Nat :=
  if 48 ≤ unit.toNat ∧ unit.toNat < 58 then some (unit.toNat - 48)
  else if 97 ≤ unit.toNat ∧ unit.toNat < 103 then some (unit.toNat - 87)
  else if 65 ≤ unit.toNat ∧ unit.toNat < 71 then some (unit.toNat - 55)
  else none

def hexValue (first second third fourth : CodeUnit) : Option CodeUnit := do
  let first ← hexDigit first
  let second ← hexDigit second
  let third ← hexDigit third
  let fourth ← hexDigit fourth
  return UInt16.ofNat (4096 * first + 256 * second + 16 * third + fourth)

/-- `BACKSLASH` -/
def unescape : CodeUnit → Option CodeUnit
  | 34 => some 34
  | 92 => some 92
  | 47 => some 47
  | 98 => some 8
  | 102 => some 12
  | 110 => some 10
  | 114 => some 13
  | 116 => some 9
  | _ => none

/-- `scanstring`, after the opening quote. -/
def readString : Text → Option (Text × Text)
  | [] => none
  | 34 :: rest => some ([], rest)
  | 92 :: 117 :: first :: second :: third :: fourth :: rest => do
      let unit ← hexValue first second third fourth
      let read ← readString rest
      return (unit :: read.1, read.2)
  | 92 :: escaped :: rest => do
      let unit ← unescape escaped
      let read ← readString rest
      return (unit :: read.1, read.2)
  | unit :: rest =>
      -- control characters have to be escaped
      if unit.toNat < 32 ∨ unit = 92 then none
      else (readString rest).map fun read => (unit :: read.1, read.2)

/-- The text after the unit, which whitespace may precede. -/
def expect (unit : CodeUnit) (text : Text) : Option Text :=
  match skip text with
  | [] => none
  | head :: rest => if head = unit then some rest else none

def readKey (text : Text) : Option (Text × Text) :=
  match text with
  | 34 :: rest => do
      let read ← readString rest
      let after ← expect 58 read.2
      return (read.1, skip after)
  | _ => none

/-! ## Values -/

mutual
def readValue : Nat → Text → Option (Value Real × Text)
  | 0, _ => none
  | fuel + 1, text =>
      match text with
      | 34 :: rest => (readString rest).map fun read => (.string read.1, read.2)
      | 91 :: rest =>
          match expect 93 rest with
          | some after => some (.array [], after)
          | none => (readItems fuel (skip rest)).map fun read => (.array read.1, read.2)
      | 123 :: rest =>
          match expect 125 rest with
          | some after => some (.object [], after)
          | none =>
              (readFields fuel (skip rest)).map fun read =>
                (.object (Fields.ofPairs read.1), read.2)
      | text => readScalar floats text

def readItems : Nat → Text → Option (List (Value Real) × Text)
  | 0, _ => none
  | fuel + 1, text => do
      let item ← readValue fuel text
      match expect 93 item.2 with
      | some after => some ([item.1], after)
      | none => do
          let after ← expect 44 item.2
          let items ← readItems fuel (skip after)
          some (item.1 :: items.1, items.2)

def readFields : Nat → Text → Option (Fields Real × Text)
  | 0, _ => none
  | fuel + 1, text => do
      let key ← readKey text
      let value ← readValue fuel key.2
      match expect 125 value.2 with
      | some after => some ([(key.1, value.1)], after)
      | none => do
          let after ← expect 44 value.2
          let fields ← readFields fuel (skip after)
          some ((key.1, value.1) :: fields.1, fields.2)
end

def loads (text : Text) : Option (Value Real) := do
  let read ← readValue floats (2 * text.length + 1) (skip text)
  if skip read.2 = [] then some read.1 else none

end Reading

/-! ## Readers take text from the front -/

section Suffixes

variable {Real : Type} {floats : FloatFormat Real} {input rest : Text} {fuel : Nat}

theorem skip_suffix (input : Text) : skip input <:+ input := List.dropWhile_suffix _

theorem takeDigits_suffix (input : Text) : (takeDigits input).2 <:+ input := by
  induction input with
  | nil => exact List.suffix_rfl
  | cons unit input induction =>
      rw [takeDigits]
      split
      · exact List.suffix_rfl
      · exact induction.trans (List.suffix_cons unit input)

theorem readDigits_suffix {digits : Digits} (read : readDigits input = some (digits, rest)) :
    rest <:+ input := by
  have taken := takeDigits_suffix input
  rw [readDigits] at read
  split at read
  · cases read
  · next same =>
      cases read
      rwa [same] at taken

theorem readWhole_suffix {whole : Nat} (read : readWhole input = some (whole, rest)) :
    rest <:+ input := by
  unfold readWhole at read
  split at read
  · cases read
    exact List.suffix_cons _ _
  · rcases Option.map_eq_some_iff.mp read with ⟨⟨digits, after⟩, digitsRead, same⟩
    cases same
    exact readDigits_suffix digitsRead

theorem readSign_suffix (input : Text) : (readSign input).2 <:+ input := by
  unfold readSign
  split
  · exact List.suffix_cons _ _
  · exact List.suffix_rfl

theorem readFraction_suffix (input : Text) : (readFraction input).2 <:+ input := by
  unfold readFraction
  split
  · split
    · exact List.suffix_rfl
    · next read => exact (readDigits_suffix read).trans (List.suffix_cons _ _)
  · exact List.suffix_rfl

theorem readExponentSign_suffix (input : Text) : (readExponentSign input).2 <:+ input := by
  unfold readExponentSign
  split
  · exact List.suffix_cons _ _
  · exact List.suffix_cons _ _
  · exact List.suffix_rfl

theorem readExponent_suffix (input : Text) : (readExponent input).2 <:+ input := by
  unfold readExponent
  split
  · exact List.suffix_rfl
  · next unit rest =>
      split
      · split
        · exact List.suffix_rfl
        · next read =>
            exact ((readDigits_suffix read).trans (readExponentSign_suffix rest)).trans
              (List.suffix_cons unit rest)
      · exact List.suffix_rfl

theorem readNumber_suffix {value : Value Real}
    (read : readNumber floats input = some (value, rest)) : rest <:+ input := by
  rw [readNumber, Option.map_eq_some_iff] at read
  rcases read with ⟨⟨whole, after⟩, wholeRead, same⟩
  cases same
  exact (((readExponent_suffix _).trans (readFraction_suffix after)).trans
    (readWhole_suffix wholeRead)).trans (readSign_suffix input)

theorem readConstant_suffix {value : Value Real}
    (read : readConstant floats input = some (value, rest)) : rest <:+ input := by
  rcases List.exists_of_findSome?_eq_some read with ⟨⟨word, value⟩, _, found⟩
  rcases Option.map_eq_some_iff.mp found with ⟨after, dropped, same⟩
  cases same
  rcases List.dropPrefix?_eq_some_iff.mp dropped with ⟨front, whole, _⟩
  exact ⟨front, whole.symm⟩

theorem readScalar_suffix {value : Value Real}
    (read : readScalar floats input = some (value, rest)) : rest <:+ input := by
  rw [readScalar] at read
  split at read
  · next found =>
      cases read
      exact readConstant_suffix found
  · exact readNumber_suffix read

theorem wellFormed_of_readScalar {value : Value Real}
    (read : readScalar floats input = some (value, rest)) : value.WellFormed := by
  rw [readScalar] at read
  split at read
  · next found =>
      cases read
      rcases List.exists_of_findSome?_eq_some found with ⟨⟨word, constant⟩, member, same⟩
      rcases Option.map_eq_some_iff.mp same with ⟨_, _, same⟩
      cases same
      simp only [constants, List.mem_cons, Prod.mk.injEq, List.not_mem_nil, or_false] at member
      rcases member with ⟨_, rfl⟩ | ⟨_, rfl⟩ | ⟨_, rfl⟩ | ⟨_, rfl⟩ | ⟨_, rfl⟩ | ⟨_, rfl⟩ <;>
        trivial
  · rw [readNumber, Option.map_eq_some_iff] at read
    rcases read with ⟨_, _, same⟩
    cases same
    rw [numberValue]
    split <;> trivial

theorem readString_suffix {string : Text} (read : readString input = some (string, rest)) :
    rest <:+ input := by
  fun_induction readString input generalizing string with
  | case1 => cases read
  | case2 =>
      cases read
      exact List.suffix_cons _ _
  | case3 first second third fourth after induction =>
      simp only [Option.bind_eq_bind, Option.pure_def, Option.bind_eq_some_iff] at read
      rcases read with ⟨_, _, ⟨string, left⟩, inner, same⟩
      cases same
      exact (induction inner).trans ⟨[92, 117, first, second, third, fourth], rfl⟩
  | case4 escaped after _ induction =>
      simp only [Option.bind_eq_bind, Option.pure_def, Option.bind_eq_some_iff] at read
      rcases read with ⟨_, _, ⟨string, left⟩, inner, same⟩
      cases same
      exact (induction inner).trans ⟨[92, escaped], rfl⟩
  | case5 => cases read
  | case6 unit after _ _ _ _ induction =>
      rcases Option.map_eq_some_iff.mp read with ⟨⟨string, left⟩, inner, same⟩
      cases same
      exact (induction inner).trans (List.suffix_cons unit after)

theorem expect_suffix {unit : CodeUnit} (expected : expect unit input = some rest) :
    unit :: rest <:+ input := by
  rw [expect] at expected
  split at expected
  · cases expected
  · next head after skipped =>
      split at expected
      · next same =>
          cases expected
          rw [← same, ← skipped]
          exact skip_suffix input
      · cases expected

theorem expect_rest_suffix {unit : CodeUnit} (expected : expect unit input = some rest) :
    rest <:+ input :=
  (List.suffix_cons unit rest).trans (expect_suffix expected)

theorem expect_skip_suffix {unit : CodeUnit} (expected : expect unit input = some rest) :
    skip rest <:+ input :=
  (skip_suffix rest).trans (expect_rest_suffix expected)

theorem readKey_suffix {key : Text} (read : readKey input = some (key, rest)) :
    rest <:+ input := by
  unfold readKey at read
  split at read
  · next after =>
      simp only [Option.bind_eq_bind, Option.pure_def, Option.bind_eq_some_iff] at read
      rcases read with ⟨⟨string, left⟩, stringRead, following, expected, same⟩
      cases same
      have value : skip following <:+ left := expect_skip_suffix expected
      have quoted : left <:+ after := readString_suffix stringRead
      exact (value.trans quoted).trans (List.suffix_cons 34 after)
  · cases read

end Suffixes

/-! ## What a text reads as -/

section Grammar

variable {Real : Type} (floats : FloatFormat Real)

mutual
/-- A text that starts with a value, and the rest of it. -/
inductive Reads : Text → Value Real → Text → Prop
  | string {after string rest : Text} :
      readString after = some (string, rest) → Reads (34 :: after) (.string string) rest
  | emptyArray {after rest : Text} :
      expect 93 after = some rest → Reads (91 :: after) (.array []) rest
  | array {after rest : Text} {values : List (Value Real)} :
      expect 93 after = none → ReadsItems (skip after) values rest →
      Reads (91 :: after) (.array values) rest
  | emptyObject {after rest : Text} :
      expect 125 after = some rest → Reads (123 :: after) (.object []) rest
  | object {after rest : Text} {fields : Fields Real} :
      expect 125 after = none → ReadsFields (skip after) fields rest →
      Reads (123 :: after) (.object (Fields.ofPairs fields)) rest
  | scalar {input rest : Text} {value : Value Real} :
      (∀ unit ∈ input.head?, unit ≠ 34 ∧ unit ≠ 91 ∧ unit ≠ 123) →
      readScalar floats input = some (value, rest) → Reads input value rest

inductive ReadsItems : Text → List (Value Real) → Text → Prop
  | last {input after rest : Text} {value : Value Real} :
      Reads input value after → expect 93 after = some rest → ReadsItems input [value] rest
  | next {input after following rest : Text} {value : Value Real}
      {values : List (Value Real)} :
      Reads input value after → expect 93 after = none → expect 44 after = some following →
      ReadsItems (skip following) values rest → ReadsItems input (value :: values) rest

inductive ReadsFields : Text → Fields Real → Text → Prop
  | last {input inner after rest key : Text} {value : Value Real} :
      readKey input = some (key, inner) → Reads inner value after →
      expect 125 after = some rest → ReadsFields input [(key, value)] rest
  | next {input inner after following rest key : Text} {value : Value Real}
      {fields : Fields Real} :
      readKey input = some (key, inner) → Reads inner value after →
      expect 125 after = none → expect 44 after = some following →
      ReadsFields (skip following) fields rest →
      ReadsFields input ((key, value) :: fields) rest
end

variable {floats} {input rest : Text}

section OneCall

variable {fuel : Nat}

theorem reads_of_readValue {value : Value Real}
    (ofItems : ∀ input values rest, readItems floats fuel input = some (values, rest) →
      ReadsItems floats input values rest)
    (ofFields : ∀ input fields rest, readFields floats fuel input = some (fields, rest) →
      ReadsFields floats input fields rest)
    (read : readValue floats (fuel + 1) input = some (value, rest)) :
    Reads floats input value rest := by
  unfold readValue at read
  split at read
  · rcases Option.map_eq_some_iff.mp read with ⟨_, stringRead, same⟩
    cases same
    exact .string stringRead
  · split at read
    · next closed =>
        cases read
        exact .emptyArray closed
    · next notClosed =>
        rcases Option.map_eq_some_iff.mp read with ⟨_, itemsRead, same⟩
        cases same
        exact .array notClosed (ofItems _ _ _ itemsRead)
  · split at read
    · next closed =>
        cases read
        exact .emptyObject closed
    · next notClosed =>
        rcases Option.map_eq_some_iff.mp read with ⟨_, fieldsRead, same⟩
        cases same
        exact .object notClosed (ofFields _ _ _ fieldsRead)
  · next notString notArray notObject =>
      refine .scalar ?_ read
      intro unit first
      rcases input with _ | ⟨head, tail⟩
      · cases first
      · cases first
        exact ⟨fun same => notString tail (same ▸ rfl),
          fun same => notArray tail (same ▸ rfl), fun same => notObject tail (same ▸ rfl)⟩

theorem readsItems_of_readItems {values : List (Value Real)}
    (ofValue : ∀ input value rest, readValue floats fuel input = some (value, rest) →
      Reads floats input value rest)
    (ofItems : ∀ input values rest, readItems floats fuel input = some (values, rest) →
      ReadsItems floats input values rest)
    (read : readItems floats (fuel + 1) input = some (values, rest)) :
    ReadsItems floats input values rest := by
  rw [readItems] at read
  rcases Option.bind_eq_some_iff.mp read with ⟨⟨value, after⟩, valueRead, next⟩
  have first := ofValue _ _ _ valueRead
  split at next
  · next closed =>
      cases next
      exact .last first closed
  · next notClosed =>
      simp only [Option.bind_eq_bind, Option.bind_eq_some_iff] at next
      rcases next with ⟨following, comma, ⟨items, left⟩, itemsRead, same⟩
      cases same
      exact .next first notClosed comma (ofItems _ _ _ itemsRead)

theorem readsFields_of_readFields {fields : Fields Real}
    (ofValue : ∀ input value rest, readValue floats fuel input = some (value, rest) →
      Reads floats input value rest)
    (ofFields : ∀ input fields rest, readFields floats fuel input = some (fields, rest) →
      ReadsFields floats input fields rest)
    (read : readFields floats (fuel + 1) input = some (fields, rest)) :
    ReadsFields floats input fields rest := by
  rw [readFields] at read
  rcases Option.bind_eq_some_iff.mp read with ⟨⟨key, inner⟩, keyRead, value⟩
  rcases Option.bind_eq_some_iff.mp value with ⟨⟨value, after⟩, valueRead, next⟩
  have first := ofValue _ _ _ valueRead
  split at next
  · next closed =>
      cases next
      exact .last keyRead first closed
  · next notClosed =>
      simp only [Option.bind_eq_bind, Option.bind_eq_some_iff] at next
      rcases next with ⟨following, comma, ⟨items, left⟩, fieldsRead, same⟩
      cases same
      exact .next keyRead first notClosed comma (ofFields _ _ _ fieldsRead)

end OneCall

theorem reads_of_read (fuel : Nat) :
    (∀ input value rest, readValue floats fuel input = some (value, rest) →
      Reads floats input value rest) ∧
    (∀ input values rest, readItems floats fuel input = some (values, rest) →
      ReadsItems floats input values rest) ∧
    (∀ input fields rest, readFields floats fuel input = some (fields, rest) →
      ReadsFields floats input fields rest) := by
  induction fuel with
  | zero =>
      refine ⟨?_, ?_, ?_⟩
      · intro _ _ _ read
        rw [readValue] at read
        cases read
      · intro _ _ _ read
        rw [readItems] at read
        cases read
      · intro _ _ _ read
        rw [readFields] at read
        cases read
  | succ fuel induction =>
      rcases induction with ⟨ofValue, ofItems, ofFields⟩
      refine ⟨?_, ?_, ?_⟩
      · intro input value rest read
        exact reads_of_readValue ofItems ofFields read
      · intro input values rest read
        exact readsItems_of_readItems ofValue ofItems read
      · intro input fields rest read
        exact readsFields_of_readFields ofValue ofFields read

mutual
theorem Reads.suffix {input rest : Text} {value : Value Real} :
    Reads floats input value rest → rest <:+ input
  | .string read => (readString_suffix read).trans (List.suffix_cons _ _)
  | .emptyArray closed => (expect_rest_suffix closed).trans (List.suffix_cons _ _)
  | .array _ items => (items.suffix.trans (skip_suffix _)).trans (List.suffix_cons _ _)
  | .emptyObject closed => (expect_rest_suffix closed).trans (List.suffix_cons _ _)
  | .object _ fields => (fields.suffix.trans (skip_suffix _)).trans (List.suffix_cons _ _)
  | .scalar _ read => readScalar_suffix read

theorem ReadsItems.suffix {input rest : Text} {values : List (Value Real)} :
    ReadsItems floats input values rest → rest <:+ input
  | .last first closed => (expect_rest_suffix closed).trans first.suffix
  | .next first _ comma items =>
      (items.suffix.trans (expect_skip_suffix comma)).trans first.suffix

theorem ReadsFields.suffix {input rest : Text} {fields : Fields Real} :
    ReadsFields floats input fields rest → rest <:+ input
  | .last key first closed =>
      ((expect_rest_suffix closed).trans first.suffix).trans (readKey_suffix key)
  | .next key first _ comma fields =>
      ((fields.suffix.trans (expect_skip_suffix comma)).trans first.suffix).trans
        (readKey_suffix key)
end

theorem skip_length_le (input : Text) : (skip input).length ≤ input.length :=
  (skip_suffix input).length_le

theorem expect_length_lt {unit : CodeUnit} (expected : expect unit input = some rest) :
    rest.length < input.length :=
  (expect_suffix expected).length_le

theorem readKey_length_le {key : Text} (read : readKey input = some (key, rest)) :
    rest.length ≤ input.length :=
  (readKey_suffix read).length_le

mutual
/-- With enough fuel a text is read in the only way there is. -/
theorem Reads.readValue_eq {input rest : Text} {value : Value Real} :
    (fuel : Nat) → Reads floats input value rest → 2 * input.length < fuel →
      readValue floats fuel input = some (value, rest)
  | 0, _, enough => absurd enough (Nat.not_lt_zero _)
  | fuel + 1, reads, enough => by
      unfold readValue
      cases reads with
      | string read => simp only [read, Option.map_some]
      | emptyArray closed => simp only [closed]
      | @array after _ _ notClosed items =>
          have shorter := skip_length_le after
          rw [List.length_cons] at enough
          simp only [notClosed, items.readItems_eq fuel (by omega), Option.map_some]
      | emptyObject closed => simp only [closed]
      | @object after _ _ notClosed fields =>
          have shorter := skip_length_le after
          rw [List.length_cons] at enough
          simp only [notClosed, fields.readFields_eq fuel (by omega), Option.map_some]
      | scalar other read =>
          split
          · exact absurd rfl (other 34 rfl).1
          · exact absurd rfl (other 91 rfl).2.1
          · exact absurd rfl (other 123 rfl).2.2
          · exact read

theorem ReadsItems.readItems_eq {input rest : Text} {values : List (Value Real)} :
    (fuel : Nat) → ReadsItems floats input values rest → 2 * input.length + 1 < fuel →
      readItems floats fuel input = some (values, rest)
  | 0, _, enough => absurd enough (Nat.not_lt_zero _)
  | fuel + 1, reads, enough => by
      rw [readItems]
      cases reads with
      | last first closed =>
          rw [first.readValue_eq fuel (by omega)]
          simp only [Option.bind_eq_bind, Option.bind_some, closed]
      | @next _ after following _ _ _ first notClosed comma items =>
          have shorter := first.suffix.length_le
          have afterComma := expect_length_lt comma
          have skipped := skip_length_le following
          rw [first.readValue_eq fuel (by omega)]
          simp only [Option.bind_eq_bind, Option.bind_some, notClosed, comma,
            items.readItems_eq fuel (by omega)]

theorem ReadsFields.readFields_eq {input rest : Text} {fields : Fields Real} :
    (fuel : Nat) → ReadsFields floats input fields rest → 2 * input.length + 1 < fuel →
      readFields floats fuel input = some (fields, rest)
  | 0, _, enough => absurd enough (Nat.not_lt_zero _)
  | fuel + 1, reads, enough => by
      rw [readFields]
      cases reads with
      | last key first closed =>
          have inner := readKey_length_le key
          simp only [Option.bind_eq_bind, key, Option.bind_some,
            first.readValue_eq fuel (by omega), closed]
      | @next _ inner after following _ _ _ _ key first notClosed comma fields =>
          have innerShorter := readKey_length_le key
          have shorter := first.suffix.length_le
          have afterComma := expect_length_lt comma
          have skipped := skip_length_le following
          simp only [Option.bind_eq_bind, key, Option.bind_some,
            first.readValue_eq fuel (by omega), notClosed, comma,
            fields.readFields_eq fuel (by omega)]
end

mutual
theorem Reads.wellFormed {input rest : Text} {value : Value Real} :
    Reads floats input value rest → value.WellFormed
  | .string _ => trivial
  | .emptyArray _ => trivial
  | .array _ items => allWellFormed_iff.mpr items.wellFormed
  | .emptyObject _ => ⟨List.nodup_nil, trivial⟩
  | .object _ fields => wellFormed_ofPairs fields.wellFormed
  | .scalar _ read => wellFormed_of_readScalar read

theorem ReadsItems.wellFormed {input rest : Text} {values : List (Value Real)} :
    ReadsItems floats input values rest → ∀ value ∈ values, value.WellFormed
  | .last first _ => List.forall_mem_singleton.mpr first.wellFormed
  | .next first _ _ items => List.forall_mem_cons.mpr ⟨first.wellFormed, items.wellFormed⟩

theorem ReadsFields.wellFormed {input rest : Text} {fields : Fields Real} :
    ReadsFields floats input fields rest → ∀ field ∈ fields, field.2.WellFormed
  | .last _ first _ => List.forall_mem_singleton.mpr first.wellFormed
  | .next _ first _ _ fields => List.forall_mem_cons.mpr ⟨first.wellFormed, fields.wellFormed⟩
end

theorem loads_eq_some_iff {value : Value Real} :
    loads floats input = some value ↔
      ∃ rest, Reads floats (skip input) value rest ∧ skip rest = [] := by
  rw [loads]
  constructor
  · intro loaded
    rcases Option.bind_eq_some_iff.mp loaded with ⟨⟨read, rest⟩, valueRead, whole⟩
    split at whole
    · next ended =>
        cases whole
        exact ⟨rest, (reads_of_read _).1 _ _ _ valueRead, ended⟩
    · cases whole
  · intro given
    rcases given with ⟨rest, reads, ended⟩
    have shorter := skip_length_le input
    rw [reads.readValue_eq _ (by omega)]
    simp [ended]

theorem wellFormed_of_loads {value : Value Real} (loaded : loads floats input = some value) :
    value.WellFormed := by
  rcases loads_eq_some_iff.mp loaded with ⟨rest, reads, _⟩
  exact reads.wellFormed

end Grammar

end ChatsEngine.JsonText
