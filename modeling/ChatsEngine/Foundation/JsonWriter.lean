import ChatsEngine.Foundation.JsonText
import Mathlib.Data.Nat.Digits.Defs

/-! # Writing JSON

`json.dumps` with `ensure_ascii`, and with or without `indent` and `sort_keys`. How the language
prints a number with a fraction or an exponent is a parameter. -/

namespace ChatsEngine.JsonText

/-! ## Numbers -/

abbrev Digit := Fin 10

structure Digits where
  first : Digit
  others : List Digit
deriving DecidableEq, Repr

def Digits.toList (digits : Digits) : List Digit := digits.first :: digits.others

inductive Sign
  | plus
  | minus
deriving DecidableEq, Repr

/-- A number with a fraction or an exponent as it is written. -/
structure Decimal where
  negative : Bool
  whole : Nat
  fraction : Option Digits
  exponent : Option (Option Sign × Digits)
  isFloat : fraction.isSome ∨ exponent.isSome
deriving DecidableEq

inductive FloatLiteral
  | nan
  | infinity
  | negativeInfinity
  | decimal (value : Decimal)
deriving DecidableEq

/-- How floats are printed and read. What is printed reads as the same float. -/
structure FloatFormat (Real : Type) where
  repr : Real → FloatLiteral
  parse : FloatLiteral → Real
  parse_repr : ∀ value, parse (repr value) = value

def FloatFormat.literal : FloatFormat FloatLiteral where
  repr := id
  parse := id
  parse_repr := fun _ => rfl

def Value.isTruthy {Real : Type} (floats : FloatFormat Real) : Value Real → Bool
  | .null => false
  | .bool value => value
  | .int value => value ≠ 0
  | .float value =>
      match floats.repr value with
      | .decimal decimal =>
          decimal.whole ≠ 0 ||
            decimal.fraction.any fun digits => digits.toList.any fun digit => digit.val ≠ 0
      | _ => true
  | .string value => !value.isEmpty
  | .array values => !values.isEmpty
  | .object fields => !fields.isEmpty

def digitUnit (digit : Digit) : CodeUnit := UInt16.ofNat (48 + digit.val)

def digitsText (digits : List Digit) : Text := digits.map digitUnit

def wholeDigits (whole : Nat) : Digits :=
  match (Nat.digits 10 whole).reverse with
  | [] => ⟨0, []⟩
  | first :: others => ⟨Fin.ofNat 10 first, others.map (Fin.ofNat 10)⟩

def wholeText (whole : Nat) : Text := digitsText (wholeDigits whole).toList

def signText (negative : Bool) : Text := if negative then [45] else []

def intText (value : Int) : Text := signText (value < 0) ++ wholeText value.natAbs

def fractionText : Option Digits → Text
  | none => []
  | some digits => 46 :: digitsText digits.toList

def exponentText : Option (Option Sign × Digits) → Text
  | none => []
  | some (none, digits) => 101 :: digitsText digits.toList
  | some (some .plus, digits) => 101 :: 43 :: digitsText digits.toList
  | some (some .minus, digits) => 101 :: 45 :: digitsText digits.toList

def decimalText (decimal : Decimal) : Text :=
  signText decimal.negative ++ (wholeText decimal.whole ++
    (fractionText decimal.fraction ++ exponentText decimal.exponent))

def floatText : FloatLiteral → Text
  | .nan => text "NaN"
  | .infinity => text "Infinity"
  | .negativeInfinity => text "-Infinity"
  | .decimal decimal => decimalText decimal

/-! ## Strings -/

def hexUnit (value : Nat) : CodeUnit :=
  if value < 10 then UInt16.ofNat (48 + value) else UInt16.ofNat (87 + value)

def hexText (unit : CodeUnit) : Text :=
  [hexUnit (unit.toNat / 4096 % 16), hexUnit (unit.toNat / 256 % 16),
    hexUnit (unit.toNat / 16 % 16), hexUnit (unit.toNat % 16)]

/-- `ESCAPE_DCT`, and any other code unit outside of printable ASCII by its number. -/
def escape : CodeUnit → Text
  | 34 => [92, 34]
  | 92 => [92, 92]
  | 8 => [92, 98]
  | 12 => [92, 102]
  | 10 => [92, 110]
  | 13 => [92, 114]
  | 9 => [92, 116]
  | unit =>
      if 32 ≤ unit.toNat ∧ unit.toNat ≤ 126 then [unit] else 92 :: 117 :: hexText unit

def quote (string : Text) : Text := 34 :: (string.flatMap escape ++ [34])

/-! ## Values -/

/-- The line break before an item, or before the closing bracket. -/
def newline (indent : Option Nat) (level : Nat) : Text :=
  match indent with
  | none => []
  | some width => 10 :: List.replicate (width * level) 32

def gap (indent : Option Nat) (level : Nat) : Text :=
  match indent with
  | none => [32]
  | some width => newline (some width) level

section Writing

variable {Real : Type} (floats : FloatFormat Real) (indent : Option Nat)

mutual
def write (level : Nat) : Value Real → Text
  | .null => text "null"
  | .bool true => text "true"
  | .bool false => text "false"
  | .int value => intText value
  | .float value => floatText (floats.repr value)
  | .string value => quote value
  | .array [] => [91, 93]
  | .array (value :: values) =>
      91 :: (newline indent (level + 1) ++ (write (level + 1) value ++
        writeItems (level + 1) values))
  | .object [] => [123, 125]
  | .object ((key, value) :: fields) =>
      123 :: (newline indent (level + 1) ++ (quote key ++ (58 :: 32 ::
        (write (level + 1) value ++ writeFields (level + 1) fields))))

def writeItems (level : Nat) : List (Value Real) → Text
  | [] => newline indent (level - 1) ++ [93]
  | value :: values =>
      44 :: (gap indent level ++ (write level value ++ writeItems level values))

def writeFields (level : Nat) : Fields Real → Text
  | [] => newline indent (level - 1) ++ [125]
  | (key, value) :: fields =>
      44 :: (gap indent level ++ (quote key ++ (58 :: 32 ::
        (write level value ++ writeFields level fields))))
end

def dumps (sortKeys : Bool) (value : Value Real) : Text :=
  write floats indent 0 (if sortKeys then value.sorted else value)

end Writing

example : dumps FloatFormat.literal none false (.object [(text "a", .array [.int (-7), .null])]) =
    text "\x7b\"a\": [-7, null]\x7d" := by
  decide

end ChatsEngine.JsonText
