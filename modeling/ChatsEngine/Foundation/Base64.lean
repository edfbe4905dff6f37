import Mathlib.Data.List.Basic
import Mathlib.Tactic.Common

/-! # Base64

The standard alphabet, the encoding of bytes, and a decoder that passes over characters outside
of the alphabet and stops at the padding. -/

namespace ChatsEngine.Base64

/-! ## The alphabet -/

def char (sextet : Nat) : Char :=
  if sextet < 26 then Char.ofNat ('A'.toNat + sextet)
  else if sextet < 52 then Char.ofNat ('a'.toNat + (sextet - 26))
  else if sextet < 62 then Char.ofNat ('0'.toNat + (sextet - 52))
  else if sextet = 62 then '+'
  else '/'

def sextet (char : Char) : Option Nat :=
  if 'A' ≤ char ∧ char ≤ 'Z' then some (char.toNat - 'A'.toNat)
  else if 'a' ≤ char ∧ char ≤ 'z' then some (char.toNat - 'a'.toNat + 26)
  else if '0' ≤ char ∧ char ≤ '9' then some (char.toNat - '0'.toNat + 52)
  else if char = '+' then some 62
  else if char = '/' then some 63
  else none

theorem alphabet : ∀ value : Fin 64,
    sextet (char value) = some value.val ∧ char value ≠ '=' ∧ (char value).toNat < 128 := by
  decide

theorem sextet_char {value : Nat} (small : value < 64) : sextet (char value) = some value :=
  (alphabet ⟨value, small⟩).1

theorem char_ne_pad {value : Nat} (small : value < 64) : char value ≠ '=' :=
  (alphabet ⟨value, small⟩).2.1

theorem char_ascii {value : Nat} (small : value < 64) : (char value).toNat < 128 :=
  (alphabet ⟨value, small⟩).2.2

/-! ## Encoding -/

/-- Without padding. -/
def encode : List UInt8 → List Char
  | [] => []
  | [first] => [char (first.toNat / 4), char (first.toNat % 4 * 16)]
  | [first, second] =>
      [char (first.toNat / 4), char (first.toNat % 4 * 16 + second.toNat / 16),
        char (second.toNat % 16 * 4)]
  | first :: second :: third :: bytes =>
      char (first.toNat / 4) :: char (first.toNat % 4 * 16 + second.toNat / 16) ::
        char (second.toNat % 16 * 4 + third.toNat / 64) :: char (third.toNat % 64) ::
          encode bytes

/-- What brings a text to a multiple of four characters. -/
def padding (text : List Char) : List Char :=
  List.replicate (-(text.length : Int) % 4).toNat '='

theorem padding_append_padding (text : List Char) : padding (text ++ padding text) = [] := by
  have complete : (-((text ++ padding text).length : Int) % 4).toNat = 0 := by
    rw [padding, List.length_append, List.length_replicate]
    omega
  rw [padding, complete]
  rfl

/-! ## Decoding -/

/-- What remains to be decoded, at a position in a group of four characters, with the bits that
are left from the character before and the number of padding characters since then. -/
def decodeFrom : Nat → Nat → Nat → List Char → Option (List UInt8)
  | quadPos, _, _, [] => if quadPos = 0 then some [] else none
  | quadPos, leftover, pads, next :: text =>
      if next = '=' then
        if 2 ≤ quadPos then
          if 4 ≤ quadPos + (pads + 1) then some []
          else decodeFrom quadPos leftover (pads + 1) text
        else decodeFrom quadPos leftover pads text
      else
        match sextet next with
        | none => decodeFrom quadPos leftover pads text
        | some value =>
            if quadPos = 0 then decodeFrom 1 value 0 text
            else if quadPos = 1 then
              (decodeFrom 2 (value % 16) 0 text).map
                (UInt8.ofNat (leftover * 4 + value / 16) :: ·)
            else if quadPos = 2 then
              (decodeFrom 3 (value % 4) 0 text).map
                (UInt8.ofNat (leftover * 16 + value / 4) :: ·)
            else
              (decodeFrom 0 0 0 text).map (UInt8.ofNat (leftover * 64 + value) :: ·)

/-- `base64.b64decode` -/
def decode (text : List Char) : Option (List UInt8) :=
  if text.all fun char => char.toNat < 128 then decodeFrom 0 0 0 text else none

/-! ## What has been encoded -/

theorem decodeFrom_char (quadPos leftover pads : Nat) {value : Nat} (text : List Char)
    (small : value < 64) :
    decodeFrom quadPos leftover pads (char value :: text) =
      if quadPos = 0 then decodeFrom 1 value 0 text
      else if quadPos = 1 then
        (decodeFrom 2 (value % 16) 0 text).map (UInt8.ofNat (leftover * 4 + value / 16) :: ·)
      else if quadPos = 2 then
        (decodeFrom 3 (value % 4) 0 text).map (UInt8.ofNat (leftover * 16 + value / 4) :: ·)
      else
        (decodeFrom 0 0 0 text).map (UInt8.ofNat (leftover * 64 + value) :: ·) := by
  rw [decodeFrom, if_neg (char_ne_pad small), sextet_char small]

theorem ofNat_eq_of_toNat_eq {value : Nat} {byte : UInt8} (same : value = byte.toNat) :
    UInt8.ofNat value = byte := by
  rw [same, UInt8.ofNat_toNat]

theorem decodeFrom_first (first : UInt8) (leftover pads : Nat) {low : Nat} (small : low < 16)
    (text : List Char) :
    decodeFrom 0 leftover pads
        (char (first.toNat / 4) :: char (first.toNat % 4 * 16 + low) :: text) =
      (decodeFrom 2 low 0 text).map (first :: ·) := by
  have bound := first.toNat_lt
  have byte : UInt8.ofNat (first.toNat / 4 * 4 + (first.toNat % 4 * 16 + low) / 16) = first :=
    ofNat_eq_of_toNat_eq (by omega)
  have rest : (first.toNat % 4 * 16 + low) % 16 = low := by omega
  rw [decodeFrom_char _ _ _ _ (by omega), if_pos rfl, decodeFrom_char _ _ _ _ (by omega),
    if_neg (by decide), if_pos rfl, byte, rest]

theorem decodeFrom_second (second : UInt8) {low : Nat} (small : low < 4) (text : List Char) :
    decodeFrom 2 (second.toNat / 16) 0 (char (second.toNat % 16 * 4 + low) :: text) =
      (decodeFrom 3 low 0 text).map (second :: ·) := by
  have byte : UInt8.ofNat (second.toNat / 16 * 16 + (second.toNat % 16 * 4 + low) / 4) =
      second := ofNat_eq_of_toNat_eq (by omega)
  have rest : (second.toNat % 16 * 4 + low) % 4 = low := by omega
  rw [decodeFrom_char _ _ _ _ (by omega), if_neg (by decide), if_neg (by decide), if_pos rfl,
    byte, rest]

theorem decodeFrom_third (third : UInt8) (text : List Char) :
    decodeFrom 3 (third.toNat / 64) 0 (char (third.toNat % 64) :: text) =
      (decodeFrom 0 0 0 text).map (third :: ·) := by
  have byte : UInt8.ofNat (third.toNat / 64 * 64 + third.toNat % 64) = third :=
    ofNat_eq_of_toNat_eq (by omega)
  rw [decodeFrom_char _ _ _ _ (by omega), if_neg (by decide), if_neg (by decide),
    if_neg (by decide), byte]

theorem padding_group (first second third fourth : Char) (text : List Char) :
    padding (first :: second :: third :: fourth :: text) = padding text := by
  have same : -((first :: second :: third :: fourth :: text).length : Int) % 4 =
      -(text.length : Int) % 4 := by
    simp only [List.length_cons]
    omega
  rw [padding, padding, same]

theorem decodeFrom_encode (bytes : List UInt8) (leftover pads : Nat) :
    decodeFrom 0 leftover pads (encode bytes ++ padding (encode bytes)) = some bytes := by
  induction bytes using encode.induct generalizing leftover pads with
  | case1 => rfl
  | case2 first => exact decodeFrom_first first leftover pads (by decide : 0 < 16) ['=', '=']
  | case3 first second =>
      have bound := second.toNat_lt
      have begins := decodeFrom_first first leftover pads (by omega : second.toNat / 16 < 16)
        [char (second.toNat % 16 * 4), '=']
      have ends := decodeFrom_second second (by decide : 0 < 4) ['=']
      rw [Nat.add_zero] at ends
      rw [ends] at begins
      exact begins
  | case4 first second third bytes induction =>
      have bound := second.toNat_lt
      have bound' := third.toNat_lt
      rw [encode, padding_group]
      simp only [List.cons_append]
      rw [decodeFrom_first first leftover pads (by omega), decodeFrom_second second (by omega),
        decodeFrom_third, induction]
      rfl

theorem encode_ascii (bytes : List UInt8) : ∀ char ∈ encode bytes, char.toNat < 128 := by
  induction bytes using encode.induct with
  | case1 => exact fun _ impossible => absurd impossible List.not_mem_nil
  | case2 first =>
      have bound := first.toNat_lt
      simp only [encode, List.forall_mem_cons]
      exact ⟨char_ascii (by omega), char_ascii (by omega), List.forall_mem_nil _⟩
  | case3 first second =>
      have bound := first.toNat_lt
      have bound' := second.toNat_lt
      simp only [encode, List.forall_mem_cons]
      exact ⟨char_ascii (by omega), char_ascii (by omega), char_ascii (by omega),
        List.forall_mem_nil _⟩
  | case4 first second third bytes induction =>
      have bound := first.toNat_lt
      have bound' := second.toNat_lt
      have bound'' := third.toNat_lt
      simp only [encode, List.forall_mem_cons]
      exact ⟨char_ascii (by omega), char_ascii (by omega), char_ascii (by omega),
        char_ascii (by omega), induction⟩

theorem decode_encode (bytes : List UInt8) :
    decode (encode bytes ++ padding (encode bytes)) = some bytes := by
  have ascii : (encode bytes ++ padding (encode bytes)).all
      (fun char => char.toNat < 128) = true := by
    rw [List.all_eq_true]
    intro char listed
    rcases List.mem_append.mp listed with listed | listed
    · exact decide_eq_true (encode_ascii bytes char listed)
    · rw [List.eq_of_mem_replicate listed]
      decide
  rw [decode, if_pos ascii]
  exact decodeFrom_encode bytes 0 0

end ChatsEngine.Base64
