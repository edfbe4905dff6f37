import Mathlib.Algebra.Order.Ring.Int
import Mathlib.Data.Char
import Mathlib.Data.List.Lex
import Mathlib.Data.List.Sort

/-! # A list in numbered parts

Parts of a list that are found by name: numbers filled with zeros are in order as texts as
long as they do not need more digits. -/

namespace ChatsEngine

/-! ## Names -/

def fixedDigits : Nat → Nat → List Char
  | 0, _ => []
  | width + 1, number =>
      Nat.digitChar (number / 10 ^ width) :: fixedDigits width (number % 10 ^ width)

def zeroFilled (width number : Nat) : List Char :=
  if number < 10 ^ width then fixedDigits width number else Nat.toDigits 10 number

theorem digitChar_lt {digit other : Nat} (less : digit < other) (bound : other < 10) :
    Nat.digitChar digit < Nat.digitChar other := by
  have all : ∀ other < 10, ∀ digit < other, Nat.digitChar digit < Nat.digitChar other := by
    decide
  exact all other bound digit less

theorem fixedDigits_append_lt {width number other : Nat} (less : number < other)
    (bound : other < 10 ^ width) (rest others : List Char) :
    fixedDigits width number ++ rest < fixedDigits width other ++ others := by
  induction width generalizing number other with
  | zero =>
      rw [Nat.pow_zero] at bound
      omega
  | succ width induction =>
      have positive : 0 < 10 ^ width := Nat.pow_pos (by decide)
      rw [fixedDigits, fixedDigits, List.cons_append, List.cons_append, List.cons_lt_cons_iff]
      rcases Nat.lt_or_eq_of_le (Nat.div_le_div_right (c := 10 ^ width) less.le) with
        lessDigit | sameDigit
      · left
        apply digitChar_lt lessDigit
        rw [Nat.pow_succ, Nat.mul_comm] at bound
        exact Nat.div_lt_of_lt_mul (Nat.mul_comm 10 _ ▸ bound)
      · right
        refine ⟨congrArg Nat.digitChar sameDigit, ?_⟩
        apply induction _ (Nat.mod_lt _ positive)
        have split := Nat.div_add_mod number (10 ^ width)
        have splitOther := Nat.div_add_mod other (10 ^ width)
        rw [sameDigit] at split
        omega

theorem zeroFilled_append_lt {width number other : Nat} (less : number < other)
    (bound : other < 10 ^ width) (rest : List Char) :
    zeroFilled width number ++ rest < zeroFilled width other ++ rest := by
  rw [zeroFilled, zeroFilled, if_pos bound, if_pos (less.trans bound)]
  exact fixedDigits_append_lt less bound rest rest

theorem insertionSort_eq_of_perm {name : Nat → List Char} {names : List (List Char)}
    {count : Nat} (less : ∀ number other, number < other → other < count → name number < name other)
    (perm : names.Perm ((List.range count).map name)) :
    names.insertionSort (· ≤ ·) = (List.range count).map name := by
  have sorted : ((List.range count).map name).Pairwise (· ≤ ·) := by
    rw [List.pairwise_map]
    apply List.pairwise_lt_range.imp_of_mem
    intro number other _ member before
    exact (less number other before (List.mem_range.mp member)).le
  exact ((List.perm_insertionSort _ _).trans perm).eq_of_pairwise'
    (List.pairwise_insertionSort _ _) sorted

/-! ## Parts -/

section Parts

variable {Row : Type} {rows : List Row} {size index : Nat}

def part (rows : List Row) (size index : Nat) : List Row := (rows.drop (index * size)).take size

def partCount (rows : List Row) (size : Nat) : Nat := (rows.length + size - 1) / size

theorem lt_partCount_iff (positive : 0 < size) :
    index < partCount rows size ↔ index * size < rows.length := by
  rw [partCount, Nat.lt_iff_add_one_le, Nat.le_div_iff_mul_le positive, Nat.add_mul, Nat.one_mul]
  omega

theorem part_ne_nil (positive : 0 < size) (early : index < partCount rows size) :
    part rows size index ≠ [] := by
  rw [lt_partCount_iff positive] at early
  intro empty
  have length := congrArg List.length empty
  rw [part, List.length_take, List.length_drop, List.length_nil] at length
  omega

theorem partCount_eq_zero_iff (positive : 0 < size) : partCount rows size = 0 ↔ rows = [] := by
  constructor
  · intro none
    have no : ¬0 < partCount rows size := by omega
    rw [lt_partCount_iff positive, Nat.zero_mul, Nat.not_lt, Nat.le_zero] at no
    exact List.eq_nil_of_length_eq_zero no
  · intro same
    subst same
    rw [partCount]
    exact Nat.div_eq_of_lt (by simp; omega)

theorem flatMap_part_range (rows : List Row) (size count : Nat) :
    (List.range count).flatMap (part rows size) = rows.take (count * size) := by
  induction count with
  | zero => simp
  | succ count induction =>
      rw [List.range_succ, List.flatMap_append, induction, Nat.succ_mul, List.take_add]
      simp [part]

theorem map_part {Out : Type} (rows : List Row) (size index : Nat) (change : Row → Out) :
    (part rows size index).map change = part (rows.map change) size index := by
  rw [part, part, List.map_take, List.map_drop]

theorem flatMap_part (rows : List Row) (positive : 0 < size) :
    (List.range (partCount rows size)).flatMap (part rows size) = rows := by
  rw [flatMap_part_range, List.take_of_length_le]
  have last : ¬partCount rows size < partCount rows size := Nat.lt_irrefl _
  rw [lt_partCount_iff positive] at last
  omega

end Parts

end ChatsEngine
