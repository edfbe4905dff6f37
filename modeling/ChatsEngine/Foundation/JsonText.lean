import Mathlib.Data.List.Nodup
import Mathlib.Data.List.Sort
import Mathlib.Order.Lex
import Mathlib.Data.List.Lex

/-! # JSON

Values as they are read from JSON, with texts that may be any. A text is the list of its UTF-16
code units, so that half of a surrogate pair, which an escape can write, is a text as well. -/

namespace ChatsEngine.JsonText

/-! ## Texts -/

abbrev CodeUnit := UInt16

abbrev Text := List CodeUnit

def units (char : Char) : Text :=
  if char.toNat < 0x10000 then [UInt16.ofNat char.toNat]
  else
    [UInt16.ofNat (0xD800 + (char.toNat - 0x10000) / 0x400),
      UInt16.ofNat (0xDC00 + (char.toNat - 0x10000) % 0x400)]

def text (string : String) : Text := string.toList.flatMap units

/-- The code points, by which texts are ordered. -/
def codePoints : Text → List Nat
  | [] => []
  | [unit] => [unit.toNat]
  | high :: low :: rest =>
      if 0xD800 ≤ high ∧ high < 0xDC00 ∧ 0xDC00 ≤ low ∧ low < 0xE000 then
        (0x10000 + (high.toNat - 0xD800) * 0x400 + (low.toNat - 0xDC00)) :: codePoints rest
      else high.toNat :: codePoints (low :: rest)

/-! ## Values -/

/-- A value, of which the numbers with a fraction or an exponent are `Real`. -/
inductive Value (Real : Type)
  | null
  | bool (value : Bool)
  | int (value : Int)
  | float (value : Real)
  | string (value : Text)
  | array (values : List (Value Real))
  | object (fields : List (Text × Value Real))

abbrev Fields (Real : Type) := List (Text × Value Real)

variable {Real : Type}

namespace Value

theorem induct {motive : Value Real → Prop} (null : motive .null)
    (bool : ∀ value, motive (.bool value)) (int : ∀ value, motive (.int value))
    (float : ∀ value, motive (.float value)) (string : ∀ value, motive (.string value))
    (array : ∀ values, (∀ value ∈ values, motive value) → motive (.array values))
    (object : ∀ fields : Fields Real, (∀ field ∈ fields, motive field.2) →
      motive (.object fields))
    (value : Value Real) : motive value := by
  apply @Value.rec Real motive (fun values => ∀ value ∈ values, motive value)
    (fun fields => ∀ field ∈ fields, motive field.2) fun field => motive field.2
  · exact null
  · exact bool
  · exact int
  · exact float
  · exact string
  · exact array
  · exact object
  · exact fun _ impossible => absurd impossible List.not_mem_nil
  · intro head tail ofHead ofTail
    exact List.forall_mem_cons.mpr ⟨ofHead, ofTail⟩
  · exact fun _ impossible => absurd impossible List.not_mem_nil
  · intro head tail ofHead ofTail
    exact List.forall_mem_cons.mpr ⟨ofHead, ofTail⟩
  · exact fun _ _ ofValue => ofValue

end Value

/-! ## Fields -/

namespace Fields

def get (fields : Fields Real) (key : Text) : Option (Value Real) :=
  (fields.find? fun field => field.1 = key).map Prod.snd

/-- `fields[key] = value`. A new key comes last. -/
def set (key : Text) (value : Value Real) : Fields Real → Fields Real
  | [] => [(key, value)]
  | field :: fields =>
      if field.1 = key then (key, value) :: fields else field :: set key value fields

/-- `dict(pairs)` -/
def ofPairs (pairs : Fields Real) : Fields Real :=
  pairs.foldl (fun fields pair => set pair.1 pair.2 fields) []

def Distinct (fields : Fields Real) : Prop := (fields.map Prod.fst).Nodup

variable {fields : Fields Real} {key other : Text} {value : Value Real}

theorem get_set_self : (set key value fields).get key = some value := by
  induction fields with
  | nil => simp [set, get]
  | cons field fields induction =>
      rw [set]
      split
      · simp [get]
      · next different =>
          rw [get] at induction ⊢
          rw [List.find?_cons_of_neg (by simpa using different)]
          exact induction

theorem get_set_of_ne (different : other ≠ key) :
    (set key value fields).get other = fields.get other := by
  induction fields with
  | nil => simp [set, get, Ne.symm different]
  | cons field fields induction =>
      rw [set]
      split
      · next same =>
          rw [get, get, List.find?_cons_of_neg (by simpa using Ne.symm different),
            List.find?_cons_of_neg (by simpa [same] using Ne.symm different)]
      · rw [get] at induction ⊢
        rw [get, List.find?_cons, List.find?_cons]
        split
        · rfl
        · exact induction

theorem keys_set :
    (set key value fields).map Prod.fst =
      if key ∈ fields.map Prod.fst then fields.map Prod.fst
      else fields.map Prod.fst ++ [key] := by
  induction fields with
  | nil => simp [set]
  | cons field fields induction =>
      rw [set]
      by_cases same : field.1 = key
      · simp [same]
      · have own : key ≠ field.1 := Ne.symm same
        rw [if_neg same, List.map_cons, List.map_cons, induction]
        by_cases later : key ∈ fields.map Prod.fst
        · rw [if_pos later, if_pos (List.mem_cons_of_mem _ later)]
        · rw [if_neg later, if_neg (by simpa [own] using later)]
          rfl

theorem Distinct.set (distinct : fields.Distinct) (key : Text) (value : Value Real) :
    Distinct (fields.set key value) := by
  rw [Distinct, keys_set]
  split
  · exact distinct
  · next absent =>
      rw [List.nodup_append]
      refine ⟨distinct, List.nodup_singleton key, ?_⟩
      intro own member _ last same
      rw [List.mem_singleton.mp last] at same
      exact absent (same ▸ member)

theorem mem_set {field : Text × Value Real} (member : field ∈ set key value fields) :
    field = (key, value) ∨ field ∈ fields := by
  induction fields with
  | nil => exact .inl (List.mem_singleton.mp member)
  | cons head fields induction =>
      rw [set] at member
      split at member
      · rcases List.mem_cons.mp member with same | later
        · exact .inl same
        · exact .inr (List.mem_cons_of_mem _ later)
      · rcases List.mem_cons.mp member with rfl | later
        · exact .inr List.mem_cons_self
        · rcases induction later with same | before
          · exact .inl same
          · exact .inr (List.mem_cons_of_mem _ before)

theorem set_of_notMem (absent : key ∉ fields.map Prod.fst) :
    set key value fields = fields ++ [(key, value)] := by
  induction fields with
  | nil => rfl
  | cons field fields induction =>
      rw [List.map_cons, List.mem_cons, not_or] at absent
      rw [set, if_neg (Ne.symm absent.1), induction absent.2]
      rfl

theorem ofPairs_induct {motive : Fields Real → Prop} {pairs : Fields Real}
    (empty : motive [])
    (sets : ∀ fields, ∀ pair ∈ pairs, motive fields → motive (set pair.1 pair.2 fields)) :
    motive (ofPairs pairs) :=
  List.foldlRecOn pairs _ empty fun fields holds pair member => sets fields pair member holds

theorem ofPairs_of_distinct (distinct : fields.Distinct) : ofPairs fields = fields := by
  have appended : ∀ rest before : Fields Real, Distinct (before ++ rest) →
      rest.foldl (fun fields pair => set pair.1 pair.2 fields) before = before ++ rest := by
    intro rest
    induction rest with
    | nil => exact fun before _ => (List.append_nil before).symm
    | cons pair rest induction =>
        intro before nodup
        have absent : pair.1 ∉ before.map Prod.fst := by
          rw [Distinct, List.map_append, List.nodup_append] at nodup
          intro member
          exact nodup.2.2 pair.1 member pair.1 (by simp) rfl
        rw [List.foldl_cons, set_of_notMem absent, induction, List.append_assoc]
        · rfl
        · rwa [List.append_assoc]
  exact appended fields [] distinct

end Fields

/-! ## Distinct keys -/

mutual
/-- No object within the value has a key twice. -/
def Value.WellFormed : Value Real → Prop
  | .array values => AllWellFormed values
  | .object fields => Fields.Distinct fields ∧ FieldsWellFormed fields
  | _ => True

def AllWellFormed : List (Value Real) → Prop
  | [] => True
  | value :: values => value.WellFormed ∧ AllWellFormed values

def FieldsWellFormed : Fields Real → Prop
  | [] => True
  | (_, value) :: fields => value.WellFormed ∧ FieldsWellFormed fields
end

theorem allWellFormed_iff {values : List (Value Real)} :
    AllWellFormed values ↔ ∀ value ∈ values, value.WellFormed := by
  induction values with
  | nil => simp [AllWellFormed]
  | cons value values induction => rw [AllWellFormed, induction, List.forall_mem_cons]

theorem fieldsWellFormed_iff {fields : Fields Real} :
    FieldsWellFormed fields ↔ ∀ field ∈ fields, field.2.WellFormed := by
  induction fields with
  | nil => simp [FieldsWellFormed]
  | cons field fields induction => rw [FieldsWellFormed, induction, List.forall_mem_cons]

theorem wellFormed_object_iff {fields : Fields Real} :
    (Value.object fields).WellFormed ↔
      fields.Distinct ∧ ∀ field ∈ fields, field.2.WellFormed := by
  rw [Value.WellFormed, fieldsWellFormed_iff]

theorem wellFormed_set {fields : Fields Real} {key : Text} {value : Value Real}
    (wellFormed : (Value.object fields).WellFormed) (ofValue : value.WellFormed) :
    (Value.object (fields.set key value)).WellFormed := by
  rw [wellFormed_object_iff] at wellFormed ⊢
  refine ⟨wellFormed.1.set key value, ?_⟩
  intro field member
  rcases Fields.mem_set member with rfl | before
  · exact ofValue
  · exact wellFormed.2 field before

theorem wellFormed_ofPairs {pairs : Fields Real} (ofPairs : ∀ pair ∈ pairs, pair.2.WellFormed) :
    (Value.object (Fields.ofPairs pairs)).WellFormed := by
  apply @Fields.ofPairs_induct Real (fun fields => (Value.object fields).WellFormed)
  · exact ⟨List.nodup_nil, trivial⟩
  · exact fun _ pair member wellFormed => wellFormed_set wellFormed (ofPairs pair member)

/-! ## Values with their keys in order -/

/-- `sorted(fields.items())` -/
def sortedByKey (fields : Fields Real) : Fields Real :=
  fields.insertionSort fun left right => codePoints left.1 ≤ codePoints right.1

mutual
def Value.sorted : Value Real → Value Real
  | .array values => .array (allSorted values)
  | .object fields => .object (sortedByKey (fieldsSorted fields))
  | value => value

def allSorted : List (Value Real) → List (Value Real)
  | [] => []
  | value :: values => value.sorted :: allSorted values

def fieldsSorted : Fields Real → Fields Real
  | [] => []
  | (key, value) :: fields => (key, value.sorted) :: fieldsSorted fields
end

theorem allSorted_eq_map (values : List (Value Real)) :
    allSorted values = values.map Value.sorted := by
  induction values with
  | nil => rfl
  | cons value values induction => rw [allSorted, induction, List.map_cons]

theorem fieldsSorted_eq_map (fields : Fields Real) :
    fieldsSorted fields = fields.map fun field => (field.1, field.2.sorted) := by
  induction fields with
  | nil => rfl
  | cons field fields induction => rw [fieldsSorted, induction, List.map_cons]

theorem sortedByKey_perm (fields : Fields Real) : (sortedByKey fields).Perm fields :=
  List.perm_insertionSort _ _

theorem keys_fieldsSorted (fields : Fields Real) :
    (fieldsSorted fields).map Prod.fst = fields.map Prod.fst := by
  rw [fieldsSorted_eq_map, List.map_map]
  rfl

theorem map_sortedByKey (change : Value Real → Value Real) (fields : Fields Real) :
    (sortedByKey fields).map (fun field => (field.1, change field.2)) =
      sortedByKey (fields.map fun field => (field.1, change field.2)) :=
  List.map_insertionSort _ _ _ fields fun _ _ _ _ => Iff.rfl

theorem sortedByKey_sortedByKey (fields : Fields Real) :
    sortedByKey (sortedByKey fields) = sortedByKey fields :=
  (List.pairwise_insertionSort _ fields).insertionSort_eq

theorem sorted_sorted (value : Value Real) : value.sorted.sorted = value.sorted := by
  induction value using Value.induct with
  | null | bool | int | float | string => rfl
  | array values induction =>
      simp only [Value.sorted, allSorted_eq_map, List.map_map]
      congr 1
      exact List.map_congr_left induction
  | object fields induction =>
      simp only [Value.sorted, fieldsSorted_eq_map]
      rw [map_sortedByKey, sortedByKey_sortedByKey, List.map_map]
      congr 2
      apply List.map_congr_left
      intro field member
      exact congrArg (Prod.mk field.1) (induction field member)

theorem wellFormed_sorted {value : Value Real} (wellFormed : value.WellFormed) :
    value.sorted.WellFormed := by
  induction value using Value.induct with
  | null | bool | int | float | string => exact wellFormed
  | array values induction =>
      rw [Value.WellFormed, allWellFormed_iff] at wellFormed
      rw [Value.sorted, Value.WellFormed, allWellFormed_iff, allSorted_eq_map]
      exact List.forall_mem_map.mpr fun value member =>
        induction value member (wellFormed value member)
  | object fields induction =>
      rw [wellFormed_object_iff] at wellFormed
      rw [Value.sorted, wellFormed_object_iff]
      constructor
      · rw [Fields.Distinct, ((sortedByKey_perm _).map Prod.fst).nodup_iff, keys_fieldsSorted]
        exact wellFormed.1
      · intro field member
        rw [(sortedByKey_perm _).mem_iff, fieldsSorted_eq_map] at member
        rcases List.mem_map.mp member with ⟨before, listed, rfl⟩
        exact induction before listed (wellFormed.2 before listed)

/-- Two values that differ in the order of their keys at most. -/
def Same (left right : Value Real) : Prop := left.sorted = right.sorted

theorem Same.refl (value : Value Real) : Same value value := rfl

theorem same_sorted (value : Value Real) : Same value.sorted value := sorted_sorted value

end ChatsEngine.JsonText
