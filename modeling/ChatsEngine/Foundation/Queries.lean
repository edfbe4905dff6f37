import Mathlib.Data.List.Dedup
import Mathlib.Data.List.Perm.Basic
import Mathlib.Data.List.Sort
import Mathlib.Algebra.Order.Ring.Int

/-! # Queries with joins

A joined table lists a row once for each way in which it is joined, so that what
a query counts and what it groups has to be told apart from how often it is
listed. -/

namespace ChatsEngine.Query

variable {Left Right Row Key Value : Type}

def leftJoin (left : List Left) (right : Left → List Right) : List (Left × Option Right) :=
  left.flatMap fun row =>
    match right row with
    | [] => [(row, none)]
    | joined => joined.map fun other => (row, some other)

theorem mem_leftJoin_some_iff {left : List Left} {right : Left → List Right} {row : Left}
    {other : Right} :
    (row, some other) ∈ leftJoin left right ↔ row ∈ left ∧ other ∈ right row := by
  rw [leftJoin, List.mem_flatMap]
  constructor
  · intro joined
    rcases joined with ⟨listed, member, found⟩
    split at found
    · simp at found
    · rcases List.mem_map.mp found with ⟨_, isRight, same⟩
      cases same
      exact ⟨member, isRight⟩
  · intro joined
    rcases joined with ⟨member, isRight⟩
    refine ⟨row, member, ?_⟩
    split
    · next none => simp [none] at isRight
    · exact List.mem_map_of_mem isRight

theorem exists_mem_leftJoin_iff {left : List Left} {right : Left → List Right} {row : Left} :
    (∃ joined ∈ leftJoin left right, joined.1 = row) ↔ row ∈ left := by
  constructor
  · intro kept
    rcases kept with ⟨joined, member, rfl⟩
    rcases List.mem_flatMap.mp member with ⟨listed, isLeft, found⟩
    split at found
    · rw [List.mem_singleton] at found
      subst found
      exact isLeft
    · rcases List.mem_map.mp found with ⟨_, _, rfl⟩
      exact isLeft
  · intro isLeft
    cases joined : right row with
    | nil =>
        refine ⟨(row, none), List.mem_flatMap.mpr ⟨row, isLeft, ?_⟩, rfl⟩
        simp [joined]
    | cons other others =>
        have isRight : other ∈ right row := by simp [joined]
        exact ⟨_, mem_leftJoin_some_iff.mpr ⟨isLeft, isRight⟩, rfl⟩

theorem countP_leftJoin {left : List Left} {right : Left → List Right}
    (once : ∀ row ∈ left, (right row).length ≤ 1) (keeps : Left × Option Right → Bool) :
    (leftJoin left right).countP keeps =
      left.countP fun row => keeps (row, (right row).head?) := by
  induction left with
  | nil => rfl
  | cons row rows induction =>
      have rest := induction fun other member => once other (List.mem_cons_of_mem row member)
      have here := once row List.mem_cons_self
      rw [leftJoin, List.flatMap_cons, List.countP_append, ← leftJoin, rest, List.countP_cons,
        Nat.add_comm]
      congr 1
      cases joined : right row with
      | nil => by_cases kept : keeps (row, none) <;> simp [kept]
      | cons other others =>
          have alone : others = [] := by
            rw [joined, List.length_cons] at here
            exact List.length_eq_zero_iff.mp (by omega)
          by_cases kept : keeps (row, some other) <;> simp [alone, kept]

theorem filter_leftJoin [DecidableEq Left] {left : List Left} {right : Left → List Right}
    {row : Left} (distinct : left.Nodup) (listed : row ∈ left) :
    (leftJoin left right).filter (fun joined => joined.1 = row) = leftJoin [row] right := by
  have own : ∀ first, (leftJoin [first] right).filter (fun joined => joined.1 = row) =
      if first = row then leftJoin [first] right else [] := by
    intro first
    have same : ∀ joined ∈ leftJoin [first] right, joined.1 = first := by
      intro joined member
      exact List.mem_singleton.mp (exists_mem_leftJoin_iff.mp ⟨joined, member, rfl⟩)
    split
    · next isRow =>
        apply List.filter_eq_self.mpr
        intro joined member
        exact decide_eq_true ((same joined member).trans isRow)
    · next different =>
        apply List.filter_eq_nil_iff.mpr
        intro joined member isRow
        exact different ((same joined member).symm.trans (of_decide_eq_true isRow))
  have split : ∀ first rest, leftJoin (first :: rest) right =
      leftJoin [first] right ++ leftJoin rest right := by
    intro first rest
    rw [leftJoin, leftJoin, leftJoin, List.flatMap_cons, List.flatMap_singleton]
  induction left with
  | nil => cases listed
  | cons first rest induction =>
      rw [List.nodup_cons] at distinct
      rw [split, List.filter_append, own]
      rcases List.mem_cons.mp listed with rfl | later
      · have absent : (leftJoin rest right).filter (fun joined => joined.1 = row) = [] := by
          apply List.filter_eq_nil_iff.mpr
          intro joined member isRow
          apply distinct.1
          exact exists_mem_leftJoin_iff.mp ⟨joined, member, of_decide_eq_true isRow⟩
        rw [absent, if_pos rfl, List.append_nil]
      · rw [induction distinct.2 later, if_neg (ne_of_mem_of_not_mem later distinct.1).symm,
          List.nil_append]

theorem filter_filter_eq (rows : List Row) (First Second : Row → Prop) [DecidablePred First]
    [DecidablePred Second] :
    (rows.filter fun row => First row).filter (fun row => Second row) =
      rows.filter fun row => First row ∧ Second row := by
  rw [List.filter_filter]
  apply List.filter_congr
  intro row _
  rw [Bool.decide_and, Bool.and_comm]

def innerJoin (left : List Left) (right : Left → List Right) : List (Left × Right) :=
  left.flatMap fun row => (right row).map fun other => (row, other)

theorem map_fst_filter_innerJoin (left : List Left) (right : Left → List Right)
    (keeps : Right → Bool) :
    ((innerJoin left right).filter fun joined => keeps joined.2).map Prod.fst =
      left.flatMap fun row => List.replicate ((right row).countP keeps) row := by
  induction left with
  | nil => rfl
  | cons row rows induction =>
      rw [innerJoin, List.flatMap_cons, List.filter_append, List.map_append, ← innerJoin, induction,
        List.flatMap_cons]
      congr 1
      rw [List.filter_map, List.map_map, List.countP_eq_length_filter]
      exact List.map_const'

theorem filter_flatMap_of_owner [DecidableEq Left] {left : List Left} (distinct : left.Nodup)
    {rows : Left → List Row} {owner : Row → Left} (owned : ∀ own, ∀ row ∈ rows own, owner row = own)
    (own : Left) :
    ((left.flatMap rows).filter fun row => owner row = own) =
      if own ∈ left then rows own else [] := by
  induction left with
  | nil => rfl
  | cons first others induction =>
      rcases List.nodup_cons.mp distinct with ⟨once, rest⟩
      rw [List.flatMap_cons, List.filter_append, induction rest]
      by_cases same : own = first
      · subst same
        have all : ((rows own).filter fun row => owner row = own) = rows own :=
          List.filter_eq_self.mpr fun row member => decide_eq_true (owned own row member)
        rw [all, if_neg once, if_pos List.mem_cons_self, List.append_nil]
      · have none : ((rows first).filter fun row => owner row = own) = [] := by
          apply List.filter_eq_nil_iff.mpr
          intro row member selected
          exact same ((of_decide_eq_true selected).symm.trans (owned first row member))
        rw [none, List.nil_append]
        simp [same]

/-! ## Rows that are listed several times -/

theorem length_filter_dedup [DecidableEq Row] (rows : List Row) (selects : Row → Bool) :
    (rows.dedup.filter selects).length = (rows.filter selects).dedup.length := by
  apply List.Perm.length_eq
  apply (List.perm_ext_iff_of_nodup ((List.nodup_dedup rows).filter _) (List.nodup_dedup _)).mpr
  intro row
  simp only [List.mem_filter, List.mem_dedup]

theorem length_flatMap_replicate (rows : List Row) (times : Row → Nat) :
    (rows.flatMap fun row => List.replicate (times row) row).length =
      (rows.map times).sum := by
  simp [List.length_flatMap]

theorem sum_map_filter (rows : List Row) (selects : Row → Bool) (times : Row → Nat) :
    ((rows.filter selects).map times).sum =
      (rows.map fun row => if selects row then times row else 0).sum := by
  induction rows with
  | nil => rfl
  | cons row rows induction =>
      by_cases selected : selects row = true <;> simp [selected, induction]

/-- A sum of amounts is the number of the rows that count, exactly when each of these
adds one and the others nothing. -/
theorem sum_eq_countP_iff {rows : List Row} {times : Row → Nat} {counts : Row → Bool}
    (atLeast : ∀ row ∈ rows, counts row = true → 1 ≤ times row) :
    (rows.map times).sum = rows.countP counts ↔
      ∀ row ∈ rows, times row = if counts row then 1 else 0 := by
  have bounded : ∀ others : List Row, (∀ row ∈ others, counts row = true → 1 ≤ times row) →
      others.countP counts ≤ (others.map times).sum := by
    intro others enough
    induction others with
    | nil => simp
    | cons row others induction =>
        have rest := induction fun other member => enough other (List.mem_cons_of_mem row member)
        have here := enough row List.mem_cons_self
        rw [List.countP_cons, List.map_cons, List.sum_cons]
        split
        · next counted =>
            have one := here counted
            omega
        · omega
  induction rows with
  | nil => simp
  | cons row rows induction =>
      have rest := bounded rows fun other member => atLeast other (List.mem_cons_of_mem row member)
      have here := atLeast row List.mem_cons_self
      have others := induction fun other member =>
        atLeast other (List.mem_cons_of_mem row member)
      rw [List.map_cons, List.sum_cons, List.countP_cons, List.forall_mem_cons]
      apply Iff.trans _ (and_congr_right fun _ => others)
      by_cases counted : counts row = true
      · have one := here counted
        simp only [counted, if_true]
        omega
      · simp only [counted]
        simp only [Bool.false_eq_true, if_false]
        omega

section Group

variable [DecidableEq Key]

/-- `GROUP BY` a key, `HAVING` what is asked of the rows of its group. -/
def groupsHaving (key : Row → Key) (Keeps : Key → List Row → Prop)
    [∀ value rows, Decidable (Keeps value rows)] (rows : List Row) : List Key :=
  (rows.map key).dedup.filter fun value => Keeps value (rows.filter fun row => key row = value)

theorem mem_groupsHaving_iff {key : Row → Key} {Keeps : Key → List Row → Prop}
    [∀ value rows, Decidable (Keeps value rows)] {rows : List Row} {value : Key} :
    value ∈ groupsHaving key Keeps rows ↔
      (∃ row ∈ rows, key row = value) ∧
        Keeps value (rows.filter fun row => key row = value) := by
  simp [groupsHaving]

end Group

/-- `COUNT(*)` of each group. -/
def groupCounts [DecidableEq Key] (key : Row → Key) (rows : List Row) : List (Key × Nat) :=
  (rows.map key).dedup.map fun value => (value, rows.countP fun row => key row = value)

/-- The count of a group, and zero if it is not listed. -/
def countOf [DecidableEq Key] (counts : List (Key × Nat)) (value : Key) : Nat :=
  (counts.lookup value).getD 0

theorem countOf_groupCounts [DecidableEq Key] (key : Row → Key) (rows : List Row) (value : Key) :
    countOf (groupCounts key rows) value = rows.countP fun row => key row = value := by
  have found : ∀ keys : List Key, (keys.map fun own =>
      (own, rows.countP fun row => key row = own)).lookup value =
        if value ∈ keys then some (rows.countP fun row => key row = value) else none := by
    intro keys
    induction keys with
    | nil => rfl
    | cons first keys induction =>
        rw [List.map_cons, List.lookup_cons, induction]
        by_cases same : value = first
        · simp [same]
        · simp [beq_false_of_ne same, same]
  rw [countOf, groupCounts, found]
  split
  · rfl
  · next absent =>
      rw [List.mem_dedup] at absent
      symm
      apply List.countP_eq_zero.mpr
      intro row member isGroup
      exact absent (List.mem_map.mpr ⟨row, member, of_decide_eq_true isGroup⟩)

/-- `COUNT(DISTINCT …)` over the rows that have a value. -/
def countDistinct [DecidableEq Value] (value : Row → Option Value) (rows : List Row) : Nat :=
  (rows.filterMap value).dedup.length

theorem countDistinct_eq_length [DecidableEq Value] {value : Row → Option Value}
    {rows : List Row} {values : List Value} (distinct : values.Nodup)
    (listed : ∀ one, (∃ row ∈ rows, value row = some one) ↔ one ∈ values) :
    countDistinct value rows = values.length := by
  have same : (rows.filterMap value).dedup.Perm values := by
    rw [List.perm_ext_iff_of_nodup (List.nodup_dedup _) distinct]
    intro one
    rw [List.mem_dedup, List.mem_filterMap]
    exact listed one
  exact same.length_eq

theorem countDistinct_flatMap_replicate [DecidableEq Value] {value : Row → Option Value}
    {rows : List Row} (distinct : (rows.filterMap value).Nodup) (times : Row → Nat) :
    countDistinct value (rows.flatMap fun row => List.replicate (times row) row) =
      rows.countP fun row => (value row).isSome && decide (0 < times row) := by
  have listed : ((rows.filter fun row => decide (0 < times row)).filterMap value).Nodup :=
    distinct.sublist (List.filter_sublist.filterMap _)
  rw [countDistinct_eq_length listed]
  · rw [List.length_filterMap_eq_countP, List.countP_filter]
  · intro one
    simp only [List.mem_flatMap, List.mem_replicate, List.mem_filterMap, List.mem_filter,
      decide_eq_true_eq]
    constructor
    · intro given
      rcases given with ⟨row, ⟨source, member, some_times, rfl⟩, same⟩
      exact ⟨row, ⟨member, Nat.pos_of_ne_zero some_times⟩, same⟩
    · intro given
      rcases given with ⟨row, ⟨member, positive⟩, same⟩
      exact ⟨row, ⟨row, member, Nat.ne_of_gt positive, rfl⟩, same⟩

/-- `LIMIT 1` of a query without an order, which may be any of its rows. -/
structure AnyRow (Row : Type) where
  pick : List Row → Option Row
  mem : ∀ {rows row}, pick rows = some row → row ∈ rows
  isSome : ∀ {rows}, rows ≠ [] → (pick rows).isSome

def AnyRow.first : AnyRow Row where
  pick := List.head?
  mem := List.mem_of_head?
  isSome := by
    intro rows some
    cases rows with
    | nil => exact absurd rfl some
    | cons row rest => rfl

theorem AnyRow.pick_eq_head? (anyRow : AnyRow Row) {rows : List Row}
    (atMostOne : rows.length ≤ 1) : anyRow.pick rows = rows.head? := by
  cases rows with
  | nil =>
      cases picked : anyRow.pick [] with
      | none => rfl
      | some row => cases anyRow.mem picked
  | cons first rest =>
      have alone : rest = [] := by
        rw [List.length_cons] at atMostOne
        exact List.length_eq_zero_iff.mp (by omega)
      subst alone
      rcases Option.isSome_iff_exists.mp (anyRow.isSome (List.cons_ne_nil first [])) with
        ⟨row, picked⟩
      have same : row = first := by simpa using anyRow.mem picked
      rw [picked, same, List.head?_cons]

end ChatsEngine.Query
