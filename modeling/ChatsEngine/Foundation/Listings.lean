import ChatsEngine.Foundation.Keyset

/-! # Listings of a query

A query asks for rows by a key, and rows whose keys are the same are listed in any order, which
may be another one each time. Two queries for the same rows list them alike, whatever is
chosen, as far as both keys tell any two rows apart in the same way. -/

namespace ChatsEngine

structure OrderedQuery (Row : Type u) (Key : Type v) where
  rows : List Row
  key : Row → Key

def OrderedQuery.unordered {Row : Type u} (rows : List Row) : OrderedQuery Row Unit where
  rows := rows
  key := fun _ => ()

namespace OrderedQuery

variable {Row : Type u} {Key : Type v} {Other : Type w} [LinearOrder Key] [LinearOrder Other]
  {query : OrderedQuery Row Key} {listed : List Row} {first second : Row}

structure Lists (query : OrderedQuery Row Key) (listed : List Row) : Prop where
  perm : listed.Perm query.rows
  ordered : listed.Pairwise fun before after => query.key before ≤ query.key after

theorem Lists.mem_iff (lists : query.Lists listed) : first ∈ listed ↔ first ∈ query.rows :=
  lists.perm.mem_iff

theorem Lists.nodup (lists : query.Lists listed) (distinct : query.rows.Nodup) : listed.Nodup :=
  lists.perm.nodup_iff.mpr distinct

theorem lists_orderBy (query : OrderedQuery Row Key) :
    query.Lists (Keyset.orderBy query.key query.rows) :=
  ⟨Keyset.orderBy_perm _ _, Keyset.orderBy_ordered _ _⟩

theorem Lists.eq_of_strict (lists : query.Lists listed) {others : List Row}
    (perm : others.Perm query.rows)
    (strict : others.Pairwise fun before after => query.key before < query.key after) :
    listed = others := by
  have apart : (others.map query.key).Nodup :=
    (List.pairwise_map.mpr strict).imp fun less => less.ne
  apply (lists.perm.trans perm.symm).eq_of_pairwise _ lists.ordered (strict.imp le_of_lt)
  intro row other isRow isOther le ge
  exact List.inj_on_of_nodup_map apart ((lists.perm.trans perm.symm).mem_iff.mp isRow) isOther
    (le_antisymm le ge)

theorem Lists.eq_of_one (lists : query.Lists listed)
    (one : ∀ first ∈ query.rows, ∀ second ∈ query.rows, first = second) : listed = query.rows := by
  have trivially (rows : List Row) : rows.Pairwise fun _ _ => True :=
    List.pairwise_of_forall fun _ _ => trivial
  apply lists.perm.eq_of_pairwise _ (trivially _) (trivially _)
  intro first second isFirst isSecond _ _
  exact one first (lists.mem_iff.mp isFirst) second isSecond

/-- The second row is nowhere before the first one. -/
def Precedes (first second : Row) (listed : List Row) : Prop :=
  listed.Pairwise fun before after => ¬(before = second ∧ after = first)

theorem not_precedes_both (isFirst : first ∈ listed) (isSecond : second ∈ listed)
    (different : first ≠ second) (forward : Precedes first second listed) :
    ¬Precedes second first listed := by
  intro backward
  have : Std.Symm fun before after : Row =>
      ¬(before = second ∧ after = first) ∧ ¬(before = first ∧ after = second) :=
    ⟨fun before after neither => by simpa only [and_comm] using neither⟩
  have neither := (forward.and backward).forall isFirst isSecond different
  exact neither.2 ⟨rfl, rfl⟩

theorem Lists.precedes_of_lt (lists : query.Lists listed)
    (less : query.key first < query.key second) : Precedes first second listed := by
  apply lists.ordered.imp
  rintro before after le ⟨rfl, rfl⟩
  exact absurd less (not_lt_of_ge le)

theorem Precedes.append_of_notMem_left {front : List Row} (absent : second ∉ front)
    (precedes : Precedes first second listed) : Precedes first second (front ++ listed) := by
  refine List.pairwise_append.mpr ⟨?_, precedes, ?_⟩
  · apply List.pairwise_of_forall_mem_list
    rintro before isBefore after _ ⟨rfl, _⟩
    exact absent isBefore
  · rintro before isBefore after _ ⟨rfl, _⟩
    exact absent isBefore

theorem Precedes.append_of_notMem_right {rest : List Row} (absent : first ∉ rest)
    (precedes : Precedes first second listed) : Precedes first second (listed ++ rest) := by
  refine List.pairwise_append.mpr ⟨precedes, ?_, ?_⟩
  · apply List.pairwise_of_forall_mem_list
    rintro before _ after isAfter ⟨_, rfl⟩
    exact absent isAfter
  · rintro before _ after isAfter ⟨_, rfl⟩
    exact absent isAfter

theorem Precedes.idxOf_lt {Value : Type t} [DecidableEq Value] {value : Row → Value}
    (precedes : Precedes first second listed) (distinct : (listed.map value).Nodup)
    (isFirst : first ∈ listed) (isSecond : second ∈ listed) (different : first ≠ second) :
    (listed.map value).idxOf (value first) < (listed.map value).idxOf (value second) := by
  induction listed with
  | nil => cases isFirst
  | cons head tail induction =>
      rcases List.pairwise_cons.mp precedes with ⟨fromHead, inTail⟩
      rw [List.map_cons, List.nodup_cons] at distinct
      have other {row : Row} (later : row ∈ tail) : value head ≠ value row := fun same =>
        distinct.1 (same ▸ List.mem_map_of_mem later)
      rcases List.mem_cons.mp isSecond with rfl | secondLater
      · rcases List.mem_cons.mp isFirst with same | firstLater
        · exact absurd same different
        · exact absurd ⟨rfl, rfl⟩ (fromHead first firstLater)
      · rw [List.map_cons, List.idxOf_cons_ne _ (other secondLater)]
        rcases List.mem_cons.mp isFirst with rfl | firstLater
        · rw [List.idxOf_cons_self]
          omega
        · rw [List.idxOf_cons_ne _ (other firstLater)]
          exact Nat.succ_lt_succ (induction inTail distinct.2 firstLater secondLater)

theorem exists_precedes [DecidableEq Row] (different : first ≠ second)
    (inOrder : query.key first ≤ query.key second) :
    ∃ listed, query.Lists listed ∧ Precedes first second listed := by
  let key : Row → Key ×ₗ Nat := fun row => toLex (query.key row, if row = first then 0 else 1)
  refine ⟨Keyset.orderBy key query.rows, ⟨Keyset.orderBy_perm _ _, ?_⟩, ?_⟩
  · apply (Keyset.orderBy_ordered key query.rows).imp
    intro before after le
    rcases Prod.Lex.toLex_le_toLex.mp le with less | ⟨same, _⟩
    · exact less.le
    · exact same.le
  · apply (Keyset.orderBy_ordered key query.rows).imp
    rintro before after le ⟨rfl, rfl⟩
    rcases Prod.Lex.toLex_le_toLex.mp le with less | ⟨_, tie⟩
    · exact absurd inOrder (not_le_of_gt less)
    · rw [if_neg different.symm, if_pos rfl] at tie
      omega

section Comparison

variable {given asked : List Row → Prop} {own next : Key} {other following : Other}

theorem lt_of_forward
    (same : ∀ listed others, given listed → asked others → listed = others)
    (members : ∀ listed, given listed → first ∈ listed ∧ second ∈ listed)
    (different : first ≠ second)
    (forward : own ≤ next → ∃ listed, given listed ∧ Precedes first second listed)
    (backward : next ≤ own → ∃ listed, given listed ∧ Precedes second first listed)
    (forward' : other ≤ following → ∃ listed, asked listed ∧ Precedes first second listed)
    (backward' : following ≤ other → ∃ listed, asked listed ∧ Precedes second first listed)
    (inOrder : own ≤ next) : own < next ∧ other < following := by
  rcases forward inOrder with ⟨listed, isGiven, precedes⟩
  rcases members listed isGiven with ⟨isFirst, isSecond⟩
  have less : other < following := by
    by_contra notLess
    rcases backward' (le_of_not_gt notLess) with ⟨others, isAsked, follows⟩
    rw [← same listed others isGiven isAsked] at follows
    exact not_precedes_both isFirst isSecond different precedes follows
  refine ⟨?_, less⟩
  by_contra notLess
  rcases backward (le_of_not_gt notLess) with ⟨swapped, isGiven', follows⟩
  rcases forward' less.le with ⟨others, isAsked, precedes'⟩
  rw [← same swapped others isGiven' isAsked] at precedes'
  rcases members swapped isGiven' with ⟨isFirst', isSecond'⟩
  exact not_precedes_both isFirst' isSecond' different precedes' follows

theorem strict_of_same
    (same : ∀ listed others, given listed → asked others → listed = others)
    (members : ∀ listed, given listed → first ∈ listed ∧ second ∈ listed)
    (different : first ≠ second)
    (forward : own ≤ next → ∃ listed, given listed ∧ Precedes first second listed)
    (backward : next ≤ own → ∃ listed, given listed ∧ Precedes second first listed)
    (forward' : other ≤ following → ∃ listed, asked listed ∧ Precedes first second listed)
    (backward' : following ≤ other → ∃ listed, asked listed ∧ Precedes second first listed) :
    own < next ∧ other < following ∨ next < own ∧ following < other := by
  rcases le_total own next with inOrder | inOrder
  · exact .inl (lt_of_forward same members different forward backward forward' backward' inOrder)
  · exact .inr (lt_of_forward same (fun listed isGiven => (members listed isGiven).symm)
      different.symm backward forward backward' forward' inOrder)

end Comparison

end OrderedQuery

end ChatsEngine
