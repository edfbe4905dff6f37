import Mathlib.Data.List.AList
import Mathlib.Data.List.Perm.Subperm

/-! # Tables with a primary key -/

namespace ChatsEngine

/-- The rows of a table, each under a key of its own. -/
abbrev Table (Key Row : Type) := AList fun _ : Key => Row

namespace Table

variable {Key Row : Type} [DecidableEq Key] {table : Table Key Row} {key other : Key}
  {row found : Row}

theorem mem_entries_iff {entry : (_ : Key) × Row} :
    entry ∈ table.entries ↔ table.lookup entry.1 = some entry.2 :=
  AList.mem_lookup_iff.symm

theorem filter_entries_erase (selects : ((_ : Key) × Row) → Prop) [DecidablePred selects]
    (spared : ∀ row ∈ table.lookup key, ¬selects ⟨key, row⟩) :
    (table.erase key).entries.filter (fun entry => selects entry) =
      table.entries.filter (fun entry => selects entry) := by
  change (List.kerase key table.entries).filter _ = _
  by_cases present : key ∈ table.entries.keys
  · rcases List.exists_of_kerase present with ⟨found, first, last, _, entries, erased⟩
    have entry : (⟨key, found⟩ : (_ : Key) × Row) ∈ table.entries := by
      rw [entries]
      exact List.mem_append_right first List.mem_cons_self
    have notSelected := spared found (mem_entries_iff.mp entry)
    rw [erased, entries, List.filter_append, List.filter_append,
      List.filter_cons_of_neg (by simpa using notSelected)]
  · rw [List.kerase_of_notMem_keys present]

theorem filter_entries_insert (selects : ((_ : Key) × Row) → Prop) [DecidablePred selects]
    (spared : ¬selects ⟨key, row⟩) (old : ∀ row ∈ table.lookup key, ¬selects ⟨key, row⟩) :
    (table.insert key row).entries.filter (fun entry => selects entry) =
      table.entries.filter (fun entry => selects entry) := by
  rw [AList.entries_insert, List.filter_cons_of_neg (by simpa using spared)]
  exact filter_entries_erase selects old

theorem keys_insert_of_notMem (absent : key ∉ table) :
    (table.insert key row).keys = key :: table.keys := by
  rw [AList.keys_insert, List.erase_of_not_mem]
  exact absent

omit [DecidableEq Key] in
theorem nodup_keys_filter (table : Table Key Row) (selects : ((_ : Key) × Row) → Bool) :
    ((table.entries.filter selects).map Sigma.fst).Nodup :=
  (List.filter_sublist.map Sigma.fst).nodup table.keys_nodup

theorem perm_keys_filter_mem {keys : List Key} (distinct : keys.Nodup)
    (stored : ∀ key ∈ keys, key ∈ table) :
    ((table.entries.filter fun entry => entry.1 ∈ keys).map Sigma.fst).Perm keys := by
  rw [List.perm_ext_iff_of_nodup (nodup_keys_filter table _) distinct]
  intro key
  constructor
  · intro isKey
    rcases List.mem_map.mp isKey with ⟨entry, selected, rfl⟩
    exact of_decide_eq_true (List.mem_filter.mp selected).2
  · intro isKey
    rcases List.mem_map.mp (stored key isKey) with ⟨entry, member, rfl⟩
    exact List.mem_map_of_mem (List.mem_filter.mpr ⟨member, decide_eq_true isKey⟩)

omit [DecidableEq Key] in
theorem nodup_filterMap_key (table : Table Key Row) (selects : ((_ : Key) × Row) → Prop)
    [DecidablePred selects] :
    (table.entries.filterMap fun entry => if selects entry then some entry.1 else none).Nodup := by
  have keys : table.entries.Pairwise fun entry other => entry.1 ≠ other.1 :=
    List.pairwise_map.mp table.keys_nodup
  rw [List.Nodup]
  apply List.Pairwise.filterMap _ _ keys
  intro entry other different key selected otherKey otherSelected same
  apply different
  split at selected <;> split at otherSelected <;> simp_all

theorem lookup_insert_iff :
    (table.insert key row).lookup other = some found ↔
      other = key ∧ found = row ∨ other ≠ key ∧ table.lookup other = some found := by
  by_cases same : other = key
  · subst same
    rw [AList.lookup_insert]
    constructor
    · intro stored
      exact .inl ⟨rfl, (Option.some.inj stored).symm⟩
    · intro either
      rcases either with ⟨_, rfl⟩ | ⟨different, _⟩
      · rfl
      · exact absurd rfl different
  · rw [AList.lookup_insert_ne same]
    simp [same]

def modify (table : Table Key Row) (key : Key) (change : Row → Row) : Table Key Row :=
  match table.lookup key with
  | none => table
  | some row => table.insert key (change row)

theorem lookup_modify_iff {change : Row → Row} {own : Key} :
    (table.modify key change).lookup own = some found ↔
      own = key ∧ (∃ row ∈ table.lookup key, found = change row) ∨
        own ≠ key ∧ table.lookup own = some found := by
  rw [modify]
  split
  · next absent =>
      by_cases same : own = key
      · subst same
        simp [absent]
      · simp [same]
  · next row stored =>
      rw [lookup_insert_iff]
      simp [stored]

theorem lookup_modify_ne {change : Row → Row} (different : other ≠ key) :
    (table.modify key change).lookup other = table.lookup other := by
  apply Option.ext
  intro row
  rw [lookup_modify_iff]
  simp [different]

def count (table : Table Key Row) (Counted : Row → Prop) [DecidablePred Counted] : Nat :=
  table.entries.countP fun entry => Counted entry.2

section Count

variable (table : Table Key Row) (Counted : Row → Prop) [DecidablePred Counted]

theorem count_erase (key : Key) :
    table.count Counted =
      count (table.erase key) Counted +
        if ∃ old ∈ table.lookup key, Counted old then 1 else 0 := by
  by_cases present : key ∈ table.keys
  · rcases List.exists_of_kerase (AList.mem_keys.mp present) with
      ⟨old, before, after, _, entries, erased⟩
    have stored : table.lookup key = some old :=
      mem_entries_iff.mp (entries ▸ List.mem_append_right before List.mem_cons_self)
    have split : table.entries.Perm (⟨key, old⟩ :: (table.erase key).entries) := by
      rw [entries, show (table.erase key).entries = before ++ after from erased]
      exact List.perm_middle
    rw [count, split.countP_eq, List.countP_cons, count, stored]
    simp
  · have absent : table.lookup key = none := AList.lookup_eq_none.mpr present
    have erased : (table.erase key).entries = table.entries :=
      List.kerase_of_notMem_keys present
    rw [count, count, erased, absent]
    simp

theorem count_insert (key : Key) (row : Row) :
    count (table.insert key row) Counted +
        (if ∃ old ∈ table.lookup key, Counted old then 1 else 0) =
      table.count Counted + if Counted row then 1 else 0 := by
  have inserted : count (table.insert key row) Counted =
      count (table.erase key) Counted + if Counted row then 1 else 0 := by
    have erased : (table.erase key).entries = List.kerase key table.entries := rfl
    rw [count, AList.entries_insert, List.countP_cons, count, erased]
    simp
  rw [inserted, count_erase table Counted key]
  omega

omit [DecidableEq Key] in
theorem count_congr {Other : Row → Prop} [DecidablePred Other]
    (same : ∀ row, Counted row ↔ Other row) : table.count Counted = table.count Other := by
  apply List.countP_congr
  intro entry _
  simp [same]

omit [DecidableEq Key] in
theorem count_or {Other : Row → Prop} [DecidablePred Other]
    (apart : ∀ row, Counted row → ¬Other row) :
    (table.count fun row => Counted row ∨ Other row) =
      table.count Counted + table.count Other := by
  rw [count, count, count]
  induction table.entries with
  | nil => rfl
  | cons entry entries induction =>
      have notBoth := apart entry.2
      rw [List.countP_cons, List.countP_cons, List.countP_cons, induction]
      by_cases counted : Counted entry.2
      · simp only [counted, notBoth counted, true_or, decide_true, decide_false, if_true,
          Bool.false_eq_true, if_false]
        omega
      · simp only [counted, false_or, decide_false, Bool.false_eq_true, if_false]
        omega

end Count

/-! ## Tables with fewer rows that count -/

section Within

variable {other third : Table Key Row} {Counted : Row → Prop}

/-- Each row that is counted stands for a row under the same key that is counted in the
other table. -/
def Within (table other : Table Key Row) (Counted : Row → Prop) : Prop :=
  ∀ key, ∀ row ∈ table.lookup key, Counted row → ∃ found ∈ other.lookup key, Counted found

namespace Within

theorem refl (table : Table Key Row) (Counted : Row → Prop) : table.Within table Counted :=
  fun _ row stored counted => ⟨row, stored, counted⟩

theorem trans (first : table.Within other Counted) (second : other.Within third Counted) :
    table.Within third Counted := by
  intro key row stored counted
  rcases first key row stored counted with ⟨found, foundStored, foundCounted⟩
  exact second key found foundStored foundCounted

theorem insert_of_not (spared : ¬Counted row) : Within (table.insert key row) table Counted := by
  intro own found stored counted
  rcases lookup_insert_iff.mp stored with ⟨_, rfl⟩ | ⟨_, before⟩
  · exact absurd counted spared
  · exact ⟨found, before, counted⟩

theorem modify {change : Row → Row} (spares : ∀ row, Counted (change row) → Counted row) :
    (table.modify key change).Within table Counted := by
  intro own found stored counted
  rcases lookup_modify_iff.mp stored with ⟨rfl, row, before, rfl⟩ | ⟨_, before⟩
  · exact ⟨row, before, spares row counted⟩
  · exact ⟨found, before, counted⟩

theorem insert (within : table.Within other Counted) (key : Key) (row : Row) :
    Within (AList.insert key row table) (AList.insert key row other) Counted := by
  intro own found stored counted
  rcases lookup_insert_iff.mp stored with ⟨rfl, rfl⟩ | ⟨different, before⟩
  · exact ⟨found, AList.lookup_insert _, counted⟩
  · rcases within own found before counted with ⟨old, oldStored, oldCounted⟩
    exact ⟨old, lookup_insert_iff.mpr (.inr ⟨different, oldStored⟩), oldCounted⟩

theorem modify_both {change : Row → Row} (keeps : ∀ row, Counted (change row) ↔ Counted row)
    (within : table.Within other Counted) (key : Key) :
    (table.modify key change).Within (other.modify key change) Counted := by
  intro own found stored counted
  rcases lookup_modify_iff.mp stored with ⟨rfl, row, before, rfl⟩ | ⟨different, before⟩
  · rcases within own row before ((keeps row).mp counted) with ⟨old, oldStored, oldCounted⟩
    exact ⟨change old, lookup_modify_iff.mpr (.inl ⟨rfl, old, oldStored, rfl⟩),
      (keeps old).mpr oldCounted⟩
  · rcases within own found before counted with ⟨old, oldStored, oldCounted⟩
    exact ⟨old, lookup_modify_iff.mpr (.inr ⟨different, oldStored⟩), oldCounted⟩

theorem erase (within : table.Within other Counted) (key : Key) :
    Within (AList.erase key table) (AList.erase key other) Counted := by
  intro own found stored counted
  by_cases same : own = key
  · subst same
    rw [AList.lookup_erase] at stored
    cases stored
  · rw [AList.lookup_erase_ne same] at stored
    rw [AList.lookup_erase_ne same]
    exact within own found stored counted

variable [DecidablePred Counted]

theorem count_le (within : table.Within other Counted) :
    table.count Counted ≤ other.count Counted := by
  have countedKeys : ∀ table : Table Key Row, table.count Counted =
      ((table.entries.filter fun entry => Counted entry.2).map Sigma.fst).length := by
    intro table
    rw [List.length_map, ← List.countP_eq_length_filter, count]
  have nodup : ((table.entries.filter fun entry => Counted entry.2).map Sigma.fst).Nodup :=
    table.keys_nodup.sublist (List.filter_sublist.map _)
  rw [countedKeys, countedKeys]
  apply (List.subperm_of_subset nodup ?_).length_le
  intro key listed
  rcases List.mem_map.mp listed with ⟨entry, filtered, rfl⟩
  rcases List.mem_filter.mp filtered with ⟨member, counted⟩
  rcases within entry.1 entry.2 (mem_entries_iff.mp member) (of_decide_eq_true counted) with
    ⟨found, stored, foundCounted⟩
  apply List.mem_map.mpr
  exact ⟨⟨entry.1, found⟩,
    List.mem_filter.mpr ⟨mem_entries_iff.mpr stored, decide_eq_true foundCounted⟩, rfl⟩

end Within

end Within

end Table

end ChatsEngine
